import HermesMesh.Foundation.Machine
import HermesMesh.Python.Dict
import HermesMesh.Python.Text

/-!
# The retry queue of the relay client

`RelayClient` posts every forwarded message to each partner in a task of its own and
queues it once for every partner that did not take it.  `drain_loop` takes the whole
queue and posts each message to the partners in order until one of them takes it.  The
queue does not record which partner a message is for.  Tasks give way to each other
while a request is under way, so a round over the partners is split at its requests.
-/

namespace HermesMesh.Collab

open Python Foundation

/-- A value of `_failure`. -/
structure Outage where
  breakerUntil : ℚ
  fails : Nat

/-- A client over messages that it never looks into.  The queue has room for at least
one message, as that of the client the server makes. -/
structure RelayClient (μ : Type) where
  partners : List PyStr
  maxRetry : Int
  breakSeconds : ℚ
  queueCap : Nat
  queueCap_pos : 0 < queueCap
  failure : Dict PyStr Outage
  queue : List μ

namespace RelayClient

theorem fiveHundred_pos : 0 < 500 := by decide

variable {μ : Type}

/-- `_available` -/
def available (client : RelayClient μ) (url : PyStr) (now : ℚ) : Bool :=
  match client.failure.get? url with
  | none => true
  | some outage => decide ((outage.fails : Int) < client.maxRetry) || decide (outage.breakerUntil < now)

/-- `_mark_ok` -/
def markOk (url : PyStr) (client : RelayClient μ) : RelayClient μ :=
  { client with failure := client.failure.erase url }

/-- The consecutive failures of a partner. -/
def fails (client : RelayClient μ) (url : PyStr) : Nat := (client.failure.get? url).elim 0 Outage.fails

/-- The end of the breaker that a partner's failures open, zero while they open none. -/
def breakerEnd (client : RelayClient μ) (fails : Nat) (now : ℚ) : ℚ :=
  let base := client.breakSeconds
  if client.maxRetry ≤ fails then
    now + min (base * 16) (base * 2 ^ ((fails : Int) - client.maxRetry).toNat)
  else 0

/-- `_mark_fail` -/
def markFail (url : PyStr) (now : ℚ) (client : RelayClient μ) : RelayClient μ :=
  let fails := client.fails url + 1
  { client with failure := client.failure.set url ⟨client.breakerEnd fails now, fails⟩ }

/-- `_queue_safe`, and `_queue_safe_async`, which never suspends. -/
def queueSafe (message : μ) (client : RelayClient μ) : RelayClient μ :=
  let queue := if client.queueCap ≤ client.queue.length then client.queue.drop 1 else client.queue
  { client with queue := queue ++ [message] }

@[simp] theorem markOk_partners (url : PyStr) (client : RelayClient μ) :
    (client.markOk url).partners = client.partners := rfl

@[simp] theorem markFail_partners (url : PyStr) (now : ℚ) (client : RelayClient μ) :
    (client.markFail url now).partners = client.partners := rfl

@[simp] theorem queueSafe_partners (message : μ) (client : RelayClient μ) :
    (client.queueSafe message).partners = client.partners := rfl

end RelayClient

/-- A request under way; `answer` is whether the partner took it, once it has arrived. -/
structure Attempt where
  url : PyStr
  answer : Option Bool

/-- A message on its way around the partners. -/
structure Round (μ : Type) where
  message : μ
  flight : Option Attempt
  remaining : List PyStr

/-- A round over all partners. -/
def Round.start {μ : Type} (client : RelayClient μ) (message : μ) : Round μ :=
  ⟨message, none, client.partners⟩

/-- Who makes a round: a task of `forward`, or `drain_loop`. -/
inductive Worker where
  | dispatch (index : Nat)
  | drain

/-- A client, its tasks, and the partners as far as they know its messages. -/
structure RelayNet (μ : Type) where
  client : RelayClient μ
  /-- The tasks of `_dispatch_async`. -/
  dispatches : List (Round μ)
  /-- The message that `drain_loop` has in hand and the rest of its batch. -/
  drain : Option (Round μ × List μ)
  /-- Which partner has accepted which nonce. -/
  accepted : List (PyStr × PyStr)
  /-- Requests that the client gave up on before they arrived. -/
  strays : List (PyStr × μ)

inductive RelayStep (μ : Type) where
  /-- `forward` has signed a message. -/
  | forward (message : μ)
  /-- `drain_loop` wakes up. -/
  | wake
  /-- A round goes on to its next partner, or ends. -/
  | check (worker : Worker) (now : ℚ)
  /-- A request arrives; the partner may have a reason of its own to refuse it. -/
  | arrive (worker : Worker) (refuses : Bool)
  /-- The client has the answer, or gives up on it. -/
  | finish (worker : Worker) (received : Bool) (now : ℚ)
  /-- A request that was given up on arrives. -/
  | stray (index : Nat)

namespace RelayNet

variable {μ : Type}

def round? (net : RelayNet μ) : Worker → Option (Round μ)
  | .dispatch index => net.dispatches[index]?
  | .drain => net.drain.map Prod.fst

def setRound (worker : Worker) (round : Round μ) (net : RelayNet μ) : RelayNet μ :=
  match worker with
  | .dispatch index => { net with dispatches := net.dispatches.set index round }
  | .drain => { net with drain := net.drain.map fun batch => (round, batch.2) }

def setClient (update : RelayClient μ → RelayClient μ) (net : RelayNet μ) : RelayNet μ :=
  { net with client := update net.client }

/-- The loop of `drain_loop` goes on to the next message. -/
def nextMessage (net : RelayNet μ) : RelayNet μ :=
  { net with drain := net.drain.bind fun batch =>
      match batch.2 with
      | [] => none
      | message :: rest => some (.start net.client message, rest) }

/-- `pending, self._queue = self._queue, []`, unless the queue is empty. -/
def wake (net : RelayNet μ) : RelayNet μ :=
  match net.drain, net.client.queue with
  | none, message :: rest =>
      { net with client := { net.client with queue := [] },
                 drain := some (.start net.client message, rest) }
  | _, _ => net

/-- A round whose next partner is not available goes on without it. -/
def skip (worker : Worker) (message : μ) (rest : List PyStr) (net : RelayNet μ) : RelayNet μ :=
  match worker with
  | .dispatch _ => (net.setRound worker ⟨message, none, rest⟩).setClient (.queueSafe message)
  | .drain => net.setRound worker ⟨message, none, rest⟩

/-- A round without partners left: the task is done, `drain_loop` puts the message back. -/
def endRound (worker : Worker) (message : μ) (net : RelayNet μ) : RelayNet μ :=
  match worker with
  | .dispatch _ => net
  | .drain => (net.setClient (.queueSafe message)).nextMessage

def check (worker : Worker) (now : ℚ) (net : RelayNet μ) : RelayNet μ :=
  match net.round? worker with
  | some ⟨message, none, url :: rest⟩ =>
      if net.client.available url now then net.setRound worker ⟨message, some ⟨url, none⟩, rest⟩
      else net.skip worker message rest
  | some ⟨message, none, []⟩ => net.endRound worker message
  | _ => net

/-- A partner takes the first message with a nonce, unless it refuses. -/
def arrive (nonce : μ → PyStr) (worker : Worker) (refuses : Bool) (net : RelayNet μ) : RelayNet μ :=
  match net.round? worker with
  | some ⟨message, some ⟨url, none⟩, rest⟩ =>
      if refuses = true ∨ (url, nonce message) ∈ net.accepted then
        net.setRound worker ⟨message, some ⟨url, some false⟩, rest⟩
      else
        { net.setRound worker ⟨message, some ⟨url, some true⟩, rest⟩ with
          accepted := (url, nonce message) :: net.accepted }
  | _ => net

/-- `_post_async` returns `True`: the task goes on, the drain drops the message. -/
def taken (worker : Worker) (url : PyStr) (message : μ) (rest : List PyStr) (net : RelayNet μ) :
    RelayNet μ :=
  match worker with
  | .dispatch _ => (net.setRound worker ⟨message, none, rest⟩).setClient (.markOk url)
  | .drain => (net.setClient (.markOk url)).nextMessage

/-- `_post_async` returns `False`. -/
def notTaken (worker : Worker) (url : PyStr) (message : μ) (rest : List PyStr) (now : ℚ)
    (net : RelayNet μ) : RelayNet μ :=
  (net.setClient (.markFail url now)).skip worker message rest

/-- The client waits no longer for a request that has not arrived. -/
def giveUp (answer : Option Bool) (url : PyStr) (message : μ) (net : RelayNet μ) : RelayNet μ :=
  if answer = none then { net with strays := net.strays ++ [(url, message)] } else net

def finish (worker : Worker) (received : Bool) (now : ℚ) (net : RelayNet μ) : RelayNet μ :=
  match net.round? worker with
  | some ⟨message, some ⟨url, answer⟩, rest⟩ =>
      if received = true ∧ answer = some true then net.taken worker url message rest
      else (net.giveUp answer url message).notTaken worker url message rest now
  | _ => net

def stray (nonce : μ → PyStr) (index : Nat) (net : RelayNet μ) : RelayNet μ :=
  match net.strays[index]? with
  | some (url, message) =>
      { net with accepted := (url, nonce message) :: net.accepted, strays := net.strays.eraseIdx index }
  | none => net

@[simp] theorem setRound_client (worker : Worker) (round : Round μ) (net : RelayNet μ) :
    (net.setRound worker round).client = net.client := by cases worker <;> rfl

@[simp] theorem setRound_accepted (worker : Worker) (round : Round μ) (net : RelayNet μ) :
    (net.setRound worker round).accepted = net.accepted := by cases worker <;> rfl

@[simp] theorem setClient_client (update : RelayClient μ → RelayClient μ) (net : RelayNet μ) :
    (net.setClient update).client = update net.client := rfl

@[simp] theorem setClient_accepted (update : RelayClient μ → RelayClient μ) (net : RelayNet μ) :
    (net.setClient update).accepted = net.accepted := rfl

@[simp] theorem setClient_round? (update : RelayClient μ → RelayClient μ) (net : RelayNet μ)
    (worker : Worker) : (net.setClient update).round? worker = net.round? worker := by
  cases worker <;> rfl

@[simp] theorem nextMessage_client (net : RelayNet μ) : net.nextMessage.client = net.client := rfl

@[simp] theorem nextMessage_accepted (net : RelayNet μ) :
    net.nextMessage.accepted = net.accepted := rfl

@[simp] theorem giveUp_client (answer : Option Bool) (url : PyStr) (message : μ)
    (net : RelayNet μ) : (net.giveUp answer url message).client = net.client := by
  unfold giveUp
  split <;> rfl

@[simp] theorem giveUp_accepted (answer : Option Bool) (url : PyStr) (message : μ)
    (net : RelayNet μ) : (net.giveUp answer url message).accepted = net.accepted := by
  unfold giveUp
  split <;> rfl

@[simp] theorem giveUp_round? (answer : Option Bool) (url : PyStr) (message : μ)
    (net : RelayNet μ) (worker : Worker) :
    (net.giveUp answer url message).round? worker = net.round? worker := by
  unfold giveUp
  split <;> cases worker <;> rfl

end RelayNet

/-- The client, its tasks and its partners. -/
def relayMachine {μ : Type} (nonce : μ → PyStr) : Machine (RelayNet μ) (RelayStep μ) Unit where
  step net
    | .forward message =>
        ((), { net with dispatches := net.dispatches ++ [.start net.client message] })
    | .wake => ((), net.wake)
    | .check worker now => ((), net.check worker now)
    | .arrive worker refuses => ((), net.arrive nonce worker refuses)
    | .finish worker received now => ((), net.finish worker received now)
    | .stray index => ((), net.stray nonce index)

end HermesMesh.Collab
