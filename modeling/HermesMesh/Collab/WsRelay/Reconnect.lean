import HermesMesh.Foundation.Action
import HermesMesh.Foundation.Machine
import HermesMesh.Python.JsonScanner

/-!
# The reconnect loop of the websocket client

`_run` dials the partner again whenever the link is gone.  Every exception of a dial is
caught, but the delay before the next one is computed outside the `try`, from a counter
that only a healthy link resets.
-/

namespace HermesMesh.Collab

open Python Foundation

/-- The exceptions in `_run`. -/
inductive LinkFault where
  | runtimeError (message : String)
  | overflowError
  /-- An exception of the libraries or of the event handler. -/
  | other

/-- The first frame that comes back on a link. -/
inductive HandshakeReply where
  | text (data : PyStr)
  /-- A text on which `json.loads` gives up, for its depth or the digits of a number. -/
  | beyondLimits
  | notText

/-- What becomes of a dial. -/
inductive Dial where
  /-- There is no connection, or the `auth` frame cannot be sent. -/
  | unreachable (fault : LinkFault)
  /-- No frame comes back within `WS_AUTH_TIMEOUT`. -/
  | unanswered
  /-- A frame comes back; if it lets the stream begin, this is how the stream ends. -/
  | answered (reply : HandshakeReply) (stream : Except LinkFault Unit)

/-- The counter of a client that is running. -/
structure WsRelayClient where
  reconnects : Nat

def reconnectBase : ℚ := 4
def reconnectMax : ℚ := 120
def reconnectMult : ℚ := 2

/-- Whether the frame that comes back ends the link.  A text that does not parse counts as an
empty object; a value that is not an object has no status to look at. -/
def HandshakeReply.rejects : HandshakeReply → Bool
  | .notText | .beyondLimits => true
  | .text data =>
      match (loads data).getD (.obj []) with
      | .obj fields => !((Dict.get? (lit "status") fields).getD .null).pyEq (.str (lit "ok"))
      | _ => false

/-- The dial brings a healthy link. -/
def Dial.isHealthy : Dial → Bool
  | .answered reply _ => !reply.rejects
  | _ => false

/-- `RECONNECT_MULT ** reconnects`, which a float holds below `2 ** 1024` only. -/
def reconnectPower (reconnects : Nat) : Option ℚ :=
  if reconnects < 1024 then some (reconnectMult ^ reconnects) else none

/-- `min(RECONNECT_BASE * power, RECONNECT_MAX)` -/
def reconnectDelay (power : ℚ) : ℚ := min (reconnectBase * power) reconnectMax

namespace WsRelayClient

/-- `_dial_and_stream` -/
def dialAndStream (dial : Dial) : Action WsRelayClient LinkFault Unit :=
  match dial with
  | .unreachable fault => .raise fault
  | .unanswered => .raise (.runtimeError "wsrelay auth handshake failed/timeout")
  -- only `JSONDecodeError` is caught where the reply is read
  | .answered .beyondLimits _ => .raise .other
  | .answered reply stream =>
      if reply.rejects then .raise (.runtimeError "wsrelay auth rejected")
      else do
        .modify fun _ => ⟨0⟩
        .ofExcept stream

/-- A turn of the loop of `_run` while the client is running: a dial, and the delay
before the next turn. -/
def turn (dial : Dial) : Action WsRelayClient LinkFault ℚ := do
  -- `except Exception`: the fault of a dial is only logged
  let _ ← (dialAndStream dial).attempt some
  let client ← .read
  let power ← .ofOption .overflowError (reconnectPower client.reconnects)
  .modify fun client => ⟨client.reconnects + 1⟩
  return reconnectDelay power

end WsRelayClient

/-- The task of `_run`; an exception that leaves the loop ends it. -/
structure LinkTask where
  client : WsRelayClient
  ended : Option LinkFault

/-- The loop, dial after dial; its output is the delay that leads to another dial. -/
def linkMachine : Machine LinkTask Dial (Option ℚ) where
  step task dial :=
    match task.ended with
    | some _ => (none, task)
    | none =>
        match (WsRelayClient.turn dial).run task.client with
        | (.ok delay, client) => (some delay, ⟨client, none⟩)
        | (.error fault, client) => (none, ⟨client, some fault⟩)

namespace LinkTask

/-- A client that `start` has just launched. -/
def started : LinkTask := ⟨⟨0⟩, none⟩

/-- The counter at the time the delay after a dial is computed. -/
def counted (task : LinkTask) (dial : Dial) : Nat :=
  if dial.isHealthy then 0 else task.client.reconnects

/-- A dial leads to another one after a delay within the bounds, the smallest one after
a healthy link. -/
def Redials (event : Event LinkTask Dial (Option ℚ)) : Prop :=
  ∃ delay, event.output = some delay ∧ reconnectBase ≤ delay ∧ delay ≤ reconnectMax ∧
    (event.input.isHealthy = true → delay = reconnectBase)

/-- The delay does not shrink when the dial that follows it fails. -/
def Slower (first second : Event LinkTask Dial (Option ℚ)) : Prop :=
  second.input.isHealthy = false →
    ∀ early late, first.output = some early → second.output = some late → early ≤ late

/-- The loop never dies in a run, and its delays are as they should be. -/
def NeverDies (task : LinkTask) (dials : List Dial) : Prop :=
  (∀ event ∈ linkMachine.trace task dials, Redials event) ∧
    (linkMachine.trace task dials).IsChain Slower

/-- The link is healthy, or fewer than 1024 delays lie behind the last healthy one. -/
def PowerFits (task : LinkTask) (dial : Dial) : Prop :=
  dial.isHealthy = true ∨ task.client.reconnects < 1024

instance (task : LinkTask) (dial : Dial) : Decidable (task.PowerFits dial) :=
  inferInstanceAs (Decidable (_ ∨ _))

/-! ## One turn -/

theorem run_dialAndStream (dial : Dial) (task : LinkTask) :
    ((WsRelayClient.dialAndStream dial).run task.client).2 = ⟨task.counted dial⟩ := by
  unfold WsRelayClient.dialAndStream counted
  cases dial with
  | unreachable fault => rfl
  | unanswered => rfl
  | answered reply stream =>
      cases reply with
      | beyondLimits => rfl
      | notText => rfl
      | text data =>
          cases turned : HandshakeReply.rejects (.text data) with
          | true => simp [Dial.isHealthy, turned]
          | false => simp [Dial.isHealthy, turned, Action.run_bind]

/-- All that a turn does: a counter that fits yields the delay and goes up, any other
ends the loop. -/
theorem run_turn (dial : Dial) (task : LinkTask) :
    (WsRelayClient.turn dial).run task.client =
      if task.counted dial < 1024 then
        (.ok (reconnectDelay (reconnectMult ^ task.counted dial)), ⟨task.counted dial + 1⟩)
      else (.error .overflowError, ⟨task.counted dial⟩) := by
  have caught : ((WsRelayClient.dialAndStream dial).attempt some).run task.client =
      (.ok (match ((WsRelayClient.dialAndStream dial).run task.client).1 with
        | .ok value => .ok value
        | .error fault => .error fault), ⟨task.counted dial⟩) := by
    rw [Action.run_attempt, run_dialAndStream]
    cases ((WsRelayClient.dialAndStream dial).run task.client).1 <;> rfl
  rw [WsRelayClient.turn, Action.run_bind_ok caught, Action.run_bind_ok (Action.run_read _),
    reconnectPower]
  split <;> rfl

theorem counted_lt_iff (task : LinkTask) (dial : Dial) :
    task.counted dial < 1024 ↔ task.PowerFits dial := by
  unfold counted PowerFits
  cases dial.isHealthy <;> simp

theorem step_of_powerFits {task : LinkTask} {dial : Dial} (alive : task.ended = none)
    (fits : task.PowerFits dial) :
    linkMachine.step task dial =
      (some (reconnectDelay (reconnectMult ^ task.counted dial)), ⟨⟨task.counted dial + 1⟩, none⟩) := by
  simp only [linkMachine, alive, run_turn, if_pos ((task.counted_lt_iff dial).mpr fits)]

theorem step_of_not_powerFits {task : LinkTask} {dial : Dial} (tooMany : ¬task.PowerFits dial) :
    (linkMachine.step task dial).1 = none := by
  simp only [linkMachine, run_turn, if_neg ((task.counted_lt_iff dial).not.mpr tooMany)]
  split <;> rfl

/-! ## The delay -/

theorem reconnectDelay_mono {low high : Nat} (ordered : low ≤ high) :
    reconnectDelay (reconnectMult ^ low) ≤ reconnectDelay (reconnectMult ^ high) := by
  unfold reconnectDelay reconnectMult reconnectBase
  gcongr
  exact one_le_two

theorem reconnectDelay_zero : reconnectDelay (reconnectMult ^ 0) = reconnectBase := by
  norm_num [reconnectDelay, reconnectBase, reconnectMax]

theorem reconnectBase_le_delay (count : Nat) :
    reconnectBase ≤ reconnectDelay (reconnectMult ^ count) := by
  rw [← reconnectDelay_zero]
  exact reconnectDelay_mono (Nat.zero_le count)

/-! ## Runs -/

theorem redials_of_powerFits {task : LinkTask} {dial : Dial} (alive : task.ended = none)
    (fits : task.PowerFits dial) :
    Redials ⟨task, dial, (linkMachine.step task dial).1, (linkMachine.step task dial).2⟩ := by
  rw [step_of_powerFits alive fits]
  refine ⟨_, rfl, reconnectBase_le_delay _, min_le_right _ _, fun healthy => ?_⟩
  dsimp only at healthy
  rw [counted, if_pos healthy, reconnectDelay_zero]

/-- A failed dial waits at least as long as the dial before it. -/
theorem slower_of_powerFits {task : LinkTask} {first second : Dial} (alive : task.ended = none)
    (fits : task.PowerFits first) (output : Option ℚ) (after : LinkTask)
    (stepped : linkMachine.step (linkMachine.step task first).2 second = (output, after)) :
    Slower ⟨task, first, (linkMachine.step task first).1, (linkMachine.step task first).2⟩
      ⟨(linkMachine.step task first).2, second, output, after⟩ := by
  intro fails early late earlyDelay lateDelay
  dsimp only at fails earlyDelay lateDelay
  rw [step_of_powerFits alive fits] at earlyDelay stepped
  cases earlyDelay
  by_cases again : PowerFits ⟨⟨task.counted first + 1⟩, none⟩ second
  · rw [step_of_powerFits rfl again, counted, if_neg (by simp [fails])] at stepped
    cases stepped
    cases lateDelay
    exact reconnectDelay_mono (Nat.le_succ _)
  · have stops := step_of_not_powerFits again
    rw [stepped, lateDelay] at stops
    cases stops

theorem redials_iff {task : LinkTask} {dial : Dial} (alive : task.ended = none) :
    Redials ⟨task, dial, (linkMachine.step task dial).1, (linkMachine.step task dial).2⟩ ↔
      task.PowerFits dial := by
  constructor
  · rintro ⟨delay, output, -⟩
    by_contra tooMany
    rw [step_of_not_powerFits tooMany] at output
    cases output
  · exact redials_of_powerFits alive

theorem ended_of_powerFits {task : LinkTask} {dial : Dial} (alive : task.ended = none)
    (fits : task.PowerFits dial) : (linkMachine.step task dial).2.ended = none := by
  rw [step_of_powerFits alive fits]

/-- Whatever the counter is when the run begins, it goes on as long as the counter fits. -/
theorem neverDies_iff_of_alive {task : LinkTask} (alive : task.ended = none) (dials : List Dial) :
    task.NeverDies dials ↔ linkMachine.Allowed PowerFits task dials := by
  induction dials generalizing task with
  | nil => simp [NeverDies, Machine.trace, Machine.Allowed]
  | cons dial rest ih =>
      rw [NeverDies, Machine.trace, Machine.Allowed, List.forall_mem_cons, List.isChain_cons,
        redials_iff alive]
      constructor
      · rintro ⟨⟨fits, redials⟩, -, slower⟩
        exact ⟨fits, (ih (ended_of_powerFits alive fits)).mp ⟨redials, slower⟩⟩
      · rintro ⟨fits, allowed⟩
        obtain ⟨redials, slower⟩ := (ih (ended_of_powerFits alive fits)).mpr allowed
        refine ⟨⟨fits, redials⟩, fun event first => ?_, slower⟩
        cases rest with
        | nil => cases first
        | cons second others =>
            cases first
            exact slower_of_powerFits alive fits _ _ rfl

/-- In every run of dials the loop dials again after each of them, with delays that are
within the bounds and do not shrink while dials fail, exactly when no dial fails with
1024 delays behind the last healthy link. -/
theorem neverDies_iff (dials : List Dial) :
    started.NeverDies dials ↔ linkMachine.Allowed PowerFits started dials :=
  neverDies_iff_of_alive rfl dials

/-- A partner that is down. -/
def outage : Dial := .unreachable .other

theorem run_outage (count : Nat) (within : count ≤ 1024) :
    linkMachine.run started (List.replicate count outage) = ⟨⟨count⟩, none⟩ := by
  induction count with
  | zero => rfl
  | succ count ih =>
      rw [List.replicate_succ', Machine.run_append, ih (Nat.le_of_succ_le within)]
      have stepped := @step_of_powerFits ⟨⟨count⟩, none⟩ outage rfl (.inr within)
      rw [Machine.run_cons, Machine.run_nil, stepped]
      rfl

/-- After 1024 failed dials one more ends the loop. -/
theorem dies_in_long_outage : ¬started.NeverDies (List.replicate 1025 outage) := by
  rw [neverDies_iff_of_alive rfl, List.replicate_succ', Machine.allowed_append,
    run_outage 1024 le_rfl]
  intro ⟨_, fits, _⟩
  revert fits
  decide

end LinkTask

end HermesMesh.Collab
