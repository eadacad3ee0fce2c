import HermesMesh.Collab.Relay.Client

/-!
# The breaker of a partner that is up

Failures are counted for each URL, but a message that is queued because of one partner
is posted to all of them again.  A partner that has taken it answers the repeat with a
403, which counts as a failure of its own.  So the breaker of a partner that is never
down opens when it refuses as many repeats in a row as `max_retry` allows.
-/

namespace HermesMesh.Collab

open Python Foundation

variable {μ : Type}

namespace RelayClient

/-- `_available` holds of the partner, whatever the clock reads. -/
def BreakerClosed (url : PyStr) (client : RelayClient μ) : Prop :=
  ∀ now, client.available url now = true

theorem breakerClosed_iff (url : PyStr) (client : RelayClient μ) :
    client.BreakerClosed url ↔
      ∀ outage, client.failure.get? url = some outage → (outage.fails : Int) < client.maxRetry := by
  unfold BreakerClosed available
  cases client.failure.get? url with
  | none => simp
  | some outage =>
      simp only [Bool.or_eq_true, decide_eq_true_eq, Option.some.injEq, forall_eq']
      constructor
      · intro always
        rcases always outage.breakerUntil with few | past
        · exact few
        · exact absurd past (lt_irrefl _)
      · exact fun few _ => .inl few

theorem breakerClosed_congr {url : PyStr} {before after : RelayClient μ}
    (failure : after.failure.get? url = before.failure.get? url)
    (maxRetry : after.maxRetry = before.maxRetry) :
    after.BreakerClosed url ↔ before.BreakerClosed url := by
  rw [breakerClosed_iff, breakerClosed_iff, failure, maxRetry]

theorem breakerClosed_markOk (url : PyStr) (client : RelayClient μ) :
    (client.markOk url).BreakerClosed url := by
  refine (breakerClosed_iff url _).mpr fun outage found => ?_
  rw [markOk, Dict.get?_erase, if_pos rfl] at found
  cases found

theorem breakerClosed_markOk_of_ne {url other : PyStr} (different : other ≠ url)
    (client : RelayClient μ) : (client.markOk other).BreakerClosed url ↔ client.BreakerClosed url :=
  breakerClosed_congr (by rw [markOk, Dict.get?_erase, if_neg different.symm]) rfl

theorem breakerClosed_markFail_of_ne {url other : PyStr} (different : other ≠ url) (now : ℚ)
    (client : RelayClient μ) :
    (client.markFail other now).BreakerClosed url ↔ client.BreakerClosed url :=
  breakerClosed_congr (by rw [markFail, Dict.get?_set, if_neg different.symm]) rfl

theorem breakerClosed_markFail (url : PyStr) (now : ℚ) (client : RelayClient μ) :
    (client.markFail url now).BreakerClosed url ↔ (client.fails url : Int) + 1 < client.maxRetry := by
  simp [breakerClosed_iff, markFail]

end RelayClient

namespace RelayNet

open RelayClient

variable {nonce : μ → PyStr}

/-- The partner is reachable in this step and refuses repeats only: a request to it
arrives, it has no reason of its own to refuse, and its answer comes back. -/
def reaches (url : PyStr) (net : RelayNet μ) : RelayStep μ → Bool
  | .arrive worker refuses =>
      match net.round? worker with
      | some ⟨_, some ⟨peer, none⟩, _⟩ => !(peer == url && refuses)
      | _ => true
  | .finish worker received _ =>
      match net.round? worker with
      | some ⟨_, some ⟨peer, answer⟩, _⟩ => peer != url || received && answer.isSome
      | _ => true
  | _ => true

/-- The client learns that a partner has refused a message. -/
def refusal (url : PyStr) (net : RelayNet μ) : RelayStep μ → Bool
  | .finish worker _ _ =>
      match net.round? worker with
      | some ⟨_, some ⟨peer, some false⟩, _⟩ => peer == url
      | _ => false
  | _ => false

/-- A partner refuses no message when one more failure opens its breaker. -/
def SparesLast (url : PyStr) (net : RelayNet μ) (input : RelayStep μ) : Prop :=
  net.refusal url input = true → (net.client.fails url : Int) + 1 < net.client.maxRetry

instance (url : PyStr) (net : RelayNet μ) (input : RelayStep μ) :
    Decidable (net.SparesLast url input) := inferInstanceAs (Decidable (_ → _))

/-! ## One step -/

/-- No step but the end of a request changes what the client holds against a partner. -/
theorem closed_of_no_finish (url : PyStr) (net : RelayNet μ) {input : RelayStep μ}
    (noFinish : ∀ worker received now, input ≠ .finish worker received now) :
    ((relayMachine nonce).step net input).2.client.BreakerClosed url ↔
      net.client.BreakerClosed url := by
  have unchanged : ((relayMachine nonce).step net input).2.client.failure = net.client.failure ∧
      ((relayMachine nonce).step net input).2.client.maxRetry = net.client.maxRetry := by
    cases input with
    | forward message => exact ⟨rfl, rfl⟩
    | wake =>
        simp only [relayMachine, wake]
        split <;> exact ⟨rfl, rfl⟩
    | check worker now =>
        simp only [relayMachine, check]
        split
        · split
          · simp
          · cases worker <;> simp [skip, queueSafe]
        · cases worker <;> simp [endRound, queueSafe]
        · simp
    | arrive worker refuses =>
        simp only [relayMachine, arrive]
        split
        · split <;> simp
        · simp
    | finish worker received now => exact absurd rfl (noFinish worker received now)
    | stray index =>
        simp only [relayMachine, stray]
        split <;> exact ⟨rfl, rfl⟩
  exact breakerClosed_congr (by rw [unchanged.1]) unchanged.2

theorem taken_client (worker : Worker) (peer : PyStr) (message : μ) (rest : List PyStr)
    (net : RelayNet μ) : (net.taken worker peer message rest).client = net.client.markOk peer := by
  cases worker <;> simp [taken]

theorem notTaken_closed (url : PyStr) (worker : Worker) (peer : PyStr) (message : μ)
    (rest : List PyStr) (now : ℚ) (net : RelayNet μ) :
    (net.notTaken worker peer message rest now).client.BreakerClosed url ↔
      (net.client.markFail peer now).BreakerClosed url := by
  cases worker with
  | dispatch index => exact breakerClosed_congr rfl rfl
  | drain => exact breakerClosed_congr rfl rfl

theorem refusal_finish {url : PyStr} {net : RelayNet μ} {worker : Worker} {received : Bool}
    {now : ℚ} : net.refusal url (.finish worker received now) = true ↔
      ∃ message rest, net.round? worker = some ⟨message, some ⟨url, some false⟩, rest⟩ := by
  unfold refusal
  dsimp only
  split
  · next message peer rest found => simp [found]
  · next other =>
      simp only [Bool.false_eq_true, false_iff, not_exists]
      exact fun message rest found => other message url rest found

/-- The answer of a partner leaves its breaker closed unless it is the refusal that
reaches the limit; that of another partner does nothing to it. -/
theorem closed_finish {url : PyStr} {net : RelayNet μ} (closed : net.client.BreakerClosed url)
    {worker : Worker} {received : Bool} {now : ℚ}
    (reached : net.reaches url (.finish worker received now) = true) :
    (net.finish worker received now).client.BreakerClosed url ↔
      net.SparesLast url (.finish worker received now) := by
  rw [SparesLast, refusal_finish]
  unfold finish
  unfold reaches at reached
  split
  · next message peer answer rest found =>
      simp only [found] at reached ⊢
      by_cases same : peer = url
      · subst same
        cases answer with
        | none => simp at reached
        | some answer =>
            obtain rfl : received = true := by simpa using reached
            cases answer with
            | true => simpa [taken_client] using breakerClosed_markOk peer net.client
            | false => simp [notTaken_closed, breakerClosed_markFail]
      · have others : ¬∃ message' rest', some (⟨message, some ⟨peer, answer⟩, rest⟩ : Round μ) =
            some ⟨message', some ⟨url, some false⟩, rest'⟩ := by
          rintro ⟨_, _, equal⟩
          cases equal
          exact same rfl
        simp only [others, false_implies, iff_true]
        split
        · rw [taken_client, breakerClosed_markOk_of_ne same]
          exact closed
        · rw [notTaken_closed, breakerClosed_markFail_of_ne same, giveUp_client]
          exact closed
  · next idle => exact iff_of_true closed fun ⟨_, _, found⟩ => absurd found (idle _ _ _ _)

/-- The breaker of a partner that is reachable throughout stays closed exactly when no
refusal comes at its last failure. -/
theorem closed_step {url : PyStr} {net : RelayNet μ} (closed : net.client.BreakerClosed url)
    {input : RelayStep μ} (reached : net.reaches url input = true) :
    ((relayMachine nonce).step net input).2.client.BreakerClosed url ↔
      net.SparesLast url input := by
  cases input with
  | finish worker received now => exact closed_finish closed reached
  | forward message | wake | check worker now | arrive worker refuses | stray index =>
      rw [closed_of_no_finish url net (by simp)]
      simpa [SparesLast, refusal] using closed

/-- In every run in which a partner is reachable throughout and refuses repeats only,
its breaker is closed in every state exactly when no refusal of a repeat comes when one
more failure opens the breaker. -/
theorem breaker_closed_iff (nonce : μ → PyStr) {url : PyStr} {start : RelayNet μ}
    (closed : start.client.BreakerClosed url) {inputs : List (RelayStep μ)}
    (reached : (relayMachine nonce).Allowed (fun net input => net.reaches url input = true) start
      inputs) :
    (∀ past rest, inputs = past ++ rest →
        ((relayMachine nonce).run start past).client.BreakerClosed url) ↔
      (relayMachine nonce).Allowed (SparesLast url) start inputs :=
  Machine.throughout_iff_allowed_of _ (SparesLast url) (fun net => net.client.BreakerClosed url)
    (fun _ _ closed reached => closed_step closed reached) closed reached

/-! ## A partner that is never down -/

/-- The partner `a` is up, `b` is not. -/
def upAndDown : RelayNet PyStr :=
  ⟨⟨[lit "a", lit "b"], 3, 15, 500, RelayClient.fiveHundred_pos, [], []⟩, [], none, [], []⟩

/-- A message is posted to both partners and queued because of `b`. -/
def dispatchOne : List (RelayStep PyStr) :=
  [.forward (lit "n"), .check (.dispatch 0) 0, .arrive (.dispatch 0) false,
    .finish (.dispatch 0) true 0, .check (.dispatch 0) 0, .finish (.dispatch 0) false 8]

/-- `drain_loop` posts the message to `a`, which refuses it, then to `b`. -/
def drainPass (now : ℚ) : List (RelayStep PyStr) :=
  [.wake, .check .drain now, .arrive .drain false, .finish .drain true now, .check .drain now,
    .finish .drain false now, .check .drain now]

/-- One pass leaves the breaker of `a` closed, for the refusal is not its last failure. -/
theorem breaker_closed_one_pass :
    (∀ past rest, dispatchOne ++ drainPass 15 = past ++ rest →
        ((relayMachine id).run upAndDown past).client.BreakerClosed (lit "a")) ↔
      (relayMachine id).Allowed (SparesLast (lit "a")) upAndDown (dispatchOne ++ drainPass 15) :=
  @breaker_closed_iff _ id (lit "a") upAndDown (fun _ => rfl) _ (by decide +kernel)

/-- The third pass opens the breaker of `a`, which has answered every request. -/
theorem breaker_opens_while_up :
    let inputs := dispatchOne ++ drainPass 15 ++ drainPass 30 ++ drainPass 45
    (relayMachine id).Allowed (fun net input => net.reaches (lit "a") input = true) upAndDown
        inputs ∧
      ((relayMachine id).run upAndDown inputs).client.available (lit "a") 45 = false := by
  decide +kernel

end RelayNet

end HermesMesh.Collab
