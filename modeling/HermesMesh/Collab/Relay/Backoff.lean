import HermesMesh.Foundation.Action
import HermesMesh.Platform
import HermesMesh.Collab.Relay.Client

/-!
# The breaker and what it is for

The breaker of a partner closes it off for a while after too many failures in a row, for
longer with each further one, up to a cap.  `_mark_fail` computes the uncapped length
first, as a float times a power of two, and Python refuses to multiply a float by an
integer that no float holds.
-/

namespace HermesMesh.Collab

open Python Foundation

variable {μ : Type}

/-- The outcome of a request to a partner. -/
inductive Mark where
  | ok
  | fail (now : ℚ)

/-- The time of a failure. -/
def Mark.failedAt : Mark → Option ℚ
  | .ok => none
  | .fail now => some now

/-! ## The specification -/

/-- The failures since the last success, oldest first. -/
def recentFailures (marks : List Mark) : List ℚ :=
  (marks.rtakeWhile fun mark => mark.failedAt.isSome).filterMap Mark.failedAt

/-- How long the breaker stays open after a number of failures that opens it. -/
def outageLength (maxRetry : Int) (breakSeconds : ℚ) (count : Nat) : ℚ :=
  min (16 * breakSeconds) (breakSeconds * 2 ^ ((count : Int) - maxRetry).toNat)

/-- A partner may be asked at a time: it has failed less often than `max_retry` allows,
or the outage that its last failure began is over. -/
def MayAsk (maxRetry : Int) (breakSeconds : ℚ) (marks : List Mark) (now : ℚ) : Prop :=
  ((recentFailures marks).length : Int) < maxRetry ∨
    ∃ last, (recentFailures marks).getLast? = some last ∧
      last + outageLength maxRetry breakSeconds (recentFailures marks).length < now

@[simp] theorem recentFailures_nil : recentFailures [] = [] := rfl

@[simp] theorem recentFailures_ok (marks : List Mark) : recentFailures (marks ++ [.ok]) = [] := by
  rw [recentFailures, List.rtakeWhile_concat_neg _ _ _ (by simp [Mark.failedAt])]
  rfl

@[simp] theorem recentFailures_fail (marks : List Mark) (now : ℚ) :
    recentFailures (marks ++ [.fail now]) = recentFailures marks ++ [now] := by
  rw [recentFailures, List.rtakeWhile_concat_pos _ _ _ (by simp [Mark.failedAt]),
    List.filterMap_append]
  rfl

/-! ## The code -/

namespace RelayClient

/-- `base * (2 ** exponent)` for a float. -/
def scaled? (base : ℚ) (exponent : Nat) : Option ℚ :=
  if exponent < 1024 then some (base * 2 ^ exponent) else none

/-- An assignment to `_failure[url]`. -/
def setFailure (url : PyStr) (outage : Outage) (client : RelayClient μ) : RelayClient μ :=
  { client with failure := client.failure.set url outage }

/-- `_mark_fail`, with the exception that it may raise. -/
def countFailure (url : PyStr) (now : ℚ) : Action (RelayClient μ) Fault Unit := do
  let client ← .read
  let fails := client.fails url + 1
  let base := client.breakSeconds
  if client.maxRetry ≤ fails then
    let scaled ← .ofOption .overflowError (scaled? base ((fails : Int) - client.maxRetry).toNat)
    .modify (setFailure url ⟨now + min (base * 16) scaled, fails⟩)
  else
    .modify (setFailure url ⟨0, fails⟩)

/-- A call of `_mark_ok` or `_mark_fail`. -/
def mark (url : PyStr) : Mark → Action (RelayClient μ) Fault Unit
  | .ok => .modify (markOk url)
  | .fail now => countFailure url now

/-- One more failure leaves the power of two one that a float can be multiplied by. -/
def PowerFits (client : RelayClient μ) (url : PyStr) : Mark → Prop
  | .ok => True
  | .fail _ => (client.fails url : Int) + 1 < client.maxRetry + 1024

instance (client : RelayClient μ) (url : PyStr) (outcome : Mark) :
    Decidable (client.PowerFits url outcome) := by
  cases outcome
  · exact isTrue trivial
  · exact inferInstanceAs (Decidable (_ < _))

/-- What a call leaves where it does not raise. -/
def marked (url : PyStr) (client : RelayClient μ) : Mark → RelayClient μ
  | .ok => client.markOk url
  | .fail now => client.markFail url now

/-- The calls that raise are those whose power is too large; they change nothing. -/
theorem run_mark (url : PyStr) (outcome : Mark) (client : RelayClient μ) :
    (mark url outcome).run client =
      if client.PowerFits url outcome then (.ok (), client.marked url outcome)
      else (.error .overflowError, client) := by
  cases outcome with
  | ok => simp [mark, marked, PowerFits]
  | fail now =>
      simp only [mark, countFailure, Action.run_bind, Action.run_read, marked, markFail, breakerEnd,
        PowerFits]
      split
      · next trips =>
          rw [Action.run_bind, scaled?]
          by_cases fits : (client.fails url : Int) + 1 < client.maxRetry + 1024
          · rw [if_pos (by push_cast; omega), if_pos fits]
            rfl
          · rw [if_neg (by push_cast; omega), if_neg fits]
            rfl
      · next few =>
          rw [if_pos (by push_cast at few; omega)]
          rfl

end RelayClient

/-- Any calls of `_mark_ok` and `_mark_fail`, on any URLs. -/
def breakerMachine (μ : Type) : Machine (RelayClient μ) (PyStr × Mark) (Except Fault Unit) where
  step client call := (RelayClient.mark call.1 call.2).run client

/-- The outcomes of a partner among the calls. -/
def marksOf (url : PyStr) (calls : List (PyStr × Mark)) : List Mark :=
  calls.filterMap fun call => if call.1 = url then some call.2 else none

namespace RelayClient

/-- The client holds what the specification says after these calls. -/
structure Reflects (calls : List (PyStr × Mark)) (client : RelayClient μ) : Prop where
  count : ∀ url, client.fails url = (recentFailures (marksOf url calls)).length
  available : ∀ url now, client.available url now = true ↔
    MayAsk client.maxRetry client.breakSeconds (marksOf url calls) now

/-- No call of a run raises, and the client holds what the specification says all along. -/
def Refines (client : RelayClient μ) (calls : List (PyStr × Mark)) : Prop :=
  (∀ event ∈ (breakerMachine μ).trace client calls, event.output = .ok ()) ∧
    ∀ past rest, calls = past ++ rest → ((breakerMachine μ).run client past).Reflects past

/-! ## Runs -/

/-- What `_failure` holds of a partner with these failures since its last success. -/
def outage? (client : RelayClient μ) (failures : List ℚ) : Option Outage :=
  failures.getLast?.map fun last => ⟨client.breakerEnd failures.length last, failures.length⟩

/-- What `_failure` holds after these calls. -/
def Holds (calls : List (PyStr × Mark)) (client : RelayClient μ) : Prop :=
  ∀ url, client.failure.get? url = client.outage? (recentFailures (marksOf url calls))

theorem fails_of_holds {calls : List (PyStr × Mark)} {client : RelayClient μ}
    (holds : client.Holds calls) (url : PyStr) :
    client.fails url = (recentFailures (marksOf url calls)).length := by
  rw [fails, holds url, outage?]
  rcases List.eq_nil_or_concat (recentFailures (marksOf url calls)) with none | ⟨front, last, some⟩
  · simp [none]
  · simp [some]

theorem reflects_of_holds {calls : List (PyStr × Mark)} {client : RelayClient μ}
    (atLeastOne : 1 ≤ client.maxRetry) (holds : client.Holds calls) : client.Reflects calls where
  count := fails_of_holds holds
  available := by
    intro url now
    rw [available, holds url, outage?, MayAsk]
    cases recent : (recentFailures (marksOf url calls)).getLast? with
    | none =>
        rw [List.getLast?_eq_none_iff.mp recent]
        simp [Int.lt_iff_add_one_le, atLeastOne]
    | some last =>
        simp only [Option.map_some, Bool.or_eq_true, decide_eq_true_eq, Option.some.injEq,
          exists_eq_left']
        by_cases few : ((recentFailures (marksOf url calls)).length : Int) < client.maxRetry
        · simp [few]
        · rw [breakerEnd, if_pos (not_lt.mp few), outageLength, mul_comm]

theorem marksOf_concat (url : PyStr) (calls : List (PyStr × Mark)) (call : PyStr × Mark) :
    marksOf url (calls ++ [call]) =
      marksOf url calls ++ if call.1 = url then [call.2] else [] := by
  rw [marksOf, List.filterMap_append, ← marksOf]
  by_cases same : call.1 = url
  · simp [same]
  · simp [same]

theorem holds_marked {calls : List (PyStr × Mark)} {client : RelayClient μ}
    (holds : client.Holds calls) (url : PyStr) (outcome : Mark) :
    (client.marked url outcome).Holds (calls ++ [(url, outcome)]) := by
  intro other
  rw [marksOf_concat]
  cases outcome with
  | ok =>
      rw [marked, markOk, Dict.get?_erase]
      by_cases same : other = url
      · rw [if_pos same, if_pos same.symm, recentFailures_ok]
        rfl
      · rw [if_neg same, if_neg (Ne.symm same), List.append_nil]
        exact holds other
  | fail now =>
      rw [marked, markFail, Dict.get?_set]
      by_cases same : other = url
      · subst same
        rw [if_pos rfl, if_pos rfl, recentFailures_fail, outage?, List.getLast?_concat,
          List.length_append, fails_of_holds holds]
        rfl
      · rw [if_neg same, if_neg (Ne.symm same), List.append_nil]
        exact holds other

/-- The calls of a run all return, and the client reflects them all along, exactly when
no failure comes whose power of two is too large for a float. -/
theorem refines_iff_of_holds {past : List (PyStr × Mark)} {client : RelayClient μ}
    (atLeastOne : 1 ≤ client.maxRetry) (holds : client.Holds past) (calls : List (PyStr × Mark)) :
    ((∀ event ∈ (breakerMachine μ).trace client calls, event.output = .ok ()) ∧
      ∀ next rest, calls = next ++ rest →
        ((breakerMachine μ).run client next).Reflects (past ++ next)) ↔
      (breakerMachine μ).Allowed (fun client call => client.PowerFits call.1 call.2) client calls := by
  induction calls generalizing past client with
  | nil =>
      refine iff_of_true ⟨by simp [Machine.trace], fun next rest split => ?_⟩ trivial
      obtain ⟨rfl, rfl⟩ := List.append_eq_nil_iff.mp split.symm
      rw [List.append_nil]
      exact reflects_of_holds atLeastOne holds
  | cons call calls ih =>
      have ran : (breakerMachine μ).step client call = _ := run_mark call.1 call.2 client
      rw [Machine.trace, Machine.Allowed, List.forall_mem_cons]
      by_cases fits : client.PowerFits call.1 call.2
      · rw [if_pos fits] at ran
        have onward := @ih (past ++ [call]) (client.marked call.1 call.2)
          (by cases call.2 <;> exact atLeastOne) (holds_marked holds call.1 call.2)
        rw [ran, ← onward]
        constructor
        · rintro ⟨⟨-, return_⟩, reflects⟩
          refine ⟨fits, return_, fun next rest split => ?_⟩
          have later := reflects (call :: next) rest (by rw [split, List.cons_append])
          rw [Machine.run_cons, ran] at later
          rwa [List.append_assoc]
        · rintro ⟨-, return_, reflects⟩
          refine ⟨⟨rfl, return_⟩, fun next rest split => ?_⟩
          cases next with
          | nil =>
              rw [List.append_nil]
              exact reflects_of_holds atLeastOne holds
          | cons first next =>
              cases split
              have later := reflects next rest rfl
              rw [List.append_assoc] at later
              rwa [Machine.run_cons, ran]
      · rw [if_neg fits] at ran
        apply iff_of_false
        · rintro ⟨⟨returns, -⟩, -⟩
          rw [ran] at returns
          cases returns
        · rintro ⟨allowed, -⟩
          exact fits allowed

/-- From a client that has counted nothing yet, every call returns and the breaker is what
the specification says after every history, exactly when no partner fails with
`max_retry + 1023` failures behind its last success. -/
theorem refines_iff {client : RelayClient μ} (atLeastOne : 1 ≤ client.maxRetry)
    (fresh : client.failure = []) (calls : List (PyStr × Mark)) :
    client.Refines calls ↔
      (breakerMachine μ).Allowed (fun client call => client.PowerFits call.1 call.2) client calls :=
  @refines_iff_of_holds μ [] client atLeastOne (fun url => by rw [fresh]; rfl) calls

/-- A client of one partner with the settings the program uses. -/
def onePartner : RelayClient PyStr := ⟨[lit "a"], 3, 15, 500, fiveHundred_pos, [], []⟩

/-- Four failures in a row, and a success. -/
theorem refines_outage :
    let calls := [1, 9, 17, 60].map (fun now => (lit "a", Mark.fail now)) ++ [(lit "a", .ok)]
    onePartner.Refines calls ↔
      (breakerMachine PyStr).Allowed (fun client call => client.PowerFits call.1 call.2) onePartner
        calls :=
  refines_iff (by decide) rfl _

theorem recentFailures_replicate (url : PyStr) (count : Nat) (now : ℚ) :
    (recentFailures (marksOf url (List.replicate count (url, .fail now)))).length = count := by
  have marks : marksOf url (List.replicate count (url, .fail now)) =
      List.replicate count (.fail now) := by
    simp [marksOf]
  have all : (List.replicate count (Mark.fail now)).rtakeWhile (fun mark => mark.failedAt.isSome) =
      List.replicate count (.fail now) := by
    rw [List.rtakeWhile_eq_self_iff]
    intro mark member
    rw [List.eq_of_mem_replicate member]
    rfl
  rw [marks, recentFailures, all]
  simp [List.filterMap_replicate, Mark.failedAt]

theorem run_maxRetry (client : RelayClient μ) (calls : List (PyStr × Mark)) :
    ((breakerMachine μ).run client calls).maxRetry = client.maxRetry := by
  refine Machine.run_invariant (fun _ _ => True) (fun after => after.maxRetry = client.maxRetry)
    (fun before call kept _ => ?_) rfl (Machine.allowed_of_forall _ (fun _ _ _ => trivial) client)
  have ran : (breakerMachine μ).step before call = _ := run_mark call.1 call.2 before
  rw [ran, ← kept]
  split
  · cases call.2 <;> rfl
  · rfl

/-- The failure that comes after 1026 others raises. -/
theorem raises_in_long_outage :
    ¬onePartner.Refines (List.replicate 1027 (lit "a", Mark.fail 0)) := by
  intro refines
  have counted := (refines.2 (List.replicate 1026 (lit "a", .fail 0)) [(lit "a", .fail 0)]
    (List.replicate_succ' ..)).count (lit "a")
  rw [recentFailures_replicate] at counted
  have allowed := (@refines_iff_of_holds PyStr [] onePartner (by decide) (fun url => rfl) _).mp refines
  rw [List.replicate_succ', Machine.allowed_append] at allowed
  obtain ⟨_, fits, _⟩ := allowed
  rw [PowerFits, counted] at fits
  revert fits
  have kept : ((breakerMachine PyStr).run onePartner
      (List.replicate 1026 (lit "a", .fail 0))).maxRetry = 3 := run_maxRetry _ _
  rw [kept]
  decide

end RelayClient

end HermesMesh.Collab
