import HermesMesh.Foundation.Machine

/-!
# Hits in a sliding window

A log of hits, each of a key at a time, is looked at from later and later times, and from
each of them some of the hits are expired.  Deleting expired hits cannot be noticed from
then on, as long as a hit that is expired once stays so.  A machine that purges its log
and records some of its calls therefore answers as if it had never forgotten any.
-/

namespace HermesMesh.Foundation

structure TimedHit (κ τ : Type) where
  key : κ
  time : τ
  deriving DecidableEq

/-- The times of calls do not go back. -/
def InOrder {κ τ : Type} [Preorder τ] (calls : List (TimedHit κ τ)) : Prop :=
  (calls.map TimedHit.time).Pairwise (· ≤ ·)

theorem inOrder_append {κ τ : Type} [Preorder τ] {left right : List (TimedHit κ τ)} :
    InOrder (left ++ right) ↔
      InOrder left ∧ InOrder right ∧ ∀ first ∈ left, ∀ second ∈ right, first.time ≤ second.time := by
  simp only [InOrder, List.map_append, List.pairwise_append, List.mem_map, forall_exists_index,
    and_imp, forall_apply_eq_imp_iff₂]

/-- Which hits are expired at which time. -/
structure Expiry (τ : Type) [Preorder τ] where
  expired : (now hit : τ) → Bool
  mono : ∀ {now later hit}, now ≤ later → expired now hit = true → expired later hit = true

namespace Expiry

variable {κ τ : Type} [DecidableEq κ] [Preorder τ] (expiry : Expiry τ)

/-- The hits that a purge at this time leaves. -/
def live (now : τ) (hits : List (TimedHit κ τ)) : List (TimedHit κ τ) :=
  hits.filter fun hit => !expiry.expired now hit.time

/-- The hits of a key that count at this time. -/
def counted (key : κ) (now : τ) (hits : List (TimedHit κ τ)) : List (TimedHit κ τ) :=
  (expiry.live now hits).filter fun hit => decide (hit.key = key)

/-- From a time on, two logs hold the same of a key. -/
def SameFrom (now : τ) (key : κ) (left right : List (TimedHit κ τ)) : Prop :=
  ∀ later, now ≤ later → expiry.counted key later left = expiry.counted key later right

variable {expiry}

@[simp] theorem counted_nil (key : κ) (now : τ) : expiry.counted key now [] = [] := rfl

theorem counted_append (key : κ) (now : τ) (left right : List (TimedHit κ τ)) :
    expiry.counted key now (left ++ right) =
      expiry.counted key now left ++ expiry.counted key now right := by
  simp only [counted, live, List.filter_append]

theorem mem_counted {key : κ} {now : τ} {hits : List (TimedHit κ τ)} {hit : TimedHit κ τ} :
    hit ∈ expiry.counted key now hits ↔
      hit ∈ hits ∧ expiry.expired now hit.time = false ∧ hit.key = key := by
  simp only [counted, live, List.mem_filter, Bool.not_eq_true', decide_eq_true_eq, and_assoc]

/-- A purge deletes nothing that counts later. -/
theorem counted_live {now later : τ} (ordered : now ≤ later) (key : κ)
    (hits : List (TimedHit κ τ)) :
    expiry.counted key later (expiry.live now hits) = expiry.counted key later hits := by
  rw [counted, counted]
  congr 1
  rw [live, live, List.filter_filter]
  refine List.filter_congr fun hit _ => ?_
  cases now_ : expiry.expired now hit.time with
  | false => simp
  | true => simp [expiry.mono ordered now_]

namespace SameFrom

variable {now later : τ} {key : κ} {left right : List (TimedHit κ τ)}

theorem refl (now : τ) (key : κ) (hits : List (TimedHit κ τ)) :
    expiry.SameFrom now key hits hits := fun _ _ => rfl

theorem mono (same : expiry.SameFrom now key left right) (ordered : now ≤ later) :
    expiry.SameFrom later key left right :=
  fun final after => same final (ordered.trans after)

theorem purge (same : expiry.SameFrom now key left right) (ordered : now ≤ later) :
    expiry.SameFrom later key (expiry.live later left) right := by
  intro final after
  rw [counted_live after]
  exact same final (ordered.trans after)

theorem append (same : expiry.SameFrom now key left right) (hits : List (TimedHit κ τ)) :
    expiry.SameFrom now key (left ++ hits) (right ++ hits) := by
  intro final after
  rw [counted_append, counted_append, same final after]

/-- A hit of another key is not noticed. -/
theorem append_other (same : expiry.SameFrom now key left right) {hits : List (TimedHit κ τ)}
    (others : ∀ hit ∈ hits, hit.key ≠ key) : expiry.SameFrom now key (left ++ hits) right := by
  intro final after
  have none : expiry.counted key final hits = [] := by
    refine List.filter_eq_nil_iff.mpr fun hit member => ?_
    simpa using others hit (List.mem_of_mem_filter member)
  rw [counted_append, none, List.append_nil, same final after]

end SameFrom

/-! ## Machines that purge -/

variable {ο : Type}

/-- A call answers by the hits it counts, and leaves the log or purges it and adds what
its answer records, which is no other hit than the call. -/
structure Purges (expiry : Expiry τ) (machine : Machine (List (TimedHit κ τ)) (TimedHit κ τ) ο)
    (recorded : TimedHit κ τ → ο → List (TimedHit κ τ)) : Prop where
  answers : ∀ call left right,
    expiry.counted call.key call.time left = expiry.counted call.key call.time right →
      (machine.step left call).1 = (machine.step right call).1
  table : ∀ log call,
    ((machine.step log call).2 = log ∧ recorded call (machine.step log call).1 = []) ∨
      (machine.step log call).2 =
        expiry.live call.time log ++ recorded call (machine.step log call).1
  own : ∀ call output, ∀ other ∈ recorded call output, other = call

/-- What the calls of a run record. -/
def recordedIn (recorded : TimedHit κ τ → ο → List (TimedHit κ τ))
    (events : List (Event (List (TimedHit κ τ)) (TimedHit κ τ) ο)) : List (TimedHit κ τ) :=
  events.flatMap fun event => recorded event.input event.output

/-- The answers that the calls of one key get. -/
def answersOf (key : κ) (events : List (Event (List (TimedHit κ τ)) (TimedHit κ τ) ο)) : List ο :=
  (events.filter fun event => decide (event.input.key = key)).map Event.output

namespace Purges

variable {machine : Machine (List (TimedHit κ τ)) (TimedHit κ τ) ο}
  {recorded : TimedHit κ τ → ο → List (TimedHit κ τ)} {now : τ} {key : κ}

/-- A log that forgets shows the same as one that does not after a call of both. -/
theorem sameFrom_step (purges : Purges expiry machine recorded) {table log : List (TimedHit κ τ)}
    (same : expiry.SameFrom now key table log) {call : TimedHit κ τ} (later : now ≤ call.time) :
    expiry.SameFrom call.time key (machine.step table call).2
      (log ++ recorded call (machine.step table call).1) := by
  rcases purges.table table call with ⟨left, none⟩ | purged
  · rw [left, none, List.append_nil]
    exact same.mono later
  · rw [purged]
    exact (same.purge later).append _

/-- The log of a run shows of every key what all that was recorded would show. -/
theorem sameFrom_run (purges : Purges expiry machine recorded) (key : κ)
    {calls : List (TimedHit κ τ)} (inOrder : InOrder calls) {now : τ}
    (past : ∀ call ∈ calls, call.time ≤ now) :
    expiry.SameFrom now key (machine.run [] calls) (recordedIn recorded (machine.trace [] calls)) := by
  induction calls using List.reverseRecOn generalizing now with
  | nil => exact .refl _ _ _
  | append_singleton calls call ih =>
      obtain ⟨before, -, ordered⟩ := inOrder_append.mp inOrder
      have reached := ih before fun other member => ordered other member call (List.mem_singleton_self _)
      have stepped := (purges.sameFrom_step reached le_rfl).mono (past call (by simp))
      rw [Machine.run_append, Machine.trace_append]
      simpa [Machine.trace, recordedIn] using stepped

/-- What is recorded in a run is among its calls. -/
theorem time_le_of_recorded (purges : Purges expiry machine recorded) {calls : List (TimedHit κ τ)}
    (past : ∀ call ∈ calls, call.time ≤ now) {log : List (TimedHit κ τ)} :
    ∀ call ∈ recordedIn recorded (machine.trace log calls), call.time ≤ now := by
  induction calls generalizing log with
  | nil => simp [recordedIn, Machine.trace]
  | cons first rest ih =>
      intro call member
      rw [Machine.trace, recordedIn, List.flatMap_cons] at member
      rcases List.mem_append.mp member with here | later
      · rw [purges.own _ _ _ here]
        exact past first List.mem_cons_self
      · exact ih (fun other found => past other (List.mem_cons_of_mem _ found)) call later

/-- From logs that show the same of a key, its calls get the same answers whether or not
others call in between. -/
theorem answersOf_filter (purges : Purges expiry machine recorded) {calls : List (TimedHit κ τ)}
    (inOrder : InOrder calls) (later : ∀ call ∈ calls, now ≤ call.time)
    {left right : List (TimedHit κ τ)} (same : expiry.SameFrom now key left right) :
    answersOf key (machine.trace left calls) =
      answersOf key (machine.trace right (calls.filter fun call => decide (call.key = key))) := by
  induction calls generalizing now left right with
  | nil => rfl
  | cons call rest ih =>
      have ordered := (@inOrder_append _ _ _ [call] rest).mp inOrder
      have afterwards : ∀ other ∈ rest, call.time ≤ other.time :=
        fun other member => ordered.2.2 call (List.mem_singleton_self _) other member
      have here := later call List.mem_cons_self
      have onLeft := purges.sameFrom_step same here
      rw [Machine.trace, answersOf]
      by_cases mine : call.key = key
      · subst mine
        have answers : (machine.step left call).1 = (machine.step right call).1 :=
          purges.answers call left right (same call.time here)
        have onRight := purges.sameFrom_step (SameFrom.refl now call.key right) here
        rw [← answers] at onRight
        have onward := ih ordered.2.1 afterwards (fun final after =>
          (onLeft final after).trans (onRight final after).symm)
        rw [List.filter_cons_of_pos (by simp), List.filter_cons_of_pos (by simp), List.map_cons,
          Machine.trace, answersOf, List.filter_cons_of_pos (by simp), List.map_cons, answers]
        exact congrArg _ onward
      · rw [List.filter_cons_of_neg (by simpa using mine),
          List.filter_cons_of_neg (by simpa using mine)]
        refine ih ordered.2.1 afterwards fun final after => (onLeft final after).trans ?_
        refine (SameFrom.refl call.time key right).append_other ?_ final after
        exact fun other member => by rw [purges.own _ _ _ member]; exact mine

/-- From an empty log, the calls of other keys change no answer. -/
theorem answersOf_alone (purges : Purges expiry machine recorded) {calls : List (TimedHit κ τ)}
    (inOrder : InOrder calls) (key : κ) :
    answersOf key (machine.trace [] calls) =
      answersOf key (machine.trace [] (calls.filter fun call => decide (call.key = key))) := by
  cases calls with
  | nil => rfl
  | cons first rest =>
      have ordered := (@inOrder_append _ _ _ [first] rest).mp inOrder
      refine purges.answersOf_filter inOrder (fun call member => ?_) (.refl first.time key [])
      rcases List.mem_cons.mp member with rfl | later
      · exact le_rfl
      · exact ordered.2.2 first (List.mem_singleton_self _) call later

end Purges

end Expiry

end HermesMesh.Foundation
