import Mathlib

/-!
# Counts over a list in which one entry changes

A machine that keeps its parties in a list changes one of them in a step.  Each lemma
says what that does to a count or a sum, without a subtraction.  A kind that grows step
by step over a fixed list stops growing within as many steps as there are entries.
-/

namespace HermesMesh.Foundation

variable {α : Type}

/-- The sum of a measure before and after an entry is replaced. -/
theorem sum_map_set (measure : α → Nat) {values : List α} {index : Nat} {old : α}
    (found : values[index]? = some old) (new : α) :
    ((values.set index new).map measure).sum + measure old =
      (values.map measure).sum + measure new := by
  induction values generalizing index with
  | nil => cases found
  | cons head rest ih =>
      cases index with
      | zero =>
          cases found
          simp only [List.set_cons_zero, List.map_cons, List.sum_cons]
          omega
      | succ index =>
          have later := ih (List.getElem?_cons_succ ▸ found)
          simp only [List.set_cons_succ, List.map_cons, List.sum_cons]
          omega

/-- The number of entries of a kind before and after an entry is replaced. -/
theorem countP_set_add (kind : α → Bool) {values : List α} {index : Nat} {old : α}
    (found : values[index]? = some old) (new : α) :
    (values.set index new).countP kind + (if kind old then 1 else 0) =
      values.countP kind + if kind new then 1 else 0 := by
  obtain ⟨inRange, isOld⟩ := List.getElem?_eq_some_iff.mp found
  rw [List.countP_set inRange, isOld]
  split
  · next holds =>
      have atLeast : 0 < values.countP kind :=
        List.countP_pos_iff.mpr ⟨old, List.mem_of_getElem? found, holds⟩
      omega
  · omega

/-- An entry that stays of its kind changes no count. -/
theorem countP_set_of_same {kind : α → Bool} {values : List α} {index : Nat} {old new : α}
    (found : values[index]? = some old) (same : kind new = kind old) :
    (values.set index new).countP kind = values.countP kind := by
  have moved := countP_set_add kind found new
  rw [same] at moved
  omega

/-- What is read of the entries is the same where the new entry agrees with the old. -/
theorem map_set_of_same {β : Type} {field : α → β} {values : List α} {index : Nat} {old new : α}
    (found : values[index]? = some old) (same : field new = field old) :
    (values.set index new).map field = values.map field := by
  obtain ⟨inRange, isOld⟩ := List.getElem?_eq_some_iff.mp found
  have inMap : index < (values.map field).length := by simpa using inRange
  have unchanged : (values.map field)[index] = field new := by
    rw [List.getElem_map, isOld, same]
  rw [List.map_set, ← unchanged, List.set_getElem_self]

/-- A kind that takes in one more entry counts more. -/
theorem countP_lt_countP {less more : α → Bool} {values : List α}
    (grows : ∀ value ∈ values, less value = true → more value = true) {value : α}
    (member : value ∈ values) (isMore : more value = true) (notLess : less value = false) :
    values.countP less < values.countP more := by
  induction values with
  | nil => cases member
  | cons head rest ih =>
      have headGrows := grows head List.mem_cons_self
      have restGrows : ∀ other ∈ rest, less other = true → more other = true :=
        fun other inRest => grows other (List.mem_cons_of_mem _ inRest)
      rw [List.countP_cons, List.countP_cons]
      rcases List.mem_cons.mp member with rfl | inRest
      · have others := List.countP_mono_left restGrows
        simp only [isMore, notLess, if_true, Bool.false_eq_true, if_false]
        omega
      · have fewer := ih restGrows inRest
        cases isLess : less head with
        | true =>
            simp only [headGrows isLess, if_true]
            omega
        | false =>
            simp only [Bool.false_eq_true, if_false]
            omega

/-- A growing count with a bound has a step at which it does not grow. -/
theorem exists_steady {count : Nat → Nat} {bound : Nat} (bounded : ∀ step, count step ≤ bound)
    (grows : ∀ step, count step ≤ count (step + 1)) :
    ∃ step ≤ bound, count (step + 1) = count step := by
  by_contra never
  push Not at never
  have atLeast : ∀ step ≤ bound + 1, step ≤ count step := by
    intro step within
    induction step with
    | zero => exact Nat.zero_le _
    | succ step ih =>
        have here := ih (Nat.le_of_succ_le within)
        have differs := never step (Nat.le_of_succ_le_succ within)
        have onward := grows step
        omega
  have last := atLeast (bound + 1) le_rfl
  have few := bounded (bound + 1)
  omega

end HermesMesh.Foundation
