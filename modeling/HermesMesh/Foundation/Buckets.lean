import Mathlib

/-!
# Bounded buckets

Items are kept in named buckets of bounded size.  Placing an item takes every other item
that `isIt` calls the same out of all buckets and puts the new one at the end of its own;
a bucket that has grown too long loses its oldest items.
-/

namespace HermesMesh.Foundation

/-- A family of buckets. -/
abbrev Buckets (β α : Type) := β → List α

namespace Buckets

variable {α β : Type} [DecidableEq β]

omit [DecidableEq β] in
/-- The items of a bucket that are not replaced. -/
def others (isIt : α → Bool) (buckets : Buckets β α) (bucket : β) : List α :=
  (buckets bucket).filter fun item => !isIt item

/-- Put an item at the end of its bucket. -/
def place (isIt : α → Bool) (capacity : Nat) (target : β) (item : α) (buckets : Buckets β α) :
    Buckets β α := fun bucket =>
  if bucket = target then (others isIt buckets bucket ++ [item]).rtake capacity
  else others isIt buckets bucket

/-- No bucket is larger than its capacity. -/
def Bounded (capacity : Nat) (buckets : Buckets β α) : Prop :=
  ∀ bucket, (buckets bucket).length ≤ capacity

section Place

variable {isIt : α → Bool} {room : Nat} {target bucket : β} {item : α} {buckets : Buckets β α}

theorem place_target :
    place isIt (room + 1) target item buckets target =
      (others isIt buckets target).rtake room ++ [item] := by
  rw [place, if_pos rfl, List.rtake_concat_succ]

theorem place_of_ne {capacity : Nat} (different : bucket ≠ target) :
    place isIt capacity target item buckets bucket = others isIt buckets bucket :=
  if_neg different

theorem getLast?_place_target :
    (place isIt (room + 1) target item buckets target).getLast? = some item := by
  rw [place_target, List.getLast?_append, List.getLast?_singleton]
  rfl

omit [DecidableEq β] in
theorem mem_others {other : α} :
    other ∈ others isIt buckets bucket ↔ other ∈ buckets bucket ∧ isIt other = false := by
  simp [others]

/-- Whatever is in a bucket afterwards is the new item or was there before. -/
theorem mem_place {other : α} {capacity : Nat}
    (listed : other ∈ place isIt capacity target item buckets bucket) :
    (bucket = target ∧ other = item) ∨ (other ∈ buckets bucket ∧ isIt other = false) := by
  unfold place at listed
  split at listed
  · next own =>
      rcases List.mem_append.mp (List.drop_subset _ _ listed) with old | new
      · exact .inr (mem_others.mp old)
      · exact .inl ⟨own, List.mem_singleton.mp new⟩
  · exact .inr (mem_others.mp listed)

omit [DecidableEq β] in
theorem length_others_le : (others isIt buckets bucket).length ≤ (buckets bucket).length :=
  List.length_filter_le _ _

theorem bounded_place (bounded : Bounded (room + 1) buckets) :
    Bounded (room + 1) (place isIt (room + 1) target item buckets) := by
  intro bucket
  by_cases own : bucket = target
  · subst own
    simp only [place_target, List.length_append, List.length_singleton, List.rtake,
      List.length_drop]
    omega
  · rw [place_of_ne own]
    exact length_others_le.trans (bounded bucket)

/-- Of the items that are not replaced, the bucket loses at most its oldest. -/
theorem exists_dropped (bounded : Bounded (room + 1) buckets) :
    ∃ dropped kept, others isIt buckets target = dropped ++ kept ∧ dropped.length ≤ 1 ∧
      place isIt (room + 1) target item buckets target = kept ++ [item] := by
  refine ⟨(others isIt buckets target).rdrop room, (others isIt buckets target).rtake room, ?_, ?_,
    place_target⟩
  · exact (List.take_append_drop _ _).symm
  · have small : (others isIt buckets target).length ≤ room + 1 :=
      length_others_le.trans (bounded target)
    rw [List.rdrop, List.length_take]
    omega

/-- The items of a kind are counted without those that are replaced, and with the new one. -/
theorem countP_place_le {capacity : Nat} (kind : α → Bool) :
    (place isIt capacity target item buckets bucket).countP kind ≤
      (others isIt buckets bucket).countP kind +
        if bucket = target ∧ kind item = true then 1 else 0 := by
  unfold place
  split
  · next own =>
      refine (List.Sublist.countP_le (List.drop_sublist _ _)).trans ?_
      rw [List.countP_append, List.countP_singleton]
      simp only [own, true_and]
      exact le_refl _
  · exact Nat.le_add_right _ _

omit [DecidableEq β] in
theorem countP_others_le (kind : α → Bool) :
    (others isIt buckets bucket).countP kind ≤ (buckets bucket).countP kind :=
  List.Sublist.countP_le List.filter_sublist

omit [DecidableEq β] in
/-- None of the items that are replaced is left. -/
theorem countP_others_self : (others isIt buckets bucket).countP isIt = 0 := by
  rw [List.countP_eq_zero]
  intro other member
  rw [(mem_others.mp member).2]
  exact Bool.false_ne_true

/-- Over all buckets, an item is counted once. -/
theorem countP_flatMap_place_le {capacity : Nat} (kind : α → Bool) {names : List β}
    (distinct : names.Nodup) :
    (names.flatMap (place isIt capacity target item buckets)).countP kind ≤
      (names.flatMap (others isIt buckets)).countP kind + if kind item = true then 1 else 0 := by
  induction names with
  | nil => exact Nat.zero_le _
  | cons bucket rest ih =>
      rw [List.nodup_cons] at distinct
      have later := ih distinct.2
      have here := @countP_place_le α β _ isIt target bucket item buckets capacity kind
      simp only [List.flatMap_cons, List.countP_append]
      by_cases own : bucket = target
      · -- The new item is in this bucket, so the rest has none of it.
        subst own
        have untouched : rest.flatMap (place isIt capacity bucket item buckets) =
            rest.flatMap (others isIt buckets) := by
          apply List.flatMap_congr
          intro other member
          apply place_of_ne
          rintro rfl
          exact distinct.1 member
        rw [untouched]
        simp only [true_and] at here
        omega
      · rw [if_neg fun both => own both.1] at here
        omega

omit [DecidableEq β] in
theorem countP_flatMap_others_le (kind : α → Bool) (names : List β) :
    (names.flatMap (others isIt buckets)).countP kind ≤ (names.flatMap buckets).countP kind := by
  induction names with
  | nil => exact le_refl _
  | cons bucket rest ih =>
      simp only [List.flatMap_cons, List.countP_append]
      exact Nat.add_le_add (countP_others_le kind) ih

omit [DecidableEq β] in
theorem countP_flatMap_others_self (names : List β) :
    (names.flatMap (others isIt buckets)).countP isIt = 0 := by
  induction names with
  | nil => rfl
  | cons bucket rest ih =>
      rw [List.flatMap_cons, List.countP_append, ih, countP_others_self]

end Place

end Buckets

end HermesMesh.Foundation
