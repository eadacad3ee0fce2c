import Mathlib

/-!
# Insertion-ordered dictionaries

A Python `dict` is an association list whose keys are distinct: assignment
replaces a value in place and appends a new key, and iteration follows the
insertion order.
-/

namespace HermesMesh.Python

universe u v

/-- A Python `dict`, in insertion order. -/
abbrev Dict (κ : Type u) (α : Type v) := List (κ × α)

namespace Dict

variable {κ : Type u} {α : Type v} {β : Type v} [DecidableEq κ]

/-- `d.get(key)`; `none` when the key is absent. -/
def get? (key : κ) : Dict κ α → Option α
  | [] => none
  | (other, value) :: rest => if other = key then some value else get? key rest

/-- `d[key] = value`. -/
def set (key : κ) (value : α) : Dict κ α → Dict κ α
  | [] => [(key, value)]
  | (other, old) :: rest =>
      if other = key then (other, value) :: rest else (other, old) :: set key value rest

omit [DecidableEq κ] in
/-- The keys in insertion order. -/
def keys (d : Dict κ α) : List κ := d.map Prod.fst

/-- `d.pop(key, None)`. -/
def erase (key : κ) (d : Dict κ α) : Dict κ α := d.filter fun pair => !decide (pair.1 = key)

/-- `dict(pairs)`: a repeated key keeps its first place and its last value. -/
def ofPairs (pairs : List (κ × α)) : Dict κ α :=
  pairs.foldl (fun d pair => d.set pair.1 pair.2) []

@[simp] theorem get?_nil (key : κ) : get? key ([] : Dict κ α) = none := rfl

@[simp] theorem get?_set_self (key : κ) (value : α) (d : Dict κ α) :
    (d.set key value).get? key = some value := by
  induction d with
  | nil => simp [set, get?]
  | cons pair rest ih =>
      obtain ⟨other, old⟩ := pair
      by_cases same : other = key <;> simp [set, get?, same, ih]

theorem get?_set_of_ne {key other : κ} (different : other ≠ key) (value : α) (d : Dict κ α) :
    (d.set key value).get? other = d.get? other := by
  induction d with
  | nil => simp [set, get?, different.symm]
  | cons pair rest ih =>
      obtain ⟨head, old⟩ := pair
      by_cases same : head = key
      · subst same
        simp [set, get?, different.symm]
      · rw [set, if_neg same]
        by_cases found : head = other <;> simp [get?, found, ih]

theorem get?_set (key other : κ) (value : α) (d : Dict κ α) :
    (d.set key value).get? other = if other = key then some value else d.get? other := by
  split
  · next same => rw [same, get?_set_self]
  · next different => exact get?_set_of_ne different value d

/-- Assigning the value that a key has changes nothing. -/
theorem set_eq_self {key : κ} {value : α} {d : Dict κ α} (found : d.get? key = some value) :
    d.set key value = d := by
  induction d with
  | nil => cases found
  | cons pair rest ih =>
      obtain ⟨other, old⟩ := pair
      by_cases same : other = key
      · rw [get?, if_pos same, Option.some.injEq] at found
        rw [set, if_pos same, found]
      · rw [get?, if_neg same] at found
        rw [set, if_neg same, ih found]

theorem get?_erase (key other : κ) (d : Dict κ α) :
    (d.erase key).get? other = if other = key then none else d.get? other := by
  induction d with
  | nil => simp [erase, get?]
  | cons pair rest ih =>
      obtain ⟨head, value⟩ := pair
      simp only [erase] at ih
      by_cases erased : head = key
      · subst erased
        by_cases same : other = head
        · subst same
          simpa [erase] using ih
        · simpa [erase, get?, same, Ne.symm same] using ih
      · by_cases same : head = other
        · subst same
          simp [erase, get?, erased]
        · simpa [erase, get?, erased, same] using ih

@[simp] theorem get?_eq_none {key : κ} {d : Dict κ α} : d.get? key = none ↔ key ∉ d.keys := by
  induction d with
  | nil => simp [get?, keys]
  | cons pair rest ih =>
      obtain ⟨other, value⟩ := pair
      by_cases same : other = key
      · simp [get?, keys, same]
      · have ih' : get? key rest = none ↔ key ∉ rest.map Prod.fst := ih
        simp [get?, keys, same, ih', Ne.symm same]

theorem mem_set {key : κ} {value : α} {d : Dict κ α} {item : κ × α} (listed : item ∈ d.set key value) :
    item = (key, value) ∨ item ∈ d := by
  induction d with
  | nil => exact .inl (List.mem_singleton.mp listed)
  | cons entry rest ih =>
      obtain ⟨other, old⟩ := entry
      rw [set] at listed
      split at listed
      · next isKey =>
          rcases List.mem_cons.mp listed with same | later
          · exact .inl (isKey ▸ same)
          · exact .inr (List.mem_cons_of_mem _ later)
      · rcases List.mem_cons.mp listed with same | later
        · exact .inr (same ▸ List.mem_cons_self)
        · rcases ih later with new | before
          · exact .inl new
          · exact .inr (List.mem_cons_of_mem _ before)

theorem mem_of_get? {key : κ} {value : α} {d : Dict κ α} (found : d.get? key = some value) :
    (key, value) ∈ d := by
  induction d with
  | nil => cases found
  | cons pair rest ih =>
      obtain ⟨other, old⟩ := pair
      by_cases same : other = key
      · subst same
        simp only [get?, if_true, Option.some.injEq] at found
        simp [found]
      · simp only [get?, if_neg same] at found
        simp [ih found]

/-- With distinct keys, membership determines the value. -/
theorem get?_of_mem {key : κ} {value : α} {d : Dict κ α} (distinct : d.keys.Nodup)
    (member : (key, value) ∈ d) : d.get? key = some value := by
  induction d with
  | nil => cases member
  | cons pair rest ih =>
      obtain ⟨other, old⟩ := pair
      rw [keys, List.map_cons, List.nodup_cons] at distinct
      rcases List.mem_cons.mp member with head | tail
      · cases head
        simp [get?]
      · have present : key ∈ rest.map Prod.fst := List.mem_map.mpr ⟨_, tail, rfl⟩
        have different : other ≠ key := fun equal => distinct.1 (equal ▸ present)
        simp [get?, different, ih distinct.2 tail]

/-- Reordering a dictionary with distinct keys changes no lookup. -/
theorem get?_perm {left right : Dict κ α} (distinct : right.keys.Nodup)
    (perm : left.Perm right) (key : κ) : left.get? key = right.get? key := by
  have leftDistinct : left.keys.Nodup := (perm.map Prod.fst).nodup_iff.mpr distinct
  cases found : left.get? key with
  | some value => exact (get?_of_mem distinct (perm.mem_iff.mp (mem_of_get? found))).symm
  | none =>
      rw [get?_eq_none] at found
      symm
      rw [get?_eq_none]
      exact fun present => found ((perm.map Prod.fst).mem_iff.mpr present)

theorem get?_map (f : α → β) (key : κ) (d : Dict κ α) :
    get? key (d.map fun pair => (pair.1, f pair.2)) = (d.get? key).map f := by
  induction d with
  | nil => rfl
  | cons pair rest ih =>
      by_cases same : pair.1 = key <;> simp [get?, same, ih]

/-- Values are set before or after they are mapped. -/
theorem set_map (f : α → β) (key : κ) (value : α) (d : Dict κ α) :
    set key (f value) (d.map fun pair => (pair.1, f pair.2)) =
      (d.set key value).map fun pair => (pair.1, f pair.2) := by
  induction d with
  | nil => rfl
  | cons pair rest ih =>
      by_cases same : pair.1 = key
      · rw [List.map_cons, set, set, if_pos same, if_pos same, List.map_cons]
      · rw [List.map_cons, set, set, if_neg same, if_neg same, List.map_cons, ih]

theorem mem_keys_set {key other : κ} {value : α} {d : Dict κ α} :
    other ∈ (d.set key value).keys ↔ other = key ∨ other ∈ d.keys := by
  rw [← not_iff_not, not_or, ← get?_eq_none, ← get?_eq_none, get?_set]
  split <;> simp_all

theorem keys_set_nodup {key : κ} {value : α} {d : Dict κ α} (distinct : d.keys.Nodup) :
    (d.set key value).keys.Nodup := by
  induction d with
  | nil => simp [set, keys]
  | cons pair rest ih =>
      obtain ⟨other, old⟩ := pair
      rw [keys, List.map_cons, List.nodup_cons] at distinct
      by_cases same : other = key
      · rw [set, if_pos same, keys, List.map_cons, List.nodup_cons]
        exact distinct
      · rw [set, if_neg same, keys, List.map_cons, List.nodup_cons]
        refine ⟨?_, ih distinct.2⟩
        intro member
        rcases mem_keys_set.mp member with equal | present
        · exact same equal
        · exact distinct.1 present

theorem length_set_le (key : κ) (value : α) (d : Dict κ α) :
    (d.set key value).length ≤ d.length + 1 := by
  induction d with
  | nil => exact Nat.le_refl 1
  | cons pair rest ih =>
      by_cases same : pair.1 = key
      · rw [set, if_pos same]
        exact Nat.le_succ _
      · rw [set, if_neg same]
        exact Nat.succ_le_succ ih

theorem set_of_notMem {key : κ} {value : α} {d : Dict κ α} (absent : key ∉ d.keys) :
    d.set key value = d ++ [(key, value)] := by
  induction d with
  | nil => rfl
  | cons pair rest ih =>
      obtain ⟨other, old⟩ := pair
      rw [keys, List.map_cons, List.mem_cons, not_or] at absent
      rw [set, if_neg (Ne.symm absent.1), ih absent.2, List.cons_append]

theorem ofPairs_keys_nodup (pairs : List (κ × α)) : (ofPairs pairs).keys.Nodup := by
  have run : ∀ (start : Dict κ α), start.keys.Nodup →
      (pairs.foldl (fun d pair => d.set pair.1 pair.2) start).keys.Nodup := by
    induction pairs with
    | nil => exact fun _ distinct => distinct
    | cons pair rest ih => exact fun start distinct => ih _ (keys_set_nodup distinct)
  exact run [] List.nodup_nil

/-- Distinct keys are stored as they come. -/
theorem ofPairs_of_nodup {pairs : List (κ × α)} (distinct : (pairs.map Prod.fst).Nodup) :
    ofPairs pairs = pairs := by
  have run : ∀ (start : Dict κ α), (start ++ pairs).keys.Nodup →
      pairs.foldl (fun d pair => d.set pair.1 pair.2) start = start ++ pairs := by
    induction pairs with
    | nil => simp
    | cons pair rest ih =>
        intro start allDistinct
        have split : start ++ pair :: rest = (start ++ [pair]) ++ rest := by simp
        have absent : pair.1 ∉ start.keys := by
          rw [keys, List.map_append, List.nodup_append] at allDistinct
          intro present
          exact allDistinct.2.2 _ present pair.1 (by simp) rfl
        rw [List.foldl_cons, set_of_notMem absent, split]
        rw [split] at allDistinct
        exact ih (List.nodup_cons.mp distinct).2 _ allDistinct
  exact run [] (by simpa [keys] using distinct)

end Dict

end HermesMesh.Python
