import HermesMesh.Python.Repr

/-!
# Fields in another order

Two dictionaries with the same lookups have the same fields.  An encoder that sorts the keys
writes them as one text, so a file does not show in which order its fields were set.  Values
are alike when they differ in such orders only, and what is looked up in them, or put into
them, is alike again.
-/

namespace HermesMesh.Python

namespace Dict

variable {κ α : Type} [DecidableEq κ]

/-- The fields are those of the lookups, in some order. -/
theorem perm_of_get? {left right : Dict κ α} (leftDistinct : left.keys.Nodup)
    (rightDistinct : right.keys.Nodup) (same : ∀ key, left.get? key = right.get? key) :
    left.Perm right := by
  have leftNodup : List.Nodup left := List.Nodup.of_map Prod.fst leftDistinct
  have rightNodup : List.Nodup right := List.Nodup.of_map Prod.fst rightDistinct
  apply (List.perm_ext_iff_of_nodup leftNodup rightNodup).mpr
  intro field
  obtain ⟨key, value⟩ := field
  constructor
  · intro member
    exact mem_of_get? (same key ▸ get?_of_mem leftDistinct member)
  · intro member
    exact mem_of_get? ((same key).symm ▸ get?_of_mem rightDistinct member)

end Dict

namespace Json

/-- Sorting forgets the order of fields. -/
theorem sortFields_eq_of_perm {α : Type} {left right : Dict PyStr α} (distinct : right.keys.Nodup)
    (perm : left.Perm right) : sortFields left = sortFields right := by
  have total : Std.Total (fun left right : PyStr × α => left.1 ≤ right.1) :=
    ⟨fun left right => le_total left.1 right.1⟩
  have trans : IsTrans (PyStr × α) (fun left right => left.1 ≤ right.1) :=
    ⟨fun _ _ _ first second => le_trans first second⟩
  apply List.Perm.eq_of_pairwise
  · intro first second inLeft inRight before after
    have inFirst : first ∈ right := perm.mem_iff.mp ((List.perm_insertionSort _ left).mem_iff.mp inLeft)
    have inSecond : second ∈ right := (List.perm_insertionSort _ right).mem_iff.mp inRight
    have keys : first.1 = second.1 := le_antisymm before after
    have one := Dict.get?_of_mem distinct inFirst
    have other := Dict.get?_of_mem distinct inSecond
    rw [keys, other] at one
    exact Prod.ext keys (Option.some.inj one).symm
  · exact List.pairwise_insertionSort _ left
  · exact List.pairwise_insertionSort _ right
  · exact (List.perm_insertionSort _ left).trans (perm.trans (List.perm_insertionSort _ right).symm)

/-! ## Values that are alike -/

theorem orderedItems_eq_map (style : JsonStyle) (items : List Json) :
    orderedItems style items = items.map (ordered style) := by
  induction items with
  | nil => rfl
  | cons item rest ih => rw [orderedItems, ih, List.map_cons]

/-- The values have one canonical form: the fields of their objects may come in other orders. -/
structure Alike (left right : Json) : Prop where
  leftDistinct : left.Distinct
  rightDistinct : right.Distinct
  same : left.ordered .canonical = right.ordered .canonical

theorem alike_refl {value : Json} (distinct : value.Distinct) : Alike value value :=
  ⟨distinct, distinct, rfl⟩

namespace Alike

variable {left right : Json}

theorem symm (alike : Alike left right) : Alike right left :=
  ⟨alike.rightDistinct, alike.leftDistinct, alike.same.symm⟩

theorem trans {last : Json} (first : Alike left right) (second : Alike right last) :
    Alike left last :=
  ⟨first.leftDistinct, second.rightDistinct, first.same.trans second.same⟩

/-- They are written as one text. -/
theorem dumps_eq (alike : Alike left right) : left.dumps .canonical = right.dumps .canonical := by
  rw [← dumps_ordered .canonical left, alike.same, dumps_ordered]

/-- Values without fields are alike when they are the same. -/
theorem shapes (alike : Alike left right) :
    (∃ fields others, left = .obj fields ∧ right = .obj others) ∨
    (∃ items others, left = .arr items ∧ right = .arr others) ∨ left = right := by
  have same := alike.same
  cases left with
  | obj fields =>
      cases right with
      | obj others => exact .inl ⟨fields, others, rfl, rfl⟩
      | _ => simp [ordered] at same
  | arr items =>
      cases right with
      | arr others => exact .inr (.inl ⟨items, others, rfl, rfl⟩)
      | _ => simp [ordered] at same
  | null | bool | int | float | str =>
      right
      right
      cases right with
      | obj others => simp [ordered] at same
      | arr others => simp [ordered] at same
      | null | bool | int | float | str => exact same

theorem truthy_eq (alike : Alike left right) : left.truthy = right.truthy := by
  rcases alike.shapes with ⟨fields, others, rfl, rfl⟩ | ⟨items, others, rfl, rfl⟩ | rfl
  · have length := congrArg List.length (Json.obj.inj alike.same)
    rw [(perm_orderFields _ _).length_eq, (perm_orderFields _ _).length_eq, orderedFields_eq_map,
      orderedFields_eq_map, List.length_map, List.length_map] at length
    cases fields <;> cases others <;> simp_all [truthy]
  · have length := congrArg List.length (Json.arr.inj alike.same)
    rw [orderedItems_eq_map, orderedItems_eq_map, List.length_map, List.length_map] at length
    cases items <;> cases others <;> simp_all [truthy]
  · rfl

/-- A text is equal to both or to none. -/
theorem pyEq_str (alike : Alike left right) (text : PyStr) :
    left.pyEq (.str text) = right.pyEq (.str text) := by
  rcases alike.shapes with ⟨fields, others, rfl, rfl⟩ | ⟨items, others, rfl, rfl⟩ | rfl
  · rfl
  · rfl
  · rfl

end Alike

/-- What is read back from a text is alike what was written. -/
theorem alike_ordered {value : Json} (distinct : value.Distinct) :
    Alike (value.ordered .canonical) value := by
  have back := @loads_canonical value distinct [] (by simp)
  have again := distinct_of_loads back
  exact ⟨again, distinct, ordered_eq_of_dumps_eq again distinct (dumps_ordered _ _)⟩

theorem alike_arr_iff {items others : List Json} :
    Alike (.arr items) (.arr others) ↔ List.Forall₂ Alike items others := by
  constructor
  · intro alike
    have own := distinctItems_iff.mp alike.leftDistinct
    have their := distinctItems_iff.mp alike.rightDistinct
    have same := Json.arr.inj alike.same
    rw [orderedItems_eq_map, orderedItems_eq_map] at same
    clear alike
    induction items generalizing others with
    | nil =>
        cases others with
        | nil => exact .nil
        | cons other rest => cases same
    | cons item rest ih =>
        cases others with
        | nil => cases same
        | cons other others =>
            obtain ⟨head, tail⟩ := List.cons_eq_cons.mp same
            apply List.Forall₂.cons
            · exact ⟨own _ List.mem_cons_self, their _ List.mem_cons_self, head⟩
            · exact ih (fun item member => own item (List.mem_cons_of_mem _ member))
                (fun item member => their item (List.mem_cons_of_mem _ member)) tail
  · intro pairs
    induction pairs with
    | nil => exact alike_refl trivial
    | cons head tail ih =>
        have same := Json.arr.inj ih.same
        refine ⟨⟨head.leftDistinct, ih.leftDistinct⟩, ⟨head.rightDistinct, ih.rightDistinct⟩, ?_⟩
        rw [ordered, ordered, orderedItems, orderedItems, head.same, same]

/-- Objects are alike when their lookups are. -/
theorem alike_obj {fields others : Dict PyStr Json} (distinct : (Json.obj fields).Distinct)
    (othersDistinct : (Json.obj others).Distinct)
    (lookups : ∀ key, (fields.get? key).map (ordered .canonical) =
      (others.get? key).map (ordered .canonical)) : Alike (.obj fields) (.obj others) := by
  refine ⟨distinct, othersDistinct, ?_⟩
  have keys : ∀ fields : Dict PyStr Json,
      Dict.keys (orderedFields .canonical fields) = fields.keys := by
    intro fields
    rw [orderedFields_eq_map]
    simp [Dict.keys, List.map_map, Function.comp_def]
  have perm : List.Perm (orderedFields .canonical fields) (orderedFields .canonical others) := by
    apply Dict.perm_of_get?
    · rw [keys]
      exact distinct.1
    · rw [keys]
      exact othersDistinct.1
    · intro key
      rw [orderedFields_eq_map, orderedFields_eq_map, Dict.get?_map, Dict.get?_map]
      exact lookups key
  rw [ordered, ordered]
  congr 1
  apply sortFields_eq_of_perm _ perm
  rw [keys]
  exact othersDistinct.1

namespace Alike

variable {fields others : Dict PyStr Json}

/-- A key is in both or in none, with values that are alike. -/
theorem get? (alike : Alike (.obj fields) (.obj others)) (key : PyStr) :
    (fields.get? key = none ∧ others.get? key = none) ∨
      ∃ value other, fields.get? key = some value ∧ others.get? key = some other ∧
        Alike value other := by
  have same := congrArg (Dict.get? key) (Json.obj.inj alike.same)
  rw [get?_orderedFields .canonical alike.leftDistinct.1,
    get?_orderedFields .canonical alike.rightDistinct.1] at same
  cases found : fields.get? key with
  | none =>
      rw [found, Option.map_none, eq_comm, Option.map_eq_none_iff] at same
      exact .inl ⟨rfl, same⟩
  | some value =>
      rw [found, Option.map_some, eq_comm, Option.map_eq_some_iff] at same
      obtain ⟨other, isOther, same⟩ := same
      refine .inr ⟨value, other, rfl, isOther, ?_, ?_, same.symm⟩
      · exact distinctFields_iff.mp alike.leftDistinct.2 _ (Dict.mem_of_get? found)
      · exact distinctFields_iff.mp alike.rightDistinct.2 _ (Dict.mem_of_get? isOther)

/-- A field is set to values that are alike. -/
theorem set (alike : Alike (.obj fields) (.obj others)) (key : PyStr) {value other : Json}
    (values : Alike value other) :
    Alike (.obj (fields.set key value)) (.obj (others.set key other)) := by
  apply alike_obj
  · exact JsonObject.distinct_set alike.leftDistinct key values.leftDistinct
  · exact JsonObject.distinct_set alike.rightDistinct key values.rightDistinct
  · intro looked
    rw [Dict.get?_set, Dict.get?_set]
    split
    · exact congrArg some values.same
    · rcases alike.get? looked with ⟨none, alsoNone⟩ | ⟨value, other, found, isOther, values⟩
      · rw [none, alsoNone]
      · rw [found, isOther]
        exact congrArg some values.same

end Alike

end Json

end HermesMesh.Python
