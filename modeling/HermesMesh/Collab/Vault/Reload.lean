import HermesMesh.Collab.Vault.StateShape
import HermesMesh.Foundation.SideBySide
import HermesMesh.Python.FieldOrder

/-!
# Starting again

What a call of the vault leaves in the memory is in `state.json` when the call returns, and a
new vault over that file has it again: the fields of its objects may come in another order,
which no later call can tell.  So the program may be stopped and started between any two calls
of which none has failed half way, and the calls and the files do not show it.
-/

namespace HermesMesh.Collab

open Python Foundation Foundation.Action

/-! ## Loaded states -/

/-- A state as loading leaves it: with all fields of the default, and with lists in the
buckets of its tasks. -/
structure Loaded (state : Dict PyStr Json) : Prop where
  fields : ∀ key ∈ defaultFields.keys, key ∈ state.keys
  tasks : ∃ tasks : Dict PyStr Json, state.get? (lit "tasks") = some (.obj tasks) ∧
    ∀ status : TaskStatus, ∃ items, tasks.get? status.text = some (.arr items)

theorem distinct_default : (Json.obj defaultFields).Distinct := by
  refine ⟨?_, ⟨List.nodup_nil, trivial⟩, ⟨?_, trivial, trivial, trivial, trivial⟩, trivial, trivial,
    trivial, trivial, trivial⟩
  · simp only [defaultFields, List.map_cons, List.map_nil, List.nodup_cons, List.mem_cons, lit_inj]
    decide
  · simp only [TaskStatus.all, TaskStatus.text, List.map_cons, List.map_nil, List.nodup_cons,
      List.mem_cons, lit_inj]
    decide

theorem distinct_updateFields {base data : Dict PyStr Json} (baseDistinct : (Json.obj base).Distinct)
    (dataDistinct : (Json.obj data).Distinct) : (Json.obj (updateFields base data)).Distinct := by
  have values := Json.distinctFields_iff.mp dataDistinct.2
  clear dataDistinct
  unfold updateFields
  induction data generalizing base with
  | nil => exact baseDistinct
  | cons field rest ih =>
      apply ih
      · exact JsonObject.distinct_set baseDistinct _ (values field List.mem_cons_self)
      · exact fun other member => values other (List.mem_cons_of_mem _ member)

theorem distinct_repaired {tasks : Dict PyStr Json} (distinct : (Json.obj tasks).Distinct)
    (statuses : List TaskStatus) : (Json.obj (statuses.foldl repairBucket tasks)).Distinct := by
  induction statuses generalizing tasks with
  | nil => exact distinct
  | cons status rest ih =>
      apply ih
      unfold repairBucket
      split
      · exact distinct
      · exact JsonObject.distinct_set distinct _ trivial

/-- Lists in all buckets need no repair. -/
theorem repaired_eq_self {tasks : Dict PyStr Json}
    (lists : ∀ status : TaskStatus, ∃ items, tasks.get? status.text = some (.arr items))
    (statuses : List TaskStatus) : statuses.foldl repairBucket tasks = tasks := by
  induction statuses with
  | nil => rfl
  | cons status rest ih =>
      obtain ⟨items, bucket⟩ := lists status
      have same : repairBucket tasks status = tasks := by
        rw [repairBucket, bucket]
      rw [List.foldl_cons, same, ih]

theorem mem_keys_set {fields : Dict PyStr Json} {key other : PyStr} (value : Json)
    (present : key ∈ fields.keys) : key ∈ (fields.set other value).keys := by
  by_contra absent
  have none := Dict.get?_eq_none.mpr absent
  rw [Dict.get?_set] at none
  split at none
  · cases none
  · exact Dict.get?_eq_none.mp none present

/-- What is made of an object is a loaded state. -/
theorem loaded_stateOf {data state : Dict PyStr Json} (distinct : (Json.obj data).Distinct)
    (made : stateOf (.obj data) = .ok state) : (Json.obj state).Distinct ∧ Loaded state := by
  obtain ⟨tasks, isTasks, isState⟩ := stateOf_eq_ok.mp made
  have base := distinct_updateFields distinct_default distinct
  have tasksDistinct : (Json.obj tasks).Distinct := by
    rw [getOr] at isTasks
    cases found : (updateFields defaultFields data).get? (lit "tasks") with
    | none =>
        rw [found] at isTasks
        cases isTasks
        exact ⟨List.nodup_nil, trivial⟩
    | some value =>
        rw [found] at isTasks
        cases isTasks
        exact Json.distinctFields_iff.mp base.2 _ (Dict.mem_of_get? found)
  subst isState
  refine ⟨JsonObject.distinct_set base _ (distinct_repaired tasksDistinct _), ?_, ?_⟩
  · intro key isDefault
    apply mem_keys_set
    by_contra absent
    have none := Dict.get?_eq_none.mpr absent
    rw [get?_base distinct.1, Option.or_eq_none_iff] at none
    exact Dict.get?_eq_none.mp none.2 isDefault
  · exact ⟨_, Dict.get?_set_self _ _ _, fun status => ⟨_, get?_repaired tasks status⟩⟩

theorem loaded_default : Loaded defaultFields where
  fields := fun key isDefault => isDefault
  tasks := by
    refine ⟨_, rfl, ?_⟩
    intro status
    refine ⟨[], ?_⟩
    cases status <;> rfl

/-- Whatever the file holds, what is loaded from it is a loaded state. -/
theorem loaded_loadState {content : ByteArray} {state : Dict PyStr Json}
    (loads : loadState content = .ok state) : (Json.obj state).Distinct ∧ Loaded state := by
  unfold loadState at loads
  split at loads
  · cases loads
  · split at loads
    · cases loads
      exact ⟨distinct_default, loaded_default⟩
    · next data read =>
        cases data with
        | obj fields => exact loaded_stateOf (distinct_of_loads read) loads
        | _ => exact @loaded_stateOf [] state ⟨List.nodup_nil, trivial⟩ loads

theorem Loaded.of_alike {state other : Dict PyStr Json} (alike : Json.Alike (.obj state) (.obj other))
    (loaded : Loaded state) : Loaded other where
  fields := by
    intro key isDefault
    by_contra absent
    rcases alike.get? key with ⟨none, -⟩ | ⟨value, found, -, isFound, -⟩
    · exact Dict.get?_eq_none.mp none (loaded.fields key isDefault)
    · cases isFound.symm.trans (Dict.get?_eq_none.mpr absent)
  tasks := by
    obtain ⟨tasks, isTasks, lists⟩ := loaded.tasks
    rcases alike.get? (lit "tasks") with ⟨none, -⟩ | ⟨value, found, isValue, isFound, both⟩
    · cases isTasks.symm.trans none
    · cases isTasks.symm.trans isValue
      rcases both.shapes with ⟨fields, others, same, rfl⟩ | ⟨items, others, same, -⟩ | rfl
      · cases same
        refine ⟨others, isFound, ?_⟩
        intro status
        obtain ⟨items, bucket⟩ := lists status
        rcases both.get? status.text with ⟨none, -⟩ | ⟨value, found, isValue, isFound, both⟩
        · cases bucket.symm.trans none
        · cases bucket.symm.trans isValue
          rcases both.shapes with ⟨fields, others, same, -⟩ | ⟨items, others, same, rfl⟩ | rfl
          · cases same
          · exact ⟨others, isFound⟩
          · exact ⟨items, isFound⟩
      · cases same
      · exact ⟨tasks, isFound, lists⟩

/-! ## The round trip -/

/-- A loaded state that is written is loaded again, as one that is alike. -/
theorem reloaded {state : Dict PyStr Json} (distinct : (Json.obj state).Distinct)
    (loaded : Loaded state) {content : ByteArray} (written : jsonBytes (.obj state) = some content) :
    ∃ again, loadState content = .ok again ∧ Json.Alike (.obj again) (.obj state) := by
  obtain ⟨text, decoded, read⟩ := loads_jsonBytes distinct written
  have back := Json.alike_ordered distinct
  rw [Json.ordered] at read back
  generalize Json.orderFields .canonical (Json.orderedFields .canonical state) = fields at read back
  have fieldsLoaded := loaded.of_alike back.symm
  obtain ⟨tasks, isTasks, lists⟩ := fieldsLoaded.tasks
  -- The defaults are all overwritten.
  have lookups : ∀ key, (updateFields defaultFields fields).get? key = fields.get? key := by
    intro key
    rw [get?_base back.leftDistinct.1]
    cases found : fields.get? key with
    | some value => rfl
    | none =>
        by_contra isDefault
        apply Dict.get?_eq_none.mp found
        apply fieldsLoaded.fields
        by_contra absent
        exact isDefault (Dict.get?_eq_none.mpr absent)
  refine ⟨updateFields defaultFields fields, ?_, ?_⟩
  · rw [loadState, decoded]
    simp only [read]
    apply stateOf_eq_ok.mpr
    refine ⟨tasks, ?_, ?_⟩
    · rw [getOr, lookups, isTasks]
      rfl
    · rw [repaired_eq_self lists]
      exact Dict.set_eq_self ((lookups _).trans isTasks)
  · apply Json.Alike.trans _ back
    apply Json.alike_obj _ back.leftDistinct
    · intro key
      rw [lookups]
    · exact distinct_updateFields distinct_default back.leftDistinct

end HermesMesh.Collab
