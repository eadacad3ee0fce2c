import HermesMesh.Foundation.Buckets
import HermesMesh.Foundation.Machine
import HermesMesh.Collab.Vault.Applied

/-!
# The table of tasks

`upsert_task` takes the task out of all three buckets and puts it at the end of one of
them.  Whatever the tasks are that it is called with, and whether or not their files can be
written, an identifier is listed once, under its status, and a bucket loses no more than
its oldest task.
-/

namespace HermesMesh.Collab

open Python Foundation Foundation.Action CollabVault

variable {py : Platform}

/-- The tasks of a vault, by their buckets. -/
abbrev TaskTable := Buckets TaskStatus JsonObject

/-- What every table of stored tasks satisfies. -/
structure TaskTable.WellKept (tasks : TaskTable) : Prop where
  once : ∀ taskId, (TaskStatus.all.flatMap tasks).countP (hasId taskId) ≤ 1
  named : ∀ bucket, ∀ task ∈ tasks bucket, ∃ taskId, task.get? (lit "id") = some (.str taskId)
  filed : ∀ bucket, ∀ task ∈ tasks bucket, task.get? (lit "status") = some (.str bucket.text)
  bounded : tasks.Bounded 200

/-- A task has become the last of its bucket.  The other tasks are left as they were, in
their order, but for the oldest one of that bucket. -/
structure TaskTable.Placed (before after : TaskTable) (taskId : PyStr) (status : TaskStatus)
    (task : JsonObject) : Prop where
  id : task.get? (lit "id") = some (.str taskId)
  filed : task.get? (lit "status") = some (.str status.text)
  last : (after status).getLast? = some task
  elsewhere : ∀ bucket, bucket ≠ status →
    after bucket = (before bucket).filter fun other => !hasId taskId other
  here : ∃ dropped kept, ((before status).filter fun other => !hasId taskId other) = dropped ++ kept ∧
    dropped.length ≤ 1 ∧ after status = kept ++ [task]

/-- Calls of `upsert_task`, one after the other. -/
def upsertMachine (py : Platform) : Machine CollabVault (Moment × JsonObject) (Except Fault JsonObject) where
  step vault call := (upsertTask py call.1 call.2).run vault

/-- What a call has done to the table: a task that is returned is in its place, and a call
that raises has either done nothing or put a task in its place. -/
structure UpsertEffect (event : Event CollabVault (Moment × JsonObject) (Except Fault JsonObject)) :
    Prop where
  returned : ∀ stored, event.output = .ok stored → ∃ taskId status,
    TaskTable.Placed event.before.state.tasks event.after.state.tasks taskId status stored
  raised : ∀ fault, event.output = .error fault →
    event.after.state.tasks = event.before.state.tasks ∨ ∃ taskId status stored,
      TaskTable.Placed event.before.state.tasks event.after.state.tasks taskId status stored

/-! ## One call -/

theorem placeTask_eq_place (taskId : PyStr) (status : TaskStatus) (task : JsonObject)
    (tasks : TaskTable) :
    placeTask taskId status task tasks = Buckets.place (hasId taskId) 200 status task tasks := rfl

/-- A task whose status is known is put in its place, whatever becomes of its files. -/
theorem tasks_storeTask (moment : Moment) (taskId : PyStr) (status : TaskStatus) (task : JsonObject)
    (vault : CollabVault) :
    ((storeTask moment taskId status task).run vault).2.state.tasks =
      placeTask taskId status (storedTask moment taskId status task) vault.state.tasks :=
  congrArg VaultState.tasks (state_storeTask moment taskId status task vault)

theorem placed_placeTask {moment : Moment} {taskId : PyStr} {status : TaskStatus} {task : JsonObject}
    {tasks : TaskTable} (bounded : tasks.Bounded 200) :
    tasks.Placed (placeTask taskId status (storedTask moment taskId status task) tasks) taskId status
      (storedTask moment taskId status task) where
  id := get?_storedTask_id moment taskId status task
  filed := get?_storedTask_status moment taskId status task
  last := Buckets.getLast?_place_target
  elsewhere := fun _ different => Buckets.place_of_ne different
  here := Buckets.exists_dropped bounded

theorem hasId_of_id {taskId otherId : PyStr} {task : JsonObject}
    (isId : task.get? (lit "id") = some (.str otherId)) :
    hasId taskId task = (otherId == taskId) := by
  rw [hasId, JsonObject.getD, isId, Option.getD_some, Json.pyEq_str]

theorem TaskTable.WellKept.placeTask {tasks : TaskTable} (kept : tasks.WellKept) (moment : Moment)
    (taskId : PyStr) (status : TaskStatus) (task : JsonObject) :
    TaskTable.WellKept
      (placeTask taskId status (storedTask moment taskId status task) tasks) := by
  have isId := get?_storedTask_id moment taskId status task
  have isStatus := get?_storedTask_status moment taskId status task
  rw [placeTask_eq_place]
  constructor
  · -- An identifier is counted among the others at most once, and there only if it is not the new one.
    intro otherId
    have counted := @Buckets.countP_flatMap_place_le _ _ _ (hasId taskId) status
      (storedTask moment taskId status task) tasks 200 (hasId otherId) TaskStatus.all (by decide)
    rw [hasId_of_id isId] at counted
    by_cases same : otherId = taskId
    · subst same
      rw [Buckets.countP_flatMap_others_self] at counted
      exact counted.trans (by split <;> decide)
    · rw [if_neg (by simpa using Ne.symm same), Nat.add_zero] at counted
      exact counted.trans ((Buckets.countP_flatMap_others_le _ _).trans (kept.once otherId))
  · intro bucket other listed
    rcases Buckets.mem_place listed with ⟨-, rfl⟩ | ⟨old, -⟩
    · exact ⟨taskId, isId⟩
    · exact kept.named bucket other old
  · intro bucket other listed
    rcases Buckets.mem_place listed with ⟨rfl, rfl⟩ | ⟨old, -⟩
    · exact isStatus
    · exact kept.filed bucket other old
  · exact Buckets.bounded_place kept.bounded

/-- A call either refuses the status of its task or puts it in its place. -/
theorem upsertTask_cases (moment : Moment) (task : JsonObject) (vault : CollabVault) :
    ((upsertTask py moment task).run vault =
        (.error (.vaultError "invalid collab task status"), vault)) ∨
      ∃ taskId status, ((upsertTask py moment task).run vault).2.state.tasks =
          placeTask taskId status (storedTask moment taskId status task) vault.state.tasks ∧
        ∀ stored, ((upsertTask py moment task).run vault).1 = .ok stored →
          stored = storedTask moment taskId status task := by
  rw [upsertTask]
  cases known : taskStatus? py task with
  | none =>
      left
      rw [run_bind, run_ofOption_none]
  | some status =>
      right
      refine ⟨taskIdText py moment task, status, ?_⟩
      rw [run_bind_ok (run_ofOption_some _ _ _)]
      refine ⟨tasks_storeTask _ _ _ _ _, fun stored returned => ?_⟩
      exact (storeTask_eq_ok.mp returned).2.2

theorem step_upsertMachine (vault : CollabVault) (call : Moment × JsonObject) :
    (upsertMachine py).step vault call = (upsertTask py call.1 call.2).run vault := rfl

theorem table_wellKept_step {vault : CollabVault} (kept : TaskTable.WellKept vault.state.tasks)
    (call : Moment × JsonObject) :
    TaskTable.WellKept ((upsertMachine py).step vault call).2.state.tasks := by
  rcases @upsertTask_cases py call.1 call.2 vault with refused | ⟨taskId, status, placed, -⟩
  · rw [step_upsertMachine, refused]
    exact kept
  · rw [step_upsertMachine, placed]
    exact kept.placeTask call.1 taskId status call.2

theorem upsertEffect_step {vault : CollabVault} (kept : TaskTable.WellKept vault.state.tasks)
    (call : Moment × JsonObject) :
    UpsertEffect ⟨vault, call, ((upsertMachine py).step vault call).1,
      ((upsertMachine py).step vault call).2⟩ := by
  rcases @upsertTask_cases py call.1 call.2 vault with refused | ⟨taskId, status, placed, same⟩
  · rw [step_upsertMachine, refused]
    constructor
    · intro stored returned
      cases returned
    · intro fault _
      exact .inl rfl
  · have place := @placed_placeTask call.1 taskId status call.2 vault.state.tasks kept.bounded
    rw [← placed] at place
    constructor
    · intro stored returned
      rw [same stored returned]
      exact ⟨taskId, status, place⟩
    · intro fault _
      exact .inr ⟨taskId, status, _, place⟩

theorem table_wellKept_fresh (root : Path) : TaskTable.WellKept (fresh root).state.tasks where
  once := fun _ => Nat.zero_le _
  named := fun _ _ member => absurd member List.not_mem_nil
  filed := fun _ _ member => absurd member List.not_mem_nil
  bounded := fun _ => Nat.zero_le _

/-! ## Runs -/

end HermesMesh.Collab
