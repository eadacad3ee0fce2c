import HermesMesh.Collab.Vault.Applied
import HermesMesh.Collab.Vault.Files

/-!
# The table of tasks and their files

A task that is stored is put into the table and written to a file of its status folder,
and the files of its name are removed from the other folders.  The name is the task's
identifier, whatever it is: one with slashes names another folder, and two identifiers
may name one file.  `write_file` writes into the same folders.
-/

namespace HermesMesh.Collab

open Python Foundation Foundation.Action CollabVault

/-- The bytes of a task's file. -/
def taskBytes (task : JsonObject) : Option ByteArray :=
  encodeUtf8 (task.toJson.dumps .canonical ++ [lineFeed])

/-- An operation on the files, by the places that their paths lead to.  A text that UTF-8
cannot hold raises. -/
def applyFile (files : Dict Path ByteArray) : FileAction → Option (Dict Path ByteArray)
  | .makeDirs _ => some files
  | .write path content => (taskBytes content).map fun bytes => files.set (Path.follow [] path) bytes
  | .unlink path => some (files.erase (Path.follow [] path))

/-- The operations one after the other. -/
def replay (files : Dict Path ByteArray) : List FileAction → Option (Dict Path ByteArray)
  | [] => some files
  | action :: rest => (applyFile files action).bind fun after => replay after rest

/-- A vault with the files below its root. -/
structure VaultTree where
  vault : CollabVault
  files : Dict Path ByteArray

inductive TreeCall where
  | upsert (moment : Moment) (task : JsonObject)
  | append (moment : Moment) (node op : PyStr) (payload : JsonObject) (sig : PyStr)
  | write (file : FileWrite)

/-- The tree after a call of the vault, with the files that the call has changed. -/
def VaultTree.settle {α : Type} (tree : VaultTree) (outcome : Except Fault α × CollabVault) :
    Except FileFault Unit × VaultTree :=
  match replay tree.files (outcome.2.fileLog.drop tree.vault.fileLog.length) with
  | some files => (outcome.1.map (fun _ => ()) |>.mapError .raised, ⟨outcome.2, files⟩)
  | none => (.error (.raised .valueError), ⟨outcome.2, tree.files⟩)

/-- `upsert_task`, `append_event` and `write_file` on one directory. -/
def treeMachine (py : Platform) (disk : VaultDisk) :
    Machine VaultTree TreeCall (Except FileFault Unit) where
  step
    | tree, .upsert moment task => tree.settle ((upsertTask py moment task).run tree.vault)
    | tree, .append moment node op payload sig =>
        tree.settle ((appendEvent py moment node op payload sig).run tree.vault)
    | tree, .write file =>
        let (result, store) := (VaultFiles.writeFile py file.refuses file.requested file.content).run
          ⟨disk, tree.files⟩
        (result.map fun _ => (), ⟨tree.vault, store.files⟩)

/-- A new vault in an empty directory. -/
def freshTree (disk : VaultDisk) : VaultTree := ⟨fresh disk.root, []⟩

/-! ## What the folders should hold -/

/-- The pieces of a task's file name below its folder. -/
def taskPieces (taskId : PyStr) : List PyStr := components (taskId ++ lit ".json")

/-- The place that a task's path leads to. -/
def VaultTree.taskPlace (tree : VaultTree) (status : TaskStatus) (taskId : PyStr) : Path :=
  Path.follow [] (tree.vault.taskFile status taskId)

/-- The task's file holds exactly the task, and neither of the other folders has one of
its name. -/
def VaultTree.Holds (tree : VaultTree) (status : TaskStatus) (task : JsonObject) : Prop :=
  ∃ taskId bytes, task.get? (lit "id") = some (.str taskId) ∧ taskBytes task = some bytes ∧
    tree.files.get? (tree.taskPlace status taskId) = some bytes ∧
    ∀ other, other ≠ status → tree.files.get? (tree.taskPlace other taskId) = none

/-- Each listed task has its file. -/
def VaultTree.Mirrors (tree : VaultTree) : Prop :=
  ∀ status, ∀ task ∈ tree.vault.state.tasks status, tree.Holds status task

/-! ## The calls that keep the folders in step -/

/-- What a call stores: the identifier, the status and the task. -/
structure Storing where
  taskId : PyStr
  status : TaskStatus
  task : JsonObject

/-- What `upsert_task` stores. -/
def storing? (py : Platform) (moment : Moment) (task : JsonObject) : Option Storing :=
  (taskStatus? py task).map fun status =>
    let taskId := taskIdText py moment task
    ⟨taskId, status, storedTask moment taskId status task⟩

/-- What a call stores if it succeeds. -/
def TreeCall.storing? (py : Platform) : TreeCall → Option Storing
  | .upsert moment task => Collab.storing? py moment task
  | .append moment _ op payload _ =>
      if op = lit "task" ∧ ((eventTask payload).getD (lit "id") .null).truthy = true then
        Collab.storing? py moment (eventTask payload)
      else none
  | .write _ => none

/-- The identifier names a file below a status folder: it is relative and has no `..`. -/
def NamesFile (taskId : PyStr) : Prop :=
  taskId.head? ≠ some slash ∧ lit ".." ∉ taskPieces taskId

/-- The task gets a file of its own: no other task that stays listed has a file of that
name. -/
def Storing.Apart (storing : Storing) (tasks : TaskStatus → List JsonObject) : Prop :=
  NamesFile storing.taskId ∧
    ∀ bucket, ∀ other ∈ placeTask storing.taskId storing.status storing.task tasks bucket,
      ∀ otherId, other.get? (lit "id") = some (.str otherId) → otherId ≠ storing.taskId →
        taskPieces otherId ≠ taskPieces storing.taskId

/-- The write goes to no file of a listed task, or writes the task's own bytes to its own
file. -/
def FileWrite.Spares (py : Platform) (tasks : TaskStatus → List JsonObject) (file : FileWrite) :
    Prop :=
  ∀ parts bytes, safeParts py file.requested = .ok parts →
    encodedContent file.content = .ok bytes →
    ∀ bucket, ∀ task ∈ tasks bucket, ∀ taskId, task.get? (lit "id") = some (.str taskId) →
      ∀ status : TaskStatus, parts = lit "tasks" :: status.text :: taskPieces taskId →
        status = bucket ∧ taskBytes task = some bytes

/-- The call keeps the files of tasks apart. -/
def KeepsApart (py : Platform) (tree : VaultTree) (call : TreeCall) : Prop :=
  (∀ storing, call.storing? py = some storing → storing.Apart tree.vault.state.tasks) ∧
    ∀ file, call = .write file → file.Spares py tree.vault.state.tasks

/-! ## Places -/

theorem follow_ordinary {place pieces : Path} (ordinary : lit ".." ∉ pieces) :
    Path.follow place pieces = place ++ pieces := by
  induction pieces generalizing place with
  | nil => rw [List.append_nil]; rfl
  | cons piece rest ih =>
      rw [List.mem_cons, not_or] at ordinary
      rw [Path.follow, List.foldl_cons, Path.enter, if_neg (Ne.symm ordinary.1)]
      exact (ih ordinary.2).trans (by rw [List.append_assoc, List.singleton_append])

/-- Where the file of a well-named task is. -/
theorem taskPlace_eq {disk : VaultDisk} {tree : VaultTree} (sameRoot : tree.vault.root = disk.root)
    (status : TaskStatus) {taskId : PyStr} (named : NamesFile taskId) :
    tree.taskPlace status taskId = disk.root ++ lit "tasks" :: status.text :: taskPieces taskId := by
  obtain ⟨relative, noDots⟩ := named
  have stillRelative : (taskId ++ lit ".json").head? ≠ some slash := by
    cases taskId with
    | nil => decide
    | cons c rest => exact relative
  have ordinary : lit ".." ∉ disk.root ++ lit "tasks" :: status.text :: taskPieces taskId := by
    simp only [List.mem_append, List.mem_cons, not_or]
    refine ⟨fun member => (disk.entries _ member).2.2 rfl, by simp, ?_, noDots⟩
    cases status <;> simp [TaskStatus.text]
  unfold VaultTree.taskPlace CollabVault.taskFile Path.join CollabVault.tasksRoot
  rw [if_neg stillRelative, sameRoot, List.append_assoc, List.append_assoc]
  exact follow_ordinary ordinary

/-! ## What a call changes -/

/-- The operations on the files of a task that is stored. -/
def CollabVault.taskActions (vault : CollabVault) (storing : Storing) : List FileAction :=
  .makeDirs (vault.taskFile storing.status storing.taskId).parent ::
    .write (vault.taskFile storing.status storing.taskId) storing.task ::
      (TaskStatus.all.filter fun other => other ≠ storing.status).map fun other =>
        .unlink (vault.taskFile other storing.taskId)

/-- A vault has stored a task and done the operations on its files. -/
structure CollabVault.HasStored (before after : CollabVault) (storing : Storing) : Prop where
  root : after.root = before.root
  tasks : after.state.tasks =
    placeTask storing.taskId storing.status storing.task before.state.tasks
  fileLog : after.fileLog = before.fileLog ++ before.taskActions storing

/-- A vault has changed neither its tasks nor their files. -/
structure CollabVault.KeepsTasks (before after : CollabVault) : Prop where
  root : after.root = before.root
  tasks : after.state.tasks = before.state.tasks
  fileLog : after.fileLog = before.fileLog

/-- Part of a call has done these operations and left the memory alone. -/
structure CollabVault.Logs (before after : CollabVault) (actions : List FileAction) : Prop where
  root : after.root = before.root
  state : after.state = before.state
  fileLog : after.fileLog = before.fileLog ++ actions

theorem logs_refl (vault : CollabVault) : vault.Logs vault [] :=
  ⟨rfl, rfl, (List.append_nil _).symm⟩

theorem CollabVault.Logs.trans {first second third : CollabVault} {early late : List FileAction}
    (before : first.Logs second early) (after : second.Logs third late) :
    first.Logs third (early ++ late) :=
  ⟨after.root.trans before.root, after.state.trans before.state,
    by rw [after.fileLog, before.fileLog, List.append_assoc]⟩

theorem logs_logFile (action : FileAction) (vault : CollabVault) :
    vault.Logs ((logFile action).run vault).2 [action] :=
  ⟨rfl, rfl, rfl⟩

theorem logs_changeStateFile (path : Path) (content : StateFile) (vault : CollabVault) :
    vault.Logs (changeStateFile path content vault) [] := by
  unfold changeStateFile
  split
  · exact ⟨rfl, rfl, (List.append_nil _).symm⟩
  · exact logs_refl vault

theorem logs_saveState {vault after : CollabVault} (ran : saveState.run vault = (.ok (), after)) :
    vault.Logs after [] := by
  rw [run_saveState (isOk_saveState_iff.mp (congrArg Prod.fst ran))] at ran
  obtain ⟨-, rfl⟩ := Prod.mk.inj ran
  exact ⟨rfl, rfl, (List.append_nil _).symm⟩

theorem logs_writeTask {moment : Moment} {target : Path} {task : JsonObject}
    {vault after : CollabVault} (ran : (writeTask moment target task).run vault = (.ok (), after)) :
    vault.Logs after [.makeDirs target.parent, .write target task] := by
  obtain ⟨writes, encodes⟩ := isOk_writeTask_iff.mp (congrArg Prod.fst ran)
  obtain ⟨bytes, encoded⟩ := Option.isSome_iff_exists.mp encodes
  rw [writeTask, logFile, run_bind_ok (run_modify _ _), if_neg (by simp [writes]), encoded,
    run_bind_ok (run_ofOption_some _ _ _), logFile, run_bind_ok (run_modify _ _), run_modify] at ran
  obtain ⟨-, rfl⟩ := Prod.mk.inj ran
  have logged := logs_logFile (.makeDirs target.parent) vault
  exact (logged.trans (logs_logFile (.write target task) _)).trans (logs_changeStateFile _ _ _)

theorem logs_unlinkOthers {moment : Moment} (unlinks : moment.taskUnlinkFails = false)
    (status : TaskStatus) (taskId : PyStr) (others : List TaskStatus) (vault : CollabVault) :
    vault.Logs ((unlinkOthers moment status taskId others).run vault).2
      ((others.filter fun other => other ≠ status).map fun other =>
        .unlink (vault.taskFile other taskId)) := by
  induction others generalizing vault with
  | nil => exact logs_refl vault
  | cons other rest ih =>
      by_cases own : other = status
      · have skipped : (unlinkOther moment status taskId other).run vault = (.ok (), vault) := by
          rw [unlinkOther, if_pos own, run_pure]
        rw [unlinkOthers, run_bind_ok skipped, List.filter_cons_of_neg (by simpa using own)]
        exact ih vault
      · obtain ⟨middle, unlinked, logs⟩ : ∃ middle,
            (unlinkOther moment status taskId other).run vault = (.ok (), middle) ∧
              vault.Logs middle [.unlink (vault.taskFile other taskId)] := by
          refine ⟨_, ?_, (logs_logFile _ vault).trans (logs_changeStateFile
            (vault.taskFile other taskId) .missing _)⟩
          rw [unlinkOther, if_neg own, run_bind_ok (run_read _), logFile, run_bind_ok (run_modify _ _),
            if_neg (by simp [unlinks]), run_modify]
          rfl
        have sameFiles : middle.taskFile = vault.taskFile := by
          unfold CollabVault.taskFile CollabVault.tasksRoot
          rw [logs.root]
        rw [unlinkOthers, run_bind_ok unlinked, List.filter_cons_of_pos (by simpa using own),
          List.map_cons]
        have later := ih middle
        rw [sameFiles] at later
        exact logs.trans later

theorem hasStored_storeTask {moment : Moment} {taskId : PyStr} {status : TaskStatus}
    {task stored : JsonObject} {vault after : CollabVault}
    (ran : (storeTask moment taskId status task).run vault = (.ok stored, after)) :
    vault.HasStored after ⟨taskId, status, storedTask moment taskId status task⟩ := by
  obtain ⟨⟨-, unlinks⟩, -⟩ := storeTask_eq_ok.mp (congrArg Prod.fst ran)
  unfold storeTask at ran
  rw [run_bind_ok (run_modify _ _), run_bind_ok (run_read _)] at ran
  obtain ⟨⟨⟩, written, wrote, ran⟩ := run_bind_eq_ok.mp ran
  obtain ⟨⟨⟩, cleared, unlinked, ran⟩ := run_bind_eq_ok.mp ran
  obtain ⟨⟨⟩, saved, saves, returned⟩ := run_bind_eq_ok.mp ran
  obtain ⟨-, rfl⟩ := Prod.mk.inj returned
  have unlinkLogs := logs_unlinkOthers unlinks status taskId TaskStatus.all written
  rw [unlinked] at unlinkLogs
  have logs := ((logs_writeTask wrote).trans unlinkLogs).trans (logs_saveState saves)
  have sameFiles : written.taskFile = vault.taskFile := by
    unfold CollabVault.taskFile CollabVault.tasksRoot
    rw [(logs_writeTask wrote).root]
    rfl
  refine ⟨logs.root, congrArg VaultState.tasks logs.state, ?_⟩
  rw [logs.fileLog, sameFiles, List.append_nil, List.cons_append, List.cons_append, List.nil_append]
  rfl

theorem hasStored_upsertTask {py : Platform} {moment : Moment} {task stored : JsonObject}
    {vault after : CollabVault}
    (ran : (upsertTask py moment task).run vault = (.ok stored, after)) :
    ∃ storing, storing? py moment task = some storing ∧ vault.HasStored after storing := by
  rw [upsertTask] at ran
  cases known : taskStatus? py task with
  | none =>
      rw [known, run_bind, run_ofOption_none] at ran
      cases ran
  | some status =>
      rw [known, run_bind_ok (run_ofOption_some _ _ _)] at ran
      exact ⟨_, by rw [storing?, known]; rfl, hasStored_storeTask ran⟩

theorem keepsTasks_setState {update : VaultState → VaultState} {vault : CollabVault}
    (keeps : ∀ state, (update state).tasks = state.tasks) :
    vault.KeepsTasks (setState update vault) :=
  ⟨rfl, keeps vault.state, rfl⟩

theorem keepsTasks_registerNode {moment : Moment} {nodeId role : PyStr} {ttl : Int}
    {vault after : CollabVault}
    (ran : (registerNode moment nodeId role ttl).run vault = (.ok (), after)) :
    vault.KeepsTasks after := by
  rw [registerNode, run_bind_ok (run_read _)] at ran
  dsimp only at ran
  split at ran
  · cases ran
  · rw [run_bind_ok (run_modify _ _)] at ran
    have logs := logs_saveState ran
    have tasks : after.state.tasks = vault.state.tasks := by rw [logs.state, setNode, state_setState]
    exact ⟨logs.root, tasks, logs.fileLog.trans (List.append_nil _)⟩

/-- What a vault did for a call that stores this, or nothing. -/
def CollabVault.Did (before after : CollabVault) : Option Storing → Prop
  | some storing => before.HasStored after storing
  | none => before.KeepsTasks after

theorem did_applyEvent {py : Platform} {moment : Moment} {entry : LedgerEntry}
    {vault after : CollabVault} (ran : (applyEvent py moment entry).run vault = (.ok (), after)) :
    vault.Did after (TreeCall.storing? py
      (.append moment entry.node entry.op entry.payload entry.sig)) := by
  rw [TreeCall.storing?]
  unfold applyEvent at ran
  split at ran
  · next isMessage =>
      have notTask : entry.op ≠ lit "task" := by rcases isMessage with same | same <;> simp [same]
      rw [if_neg fun both => notTask both.1]
      rw [run_modify] at ran
      obtain ⟨-, rfl⟩ := Prod.mk.inj ran
      exact keepsTasks_setState fun state => by rw [VaultState.withMessage]
  split at ran
  · next isTask =>
      dsimp only at ran
      split at ran
      · next named =>
          rw [if_pos ⟨isTask, named⟩]
          obtain ⟨stored, middle, upserted, rest⟩ := run_bind_eq_ok.mp ran
          obtain ⟨-, rfl⟩ := Prod.mk.inj rest
          obtain ⟨storing, stores, hasStored⟩ := hasStored_upsertTask upserted
          rw [stores]
          exact hasStored
      · next unnamed =>
          rw [if_neg fun both => unnamed both.2]
          obtain ⟨-, rfl⟩ := Prod.mk.inj ran
          exact ⟨rfl, rfl, rfl⟩
  · next notMessage notTask =>
      rw [if_neg fun both => notTask both.1]
      split at ran
      · split at ran
        · obtain ⟨-, rfl⟩ := Prod.mk.inj ran
          exact ⟨rfl, rfl, rfl⟩
        · exact keepsTasks_registerNode ran
      · obtain ⟨-, rfl⟩ := Prod.mk.inj ran
        exact ⟨rfl, rfl, rfl⟩

/-- What surrounds the application of an event touches no task. -/
theorem CollabVault.Did.of_lines {vault middle after : CollabVault} {ledgerBytes auditBytes : ByteArray}
    {storing : Option Storing} (did : (vault.withLines ledgerBytes auditBytes).Did middle storing)
    (root : after.root = middle.root) (tasks : after.state.tasks = middle.state.tasks)
    (fileLog : after.fileLog = middle.fileLog) : vault.Did after storing := by
  cases storing with
  | none => exact ⟨root.trans did.root, tasks.trans did.tasks, fileLog.trans did.fileLog⟩
  | some storing => exact ⟨root.trans did.root, tasks.trans did.tasks, fileLog.trans did.fileLog⟩

theorem did_appendEvent {py : Platform} {moment : Moment} {node op : PyStr} {payload : JsonObject}
    {sig : PyStr} {vault after : CollabVault} {entry : LedgerEntry}
    (ran : (appendEvent py moment node op payload sig).run vault = (.ok entry, after)) :
    vault.Did after (TreeCall.storing? py (.append moment node op payload sig)) := by
  obtain ⟨⟨verified, encodes⟩, -, -⟩ := appendEvent_eq_ok.mp (congrArg Prod.fst ran)
  obtain ⟨bytes, encoded⟩ := Option.ne_none_iff_exists'.mp encodes
  have hashed : hashOf py (newEntry moment node op payload sig).toJson =
      some (py.sha256 bytes).text := by rw [hashOf, encoded]; rfl
  obtain ⟨-, -, -, ledgerBytes, auditBytes, -, -, -, -, -, same⟩ :=
    run_appendEvent_recorded verified hashed
  rw [same] at ran
  obtain ⟨⟨⟩, middle, applied, rest⟩ := run_bind_eq_ok.mp ran
  have did := did_applyEvent applied
  rw [run_bind_ok (run_modify _ _)] at rest
  obtain ⟨⟨⟩, saved, saves, returned⟩ := run_bind_eq_ok.mp rest
  obtain ⟨-, rfl⟩ := Prod.mk.inj returned
  have logs := logs_saveState saves
  have tasks : saved.state.tasks = middle.state.tasks := by
    rw [logs.state, state_setState, VaultState.synced]
  exact CollabVault.Did.of_lines did logs.root tasks (logs.fileLog.trans (List.append_nil _))

/-! ## The files after a call -/

theorem get?_replay_unlinks {files after : Dict Path ByteArray} {paths : List Path}
    (done : replay files (paths.map .unlink) = some after) (place : Path) :
    after.get? place =
      if ∃ path ∈ paths, Path.follow [] path = place then none else files.get? place := by
  induction paths generalizing files with
  | nil =>
      cases done
      simp
  | cons path rest ih =>
      have removed := ih done
      rw [removed, Dict.get?_erase]
      simp only [List.exists_mem_cons_iff, eq_comm (a := place)]
      split
      · next inRest => rw [if_pos (.inr inRest)]
      · next notInRest =>
          split
          · next here => rw [if_pos (.inl here)]
          · next elsewhere => rw [if_neg (not_or.mpr ⟨elsewhere, notInRest⟩)]

/-- Storing a task changes its own file, and removes the others of its name. -/
theorem get?_replay_taskActions {vault : CollabVault} {storing : Storing}
    {files after : Dict Path ByteArray} (done : replay files (vault.taskActions storing) = some after) :
    ∃ bytes, taskBytes storing.task = some bytes ∧
      (∀ other, other ≠ storing.status →
        after.get? (Path.follow [] (vault.taskFile other storing.taskId)) = none) ∧
      ∀ place, (∀ other, other ≠ storing.status →
          Path.follow [] (vault.taskFile other storing.taskId) ≠ place) →
        after.get? place =
          if place = Path.follow [] (vault.taskFile storing.status storing.taskId) then some bytes
          else files.get? place := by
  simp only [taskActions, replay, applyFile, Option.bind_some] at done
  cases encoded : taskBytes storing.task with
  | none =>
      rw [encoded] at done
      cases done
  | some bytes =>
      rw [encoded, Option.map_some, Option.bind_some] at done
      have left := @get?_replay_unlinks _ after ((TaskStatus.all.filter fun other =>
        other ≠ storing.status).map fun other => vault.taskFile other storing.taskId) (by
          rw [List.map_map]
          exact done)
      have unlinked : ∀ place, (∃ path ∈ (TaskStatus.all.filter fun other =>
          other ≠ storing.status).map fun other => vault.taskFile other storing.taskId,
            Path.follow [] path = place) ↔ ∃ other, other ≠ storing.status ∧
              Path.follow [] (vault.taskFile other storing.taskId) = place := by
        intro place
        simp [TaskStatus.mem_all]
      refine ⟨bytes, rfl, fun other different => ?_, fun place elsewhere => ?_⟩
      · rw [left, if_pos ((unlinked _).mpr ⟨other, different, rfl⟩)]
      · rw [left, if_neg, Dict.get?_set]
        intro leads
        obtain ⟨other, different, here⟩ := (unlinked place).mp leads
        exact elsewhere other different here

theorem mem_placeTask {taskId : PyStr} {status bucket : TaskStatus} {task other : JsonObject}
    {tasks : TaskStatus → List JsonObject}
    (listed : other ∈ placeTask taskId status task tasks bucket) :
    (bucket = status ∧ other = task) ∨ (other ∈ tasks bucket ∧ hasId taskId other = false) := by
  unfold placeTask at listed
  have old : ∀ other ∈ (tasks bucket).filter fun other => !hasId taskId other,
      other ∈ tasks bucket ∧ hasId taskId other = false := by
    intro other member
    obtain ⟨inBucket, others⟩ := List.mem_filter.mp member
    exact ⟨inBucket, by simpa using others⟩
  split at listed
  · next own =>
      rcases List.mem_append.mp (List.drop_subset _ _ listed) with others | last
      · exact .inr (old other others)
      · exact .inl ⟨own, List.mem_singleton.mp last⟩
  · exact .inr (old other listed)

theorem ne_of_hasId {taskId otherId : PyStr} {task : JsonObject} (notIt : hasId taskId task = false)
    (isIt : task.get? (lit "id") = some (.str otherId)) : otherId ≠ taskId := by
  rintro rfl
  rw [hasId, JsonObject.getD, isIt, Option.getD_some, Json.pyEq_str, beq_self_eq_true] at notIt
  cases notIt

theorem id_of_storing {py : Platform} {moment : Moment} {task : JsonObject} {storing : Storing}
    (stores : storing? py moment task = some storing) :
    storing.task.get? (lit "id") = some (.str storing.taskId) := by
  obtain ⟨status, -, rfl⟩ := Option.map_eq_some_iff.mp stores
  exact get?_storedTask_id _ _ _ _

/-! ## The invariant -/

/-- The listed tasks have names of files, and each has its file. -/
structure InStep (disk : VaultDisk) (tree : VaultTree) : Prop where
  root : tree.vault.root = disk.root
  named : ∀ status, ∀ task ∈ tree.vault.state.tasks status, ∀ taskId,
    task.get? (lit "id") = some (.str taskId) → NamesFile taskId
  mirrors : tree.Mirrors

variable {disk : VaultDisk} {tree : VaultTree}

theorem inStep_fresh (disk : VaultDisk) : InStep disk (freshTree disk) :=
  ⟨rfl, fun _ _ member => absurd member List.not_mem_nil,
    fun _ _ member => absurd member List.not_mem_nil⟩

/-- Tasks of different names have no file in common. -/
theorem taskPlace_ne {before after : VaultTree} (beforeRoot : before.vault.root = disk.root)
    (afterRoot : after.vault.root = disk.root) {one other : TaskStatus} {taskId otherId : PyStr}
    (named : NamesFile taskId) (otherNamed : NamesFile otherId)
    (different : one ≠ other ∨ taskPieces otherId ≠ taskPieces taskId) :
    before.taskPlace one taskId ≠ after.taskPlace other otherId := by
  rw [taskPlace_eq beforeRoot one named, taskPlace_eq afterRoot other otherNamed]
  intro same
  have pieces := List.append_cancel_left same
  simp only [List.cons.injEq, true_and] at pieces
  rcases different with statuses | names
  · exact statuses (TaskStatus.text_injective pieces.1)
  · exact names pieces.2.symm

/-- A task that is stored under a name of its own is mirrored, and so are the others still. -/
theorem InStep.store (inStep : InStep disk tree) {storing : Storing} {after : CollabVault}
    (hasStored : tree.vault.HasStored after storing) (apart : storing.Apart tree.vault.state.tasks)
    (isId : storing.task.get? (lit "id") = some (.str storing.taskId))
    {files : Dict Path ByteArray}
    (done : replay tree.files (tree.vault.taskActions storing) = some files) :
    InStep disk ⟨after, files⟩ := by
  obtain ⟨named, distinct⟩ := apart
  obtain ⟨bytes, encoded, removed, kept⟩ := get?_replay_taskActions done
  have root : after.root = disk.root := hasStored.root.trans inStep.root
  have sameFiles : ∀ status taskId, after.taskFile status taskId = tree.vault.taskFile status taskId := by
    intro status taskId
    rw [CollabVault.taskFile, CollabVault.tasksRoot, hasStored.root]
    rfl
  have namedAfter : ∀ status, ∀ task ∈ after.state.tasks status, ∀ taskId,
      task.get? (lit "id") = some (.str taskId) → NamesFile taskId := by
    intro status task listed taskId isTask
    rw [hasStored.tasks] at listed
    rcases mem_placeTask listed with ⟨-, rfl⟩ | ⟨old, -⟩
    · rw [isId] at isTask
      cases isTask
      exact named
    · exact inStep.named status task old taskId isTask
  refine ⟨root, namedAfter, fun status task listed => ?_⟩
  rw [hasStored.tasks] at listed
  rcases mem_placeTask listed with ⟨rfl, rfl⟩ | ⟨old, notIt⟩
  · refine ⟨storing.taskId, bytes, isId, encoded, ?_, fun other different => ?_⟩
    · have own := kept (Path.follow [] (tree.vault.taskFile storing.status storing.taskId))
        fun other different => taskPlace_ne inStep.root inStep.root named named (.inl different)
      rw [if_pos rfl] at own
      simp only [VaultTree.taskPlace, sameFiles]
      exact own
    · simp only [VaultTree.taskPlace, sameFiles]
      exact removed other different
  · obtain ⟨otherId, otherBytes, isOther, otherEncoded, holds, absent⟩ :=
      inStep.mirrors status task old
    have otherNamed := inStep.named status task old otherId isOther
    have pieces := distinct status task listed otherId isOther (ne_of_hasId notIt isOther)
    have untouched : ∀ bucket, files.get? (tree.taskPlace bucket otherId) =
        tree.files.get? (tree.taskPlace bucket otherId) := by
      intro bucket
      rw [kept _ fun other _ => taskPlace_ne inStep.root inStep.root named otherNamed (.inr pieces)]
      exact if_neg (taskPlace_ne inStep.root inStep.root named otherNamed (.inr pieces)).symm
    refine ⟨otherId, otherBytes, isOther, otherEncoded, ?_, fun other different => ?_⟩
    · simp only [VaultTree.taskPlace, sameFiles]
      exact (untouched status).trans holds
    · simp only [VaultTree.taskPlace, sameFiles]
      exact (untouched other).trans (absent other different)

/-- Nothing happens to the folders where no task is stored. -/
theorem InStep.keep (inStep : InStep disk tree) {after : CollabVault}
    (keeps : tree.vault.KeepsTasks after) : InStep disk ⟨after, tree.files⟩ := by
  have sameFiles : ∀ status taskId, after.taskFile status taskId = tree.vault.taskFile status taskId := by
    intro status taskId
    rw [CollabVault.taskFile, CollabVault.tasksRoot, keeps.root]
    rfl
  refine ⟨keeps.root.trans inStep.root, ?_, fun status task listed => ?_⟩
  · intro status task listed
    rw [keeps.tasks] at listed
    exact inStep.named status task listed
  · rw [keeps.tasks] at listed
    obtain ⟨taskId, bytes, isId, encoded, holds, absent⟩ := inStep.mirrors status task listed
    refine ⟨taskId, bytes, isId, encoded, ?_, fun other different => ?_⟩
    · simp only [VaultTree.taskPlace, sameFiles]
      exact holds
    · simp only [VaultTree.taskPlace, sameFiles]
      exact absent other different

/-- A file that is written beside the tasks' files changes none of them. -/
theorem InStep.write {py : Platform} (noLinks : disk.links = []) (inStep : InStep disk tree)
    {file : FileWrite} (spares : file.Spares py tree.vault.state.tasks) {returned : PyStr}
    {store : VaultFiles}
    (wrote : (VaultFiles.writeFile py file.refuses file.requested file.content).run
      ⟨disk, tree.files⟩ = (.ok returned, store)) : InStep disk ⟨tree.vault, store.files⟩ := by
  obtain ⟨bytes, path, encodes, found, -, -, rfl⟩ := VaultFiles.writeFile_eq_ok.mp wrote
  have leads := (filePlace_eq_ok.mp found).1
  obtain ⟨parts, accepted, resolved, -⟩ := safePath_eq_ok.mp leads
  have names := ((resolve_eq_ok (entries_of_safeParts accepted)).mp resolved).1
  have direct := (safePath_of_no_link accepted names fun front _ _ => by rw [noLinks]; rfl).1
  rw [leads, Except.ok.injEq] at direct
  subst direct
  refine ⟨inStep.root, inStep.named, fun status task listed => ?_⟩
  obtain ⟨taskId, taskText, isId, encoded, holds, absent⟩ := inStep.mirrors status task listed
  have named := inStep.named status task listed taskId isId
  have hit : ∀ bucket, tree.taskPlace bucket taskId = disk.root ++ parts →
      bucket = status ∧ taskBytes task = some bytes := by
    intro bucket same
    rw [taskPlace_eq inStep.root bucket named] at same
    exact spares parts bytes accepted encodes status task listed taskId isId bucket
      (List.append_cancel_left same).symm
  refine ⟨taskId, taskText, isId, encoded, ?_, fun other different => ?_⟩
  · change Dict.get? (tree.taskPlace status taskId) (Dict.set _ _ _) = _
    rw [Dict.get?_set]
    split
    · next same => rw [← encoded, (hit status same).2]
    · exact holds
  · change Dict.get? (tree.taskPlace other taskId) (Dict.set _ _ _) = _
    rw [Dict.get?_set, if_neg]
    · exact absent other different
    · exact fun same => different (hit other same).1

/-! ## Runs -/

theorem settle_eq_ok {α : Type} {outcome : Except Fault α × CollabVault}
    (returned : (tree.settle outcome).1 = .ok ()) :
    ∃ value files, outcome = (.ok value, outcome.2) ∧
      replay tree.files (outcome.2.fileLog.drop tree.vault.fileLog.length) = some files ∧
      (tree.settle outcome).2 = ⟨outcome.2, files⟩ := by
  obtain ⟨result, after⟩ := outcome
  unfold VaultTree.settle at returned ⊢
  cases replayed : replay tree.files (after.fileLog.drop tree.vault.fileLog.length) with
  | none =>
      simp only [replayed] at returned
      cases returned
  | some files =>
      simp only [replayed] at returned ⊢
      cases result with
      | error fault => cases returned
      | ok value => exact ⟨value, files, rfl, rfl, rfl⟩

/-- A vault's call that returns and stores what it should keeps the folders in step. -/
theorem InStep.settle {α : Type} (inStep : InStep disk tree)
    {outcome : Except Fault α × CollabVault} {storing : Option Storing}
    (did : ∀ value, outcome = (.ok value, outcome.2) → tree.vault.Did outcome.2 storing)
    (apart : ∀ stored, storing = some stored → stored.Apart tree.vault.state.tasks ∧
      stored.task.get? (lit "id") = some (.str stored.taskId))
    (returned : (tree.settle outcome).1 = .ok ()) : InStep disk (tree.settle outcome).2 := by
  obtain ⟨value, files, ok, replayed, settled⟩ := settle_eq_ok returned
  rw [settled]
  have changed := did value ok
  cases storing with
  | none =>
      rw [changed.fileLog, List.drop_length] at replayed
      cases replayed
      exact inStep.keep changed
  | some stored =>
      obtain ⟨isApart, isId⟩ := apart stored rfl
      rw [changed.fileLog, List.drop_left] at replayed
      exact inStep.store changed isApart isId replayed

theorem id_of_call {py : Platform} {call : TreeCall} {storing : Storing}
    (stores : call.storing? py = some storing) :
    storing.task.get? (lit "id") = some (.str storing.taskId) := by
  cases call with
  | upsert moment task => exact id_of_storing stores
  | append moment node op payload sig =>
      rw [TreeCall.storing?] at stores
      split at stores
      · exact id_of_storing stores
      · cases stores
  | write file => cases stores

/-- A call that succeeds and keeps the files of tasks apart keeps the folders in step. -/
theorem inStep_step {py : Platform} (noLinks : disk.links = []) (inStep : InStep disk tree)
    {call : TreeCall} (succeeds : ((treeMachine py disk).step tree call).1 = .ok ())
    (apart : KeepsApart py tree call) : InStep disk ((treeMachine py disk).step tree call).2 := by
  have isApart : ∀ stored, call.storing? py = some stored →
      stored.Apart tree.vault.state.tasks ∧
        stored.task.get? (lit "id") = some (.str stored.taskId) :=
    fun stored stores => ⟨apart.1 stored stores, id_of_call stores⟩
  cases call with
  | upsert moment task =>
      refine inStep.settle (fun stored ran => ?_) isApart succeeds
      obtain ⟨storing, stores, hasStored⟩ := hasStored_upsertTask ran
      rw [TreeCall.storing?, stores]
      exact hasStored
  | append moment node op payload sig =>
      exact inStep.settle (fun entry ran => did_appendEvent ran) isApart succeeds
  | write file =>
      simp only [treeMachine] at succeeds ⊢
      rcases wrote : (VaultFiles.writeFile py file.refuses file.requested file.content).run
        ⟨disk, tree.files⟩ with ⟨fault | returned, store⟩
      · rw [wrote] at succeeds
        cases succeeds
      · exact inStep.write noLinks (apart.2 file rfl) wrote

/-- The task `x`. -/
def taskX : JsonObject := JsonObject.empty.setText (lit "id") (lit "x")

/-- It is stored. -/
def storeX : TreeCall := .upsert .epoch taskX

/-- A text is written over its file. -/
def overwriteX : TreeCall := .write ⟨false, .str (lit "tasks/pending/x.json"), .str (lit "hi")⟩

/-- A text is written beside the folders of the tasks. -/
def noteX : TreeCall := .write ⟨false, .str (lit "tasks/notes/x.json"), .str (lit "hi")⟩

theorem storing_storeX : storeX.storing? .plain =
    some ⟨lit "x", .pending, storedTask .epoch (lit "x") .pending taskX⟩ := by
  rfl

theorem keepsApart_storeX : KeepsApart .plain (freshTree VaultFiles.emptyStore.disk) storeX := by
  refine ⟨fun storing stores => ?_, nofun⟩
  rw [storing_storeX, Option.some.injEq] at stores
  subst stores
  have named : NamesFile (lit "x") := ⟨by decide, by decide⟩
  refine ⟨named, fun bucket other listed otherId isOther different => ?_⟩
  rcases mem_placeTask listed with ⟨-, rfl⟩ | ⟨old, -⟩
  · rw [get?_storedTask_id, Option.some.injEq, Json.str.injEq] at isOther
    exact absurd isOther.symm different
  · exact absurd old List.not_mem_nil

theorem keepsApart_noteX (tree : VaultTree) : KeepsApart .plain tree noteX := by
  have accepted : safeParts .plain (.str (lit "tasks/notes/x.json")) =
      .ok [lit "tasks", lit "notes", lit "x.json"] := by decide
  constructor
  · intro storing stores
    cases stores
  · rintro file ⟨⟩ parts bytes isParts _ bucket task _ taskId _ status same
    rw [accepted, Except.ok.injEq] at isParts
    rw [← isParts, List.cons.injEq, List.cons.injEq] at same
    have elsewhere : lit "notes" ≠ status.text := by cases status <;> decide
    exact absurd same.2.1 elsewhere

/-- In every run of successful calls that keep the files of tasks apart, each listed task
has its file, and no other. -/
theorem folders_mirror_table (py : Platform) (disk : VaultDisk) (noLinks : disk.links = [])
    {calls : List TreeCall}
    (allowed : (treeMachine py disk).Allowed (fun tree call =>
      ((treeMachine py disk).step tree call).1 = .ok () ∧ KeepsApart py tree call)
        (freshTree disk) calls) :
    ((treeMachine py disk).run (freshTree disk) calls).Mirrors :=
  (Machine.run_invariant (fun tree call =>
      ((treeMachine py disk).step tree call).1 = .ok () ∧ KeepsApart py tree call)
    (InStep disk) (fun _ _ inStep permitted => inStep_step noLinks inStep permitted.1 permitted.2)
    (inStep_fresh disk) allowed).mirrors

theorem folders_mirror_note :
    ((treeMachine .plain VaultFiles.emptyStore.disk).run (freshTree VaultFiles.emptyStore.disk)
      [storeX, noteX]).Mirrors :=
  folders_mirror_table .plain VaultFiles.emptyStore.disk rfl
    ⟨⟨by decide +kernel, keepsApart_storeX⟩, ⟨by decide +kernel, keepsApart_noteX _⟩, trivial⟩

/-- A text written over a task's file stays there, though the task is listed. -/
theorem overwritten_task_file :
    (∀ event ∈ (treeMachine .plain VaultFiles.emptyStore.disk).trace
        (freshTree VaultFiles.emptyStore.disk) [storeX, overwriteX], event.output = .ok ()) ∧
      ¬((treeMachine .plain VaultFiles.emptyStore.disk).run (freshTree VaultFiles.emptyStore.disk)
        [storeX, overwriteX]).Mirrors := by
  refine ⟨by decide +kernel, fun mirrors => ?_⟩
  have listed : ∃ task ∈ ((treeMachine .plain VaultFiles.emptyStore.disk).run
      (freshTree VaultFiles.emptyStore.disk) [storeX, overwriteX]).vault.state.tasks .pending,
        hasId (lit "x") task = true ∧ taskBytes task ≠ some ⟨#[104, 105]⟩ := by
    decide +kernel
  have overwritten : ((treeMachine .plain VaultFiles.emptyStore.disk).run
      (freshTree VaultFiles.emptyStore.disk) [storeX, overwriteX]).files.get?
        (((treeMachine .plain VaultFiles.emptyStore.disk).run
          (freshTree VaultFiles.emptyStore.disk) [storeX, overwriteX]).taskPlace .pending
            (lit "x")) = some ⟨#[104, 105]⟩ := by
    decide +kernel
  generalize (treeMachine .plain VaultFiles.emptyStore.disk).run
    (freshTree VaultFiles.emptyStore.disk) [storeX, overwriteX] = tree at mirrors listed overwritten
  obtain ⟨task, inPending, isX, text⟩ := listed
  obtain ⟨taskId, bytes, isId, encoded, holds, -⟩ := mirrors .pending task inPending
  rw [hasId, JsonObject.getD, isId, Option.getD_some, Json.pyEq_str, beq_iff_eq] at isX
  subst isX
  apply text
  rw [encoded, ← holds]
  exact overwritten

end HermesMesh.Collab
