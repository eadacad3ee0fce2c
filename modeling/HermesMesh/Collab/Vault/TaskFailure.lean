import HermesMesh.Collab.Vault.State
import HermesMesh.Collab.Vault.TaskFolders

/-!
# A task that cannot be stored

`upsert_task` checks the status of a task before it changes anything.  It then changes the
table in memory, and only after that makes the folder, writes the file, removes the files of
the other folders and saves the state, each of which can raise.  What was done before that
stays done.
-/

namespace HermesMesh.Collab

open Python Foundation Foundation.Action CollabVault

/-- The vault in memory, and the files and folders on its disk by the places they are at. -/
structure TaskDisk where
  root : Path
  state : VaultState
  files : Dict Path ByteArray
  folders : List Path

/-- The steps of a call that the file system refuses.  The file that a process has just made
is its own, so `chmod` is not among them. -/
structure Refusals where
  /-- A folder cannot be made, after this many on the way to it. -/
  folder : Option Nat
  /-- The temporary file cannot be made, written, or renamed. -/
  file : Bool
  unlink : TaskStatus → Bool
  /-- `state.json` cannot be written. -/
  save : Bool

def Refusals.none : Refusals := ⟨.none, false, fun _ => false, false⟩

namespace TaskDisk

/-- `tasks_root / status / f"{task_id}.json"` -/
def taskFile (disk : TaskDisk) (status : TaskStatus) (taskId : PyStr) : Path :=
  Path.join (disk.root ++ [lit "tasks", status.text]) (taskId ++ lit ".json")

/-- The place of a task's file. -/
def taskPlace (disk : TaskDisk) (status : TaskStatus) (taskId : PyStr) : Path :=
  Path.follow [] (disk.taskFile status taskId)

/-- The folders on the way to a path, the outermost first. -/
def foldersTo (path : Path) : List Path := path.inits.map (Path.follow [])

def statePlace (disk : TaskDisk) : Path := disk.root ++ [lit "state.json"]

/-- `path.mkdir(parents=True, exist_ok=True)` for the folders on the way. -/
def makeFolders (wanted : List Path) : Action TaskDisk Fault Unit :=
  .modify fun disk => { disk with folders := wanted ∪ disk.folders }

/-- `_atomic_json_write` of a task: a temporary file that is not renamed is removed again. -/
def writeTask (refusals : Refusals) (target : Path) (task : JsonObject) :
    Action TaskDisk Fault Unit :=
  match refusals.folder with
  | some made => do
      makeFolders ((foldersTo target.parent).take made)
      .raise .osError
  | none => do
      makeFolders (foldersTo target.parent)
      if refusals.file then .raise .osError
      else
        let bytes ← .ofOption .valueError (jsonBytes task.toJson)
        .modify fun disk => { disk with files := disk.files.set (Path.follow [] target) bytes }

/-- Every folder on the way to the path exists, also where `..` leads out of it again. -/
def Reaches (disk : TaskDisk) (path : Path) : Prop :=
  ∀ folder ∈ foldersTo path.parent, folder ∈ disk.folders

instance (disk : TaskDisk) (path : Path) : Decidable (disk.Reaches path) :=
  inferInstanceAs (Decidable (∀ folder ∈ foldersTo path.parent, _))

/-- Remove the task's file from a folder that is not its own, if there is a way to it. -/
def unlinkOther (refusals : Refusals) (status : TaskStatus) (taskId : PyStr) (other : TaskStatus) :
    Action TaskDisk Fault Unit :=
  if other = status then return
  else if refusals.unlink other then .raise .osError
  else .modify fun disk =>
    if disk.Reaches (disk.taskFile other taskId) then
      { disk with files := disk.files.erase (disk.taskPlace other taskId) }
    else disk

/-- The loop over the other status folders. -/
def unlinkOthers (refusals : Refusals) (status : TaskStatus) (taskId : PyStr) :
    List TaskStatus → Action TaskDisk Fault Unit
  | [] => return
  | other :: rest => do
      unlinkOther refusals status taskId other
      unlinkOthers refusals status taskId rest

/-- `_save_state` -/
def saveState (refusals : Refusals) : Action TaskDisk Fault Unit := do
  let disk ← .read
  if refusals.save then .raise .osError
  else
    let bytes ← .ofOption .valueError (jsonBytes disk.state.toJson)
    .modify fun disk => { disk with files := disk.files.set disk.statePlace bytes }

/-- The task is put into the table. -/
def placing (taskId : PyStr) (status : TaskStatus) (task : JsonObject) (disk : TaskDisk) : TaskDisk :=
  { disk with state := { disk.state with tasks := placeTask taskId status task disk.state.tasks } }

/-- `upsert_task` once the status is known. -/
def storeTask (moment : Moment) (refusals : Refusals) (taskId : PyStr) (status : TaskStatus)
    (task : JsonObject) : Action TaskDisk Fault JsonObject := do
  let stored := storedTask moment taskId status task
  .modify (placing taskId status stored)
  let disk ← .read
  writeTask refusals (disk.taskFile status taskId) stored
  unlinkOthers refusals status taskId TaskStatus.all
  saveState refusals
  return stored

/-- `upsert_task` -/
def upsertTask (py : Platform) (moment : Moment) (refusals : Refusals) (task : JsonObject) :
    Action TaskDisk Fault JsonObject := do
  let status ← .ofOption (.vaultError "invalid collab task status") (taskStatus? py task)
  storeTask moment refusals (taskIdText py moment task) status task

/-- The table, the files and the folders are as they were. -/
structure Untouched (before after : TaskDisk) : Prop where
  tasks : after.state.tasks = before.state.tasks
  files : ∀ place, after.files.get? place = before.files.get? place
  folders : ∀ folder, folder ∈ after.folders ↔ folder ∈ before.folders

/-- A call that raises leaves everything as it was. -/
def AtomicOnFailure (before : TaskDisk) (outcome : Except Fault JsonObject × TaskDisk) : Prop :=
  ∀ fault, outcome.1 = .error fault → before.Untouched outcome.2

/-! ## What a call does before it is refused -/

/-- The folders that are made. -/
def makes (refusals : Refusals) (target : Path) : List Path :=
  match refusals.folder with
  | some made => (foldersTo target.parent).take made
  | none => foldersTo target.parent

/-- The bytes of the task's file, where it is written. -/
def written? (refusals : Refusals) (task : JsonObject) : Option ByteArray :=
  if refusals.folder.isSome = true ∨ refusals.file = true then none else jsonBytes task.toJson

/-- The other folders that a loop comes to before it is refused. -/
def visits (refusals : Refusals) (status : TaskStatus) (others : List TaskStatus) :
    List TaskStatus :=
  (others.filter fun other => other ≠ status).takeWhile fun other => !refusals.unlink other

/-- The other folders that a loop removes the task's file from. -/
def removes (refusals : Refusals) (status : TaskStatus) (taskId : PyStr) (others : List TaskStatus)
    (disk : TaskDisk) : List TaskStatus :=
  (visits refusals status others).filter fun other => disk.Reaches (disk.taskFile other taskId)

/-- The file system refuses nothing, and the task and the state can be written. -/
structure Completes (refusals : Refusals) (disk : TaskDisk) (storing : Storing) : Prop where
  written : written? refusals storing.task ≠ none
  unlinks : ∀ other, other ≠ storing.status → refusals.unlink other = false
  saves : refusals.save = false
  state : jsonBytes (disk.placing storing.taskId storing.status storing.task).state.toJson ≠ none

/-- What the call does before it is refused is there already: the task is in its place in the
table, the folders exist, and where its file is written, the files that are removed do not
exist and its own, unless it is one of them, has just its bytes. -/
structure Repeats (refusals : Refusals) (disk : TaskDisk) (storing : Storing) : Prop where
  table : placeTask storing.taskId storing.status storing.task disk.state.tasks = disk.state.tasks
  folders : ∀ folder ∈ makes refusals (disk.taskFile storing.status storing.taskId),
    folder ∈ disk.folders
  removed : written? refusals storing.task ≠ none →
    ∀ other ∈ disk.removes refusals storing.status storing.taskId TaskStatus.all,
      disk.files.get? (disk.taskPlace other storing.taskId) = none
  file : ∀ bytes, written? refusals storing.task = some bytes →
    (∀ other ∈ disk.removes refusals storing.status storing.taskId TaskStatus.all,
      disk.taskPlace other storing.taskId ≠ disk.taskPlace storing.status storing.taskId) →
    disk.files.get? (disk.taskPlace storing.status storing.taskId) = some bytes

variable {py : Platform} {refusals : Refusals} {disk : TaskDisk}

def withFolders (wanted : List Path) (disk : TaskDisk) : TaskDisk :=
  { disk with folders := wanted ∪ disk.folders }

def withFiles (files : Dict Path ByteArray) (disk : TaskDisk) : TaskDisk :=
  { disk with files := files }

/-- The files that are left when these are removed. -/
def eraseAll (places : List Path) (files : Dict Path ByteArray) : Dict Path ByteArray :=
  places.foldl (fun files place => files.erase place) files

theorem get?_eraseAll (places : List Path) (files : Dict Path ByteArray) (place : Path) :
    (eraseAll places files).get? place = if place ∈ places then none else files.get? place := by
  induction places generalizing files with
  | nil => simp [eraseAll]
  | cons head rest ih =>
      rw [eraseAll, List.foldl_cons]
      refine (ih _).trans ?_
      rw [Dict.get?_erase]
      by_cases here : place = head
      · simp [here]
      · simp [here]

/-- The disk once the task is in the table and its folders are made. -/
def placed (refusals : Refusals) (storing : Storing) (disk : TaskDisk) : TaskDisk :=
  (disk.placing storing.taskId storing.status storing.task).withFolders
    (makes refusals (disk.taskFile storing.status storing.taskId))

/-- The disk once the task's file is written and the others are removed, up to the first that
may not be. -/
def filed (refusals : Refusals) (storing : Storing) (bytes : ByteArray) (disk : TaskDisk) :
    TaskDisk :=
  (disk.placed refusals storing).withFiles
    (eraseAll (((disk.placed refusals storing).removes refusals storing.status storing.taskId
      TaskStatus.all).map fun other => disk.taskPlace other storing.taskId)
      (disk.files.set (disk.taskPlace storing.status storing.taskId) bytes))

/-- The disk of a call that is refused. -/
def stopped (refusals : Refusals) (storing : Storing) (disk : TaskDisk) : TaskDisk :=
  match written? refusals storing.task with
  | none => disk.placed refusals storing
  | some bytes => disk.filed refusals storing bytes

theorem taskPlace_withFiles (files : Dict Path ByteArray) (status : TaskStatus) (taskId : PyStr) :
    (disk.withFiles files).taskPlace status taskId = disk.taskPlace status taskId := rfl

theorem taskPlace_placed (storing : Storing) (status : TaskStatus) (taskId : PyStr) :
    (disk.placed refusals storing).taskPlace status taskId = disk.taskPlace status taskId := by
  simp only [taskPlace, taskFile, placed, withFolders, placing]

theorem removes_withFiles (files : Dict Path ByteArray) (status : TaskStatus) (taskId : PyStr)
    (others : List TaskStatus) :
    (disk.withFiles files).removes refusals status taskId others =
      disk.removes refusals status taskId others := rfl

/-- Where no folder has to be made, the same files are removed. -/
theorem removes_placed {storing : Storing}
    (exist : ∀ folder ∈ makes refusals (disk.taskFile storing.status storing.taskId),
      folder ∈ disk.folders) :
    (disk.placed refusals storing).removes refusals storing.status storing.taskId TaskStatus.all =
      disk.removes refusals storing.status storing.taskId TaskStatus.all := by
  refine List.filter_congr fun other _ => ?_
  rw [decide_eq_decide]
  refine forall₂_congr fun folder _ => ?_
  rw [placed, withFolders, List.mem_union_iff]
  exact ⟨fun found => found.elim (exist folder) id, .inr⟩

theorem files_withFiles (files : Dict Path ByteArray) : (disk.withFiles files).files = files := rfl

theorem withFiles_withFiles (first second : Dict Path ByteArray) :
    (disk.withFiles first).withFiles second = disk.withFiles second := rfl

theorem state_withFiles (files : Dict Path ByteArray) : (disk.withFiles files).state = disk.state := rfl

theorem state_filed (storing : Storing) (bytes : ByteArray) :
    (disk.filed refusals storing bytes).state =
      (disk.placing storing.taskId storing.status storing.task).state := by
  simp only [filed, placed, withFiles, withFolders]

theorem run_writeTask_of_written {target : Path} {task : JsonObject} {bytes : ByteArray}
    (written : written? refusals task = some bytes) :
    (writeTask refusals target task).run disk =
      (.ok (), (disk.withFolders (makes refusals target)).withFiles
        (disk.files.set (Path.follow [] target) bytes)) := by
  unfold written? at written
  split at written
  · cases written
  · next free =>
      obtain ⟨noFolder, noFile⟩ := not_or.mp free
      have isNone : refusals.folder = none := by simpa using noFolder
      simp [writeTask, makes, isNone, noFile, run_bind, makeFolders, written, withFolders, withFiles]

theorem run_writeTask_of_refused {target : Path} {task : JsonObject}
    (refused : written? refusals task = none) :
    ∃ fault, (writeTask refusals target task).run disk =
      (.error fault, disk.withFolders (makes refusals target)) := by
  unfold written? at refused
  unfold writeTask makes
  cases folder : refusals.folder with
  | some made => exact ⟨.osError, rfl⟩
  | none =>
      cases file : refusals.file with
      | true => exact ⟨.osError, by simp [run_bind, makeFolders, withFolders]⟩
      | false =>
          have unencodable : jsonBytes task.toJson = none := by simpa [folder, file] using refused
          exact ⟨.valueError, by simp [run_bind, makeFolders, withFolders, unencodable]⟩

/-- The loop removes files up to the first that it may not remove. -/
theorem run_unlinkOthers (status : TaskStatus) (taskId : PyStr) (others : List TaskStatus) :
    (unlinkOthers refusals status taskId others).run disk =
      (if ∀ other ∈ others, other ≠ status → refusals.unlink other = false then .ok ()
        else .error .osError,
        disk.withFiles (eraseAll ((disk.removes refusals status taskId others).map fun other =>
          disk.taskPlace other taskId) disk.files)) := by
  induction others generalizing disk with
  | nil => simp [unlinkOthers, removes, visits, eraseAll, withFiles]
  | cons other rest ih =>
      by_cases own : other = status
      · have skipped : (unlinkOther refusals status taskId other).run disk = (.ok (), disk) := by
          rw [unlinkOther, if_pos own, run_pure]
        rw [unlinkOthers, run_bind_ok skipped, ih]
        simp [removes, visits, own]
      · cases refuses : refusals.unlink other with
        | true =>
            have refused : (unlinkOther refusals status taskId other).run disk =
                (.error .osError, disk) := by
              rw [unlinkOther, if_neg own, if_pos refuses, run_raise]
            rw [unlinkOthers, run_bind_error refused]
            simp [removes, visits, own, refuses, eraseAll, withFiles]
        | false =>
            by_cases reaches : disk.Reaches (disk.taskFile other taskId)
            · have removed : (unlinkOther refusals status taskId other).run disk =
                  (.ok (), disk.withFiles (disk.files.erase (disk.taskPlace other taskId))) := by
                rw [unlinkOther, if_neg own, refuses, if_neg Bool.false_ne_true, run_modify,
                  if_pos reaches]
                rfl
              have first : disk.removes refusals status taskId (other :: rest) =
                  other :: disk.removes refusals status taskId rest := by
                simp [removes, visits, own, refuses, reaches]
              rw [unlinkOthers, run_bind_ok removed, ih, removes_withFiles, first]
              exact Prod.ext (by simp [own, refuses]) rfl
            · have absent : (unlinkOther refusals status taskId other).run disk = (.ok (), disk) := by
                rw [unlinkOther, if_neg own, refuses, if_neg Bool.false_ne_true, run_modify,
                  if_neg reaches]
              rw [unlinkOthers, run_bind_ok absent, ih]
              simp [removes, visits, own, refuses, reaches]

/-- The loop over the folders leaves the disk with the task filed. -/
theorem run_unlinkOthers_filed (storing : Storing) (bytes : ByteArray) :
    (unlinkOthers refusals storing.status storing.taskId TaskStatus.all).run
        ((disk.placed refusals storing).withFiles
          (disk.files.set (disk.taskPlace storing.status storing.taskId) bytes)) =
      (if ∀ other ∈ TaskStatus.all, other ≠ storing.status → refusals.unlink other = false
        then .ok () else .error .osError, disk.filed refusals storing bytes) := by
  have places : (fun other => ((disk.placed refusals storing).withFiles
      (disk.files.set (disk.taskPlace storing.status storing.taskId) bytes)).taskPlace other
        storing.taskId) = fun other => disk.taskPlace other storing.taskId := by
    funext other
    rw [taskPlace_withFiles, taskPlace_placed]
  rw [run_unlinkOthers, places, files_withFiles, withFiles_withFiles, removes_withFiles, filed]

theorem run_saveState_of_unencodable (saves : refusals.save = false)
    (unencodable : jsonBytes disk.state.toJson = none) :
    (saveState refusals).run disk = (.error .valueError, disk) := by
  rw [saveState, run_bind_ok (run_read _), saves, if_neg Bool.false_ne_true, unencodable]
  exact run_bind_error (run_ofOption_none _ _) _

theorem run_saveState_of_encodes {bytes : ByteArray} (saves : refusals.save = false)
    (encodes : jsonBytes disk.state.toJson = some bytes) :
    (saveState refusals).run disk =
      (.ok (), disk.withFiles (disk.files.set disk.statePlace bytes)) := by
  rw [saveState, run_bind_ok (run_read _), saves, if_neg Bool.false_ne_true, encodes,
    run_bind_ok (run_ofOption_some _ _ _), run_modify, withFiles]

section Store

variable {moment : Moment} {storing : Storing} {task : JsonObject}
  (same : storedTask moment storing.taskId storing.status task = storing.task)

include same

/-- A call whose file is not written leaves the table and the folders changed. -/
theorem run_storeTask_of_refused (refused : written? refusals storing.task = none) :
    ∃ fault, (storeTask moment refusals storing.taskId storing.status task).run disk =
      (.error fault, disk.placed refusals storing) := by
  obtain ⟨fault, stops⟩ := @run_writeTask_of_refused refusals
    (disk.placing storing.taskId storing.status storing.task)
    (disk.taskFile storing.status storing.taskId) _ refused
  refine ⟨fault, ?_⟩
  rw [storeTask, same, run_bind_ok (run_modify _ _), run_bind_ok (run_read _)]
  exact run_bind_error stops _

/-- Once its file is written, the removal of the others and the state decide. -/
theorem run_storeTask_of_written {bytes : ByteArray}
    (written : written? refusals storing.task = some bytes) :
    (storeTask moment refusals storing.taskId storing.status task).run disk =
      (do
        unlinkOthers refusals storing.status storing.taskId TaskStatus.all
        saveState refusals
        return storing.task).run ((disk.placed refusals storing).withFiles
          (disk.files.set (disk.taskPlace storing.status storing.taskId) bytes)) := by
  have wrote := @run_writeTask_of_written refusals
    (disk.placing storing.taskId storing.status storing.task)
    (disk.taskFile storing.status storing.taskId) _ _ written
  rw [storeTask, same, run_bind_ok (run_modify _ _), run_bind_ok (run_read _)]
  exact run_bind_ok wrote _

/-- A call returns where nothing is refused, and stops where something is. -/
theorem run_storeTask_cases :
    (disk.Completes refusals storing ∧ ∃ after,
        (storeTask moment refusals storing.taskId storing.status task).run disk =
            (.ok storing.task, after) ∧
          after.state = (disk.placing storing.taskId storing.status storing.task).state) ∨
      (¬disk.Completes refusals storing ∧ ∃ fault,
        (storeTask moment refusals storing.taskId storing.status task).run disk =
          (.error fault, disk.stopped refusals storing)) := by
  cases written : written? refusals storing.task with
  | none =>
      right
      refine ⟨fun completes => completes.written written, ?_⟩
      rw [stopped, written]
      exact run_storeTask_of_refused same written
  | some bytes =>
      have loop := @run_unlinkOthers_filed refusals disk storing bytes
      rw [run_storeTask_of_written same written, stopped, written]
      by_cases unlinks : ∀ other ∈ TaskStatus.all, other ≠ storing.status →
          refusals.unlink other = false
      · rw [if_pos unlinks] at loop
        have unrefused : ∀ other, other ≠ storing.status → refusals.unlink other = false :=
          fun other => unlinks other (TaskStatus.mem_all other)
        rw [run_bind_ok loop]
        cases saves : refusals.save with
        | true =>
            right
            refine ⟨fun completes => ?_, .osError, ?_⟩
            · rw [completes.saves] at saves
              cases saves
            · have refused : (saveState refusals).run (disk.filed refusals storing bytes) =
                  (.error .osError, disk.filed refusals storing bytes) := by
                simp only [saveState, run_bind, run_read, saves, if_true, run_raise]
              exact run_bind_error refused _
        | false =>
            cases encodes : jsonBytes
                (disk.placing storing.taskId storing.status storing.task).state.toJson with
            | none =>
                right
                refine ⟨fun completes => completes.state encodes, .valueError, ?_⟩
                rw [← @state_filed refusals] at encodes
                exact run_bind_error (run_saveState_of_unencodable saves encodes) _
            | some stateBytes =>
                left
                refine ⟨⟨by simp [written], unrefused, saves, by simp [encodes]⟩, ?_⟩
                rw [← @state_filed refusals] at encodes
                exact ⟨_, run_bind_ok (run_saveState_of_encodes saves encodes) _,
                  (state_withFiles _).trans (state_filed storing bytes)⟩
      · rw [if_neg unlinks] at loop
        right
        refine ⟨fun completes => unlinks fun other _ => completes.unlinks other, .osError, ?_⟩
        exact run_bind_error loop _

end Store

theorem get?_filed (storing : Storing) (bytes : ByteArray) (place : Path) :
    (disk.filed refusals storing bytes).files.get? place =
      if ∃ other ∈ (disk.placed refusals storing).removes refusals storing.status storing.taskId
          TaskStatus.all, disk.taskPlace other storing.taskId = place then none
      else if place = disk.taskPlace storing.status storing.taskId then some bytes
      else disk.files.get? place := by
  rw [filed, withFiles, get?_eraseAll, Dict.get?_set]
  simp only [List.mem_map]

/-- What a refused call leaves is what was there exactly where the call repeats what is there. -/
theorem untouched_stopped_iff {storing : Storing} :
    disk.Untouched (disk.stopped refusals storing) ↔ disk.Repeats refusals storing := by
  have foldersSame : (∀ folder, folder ∈ (disk.placed refusals storing).folders ↔
      folder ∈ disk.folders) ↔
        ∀ folder ∈ makes refusals (disk.taskFile storing.status storing.taskId),
          folder ∈ disk.folders := by
    simp only [placed, withFolders, placing, List.mem_union_iff, or_iff_right_iff_imp]
  unfold stopped
  cases written : written? refusals storing.task with
  | none =>
      constructor
      · intro untouched
        exact ⟨untouched.tasks, foldersSame.mp untouched.folders,
          fun isWritten => absurd written isWritten,
          fun bytes isBytes => by rw [written] at isBytes; cases isBytes⟩
      · intro repeats
        exact ⟨repeats.table, fun _ => rfl, foldersSame.mpr repeats.folders⟩
  | some bytes =>
      constructor
      · intro untouched
        have exist := foldersSame.mp untouched.folders
        have files := untouched.files
        simp only [get?_filed, removes_placed exist] at files
        refine ⟨untouched.tasks, exist, fun _ other isRemoved => ?_, fun other isBytes apart => ?_⟩
        · rw [← files, if_pos ⟨other, isRemoved, rfl⟩]
        · rw [written] at isBytes
          cases isBytes
          have own := files (disk.taskPlace storing.status storing.taskId)
          rw [if_neg (not_exists.mpr fun other both => apart other both.1 both.2), if_pos rfl] at own
          exact own.symm
      · intro repeats
        refine ⟨repeats.table, fun place => ?_, foldersSame.mpr repeats.folders⟩
        rw [get?_filed, removes_placed repeats.folders]
        split
        · next removed =>
            obtain ⟨other, isRemoved, rfl⟩ := removed
            exact (repeats.removed (by simp [written]) other isRemoved).symm
        · next kept =>
            split
            · next own =>
                subst own
                exact (repeats.file bytes written fun other isRemoved here =>
                  kept ⟨other, isRemoved, here⟩).symm
            · rfl

/-- A call that raises leaves everything as it was exactly where its status is refused, nothing
is refused, or everything that it does before it is refused is there already. -/
theorem atomicOnFailure_iff (py : Platform) (moment : Moment) (refusals : Refusals)
    (task : JsonObject) (disk : TaskDisk) :
    disk.AtomicOnFailure ((upsertTask py moment refusals task).run disk) ↔
      ∀ storing, storing? py moment task = some storing →
        disk.Completes refusals storing ∨ disk.Repeats refusals storing := by
  rw [upsertTask, storing?]
  cases known : taskStatus? py task with
  | none =>
      refine iff_of_true (fun fault _ => ?_) (fun storing isStoring => ?_)
      · rw [run_bind, run_ofOption_none]
        exact ⟨rfl, fun _ => rfl, fun _ => Iff.rfl⟩
      · cases isStoring
  | some status =>
      rw [run_bind_ok (run_ofOption_some _ _ _)]
      simp only [Option.map_some, Option.some.injEq, forall_eq']
      rcases @run_storeTask_cases refusals disk moment ⟨taskIdText py moment task, status,
        storedTask moment (taskIdText py moment task) status task⟩ task rfl with
        ⟨completes, after, ran, -⟩ | ⟨stops, fault, ran⟩
      · rw [ran]
        refine iff_of_true (fun other raised => ?_) (.inl completes)
        cases raised
      · rw [ran, or_iff_right stops, ← untouched_stopped_iff]
        constructor
        · intro atomic
          exact atomic fault rfl
        · intro untouched other _
          exact untouched

/-- A vault over an empty directory. -/
def ofRoot (root : Path) : TaskDisk where
  root := root
  state := .default
  files := []
  folders := TaskStatus.all.flatMap fun status => foldersTo (root ++ [lit "tasks", status.text])

/-- A task whose title has half of a surrogate pair. -/
def halfPair : JsonObject :=
  (JsonObject.empty.setText (lit "id") (lit "x")).setText (lit "title") [0xd800]

theorem jsonBytes_halfPair :
    jsonBytes (storedTask .epoch (lit "x") .pending halfPair).toJson = none := by
  by_contra written
  obtain ⟨bytes, encoded⟩ := Option.ne_none_iff_exists'.mp written
  have whole := encodable_iff.mpr ⟨bytes, encoded⟩
  have strings := Json.encodable_of_canonical (encodable_append.mp whole).1
  have title : (storedTask .epoch (lit "x") .pending halfPair).get? (lit "title") =
      some (.str [0xd800]) := rfl
  have encodable : Encodable [0xd800] := Json.AllStrings.get? strings title
  obtain ⟨char, isChar⟩ := encodable 0xd800 (List.mem_singleton.mpr rfl)
  cases isChar

theorem taskStatus?_halfPair : taskStatus? .plain halfPair = some .pending := by decide +kernel

/-- Its file cannot be written, and yet it is in the table. -/
theorem halfPair_stays :
    ¬(ofRoot [lit "v"]).AtomicOnFailure
      ((upsertTask .plain .epoch .none halfPair).run (ofRoot [lit "v"])) := by
  intro atomic
  rw [upsertTask, taskStatus?_halfPair, run_bind_ok (run_ofOption_some _ _ _)] at atomic
  have isId : taskIdText .plain .epoch halfPair = lit "x" := rfl
  rw [isId] at atomic
  rcases @run_storeTask_cases .none (ofRoot [lit "v"]) .epoch ⟨lit "x", .pending,
    storedTask .epoch (lit "x") .pending halfPair⟩ halfPair rfl with
    ⟨completes, -⟩ | ⟨-, fault, raised⟩
  · exact completes.written jsonBytes_halfPair
  · rw [raised] at atomic
    have untouched : (ofRoot [lit "v"]).Untouched (stopped .none ⟨lit "x", .pending,
        storedTask .epoch (lit "x") .pending halfPair⟩ (ofRoot [lit "v"])) := atomic fault rfl
    have same := congrFun (untouched_stopped_iff.mp untouched).table .pending
    cases same

/-- The vault that knows its files by what was done to them stores the same task. -/
theorem upsertTask_agrees {moment : Moment} (stores : moment.storesTasks) {task stored : JsonObject}
    {vault : CollabVault} {after : TaskDisk} (same : vault.state = disk.state)
    (ran : (upsertTask py moment refusals task).run disk = (.ok stored, after)) :
    ∃ vaultAfter, (CollabVault.upsertTask py moment task).run vault = (.ok stored, vaultAfter) ∧
      vaultAfter.state.tasks = after.state.tasks := by
  rw [upsertTask] at ran
  cases known : taskStatus? py task with
  | none =>
      rw [known, run_bind, run_ofOption_none] at ran
      cases ran
  | some status =>
      rw [known, run_bind_ok (run_ofOption_some _ _ _)] at ran
      rcases @run_storeTask_cases refusals disk moment ⟨taskIdText py moment task, status,
        storedTask moment (taskIdText py moment task) status task⟩ task rfl with
        ⟨completes, left, returned, state⟩ | ⟨-, fault, raised⟩
      · have writable : (withTask (taskIdText py moment task) status
            (storedTask moment (taskIdText py moment task) status task) vault.state).Writable := by
          rw [same]
          exact Option.isSome_iff_ne_none.mpr completes.state
        rw [returned, Prod.mk.injEq, Except.ok.injEq] at ran
        obtain ⟨rfl, rfl⟩ := ran
        have result : ((CollabVault.upsertTask py moment task).run vault).1 =
            .ok (storedTask moment (taskIdText py moment task) status task) :=
          upsertTask_eq_ok.mpr ⟨status, known, stores, writable, rfl⟩
        refine ⟨((CollabVault.upsertTask py moment task).run vault).2, Prod.ext result rfl, ?_⟩
        obtain ⟨storing, isStoring, stored⟩ := hasStored_upsertTask (Prod.ext result rfl)
        rw [storing?, known, Option.map_some, Option.some.injEq] at isStoring
        subst isStoring
        rw [stored.tasks, state, same]
        rfl
      · rw [raised] at ran
        cases ran

end TaskDisk

end HermesMesh.Collab
