import HermesMesh.Collab.Vault.Applied
import HermesMesh.Collab.Vault.Crash

/-!
# Vaults that open again

`CollabVault()` loads `state.json` and does not start from an object whose keys it cannot read.
What the vault saves can be loaded.  But a task may name `state.json` as its own file: then the
file is the task's between its write and its removal, and a process that stops there leaves it.
-/

namespace HermesMesh.Collab

open Python Foundation Foundation.Action CollabVault

variable {py : Platform}

/-! ## Task files that are `state.json` -/

/-- Two folders side by side: what leads out of one leads to the same place from the other. -/
theorem follow_sibling (place mid : Path) (one other : PyStr) (pieces : List PyStr) :
    (∃ rest, Path.follow (place ++ one :: mid) pieces = place ++ one :: rest) ∨
      Path.follow (place ++ one :: mid) pieces = Path.follow (place ++ other :: mid) pieces := by
  induction pieces generalizing mid with
  | nil => exact .inl ⟨mid, rfl⟩
  | cons piece rest ih =>
      rw [Path.follow, Path.follow, List.foldl_cons, List.foldl_cons, Path.enter, Path.enter]
      split
      · rcases List.eq_nil_or_concat mid with rfl | ⟨front, last, rfl⟩
        · right
          rw [List.dropLast_concat, List.dropLast_concat]
        · have drops : ∀ name : PyStr, (place ++ name :: front.concat last).dropLast =
              place ++ name :: front := by
            intro name
            rw [List.concat_eq_append, ← List.cons_append, ← List.append_assoc, List.dropLast_concat]
          rw [drops, drops]
          exact ih front
      · have adds : ∀ name : PyStr, place ++ name :: mid ++ [piece] =
            place ++ name :: (mid ++ [piece]) := fun name => by simp
        rw [adds, adds]
        exact ih (mid ++ [piece])

theorem status_ne_dots (status : TaskStatus) : status.text ≠ lit ".." := by
  cases status <;> simp [TaskStatus.text]

/-- A task's file is `state.json` in each of the folders or in none. -/
theorem isStateFile_taskFile {vault : CollabVault} {status : TaskStatus} {taskId : PyStr}
    (isState : vault.IsStateFile (vault.taskFile status taskId)) (other : TaskStatus) :
    vault.IsStateFile (vault.taskFile other taskId) := by
  unfold IsStateFile taskFile Path.join at *
  split
  · next absolute => rwa [if_pos absolute] at isState
  · next relative =>
      rw [if_neg relative] at isState
      have from_ : ∀ (folder : TaskStatus) (pieces : List PyStr),
          Path.follow [] (vault.tasksRoot ++ [folder.text] ++ pieces) =
            Path.follow (Path.follow [] vault.root ++ [lit "tasks"] ++ folder.text :: []) pieces := by
        intro folder pieces
        have notDots := status_ne_dots folder
        simp [Path.follow, tasksRoot, Path.enter, List.foldl_append, notDots]
      rw [from_] at isState ⊢
      rcases follow_sibling (Path.follow [] vault.root ++ [lit "tasks"]) [] status.text other.text
        (components (taskId ++ lit ".json")) with ⟨rest, stays⟩ | same
      · rw [stays] at isState
        have lengths := congrArg List.length isState
        simp [statePath, Path.follow, Path.enter, List.foldl_append] at lengths
      · rwa [← same]

/-- Which file is `state.json` is a matter of the root. -/
theorem isStateFile_congr {one other : CollabVault} (same : one.root = other.root) {path : Path} :
    one.IsStateFile path ↔ other.IsStateFile path := by
  rw [IsStateFile, IsStateFile, statePath, statePath, same]

theorem taskFile_congr {one other : CollabVault} (same : one.root = other.root) (status : TaskStatus)
    (taskId : PyStr) : one.taskFile status taskId = other.taskFile status taskId := by
  rw [taskFile, taskFile, tasksRoot, tasksRoot, same]

/-- The task, as the call stores it, would take the place of the state with keys of the state. -/
def CollabVault.Overwrites (py : Platform) (moment : Moment) (vault : CollabVault)
    (task : JsonObject) : Prop :=
  ∃ status, taskStatus? py task = some status ∧
    vault.IsStateFile (vault.taskFile status (taskIdText py moment task)) ∧
    (StateFile.task (storedTask moment (taskIdText py moment task) status task)).load? = none

theorem overwrites_congr {one other : CollabVault} (same : one.root = other.root) {moment : Moment}
    {task : JsonObject} : one.Overwrites py moment task ↔ other.Overwrites py moment task := by
  unfold Overwrites
  simp only [isStateFile_congr same, taskFile_congr same]

/-! ## Files that can be loaded -/

/-- `state.json` is loaded as a state that can be written again. -/
def StateFile.Sound (file : StateFile) : Prop := ∃ state, file.load? = some state ∧ state.Writable

theorem StateFile.sound_missing : StateFile.missing.Sound := ⟨_, rfl, VaultState.writable_default⟩

theorem StateFile.sound_task {content : JsonObject} (loads : (StateFile.task content).load? ≠ none) :
    (StateFile.task content).Sound := by
  unfold StateFile.load? at loads
  dsimp only at loads
  split at loads
  · exact absurd rfl loads
  · next free => exact ⟨.default, if_neg free, VaultState.writable_default⟩

theorem StateFile.Sound.laidOut {file : StateFile} (sound : file.Sound) : file.laidOut.Sound := by
  cases file with
  | saved state => exact sound
  | task content => exact sound
  | missing => exact ⟨_, rfl, VaultState.writable_default⟩

/-- A vault at this root whose `state.json` can be loaded. -/
def SoundAt (root : Path) (vault : CollabVault) : Prop :=
  vault.root = root ∧ vault.stateFile.Sound

abbrev KeepsSound {α : Type} (root : Path) (action : Action CollabVault Fault α) : Prop :=
  Keeps (SoundAt root) (fun _ => True) (fun _ => True) action

section Keeps

variable {root : Path}

theorem keepsSound_pure {α : Type} (value : α) :
    KeepsSound root (pure value : Action CollabVault Fault α) :=
  keeps_pure trivial

theorem keepsSound_setState (update : VaultState → VaultState) :
    KeepsSound root (.modify (setState update)) :=
  keeps_modify fun _ sound => sound

theorem keepsSound_logFile (action : FileAction) : KeepsSound root (logFile action) :=
  keeps_modify fun _ sound => sound

theorem keepsSound_saveState : KeepsSound root saveState := by
  intro vault sound
  by_cases writable : vault.state.Writable
  · rw [run_saveState writable]
    exact ⟨⟨sound.1, _, rfl, writable⟩, fun _ _ => trivial, fun _ _ => trivial⟩
  · rw [run_saveState_unwritable writable]
    exact ⟨sound, fun _ _ => trivial, fun _ _ => trivial⟩

theorem keepsSound_appendLedger (line : PyStr) : KeepsSound root (appendLedger line) :=
  keeps_bind (keeps_ofOption trivial _) fun _ _ => keeps_modify fun _ sound => sound

theorem keepsSound_appendAudit (line : PyStr) : KeepsSound root (appendAudit line) :=
  keeps_bind (keeps_ofOption trivial _) fun _ _ => keeps_modify fun _ sound => sound

theorem keepsSound_changeStateFile {path : Path} {content : StateFile}
    (stays : ∀ vault, SoundAt root vault → vault.IsStateFile path → content.Sound) :
    KeepsSound root (.modify (changeStateFile path content)) := by
  refine keeps_modify fun vault sound => ?_
  unfold changeStateFile
  split
  · next isState => exact ⟨sound.1, stays vault sound isState⟩
  · exact sound

theorem keepsSound_writeTask {moment : Moment} {target : Path} {task : JsonObject}
    (stays : ∀ vault, SoundAt root vault → vault.IsStateFile target → (StateFile.task task).Sound) :
    KeepsSound root (writeTask moment target task) := by
  refine keeps_bind (keepsSound_logFile _) fun _ _ => ?_
  refine keeps_ite (fun _ => keeps_raise trivial) fun _ => ?_
  refine keeps_bind (keeps_ofOption trivial _) fun _ _ => ?_
  exact keeps_bind (keepsSound_logFile _) fun _ _ => keepsSound_changeStateFile stays

/-- The write of a task's file is refused before it begins, or made. -/
theorem run_writeTask_cases (moment : Moment) (target : Path) (task : JsonObject)
    (store : CollabVault) :
    (∃ fault logged, (writeTask moment target task).run store = (.error fault, logged) ∧
        logged.root = store.root ∧ logged.stateFile = store.stateFile) ∨
      ∃ filed, (writeTask moment target task).run store = (.ok (), filed) ∧
        filed.root = store.root ∧ filed.stateFile =
          if store.IsStateFile target then .task task else store.stateFile := by
  rw [writeTask, logFile, run_bind_ok (run_modify _ _)]
  split
  · exact .inl ⟨_, _, rfl, rfl, rfl⟩
  · cases jsonBytes task.toJson with
    | none => exact .inl ⟨_, _, run_bind_error (run_ofOption_none _ _) _, rfl, rfl⟩
    | some bytes =>
        right
        rw [run_bind_ok (run_ofOption_some _ _ _), logFile, run_bind_ok (run_modify _ _), run_modify,
          changeStateFile]
        refine ⟨_, rfl, ?_, ?_⟩
        · split <;> rfl
        · exact apply_ite CollabVault.stateFile _ _ _

/-- A task file in another folder is removed; if it is `state.json`, that is missing then. -/
theorem run_unlinkOther_of_foreign {moment : Moment} (unlinks : moment.taskUnlinkFails = false)
    {status other : TaskStatus} (foreign : other ≠ status) (taskId : PyStr) (store : CollabVault) :
    ∃ next, (unlinkOther moment status taskId other).run store = (.ok (), next) ∧
      next.root = store.root ∧ next.stateFile =
        if store.IsStateFile (store.taskFile other taskId) then .missing else store.stateFile := by
  rw [unlinkOther, if_neg foreign, run_bind_ok (run_read _), logFile, run_bind_ok (run_modify _ _),
    unlinks, if_neg Bool.false_ne_true, run_modify, changeStateFile]
  refine ⟨_, rfl, ?_, ?_⟩
  · split <;> rfl
  · exact apply_ite CollabVault.stateFile _ _ _

/-- The loop over the folders, where it is not cut, removes a task's file that is `state.json`. -/
theorem run_unlinkOthersWith_of_free {announce : Announce} {moment : Moment}
    (unlinks : moment.taskUnlinkFails = false)
    (silent : ∀ folder, announce (.taskUnlink folder) = pure ()) (status : TaskStatus)
    (taskId : PyStr) (others : List TaskStatus) (store : CollabVault) :
    ∃ after, (unlinkOthersWith announce moment status taskId others).run store = (.ok (), after) ∧
      after.root = store.root ∧ (after.stateFile = .missing ∨
        after.stateFile = store.stateFile ∧ ∀ other ∈ others, other ≠ status →
          ¬store.IsStateFile (store.taskFile other taskId)) := by
  induction others generalizing store with
  | nil => exact ⟨store, rfl, rfl, .inr ⟨rfl, fun _ member => absurd member List.not_mem_nil⟩⟩
  | cons other rest ih =>
      have passes : (announce (.taskUnlink other)).run store = (.ok (), store) := by
        rw [silent, run_pure]
      rw [unlinkOthersWith, run_bind_ok passes]
      by_cases own : other = status
      · have skipped : (unlinkOther moment status taskId other).run store = (.ok (), store) := by
          rw [unlinkOther, if_pos own, run_pure]
        rw [run_bind_ok skipped]
        obtain ⟨after, ran, root, removed | ⟨same, free⟩⟩ := ih store
        · exact ⟨after, ran, root, .inl removed⟩
        · refine ⟨after, ran, root, .inr ⟨same, List.forall_mem_cons.mpr ⟨?_, free⟩⟩⟩
          exact fun foreign => absurd own foreign
      · obtain ⟨next, removed, root, isNext⟩ := run_unlinkOther_of_foreign unlinks own taskId store
        rw [run_bind_ok removed]
        obtain ⟨after, ran, rootAfter, gone | ⟨same, free⟩⟩ := ih next
        · exact ⟨after, ran, rootAfter.trans root, .inl gone⟩
        · refine ⟨after, ran, rootAfter.trans root, ?_⟩
          rw [same, isNext]
          split
          · exact .inl rfl
          · next elsewhere =>
              refine .inr ⟨rfl, List.forall_mem_cons.mpr ⟨fun _ => elsewhere, ?_⟩⟩
              intro folder listed foreign isState
              refine free folder listed foreign ?_
              rwa [isStateFile_congr root, taskFile_congr root]

variable {announce : Announce} (still : ∀ point, KeepsSound root (announce point))

include still

theorem keepsSound_unlinkOthersWith (moment : Moment) (status : TaskStatus) (taskId : PyStr)
    (others : List TaskStatus) :
    KeepsSound root (unlinkOthersWith announce moment status taskId others) := by
  induction others with
  | nil => exact keepsSound_pure _
  | cons other rest ih =>
      refine keeps_bind (still _) fun _ _ => ?_
      refine keeps_bind (keeps_ite (fun _ => keepsSound_pure _) fun _ => ?_) fun _ _ => ih
      refine keeps_bind keeps_read fun vault _ => ?_
      refine keeps_bind (keepsSound_logFile _) fun _ _ => ?_
      refine keeps_ite (fun _ => keeps_raise trivial) fun _ => ?_
      exact keepsSound_changeStateFile fun _ _ _ => StateFile.sound_missing

/-- A task that does not take the place of the state with keys of the state. -/
theorem keepsSound_storeTaskWith {moment : Moment} {taskId : PyStr} {status : TaskStatus}
    {task : JsonObject} (loads : (StateFile.task (storedTask moment taskId status task)).load? ≠ none ∨
      ∀ vault : CollabVault, vault.root = root → ¬vault.IsStateFile (vault.taskFile status taskId)) :
    KeepsSound root (storeTaskWith announce moment taskId status task) := by
  refine keeps_bind (keepsSound_setState _) fun _ _ => keeps_bind keeps_read fun vault here => ?_
  refine keeps_bind (still _) fun _ _ => ?_
  have writes : KeepsSound root
      (writeTask moment (vault.taskFile status taskId) (storedTask moment taskId status task)) := by
    refine keepsSound_writeTask fun other sound isState => ?_
    rcases loads with loads | elsewhere
    · exact StateFile.sound_task loads
    · refine absurd ?_ (elsewhere vault here.1)
      rwa [isStateFile_congr (sound.1.trans here.1.symm)] at isState
  refine keeps_bind writes fun _ _ => ?_
  refine keeps_bind (keepsSound_unlinkOthersWith still _ _ _ _) fun _ _ => ?_
  refine keeps_bind (still _) fun _ _ => ?_
  exact keeps_bind keepsSound_saveState fun _ _ => keepsSound_pure _

/-- A task whose file is removed from `state.json` again. -/
theorem keepsSound_storeTaskWith_of_free {moment : Moment} (unlinks : moment.taskUnlinkFails = false)
    (silent : ∀ folder, announce (.taskUnlink folder) = pure ()) (taskId : PyStr)
    (status : TaskStatus) (task : JsonObject) :
    KeepsSound root (storeTaskWith announce moment taskId status task) := by
  refine keeps_bind (keepsSound_setState _) fun _ _ => keeps_bind keeps_read fun vault here => ?_
  refine keeps_bind (still _) fun _ _ => ?_
  have rest : KeepsSound root (do
      announce .applied
      saveState
      return storedTask moment taskId status task) :=
    keeps_bind (still _) fun _ _ => keeps_bind keepsSound_saveState fun _ _ => keepsSound_pure _
  generalize storedTask moment taskId status task = stored at *
  intro store sound
  obtain ⟨isRoot, isSound⟩ := sound
  -- The task's file is written, or the call ends before.
  rcases run_writeTask_cases moment (vault.taskFile status taskId) stored store with
    ⟨fault, logged, failed, root, same⟩ | ⟨filed, ran, root, same⟩
  · rw [run_bind_error failed]
    exact ⟨⟨root.trans isRoot, same ▸ isSound⟩, fun _ _ => trivial, fun _ _ => trivial⟩
  rw [run_bind_ok ran]
  obtain ⟨after, unlinked, rootAfter, removed | ⟨unchanged, free⟩⟩ :=
    run_unlinkOthersWith_of_free unlinks silent status taskId TaskStatus.all filed
  · rw [run_bind_ok unlinked]
    refine rest after ⟨rootAfter.trans (root.trans isRoot), ?_⟩
    rw [removed]
    exact StateFile.sound_missing
  · rw [run_bind_ok unlinked]
    refine rest after ⟨rootAfter.trans (root.trans isRoot), ?_⟩
    have elsewhere : ¬store.IsStateFile (vault.taskFile status taskId) := by
      intro isState
      obtain ⟨other, listed, foreign⟩ : ∃ other ∈ TaskStatus.all, other ≠ status := by
        cases status <;> decide
      refine free other listed foreign ?_
      rw [isStateFile_congr root]
      have here : filed.taskFile status taskId = vault.taskFile status taskId :=
        taskFile_congr (root.trans (isRoot.trans here.1.symm)) status taskId
      rw [← here] at isState
      rw [← isStateFile_congr root] at isState ⊢
      exact isStateFile_taskFile isState other
    rw [unchanged, same, if_neg elsewhere]
    exact isSound

theorem keepsSound_upsertTaskWith {moment : Moment} {task : JsonObject}
    (uncut : (∃ vault : CollabVault, vault.root = root ∧ vault.Overwrites py moment task) →
      moment.taskUnlinkFails = false ∧ ∀ folder, announce (.taskUnlink folder) = pure ()) :
    KeepsSound root (upsertTaskWith announce py moment task) := by
  cases known : taskStatus? py task with
  | none =>
      intro vault sound
      rw [upsertTaskWith, known, run_bind_error (run_ofOption_none _ _)]
      exact ⟨sound, fun _ _ => trivial, fun _ _ => trivial⟩
  | some status =>
      rw [upsertTaskWith, known]
      refine keeps_bind (keeps_pure rfl) fun found isStatus => ?_
      subst isStatus
      by_cases free : moment.taskUnlinkFails = false ∧ ∀ folder, announce (.taskUnlink folder) = pure ()
      · exact keepsSound_storeTaskWith_of_free still free.1 free.2 _ _ _
      · refine keepsSound_storeTaskWith still ?_
        by_contra neither
        obtain ⟨overwritten, somewhere⟩ := not_or.mp neither
        push Not at overwritten somewhere
        obtain ⟨vault, isRoot, isState⟩ := somewhere
        exact free (uncut ⟨vault, isRoot, _, known, isState, overwritten⟩)

theorem keepsSound_registerNodeWith (moment : Moment) (nodeId role : PyStr) (ttl : Int) :
    KeepsSound root (registerNodeWith announce moment nodeId role ttl) := by
  refine keeps_bind keeps_read fun vault _ => ?_
  refine keeps_ite (fun _ => keeps_raise trivial) fun _ => ?_
  refine keeps_bind (keepsSound_setState _) fun _ _ => ?_
  exact keeps_bind (still _) fun _ _ => keepsSound_saveState

theorem keepsSound_ensureAuditCleanWith : KeepsSound root (ensureAuditCleanWith announce py) := by
  refine keeps_bind keeps_read fun vault _ => ?_
  refine keeps_ite (fun _ => keepsSound_pure _) fun _ => ?_
  refine keeps_bind (keepsSound_setState _) fun _ _ => keeps_bind (still _) fun _ _ => ?_
  exact keeps_bind keepsSound_saveState fun _ _ => keeps_raise trivial

/-- An event leaves a file that can be loaded, unless it is cut while its task takes the place of
the state. -/
theorem keepsSound_appendEventWith {moment : Moment} {node op : PyStr} {payload : JsonObject}
    {sig : PyStr} (uncut : storesTask op payload →
      (∃ vault : CollabVault, vault.root = root ∧ vault.Overwrites py moment (eventTask payload)) →
        moment.taskUnlinkFails = false ∧ ∀ folder, announce (.taskUnlink folder) = pure ()) :
    KeepsSound root (appendEventWith announce py moment node op payload sig) := by
  have applied : KeepsSound root
      (applyEventWith announce py moment (newEntry moment node op payload sig)) := by
    refine keeps_ite (fun _ => keepsSound_setState _) fun _ => ?_
    apply keeps_ite
    · intro isTask
      refine keeps_ite (fun named => ?_) fun _ => keepsSound_pure _
      have upserts := keepsSound_upsertTaskWith still (uncut ⟨isTask, named⟩)
      exact keeps_bind upserts fun _ _ => keepsSound_pure _
    · intro _
      refine keeps_ite (fun _ => ?_) fun _ => keepsSound_pure _
      split
      · exact keepsSound_pure _
      · exact keepsSound_registerNodeWith still _ _ _ _
  refine keeps_bind (keepsSound_ensureAuditCleanWith still) fun _ _ => ?_
  refine keeps_bind keeps_read fun vault _ => ?_
  refine keeps_bind (keeps_ofOption trivial _) fun rows _ => ?_
  refine keeps_bind (keeps_ofOption trivial _) fun entryHash _ => ?_
  refine keeps_bind (keeps_ofOption trivial _) fun auditHash _ => ?_
  refine keeps_bind (still _) fun _ _ => ?_
  refine keeps_bind (keepsSound_appendLedger _) fun _ _ => keeps_bind (still _) fun _ _ => ?_
  refine keeps_bind (keepsSound_appendAudit _) fun _ _ => ?_
  refine keeps_bind applied fun _ _ => keeps_bind (keepsSound_setState _) fun _ _ => ?_
  exact keeps_bind (still _) fun _ _ => keeps_bind keepsSound_saveState fun _ _ => keepsSound_pure _

end Keeps

theorem keepsSound_silent (root : Path) (point : WritePoint) :
    KeepsSound root (Announce.silent point) :=
  keepsSound_pure _

theorem keepsSound_stopAt (root : Path) (stop point : WritePoint) :
    KeepsSound root (Announce.stopAt stop point) :=
  keeps_ite (fun _ => keeps_raise trivial) fun _ => keepsSound_pure _

end HermesMesh.Collab
