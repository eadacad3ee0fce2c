import HermesMesh.Collab.Vault.Writable

/-!
# What the vault's operations change

One lemma per operation says which part of the vault it leaves alone and which
exceptions it can raise; the results about runs use these and never look into the
operations again.
-/

namespace HermesMesh.Collab.CollabVault

open Python Foundation Foundation.Action

/-- The parts of the vault that no operation on nodes or tasks touches. -/
def files (vault : CollabVault) : Path × ByteArray × ByteArray :=
  (vault.root, vault.ledger, vault.audit)

/-! ## The save of the state -/

theorem run_saveState {vault : CollabVault} (writable : vault.state.Writable) :
    saveState.run vault = (.ok (), { vault with stateFile := .saved vault.state }) := by
  obtain ⟨bytes, isBytes⟩ := Option.isSome_iff_exists.mp writable
  rw [saveState, run_bind_ok (run_read _), isBytes, run_bind_ok (run_ofOption_some _ _ _), run_modify]

theorem run_saveState_unwritable {vault : CollabVault} (unwritable : ¬vault.state.Writable) :
    saveState.run vault = (.error .valueError, vault) := by
  have isNone : jsonBytes vault.state.toJson = none := by
    simpa [VaultState.Writable] using unwritable
  rw [saveState, run_bind_ok (run_read _), isNone]
  exact run_bind_error (run_ofOption_none _ _) _

/-- Whatever the state is saved to does not matter to what is left alone besides. -/
theorem within_saveState {related : CollabVault → CollabVault → Prop} [Std.Refl related]
    [IsTrans CollabVault related]
    (saves : ∀ vault, related vault { vault with stateFile := .saved vault.state }) :
    Within related saveState := by
  intro vault
  by_cases writable : vault.state.Writable
  · rw [run_saveState writable]
    exact saves vault
  · rw [run_saveState_unwritable writable]
    exact refl vault

theorem within_files_saveState : Within (Agree files) saveState :=
  within_saveState fun _ => rfl

/-- The memory. -/
theorem within_state_saveState : Within (Agree CollabVault.state) saveState :=
  within_saveState fun _ => rfl

theorem within_state_changeStateFile (path : Path) (content : StateFile) :
    Within (Agree CollabVault.state)
      (modify (changeStateFile path content) : Action CollabVault Fault Unit) := by
  refine within_modify fun vault => ?_
  unfold changeStateFile
  split
  · rfl
  · rfl

theorem within_files_changeStateFile (path : Path) (content : StateFile) :
    Within (Agree files) (modify (changeStateFile path content) : Action CollabVault Fault Unit) := by
  refine within_modify fun vault => ?_
  unfold changeStateFile
  split
  · rfl
  · rfl

/-! ## What the calls leave alone -/

theorem within_files_logFile (action : FileAction) : Within (Agree files) (logFile action) :=
  within_modify fun _ => rfl

theorem within_files_setState (update : VaultState → VaultState) :
    Within (Agree files) (modify (setState update) : Action CollabVault Fault Unit) :=
  within_modify fun _ => rfl

theorem within_files_setNode (nodeId : PyStr) (record : NodeRecord) :
    Within (Agree files) (modify (setNode nodeId record) : Action CollabVault Fault Unit) :=
  within_modify fun _ => rfl

theorem within_files_registerNode (moment : Moment) (nodeId role : PyStr) (ttl : Int) :
    Within (Agree files) (registerNode moment nodeId role ttl) := by
  refine within_bind within_read fun vault => ?_
  refine within_ite (fun _ => within_raise _) fun _ => ?_
  exact within_bind (within_files_setNode _ _) fun _ => within_files_saveState

theorem within_files_writeTask (moment : Moment) (target : Path) (task : JsonObject) :
    Within (Agree files) (writeTask moment target task) := by
  refine within_bind (within_files_logFile _) fun _ => within_ite (fun _ => within_raise _) fun _ => ?_
  refine within_bind (within_ofOption _ _) fun _ => within_bind (within_files_logFile _) fun _ => ?_
  exact within_files_changeStateFile _ _

theorem within_files_unlinkOthers (moment : Moment) (status : TaskStatus) (taskId : PyStr)
    (others : List TaskStatus) :
    Within (Agree files) (unlinkOthers moment status taskId others) := by
  induction others with
  | nil => exact within_pure ()
  | cons other rest ih =>
      refine within_bind (within_ite (fun _ => within_pure ()) fun _ => ?_) fun _ => ih
      refine within_bind within_read fun vault => within_bind (within_files_logFile _) fun _ => ?_
      exact within_ite (fun _ => within_raise _) fun _ => within_files_changeStateFile _ _

theorem within_files_upsertTask (py : Platform) (moment : Moment) (task : JsonObject) :
    Within (Agree files) (upsertTask py moment task) := by
  refine within_bind (within_ofOption _ _) fun status => ?_
  refine within_bind (within_files_setState _) fun _ => within_bind within_read fun vault => ?_
  refine within_bind (within_files_writeTask _ _ _) fun _ => ?_
  refine within_bind (within_files_unlinkOthers _ _ _ _) fun _ => ?_
  exact within_bind within_files_saveState fun _ => within_pure _

theorem within_files_applyEvent (py : Platform) (moment : Moment) (entry : LedgerEntry) :
    Within (Agree files) (applyEvent py moment entry) := by
  refine within_ite (fun _ => within_files_setState _) fun _ => ?_
  refine within_ite (fun _ => within_ite (fun _ => ?_) fun _ => within_pure ()) fun _ => ?_
  · exact within_bind (within_files_upsertTask _ _ _) fun _ => within_pure ()
  · refine within_ite (fun _ => ?_) fun _ => within_pure ()
    split
    · exact within_pure ()
    · exact within_files_registerNode _ _ _ _

theorem within_files_applyAndSave (py : Platform) (moment : Moment) (entry : LedgerEntry) :
    Within (Agree files) (applyAndSave py moment entry) := by
  refine within_bind (within_files_applyEvent py moment entry) fun _ => ?_
  refine within_bind (within_files_setState _) fun _ => ?_
  exact within_bind within_files_saveState fun _ => within_pure _

/-! ## The memory -/

@[simp] theorem state_setState (update : VaultState → VaultState) (vault : CollabVault) :
    (setState update vault).state = update vault.state := rfl

theorem within_state_logFile (action : FileAction) :
    Within (Agree CollabVault.state) (logFile action) :=
  within_modify fun _ => rfl

theorem within_state_writeTask (moment : Moment) (target : Path) (task : JsonObject) :
    Within (Agree CollabVault.state) (writeTask moment target task) := by
  refine within_bind (within_state_logFile _) fun _ => within_ite (fun _ => within_raise _) fun _ => ?_
  refine within_bind (within_ofOption _ _) fun _ => within_bind (within_state_logFile _) fun _ => ?_
  exact within_state_changeStateFile _ _

theorem within_state_unlinkOthers (moment : Moment) (status : TaskStatus) (taskId : PyStr)
    (others : List TaskStatus) :
    Within (Agree CollabVault.state) (unlinkOthers moment status taskId others) := by
  induction others with
  | nil => exact within_pure ()
  | cons other rest ih =>
      refine within_bind (within_ite (fun _ => within_pure ()) fun _ => ?_) fun _ => ih
      refine within_bind within_read fun vault => within_bind (within_state_logFile _) fun _ => ?_
      exact within_ite (fun _ => within_raise _) fun _ => within_state_changeStateFile _ _

/-- A task whose status is known is put in its place in the memory, whatever becomes of its
files. -/
theorem state_storeTask (moment : Moment) (taskId : PyStr) (status : TaskStatus) (task : JsonObject)
    (vault : CollabVault) :
    ((storeTask moment taskId status task).run vault).2.state =
      withTask taskId status (storedTask moment taskId status task) vault.state := by
  have files : Within (Agree CollabVault.state) (do
      writeTask moment (vault.taskFile status taskId) (storedTask moment taskId status task)
      unlinkOthers moment status taskId TaskStatus.all
      saveState
      return storedTask moment taskId status task) := by
    refine within_bind (within_state_writeTask _ _ _) fun _ => ?_
    refine within_bind (within_state_unlinkOthers _ _ _ _) fun _ => ?_
    exact within_bind within_state_saveState fun _ => within_pure _
  exact files (setState (withTask taskId status (storedTask moment taskId status task)) vault)

/-- A message is in the memory, whether or not that can be saved. -/
theorem state_applyAndSave_of_message {py : Platform} {entry : LedgerEntry}
    (isMessage : entry.op = lit "message" ∨ entry.op = lit "broadcast") (moment : Moment)
    (vault : CollabVault) :
    ((applyAndSave py moment entry).run vault).2.state =
      (vault.state.withMessage entry.toMessage).synced entry := by
  have saves : Within (Agree CollabVault.state)
      (saveState >>= fun _ => pure entry : Action CollabVault Fault LedgerEntry) :=
    within_bind within_state_saveState fun _ => within_pure _
  have applied : (applyEvent py moment entry).run vault =
      (.ok (), setState (VaultState.withMessage entry.toMessage) vault) := by
    rw [applyEvent, if_pos isMessage, run_modify]
  rw [applyAndSave, run_bind_ok applied, run_bind_ok (run_modify _ _)]
  exact saves _

/-! ## Exceptions -/

section Raised

variable {faults : Fault → Prop}

theorem raises_saveState (encode : faults .valueError) : Raises faults saveState :=
  raises_bind raises_read fun _ => raises_bind (raises_ofOption encode _) fun _ => raises_modify _

theorem raises_writeTask {moment : Moment} (encode : faults .valueError)
    (write : moment.taskWriteFails = true → faults .osError) (target : Path) (task : JsonObject) :
    Raises faults (writeTask moment target task) := by
  refine raises_bind (raises_modify _) fun _ => ?_
  refine raises_ite (fun fails => raises_raise (write fails)) fun _ => ?_
  refine raises_bind (raises_ofOption encode _) fun _ => ?_
  exact raises_bind (raises_modify _) fun _ => raises_modify _

theorem raises_unlinkOthers {moment : Moment}
    (unlink : moment.taskUnlinkFails = true → faults .osError) (status : TaskStatus) (taskId : PyStr)
    (others : List TaskStatus) : Raises faults (unlinkOthers moment status taskId others) := by
  induction others with
  | nil => exact raises_pure ()
  | cons other rest ih =>
      refine raises_bind (raises_ite (fun _ => raises_pure ()) fun _ => ?_) fun _ => ih
      refine raises_bind raises_read fun vault => raises_bind (raises_modify _) fun _ => ?_
      exact raises_ite (fun fails => raises_raise (unlink fails)) fun _ => raises_modify _

/-- Once the status is known, only the file system and a text that UTF-8 cannot hold can
refuse a task. -/
theorem raises_storeTask {moment : Moment} (encode : faults .valueError)
    (write : moment.taskWriteFails = true → faults .osError)
    (unlink : moment.taskUnlinkFails = true → faults .osError) (taskId : PyStr) (status : TaskStatus)
    (task : JsonObject) : Raises faults (storeTask moment taskId status task) := by
  refine raises_bind (raises_modify _) fun _ => raises_bind raises_read fun vault => ?_
  refine raises_bind (raises_writeTask encode write _ _) fun _ => ?_
  refine raises_bind (raises_unlinkOthers unlink _ _ _) fun _ => ?_
  exact raises_bind (raises_saveState encode) fun _ => raises_pure _

theorem raises_registerNode (revoked : faults (.vaultError "node is revoked"))
    (encode : faults .valueError) (moment : Moment) (nodeId role : PyStr) (ttl : Int) :
    Raises faults (registerNode moment nodeId role ttl) := by
  refine raises_bind raises_read fun vault => ?_
  refine raises_ite (fun _ => raises_raise revoked) fun _ => ?_
  exact raises_bind (raises_modify _) fun _ => raises_saveState encode

/-- The exceptions of applying an event: a status or a node that the vault refuses, a text that
UTF-8 cannot hold, and what the file system refuses. -/
theorem raises_applyEvent (status : faults (.vaultError "invalid collab task status"))
    (revoked : faults (.vaultError "node is revoked")) (encode : faults .valueError)
    {moment : Moment} (write : moment.taskWriteFails = true → faults .osError)
    (unlink : moment.taskUnlinkFails = true → faults .osError) (py : Platform) (entry : LedgerEntry) :
    Raises faults (applyEvent py moment entry) := by
  refine raises_ite (fun _ => raises_modify _) fun _ => ?_
  refine raises_ite (fun _ => raises_ite (fun _ => ?_) fun _ => raises_pure ()) fun _ => ?_
  · refine raises_bind (raises_bind (raises_ofOption status _) fun _ => ?_) fun _ => raises_pure ()
    exact raises_storeTask encode write unlink _ _ _
  · refine raises_ite (fun _ => ?_) fun _ => raises_pure ()
    split
    · exact raises_pure ()
    · exact raises_registerNode revoked encode _ _ _ _

theorem raises_applyAndSave (status : faults (.vaultError "invalid collab task status"))
    (revoked : faults (.vaultError "node is revoked")) (encode : faults .valueError)
    {moment : Moment} (write : moment.taskWriteFails = true → faults .osError)
    (unlink : moment.taskUnlinkFails = true → faults .osError) (py : Platform) (entry : LedgerEntry) :
    Raises faults (applyAndSave py moment entry) := by
  refine raises_bind (raises_applyEvent status revoked encode write unlink py entry) fun _ => ?_
  refine raises_bind (raises_modify _) fun _ => ?_
  exact raises_bind (raises_saveState encode) fun _ => raises_pure _

end Raised

/-! ## Refused events -/

/-- The vault's nodes have this one as revoked. -/
def IsRevoked (vault : CollabVault) (nodeId : PyStr) : Prop :=
  (vault.state.nodes.get? nodeId).map NodeRecord.status = some .revoked

/-- An event that the vault refuses when it applies it: a task with an identifier
and an unknown status, or a join of a revoked node. -/
def RefusesEvent (py : Platform) (vault : CollabVault) (op : PyStr) (payload : JsonObject) : Prop :=
  (op = lit "task" ∧ ((eventTask payload).getD (lit "id") .null).truthy = true ∧
      taskStatus? py (eventTask payload) = none) ∨
    (op = lit "join" ∧ ∃ joined, joinedNode payload = some joined ∧ vault.IsRevoked joined)

/-- The call raised `VaultError`. -/
def IsVaultError {α : Type} (result : Except Fault α) : Prop :=
  ∃ message, result = .error (.vaultError message)

theorem isVaultError_discard {α : Type} (action : Action CollabVault Fault α)
    (vault : CollabVault) :
    IsVaultError ((do let _ ← action : Action CollabVault Fault Unit).run vault).1 ↔
      IsVaultError (action.run vault).1 := by
  rw [run_bind]
  rcases action.run vault with ⟨fault | value, after⟩ <;> simp [IsVaultError]

/-- A text that UTF-8 cannot hold is no `VaultError`. -/
theorem not_isVaultError_saveState (vault : CollabVault) :
    ¬IsVaultError (saveState.run vault).1 := by
  rintro ⟨message, failed⟩
  have valueError := @raises_saveState (fun fault => fault = .valueError) rfl vault _ failed
  cases valueError

theorem isVaultError_registerNode (moment : Moment) (nodeId role : PyStr) (ttl : Int)
    (vault : CollabVault) :
    IsVaultError ((registerNode moment nodeId role ttl).run vault).1 ↔ vault.IsRevoked nodeId := by
  simp only [registerNode, run_bind, run_read, IsVaultError, IsRevoked]
  split
  · next revoked => simp [revoked]
  · next notRevoked =>
      have saved := not_isVaultError_saveState (setNode nodeId (registered moment
        (vault.state.nodes.get? nodeId) role ttl) vault)
      simpa [notRevoked, run_bind, IsVaultError] using saved

theorem isVaultError_upsertTask (py : Platform) (moment : Moment) (task : JsonObject)
    (vault : CollabVault) :
    IsVaultError ((upsertTask py moment task).run vault).1 ↔ taskStatus? py task = none := by
  cases known : taskStatus? py task with
  | none => simp [upsertTask, run_bind, known, IsVaultError]
  | some status =>
      simp only [upsertTask, run_bind, known, run_ofOption_some, reduceCtorEq, iff_false]
      rintro ⟨message, failed⟩
      have other := @raises_storeTask (fun fault => fault = .valueError ∨ fault = .osError) moment
        (.inl rfl) (fun _ => .inr rfl) (fun _ => .inr rfl) (taskIdText py moment task) status task
        vault _ failed
      rcases other with value | os
      · cases value
      · cases os

/-- Applying an event raises `VaultError` exactly when the vault refuses it. -/
theorem isVaultError_applyEvent (py : Platform) (moment : Moment) (entry : LedgerEntry)
    (vault : CollabVault) :
    IsVaultError ((applyEvent py moment entry).run vault).1 ↔
      vault.RefusesEvent py entry.op entry.payload := by
  unfold applyEvent RefusesEvent
  split
  · next isMessage =>
      have notTask : entry.op ≠ lit "task" := by rcases isMessage with same | same <;> simp [same]
      have notJoin : entry.op ≠ lit "join" := by rcases isMessage with same | same <;> simp [same]
      simp [IsVaultError, notTask, notJoin]
  split
  · next isTask =>
      have notJoin : entry.op ≠ lit "join" := by simp [isTask]
      simp only [isTask, true_and, lit_inj]
      split
      · next named =>
          simp [isVaultError_discard, isVaultError_upsertTask, named]
      · next unnamed => simp [IsVaultError, unnamed]
  split
  · next notTask isJoin =>
      simp only [isJoin, lit_inj, true_and]
      split
      · next nobody => simp [IsVaultError, nobody]
      · next joined named => simp [isVaultError_registerNode, named]
  · next notTask notJoin => simp [IsVaultError, notTask, notJoin]

end HermesMesh.Collab.CollabVault
