import HermesMesh.Collab.Vault.ChainRuns
import HermesMesh.Collab.Vault.Rejection

/-!
# A process that stops inside `append_event`

An event is made durable by several writes.  Here the calls of the vault announce each
of them before they make it, so that a process can stop there, or the write can raise:
both leave the same files, and a new process reads them.  The write of one line is one
step.  Only a stop between the line of the ledger and that of the audit file breaks the
chain.
-/

namespace HermesMesh.Collab

open Python Foundation Foundation.Action CollabVault

variable {py : Platform}

/-- The durable writes of `append_event`, in their order. -/
inductive WritePoint where
  /-- `state.json`, with the mark of a broken chain. -/
  | tampered
  | ledgerLine
  | auditLine
  | taskFile
  | taskUnlink (folder : TaskStatus)
  /-- `state.json`, by `upsert_task` or `register_node`. -/
  | applied
  | state
  deriving DecidableEq

/-- What is done before a write. -/
abbrev Announce := WritePoint → Action CollabVault Fault Unit

/-- Every write is made. -/
def Announce.silent : Announce := fun _ => pure ()

/-- The process stops before this write, or the write raises. -/
def Announce.stopAt (stop : WritePoint) : Announce := fun point =>
  if point = stop then .raise .osError else pure ()

namespace CollabVault

/-! ## The calls with their writes announced -/

section Announced

variable (announce : Announce)

def ensureAuditCleanWith (py : Platform) : Action CollabVault Fault Unit := do
  let vault ← .read
  if vault.chainVerified py then return
  else
    .modify (setTampered true)
    announce .tampered
    saveState
    .raise (.vaultError "audit chain tampered")

def registerNodeWith (moment : Moment) (nodeId role : PyStr) (ttl : Int) :
    Action CollabVault Fault Unit := do
  let vault ← .read
  let existing := vault.state.nodes.get? nodeId
  if existing.map NodeRecord.status = some .revoked then
    .raise (.vaultError "node is revoked")
  else
    .modify (setNode nodeId (registered moment existing role ttl))
    announce .applied
    saveState

def unlinkOthersWith (moment : Moment) (status : TaskStatus) (taskId : PyStr) :
    List TaskStatus → Action CollabVault Fault Unit
  | [] => return
  | other :: rest => do
      announce (.taskUnlink other)
      unlinkOther moment status taskId other
      unlinkOthersWith moment status taskId rest

def storeTaskWith (moment : Moment) (taskId : PyStr) (status : TaskStatus) (task : JsonObject) :
    Action CollabVault Fault JsonObject := do
  let stored := storedTask moment taskId status task
  .modify (setState (withTask taskId status stored))
  let vault ← .read
  announce .taskFile
  writeTask moment (vault.taskFile status taskId) stored
  unlinkOthersWith announce moment status taskId TaskStatus.all
  announce .applied
  saveState
  return stored

def upsertTaskWith (py : Platform) (moment : Moment) (task : JsonObject) :
    Action CollabVault Fault JsonObject := do
  let status ← .ofOption (.vaultError "invalid collab task status") (taskStatus? py task)
  storeTaskWith announce moment (taskIdText py moment task) status task

def applyEventWith (py : Platform) (moment : Moment) (entry : LedgerEntry) :
    Action CollabVault Fault Unit := do
  if entry.op = lit "message" ∨ entry.op = lit "broadcast" then
    .modify (setState (VaultState.withMessage entry.toMessage))
  else if entry.op = lit "task" then
    let task := eventTask entry.payload
    if (task.getD (lit "id") .null).truthy then
      let _ ← upsertTaskWith announce py moment task
  else if entry.op = lit "join" then
    match joinedNode entry.payload with
    | none => return
    | some joined => registerNodeWith announce moment joined (joinedRole py entry.payload) 0

def applyAndSaveWith (py : Platform) (moment : Moment) (entry : LedgerEntry) :
    Action CollabVault Fault LedgerEntry := do
  applyEventWith announce py moment entry
  .modify (setState (VaultState.synced entry))
  announce .state
  saveState
  return entry

def appendEventWith (py : Platform) (moment : Moment) (node op : PyStr) (payload : JsonObject)
    (sig : PyStr) : Action CollabVault Fault LedgerEntry := do
  ensureAuditCleanWith announce py
  let vault ← .read
  let entry := newEntry moment node op payload sig
  let previous := previousHash (← .ofOption .valueError (auditLines vault.audit))
  let entryHash ← .ofOption .valueError (hashOf py entry.toJson)
  let auditHash ← .ofOption .valueError (hashOf py (linkJson (.str entry.id) previous entryHash))
  let auditEntry : AuditRow := ⟨entry.id, previous, entryHash, auditHash, entry.ts⟩
  announce .ledgerLine
  appendLedger (Json.dumps .canonical entry.toJson)
  announce .auditLine
  appendAudit (Json.dumps .canonical auditEntry.toJson)
  applyAndSaveWith announce py moment entry

end Announced

/-! ## Without a stop they are the calls themselves -/

theorem silent_bind {α : Type} (point : WritePoint) (next : Unit → Action CollabVault Fault α) :
    (Announce.silent point >>= next) = next () := rfl

theorem unlinkOthersWith_silent (moment : Moment) (status : TaskStatus) (taskId : PyStr)
    (others : List TaskStatus) :
    unlinkOthersWith .silent moment status taskId others = unlinkOthers moment status taskId others := by
  induction others with
  | nil => rfl
  | cons other rest ih => simp only [unlinkOthersWith, unlinkOthers, silent_bind, ih]

theorem upsertTaskWith_silent (py : Platform) (moment : Moment) (task : JsonObject) :
    upsertTaskWith .silent py moment task = upsertTask py moment task := by
  simp only [upsertTaskWith, storeTaskWith, silent_bind, unlinkOthersWith_silent, upsertTask,
    storeTask]

theorem registerNodeWith_silent (moment : Moment) (nodeId role : PyStr) (ttl : Int) :
    registerNodeWith .silent moment nodeId role ttl = registerNode moment nodeId role ttl := by
  simp only [registerNodeWith, silent_bind, registerNode]

theorem applyEventWith_silent (py : Platform) (moment : Moment) (entry : LedgerEntry) :
    applyEventWith .silent py moment entry = applyEvent py moment entry := by
  unfold applyEventWith applyEvent
  cases joinedNode entry.payload with
  | none => simp only [upsertTaskWith_silent]
  | some joined => simp only [upsertTaskWith_silent, registerNodeWith_silent]

/-- A call whose writes are all made is `append_event`. -/
theorem appendEventWith_silent (py : Platform) (moment : Moment) (node op : PyStr)
    (payload : JsonObject) (sig : PyStr) :
    appendEventWith .silent py moment node op payload sig =
      appendEvent py moment node op payload sig := by
  simp only [appendEventWith, applyAndSaveWith, ensureAuditCleanWith, silent_bind,
    applyEventWith_silent, appendEvent, applyAndSave, ensureAuditClean]

/-! ## What a stop leaves -/

section Within

variable {announce : Announce} (still : ∀ point, Within (Agree files) (announce point))

include still

theorem within_files_registerNodeWith (moment : Moment) (nodeId role : PyStr) (ttl : Int) :
    Within (Agree files) (registerNodeWith announce moment nodeId role ttl) := by
  refine within_bind within_read fun vault => ?_
  refine within_ite (fun _ => within_raise _) fun _ => ?_
  refine within_bind (within_files_setNode _ _) fun _ => ?_
  exact within_bind (still _) fun _ => within_files_saveState

theorem within_files_unlinkOthersWith (moment : Moment) (status : TaskStatus) (taskId : PyStr)
    (others : List TaskStatus) :
    Within (Agree files) (unlinkOthersWith announce moment status taskId others) := by
  induction others with
  | nil => exact within_pure ()
  | cons other rest ih =>
      have unlinks := within_files_unlinkOthers moment status taskId [other]
      refine within_bind (still _) fun _ => within_bind ?_ fun _ => ih
      refine within_ite (fun _ => within_pure ()) fun _ => ?_
      refine within_bind within_read fun vault => within_bind (within_files_logFile _) fun _ => ?_
      exact within_ite (fun _ => within_raise _) fun _ => within_files_changeStateFile _ _

theorem within_files_upsertTaskWith (py : Platform) (moment : Moment) (task : JsonObject) :
    Within (Agree files) (upsertTaskWith announce py moment task) := by
  refine within_bind (within_ofOption _ _) fun status => ?_
  refine within_bind (within_files_setState _) fun _ => within_bind within_read fun vault => ?_
  refine within_bind (still _) fun _ => within_bind (within_files_writeTask _ _ _) fun _ => ?_
  refine within_bind (within_files_unlinkOthersWith still _ _ _ _) fun _ => ?_
  exact within_bind (still _) fun _ => within_bind within_files_saveState fun _ => within_pure _

/-- Applying an event leaves ledger and audit file alone, wherever it stops. -/
theorem within_files_applyAndSaveWith (py : Platform) (moment : Moment) (entry : LedgerEntry) :
    Within (Agree files) (applyAndSaveWith announce py moment entry) := by
  refine within_bind ?_ fun _ => within_bind (within_files_setState _) fun _ =>
    within_bind (still _) fun _ => within_bind within_files_saveState fun _ => within_pure _
  refine within_ite (fun _ => within_files_setState _) fun _ => ?_
  refine within_ite (fun _ => within_ite (fun _ => ?_) fun _ => within_pure ()) fun _ => ?_
  · exact within_bind (within_files_upsertTaskWith still _ _ _) fun _ => within_pure ()
  · refine within_ite (fun _ => ?_) fun _ => within_pure ()
    split
    · exact within_pure ()
    · exact within_files_registerNodeWith still _ _ _ _

end Within

theorem within_files_stopAt (stop point : WritePoint) :
    Within (Agree files) (Announce.stopAt stop point) :=
  within_ite (fun _ => within_raise _) fun _ => within_pure ()

/-- What is in the two files after a stop, on a vault whose chain verifies. -/
theorem files_stopped {vault : CollabVault} (verified : vault.chainVerified py = true)
    {moment : Moment} {node op : PyStr} {payload : JsonObject} {sig entryHash : PyStr}
    (hashed : hashOf py (newEntry moment node op payload sig).toJson = some entryHash)
    (stop : WritePoint) :
    ∃ rows previous hash ledgerBytes auditBytes,
      auditLines vault.audit = some rows ∧ previousHash rows = .str previous ∧
      hashOf py (linkJson (.str moment.uuid.text) (.str previous) entryHash) = some hash ∧
      encodeUtf8 ((newEntry moment node op payload sig).toJson.dumps .canonical ++ [lineFeed]) =
        some ledgerBytes ∧
      encodeUtf8 ((AuditRow.mk moment.uuid.text (.str previous) entryHash hash
        moment.now.text).toJson.dumps .canonical ++ [lineFeed]) = some auditBytes ∧
      files ((appendEventWith (.stopAt stop) py moment node op payload sig).run vault).2 =
        if stop = .ledgerLine then files vault
        else if stop = .auditLine then (vault.root, vault.ledger ++ ledgerBytes, vault.audit)
        else files (vault.withLines ledgerBytes auditBytes) := by
  obtain ⟨rows, previous, hash, ledgerBytes, auditBytes, isRows, isPrevious, linked, ledgerEq,
    auditEq, -⟩ := run_appendEvent_recorded verified hashed
  refine ⟨rows, previous, hash, ledgerBytes, auditBytes, isRows, isPrevious, linked, ledgerEq,
    auditEq, ?_⟩
  have idText : (newEntry moment node op payload sig).id = moment.uuid.text := rfl
  have tsText : (newEntry moment node op payload sig).ts = moment.now.text := rfl
  simp only [appendEventWith, ensureAuditCleanWith, run_bind, run_read, verified, if_true, run_pure,
    isRows, run_ofOption_some, hashed, isPrevious, idText, tsText, linked, appendLedger, appendAudit,
    ledgerEq, auditEq]
  have kept := within_files_applyAndSaveWith (within_files_stopAt stop) py moment
    (newEntry moment node op payload sig) (vault.withLines ledgerBytes auditBytes)
  by_cases atLedger : stop = .ledgerLine
  · simp [Announce.stopAt, atLedger]
  · have pastLedger : ¬WritePoint.ledgerLine = stop := fun same => atLedger same.symm
    by_cases atAudit : stop = .auditLine
    · simp [Announce.stopAt, atAudit, files]
    · have pastAudit : ¬WritePoint.auditLine = stop := fun same => atAudit same.symm
      simp only [Announce.stopAt, if_neg pastLedger, if_neg pastAudit, if_neg atLedger, if_neg atAudit,
        run_pure, run_modify]
      exact kept

end CollabVault

end HermesMesh.Collab
