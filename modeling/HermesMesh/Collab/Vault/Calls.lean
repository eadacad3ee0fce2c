import HermesMesh.Collab.Vault.Recovery

/-!
# The calls of a vault

A vault under any of its calls and restarts.  What a property of the state has to allow for in
order to hold after all calls is said once, for the memory and `state.json` alike: tasks that
change, nodes that are written but never taken back from being revoked, and new messages.
-/

namespace HermesMesh.Collab

open Python Foundation Foundation.Action CollabVault

variable {py : Platform}

/-- A call on a vault, or a restart of the program. -/
inductive StoreCall where
  | appendEvent (moment : Moment) (node op : PyStr) (payload : JsonObject) (sig : PyStr)
  | registerNode (moment : Moment) (nodeId role : PyStr) (ttl : Int)
  | touchNode (moment : Moment) (nodeId : PyStr)
  | markRevoked (moment : Moment) (nodeId : PyStr)
  | revokeNode (moment : Moment) (nodeId : PyStr)
  | upsertTask (moment : Moment) (task : JsonObject)
  | ensureAuditClean
  | auditStatus
  | reopen

/-- What the call does to the vault. -/
def CollabVault.perform (py : Platform) : StoreCall → Action CollabVault Fault Unit
  | .appendEvent moment node op payload sig => do
      let _ ← CollabVault.appendEvent py moment node op payload sig
  | .registerNode moment nodeId role ttl => CollabVault.registerNode moment nodeId role ttl
  | .touchNode moment nodeId => CollabVault.touchNode moment nodeId
  | .markRevoked moment nodeId => CollabVault.markRevoked moment nodeId
  | .revokeNode moment nodeId => do
      let _ ← CollabVault.revokeNode moment nodeId
  | .upsertTask moment task => do
      let _ ← CollabVault.upsertTask py moment task
  | .ensureAuditClean => CollabVault.ensureAuditClean py
  | .auditStatus => do
      let _ ← CollabVault.auditStatus py
  | .reopen => .modify CollabVault.reopen

/-- A vault under any calls; the output is the exception that a call has raised. -/
def storeMachine (py : Platform) : Machine CollabVault StoreCall (Except Fault Unit) where
  step vault call := (CollabVault.perform py call).run vault

/-- A call whose result is not looked at. -/
theorem step_of_perform {α : Type} {call : StoreCall} {action : Action CollabVault Fault α}
    (isCall : CollabVault.perform py call = action >>= fun _ => pure ()) (vault : CollabVault) :
    ((storeMachine py).step vault call).2 = (action.run vault).2 := by
  change ((CollabVault.perform py call).run vault).2 = _
  rw [isCall, run_bind]
  rcases action.run vault with ⟨fault | value, after⟩
  · rfl
  · rfl

theorem within_files_ensureAuditClean : Within (Agree files) (ensureAuditClean py) := by
  refine within_bind within_read fun vault => ?_
  refine within_ite (fun _ => within_pure _) fun _ => ?_
  refine within_bind (within_files_setState _) fun _ => ?_
  exact within_bind within_files_saveState fun _ => within_raise _

/-- A call that is no event leaves the files alone. -/
theorem files_step {call : StoreCall}
    (silent : ∀ moment node op payload sig, call ≠ .appendEvent moment node op payload sig)
    (vault : CollabVault) : ((storeMachine py).step vault call).2.files = vault.files := by
  cases call with
  | appendEvent moment node op payload sig => exact absurd rfl (silent _ _ _ _ _)
  | registerNode moment nodeId role ttl => exact within_files_registerNode moment nodeId role ttl vault
  | touchNode moment nodeId => exact within_files_touchNode moment nodeId vault
  | markRevoked moment nodeId => exact within_files_markRevoked moment nodeId vault
  | revokeNode moment nodeId =>
      exact within_bind (within_files_revokeNode moment nodeId) (fun _ => within_pure ()) vault
  | upsertTask moment task =>
      exact within_bind (within_files_upsertTask py moment task) (fun _ => within_pure ()) vault
  | ensureAuditClean => exact @within_files_ensureAuditClean py vault
  | auditStatus => exact within_bind (within_files_auditStatus py) (fun _ => within_pure ()) vault
  | reopen => rfl

/-! ## Calls that spare `state.json` -/

/-- The file of the task is not `state.json`. -/
def CollabVault.Spares (vault : CollabVault) (taskId : PyStr) : Prop :=
  ∀ status, ¬vault.IsStateFile (vault.taskFile status taskId)

/-- No task file of the call is `state.json`. -/
def StoreCall.Spares (py : Platform) (vault : CollabVault) : StoreCall → Prop
  | .appendEvent moment _ op payload _ =>
      storesTask op payload → vault.Spares (taskIdText py moment (eventTask payload))
  | .upsertTask moment task => vault.Spares (taskIdText py moment task)
  | _ => True

theorem spares_congr {one other : CollabVault} (same : one.root = other.root) {taskId : PyStr} :
    one.Spares taskId ↔ other.Spares taskId := by
  unfold CollabVault.Spares
  simp only [isStateFile_congr same, taskFile_congr same]

/-! ## Properties of the state -/

/-- The node is known as revoked. -/
def IsRevoked (nodeId : PyStr) (state : VaultState) : Prop :=
  (state.nodes.get? nodeId).map NodeRecord.status = some .revoked

/-- The memory and the state that is saved in `state.json` have the property. -/
def Both (holds : VaultState → Prop) (vault : CollabVault) : Prop :=
  holds vault.state ∧ ∃ saved, vault.stateFile = .saved saved ∧ holds saved

/-- The same, of a vault at this root. -/
def BothAt (root : Path) (holds : VaultState → Prop) (vault : CollabVault) : Prop :=
  vault.root = root ∧ Both holds vault

/-- The property does not depend on the tasks, nor on a node that is written, as long as a node
that was revoked is so in the new record. -/
structure Lasting (holds : VaultState → Prop) : Prop where
  others : ∀ state tasks lastSync tampered, holds state →
    holds ⟨state.nodes, tasks, state.messages, lastSync, tampered⟩
  nodes : ∀ found state nodeId (record : NodeRecord), holds found → holds state →
    (IsRevoked nodeId found → record.status = .revoked) →
      holds { state with nodes := state.nodes.set nodeId record }

/-- The action leaves the property to both. -/
abbrev KeepsBoth {α : Type} (root : Path) (holds : VaultState → Prop)
    (action : Action CollabVault Fault α) : Prop :=
  Keeps (BothAt root holds) (fun _ => True) (fun _ => True) action

section Lasting

variable {root : Path} {holds : VaultState → Prop}

theorem keepsBoth_pure {α : Type} (value : α) :
    KeepsBoth root holds (pure value : Action CollabVault Fault α) :=
  keeps_pure trivial

theorem keepsBoth_saveState : KeepsBoth root holds saveState := by
  intro vault both
  by_cases writable : vault.state.Writable
  · rw [run_saveState writable]
    exact ⟨⟨both.1, both.2.1, _, rfl, both.2.1⟩, fun _ _ => trivial, fun _ _ => trivial⟩
  · rw [run_saveState_unwritable writable]
    exact ⟨both, fun _ _ => trivial, fun _ _ => trivial⟩

theorem keepsBoth_setState {update : VaultState → VaultState}
    (keeps : ∀ state, holds state → holds (update state)) :
    KeepsBoth root holds (.modify (setState update)) :=
  keeps_modify fun vault both => ⟨both.1, keeps vault.state both.2.1, both.2.2⟩

theorem keepsBoth_logFile (action : FileAction) : KeepsBoth root holds (logFile action) :=
  keeps_modify fun _ both => both

/-- A file that is not `state.json`. -/
theorem keepsBoth_changeStateFile {vault : CollabVault} (here : vault.root = root) {path : Path}
    (elsewhere : ¬vault.IsStateFile path) (content : StateFile) :
    KeepsBoth root holds (.modify (changeStateFile path content)) := by
  refine keeps_modify fun other both => ?_
  rw [changeStateFile, if_neg]
  · exact both
  · rwa [isStateFile_congr (both.1.trans here.symm)]

theorem keepsBoth_unlinkOthers {vault : CollabVault} (here : vault.root = root) {taskId : PyStr}
    (spares : vault.Spares taskId) (moment : Moment) (status : TaskStatus)
    (others : List TaskStatus) :
    KeepsBoth root holds (unlinkOthers moment status taskId others) := by
  induction others with
  | nil => exact keepsBoth_pure _
  | cons other rest ih =>
      refine keeps_bind (keeps_ite (fun _ => keepsBoth_pure _) fun _ => ?_) fun _ _ => ih
      refine keeps_bind keeps_read fun found both => ?_
      refine keeps_bind (keepsBoth_logFile _) fun _ _ => ?_
      refine keeps_ite (fun _ => keeps_raise trivial) fun _ => ?_
      rw [taskFile_congr (both.1.trans here.symm)]
      exact keepsBoth_changeStateFile here (spares other) _

theorem keepsBoth_writeTask {vault : CollabVault} (here : vault.root = root) {target : Path}
    (elsewhere : ¬vault.IsStateFile target) (moment : Moment) (task : JsonObject) :
    KeepsBoth root holds (writeTask moment target task) := by
  refine keeps_bind (keepsBoth_logFile _) fun _ _ => ?_
  refine keeps_ite (fun _ => keeps_raise trivial) fun _ => ?_
  refine keeps_bind (keeps_ofOption trivial _) fun _ _ => ?_
  exact keeps_bind (keepsBoth_logFile _) fun _ _ => keepsBoth_changeStateFile here elsewhere _

variable (lasting : Lasting holds)

include lasting

/-- The new record of a node, beside the vault that was read before. -/
theorem keepsBoth_setNode {vault : CollabVault} (both : Both holds vault) {nodeId : PyStr}
    {record : NodeRecord} (stays : IsRevoked nodeId vault.state → record.status = .revoked) :
    KeepsBoth root holds (.modify (setNode nodeId record)) :=
  keepsBoth_setState fun state here => lasting.nodes vault.state state nodeId record both.1 here stays

theorem keepsBoth_registerNode (moment : Moment) (nodeId role : PyStr) (ttl : Int) :
    KeepsBoth root holds (registerNode moment nodeId role ttl) := by
  refine keeps_bind keeps_read fun vault both => ?_
  apply keeps_ite
  · exact fun _ => keeps_raise trivial
  · intro notRevoked
    refine keeps_bind (keepsBoth_setNode lasting both.2 fun revoked => ?_) fun _ _ => keepsBoth_saveState
    exact absurd revoked notRevoked

theorem keepsBoth_touchNode (moment : Moment) (nodeId : PyStr) :
    KeepsBoth root holds (touchNode moment nodeId) := by
  refine keeps_bind keeps_read fun vault both => ?_
  split
  · exact keepsBoth_pure _
  · next record found =>
      refine keeps_bind (keepsBoth_setNode lasting both.2 fun revoked => ?_) fun _ _ =>
        keepsBoth_saveState
      rw [IsRevoked, found, Option.map_some] at revoked
      exact Option.some.inj revoked

theorem keepsBoth_markRevoked (moment : Moment) (nodeId : PyStr) :
    KeepsBoth root holds (markRevoked moment nodeId) := by
  refine keeps_bind keeps_read fun vault both => ?_
  exact keeps_bind (keepsBoth_setNode lasting both.2 fun _ => rfl) fun _ _ => keepsBoth_saveState

theorem keepsBoth_revokeNode (moment : Moment) (nodeId : PyStr) :
    KeepsBoth root holds (CollabVault.revokeNode moment nodeId) := by
  refine keeps_bind keeps_read fun vault both => ?_
  split
  · exact keepsBoth_pure _
  · refine keeps_bind (keepsBoth_setNode lasting both.2 fun _ => rfl) fun _ _ => ?_
    exact keeps_bind keepsBoth_saveState fun _ _ => keepsBoth_pure _

theorem keepsBoth_upsertTask {vault : CollabVault} (here : vault.root = root) {moment : Moment}
    {task : JsonObject} (spares : vault.Spares (taskIdText py moment task)) :
    KeepsBoth root holds (upsertTask py moment task) := by
  refine keeps_bind (keeps_ofOption trivial _) fun status _ => ?_
  refine keeps_bind (keepsBoth_setState fun state => lasting.others state _ _ _) fun _ _ => ?_
  refine keeps_bind keeps_read fun found both => ?_
  rw [taskFile_congr (both.1.trans here.symm)]
  refine keeps_bind (keepsBoth_writeTask here (spares status) _ _) fun _ _ => ?_
  refine keeps_bind (keepsBoth_unlinkOthers here spares _ _ _) fun _ _ => ?_
  exact keeps_bind keepsBoth_saveState fun _ _ => keepsBoth_pure _

theorem keepsBoth_ensureAuditClean : KeepsBoth root holds (ensureAuditClean py) := by
  refine keeps_bind keeps_read fun vault _ => ?_
  refine keeps_ite (fun _ => keepsBoth_pure _) fun _ => ?_
  refine keeps_bind (keepsBoth_setState fun state => lasting.others state _ _ _) fun _ _ => ?_
  exact keeps_bind keepsBoth_saveState fun _ _ => keeps_raise trivial

theorem keepsBoth_auditStatus : KeepsBoth root holds (auditStatus py) := by
  refine keeps_bind keeps_read fun vault _ => ?_
  refine keeps_bind (keeps_ofOption trivial _) fun rows _ => ?_
  refine keeps_bind (keeps_ofOption trivial _) fun text _ => ?_
  refine keeps_bind (keepsBoth_setState fun state => lasting.others state _ _ _) fun _ _ => ?_
  exact keepsBoth_pure _

/-- An event whose message, if it is one, the property allows for. -/
theorem keepsBoth_applyAndSave {vault : CollabVault} (here : vault.root = root) {moment : Moment}
    {entry : LedgerEntry} (spares : storesTask entry.op entry.payload →
      vault.Spares (taskIdText py moment (eventTask entry.payload)))
    (message : entry.op = lit "message" ∨ entry.op = lit "broadcast" → ∀ state messages,
      holds state → holds { state with messages := messages }) :
    KeepsBoth root holds (applyAndSave py moment entry) := by
  have applied : KeepsBoth root holds (applyEvent py moment entry) := by
    apply keeps_ite
    · exact fun isMessage => keepsBoth_setState fun state => message isMessage state _
    · intro notMessage
      refine keeps_ite (fun isTask => ?_) fun _ => ?_
      · refine keeps_ite (fun named => ?_) fun _ => keepsBoth_pure _
        have upserts := keepsBoth_upsertTask lasting here (spares ⟨isTask, named⟩)
        exact keeps_bind upserts fun _ _ => keepsBoth_pure _
      · refine keeps_ite (fun _ => ?_) fun _ => keepsBoth_pure _
        split
        · exact keepsBoth_pure _
        · exact keepsBoth_registerNode lasting _ _ _ _
  refine keeps_bind applied fun _ _ => ?_
  refine keeps_bind (keepsBoth_setState fun state => lasting.others state _ _ _) fun _ _ => ?_
  exact keeps_bind keepsBoth_saveState fun _ _ => keepsBoth_pure _

/-- A call that is no event. -/
theorem both_silent {vault : CollabVault} (both : Both holds vault) {call : StoreCall}
    (silent : ∀ moment node op payload sig, call ≠ .appendEvent moment node op payload sig)
    (spares : call.Spares py vault) : Both holds ((storeMachine py).step vault call).2 := by
  have performs : KeepsBoth vault.root holds (CollabVault.perform py call) →
      Both holds ((storeMachine py).step vault call).2 := fun keeps => (keeps vault ⟨rfl, both⟩).1.2
  cases call with
  | appendEvent moment node op payload sig => exact absurd rfl (silent _ _ _ _ _)
  | registerNode moment nodeId role ttl => exact performs (keepsBoth_registerNode lasting _ _ _ _)
  | touchNode moment nodeId => exact performs (keepsBoth_touchNode lasting _ _)
  | markRevoked moment nodeId => exact performs (keepsBoth_markRevoked lasting _ _)
  | revokeNode moment nodeId =>
      apply performs
      exact keeps_bind (keepsBoth_revokeNode lasting _ _) fun _ _ => keepsBoth_pure _
  | upsertTask moment task =>
      apply performs
      exact keeps_bind (keepsBoth_upsertTask lasting rfl spares) fun _ _ => keepsBoth_pure _
  | ensureAuditClean => exact performs (keepsBoth_ensureAuditClean lasting)
  | auditStatus =>
      apply performs
      exact keeps_bind (keepsBoth_auditStatus lasting) fun _ _ => keepsBoth_pure _
  | reopen =>
      obtain ⟨-, saved, isSaved, has⟩ := both
      refine ⟨?_, saved, ?_, has⟩
      · change holds vault.reopen.state
        rw [reopen, isSaved]
        exact has
      · change vault.stateFile.laidOut = _
        rw [isSaved]
        rfl

/-- The finding that the chain does not verify. -/
theorem both_foundTampered {vault : CollabVault} (both : Both holds vault) :
    Both holds vault.foundTampered := by
  have marked := lasting.others vault.state vault.state.tasks vault.state.lastSync true both.1
  rcases foundTampered_cases vault with same | same
  · rw [same]
    exact ⟨marked, both.2⟩
  · rw [same]
    exact ⟨marked, _, rfl, marked⟩

/-- A property that allows for messages, too, is left by every call that spares the state. -/
theorem both_step (messages : ∀ state messages, holds state → holds { state with messages := messages })
    {vault : CollabVault} (both : Both holds vault) {call : StoreCall}
    (spares : call.Spares py vault) : Both holds ((storeMachine py).step vault call).2 := by
  cases call with
  | appendEvent moment node op payload sig =>
      rw [@step_of_perform py _ _ (CollabVault.appendEvent py moment node op payload sig) rfl]
      cases verified : vault.chainVerified py with
      | false =>
          rw [run_appendEvent_tampered verified]
          exact both_foundTampered lasting both
      | true =>
          cases hashed : hashOf py (newEntry moment node op payload sig).toJson with
          | none =>
              rw [run_appendEvent_unencodable verified hashed]
              exact both
          | some entryHash =>
              obtain ⟨-, -, -, ledgerBytes, auditBytes, -, -, -, -, -, ran⟩ :=
                run_appendEvent_recorded verified hashed
              rw [ran]
              have kept := @keepsBoth_applyAndSave py _ _ lasting vault rfl moment
                (newEntry moment node op payload sig) spares (fun _ => messages)
              exact (kept (vault.withLines ledgerBytes auditBytes) ⟨rfl, both⟩).1.2
  | _ => exact both_silent lasting both (by simp) spares

end Lasting

end HermesMesh.Collab
