import HermesMesh.Collab.Vault.Opening

/-!
# Vaults that are opened again

A vault that is opened again has the files that were written and the state of
`state.json`.  It goes on where it was left, unless a process stopped after it had
written the ledger line of an event and before the line of the audit file: the files then
have different numbers of rows for good, and every later event is refused.  A stop while a
task with keys of the state has the place of `state.json` is left out.
-/

namespace HermesMesh.Collab

open Python Foundation Foundation.Action CollabVault

variable {py : Platform}

/-- A call on a vault, a stop inside `append_event` after which the vault is opened
again, or a restart between calls. -/
inductive DurableCall where
  | append (moment : Moment) (node op : PyStr) (payload : JsonObject) (sig : PyStr)
  | stopped (stop : WritePoint) (moment : Moment) (node op : PyStr) (payload : JsonObject)
      (sig : PyStr)
  | register (moment : Moment) (nodeId role : PyStr) (ttl : Int)
  | touch (moment : Moment) (nodeId : PyStr)
  | markRevoked (moment : Moment) (nodeId : PyStr)
  | revoke (moment : Moment) (nodeId : PyStr)
  | upsert (moment : Moment) (task : JsonObject)
  | status
  | reopen

/-- A vault under calls and stops. -/
def durableMachine (py : Platform) : Machine CollabVault DurableCall Unit where
  step vault
    | .append moment node op payload sig =>
        ((), ((appendEvent py moment node op payload sig).run vault).2)
    | .stopped stop moment node op payload sig =>
        ((), ((appendEventWith (.stopAt stop) py moment node op payload sig).run vault).2.reopen)
    | .register moment nodeId role ttl => ((), ((registerNode moment nodeId role ttl).run vault).2)
    | .touch moment nodeId => ((), ((touchNode moment nodeId).run vault).2)
    | .markRevoked moment nodeId => ((), ((CollabVault.markRevoked moment nodeId).run vault).2)
    | .revoke moment nodeId => ((), ((CollabVault.revokeNode moment nodeId).run vault).2)
    | .upsert moment task => ((), ((upsertTask py moment task).run vault).2)
    | .status => ((), ((auditStatus py).run vault).2)
    | .reopen => ((), vault.reopen)

namespace DurableCall

/-- The strings of an event hold no line break that JSON leaves unescaped. -/
def LineSafe : DurableCall → Prop
  | .append moment node op payload sig | .stopped _ moment node op payload sig =>
      (VaultCall.append moment node op payload sig).LineSafe
  | _ => True

/-- The process does not stop between the two lines of an event. -/
def KeepsLines (py : Platform) : DurableCall → Prop
  | .stopped stop moment node op payload sig =>
      stop = .auditLine → hashOf py (newEntry moment node op payload sig).toJson = none
  | _ => True

/-- A task that takes the place of the state, with keys of the state, does not stay there: the
process does not stop, and no removal is refused, between the write of the task's file and the
removal of the others. -/
def KeepsState (py : Platform) (vault : CollabVault) : DurableCall → Prop
  | .append moment _ op payload _ =>
      storesTask op payload → vault.Overwrites py moment (eventTask payload) →
        moment.taskUnlinkFails = false
  | .stopped stop moment _ op payload _ =>
      storesTask op payload → vault.Overwrites py moment (eventTask payload) →
        moment.taskUnlinkFails = false ∧ ∀ folder, stop ≠ .taskUnlink folder
  | .upsert moment task => vault.Overwrites py moment task → moment.taskUnlinkFails = false
  | _ => True

end DurableCall

/-- An event that can be encoded, that the vault does not refuse, and whose task files
can be written. -/
def ValidEvent (py : Platform) (vault : CollabVault) (moment : Moment) (node op : PyStr)
    (payload : JsonObject) (sig : PyStr) : Prop :=
  (∃ hash, hashOf py (newEntry moment node op payload sig).toJson = some hash) ∧
    ¬vault.RefusesEvent py op payload ∧ moment.taskWriteFails = false ∧
      moment.taskUnlinkFails = false

/-- The vault opens again, verifies its chain and accepts every further valid event. -/
def Recovers (py : Platform) (vault : CollabVault) : Prop :=
  vault.Opens ∧ vault.reopen.chainVerified py = true ∧
    ∀ moment node op payload sig, ValidEvent py vault.reopen moment node op payload sig →
      ∃ entry, ((appendEvent py moment node op payload sig).run vault.reopen).1 = .ok entry

/-- A valid event is accepted on a vault whose chain verifies and whose memory can be written. -/
theorem append_of_valid {vault : CollabVault} (verified : vault.chainVerified py = true)
    (writable : vault.state.Writable) {moment : Moment} {node op : PyStr} {payload : JsonObject}
    {sig : PyStr} (valid : ValidEvent py vault moment node op payload sig) :
    ∃ entry, ((appendEvent py moment node op payload sig).run vault).1 = .ok entry := by
  obtain ⟨⟨hash, hashed⟩, accepted, writes, unlinks⟩ := valid
  obtain ⟨-, bytes, encoded, -⟩ := hashOf_eq_some.mp hashed
  have strings := Json.encodable_of_canonical (encodable_iff.mpr ⟨bytes, encoded⟩)
  have records : canonical (newEntry moment node op payload sig).toJson ≠ none := by
    intro unencodable
    rw [hashOf, unencodable] at hashed
    cases hashed
  have applies : vault.Applies py moment (newEntry moment node op payload sig) :=
    ⟨accepted, fun _ => ⟨writes, unlinks⟩, writable.firstSaved strings⟩
  exact ⟨_, appendEvent_eq_ok.mpr ⟨⟨verified, records⟩, applies, rfl⟩⟩

theorem recovers_of_recorded {records : List Record} {vault : CollabVault}
    (recorded : Recorded py records vault) (sound : vault.stateFile.Sound) : Recovers py vault := by
  have reopened : Recorded py records vault.reopen := recorded.of_files rfl
  obtain ⟨state, loaded, writable⟩ := sound
  have memory : vault.reopen.state.Writable := by
    rw [reopen, loaded]
    exact writable
  refine ⟨by rw [Opens, loaded]; rfl, reopened.chainVerified, fun _ _ _ _ _ valid => ?_⟩
  exact append_of_valid reopened.chainVerified memory valid

/-! ## One call -/

theorem within_files_touchNode (moment : Moment) (nodeId : PyStr) :
    Within (Agree files) (touchNode moment nodeId) := by
  refine within_bind within_read fun vault => ?_
  split
  · exact within_pure ()
  · exact within_bind (within_files_setNode _ _) fun _ => within_files_saveState

theorem within_files_markRevoked (moment : Moment) (nodeId : PyStr) :
    Within (Agree files) (CollabVault.markRevoked moment nodeId) :=
  within_bind within_read fun _ =>
    within_bind (within_files_setNode _ _) fun _ => within_files_saveState

theorem within_files_revokeNode (moment : Moment) (nodeId : PyStr) :
    Within (Agree files) (CollabVault.revokeNode moment nodeId) := by
  refine within_bind within_read fun vault => ?_
  split
  · exact within_pure false
  · refine within_bind (within_files_setNode _ _) fun _ => ?_
    exact within_bind within_files_saveState fun _ => within_pure true

theorem keepsSound_touchNode {root : Path} (moment : Moment) (nodeId : PyStr) :
    KeepsSound root (touchNode moment nodeId) := by
  refine keeps_bind keeps_read fun vault _ => ?_
  split
  · exact keepsSound_pure _
  · exact keeps_bind (keepsSound_setState _) fun _ _ => keepsSound_saveState

theorem keepsSound_markRevoked {root : Path} (moment : Moment) (nodeId : PyStr) :
    KeepsSound root (CollabVault.markRevoked moment nodeId) :=
  keeps_bind keeps_read fun _ _ =>
    keeps_bind (keepsSound_setState _) fun _ _ => keepsSound_saveState

theorem keepsSound_revokeNode {root : Path} (moment : Moment) (nodeId : PyStr) :
    KeepsSound root (CollabVault.revokeNode moment nodeId) := by
  refine keeps_bind keeps_read fun vault _ => ?_
  split
  · exact keepsSound_pure _
  · refine keeps_bind (keepsSound_setState _) fun _ _ => ?_
    exact keeps_bind keepsSound_saveState fun _ _ => keepsSound_pure _

theorem keepsSound_auditStatus {root : Path} (py : Platform) : KeepsSound root (auditStatus py) := by
  refine keeps_bind keeps_read fun vault _ => keeps_bind (keeps_ofOption trivial _) fun rows _ => ?_
  refine keeps_bind (keeps_ofOption trivial _) fun text _ => ?_
  exact keeps_bind (keepsSound_setState _) fun _ _ => keepsSound_pure _

theorem within_files_auditStatus (py : Platform) : Within (Agree files) (auditStatus py) := by
  refine within_bind within_read fun vault => within_bind (within_ofOption _ _) fun rows => ?_
  refine within_bind (within_ofOption _ _) fun text => ?_
  exact within_bind (within_files_setState _) fun _ => within_pure _

/-- The vault with the ledger line of an event and no audit line does not verify: its
ledger has one row more. -/
theorem not_verified_between {records : List Record} {vault : CollabVault}
    (recorded : Recorded py records vault) {record : Record} {after : CollabVault}
    {whole : CollabVault} (extended : Recorded py (records ++ [record]) whole)
    (sameLedger : after.ledger = whole.ledger) (sameAudit : after.audit = vault.audit) :
    after.chainVerified py = false := by
  have ledgerRows := extended.ledgerRows
  have auditRows := recorded.auditLines
  rw [← sameLedger] at ledgerRows
  rw [← sameAudit] at auditRows
  have lengths : (((records ++ [record]).map fun record => record.rows.1).length ==
      (records.map Record.auditFields).length) = false := by
    rw [List.length_map, List.length_map, List.length_append, List.length_singleton, beq_eq_false_iff_ne]
    omega
  rw [CollabVault.chainVerified, verifyAuditChain, ledgerRows, auditRows]
  dsimp only
  rw [lengths, Bool.false_and]

/-- A stop leaves the files in step exactly if it is not between the two lines. -/
theorem recorded_stopped {records : List Record} {vault : CollabVault}
    (recorded : Recorded py records vault) {stop : WritePoint} {moment : Moment} {node op : PyStr}
    {payload : JsonObject} {sig : PyStr}
    (safe : (VaultCall.append moment node op payload sig).LineSafe) :
    let after := ((appendEventWith (.stopAt stop) py moment node op payload sig).run vault).2
    ((stop = .auditLine → hashOf py (newEntry moment node op payload sig).toJson = none) →
        ∃ records, Recorded py records after) ∧
      (¬(stop = .auditLine → hashOf py (newEntry moment node op payload sig).toJson = none) →
        after.chainVerified py = false) := by
  intro after
  have verified := recorded.chainVerified
  cases hashed : hashOf py (newEntry moment node op payload sig).toJson with
  | none =>
      have unchanged : after = vault := by
        obtain ⟨rows, previous, isRows, -, -⟩ := previousHash_of_verified verified
        simp [after, appendEventWith, ensureAuditCleanWith, run_bind, verified, isRows, hashed]
      rw [unchanged]
      exact ⟨fun _ => ⟨records, recorded⟩, fun impossible => absurd (fun _ => rfl) impossible⟩
  | some entryHash =>
      have strings : (newEntry moment node op payload sig).toJson.AllStrings LineSafe := by
        rcases safe with unencodable | ⟨nodeSafe, opSafe, payloadSafe, sigSafe⟩
        · rw [hashOf, unencodable] at hashed
          cases hashed
        · exact allStrings_newEntry (fun _ => lineSafe_of_plain) nodeSafe opSafe payloadSafe sigSafe
      obtain ⟨rows, previous, hash, ledgerBytes, auditBytes, isRows, isPrevious, linked, ledgerEq,
        auditEq, isFiles⟩ := files_stopped verified hashed stop
      have extended := recorded.extend strings isRows isPrevious hashed linked ledgerEq auditEq
      change files after = _ at isFiles
      by_cases between : stop = .auditLine
      · refine ⟨fun impossible => absurd (impossible between) (by simp), fun _ => ?_⟩
        rw [if_neg (by simp [between]), if_pos between] at isFiles
        refine not_verified_between recorded extended ?_ ?_
        · exact congrArg (fun files => files.2.1) isFiles
        · exact congrArg (fun files => files.2.2) isFiles
      · refine ⟨fun _ => ?_, fun impossible => absurd (fun same => absurd same between) impossible⟩
        rw [if_neg between] at isFiles
        split at isFiles
        · exact ⟨records, recorded.of_files isFiles⟩
        · exact ⟨_, extended.of_files isFiles⟩

/-- Every call but a stop between the two lines keeps the files in step. -/
theorem recorded_durable {records : List Record} {vault : CollabVault}
    (recorded : Recorded py records vault) {call : DurableCall} (safe : call.LineSafe)
    (keeps : call.KeepsLines py) :
    ∃ records, Recorded py records ((durableMachine py).step vault call).2 := by
  cases call with
  | append moment node op payload sig =>
      exact @recorded_step py _ _ recorded (.append moment node op payload sig) safe
  | stopped stop moment node op payload sig =>
      obtain ⟨records, after⟩ := (recorded_stopped recorded safe).1 keeps
      exact ⟨records, after.of_files rfl⟩
  | register moment nodeId role ttl =>
      exact ⟨records, recorded.of_files (within_files_registerNode moment nodeId role ttl vault)⟩
  | touch moment nodeId =>
      exact ⟨records, recorded.of_files (within_files_touchNode moment nodeId vault)⟩
  | markRevoked moment nodeId =>
      exact ⟨records, recorded.of_files (within_files_markRevoked moment nodeId vault)⟩
  | revoke moment nodeId =>
      exact ⟨records, recorded.of_files (within_files_revokeNode moment nodeId vault)⟩
  | upsert moment task =>
      exact ⟨records, recorded.of_files (within_files_upsertTask py moment task vault)⟩
  | status => exact ⟨records, recorded.of_files (within_files_auditStatus py vault)⟩
  | reopen => exact ⟨records, recorded.of_files rfl⟩

/-- Every call leaves a `state.json` that can be loaded, unless it leaves a task there. -/
theorem sound_durable {vault : CollabVault} (sound : vault.stateFile.Sound) {call : DurableCall}
    (keeps : call.KeepsState py vault) : ((durableMachine py).step vault call).2.stateFile.Sound := by
  have uncut : ∀ {moment : Moment} {task : JsonObject},
      (∃ other : CollabVault, other.root = vault.root ∧ other.Overwrites py moment task) →
        vault.Overwrites py moment task := by
    rintro moment task ⟨other, same, overwrites⟩
    exact (overwrites_congr same).mp overwrites
  have after : ∀ {α : Type} {action : Action CollabVault Fault α}, KeepsSound vault.root action →
      (action.run vault).2.stateFile.Sound := fun kept => (kept vault ⟨rfl, sound⟩).1.2
  cases call with
  | append moment node op payload sig =>
      have kept := @keepsSound_appendEventWith py vault.root _ (keepsSound_silent vault.root) moment
        node op payload sig fun stores somewhere => ⟨keeps stores (uncut somewhere), fun _ => rfl⟩
      rw [appendEventWith_silent] at kept
      exact after kept
  | stopped stop moment node op payload sig =>
      refine (after (keepsSound_appendEventWith (keepsSound_stopAt vault.root stop)
        fun stores somewhere => ?_)).laidOut
      obtain ⟨unlinks, uncutAt⟩ := keeps stores (uncut somewhere)
      exact ⟨unlinks, fun folder => if_neg (uncutAt folder).symm⟩
  | register moment nodeId role ttl =>
      have kept := keepsSound_registerNodeWith (keepsSound_silent vault.root) moment nodeId role ttl
      rw [registerNodeWith_silent] at kept
      exact after kept
  | touch moment nodeId => exact after (keepsSound_touchNode moment nodeId)
  | markRevoked moment nodeId => exact after (keepsSound_markRevoked moment nodeId)
  | revoke moment nodeId => exact after (keepsSound_revokeNode moment nodeId)
  | upsert moment task =>
      have kept := @keepsSound_upsertTaskWith py vault.root _ (keepsSound_silent vault.root) moment
        task fun somewhere => ⟨keeps (uncut somewhere), fun _ => rfl⟩
      rw [upsertTaskWith_silent] at kept
      exact after kept
  | status => exact after (keepsSound_auditStatus py)
  | reopen => exact sound.laidOut

theorem not_recovers_between {records : List Record} {vault : CollabVault}
    (recorded : Recorded py records vault) {call : DurableCall} (safe : call.LineSafe)
    (cut : ¬call.KeepsLines py) : ¬Recovers py ((durableMachine py).step vault call).2 := by
  cases call with
  | stopped stop moment node op payload sig =>
      rintro ⟨-, verified, -⟩
      have broken := (recorded_stopped recorded safe).2 cut
      exact Bool.false_ne_true (broken.symm.trans verified)
  | append | register | touch | markRevoked | revoke | upsert | status | reopen =>
      exact absurd trivial cut

/-! ## Runs -/

/-- What a call must not do, but for a stop between the two lines: write an event whose line is
cut when it is read, or leave a task in the place of the state. -/
def DurableCall.Careful (py : Platform) (vault : CollabVault) (call : DurableCall) : Prop :=
  call.LineSafe ∧ call.KeepsState py vault

/-- A greeting at which the process stops. -/
def stoppedGreeting (stop : WritePoint) : DurableCall :=
  .stopped stop .epoch (lit "node-a") (lit "message") (greeting 0x21) (lit "sig")

theorem lineSafe_stoppedGreeting (stop : WritePoint) : (stoppedGreeting stop).LineSafe :=
  @lineSafe_greetingCall 0x21 (by decide)

theorem chainVerified_reopen (vault : CollabVault) :
    vault.reopen.chainVerified py = vault.chainVerified py := rfl

theorem run_stoppedGreeting (stop : WritePoint) :
    (durableMachine py).run (fresh []) [stoppedGreeting stop] =
      ((appendEventWith (.stopAt stop) py .epoch (lit "node-a") (lit "message") (greeting 0x21)
        (lit "sig")).run (fresh [])).2.reopen := by
  simp only [Machine.run_cons, Machine.run_nil, durableMachine, stoppedGreeting]

/-- The memory of the vault that is opened after a stop. -/
theorem writable_stoppedGreeting (stop : WritePoint) :
    ((durableMachine .plain).run (fresh []) [stoppedGreeting stop]).state.Writable := by
  have kept := @keepsSound_appendEventWith .plain [] _ (keepsSound_stopAt [] stop) .epoch
    (lit "node-a") (lit "message") (greeting 0x21) (lit "sig") fun stores => absurd stores.1 (by simp)
  obtain ⟨state, loaded, writable⟩ := (kept (fresh []) ⟨rfl, _, rfl, VaultState.writable_default⟩).1.2
  rw [run_stoppedGreeting, reopen, loaded]
  exact writable

/-- The greeting is cut between its lines. -/
theorem broken_stoppedGreeting :
    ((durableMachine .plain).run (fresh []) [stoppedGreeting .auditLine]).chainVerified .plain =
      false := by
  have hashed : ∃ hash, hashOf .plain (newEntry .epoch (lit "node-a") (lit "message")
      (greeting 0x21) (lit "sig")).toJson = some hash :=
    hashOf_isSome_of_encodable (by decide) (allStrings_newEntry (fun _ => encodable_of_plain)
      (encodable_lit _) (encodable_lit _)
      (allStrings_greeting (fun _ => encodable_of_plain) (encodable_of_plain (isPlain_greeting (by decide))))
      (encodable_lit _))
  obtain ⟨entryHash, hashed⟩ := hashed
  have cut : ¬(WritePoint.auditLine = .auditLine → hashOf .plain (newEntry .epoch (lit "node-a")
      (lit "message") (greeting 0x21) (lit "sig")).toJson = none) := by
    rw [hashed]
    exact fun impossible => absurd (impossible rfl) (by simp)
  have safe : (greetingCall 0x21).LineSafe := lineSafe_greetingCall (by decide)
  rw [run_stoppedGreeting, chainVerified_reopen]
  exact (recorded_stopped (recorded_fresh []) safe).2 cut

end HermesMesh.Collab
