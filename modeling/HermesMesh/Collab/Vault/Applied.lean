import HermesMesh.Collab.Vault.Rejection

/-!
# When an event is appended and applied

`append_event` returns exactly when the chain verifies, the entry can be encoded and the
entry is applied; it has written to the ledger as soon as the first two hold.
-/

namespace HermesMesh.Collab

open Python Foundation Foundation.Action CollabVault

variable {py : Platform}

/-- The file system refuses neither of the changes that a task makes. -/
def Moment.storesTasks (moment : Moment) : Prop :=
  moment.taskWriteFails = false ∧ moment.taskUnlinkFails = false

/-- An event that puts a task into the table: one with an identifier that is not empty. -/
def storesTask (op : PyStr) (payload : JsonObject) : Prop :=
  op = lit "task" ∧ ((eventTask payload).getD (lit "id") .null).truthy = true

/-- The state as it is first saved once an event is in the ledger: a task and a node that joins
are saved before the time of the event is. -/
def VaultState.firstSaved (py : Platform) (moment : Moment) (entry : LedgerEntry)
    (state : VaultState) : VaultState :=
  let task := eventTask entry.payload
  if entry.op = lit "message" ∨ entry.op = lit "broadcast" then
    (state.withMessage entry.toMessage).synced entry
  else if entry.op = lit "task" ∧ (task.getD (lit "id") .null).truthy = true then
    match taskStatus? py task with
    | none => state.synced entry
    | some status =>
        let taskId := taskIdText py moment task
        withTask taskId status (storedTask moment taskId status task) state
  else if entry.op = lit "join" then
    match joinedNode entry.payload with
    | none => state.synced entry
    | some joined =>
        let existing := state.nodes.get? joined
        let record := registered moment existing (joinedRole py entry.payload) 0
        { state with nodes := state.nodes.set joined record }
  else state.synced entry

/-- The vault applies an event: it does not refuse it, where it stores a task, the file system
does not, either, and `state.json` can hold the memory with the event. -/
structure CollabVault.Applies (py : Platform) (moment : Moment) (vault : CollabVault)
    (entry : LedgerEntry) : Prop where
  accepted : ¬vault.RefusesEvent py entry.op entry.payload
  stored : storesTask entry.op entry.payload → moment.storesTasks
  saved : (vault.state.firstSaved py moment entry).Writable

/-- Whether an event is applied is a matter of the memory. -/
theorem applies_congr {moment : Moment} {entry : LedgerEntry} {one other : CollabVault}
    (same : one.state = other.state) :
    one.Applies py moment entry ↔ other.Applies py moment entry := by
  have refuses : one.RefusesEvent py entry.op entry.payload ↔
      other.RefusesEvent py entry.op entry.payload := by
    unfold RefusesEvent IsRevoked
    rw [same]
  constructor
  · exact fun applies => ⟨refuses.not.mp applies.accepted, applies.stored, same ▸ applies.saved⟩
  · exact fun applies => ⟨refuses.not.mpr applies.accepted, applies.stored, same ▸ applies.saved⟩

/-- Nothing of a message, a broadcast or a file can be refused, so that it is applied where the
memory can be saved with it. -/
theorem applies_iff_of_op {moment : Moment} {vault : CollabVault} {entry : LedgerEntry}
    (notTask : entry.op ≠ lit "task") (notJoin : entry.op ≠ lit "join") :
    vault.Applies py moment entry ↔ (vault.state.firstSaved py moment entry).Writable := by
  constructor
  · exact fun applies => applies.saved
  · intro writable
    exact ⟨by simp [RefusesEvent, notTask, notJoin], fun stores => absurd stores.1 notTask, writable⟩

/-- A memory that can be written can be with a task that can. -/
theorem VaultState.Writable.stored {state : VaultState} (writable : state.Writable)
    {moment : Moment} {task : JsonObject} {status : TaskStatus}
    (isTask : task.toJson.AllStrings Encodable) :
    (withTask (taskIdText py moment task) status
      (storedTask moment (taskIdText py moment task) status task) state).Writable := by
  obtain ⟨legible, sync⟩ := writable_iff_legible.mp writable
  have taskId : Encodable (taskIdText py moment task) :=
    encodable_textOr (fun _ found => Json.AllStrings.get? isTask found)
      (encodable_of_plain moment.taskUuid.plain)
  exact writable_iff_legible.mpr ⟨legible.withTask (encodable_storedTask taskId isTask), sync⟩

/-- A memory that can be written can be with an event that can be encoded. -/
theorem VaultState.Writable.firstSaved {state : VaultState} (writable : state.Writable)
    {moment : Moment} {entry : LedgerEntry} (strings : entry.toJson.AllStrings Encodable) :
    (state.firstSaved py moment entry).Writable := by
  obtain ⟨-, isId, -, isTime, -, isNode, -, isOp, -, payload, -⟩ := strings
  obtain ⟨legible, sync⟩ := writable_iff_legible.mp writable
  have plain := legible.marked isTime false
  unfold VaultState.firstSaved
  dsimp only
  split
  · have message := @encodable_message entry.toMessage isId isTime isNode isOp payload
    exact (writable_synced_iff isTime).mpr (legible.withMessage message)
  split
  · split
    · exact plain
    · exact writable.stored (encodable_eventTask payload)
  split
  · split
    · exact plain
    · next joined named =>
        have isJoined : Encodable joined := by
          unfold joinedNode at named
          split at named
          · next text found =>
              split at named
              · cases named
              · cases named
                exact Json.AllStrings.get? payload found
          · cases named
        have isRole : Encodable (joinedRole py entry.payload) := by
          refine Json.encodable_pyStr ?_
          rw [JsonObject.getD]
          cases found : entry.payload.get? (lit "role") with
          | none => exact encodable_lit _
          | some role => exact Json.AllStrings.get? payload found
        exact writable_iff_legible.mpr
          ⟨legible.setNode isJoined (legible.registered moment joined isRole 0), sync⟩
  · exact plain

theorem run_unlinkOthers_fst (moment : Moment) (status : TaskStatus) (taskId : PyStr)
    (vault : CollabVault) :
    ((unlinkOthers moment status taskId TaskStatus.all).run vault).1 =
      if moment.taskUnlinkFails then .error .osError else .ok () := by
  cases fails : moment.taskUnlinkFails <;> cases status <;>
    simp [TaskStatus.all, unlinkOthers, unlinkOther, run_bind, fails, logFile]

theorem isOk_writeTask_iff {moment : Moment} {target : Path} {task : JsonObject}
    {vault : CollabVault} :
    ((writeTask moment target task).run vault).1 = .ok () ↔
      moment.taskWriteFails = false ∧ (jsonBytes task.toJson).isSome = true := by
  rw [writeTask, logFile, run_bind_ok (run_modify _ _)]
  cases fails : moment.taskWriteFails with
  | true => simp
  | false =>
      cases jsonBytes task.toJson with
      | none => simp [run_bind]
      | some bytes => simp [run_bind, logFile]

theorem isOk_saveState_iff {vault : CollabVault} :
    (saveState.run vault).1 = .ok () ↔ vault.state.Writable := by
  by_cases writable : vault.state.Writable
  · rw [run_saveState writable]
    exact iff_of_true rfl writable
  · rw [run_saveState_unwritable writable]
    exact iff_of_false (by simp) writable

/-- A task is the last one in its folder of the table. -/
theorem mem_placeTask_self (taskId : PyStr) (status : TaskStatus) (task : JsonObject)
    (tasks : TaskStatus → List JsonObject) : task ∈ placeTask taskId status task tasks status := by
  rw [placeTask, if_pos rfl, lastN, List.drop_append_of_le_length (by simp)]
  exact List.mem_append_right _ (List.mem_singleton_self task)

/-- A task whose status is known is stored unless the file system refuses or a text of the
memory cannot be written. -/
theorem storeTask_eq_ok {moment : Moment} {taskId : PyStr} {status : TaskStatus}
    {task stored : JsonObject} {vault : CollabVault} :
    ((storeTask moment taskId status task).run vault).1 = .ok stored ↔
      moment.storesTasks ∧
        (withTask taskId status (storedTask moment taskId status task) vault.state).Writable ∧
        stored = storedTask moment taskId status task := by
  unfold storeTask
  generalize storedTask moment taskId status task = new
  obtain ⟨middle, placing, memory⟩ : ∃ middle,
      (modify (setState (withTask taskId status new)) : Action CollabVault Fault Unit).run vault =
        (.ok (), middle) ∧ middle.state = withTask taskId status new vault.state :=
    ⟨_, run_modify _ _, rfl⟩
  have listed : new ∈ (withTask taskId status new vault.state).tasks status :=
    mem_placeTask_self taskId status new _
  rw [run_bind_ok placing, run_bind_ok (run_read _), run_bind_fst_eq_ok, ← memory] at *
  have filed : ((writeTask moment (middle.taskFile status taskId) new).run middle).2.state =
      middle.state := within_state_writeTask moment _ new middle
  have unlinked : ∀ other, ((unlinkOthers moment status taskId TaskStatus.all).run other).2.state =
      other.state := fun other => within_state_unlinkOthers moment status taskId _ other
  constructor
  · rintro ⟨⟨⟩, written, rest⟩
    obtain ⟨⟨⟩, removed, rest⟩ := run_bind_fst_eq_ok.mp rest
    obtain ⟨⟨⟩, saved, returned⟩ := run_bind_fst_eq_ok.mp rest
    rw [run_unlinkOthers_fst] at removed
    rw [isOk_saveState_iff, unlinked, filed] at saved
    have mayUnlink : moment.taskUnlinkFails = false := by
      cases fails : moment.taskUnlinkFails with
      | false => rfl
      | true => simp [fails] at removed
    exact ⟨⟨(isOk_writeTask_iff.mp written).1, mayUnlink⟩, saved, (Except.ok.inj returned).symm⟩
  · rintro ⟨⟨mayWrite, mayUnlink⟩, writable, rfl⟩
    refine ⟨(), isOk_writeTask_iff.mpr ⟨mayWrite, VaultState.Writable.task writable listed⟩, ?_⟩
    refine run_bind_fst_eq_ok.mpr ⟨(), by rw [run_unlinkOthers_fst, mayUnlink]; rfl, ?_⟩
    refine run_bind_fst_eq_ok.mpr ⟨(), ?_, rfl⟩
    rw [isOk_saveState_iff, unlinked, filed]
    exact writable

theorem upsertTask_eq_ok {moment : Moment} {task stored : JsonObject} {vault : CollabVault} :
    ((upsertTask py moment task).run vault).1 = .ok stored ↔
      ∃ status, taskStatus? py task = some status ∧ moment.storesTasks ∧
        (withTask (taskIdText py moment task) status
          (storedTask moment (taskIdText py moment task) status task) vault.state).Writable ∧
        stored = storedTask moment (taskIdText py moment task) status task := by
  rw [upsertTask, run_bind]
  cases known : taskStatus? py task with
  | none => simp
  | some status => simp [storeTask_eq_ok]

theorem state_upsertTask {moment : Moment} {task : JsonObject} {status : TaskStatus}
    (known : taskStatus? py task = some status) (vault : CollabVault) :
    ((upsertTask py moment task).run vault).2.state =
      withTask (taskIdText py moment task) status
        (storedTask moment (taskIdText py moment task) status task) vault.state := by
  rw [upsertTask, known, run_bind_ok (run_ofOption_some _ _ _), state_storeTask]

theorem isOk_registerNode_iff {moment : Moment} {nodeId role : PyStr} {ttl : Int}
    {vault : CollabVault} :
    ((registerNode moment nodeId role ttl).run vault).1 = .ok () ↔ ¬vault.IsRevoked nodeId ∧
      (setNode nodeId (registered moment (vault.state.nodes.get? nodeId) role ttl) vault).state.Writable := by
  rw [registerNode, run_bind_ok (run_read _), IsRevoked]
  dsimp only
  split
  · next revoked => exact iff_of_false (by simp) fun accepted => accepted.1 revoked
  · next notRevoked =>
      rw [run_bind_ok (run_modify _ _), isOk_saveState_iff]
      exact (and_iff_right notRevoked).symm

theorem state_registerNode {moment : Moment} {nodeId role : PyStr} {ttl : Int} {vault : CollabVault}
    (notRevoked : ¬vault.IsRevoked nodeId) :
    ((registerNode moment nodeId role ttl).run vault).2.state =
      (setNode nodeId (registered moment (vault.state.nodes.get? nodeId) role ttl) vault).state := by
  rw [IsRevoked] at notRevoked
  rw [registerNode, run_bind_ok (run_read _)]
  dsimp only
  rw [if_neg notRevoked, run_bind_ok (run_modify _ _)]
  exact within_state_saveState _

/-- What `append_event` does once the event is applied. -/
theorem finish_eq_ok {action : Action CollabVault Fault Unit} {entry stored : LedgerEntry}
    {vault : CollabVault} :
    ((do
        action
        .modify (setState (VaultState.synced entry))
        saveState
        return entry : Action CollabVault Fault LedgerEntry).run vault).1 = .ok stored ↔
      (action.run vault).1 = .ok () ∧ ((action.run vault).2.state.synced entry).Writable ∧
        stored = entry := by
  rw [run_bind_fst_eq_ok]
  constructor
  · rintro ⟨⟨⟩, applied, rest⟩
    rw [run_bind_ok (run_modify _ _)] at rest
    obtain ⟨⟨⟩, saved, returned⟩ := run_bind_fst_eq_ok.mp rest
    rw [isOk_saveState_iff, state_setState] at saved
    exact ⟨applied, saved, (Except.ok.inj returned).symm⟩
  · rintro ⟨applied, writable, rfl⟩
    refine ⟨(), applied, ?_⟩
    rw [run_bind_ok (run_modify _ _), run_bind_fst_eq_ok]
    refine ⟨(), ?_, rfl⟩
    rw [isOk_saveState_iff, state_setState]
    exact writable

/-- A state that is saved is saved again with the time of the entry. -/
theorem writable_synced {entry : LedgerEntry} (time : Encodable entry.ts) {state : VaultState}
    (writable : state.Writable) : (state.synced entry).Writable :=
  (VaultState.writable_synced_iff time).mpr (VaultState.writable_iff_legible.mp writable).1

theorem run_discard {α : Type} (action : Action CollabVault Fault α) (vault : CollabVault) :
    ((do let _ ← action : Action CollabVault Fault Unit).run vault).2 = (action.run vault).2 ∧
      (((do let _ ← action : Action CollabVault Fault Unit).run vault).1 = .ok () ↔
        ∃ value, (action.run vault).1 = .ok value) := by
  rw [run_bind]
  rcases action.run vault with ⟨fault | value, after⟩
  · simp
  · simp

/-- The task of an event is stored and saved, with the event, too. -/
theorem upsert_saved_iff {moment : Moment} {task : JsonObject} {entry : LedgerEntry}
    {vault : CollabVault} (time : Encodable entry.ts) :
    (((do let _ ← upsertTask py moment task : Action CollabVault Fault Unit).run vault).1 = .ok () ∧
      (((do let _ ← upsertTask py moment task :
        Action CollabVault Fault Unit).run vault).2.state.synced entry).Writable) ↔
      ∃ status, taskStatus? py task = some status ∧ moment.storesTasks ∧
        (withTask (taskIdText py moment task) status
          (storedTask moment (taskIdText py moment task) status task) vault.state).Writable := by
  obtain ⟨leaves, returns⟩ := run_discard (upsertTask py moment task) vault
  rw [leaves, returns]
  constructor
  · rintro ⟨⟨stored, isOk⟩, -⟩
    obtain ⟨status, known, stores, writable, -⟩ := upsertTask_eq_ok.mp isOk
    exact ⟨status, known, stores, writable⟩
  · rintro ⟨status, known, stores, writable⟩
    refine ⟨⟨_, upsertTask_eq_ok.mpr ⟨status, known, stores, writable, rfl⟩⟩, ?_⟩
    rw [state_upsertTask known]
    exact writable_synced time writable

/-- A node that an event names is registered and saved, with the event, too. -/
theorem register_saved_iff {moment : Moment} {nodeId role : PyStr} {entry : LedgerEntry}
    {vault : CollabVault} (time : Encodable entry.ts) :
    (((registerNode moment nodeId role 0).run vault).1 = .ok () ∧
      (((registerNode moment nodeId role 0).run vault).2.state.synced entry).Writable) ↔
      ¬vault.IsRevoked nodeId ∧ (setNode nodeId
        (registered moment (vault.state.nodes.get? nodeId) role 0) vault).state.Writable := by
  rw [isOk_registerNode_iff, and_iff_left_iff_imp]
  rintro ⟨notRevoked, writable⟩
  rw [state_registerNode notRevoked]
  exact writable_synced time writable

/-- An event is applied and saved exactly where the vault applies it. -/
theorem applyAndSave_eq_ok {moment : Moment} {entry stored : LedgerEntry} {vault : CollabVault}
    (time : Encodable entry.ts) :
    ((applyAndSave py moment entry).run vault).1 = .ok stored ↔
      vault.Applies py moment entry ∧ stored = entry := by
  rw [applyAndSave, finish_eq_ok]
  refine and_assoc.symm.trans (and_congr_left fun _ => ?_)
  have parts : vault.Applies py moment entry ↔ ¬vault.RefusesEvent py entry.op entry.payload ∧
      (storesTask entry.op entry.payload → moment.storesTasks) ∧
        (vault.state.firstSaved py moment entry).Writable := by
    constructor
    · exact fun applies => ⟨applies.accepted, applies.stored, applies.saved⟩
    · rintro ⟨accepted, stored, saved⟩
      exact ⟨accepted, stored, saved⟩
  rw [parts]
  unfold applyEvent RefusesEvent storesTask VaultState.firstSaved
  split
  · next isMessage =>
      have notTask : entry.op ≠ lit "task" := by rcases isMessage with same | same <;> simp [same]
      have notJoin : entry.op ≠ lit "join" := by rcases isMessage with same | same <;> simp [same]
      simp [notTask, notJoin, VaultState.synced, setState]
  split
  · next isTask =>
      have notJoin : entry.op ≠ lit "join" := by simp [isTask]
      simp only [isTask, true_and, lit_inj]
      split
      · next named =>
          rw [upsert_saved_iff time]
          cases known : taskStatus? py (eventTask entry.payload) with
          | none => simp [named]
          | some status => simp [named]
      · next unnamed => simp [unnamed, VaultState.synced]
  split
  · next notTask isJoin =>
      cases joining : joinedNode entry.payload with
      | none => simp [isJoin]
      | some joined =>
          dsimp only
          rw [register_saved_iff time]
          simp [isJoin, setNode]
  · next notTask notJoin => simp [notTask, notJoin]

/-- An entry can be encoded exactly where its texts can be written and its payload has no
float that JSON lacks. -/
theorem canonical_newEntry_iff {moment : Moment} {node op : PyStr} {payload : JsonObject}
    {sig : PyStr} :
    canonical (newEntry moment node op payload sig).toJson ≠ none ↔
      payload.toJson.isFinite = true ∧ Encodable node ∧ Encodable op ∧
        payload.toJson.AllStrings Encodable ∧ Encodable sig := by
  have finite_iff : (newEntry moment node op payload sig).toJson.isFinite =
      payload.toJson.isFinite := by
    simp [newEntry, LedgerEntry.toJson, LedgerEntry.fields, Json.isFinite, Json.isFiniteFields]
  constructor
  · intro encoded
    obtain ⟨bytes, isBytes⟩ := Option.ne_none_iff_exists'.mp encoded
    obtain ⟨text, isText, encodes⟩ := Option.bind_eq_some_iff.mp isBytes
    rw [Json.dumpsStrict] at isText
    split at isText
    · next finite =>
        cases isText
        obtain ⟨-, -, -, -, -, isNode, -, isOp, -, strings, -, isSig, -⟩ :=
          Json.encodable_of_canonical (encodable_iff.mpr ⟨bytes, encodes⟩)
        exact ⟨finite_iff ▸ finite, isNode, isOp, strings, isSig⟩
    · cases isText
  · rintro ⟨finite, isNode, isOp, strings, isSig⟩
    obtain ⟨hash, hashed⟩ := @hashOf_isSome_of_encodable .plain
      (newEntry moment node op payload sig).toJson (finite_iff.trans finite)
      (allStrings_newEntry (fun _ => encodable_of_plain) isNode isOp strings isSig)
    intro unencodable
    rw [hashOf, unencodable] at hashed
    cases hashed

/-- The chain verifies and the entry can be encoded, so that it is written. -/
def CollabVault.Records (py : Platform) (moment : Moment) (vault : CollabVault) (node op : PyStr)
    (payload : JsonObject) (sig : PyStr) : Prop :=
  vault.chainVerified py = true ∧ canonical (newEntry moment node op payload sig).toJson ≠ none

/-- A memory that can be written can be with an event that is recorded. -/
theorem VaultState.Writable.recorded {moment : Moment} {vault : CollabVault} {node op : PyStr}
    {payload : JsonObject} {sig : PyStr} (writable : vault.state.Writable)
    (recorded : canonical (newEntry moment node op payload sig).toJson ≠ none) :
    (vault.state.firstSaved py moment (newEntry moment node op payload sig)).Writable := by
  obtain ⟨-, isNode, isOp, strings, isSig⟩ := canonical_newEntry_iff.mp recorded
  exact writable.firstSaved
    (allStrings_newEntry (fun _ => encodable_of_plain) isNode isOp strings isSig)

/-- The ledger has one more line exactly where the chain verifies and the entry can be
encoded. -/
theorem recorded_appendEvent_iff {moment : Moment} {node op : PyStr} {payload : JsonObject}
    {sig : PyStr} {vault : CollabVault} :
    ((appendEvent py moment node op payload sig).run vault).2.ledger ≠ vault.ledger ↔
      vault.Records py moment node op payload sig := by
  unfold Records
  cases verified : vault.chainVerified py with
  | false =>
      rw [run_appendEvent_tampered verified]
      simp
  | true =>
      cases encoded : canonical (newEntry moment node op payload sig).toJson with
      | none =>
          rw [run_appendEvent_unencodable verified (by rw [hashOf, encoded]; rfl)]
          simp
      | some bytes =>
          have hashed : hashOf py (newEntry moment node op payload sig).toJson =
              some (py.sha256 bytes).text := by rw [hashOf, encoded]; rfl
          simpa using (refused_event_recorded verified hashed).2

/-- `append_event` returns its entry exactly where it records it and applies it. -/
theorem appendEvent_eq_ok {moment : Moment} {node op : PyStr} {payload : JsonObject} {sig : PyStr}
    {vault : CollabVault} {entry : LedgerEntry} :
    ((appendEvent py moment node op payload sig).run vault).1 = .ok entry ↔
      vault.Records py moment node op payload sig ∧
        vault.Applies py moment (newEntry moment node op payload sig) ∧
          entry = newEntry moment node op payload sig := by
  unfold Records
  cases verified : vault.chainVerified py with
  | false =>
      rw [run_appendEvent_tampered verified]
      simp
  | true =>
      cases encoded : canonical (newEntry moment node op payload sig).toJson with
      | none =>
          rw [run_appendEvent_unencodable verified (by rw [hashOf, encoded]; rfl)]
          simp
      | some bytes =>
          have hashed : hashOf py (newEntry moment node op payload sig).toJson =
              some (py.sha256 bytes).text := by rw [hashOf, encoded]; rfl
          obtain ⟨-, -, -, ledgerBytes, auditBytes, -, -, -, -, -, same⟩ :=
            run_appendEvent_recorded verified hashed
          have unchanged : (vault.withLines ledgerBytes auditBytes).state = vault.state := rfl
          rw [same, applyAndSave_eq_ok (encodable_of_plain moment.now.plain), applies_congr unchanged]
          simp

/-! ## Events of stored tasks -/

/-- The text of a value that Python takes for true is not empty. -/
theorem pyStr_ne_nil {value : Json} (isTrue : value.truthy = true) : value.pyStr py.unicode ≠ [] := by
  cases value with
  | null => cases isTrue
  | str text => simpa [Json.truthy] using isTrue
  | bool value => cases value <;> simp [Json.pyStr, Json.repr, lit]
  | int value =>
      simp [Json.pyStr, Json.repr, NumberLit.render, NumberLit.ofInt, natDigits_ne_nil]
  | float value =>
      cases value with
      | finite x =>
          obtain ⟨⟨digits, -⟩, -⟩ := x.prints_reprLit.1
          simp [Json.pyStr, Json.repr, reprFloat, NumberLit.render, digits]
      | inf neg => cases neg <;> simp [Json.pyStr, Json.repr, reprFloat, lit]
      | nan => simp [Json.pyStr, Json.repr, reprFloat, lit]
  | arr items => simp [Json.pyStr, Json.repr]
  | obj fields => simp [Json.pyStr, Json.repr]

theorem taskIdText_ne_nil (moment : Moment) (task : JsonObject) :
    taskIdText py moment task ≠ [] := by
  unfold taskIdText textOr
  split
  · split
    · next isTrue => exact pyStr_ne_nil isTrue
    · exact moment.taskUuid.nonempty
  · exact moment.taskUuid.nonempty

theorem get?_storedTask_id (moment : Moment) (taskId : PyStr) (status : TaskStatus)
    (task : JsonObject) :
    (storedTask moment taskId status task).get? (lit "id") = some (.str taskId) := by
  unfold storedTask
  dsimp only
  split <;> simp [JsonObject.get?_setText]

theorem get?_storedTask_status (moment : Moment) (taskId : PyStr) (status : TaskStatus)
    (task : JsonObject) :
    (storedTask moment taskId status task).get? (lit "status") = some (.str status.text) := by
  unfold storedTask
  dsimp only
  split <;> simp [JsonObject.get?_setText]

/-- A task whose status is the text of one asks for that status. -/
theorem taskStatus?_of_status {status : TaskStatus} {task : JsonObject}
    (isStatus : task.get? (lit "status") = some (.str status.text)) :
    taskStatus? py task = some status := by
  have nonempty : (Json.str status.text).truthy = true := by cases status <;> decide
  have plain : ∀ c ∈ status.text, IsPlain c := by
    cases status <;> exact isPlain_lit _ (by decide)
  have lower : py.unicode.lower status.text = status.text := by
    rw [py.unicode.lower_ascii _ fun c member => lt_trans (plain c member).2 (by norm_num)]
    cases status <;> rfl
  have notWorking : status.text ≠ lit "working" := by cases status <;> simp [TaskStatus.text]
  unfold taskStatus? textOr
  rw [isStatus]
  simp only [nonempty, if_true, Json.pyStr_str, lower, notWorking, if_false, TaskStatus.ofText?_text]

/-- A stored task keeps its status when it is stored again. -/
theorem taskStatus?_storedTask (moment : Moment) (taskId : PyStr) (status : TaskStatus)
    (task : JsonObject) : taskStatus? py (storedTask moment taskId status task) = some status :=
  taskStatus?_of_status (get?_storedTask_status moment taskId status task)

end HermesMesh.Collab
