import HermesMesh.Collab.Vault.Calls
import HermesMesh.Collab.Vault.Restarts

/-!
# The vault of typed states and the vault of JSON

`CollabVault` has the states that its own calls make, `RawVault` has whatever JSON there is in
`state.json`.  On the JSON of a typed state the calls of both do the same, as long as the file
system refuses nothing and no task file takes the place of `state.json`: they return or raise
alike, and the states are the same again, up to the order of fields.  A restart of either goes
on with what was saved.
-/

namespace HermesMesh.Collab

open Python Foundation Foundation.Action

/-! ## The JSON of a typed vault -/

/-- What `state.json` holds; where it is missing, it is written before it is read. -/
def StateFile.fields : StateFile → Dict PyStr Json
  | .saved state => state.fields
  | .task content => content.fields
  | .missing => VaultState.default.fields

/-- The vault with its states as JSON. -/
def CollabVault.raw (vault : CollabVault) : RawVault :=
  ⟨vault.ledger, vault.audit, vault.state.fields, vault.stateFile.fields⟩

/-- One exception, by its names in both vaults. -/
inductive SameFault : Fault → AuthFault → Prop
  | vaultError (message : String) : SameFault (.vaultError message) (.vaultError message)
  | valueError : SameFault .valueError .valueError

/-- A vault at this root whose `state.json` is a state that it has saved. -/
structure CollabVault.Regular (root : Path) (vault : CollabVault) : Prop where
  root : vault.root = root
  nodes : vault.state.nodes.keys.Nodup
  saved : ∃ saved : VaultState,
    vault.stateFile = .saved saved ∧ saved.Writable ∧ saved.nodes.keys.Nodup

/-- The other vault is the first one in JSON. -/
structure Exact (root : Path) (vault : CollabVault) (other : RawVault) : Prop where
  regular : vault.Regular root
  same : other = vault.raw

/-- The other vault holds what the first one does, up to the order of fields. -/
structure Mirrors (root : Path) (vault : CollabVault) (other : RawVault) : Prop where
  regular : vault.Regular root
  twin : Twin vault.raw other

theorem Twin.trans {left right last : RawVault} (first : Twin left right) (second : Twin right last) :
    Twin left last :=
  ⟨first.ledger.trans second.ledger, first.audit.trans second.audit, first.state.trans second.state,
    first.stateFile.trans second.stateFile, first.loaded⟩

theorem distinct_record (node : NodeRecord) : node.toJson.Distinct := by
  have joined : (optionalText node.joinedAt).Distinct := by
    cases node.joinedAt <;> trivial
  refine ⟨?_, trivial, joined, trivial, trivial, trivial, trivial⟩
  simp only [NodeRecord.fields, List.map_cons, List.map_nil, List.nodup_cons, List.mem_cons, lit_inj]
  decide

theorem distinct_message (message : Message) : message.toJson.Distinct := by
  refine ⟨?_, trivial, trivial, trivial, trivial, message.payload.distinct, trivial⟩
  simp only [List.map_cons, List.map_nil, List.nodup_cons, List.mem_cons, lit_inj]
  decide

theorem distinct_tasks (tasks : TaskStatus → List JsonObject) : (tasksJson tasks).Distinct := by
  have bucket : ∀ status, (Json.arr ((tasks status).map JsonObject.toJson)).Distinct := by
    intro status
    apply Json.distinctItems_iff.mpr
    intro item member
    obtain ⟨task, -, rfl⟩ := List.mem_map.mp member
    exact task.distinct
  refine ⟨?_, bucket _, bucket _, bucket _, trivial⟩
  simp only [tasksFields, TaskStatus.all, TaskStatus.text, List.map_cons, List.map_nil,
    List.nodup_cons, List.mem_cons, lit_inj]
  decide

theorem distinct_nodes {nodes : Dict PyStr NodeRecord} (distinct : nodes.keys.Nodup) :
    (Json.obj (nodesFields nodes)).Distinct := by
  constructor
  · rw [nodesFields, List.map_map]
    exact distinct
  · apply Json.distinctFields_iff.mpr
    intro field member
    obtain ⟨node, -, rfl⟩ := List.mem_map.mp member
    exact distinct_record node.2

/-- A state with one record for each of its nodes is an object with one field for each of
its keys. -/
theorem distinct_fields {state : VaultState} (nodes : state.nodes.keys.Nodup) :
    (Json.obj state.fields).Distinct := by
  have messages : (Json.arr (state.messages.map Message.toJson)).Distinct := by
    apply Json.distinctItems_iff.mpr
    intro item member
    obtain ⟨message, -, rfl⟩ := List.mem_map.mp member
    exact distinct_message message
  have sync : (optionalText state.lastSync).Distinct := by
    cases state.lastSync <;> trivial
  refine ⟨?_, distinct_nodes nodes, distinct_tasks _, messages, trivial, sync, trivial, trivial⟩
  simp only [VaultState.fields, List.map_cons, List.map_nil, List.nodup_cons, List.mem_cons, lit_inj]
  decide

theorem get?_tasksFields (tasks : TaskStatus → List JsonObject) (status : TaskStatus) :
    (tasksFields tasks).get? status.text = some (.arr ((tasks status).map JsonObject.toJson)) := by
  cases status <;> rfl

theorem loaded_fields (state : VaultState) : Loaded state.fields where
  fields := fun _ isDefault => isDefault
  tasks := ⟨tasksFields state.tasks, rfl, fun status => ⟨_, get?_tasksFields state.tasks status⟩⟩

theorem CollabVault.Regular.twin {root : Path} {vault : CollabVault} (regular : vault.Regular root) :
    Twin vault.raw vault.raw :=
  ⟨rfl, rfl, Json.alike_refl (distinct_fields regular.nodes), rfl, loaded_fields vault.state⟩

theorem get?_nodesFields (nodes : Dict PyStr NodeRecord) (nodeId : PyStr) :
    (nodesFields nodes).get? nodeId = (nodes.get? nodeId).map NodeRecord.toJson :=
  Dict.get?_map NodeRecord.toJson nodeId nodes

theorem set_nodesFields (nodes : Dict PyStr NodeRecord) (nodeId : PyStr) (record : NodeRecord) :
    (nodesFields nodes).set nodeId record.toJson = nodesFields (nodes.set nodeId record) :=
  Dict.set_map NodeRecord.toJson nodeId record nodes

theorem set_tasksFields (tasks : TaskStatus → List JsonObject) (status : TaskStatus)
    (items : List JsonObject) :
    (tasksFields tasks).set status.text (.arr (items.map JsonObject.toJson)) =
      tasksFields (Function.update tasks status items) := by
  cases status <;> rfl

theorem map_lastN {α β : Type} (f : α → β) (count : Nat) (values : List α) :
    (lastN count values).map f = lastN count (values.map f) := by
  rw [lastN, lastN, List.map_drop, List.length_map]

section Calls

variable {py : Platform} {root : Path} {vault : CollabVault} {other : RawVault}

/-- A change of the memory, in both. -/
theorem Exact.setState {update : VaultState → VaultState} (regular : vault.Regular root)
    (nodes : (update vault.state).nodes.keys.Nodup) :
    Exact root (CollabVault.setState update vault)
      { vault.raw with state := (update vault.state).fields } :=
  ⟨⟨regular.root, nodes, regular.saved⟩, rfl⟩

theorem exact_saveState :
    Match SameFault (Exact root) Eq CollabVault.saveState RawVault.saveState := by
  rintro vault _ ⟨regular, rfl⟩
  by_cases writable : vault.state.Writable
  · have strings := VaultState.writable_iff.mp writable
    obtain ⟨bytes, encoded⟩ := encodable_iff.mp (Json.encodable_canonical strings)
    have ran : RawVault.saveState.run vault.raw =
        (.ok (), { vault.raw with stateFile := vault.state.fields }) := by
      have isText : encodeUtf8 (plainText vault.raw.state) = some bytes := encoded
      rw [RawVault.saveState, run_bind_ok (run_read _)]
      simp only [isText, run_modify]
      rfl
    rw [CollabVault.run_saveState writable, ran]
    exact ⟨⟨⟨regular.root, regular.nodes, _, rfl, writable, regular.nodes⟩, rfl⟩, rfl⟩
  · have ran : RawVault.saveState.run vault.raw = (.error .valueError, vault.raw) := by
      have isText : encodeUtf8 (plainText vault.raw.state) = none := by
        by_contra isSome
        obtain ⟨bytes, encoded⟩ := Option.ne_none_iff_exists'.mp isSome
        exact writable (VaultState.writable_iff.mpr
          (Json.encodable_of_canonical (encodable_iff.mpr ⟨bytes, encoded⟩)))
      rw [RawVault.saveState, run_bind_ok (run_read _)]
      simp only [isText, run_raise]
    rw [CollabVault.run_saveState_unwritable writable, ran]
    exact ⟨⟨regular, rfl⟩, .valueError⟩

/-! ## Nodes -/

theorem refusesNode_toJson (existing : Option NodeRecord) :
    refusesNode ((existing.map NodeRecord.toJson).getD .null) =
      .ok (decide (existing.map NodeRecord.status = some .revoked)) := by
  cases existing with
  | none => rfl
  | some node =>
      obtain ⟨status, joinedAt, lastSeen, role, ttl⟩ := node
      cases status <;> rfl

theorem activeRecord_toJson (moment : Moment) (role : PyStr) (ttl : Int)
    (existing : Option NodeRecord) :
    RawVault.activeRecord moment.now role ttl (existing.map NodeRecord.toJson) =
      .ok (CollabVault.registered moment existing role ttl).fields := by
  cases existing <;> rfl

theorem exact_registerNode (moment : Moment) (nodeId role : PyStr) (ttl : Int) :
    Match SameFault (Exact root) Eq (CollabVault.registerNode moment nodeId role ttl)
      (RawVault.registerNode moment.now nodeId role ttl) := by
  rintro vault _ ⟨regular, rfl⟩
  have table : nodesOf vault.raw.state = .ok (nodesFields vault.state.nodes) := rfl
  rw [CollabVault.registerNode, RawVault.registerNode, run_bind_ok (run_read _),
    run_bind_ok (run_read _), table, ofExcept_ok_bind, get?_nodesFields, refusesNode_toJson,
    ofExcept_ok_bind]
  by_cases revoked : (vault.state.nodes.get? nodeId).map NodeRecord.status = some .revoked
  · rw [if_pos revoked, if_pos (decide_eq_true revoked)]
    exact ⟨⟨regular, rfl⟩, .vaultError _⟩
  · rw [if_neg revoked, if_neg (by simpa using revoked), activeRecord_toJson, ofExcept_ok_bind,
      run_bind_ok (run_modify _ _), run_bind_ok (run_modify _ _)]
    apply exact_saveState
    have added := set_nodesFields vault.state.nodes nodeId
      (CollabVault.registered moment (vault.state.nodes.get? nodeId) role ttl)
    rw [NodeRecord.toJson] at added
    rw [added]
    exact Exact.setState regular (Dict.keys_set_nodup regular.nodes)

/-- The record of a node that is marked as revoked. -/
def markedNode (moment : Moment) (existing : Option NodeRecord) : NodeRecord :=
  let node := existing.getD ⟨.revoked, none, [], lit "collab", 0⟩
  { node with
    status := .revoked
    lastSeen := if node.lastSeen.isEmpty then moment.now.text else node.lastSeen }

/-- The record of a node that is not known yet has its fields in another order. -/
theorem alike_markedStranger (moment : Moment) :
    Json.Alike (markedNode moment none).toJson
      (.obj (RawVault.markedRecord moment.now RawVault.strangerRecord)) := by
  have marked : RawVault.markedRecord moment.now RawVault.strangerRecord =
      [(lit "joined_at", .null), (lit "role", .str (lit "collab")), (lit "ttl", .int 0),
        (lit "status", .str (lit "revoked")), (lit "last_seen", .str moment.now.text)] := rfl
  have typed : (markedNode moment none).fields =
      [(lit "status", .str (lit "revoked")), (lit "joined_at", .null),
        (lit "last_seen", .str moment.now.text), (lit "role", .str (lit "collab")),
        (lit "ttl", .int 0)] := rfl
  rw [marked, NodeRecord.toJson, typed]
  have distinct : (Json.obj (markedNode moment none).fields).Distinct := distinct_record _
  rw [typed] at distinct
  have moved : ∀ a b c d e : PyStr × Json, List.Perm [a, b, c, d, e] [b, d, e, a, c] :=
    fun a b c d e => (@List.perm_append_comm _ [a] [b, c, d, e]).trans
      (.cons b (@List.perm_append_comm _ [c] [d, e, a]))
  apply Json.alike_obj distinct
  · refine ⟨?_, trivial, trivial, trivial, trivial, trivial, trivial⟩
    simp only [List.map_cons, List.map_nil, List.nodup_cons, List.mem_cons, lit_inj]
    decide
  · intro key
    rw [Dict.get?_perm distinct.1 (moved _ _ _ _ _).symm]

theorem alike_markedNode (moment : Moment) (existing : Option NodeRecord) {record : Dict PyStr Json}
    (isRecord : asRecord ((existing.map NodeRecord.toJson).getD (.obj RawVault.strangerRecord)) =
      .ok record) :
    Json.Alike (markedNode moment existing).toJson
      (.obj (RawVault.markedRecord moment.now record)) := by
  cases existing with
  | none =>
      cases isRecord
      exact alike_markedStranger moment
  | some node =>
      obtain ⟨status, joinedAt, lastSeen, role, ttl⟩ := node
      cases isRecord
      have same : RawVault.markedRecord moment.now
          (NodeRecord.fields ⟨status, joinedAt, lastSeen, role, ttl⟩) =
            (markedNode moment (some ⟨status, joinedAt, lastSeen, role, ttl⟩)).fields := by
        cases lastSeen <;> rfl
      rw [same]
      exact Json.alike_refl (distinct_record _)

/-- Beside a vault that is alike, too. -/
theorem mirrors_of_exact {α : Type} {left : Action CollabVault Fault α}
    {right : Action RawVault AuthFault α} (exact : Match SameFault (Exact root) Eq left right)
    (twins : RawVault.SameOnTwins Eq right right) : Match SameFault (Mirrors root) Eq left right := by
  intro vault other mirrors
  obtain ⟨after, ends⟩ := exact vault vault.raw ⟨mirrors.regular, rfl⟩
  obtain ⟨twin, same⟩ := twins vault.raw other mirrors.twin
  rw [after.same] at twin
  rw [same.eq] at ends
  exact ⟨⟨after.regular, twin⟩, ends⟩

theorem mirrors_markRevoked (moment : Moment) (nodeId : PyStr) :
    Match SameFault (Mirrors root) Eq (CollabVault.markRevoked moment nodeId)
      (RawVault.markRevoked moment.now nodeId) := by
  intro vault other mirrors
  have regular := mirrors.regular
  have table : nodesOf vault.raw.state = .ok (nodesFields vault.state.nodes) := rfl
  obtain ⟨record, isRecord⟩ : ∃ record, asRecord
      (((vault.state.nodes.get? nodeId).map NodeRecord.toJson).getD (.obj RawVault.strangerRecord)) =
        .ok record := by
    cases vault.state.nodes.get? nodeId with
    | none => exact ⟨_, rfl⟩
    | some node => exact ⟨_, rfl⟩
  have alike := alike_markedNode moment _ isRecord
  have ran : (RawVault.markRevoked moment.now nodeId).run vault.raw = RawVault.saveState.run
      (vault.raw.setField (lit "nodes") (.obj ((nodesFields vault.state.nodes).set nodeId
        (.obj (RawVault.markedRecord moment.now record))))) := by
    rw [RawVault.markRevoked, run_bind_ok (run_read _), table, ofExcept_ok_bind, get?_nodesFields,
      isRecord, ofExcept_ok_bind, run_bind_ok (run_modify _ _)]
  -- The memory is that of the typed vault, but for the order of the fields of the record.
  have marked : Mirrors root (CollabVault.setNode nodeId
      (markedNode moment (vault.state.nodes.get? nodeId)) vault)
      (vault.raw.setField (lit "nodes") (.obj ((nodesFields vault.state.nodes).set nodeId
        (.obj (RawVault.markedRecord moment.now record))))) := by
    refine ⟨⟨regular.root, Dict.keys_set_nodup regular.nodes, regular.saved⟩, ?_⟩
    have nodes := (Json.alike_refl (distinct_nodes regular.nodes)).set nodeId alike
    rw [set_nodesFields] at nodes
    have other : lit "tasks" ≠ lit "nodes" := by simp
    exact RawVault.Twin.setField regular.twin other nodes
  have saved := mirrors_of_exact exact_saveState RawVault.twins_saveState _ _ marked
  have typed : (CollabVault.markRevoked moment nodeId).run vault = CollabVault.saveState.run
      (CollabVault.setNode nodeId (markedNode moment (vault.state.nodes.get? nodeId)) vault) := rfl
  rw [← typed, ← ran] at saved
  obtain ⟨twin, same⟩ := RawVault.twins_markRevoked moment.now nodeId vault.raw other mirrors.twin
  rw [same.eq] at saved
  exact ⟨⟨saved.1.regular, saved.1.twin.trans twin⟩, saved.2⟩

/-! ## Tasks -/

/-- The bucket of a status without a task. -/
def clearedTasks (taskId : PyStr) (status : TaskStatus) (tasks : TaskStatus → List JsonObject) :
    TaskStatus → List JsonObject :=
  Function.update tasks status ((tasks status).filter fun task => !CollabVault.hasId taskId task)

/-- The memory with these tasks. -/
def CollabVault.setTasks (tasks : TaskStatus → List JsonObject) (vault : CollabVault) : CollabVault :=
  { vault with state := { vault.state with tasks := tasks } }

theorem otherTasks_map (taskId : PyStr) (tasks : List JsonObject) :
    RawVault.otherTasks taskId (tasks.map JsonObject.toJson) =
      .ok ((tasks.filter fun task => !CollabVault.hasId taskId task).map JsonObject.toJson) := by
  induction tasks with
  | nil => rfl
  | cons task rest ih =>
      have isTask : asDict task.toJson = .ok task.fields := rfl
      have sameId : (getOr (lit "id") .null task.fields).pyEq (.str taskId) =
          CollabVault.hasId taskId task := rfl
      rw [List.map_cons, RawVault.otherTasks, isTask, ih, List.filter_cons]
      cases found : CollabVault.hasId taskId task with
      | true =>
          simp only [bind, Except.bind, sameId, found, Bool.not_true, Bool.false_eq_true, if_true,
            if_false]
          rfl
      | false =>
          simp only [bind, Except.bind, sameId, found, Bool.not_false, Bool.false_eq_true, if_true,
            if_false, List.map_cons]
          rfl

theorem run_clearBucket (taskId : PyStr) (status : TaskStatus) (vault : CollabVault) :
    (RawVault.clearBucket taskId status).run vault.raw =
      (.ok (), (vault.setTasks (clearedTasks taskId status vault.state.tasks)).raw) := by
  have table : RawVault.tasksOf vault.raw.state = .ok (tasksFields vault.state.tasks) := rfl
  rw [RawVault.clearBucket, run_bind_ok (run_read _), table, ofExcept_ok_bind, getOr,
    get?_tasksFields, Option.getD_some, iterate, ofExcept_ok_bind, otherTasks_map, ofExcept_ok_bind,
    run_modify, set_tasksFields]
  rfl

/-- The task is taken out of every bucket. -/
theorem run_clearBuckets (taskId : PyStr) (vault : CollabVault) :
    (RawVault.clearBuckets taskId TaskStatus.all).run vault.raw =
      (.ok (), (vault.setTasks fun status =>
        (vault.state.tasks status).filter fun task => !CollabVault.hasId taskId task).raw) := by
  have cleared : clearedTasks taskId .done (clearedTasks taskId .processing
      (clearedTasks taskId .pending vault.state.tasks)) = fun status =>
        (vault.state.tasks status).filter fun task => !CollabVault.hasId taskId task := by
    funext status
    cases status <;> rfl
  rw [TaskStatus.all, RawVault.clearBuckets, RawVault.clearBuckets, RawVault.clearBuckets,
    RawVault.clearBuckets, run_bind_ok (run_clearBucket _ _ _), run_bind_ok (run_clearBucket _ _ _),
    run_bind_ok (run_clearBucket _ _ _), run_pure, ← cleared]
  rfl

theorem run_pushTask (status : TaskStatus) (task : JsonObject) (vault : CollabVault) :
    (RawVault.pushTask status task).run vault.raw =
      (.ok (), (vault.setTasks (Function.update vault.state.tasks status
        (lastN 200 (vault.state.tasks status ++ [task])))).raw) := by
  have table : RawVault.tasksOf vault.raw.state = .ok (tasksFields vault.state.tasks) := rfl
  have pushed : lastN 200 ((vault.state.tasks status).map JsonObject.toJson ++ [task.toJson]) =
      (lastN 200 (vault.state.tasks status ++ [task])).map JsonObject.toJson := by
    rw [map_lastN, List.map_append]
    rfl
  rw [RawVault.pushTask, run_bind_ok (run_read _), table, ofExcept_ok_bind, getOr,
    get?_tasksFields, Option.getD_some, RawVault.asList, ofExcept_ok_bind, run_modify, pushed,
    set_tasksFields]
  rfl

theorem placeTask_eq_update (taskId : PyStr) (status : TaskStatus) (task : JsonObject)
    (tasks : TaskStatus → List JsonObject) :
    CollabVault.placeTask taskId status task tasks =
      Function.update (fun bucket => (tasks bucket).filter fun other => !CollabVault.hasId taskId other)
        status (lastN 200 ((tasks status).filter (fun other => !CollabVault.hasId taskId other) ++
          [task])) := by
  funext bucket
  by_cases own : bucket = status
  · subst own
    rw [CollabVault.placeTask, if_pos rfl, Function.update_self]
  · rw [CollabVault.placeTask, if_neg own, Function.update_of_ne own]

theorem Exact.logFile (exact : Exact root vault other) (action : FileAction) :
    Exact root { vault with fileLog := vault.fileLog ++ [action] } other :=
  ⟨⟨exact.regular.root, exact.regular.nodes, exact.regular.saved⟩, exact.same⟩

/-- A file that is not `state.json` does not matter. -/
theorem Exact.changeStateFile (exact : Exact root vault other) {path : Path}
    (elsewhere : ¬vault.IsStateFile path) (content : StateFile) :
    Exact root (CollabVault.changeStateFile path content vault) other := by
  rw [CollabVault.changeStateFile, if_neg elsewhere]
  exact exact

theorem exact_writeTask {moment : Moment} (writes : moment.taskWriteFails = false) {target : Path}
    (elsewhere : ∀ vault : CollabVault, vault.root = root → ¬vault.IsStateFile target)
    (task : JsonObject) :
    Match SameFault (Exact root) (fun _ _ => True) (CollabVault.writeTask moment target task)
      (ofOption .valueError (jsonBytes task.toJson)) := by
  intro vault other exact
  have logged := exact.logFile (.makeDirs target.parent)
  rw [CollabVault.writeTask, CollabVault.logFile, run_bind_ok (run_modify _ _), if_neg (by simp [writes])]
  cases written : jsonBytes task.toJson with
  | none =>
      rw [run_bind_error (run_ofOption_none _ _), run_ofOption_none]
      exact ⟨logged, .valueError⟩
  | some bytes =>
      rw [run_bind_ok (run_ofOption_some _ _ _), CollabVault.logFile, run_bind_ok (run_modify _ _),
        run_modify, run_ofOption_some]
      have stored := logged.logFile (.write target task)
      exact ⟨stored.changeStateFile (elsewhere _ stored.regular.root) _, trivial⟩

/-- The files in the other folders are removed, which the memory does not show. -/
theorem exact_unlinkOthers {moment : Moment} (unlinks : moment.taskUnlinkFails = false)
    {taskId : PyStr} (spares : ∀ vault : CollabVault, vault.root = root → vault.Spares taskId)
    (status : TaskStatus) (others : List TaskStatus) (vault : CollabVault) (other : RawVault)
    (exact : Exact root vault other) :
    ∃ value after, (CollabVault.unlinkOthers moment status taskId others).run vault =
      (.ok value, after) ∧ Exact root after other := by
  induction others generalizing vault with
  | nil => exact ⟨(), vault, rfl, exact⟩
  | cons folder rest ih =>
      rw [CollabVault.unlinkOthers, CollabVault.unlinkOther]
      by_cases own : folder = status
      · rw [if_pos own, run_bind_ok (run_pure _ _)]
        exact ih vault exact
      · have logged := exact.logFile (.unlink (vault.taskFile folder taskId))
        have elsewhere := spares _ logged.regular.root folder
        have ran : (do
            let vault ← .read
            CollabVault.logFile (.unlink (vault.taskFile folder taskId))
            if moment.taskUnlinkFails then .raise .osError
            else .modify (CollabVault.changeStateFile (vault.taskFile folder taskId) .missing) :
              Action CollabVault Fault Unit).run vault =
            (.ok (), CollabVault.changeStateFile (vault.taskFile folder taskId) .missing
              { vault with fileLog := vault.fileLog ++ [.unlink (vault.taskFile folder taskId)] }) := by
          rw [run_bind_ok (run_read _), CollabVault.logFile, run_bind_ok (run_modify _ _),
            if_neg (by simp [unlinks]), run_modify]
        rw [if_neg own, run_bind_ok ran]
        exact ih _ (logged.changeStateFile elsewhere _)

/-- Clearing the buckets and pushing the task is to place it. -/
theorem run_placeTask (taskId : PyStr) (status : TaskStatus) (task : JsonObject)
    (vault : CollabVault) :
    (RawVault.pushTask status task).run (vault.setTasks fun bucket =>
        (vault.state.tasks bucket).filter fun other => !CollabVault.hasId taskId other).raw =
      (.ok (), (CollabVault.setState (CollabVault.withTask taskId status task) vault).raw) := by
  have placed : CollabVault.setState (CollabVault.withTask taskId status task) vault =
      vault.setTasks (CollabVault.placeTask taskId status task vault.state.tasks) := rfl
  rw [run_pushTask, placed, placeTask_eq_update]
  rfl

/-- What is left of `upsert_task` once the task is in the memory. -/
theorem exact_storeFiles {moment : Moment} (stores : moment.storesTasks) {taskId : PyStr}
    (spares : ∀ vault : CollabVault, vault.root = root → vault.Spares taskId) {vault : CollabVault}
    (here : vault.root = root) (status : TaskStatus) (stored : JsonObject) :
    Match SameFault (Exact root) Eq
      (do
        CollabVault.writeTask moment (vault.taskFile status taskId) stored
        CollabVault.unlinkOthers moment status taskId TaskStatus.all
        CollabVault.saveState
        return stored)
      (do
        let _ ← .ofOption .valueError (jsonBytes stored.toJson)
        RawVault.saveState
        return stored) := by
  have elsewhere : ∀ other : CollabVault, other.root = root →
      ¬other.IsStateFile (vault.taskFile status taskId) := by
    intro other also
    rw [taskFile_congr (here.trans also.symm)]
    exact spares other also status
  refine match_bind (exact_writeTask stores.1 elsewhere stored) fun _ _ _ => ?_
  refine match_skip (exact_unlinkOthers stores.2 spares status TaskStatus.all) fun _ => ?_
  exact match_bind exact_saveState fun _ _ _ => match_pure rfl

theorem exact_upsertTask {moment : Moment} (stores : moment.storesTasks) {task : JsonObject}
    (spares : ∀ vault : CollabVault, vault.root = root →
      vault.Spares (CollabVault.taskIdText py moment task)) :
    Match SameFault (Exact root) Eq (CollabVault.upsertTask py moment task)
      (RawVault.upsertTask py moment task) := by
  refine match_bind (match_ofOption (.vaultError _) _) fun status also same => ?_
  subst same
  rintro vault _ ⟨regular, rfl⟩
  rw [run_bind_ok (run_clearBuckets _ _), run_bind_ok (run_placeTask _ _ _ _),
    CollabVault.storeTask, run_bind_ok (run_modify _ _), run_bind_ok (run_read _)]
  apply exact_storeFiles stores spares regular.root
  exact ⟨⟨regular.root, regular.nodes, regular.saved⟩, rfl⟩

/-! ## Events -/

theorem exact_ensureAuditClean :
    Match SameFault (Exact root) (fun _ _ => True) (CollabVault.ensureAuditClean py)
      (RawVault.ensureAuditClean py) := by
  refine match_bind match_read fun vault other exact => ?_
  have sameCheck : verifyAuditChain py other.ledger other.audit = vault.chainVerified py := by
    rw [exact.same]
    rfl
  rw [sameCheck]
  refine match_ite (fun _ => match_pure trivial) fun _ => ?_
  refine match_bind (match_modify ?_) fun _ _ _ =>
    match_bind exact_saveState fun _ _ _ => match_raise (.vaultError _)
  rintro store _ ⟨regular, rfl⟩
  exact ⟨⟨regular.root, regular.nodes, regular.saved⟩, rfl⟩

theorem exact_appendLedger (line : PyStr) :
    Match SameFault (Exact root) (fun _ _ => True) (CollabVault.appendLedger line)
      (RawVault.appendLedger line) := by
  refine match_bind (match_ofOption .valueError _) fun bytes also same => match_modify ?_
  subst same
  rintro store _ ⟨regular, rfl⟩
  exact ⟨⟨regular.root, regular.nodes, regular.saved⟩, rfl⟩

theorem exact_appendAudit (line : PyStr) :
    Match SameFault (Exact root) (fun _ _ => True) (CollabVault.appendAudit line)
      (RawVault.appendAudit line) := by
  refine match_bind (match_ofOption .valueError _) fun bytes also same => match_modify ?_
  subst same
  rintro store _ ⟨regular, rfl⟩
  exact ⟨⟨regular.root, regular.nodes, regular.saved⟩, rfl⟩

theorem exact_pushMessage (entry : LedgerEntry) :
    Match SameFault (Exact root) (fun _ _ => True)
      (.modify (CollabVault.setState (VaultState.withMessage entry.toMessage)))
      (RawVault.pushMessage entry) := by
  rintro vault _ ⟨regular, rfl⟩
  have listed : RawVault.asList (getOr (lit "messages") (.arr []) vault.raw.state) =
      .ok (vault.state.messages.map Message.toJson) := rfl
  have pushed : lastN 200 (vault.state.messages.map Message.toJson ++ [RawVault.messageJson entry]) =
      (lastN 200 (vault.state.messages ++ [entry.toMessage])).map Message.toJson := by
    rw [map_lastN, List.map_append]
    rfl
  have memory : ∀ messages, Exact root
      { vault with state := { vault.state with messages := messages } }
      (vault.raw.setField (lit "messages") (.arr (messages.map Message.toJson))) :=
    fun _ => ⟨⟨regular.root, regular.nodes, regular.saved⟩, rfl⟩
  rw [RawVault.pushMessage, run_bind_ok (run_read _), listed, ofExcept_ok_bind, run_modify, pushed,
    run_modify]
  exact ⟨memory _, trivial⟩

theorem exact_applyEvent {moment : Moment} (stores : moment.storesTasks) {entry : LedgerEntry}
    (spares : ∀ vault : CollabVault, vault.root = root → storesTask entry.op entry.payload →
      vault.Spares (CollabVault.taskIdText py moment (CollabVault.eventTask entry.payload))) :
    Match SameFault (Exact root) (fun _ _ => True) (CollabVault.applyEvent py moment entry)
      (RawVault.applyEvent py moment entry) := by
  refine match_ite (fun _ => exact_pushMessage entry) fun _ => ?_
  refine match_ite (fun isTask => ?_) fun _ => match_ite (fun _ => ?_) fun _ => match_pure trivial
  · refine match_ite (fun named => ?_) fun _ => match_pure trivial
    have upserts := exact_upsertTask stores fun vault here => spares vault here ⟨isTask, named⟩
    exact match_bind upserts fun _ _ _ => match_pure trivial
  · cases CollabVault.joinedNode entry.payload with
    | none => exact match_pure trivial
    | some joined => exact (exact_registerNode _ _ _ _).forget

theorem exact_applyAndSave {moment : Moment} (stores : moment.storesTasks) {entry : LedgerEntry}
    (spares : ∀ vault : CollabVault, vault.root = root → storesTask entry.op entry.payload →
      vault.Spares (CollabVault.taskIdText py moment (CollabVault.eventTask entry.payload))) :
    Match SameFault (Exact root) Eq (CollabVault.applyAndSave py moment entry)
      (RawVault.applyAndSave py moment entry) := by
  refine match_bind (exact_applyEvent stores spares) fun _ _ _ => ?_
  rintro vault _ ⟨regular, rfl⟩
  rw [run_bind_ok (run_modify _ _), run_bind_ok (run_modify _ _), run_bind_ok (run_modify _ _)]
  have saves : Match SameFault (Exact root) Eq
      (do
        CollabVault.saveState
        return entry)
      (do
        RawVault.saveState
        return entry) := match_bind exact_saveState fun _ _ _ => match_pure rfl
  apply saves
  exact ⟨⟨regular.root, regular.nodes, regular.saved⟩, rfl⟩

theorem exact_appendEvent {moment : Moment} (stores : moment.storesTasks) {op : PyStr}
    {payload : JsonObject} (spares : ∀ vault : CollabVault, vault.root = root → storesTask op payload →
      vault.Spares (CollabVault.taskIdText py moment (CollabVault.eventTask payload)))
    (node sig : PyStr) :
    Match SameFault (Exact root) Eq (CollabVault.appendEvent py moment node op payload sig)
      (RawVault.appendEvent py moment node op payload sig) := by
  refine match_bind exact_ensureAuditClean fun _ _ _ => ?_
  refine match_bind match_read fun vault other exact => ?_
  rw [exact.same]
  refine match_bind (match_ofOption .valueError _) fun rows also same => ?_
  subst same
  refine match_bind (match_ofOption .valueError _) fun entryHash also same => ?_
  subst same
  refine match_bind (match_ofOption .valueError _) fun auditHash also same => ?_
  subst same
  refine match_bind (exact_appendLedger _) fun _ _ _ => ?_
  refine match_bind (exact_appendAudit _) fun _ _ _ => ?_
  exact exact_applyAndSave stores spares

/-! ## Runs -/

/-- A restart of both goes on with what was saved. -/
theorem mirrors_reopen :
    Match SameFault (Mirrors root) Eq (.modify CollabVault.reopen) RawVault.restart := by
  intro vault other mirrors
  obtain ⟨saved, isSaved, writable, distinct⟩ := mirrors.regular.saved
  obtain ⟨content, written⟩ := Option.isSome_iff_exists.mp writable
  obtain ⟨again, loads, alike⟩ := reloaded (distinct_fields distinct) (loaded_fields saved) written
  have file : jsonBytes (.obj other.stateFile) = some content := by
    rw [← mirrors.twin.stateFile, CollabVault.raw, isSaved]
    exact written
  have ran : RawVault.restart.run other = (.ok (), { other with state := again }) := by
    rw [RawVault.restart, run_bind_ok (run_read _), file, run_bind_ok (run_ofOption_some _ _ _),
      loads, ofExcept_ok_bind, run_modify]
  have reopened : vault.reopen = { vault with stateFile := .saved saved, state := saved } := by
    rw [CollabVault.reopen, isSaved]
    rfl
  have stateFile : jsonBytes (.obj saved.fields) = jsonBytes (.obj other.stateFile) :=
    Eq.trans written file.symm
  rw [run_modify, reopened, ran]
  refine ⟨⟨⟨mirrors.regular.root, distinct, saved, rfl, writable, distinct⟩, ?_⟩, rfl⟩
  exact ⟨mirrors.twin.ledger, mirrors.twin.audit, alike.symm, stateFile, loaded_fields saved⟩

/-- The same call of the vault of JSON, if that has it. -/
def StoreCall.service? : StoreCall → Option ServiceStep
  | .appendEvent moment node op payload sig =>
      some (.call (.appendEvent moment node op payload sig))
  | .registerNode moment nodeId role ttl => some (.call (.registerNode moment.now nodeId role ttl))
  | .markRevoked moment nodeId => some (.call (.markRevoked moment.now nodeId))
  | .upsertTask moment task => some (.call (.upsertTask moment task))
  | .reopen => some .restart
  | .touchNode _ _ | .revokeNode _ _ | .ensureAuditClean | .auditStatus => none

/-- The file system refuses nothing to the task files of the call. -/
def StoreCall.StoresTasks : StoreCall → Prop
  | .appendEvent moment _ _ _ _ | .upsertTask moment _ => moment.storesTasks
  | _ => True

/-- The two vaults answer a call alike. -/
theorem mirrors_step {call : StoreCall} {step : ServiceStep} (isStep : call.service? = some step)
    (stores : call.StoresTasks)
    (spares : ∀ vault : CollabVault, vault.root = root → call.Spares py vault)
    (mirrors : Mirrors root vault other) :
    Mirrors root ((storeMachine py).step vault call).2 ((serviceMachine py).step other step).2 ∧
      Paired SameFault Eq ((storeMachine py).step vault call).1
        ((serviceMachine py).step other step).1 := by
  cases call with
  | appendEvent moment node op payload sig =>
      cases isStep
      refine mirrors_of_exact ?_ (RawVault.twins_perform (.appendEvent moment node op payload sig))
        vault other mirrors
      exact match_bind (exact_appendEvent stores spares node sig) fun _ _ _ => match_pure rfl
  | registerNode moment nodeId role ttl =>
      cases isStep
      exact mirrors_of_exact (exact_registerNode moment nodeId role ttl)
        (RawVault.twins_registerNode moment.now nodeId role ttl) vault other mirrors
  | markRevoked moment nodeId =>
      cases isStep
      exact mirrors_markRevoked moment nodeId vault other mirrors
  | upsertTask moment task =>
      cases isStep
      refine mirrors_of_exact ?_ (RawVault.twins_perform (.upsertTask moment task))
        vault other mirrors
      exact match_bind (exact_upsertTask stores spares) fun _ _ _ => match_pure rfl
  | reopen =>
      cases isStep
      exact mirrors_reopen vault other mirrors
  | touchNode | revokeNode | ensureAuditClean | auditStatus => cases isStep

/-- The two vaults answer all calls of a run alike, and hold the same after it. -/
theorem mirrors_run {calls : List StoreCall} {steps : List ServiceStep}
    (same : List.Forall₂ (fun call step => call.service? = some step) calls steps)
    (stores : ∀ call ∈ calls, call.StoresTasks)
    (spares : ∀ call ∈ calls, ∀ vault : CollabVault, vault.root = root → call.Spares py vault)
    (mirrors : Mirrors root vault other) :
    Mirrors root ((storeMachine py).run vault calls) ((serviceMachine py).run other steps) ∧
      List.Forall₂ (fun event also => Paired SameFault Eq event.output also.output)
        ((storeMachine py).trace vault calls) ((serviceMachine py).trace other steps) := by
  induction same generalizing vault other with
  | nil => exact ⟨mirrors, .nil⟩
  | cons isStep rest ih =>
      obtain ⟨after, answers⟩ := mirrors_step isStep (stores _ List.mem_cons_self)
        (spares _ List.mem_cons_self) mirrors
      obtain ⟨last, others⟩ := ih (fun call later => stores call (List.mem_cons_of_mem _ later))
        (fun call later => spares call (List.mem_cons_of_mem _ later)) after
      exact ⟨last, .cons answers others⟩

/-- Over an empty directory both vaults start alike. -/
theorem mirrors_fresh (root : Path) : Mirrors root (CollabVault.fresh root)
    ⟨ByteArray.empty, ByteArray.empty, defaultFields, defaultFields⟩ where
  regular := ⟨rfl, List.nodup_nil, _, rfl, VaultState.writable_default, List.nodup_nil⟩
  twin := ⟨rfl, rfl, Json.alike_refl distinct_default, rfl, loaded_default⟩

end Calls

end HermesMesh.Collab
