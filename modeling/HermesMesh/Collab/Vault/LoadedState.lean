import HermesMesh.Collab.Auth.Revoke
import HermesMesh.Collab.Vault.Ledger
import HermesMesh.Collab.Vault.State

/-!
# Any `state.json`

A new vault takes its state from `state.json`, whatever that holds: the fields of an object
are put over the defaults, and of the tasks those buckets are emptied that are no lists.  The
rest is taken as it is, so that the operations work on JSON values that need not have the
shape they expect.  The file system refuses nothing here.
-/

namespace HermesMesh.Collab

open Python Foundation

/-! ## Loading -/

/-- `_default_state`, as fields. -/
def defaultFields : Dict PyStr Json :=
  [(lit "nodes", .obj []),
    (lit "tasks", .obj (TaskStatus.all.map fun status => (status.text, .arr []))),
    (lit "messages", .arr []), (lit "mesh_key_rotations", .int 0), (lit "last_sync", .null),
    (lit "audit_tampered", .bool false)]

/-- `base.update(data)` -/
def updateFields (base data : Dict PyStr Json) : Dict PyStr Json :=
  data.foldl (fun fields field => fields.set field.1 field.2) base

/-- A bucket that is no list is emptied. -/
def repairBucket (tasks : Dict PyStr Json) (status : TaskStatus) : Dict PyStr Json :=
  match tasks.get? status.text with
  | some (.arr _) => tasks
  | _ => tasks.set status.text (.arr [])

/-- The state that is made of what `json.loads` returns; what has no `get` raises an
`AttributeError`, which is not caught. -/
def stateOf (data : Json) : Except AuthFault (Dict PyStr Json) := do
  let base := match data with
    | .obj fields => updateFields defaultFields fields
    | _ => defaultFields
  let tasks ← asDict (getOr (lit "tasks") (.obj []) base)
  return base.set (lit "tasks") (.obj (TaskStatus.all.foldl repairBucket tasks))

/-- `_load_state`: a text that is not JSON gives the default, bytes that are not UTF-8 raise. -/
def loadState (content : ByteArray) : Except AuthFault (Dict PyStr Json) :=
  match readText content with
  | none => .error .valueError
  | some text =>
      match loads text with
      | none => .ok defaultFields
      | some data => stateOf data

/-- `_load_state`, where `json.loads` gives up on some texts at a limit of the interpreter:
a `ValueError` or `RecursionError` that is not caught. -/
def loadStateWithin (givesUp : PyStr → Bool) (content : ByteArray) :
    Except AuthFault (Dict PyStr Json) :=
  if (readText content).any givesUp then .error .interpreterLimit else loadState content

/-! ## The operations -/

/-- The vault with a state that may be anything. -/
structure RawVault where
  ledger : ByteArray
  audit : ByteArray
  state : Dict PyStr Json
  stateFile : Dict PyStr Json

namespace RawVault

def setField (key : PyStr) (value : Json) (vault : RawVault) : RawVault :=
  { vault with state := vault.state.set key value }

/-- `_save_state` -/
def saveState : Action RawVault AuthFault Unit := do
  let vault ← .read
  match encodeUtf8 (plainText vault.state) with
  | some _ => .modify fun vault => { vault with stateFile := vault.state }
  | none => .raise .valueError

/-- `snapshot` -/
def snapshot : Action RawVault AuthFault Json := do
  let vault ← .read
  return .obj vault.state

/-- The record that `register_node` writes, given the one it finds. -/
def activeRecord (now : PlainText) (role : PyStr) (ttl : Int) (existing : Option Json) :
    Except AuthFault (Dict PyStr Json) := do
  let existing ← asDict (existing.getD (.obj []))
  return [(lit "status", .str (lit "active")),
    (lit "joined_at", getOr (lit "joined_at") (.str now.text) existing),
    (lit "last_seen", .str now.text), (lit "role", .str role), (lit "ttl", .int ttl)]

/-- `register_node` -/
def registerNode (now : PlainText) (nodeId role : PyStr) (ttl : Int) :
    Action RawVault AuthFault Unit := do
  let vault ← .read
  let nodes ← .ofExcept (nodesOf vault.state)
  let refused ← .ofExcept (refusesNode ((nodes.get? nodeId).getD .null))
  if refused then .raise (.vaultError "node is revoked")
  else
    let record ← .ofExcept (activeRecord now role ttl (nodes.get? nodeId))
    .modify (setField (lit "nodes") (.obj (nodes.set nodeId (.obj record))))
    saveState

/-- The record of a node that `mark_revoked` meets for the first time. -/
def strangerRecord : Dict PyStr Json :=
  [(lit "joined_at", .null), (lit "role", .str (lit "collab")), (lit "ttl", .int 0)]

/-- `node["last_seen"] = node.get("last_seen") or self.now_iso()`, for a revoked node. -/
def markedRecord (now : PlainText) (record : Dict PyStr Json) : Dict PyStr Json :=
  let marked := record.set (lit "status") (.str (lit "revoked"))
  let lastSeen := getOr (lit "last_seen") .null marked
  marked.set (lit "last_seen") (if lastSeen.truthy then lastSeen else .str now.text)

/-- `mark_revoked` -/
def markRevoked (now : PlainText) (nodeId : PyStr) : Action RawVault AuthFault Unit := do
  let vault ← .read
  let nodes ← .ofExcept (nodesOf vault.state)
  let record ← .ofExcept (asRecord ((nodes.get? nodeId).getD (.obj strangerRecord)))
  .modify (setField (lit "nodes") (.obj (nodes.set nodeId (.obj (markedRecord now record)))))
  saveState

/-- `self._state["tasks"]`, whose `get` is called. -/
def tasksOf (state : Dict PyStr Json) : Except AuthFault (Dict PyStr Json) :=
  match state.get? (lit "tasks") with
  | some tasks => asDict tasks
  | none => .error .keyError

/-- `[x for x in bucket if x.get("id") != task_id]` -/
def otherTasks (taskId : PyStr) : List Json → Except AuthFault (List Json)
  | [] => .ok []
  | entry :: rest => do
      let task ← asDict entry
      let kept ← otherTasks taskId rest
      return if (getOr (lit "id") .null task).pyEq (.str taskId) then kept else entry :: kept

/-- Take a task out of a bucket. -/
def clearBucket (taskId : PyStr) (status : TaskStatus) : Action RawVault AuthFault Unit := do
  let vault ← .read
  let tasks ← .ofExcept (tasksOf vault.state)
  let items ← .ofExcept (iterate (getOr status.text (.arr []) tasks))
  let others ← .ofExcept (otherTasks taskId items)
  .modify (setField (lit "tasks") (.obj (tasks.set status.text (.arr others))))

/-- The loop over the buckets. -/
def clearBuckets (taskId : PyStr) : List TaskStatus → Action RawVault AuthFault Unit
  | [] => return
  | status :: rest => do
      clearBucket taskId status
      clearBuckets taskId rest

/-- A value with an `append`. -/
def asList : Json → Except AuthFault (List Json)
  | .arr items => .ok items
  | _ => .error .attributeError

/-- Put a task at the end of its bucket. -/
def pushTask (status : TaskStatus) (task : JsonObject) : Action RawVault AuthFault Unit := do
  let vault ← .read
  let tasks ← .ofExcept (tasksOf vault.state)
  let items ← .ofExcept (asList (getOr status.text .null tasks))
  .modify (setField (lit "tasks")
    (.obj (tasks.set status.text (.arr (lastN 200 (items ++ [task.toJson]))))))

/-- `upsert_task`; the file of the task has to be a text in UTF-8. -/
def upsertTask (py : Platform) (moment : Moment) (task : JsonObject) :
    Action RawVault AuthFault JsonObject := do
  let status ← .ofOption (.vaultError "invalid collab task status") (CollabVault.taskStatus? py task)
  let taskId := CollabVault.taskIdText py moment task
  let stored := CollabVault.storedTask moment taskId status task
  clearBuckets taskId TaskStatus.all
  pushTask status stored
  let _ ← .ofOption .valueError (jsonBytes stored.toJson)
  saveState
  return stored

/-- `ensure_audit_clean` -/
def ensureAuditClean (py : Platform) : Action RawVault AuthFault Unit := do
  let vault ← .read
  if verifyAuditChain py vault.ledger vault.audit then return
  else
    .modify (setField (lit "audit_tampered") (.bool true))
    saveState
    .raise (.vaultError "audit chain tampered")

/-- Append a line to the ledger file. -/
def appendLedger (line : PyStr) : Action RawVault AuthFault Unit := do
  let bytes ← .ofOption .valueError (encodeUtf8 (line ++ [lineFeed]))
  .modify fun vault => { vault with ledger := vault.ledger ++ bytes }

/-- Append a line to the audit file. -/
def appendAudit (line : PyStr) : Action RawVault AuthFault Unit := do
  let bytes ← .ofOption .valueError (encodeUtf8 (line ++ [lineFeed]))
  .modify fun vault => { vault with audit := vault.audit ++ bytes }

/-- A value of `state["messages"]`. -/
def messageJson (entry : LedgerEntry) : Json :=
  .obj [(lit "id", .str entry.id), (lit "ts", .str entry.ts), (lit "node", .str entry.node),
    (lit "op", .str entry.op), (lit "payload", entry.payload.toJson)]

/-- A message goes to the end of the messages. -/
def pushMessage (entry : LedgerEntry) : Action RawVault AuthFault Unit := do
  let vault ← .read
  let messages ← .ofExcept (asList (getOr (lit "messages") (.arr []) vault.state))
  .modify (setField (lit "messages") (.arr (lastN 200 (messages ++ [messageJson entry]))))

/-- `_apply_event` -/
def applyEvent (py : Platform) (moment : Moment) (entry : LedgerEntry) :
    Action RawVault AuthFault Unit :=
  if entry.op = lit "message" ∨ entry.op = lit "broadcast" then pushMessage entry
  else if entry.op = lit "task" then
    if ((CollabVault.eventTask entry.payload).getD (lit "id") .null).truthy then do
      let _ ← upsertTask py moment (CollabVault.eventTask entry.payload)
    else return
  else if entry.op = lit "join" then
    match CollabVault.joinedNode entry.payload with
    | none => return
    | some joined => registerNode moment.now joined (CollabVault.joinedRole py entry.payload) 0
  else return

/-- `append_event` from `_apply_event` on. -/
def applyAndSave (py : Platform) (moment : Moment) (entry : LedgerEntry) :
    Action RawVault AuthFault LedgerEntry := do
  applyEvent py moment entry
  .modify (setField (lit "last_sync") (.str entry.ts))
  .modify (setField (lit "audit_tampered") (.bool false))
  saveState
  return entry

/-- `append_event` -/
def appendEvent (py : Platform) (moment : Moment) (node op : PyStr) (payload : JsonObject)
    (sig : PyStr) : Action RawVault AuthFault LedgerEntry := do
  ensureAuditClean py
  let vault ← .read
  let entry := CollabVault.newEntry moment node op payload sig
  let rows ← .ofOption .valueError (auditLines vault.audit)
  let entryHash ← .ofOption .valueError (hashOf py entry.toJson)
  let auditHash ← .ofOption .valueError
    (hashOf py (linkJson (.str entry.id) (previousHash rows) entryHash))
  appendLedger (Json.dumps .canonical entry.toJson)
  appendAudit (Json.dumps .canonical
    (AuditRow.toJson ⟨entry.id, previousHash rows, entryHash, auditHash, entry.ts⟩))
  applyAndSave py moment entry

end RawVault

end HermesMesh.Collab
