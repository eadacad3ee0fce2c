import HermesMesh.Foundation.Action
import HermesMesh.Platform

/-!
# The state of the collab vault

The vault keeps a ledger file, an audit file, a state that `state.json` holds a
copy of, and one file per task.  This module has the data and the operations on
nodes and tasks; the ledger is in the next one.  The contents of ledger and audit
file are bytes, `state.json` is known by the state that was saved, and the files of
the task folders by what was done to them.
-/

namespace HermesMesh.Collab

open Python Foundation

inductive NodeStatus where
  | active
  | revoked
  deriving DecidableEq

/-- A value of `state["nodes"]`. -/
structure NodeRecord where
  status : NodeStatus
  joinedAt : Option PyStr
  lastSeen : PyStr
  role : PyStr
  ttl : Int

/-- `TASK_STATUSES`. -/
inductive TaskStatus where
  | pending
  | processing
  | done
  deriving DecidableEq

namespace TaskStatus

def all : List TaskStatus := [.pending, .processing, .done]

def text : TaskStatus → PyStr
  | .pending => lit "pending"
  | .processing => lit "processing"
  | .done => lit "done"

/-- The status a text names. -/
def ofText? (text : PyStr) : Option TaskStatus := all.find? fun status => status.text = text

theorem mem_all (status : TaskStatus) : status ∈ all := by cases status <;> decide

@[simp] theorem ofText?_text (status : TaskStatus) : ofText? status.text = some status := by
  cases status <;> simp [ofText?, all, text]

theorem text_injective {one other : TaskStatus} (same : one.text = other.text) : one = other := by
  have names := congrArg ofText? same
  simpa using names

end TaskStatus

/-- A value of `state["messages"]`. -/
structure Message where
  id : PyStr
  ts : PyStr
  node : PyStr
  op : PyStr
  payload : JsonObject

/-- The vault's state, as `state.json` stores it. -/
structure VaultState where
  nodes : Dict PyStr NodeRecord
  tasks : TaskStatus → List JsonObject
  messages : List Message
  lastSync : Option PyStr
  auditTampered : Bool

/-- `_default_state`. -/
def VaultState.default : VaultState := ⟨[], fun _ => [], [], none, false⟩

/-! ## `state.json`

The state is written as one JSON object.  The counter of key rotations is never changed.
-/

def NodeStatus.text : NodeStatus → PyStr
  | .active => lit "active"
  | .revoked => lit "revoked"

/-- A text, or `None`. -/
def optionalText : Option PyStr → Json
  | some text => .str text
  | none => .null

def NodeRecord.fields (node : NodeRecord) : Dict PyStr Json :=
  [(lit "status", .str node.status.text), (lit "joined_at", optionalText node.joinedAt),
    (lit "last_seen", .str node.lastSeen), (lit "role", .str node.role), (lit "ttl", .int node.ttl)]

def NodeRecord.toJson (node : NodeRecord) : Json := .obj node.fields

def Message.toJson (message : Message) : Json :=
  .obj [(lit "id", .str message.id), (lit "ts", .str message.ts), (lit "node", .str message.node),
    (lit "op", .str message.op), (lit "payload", message.payload.toJson)]

def tasksFields (tasks : TaskStatus → List JsonObject) : Dict PyStr Json :=
  TaskStatus.all.map fun status => (status.text, .arr ((tasks status).map JsonObject.toJson))

/-- `state["tasks"]` -/
def tasksJson (tasks : TaskStatus → List JsonObject) : Json := .obj (tasksFields tasks)

/-- `state["nodes"]` -/
def nodesFields (nodes : Dict PyStr NodeRecord) : Dict PyStr Json :=
  nodes.map fun node => (node.1, node.2.toJson)

def VaultState.fields (state : VaultState) : Dict PyStr Json :=
  [(lit "nodes", .obj (nodesFields state.nodes)),
    (lit "tasks", tasksJson state.tasks),
    (lit "messages", .arr (state.messages.map Message.toJson)),
    (lit "mesh_key_rotations", .int 0),
    (lit "last_sync", optionalText state.lastSync),
    (lit "audit_tampered", .bool state.auditTampered)]

/-- The state as `_save_state` writes it. -/
def VaultState.toJson (state : VaultState) : Json := .obj state.fields

/-- What `_atomic_json_write` puts into a file; `none` is a text that UTF-8 cannot hold. -/
def jsonBytes (value : Json) : Option ByteArray :=
  encodeUtf8 (value.dumps .canonical ++ [lineFeed])

/-- `state.json` can hold the state: it has no text that UTF-8 cannot hold. -/
def VaultState.Writable (state : VaultState) : Prop := (jsonBytes state.toJson).isSome = true

/-- The keys of `_default_state`. -/
def stateKeys : List PyStr :=
  [lit "nodes", lit "tasks", lit "messages", lit "mesh_key_rotations", lit "last_sync",
    lit "audit_tampered"]

/-- What `state.json` holds.  The file of a task with an identifier such as `../../state` is
`state.json` itself: it is then overwritten by the task, or removed with the task's file. -/
inductive StateFile where
  | saved (state : VaultState)
  | task (content : JsonObject)
  | missing

namespace StateFile

/-- `_ensure_layout`: a file that is missing is written. -/
def laidOut : StateFile → StateFile
  | .missing => .saved .default
  | file => file

/-- `_load_state`: a task is read as the default state with some other keys, unless it has keys
of the state.  What the vault does then is not followed. -/
def load? : StateFile → Option VaultState
  | .saved state => some state
  | .task content =>
      if stateKeys.any fun key => (content.get? key).isSome then none else some .default
  | .missing => some .default

end StateFile

/-- An operation on the files of the task folders. -/
inductive FileAction where
  /-- `path.mkdir(parents=True, exist_ok=True)` -/
  | makeDirs (path : Path)
  | write (path : Path) (content : JsonObject)
  | unlink (path : Path)

def FileAction.path : FileAction → Path
  | .makeDirs path | .write path _ | .unlink path => path

structure CollabVault where
  root : Path
  ledger : ByteArray
  audit : ByteArray
  stateFile : StateFile
  state : VaultState
  /-- What was done in the task folders, oldest first. -/
  fileLog : List FileAction

/-- What the environment supplies to one call: fresh identifiers, the time, and
whether the file system refuses to write or unlink the task files of the call,
whose names come from the payload.  A step that the call does not get to is not refused. -/
structure Moment where
  uuid : UuidText
  taskUuid : UuidText
  now : PlainText
  taskWriteFails : Bool
  taskUnlinkFails : Bool

/-- The moment of the closed examples: the epoch, and a file system that refuses nothing. -/
def Moment.epoch : Moment where
  uuid := ⟨lit "0", by decide, fun c member => .inl (List.mem_singleton.mp member ▸ by decide)⟩
  taskUuid := ⟨lit "1", by decide, fun c member => .inl (List.mem_singleton.mp member ▸ by decide)⟩
  now := ⟨lit "1970-01-01T00:00:00+00:00", isPlain_lit _ (by decide)⟩
  taskWriteFails := false
  taskUnlinkFails := false

/-- `values[-count:]` -/
def lastN {α : Type} (count : Nat) (values : List α) : List α := values.drop (values.length - count)

namespace CollabVault

/-- A vault over an empty directory. -/
def fresh (root : Path) : CollabVault :=
  ⟨root, ByteArray.empty, ByteArray.empty, .saved .default, .default, []⟩

/-- `state.json` holds a state that a new `CollabVault` goes on with. -/
def Opens (vault : CollabVault) : Prop := vault.stateFile.load?.isSome = true

/-- A new `CollabVault` over the same directory: the state is what `state.json`
holds, everything else is in the files.  The state of a vault that does not open is left open. -/
def reopen (vault : CollabVault) : CollabVault :=
  { vault with
    stateFile := vault.stateFile.laidOut
    state := vault.stateFile.load?.getD .default }

def statePath (vault : CollabVault) : Path := vault.root ++ [lit "state.json"]

def tasksRoot (vault : CollabVault) : Path := vault.root ++ [lit "tasks"]

def setState (update : VaultState → VaultState) (vault : CollabVault) : CollabVault :=
  { vault with state := update vault.state }

/-- `_save_state`: a state with a text that UTF-8 cannot hold leaves the file as it was. -/
def saveState : Action CollabVault Fault Unit := do
  let vault ← .read
  let _ ← .ofOption .valueError (jsonBytes vault.state.toJson)
  .modify fun vault => { vault with stateFile := .saved vault.state }

/-- The path leads to `state.json`, where `..` goes one folder up, as it does once the folders on
the way exist. -/
def IsStateFile (vault : CollabVault) (path : Path) : Prop :=
  Path.follow [] path = Path.follow [] vault.statePath

instance (vault : CollabVault) (path : Path) : Decidable (vault.IsStateFile path) :=
  inferInstanceAs (Decidable (_ = _))

/-- What is done to a file is done to `state.json`, if it is that file. -/
def changeStateFile (path : Path) (content : StateFile) (vault : CollabVault) : CollabVault :=
  if vault.IsStateFile path then { vault with stateFile := content } else vault

def logFile (action : FileAction) : Action CollabVault Fault Unit :=
  .modify fun vault => { vault with fileLog := vault.fileLog ++ [action] }

/-! ## Nodes -/

def setNode (nodeId : PyStr) (record : NodeRecord) (vault : CollabVault) : CollabVault :=
  vault.setState fun state => { state with nodes := state.nodes.set nodeId record }

/-- The record of a node that registers: it keeps the time at which it has joined. -/
def registered (moment : Moment) (existing : Option NodeRecord) (role : PyStr) (ttl : Int) :
    NodeRecord where
  status := .active
  joinedAt := existing.elim (some moment.now.text) NodeRecord.joinedAt
  lastSeen := moment.now.text
  role := role
  ttl := ttl

/-- `register_node` -/
def registerNode (moment : Moment) (nodeId role : PyStr) (ttl : Int) :
    Action CollabVault Fault Unit := do
  let vault ← .read
  let existing := vault.state.nodes.get? nodeId
  if existing.map NodeRecord.status = some .revoked then
    .raise (.vaultError "node is revoked")
  else
    .modify (setNode nodeId (registered moment existing role ttl))
    saveState

/-- `touch_node` -/
def touchNode (moment : Moment) (nodeId : PyStr) : Action CollabVault Fault Unit := do
  let vault ← .read
  match vault.state.nodes.get? nodeId with
  | none => return
  | some node =>
      .modify (setNode nodeId { node with lastSeen := moment.now.text })
      saveState

/-- `mark_revoked` -/
def markRevoked (moment : Moment) (nodeId : PyStr) : Action CollabVault Fault Unit := do
  let vault ← .read
  let node := (vault.state.nodes.get? nodeId).getD ⟨.revoked, none, [], lit "collab", 0⟩
  let lastSeen := if node.lastSeen.isEmpty then moment.now.text else node.lastSeen
  .modify (setNode nodeId { node with status := .revoked, lastSeen := lastSeen })
  saveState

/-- `revoke_node` -/
def revokeNode (moment : Moment) (nodeId : PyStr) : Action CollabVault Fault Bool := do
  let vault ← .read
  match vault.state.nodes.get? nodeId with
  | none => return false
  | some node =>
      .modify (setNode nodeId { node with status := .revoked, lastSeen := moment.now.text })
      saveState
      return true

/-! ## Tasks -/

/-- `str(value or default)`, the default being a text. -/
def textOr (py : Platform) (value : Option Json) (default : PyStr) : PyStr :=
  match value with
  | some value => if value.truthy then value.pyStr py.unicode else default
  | none => default

/-- `str(task.get("id") or uuid.uuid4())` -/
def taskIdText (py : Platform) (moment : Moment) (task : JsonObject) : PyStr :=
  textOr py (task.get? (lit "id")) moment.taskUuid.text

/-- The status a task asks for; `none` is one that is not in `TASK_STATUSES`. -/
def taskStatus? (py : Platform) (task : JsonObject) : Option TaskStatus :=
  let status := py.unicode.lower (textOr py (task.get? (lit "status")) (lit "pending"))
  TaskStatus.ofText? (if status = lit "working" then lit "processing" else status)

/-- The task as it is stored. -/
def storedTask (moment : Moment) (taskId : PyStr) (status : TaskStatus) (task : JsonObject) :
    JsonObject :=
  let task := (task.setText (lit "id") taskId).setText (lit "status") status.text
  if (task.get? (lit "updated_at")).isSome then task
  else task.setText (lit "updated_at") moment.now.text

/-- `x.get("id") == task_id` -/
def hasId (taskId : PyStr) (task : JsonObject) : Bool :=
  (task.getD (lit "id") .null).pyEq (.str taskId)

/-- The buckets after a task is moved to the end of its own. -/
def placeTask (taskId : PyStr) (status : TaskStatus) (task : JsonObject)
    (tasks : TaskStatus → List JsonObject) : TaskStatus → List JsonObject := fun bucket =>
  let others := (tasks bucket).filter fun other => !hasId taskId other
  if bucket = status then lastN 200 (others ++ [task]) else others

def withTask (taskId : PyStr) (status : TaskStatus) (task : JsonObject) (state : VaultState) :
    VaultState :=
  { state with tasks := placeTask taskId status task state.tasks }

/-- `tasks_root / status / f"{task_id}.json"` -/
def taskFile (vault : CollabVault) (status : TaskStatus) (taskId : PyStr) : Path :=
  Path.join (vault.tasksRoot ++ [status.text]) (taskId ++ lit ".json")

/-- `_atomic_json_write` of a task file. -/
def writeTask (moment : Moment) (target : Path) (task : JsonObject) :
    Action CollabVault Fault Unit := do
  logFile (.makeDirs target.parent)
  if moment.taskWriteFails then .raise .osError
  else
    let _ ← .ofOption .valueError (jsonBytes task.toJson)
    logFile (.write target task)
    .modify (changeStateFile target (.task task))

/-- Remove the task's file from a folder that is not its own. -/
def unlinkOther (moment : Moment) (status : TaskStatus) (taskId : PyStr) (other : TaskStatus) :
    Action CollabVault Fault Unit :=
  if other = status then return
  else do
    let vault ← .read
    logFile (.unlink (vault.taskFile other taskId))
    if moment.taskUnlinkFails then .raise .osError
    else .modify (changeStateFile (vault.taskFile other taskId) .missing)

/-- The loop over the status folders that follows the write. -/
def unlinkOthers (moment : Moment) (status : TaskStatus) (taskId : PyStr) :
    List TaskStatus → Action CollabVault Fault Unit
  | [] => return
  | other :: rest => do
      unlinkOther moment status taskId other
      unlinkOthers moment status taskId rest

/-- `upsert_task` once the status is known. -/
def storeTask (moment : Moment) (taskId : PyStr) (status : TaskStatus) (task : JsonObject) :
    Action CollabVault Fault JsonObject := do
  let stored := storedTask moment taskId status task
  .modify (setState (withTask taskId status stored))
  let vault ← .read
  writeTask moment (vault.taskFile status taskId) stored
  unlinkOthers moment status taskId TaskStatus.all
  saveState
  return stored

/-- `upsert_task` -/
def upsertTask (py : Platform) (moment : Moment) (task : JsonObject) :
    Action CollabVault Fault JsonObject := do
  let status ← .ofOption (.vaultError "invalid collab task status") (taskStatus? py task)
  storeTask moment (taskIdText py moment task) status task

end CollabVault

end HermesMesh.Collab
