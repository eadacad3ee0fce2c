import HermesMesh.Collab.Trust.Delivery
import HermesMesh.Collab.Vault.Ledger
import HermesMesh.Collab.Vault.SafePath

/-!
# The routes that write to the ledger

Four routes of the HTTP server and the event stream of `api_ws_relay` verify, change the
vault, append an event, tell the dashboards and hand the event to the partners.  A
handler runs without giving way once it has the body of its request.  An exception that
leaves a handler is answered with status 500, or ends the stream.  The tasks that post to
the partners run later, so forwarding is signing a message and handing it over.
-/

namespace HermesMesh.Server

open Python Foundation Collab

/-- What `broadcast` is called with. -/
inductive Broadcast where
  /-- `collab_event` -/
  | event (entry : LedgerEntry)
  /-- `collab_activity`: its kind and its other fields. -/
  | activity (kind : String) (timestamp : PyStr) (data : Dict PyStr Json)
  /-- `mesh_message` -/
  | message (sender : PyStr) (text : Json) (timestamp : PyStr)

/-- A task of the local queue, as `read_task` gives it. -/
structure LocalTask where
  id : JsonValue
  title : JsonValue
  assignedTo : JsonValue
  status : JsonValue

/-- What the routes read and change.  `links` says of each websocket link whether it is
connected; a message in `dispatched` is posted to every partner. -/
structure MonitorServer where
  vault : CollabVault
  trust : TrustManager
  /-- The local queue: pending, processing and done tasks. -/
  localTasks : List LocalTask
  partners : List PyStr
  localNodeId : PyStr
  links : Dict PyStr Bool
  /-- Files that `write_file` has written, oldest first. -/
  fileWrites : List (Path × PyStr)
  dispatched : List Envelope
  broadcasts : List Broadcast

/-- What `read_file` finds at a path. -/
inductive FileRead where
  | missing
  | tooLarge
  | notUtf8
  | text (content : PyStr)

/-- What the environment supplies to a request.  The signing of the n-th message takes
the n-th nonce and time. -/
structure RequestMoment where
  verifyNow : Binary64
  verifyLater : Binary64
  upsert : Moment
  append : Moment
  activityTs : PlainText
  signing : Nat → PlainText × Binary64
  file : Path → FileRead
  fileWriteFails : Bool

/-- A node that has authenticated. -/
structure Peer where
  id : PyStr
  named : id ≠ []

/-- A request as the checks before the handler's own work leave it. -/
structure Request where
  /-- `_node_authorized`; an empty identifier is none, too. -/
  node : Option Peer
  /-- `_write_allowed` -/
  writeAllowed : Bool
  /-- `retry_after`, where the limiter refuses the request. -/
  retryAfter : Option Int
  /-- `none` is a body that is no JSON object. -/
  body : Option JsonObject

structure Reply where
  status : Nat
  body : Dict PyStr Json

/-- A handler's reply with status 200 and `ok`. -/
def Reply.isOk (reply : Reply) : Prop :=
  reply.status = 200 ∧ reply.body.get? (lit "status") = some (.str (lit "ok"))

abbrev Handler := Action MonitorServer Fault

def errorReply (status : Nat) (error : String) : Reply := ⟨status, [(lit "error", .str (lit error))]⟩

def rejectedReply (status : Nat) (reason : String) : Reply :=
  ⟨status, [(lit "status", .str (lit "rejected")), (lit "reason", .str (lit reason))]⟩

/-- `_forbidden()` -/
def forbidden : Reply := errorReply 403 "forbidden"

/-- `_json_body` of what is no JSON object. -/
def badRequest : Reply := errorReply 400 "JSON object required"

/-- aiohttp's answer to an exception that leaves a handler. -/
def serverError : Reply := ⟨500, []⟩

namespace MonitorServer

/-- A call on the vault. -/
def onVault {α : Type} (action : Action CollabVault Fault α) : Handler α :=
  .zoom MonitorServer.vault (fun vault server => { server with vault := vault }) action

/-- A call on `mesh_trust`. -/
def onTrust {α : Type} (action : Action TrustManager Fault α) : Handler α :=
  .zoom MonitorServer.trust (fun trust server => { server with trust := trust }) action

def broadcast (payload : Broadcast) : Handler Unit :=
  .modify fun server => { server with broadcasts := server.broadcasts ++ [payload] }

/-- `_record_collab_activity` -/
def recordActivity (moment : RequestMoment) (kind : String) (data : Dict PyStr Json) : Handler Unit :=
  broadcast (.activity kind moment.activityTs.text data)

/-- The broadcasts of an event that is in the ledger. -/
def announce (moment : RequestMoment) (entry : LedgerEntry) : Handler Unit := do
  broadcast (.event entry)
  recordActivity moment "audit"
    [(lit "node_id", .str entry.node), (lit "op", .str entry.op),
      (lit "ledger_id", .str entry.id), (lit "status", .str (lit "verified"))]

/-! ## Forwarding -/

/-- `ready()`; the mesh key is not empty. -/
def ready (server : MonitorServer) : Bool := !server.partners.isEmpty && !server.localNodeId.isEmpty

/-- `RelayClient.forward`: its own trust manager has the same key. -/
def forward (py : Platform) (moment : RequestMoment) (index : Nat) (op : PyStr)
    (payload : JsonObject) : Handler Bool := do
  let server ← .read
  match forwardEnvelope py server.ready server.partners server.trust server.localNodeId op payload
    (moment.signing index).1.text (moment.signing index).2 with
  | none => return false
  | some signed =>
      let message ← .ofExcept signed
      .modify fun server => { server with dispatched := server.dispatched ++ [message] }
      return true

/-- `if relay_client.ready(): relay_client.forward(op, payload)` -/
def forwardIfReady (py : Platform) (moment : RequestMoment) (index : Nat) (op : PyStr)
    (payload : JsonObject) : Handler Unit := do
  let server ← .read
  if server.ready then
    let _ ← forward py moment index op payload

/-- `try: action except Exception: pass` -/
def quietly (action : Handler Unit) : Handler Unit := action.catching fun _ => return

/-- The loop of `_relay_forward` over the links.  `client.send` is a coroutine function:
calling it transmits nothing, and what it returns is true. -/
def forwardLinks (py : Platform) (moment : RequestMoment) (op : PyStr) (payload : JsonObject) :
    (index : Nat) → Dict PyStr Bool → Handler Unit
  | _, [] => return
  | index, (_, connected) :: rest => do
      if connected then forwardLinks py moment op payload (index + 1) rest
      else
        quietly (forwardIfReady py moment index op payload)
        forwardLinks py moment op payload (index + 1) rest

/-- `_relay_forward` -/
def relayForward (py : Platform) (moment : RequestMoment) (op : PyStr) (payload : JsonObject) :
    Handler Unit := do
  let server ← .read
  forwardLinks py moment op payload 0 server.links
  if server.links.isEmpty then forwardIfReady py moment 0 op payload

end MonitorServer

open MonitorServer

/-! ## Requests with an envelope -/

/-- The fields that a handler takes from an envelope that `verify` has accepted. -/
structure SignedBody where
  op : PyStr
  payload : JsonObject
  sig : PyStr

/-- `body["op"]`, `body["payload"]` and `body["sig"]`. -/
def signedBody? (body : JsonObject) : Option SignedBody :=
  match body.get? (lit "op"), body.getObject? (lit "payload"), body.get? (lit "sig") with
  | some (.str op), some payload, some (.str sig) => some ⟨op, payload, sig⟩
  | _, _, _ => none

/-- `verify`, and the record of a refusal: the answer with the node and the fields of an
accepted envelope, or the reason to refuse it. -/
def verifyEnvelope (py : Platform) (moment : RequestMoment) (node : Peer) (body : JsonObject) :
    Handler (Except String (PyStr × SignedBody)) := do
  let verdict ← onTrust
    (TrustManager.verify py (some node.id) moment.verifyNow moment.verifyLater (some body))
  if verdict.valid then
    let signed ← .ofOption .typeError (signedBody? body)
    return .ok (verdict.nodeId.getD node.id, signed)
  else
    recordActivity moment "tamper"
      [(lit "node_id", .str node.id), (lit "op", body.getD (lit "op") (.str (lit "unknown"))),
        (lit "status", .int 403), (lit "reason", .str (lit verdict.reason))]
    return .error verdict.reason

/-- `_rate_limit` of a request that is over the limit. -/
def limitedReply (moment : RequestMoment) (scope : String) (identity : PyStr) (retryAfter : Int) :
    Handler Reply := do
  recordActivity moment "rate_limit"
    [(lit "scope", .str (lit scope)), (lit "identity", .str identity), (lit "status", .int 429),
      (lit "retry_after", .int retryAfter)]
  return errorReply 429 "rate limit exceeded"

/-- The start that `api_relay`, `api_collab_file` and `api_collab_task` share; `next` gets
the node of the token, the node of the envelope and its fields. -/
def signedRequest (py : Platform) (scope : String) (moment : RequestMoment) (request : Request)
    (next : PyStr → PyStr → SignedBody → Handler Reply) : Handler Reply :=
  match request.node, request.retryAfter, request.body with
  | none, _, _ => return forbidden
  | some node, some retryAfter, _ => limitedReply moment scope node.id retryAfter
  | some _, none, none => return badRequest
  | some node, none, some body => do
      let verified ← verifyEnvelope py moment node body
      match verified with
      | .error reason => return rejectedReply 403 reason
      | .ok (signedNode, signed) => next node.id signedNode signed

/-- The text of a `VaultError`, which is the one exception that the handlers answer. -/
def vaultMessage? : Fault → Option String
  | .vaultError message => some message
  | _ => none

/-! ## `api_relay` and the event stream -/

/-- `p.get("text") or p.get("message") or ""` -/
def messageText (payload : JsonObject) : Json :=
  let text := payload.getD (lit "text") .null
  let message := payload.getD (lit "message") .null
  if text.truthy then text else if message.truthy then message else .str []

/-- `api_relay` tells the dashboards of a message once more. -/
def announceMessage (signed : SignedBody) (entry : LedgerEntry) : Handler Unit :=
  if signed.op = lit "message" then
    broadcast (.message entry.node (messageText signed.payload) entry.ts)
  else return

/-- `api_relay` once the event is appended. -/
def relayAccepted (py : Platform) (moment : RequestMoment) (signed : SignedBody)
    (entry : LedgerEntry) : Handler Reply := do
  announce moment entry
  announceMessage signed entry
  quietly (relayForward py moment signed.op signed.payload)
  return ⟨200, [(lit "status", .str (lit "ok")), (lit "relayed", .bool true),
    (lit "ledger_id", .str entry.id)]⟩

/-- `api_relay` -/
def apiRelay (py : Platform) (moment : RequestMoment) (request : Request) : Handler Reply :=
  signedRequest py "relay" moment request fun _ signedNode signed => do
    let outcome ← (onVault (CollabVault.appendEvent py moment.append signedNode signed.op
      signed.payload signed.sig)).attempt vaultMessage?
    match outcome with
    | .error reason => return rejectedReply 503 reason
    | .ok entry => relayAccepted py moment signed entry

/-- A frame of the event stream of `api_ws_relay`, from a peer that is within its rate:
the entry, where the frame is accepted. -/
def wsRelayFrame (py : Platform) (moment : RequestMoment) (peer : Peer) (envelope : JsonObject) :
    Handler (Option LedgerEntry) := do
  let verified ← verifyEnvelope py moment peer envelope
  match verified with
  | .error _ => return none
  | .ok (signedNode, signed) =>
      let outcome ← (onVault (CollabVault.appendEvent py moment.append signedNode signed.op
        signed.payload signed.sig)).attempt vaultMessage?
      match outcome with
      | .error _ => return none
      | .ok entry =>
          announce moment entry
          return some entry

/-! ## `api_collab_file` -/

/-- `safe_path` of a vault without symbolic links: the path below the root. -/
def safePath (py : Platform) (requested : Json) : Except Fault (List PyStr) := do
  let parts ← safeParts py requested
  if parts.all isFileName then .ok parts else .error .valueError

/-- `content.encode("utf-8")`, where it is not too long. -/
def checkContent : Json → Except Fault PyStr
  | .str content =>
      match encodeUtf8 content with
      | none => .error .valueError
      | some bytes =>
          if 1048576 < bytes.size then .error (.vaultError "invalid or oversized collab file")
          else .ok content
  | _ => .error (.vaultError "invalid or oversized collab file")

/-- `write_file`: the path that was written, as a text below the root. -/
def writeFile (py : Platform) (moment : RequestMoment) (path content : Json) : Handler PyStr := do
  let content ← .ofExcept (checkContent content)
  let parts ← .ofExcept (safePath py path)
  if moment.fileWriteFails then .raise .osError
  else
    .modify fun server =>
      { server with fileWrites := server.fileWrites ++ [(server.vault.root ++ parts, content)] }
    return joinWith (lit "/") parts

/-- The action `read`. -/
def readReply (py : Platform) (moment : RequestMoment) (root : Path) (path : Json) :
    Except Fault Reply := do
  let parts ← safePath py path
  match moment.file (root ++ parts) with
  | .missing => return errorReply 404 "collab file not found"
  | .tooLarge => .error (.vaultError "collab file too large")
  | .notUtf8 => return errorReply 415 "collab file is not UTF-8"
  | .text content =>
      return ⟨200, [(lit "status", .str (lit "ok")), (lit "path", path), (lit "content", .str content)]⟩

/-- The payload of the event of a written file. -/
def filePayload (written : PyStr) : JsonObject :=
  (JsonObject.empty.setText (lit "action") (lit "write")).setText (lit "path") written

/-- The action `write`, but for the first check of the chain. -/
def writeAndRecord (py : Platform) (moment : RequestMoment) (node : PyStr) (path content : Json)
    (sig : PyStr) : Handler Reply := do
  let written ← writeFile py moment path content
  let outcome ← (onVault (CollabVault.appendEvent py moment.append node (lit "file_update")
    (filePayload written) sig)).attempt vaultMessage?
  match outcome with
  | .error reason => return rejectedReply 503 reason
  | .ok entry =>
      announce moment entry
      forwardIfReady py moment 0 (lit "file_update") (filePayload written)
      return ⟨200, [(lit "status", .str (lit "ok")), (lit "path", .str written),
        (lit "ledger_id", .str entry.id)]⟩

/-- The body of the `try` of `api_collab_file`. -/
def fileAction (py : Platform) (moment : RequestMoment) (node : PyStr) (signed : SignedBody) :
    Handler Reply := do
  let action := signed.payload.getD (lit "action") (.str (lit "read"))
  let path := signed.payload.getD (lit "path") .null
  if action.pyEq (.str (lit "read")) then
    let server ← .read
    .ofExcept (readReply py moment server.vault.root path)
  else if action.pyEq (.str (lit "write")) then
    let clean ← (onVault (CollabVault.ensureAuditClean py)).attempt vaultMessage?
    match clean with
    | .error reason => return rejectedReply 503 reason
    | .ok _ =>
        writeAndRecord py moment node path (signed.payload.getD (lit "content") (.str [])) signed.sig
  else return errorReply 400 "action must be read or write"

/-- `api_collab_file` -/
def apiCollabFile (py : Platform) (moment : RequestMoment) (request : Request) : Handler Reply :=
  signedRequest py "file" moment request fun node _ signed => do
    if signed.op = lit "file_update" then
      let outcome ← (fileAction py moment node signed).attempt vaultMessage?
      match outcome with
      | .error _ => return errorReply 403 "forbidden collab path"
      | .ok reply => return reply
    else return rejectedReply 403 "operation not allowed"

/-! ## `api_collab_task` and `api_collab_export` -/

/-- `action in {"complete", "done"}`, with the `TypeError` of a value that has no hash. -/
def isCompletion : Json → Except Fault Bool
  | .str action => .ok (action == lit "complete" || action == lit "done")
  | .arr _ | .obj _ => .error .typeError
  | _ => .ok false

/-- The task of a request, with what its action sets. -/
def requestedTask (node : PyStr) (action : Json) (payload : JsonObject) : Except Fault JsonObject :=
  let task := (payload.getObject? (lit "task")).getD (payload.erase (lit "action"))
  if action.pyEq (.str (lit "claim")) then
    .ok ((task.setText (lit "status") (lit "processing")).setText (lit "claimed_by") node)
  else do
    if ← isCompletion action then
      return (task.setText (lit "status") (lit "done")).setText (lit "completed_by") node
    else return task

/-- The payload of the event of a stored task. -/
def taskPayload (action : JsonValue) (saved : JsonObject) : JsonObject :=
  (JsonObject.empty.setValue (lit "action") action).setObject (lit "task") saved

/-- The reply with a stored task. -/
def taskReply (saved : JsonObject) (entry : LedgerEntry) : Reply :=
  ⟨200, [(lit "status", .str (lit "ok")), (lit "task", saved.toJson), (lit "ledger_id", .str entry.id)]⟩

/-- `api_collab_task` from the first change on. -/
def storeAndRecord (py : Platform) (moment : RequestMoment) (node : PyStr) (action : JsonValue)
    (task : JsonObject) (sig : PyStr) : Handler Reply := do
  let stored ← (onVault (CollabVault.upsertTask py moment.upsert task)).attempt vaultMessage?
  match stored with
  | .error reason => return errorReply 400 reason
  | .ok saved =>
      let outcome ← (onVault (CollabVault.appendEvent py moment.append node (lit "task")
        (taskPayload action saved) sig)).attempt vaultMessage?
      match outcome with
      | .error reason => return rejectedReply 503 reason
      | .ok entry =>
          announce moment entry
          quietly (forwardIfReady py moment 0 (lit "task") (taskPayload action saved))
          return taskReply saved entry

/-- `api_collab_task` -/
def apiCollabTask (py : Platform) (moment : RequestMoment) (request : Request) : Handler Reply :=
  signedRequest py "task" moment request fun node _ signed => do
    if signed.op = lit "task" then
      let action := signed.payload.getValueD (lit "action") (.ofText (lit "create"))
      let task ← .ofExcept (requestedTask node action.val signed.payload)
      let clean ← (onVault (CollabVault.ensureAuditClean py)).attempt vaultMessage?
      match clean with
      | .error reason => return rejectedReply 503 reason
      | .ok _ => storeAndRecord py moment node action task signed.sig
    else return rejectedReply 403 "operation not allowed"

/-- The fields that `read_task` gives a local task. -/
def LocalTask.toObject (task : LocalTask) : JsonObject :=
  (((JsonObject.empty.setValue (lit "id") task.id).setValue (lit "title") task.title).setValue
    (lit "assigned_to") task.assignedTo).setValue (lit "status") task.status

/-- The status that an exported task gets; a value without a hash is no member of a set. -/
def exportStatus : Json → Except Fault PyStr
  | .str status =>
      .ok (if status = lit "working" ∨ status = lit "processing" then lit "processing"
        else if status = lit "done" then lit "done" else lit "pending")
  | .arr _ | .obj _ => .error .typeError
  | _ => .ok (lit "pending")

/-- `str(body.get("task_id") or "").strip()` -/
def requestedId (py : Platform) (body : JsonObject) : PyStr :=
  strip (CollabVault.textOr py (body.get? (lit "task_id")) [])

/-- The task with the status that it is exported with. -/
def exportedTask (task : LocalTask) : Except Fault JsonObject := do
  let status ← exportStatus task.status.val
  return (task.toObject.setText (lit "status") status).setText (lit "exported_from")
    (lit "hermes-internal")

/-- The body of the `try` of `api_collab_export`. -/
def storeExport (py : Platform) (moment : RequestMoment) (source : JsonObject) :
    Handler (JsonObject × LedgerEntry) := do
  onVault (CollabVault.ensureAuditClean py)
  let saved ← onVault (CollabVault.upsertTask py moment.upsert source)
  let server ← .read
  let entry ← onVault (CollabVault.appendEvent py moment.append server.localNodeId (lit "task")
    (taskPayload (.ofText (lit "export")) saved) (lit "local-export"))
  return (saved, entry)

/-- `api_collab_export` of a task that was found. -/
def exportAndRecord (py : Platform) (moment : RequestMoment) (task : LocalTask) : Handler Reply := do
  let source ← .ofExcept (exportedTask task)
  let outcome ← (storeExport py moment source).attempt vaultMessage?
  match outcome with
  | .error reason => return rejectedReply 503 reason
  | .ok (saved, entry) =>
      announce moment entry
      forwardIfReady py moment 0 (lit "task") (taskPayload (.ofText (lit "export")) saved)
      return taskReply saved entry

/-- `api_collab_export`; `clientIp` is the identity that its rate is limited by. -/
def apiCollabExport (py : Platform) (moment : RequestMoment) (clientIp : PyStr) (request : Request) :
    Handler Reply :=
  if request.writeAllowed then
    match request.retryAfter, request.body with
    | some retryAfter, _ => limitedReply moment "collab-export" clientIp retryAfter
    | none, none => return badRequest
    | none, some body => do
        let server ← .read
        match server.localTasks.find? fun task => task.id.val.pyStr py.unicode == requestedId py body with
        | none => return errorReply 404 "internal task not found"
        | some task => exportAndRecord py moment task
  else return errorReply 403 "owner or write-token required"

/-! ## Routes -/

/-- The routes that append to the ledger. -/
inductive Route where
  | relay
  | file
  | task
  | export (clientIp : PyStr)

/-- The handler of a route. -/
def Route.handler (py : Platform) (moment : RequestMoment) (request : Request) :
    Route → Handler Reply
  | .relay => apiRelay py moment request
  | .file => apiCollabFile py moment request
  | .task => apiCollabTask py moment request
  | .export clientIp => apiCollabExport py moment clientIp request

/-- A request as its client sees it: the reply, and the server after it. -/
def respond (py : Platform) (moment : RequestMoment) (request : Request) (route : Route)
    (server : MonitorServer) : Reply × MonitorServer :=
  match (route.handler py moment request).run server with
  | (.ok reply, after) => (reply, after)
  | (.error _, after) => (serverError, after)

end HermesMesh.Server
