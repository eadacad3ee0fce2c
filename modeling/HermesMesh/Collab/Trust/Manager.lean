import HermesMesh.Collab.Trust.Policy
import HermesMesh.Foundation.Action
import HermesMesh.Python.FloatOrder

/-!
# Signed messages

`TrustManager` signs a message with the mesh key and verifies one: its fields, the age
of its timestamp, the payload policy, the signature, and that its nonce is new.  Nonces
are kept with the timestamps of their messages, in memory and in a file that a new
manager reads.  The limit on their number is not negative, and the file can be written.
-/

namespace HermesMesh.Collab

open Python Foundation

/-- `ALLOWED_OPS` -/
def allowedOps : List PyStr :=
  [lit "message", lit "task", lit "file_update", lit "broadcast", lit "join"]

structure TrustManager where
  meshKey : ByteArray
  longKey : 16 ≤ meshKey.size
  replayWindow : Int
  nonceLimit : Nat
  nonces : Dict PyStr PyFloat
  /-- What the file `nonces` holds. -/
  file : Dict PyStr PyFloat

/-- A signed message. -/
structure Envelope where
  nodeId : PyStr
  op : PyStr
  payload : JsonObject
  nonce : PyStr
  ts : JsonValue
  sig : PyStr

/-- The answer of `verify`. -/
structure Verdict where
  valid : Bool
  reason : String
  nodeId : Option PyStr

/-- The `OverflowError` of an integer too large for a float. -/
def raisedInf : PyFloat → Option PyFloat
  | .inf _ => none
  | seconds => some seconds

/-- `float(n)` of an integer, with its `OverflowError`. -/
def floatOfInt (value : Int) : Option PyFloat := raisedInf (PyFloat.ofInt value)

/-- `timestamp_seconds` of a text. -/
def timestampOfText (py : Platform) (text : PyStr) : Option PyFloat :=
  match py.isoTimestamp text with
  | .value seconds => some seconds
  | .valueError => py.floatOfText text
  | .overflowError => none

/-- `timestamp_seconds`; `none` is one of the exceptions that `verify` takes for an
invalid message. -/
def timestampSeconds (py : Platform) : Json → Option PyFloat
  | .int value => floatOfInt value
  | .float value => some value
  | .str text => timestampOfText py text
  | _ => none

/-- `signing_material`; `none` is a `ValueError`. -/
def signingMaterial (py : Platform) (nodeId op : PyStr) (payload : JsonObject) (nonce : PyStr)
    (ts : Json) : Option ByteArray := do
  let payloadText ← payload.toJson.dumpsStrict .canonical
  encodeUtf8 (joinWith (lit "|") [nodeId, op, payloadText, nonce, ts.pyStr py.unicode])

namespace TrustManager

/-- `nonce or secrets.token_urlsafe(18)` -/
def nonceOr (drawn : PyStr) : Option PyStr → PyStr
  | some (c :: rest) => c :: rest
  | _ => drawn

/-- `sign`, with the nonce that `secrets` draws and the time for where none are given. -/
def sign (py : Platform) (manager : TrustManager) (nodeId op : PyStr) (payload : JsonObject)
    (nonce : Option PyStr) (ts : Option JsonValue) (drawn : PyStr) (now : Binary64) :
    Except Fault Envelope :=
  if op ∉ allowedOps then .error (.trustError "operation not allowed")
  else
    match validatePayload py payload.toJson with
    | .error fault => .error (.trustError fault.text)
    | .ok () =>
        let nonce := nonceOr drawn nonce
        let ts := ts.getD (.ofFloat (.finite now))
        match signingMaterial py nodeId op payload nonce ts.val with
        | none => .error .valueError
        | some material =>
            .ok ⟨nodeId, op, payload, nonce, ts, (py.hmacSha256 manager.meshKey material).text⟩

/-- `str` in `ALLOWED_OPS`; `none` is the `TypeError` of a value that has no hash. -/
def isAllowedOp : Json → Option Bool
  | .str op => some (allowedOps.contains op)
  | .arr _ | .obj _ => none
  | _ => some false

/-- The timestamp is more than the window away from the clock. -/
@[irreducible] def isStale (manager : TrustManager) (now : Binary64) (ts : PyFloat) : Bool :=
  ((PyFloat.sub (.finite now) ts).abs).gtInt manager.replayWindow

/-- What `verify` finds out before it looks at the nonces. -/
inductive Examined where
  | refused (reason : String) (nodeId : Option PyStr)
  | genuine (nodeId nonce : PyStr) (ts : PyFloat)

/-- The `try` block of `verify`: the timestamp and the signature it computes, or the
reason to refuse. -/
def expectedSignature (py : Platform) (manager : TrustManager) (now : Binary64)
    (nodeId op : PyStr) (payload : JsonObject) (nonce : PyStr) (stamp : Json) :
    Except String (PyFloat × PyStr) :=
  match timestampSeconds py stamp with
  | none => .error "invalid message"
  | some ts =>
      if manager.isStale now ts then .error "stale timestamp"
      else
        match validatePayload py payload.toJson with
        | .error _ => .error "invalid message"
        | .ok () =>
            match signingMaterial py nodeId op payload nonce stamp with
            | none => .error "invalid message"
            | some material => .ok (ts, (py.hmacSha256 manager.meshKey material).text)

/-- `verify` of a message whose fields have their types, up to the nonces;
`compare_digest` takes no other text than ASCII. -/
def examineSigned (py : Platform) (manager : TrustManager) (now : Binary64) (nodeId op : PyStr)
    (payload : JsonObject) (nonce sig : PyStr) (stamp : Json) : Except Fault Examined :=
  match manager.expectedSignature py now nodeId op payload nonce stamp with
  | .error reason => .ok (.refused reason (some nodeId))
  | .ok (ts, expected) =>
      if sig.any (fun c => decide (128 ≤ c.val)) then .error .typeError
      else if expected = sig then .ok (.genuine nodeId nonce ts)
      else .ok (.refused "invalid signature" (some nodeId))

/-- `verify` of a message with a node, up to the nonces. -/
def examineFields (py : Platform) (manager : TrustManager) (now : Binary64) (nodeId : PyStr)
    (message : JsonObject) : Except Fault Examined :=
  match isAllowedOp (message.getD (lit "op") .null) with
  | none => .error .typeError
  | some false => .ok (.refused "operation not allowed" (some nodeId))
  | some true =>
      match message.get? (lit "op"), message.getObject? (lit "payload"),
        message.get? (lit "nonce"), message.get? (lit "sig") with
      | some (.str op), some payload, some (.str nonce), some (.str sig) =>
          if nonce.isEmpty then .ok (.refused "invalid message fields" (some nodeId))
          else manager.examineSigned py now nodeId op payload nonce sig (message.getD (lit "ts") .null)
      | _, _, _, _ => .ok (.refused "invalid message fields" (some nodeId))

/-- `verify` up to the nonces; no message is a value that is no `dict`. -/
def examine (py : Platform) (manager : TrustManager) (expected : Option PyStr) (now : Binary64) :
    Option JsonObject → Except Fault Examined
  | none => .ok (.refused "invalid message" none)
  | some message =>
      match message.get? (lit "node_id") with
      | some (.str nodeId) =>
          if nodeId.isEmpty ∨ ∃ other ∈ expected, other ≠ [] ∧ nodeId ≠ other then
            .ok (.refused "invalid node" none)
          else manager.examineFields py now nodeId message
      | _ => .ok (.refused "invalid node" none)

/-! ## Nonces -/

/-- The nonces that `_save_nonces` keeps, by the age of their timestamps. -/
def unexpired (manager : TrustManager) (now : Binary64) (nonces : Dict PyStr PyFloat) :
    Dict PyStr PyFloat :=
  nonces.filter fun item => (PyFloat.sub (.finite now) item.2).leInt (manager.replayWindow * 4)

/-- The latest nonces, where there are more than the limit. -/
def latest (manager : TrustManager) (nonces : Dict PyStr PyFloat) : Dict PyStr PyFloat :=
  if manager.nonceLimit < nonces.length then
    (nonces.mergeSort fun left right => right.2.le left.2).take manager.nonceLimit
  else nonces

/-- `_save_nonces` -/
def saveNonces (now : Binary64) : Action TrustManager Fault Unit :=
  .modify fun manager =>
    let nonces := manager.latest (manager.unexpired now manager.nonces)
    { manager with nonces := nonces, file := Json.sortFields nonces }

/-- `_remember_nonce` -/
def rememberNonce (nonce : PyStr) (ts : PyFloat) (now : Binary64) : Action TrustManager Fault Bool := do
  let manager ← .read
  match manager.nonces.get? nonce with
  | some _ => return false
  | none =>
      .modify fun manager => { manager with nonces := manager.nonces.set nonce ts }
      saveNonces now
      return true

/-- `verify`; the clock is read once for the age of the message and once for that of
the nonces. -/
def verify (py : Platform) (expected : Option PyStr) (now later : Binary64)
    (message : Option JsonObject) : Action TrustManager Fault Verdict := do
  let manager ← .read
  match manager.examine py expected now message with
  | .error fault => .raise fault
  | .ok (.refused reason nodeId) => return ⟨false, reason, nodeId⟩
  | .ok (.genuine nodeId nonce ts) =>
      let isNew ← rememberNonce nonce ts later
      if isNew then return ⟨true, "verified", some nodeId⟩
      else return ⟨false, "replayed nonce", some nodeId⟩

/-- A new manager over the same directory. -/
def restart (manager : TrustManager) : TrustManager := { manager with nonces := manager.file }

end TrustManager

end HermesMesh.Collab
