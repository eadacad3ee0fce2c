import HermesMesh.Foundation.Action
import HermesMesh.Platform

/-!
# Enrollment and its four stores

`join` takes a join code: it marks the code as used, has a certificate issued, stores
the hash of a new token and registers the node with the vault, one store after the
other.  The stores hold whatever JSON was written to them, so each access to a value
raises where Python's does.  The file system refuses nothing here; a file is known by
the object that its text decodes to.
-/

namespace HermesMesh.Collab

open Python Foundation

/-- What a call of `join` can raise. -/
inductive AuthFault where
  /-- `AuthError`, and `AuthStoreError`, which is one. -/
  | authError (message : String)
  /-- `AuthError(str(exc)) from exc` -/
  | registration (cause : AuthFault)
  | identityError (message : String)
  | vaultError (message : String)
  | attributeError
  | keyError
  | typeError
  | valueError
  | overflowError
  /-- `json.loads` gives up on the depth of a text or on the digits of a number. -/
  | interpreterLimit

def AuthFault.isAuthError : AuthFault → Bool
  | .authError _ | .registration _ => true
  | _ => false

/-- An encrypted file of `MeshAuth`. -/
inductive StoreFile where
  /-- Not a text that the key has encrypted; an empty file is one of these. -/
  | invalid
  /-- Its text is not JSON in UTF-8. -/
  | unreadable
  | beyondLimits
  | decoded (value : Json)

/-- The stores of an enrollment: those with a copy in memory have both parts. -/
structure AuthStores where
  codes : StoreFile
  tokens : StoreFile
  certificates : Dict PyStr Json
  certificateFile : Dict PyStr Json
  /-- The state of the vault, with the nodes under `nodes`. -/
  state : Dict PyStr Json
  stateFile : Dict PyStr Json

/-- What a call finds out from outside the stores.  The clock is read once or twice for
each entry; instants are whole numbers of microseconds. -/
structure JoinMoment where
  /-- `datetime.fromisoformat(text.replace("Z", "+00:00")).astimezone(utc)` -/
  parseIso : PyStr → Parsed Int
  clock : Nat → Int × Int
  tokenClock : Nat → Int
  usedAt : PlainText
  token : PlainText
  tokenIssuedAt : PlainText
  tokenExpiresAt : PlainText
  publicKey : PlainText
  issuedAt : PlainText
  expiresAt : PlainText
  signature : PlainText
  now : PlainText

/-- What `join` returns. -/
structure Credentials where
  nodeId : PyStr
  token : PyStr
  expiresAt : PyStr
  role : PyStr
  certificate : Dict PyStr Json

/-! ## Values out of a store -/

/-- A value whose `get` is called. -/
def asDict : Json → Except AuthFault (Dict PyStr Json)
  | .obj fields => .ok fields
  | _ => .error .attributeError

/-- The values that a `for` loop takes from a value. -/
def iterate : Json → Except AuthFault (List Json)
  | .arr items => .ok items
  | .obj fields => .ok (fields.map fun field => .str field.1)
  | .str text => .ok (text.map fun c => .str [c])
  | _ => .error .typeError

/-- `fields.get(key, default)` -/
def getOr (key : PyStr) (default : Json) (fields : Dict PyStr Json) : Json :=
  (fields.get? key).getD default

/-- `_read_store` -/
def readStore (default : Dict PyStr Json) : StoreFile → Except AuthFault (Dict PyStr Json)
  | .invalid => .error (.authError "encrypted auth store invalid")
  | .unreadable => .error (.authError "encrypted auth store unreadable")
  | .beyondLimits => .error .interpreterLimit
  | .decoded (.obj fields) => .ok fields
  | .decoded _ => .ok default

/-- `_hash` -/
def hashText (py : Platform) (text : PyStr) : Except AuthFault PyStr :=
  match encodeUtf8 text with
  | some bytes => .ok (py.sha256 bytes).text
  | none => .error .valueError

/-- `hmac.compare_digest(value, digest)`; a digest is ASCII. -/
def compareDigest (value : Json) (digest : PyStr) : Except AuthFault Bool :=
  match value with
  | .str text => if text.all (fun c => c.val < 128) then .ok (text == digest) else .error .typeError
  | _ => .error .typeError

namespace JoinMoment

/-- `_parse_iso(value)` -/
def instant (moment : JoinMoment) : Json → Except AuthFault Int
  | .str text =>
      match moment.parseIso text with
      | .value result => .ok result
      | .valueError => .error .valueError
      | .overflowError => .error .overflowError
  | _ => .error .attributeError

/-- `_parse_iso(item["expires_at"])` -/
def expiry (moment : JoinMoment) (item : Dict PyStr Json) : Except AuthFault Int :=
  match item.get? (lit "expires_at") with
  | some value => moment.instant value
  | none => .error .keyError

end JoinMoment

/-! ## The join codes -/

/-- `_valid_node_id` -/
def validNodeId (py : Platform) (nodeId : PyStr) : Bool :=
  (3 ≤ nodeId.length && nodeId.length ≤ 64) &&
    nodeId.all fun c => py.unicode.isAlnum c || c.val == 95 || c.val == 45

/-- `_parse_iso(item["expires_at"]) > now`, and `False` where that raises one of
`KeyError`, `TypeError` and `ValueError`. -/
def isUnexpired (moment : JoinMoment) (now : Int) (item : Dict PyStr Json) : Except AuthFault Bool :=
  match moment.expiry item with
  | .ok expiry => .ok (decide (now < expiry))
  | .error .keyError | .error .typeError | .error .valueError => .ok false
  | .error fault => .error fault

/-- `item.get("node_id") in (None, node_id)` -/
def isFor (nodeId : PyStr) (item : Dict PyStr Json) : Bool :=
  match getOr (lit "node_id") .null item with
  | .null => true
  | .str bound => bound == nodeId
  | _ => false

/-- The entry passes the check of the expiry that the caller asks for. -/
def fitsRequest (moment : JoinMoment) (now : Int) (expiresAt : Json) (item : Dict PyStr Json) :
    Except AuthFault Bool :=
  if expiresAt.truthy then
    match moment.instant expiresAt with
    | .ok requested =>
        if requested ≤ now then .ok false
        else do
          let expiry ← moment.expiry item
          return requested == expiry
    | .error .typeError | .error .valueError => .ok false
    | .error fault => .error fault
  else .ok true

/-- Whether the loop of `join` stops at the entry. -/
def acceptsItem (py : Platform) (moment : JoinMoment) (nodeId code : PyStr) (expiresAt : Json)
    (index : Nat) (item : Dict PyStr Json) : Except AuthFault Bool :=
  if (getOr (lit "used_at") .null item).truthy then .ok false
  else do
    let digest ← hashText py code
    let same ← compareDigest (getOr (lit "code_hash") (.str []) item) digest
    if same then
      let valid ← isUnexpired moment (moment.clock index).1 item
      if valid && isFor nodeId item then
        fitsRequest moment (moment.clock index).2 expiresAt item
      else return false
    else return false

/-- The first entry that the loop stops at, with its place. -/
def findCode (py : Platform) (moment : JoinMoment) (nodeId code : PyStr) (expiresAt : Json) :
    (index : Nat) → List Json → Except AuthFault (Option (Nat × Dict PyStr Json))
  | _, [] => .ok none
  | index, item :: rest => do
      let item ← asDict item
      let accepted ← acceptsItem py moment nodeId code expiresAt index item
      if accepted then return some (index, item)
      else findCode py moment nodeId code expiresAt (index + 1) rest

/-- The store with the entry marked as used. -/
def markUsed (moment : JoinMoment) (entries : List Json) (index : Nat) (item : Dict PyStr Json)
    (store : Dict PyStr Json) : Dict PyStr Json :=
  store.set (lit "codes")
    (.arr (entries.set index (.obj (item.set (lit "used_at") (.str moment.usedAt.text)))))

/-! ## Certificates, tokens and nodes -/

/-- The characters of the identifiers that are issued certificates. -/
def isIdChar (c : CodePoint) : Bool := asciiAlnum c || c.val == 95 || c.val == 45

/-- The checks of `issue`. -/
def checkIssue (nodeId : PyStr) (certificates : Dict PyStr Json) : Except AuthFault Unit :=
  if nodeId.isEmpty || !nodeId.all isIdChar then .error (.identityError "invalid node_id")
  else
    match certificates.get? nodeId with
    | none => .ok ()
    | some certificate => do
        let certificate ← asDict certificate
        if (getOr (lit "revoked") .null certificate).truthy then return
        else .error (.identityError "node certificate already exists")

def JoinMoment.certificate (moment : JoinMoment) (nodeId : PyStr) : Dict PyStr Json :=
  [(lit "node_id", .str nodeId), (lit "public_key", .str moment.publicKey.text),
    (lit "issued_at", .str moment.issuedAt.text), (lit "expires_at", .str moment.expiresAt.text),
    (lit "revoked", .bool false), (lit "signature", .str moment.signature.text)]

/-- The text of a file that is written in UTF-8 without escapes. -/
def plainText (fields : Dict PyStr Json) : PyStr := Json.dumps .canonical (.obj fields)

/-- `_save_nodes` -/
def saveCertificates : Action AuthStores AuthFault Unit := do
  let stores ← .read
  match encodeUtf8 (plainText stores.certificates) with
  | some _ => .modify fun stores => { stores with certificateFile := stores.certificates }
  | none => .raise .valueError

/-- `issue` -/
def issue (moment : JoinMoment) (nodeId : PyStr) : Action AuthStores AuthFault (Dict PyStr Json) := do
  let stores ← .read
  .ofExcept (checkIssue nodeId stores.certificates)
  .modify fun stores =>
    { stores with certificates := stores.certificates.set nodeId (.obj (moment.certificate nodeId)) }
  saveCertificates
  return moment.certificate nodeId

def JoinMoment.tokenRecord (moment : JoinMoment) (nodeId digest : PyStr) : Dict PyStr Json :=
  [(lit "node_id", .str nodeId), (lit "token_hash", .str digest),
    (lit "issued_at", .str moment.tokenIssuedAt.text),
    (lit "expires_at", .str moment.tokenExpiresAt.text), (lit "revoked", .bool false)]

/-- The tokens that are kept: not revoked and not expired. -/
def liveTokens (moment : JoinMoment) : (index : Nat) → List Json → Except AuthFault (List Json)
  | _, [] => .ok []
  | index, item :: rest => do
      let fields ← asDict item
      let live ← if (getOr (lit "revoked") .null fields).truthy then .ok false
        else (moment.expiry fields).map fun expiry => decide (moment.tokenClock index < expiry)
      let kept ← liveTokens moment (index + 1) rest
      return if live then item :: kept else kept

/-- The tokens that are kept of those in the file, with the rest of the store. -/
def readTokens (moment : JoinMoment) (file : StoreFile) :
    Except AuthFault (Dict PyStr Json × List Json) := do
  let store ← readStore [(lit "tokens", .arr [])] file
  let entries ← iterate (getOr (lit "tokens") (.arr []) store)
  let kept ← liveTokens moment 0 entries
  return (store, kept)

/-- `join` stores the hash of the token. -/
def addToken (py : Platform) (moment : JoinMoment) (nodeId : PyStr) :
    Action AuthStores AuthFault Unit := do
  let digest ← .ofExcept (hashText py moment.token.text)
  let stores ← .read
  let (store, kept) ← .ofExcept (readTokens moment stores.tokens)
  .modify fun stores => { stores with tokens := .decoded (.obj
    (store.set (lit "tokens") (.arr (kept ++ [.obj (moment.tokenRecord nodeId digest)])))) }

/-- `state.get("nodes", {})`; the state always has the key. -/
def nodesOf (state : Dict PyStr Json) : Except AuthFault (Dict PyStr Json) :=
  asDict (getOr (lit "nodes") (.obj []) state)

/-- The record of a node that `register_node` writes, given the one it finds. -/
def nodeRecord (moment : JoinMoment) (existing : Option Json) : Except AuthFault (Dict PyStr Json) := do
  let existing ← asDict (existing.getD (.obj []))
  return [(lit "status", .str (lit "active")),
    (lit "joined_at", getOr (lit "joined_at") (.str moment.now.text) existing),
    (lit "last_seen", .str moment.now.text), (lit "role", .str (lit "collab")),
    (lit "ttl", .int 86400)]

/-- `existing and existing.get("status") == "revoked"` -/
def refusesNode (existing : Json) : Except AuthFault Bool :=
  if existing.truthy then do
    let existing ← asDict existing
    return (getOr (lit "status") .null existing).pyEq (.str (lit "revoked"))
  else .ok false

/-- `_save_state` -/
def saveVaultState : Action AuthStores AuthFault Unit := do
  let stores ← .read
  match encodeUtf8 (plainText stores.state) with
  | some _ => .modify fun stores => { stores with stateFile := stores.state }
  | none => .raise .valueError

/-- `register_node`, for the role `collab` and a day. -/
def register (moment : JoinMoment) (nodeId : PyStr) : Action AuthStores AuthFault Unit := do
  let stores ← .read
  let nodes ← .ofExcept (nodesOf stores.state)
  let refused ← .ofExcept (refusesNode ((nodes.get? nodeId).getD .null))
  if refused then .raise (.vaultError "node is revoked")
  else do
    let record ← .ofExcept (nodeRecord moment (nodes.get? nodeId))
    .modify fun stores => { stores with
      state := stores.state.set (lit "nodes") (.obj (nodes.set nodeId (.obj record))) }
    saveVaultState

/-! ## `join` -/

/-- What the checks of `join` find. -/
structure JoinMatch where
  nodeId : PyStr
  store : Dict PyStr Json
  entries : List Json
  index : Nat
  item : Dict PyStr Json

/-- The checks of the arguments. -/
def checkArguments (py : Platform) : (nodeId code : Json) → Except AuthFault (PyStr × PyStr)
  | .str nodeId, .str code =>
      if validNodeId py nodeId && !code.isEmpty then .ok (nodeId, code)
      else .error (.authError "invalid or expired code")
  | _, _ => .error (.authError "invalid or expired code")

/-- The code that `join` takes, for a node that the vault does not know. -/
def findMatch (py : Platform) (moment : JoinMoment) (nodeId code expiresAt : Json)
    (stores : AuthStores) : Except AuthFault JoinMatch := do
  let (nodeId, code) ← checkArguments py nodeId code
  let store ← readStore [(lit "codes", .arr [])] stores.codes
  let entries ← iterate (getOr (lit "codes") (.arr []) store)
  let found ← findCode py moment nodeId code expiresAt 0 entries
  match found with
  | none => .error (.authError "invalid or expired code")
  | some (index, item) =>
      let nodes ← nodesOf stores.state
      if ((nodes.get? nodeId).getD .null).truthy then .error (.authError "node already registered")
      else return ⟨nodeId, store, entries, index, item⟩

/-- `except IdentityError as exc: raise AuthError(str(exc)) from exc` -/
def refuseIdentity : AuthFault → AuthFault
  | .identityError message => .authError message
  | fault => fault

/-- The writes of `join`. -/
def enroll (py : Platform) (moment : JoinMoment) (found : JoinMatch) :
    Action AuthStores AuthFault Credentials := do
  let certificate ← (issue moment found.nodeId).catching fun fault => .raise (refuseIdentity fault)
  .modify fun stores => { stores with codes := .decoded (.obj
    (markUsed moment found.entries found.index found.item found.store)) }
  addToken py moment found.nodeId
  (register moment found.nodeId).catching fun fault => .raise (.registration fault)
  return ⟨found.nodeId, moment.token.text, moment.tokenExpiresAt.text, lit "collab", certificate⟩

/-- `MeshAuth.join` -/
def join (py : Platform) (moment : JoinMoment) (nodeId code expiresAt : Json) :
    Action AuthStores AuthFault Credentials := do
  let stores ← .read
  let found ← .ofExcept (findMatch py moment nodeId code expiresAt stores)
  enroll py moment found

end HermesMesh.Collab
