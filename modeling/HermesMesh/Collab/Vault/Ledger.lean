import HermesMesh.Foundation.HashChain
import HermesMesh.Collab.Vault.State
import HermesMesh.Python.TextFile

/-!
# The ledger and its audit chain

`append_event` writes one line to the ledger and one to the audit file; every
audit row holds the hash of its ledger row and the hash of the row before it.
`verify_audit_chain` reads both files back and recomputes the chain.  It splits
the ledger with `str.splitlines`, whereas `_audit_lines` iterates over the file.
The interpreter's limits, which make `json.loads` give up on a text, are a parameter
of `_audit_lines` alone.
-/

namespace HermesMesh.Collab

open Python Foundation

/-- An entry of the ledger. -/
structure LedgerEntry where
  id : PyStr
  ts : PyStr
  node : PyStr
  op : PyStr
  payload : JsonObject
  sig : PyStr

/-- A row of the audit file. -/
structure AuditRow where
  ledgerId : PyStr
  prevHash : Json
  entryHash : PyStr
  hash : PyStr
  ts : PyStr

def LedgerEntry.fields (entry : LedgerEntry) : Dict PyStr Json :=
  [(lit "id", .str entry.id), (lit "ts", .str entry.ts), (lit "node", .str entry.node),
    (lit "op", .str entry.op), (lit "payload", entry.payload.toJson), (lit "sig", .str entry.sig)]

def LedgerEntry.toJson (entry : LedgerEntry) : Json := .obj entry.fields

def AuditRow.fields (row : AuditRow) : Dict PyStr Json :=
  [(lit "ledger_id", .str row.ledgerId), (lit "prev_hash", row.prevHash),
    (lit "entry_hash", .str row.entryHash), (lit "hash", .str row.hash), (lit "ts", .str row.ts)]

def AuditRow.toJson (row : AuditRow) : Json := .obj row.fields

/-! ## Hashes -/

/-- `_canonical`: `none` is a `ValueError`, for a float that JSON lacks or a lone surrogate. -/
def canonical (value : Json) : Option ByteArray := (value.dumpsStrict .canonical).bind encodeUtf8

/-- `hashlib.sha256(self._canonical(value)).hexdigest()` -/
def hashOf (py : Platform) (value : Json) : Option PyStr :=
  (canonical value).map fun bytes => (py.sha256 bytes).text

/-- What an audit row's own hash is taken of. -/
def linkJson (ledgerId prevHash : Json) (entryHash : PyStr) : Json :=
  .obj [(lit "ledger_id", ledgerId), (lit "prev_hash", prevHash),
    (lit "entry_hash", .str entryHash)]

/-- The chain of audit hashes, over ledger rows with the identifier their audit row has. -/
def auditChain (py : Platform) : HashChain PyStr (Json × Json) where
  genesis := []
  link previous entry := do
    let entryHash ← hashOf py entry.2
    hashOf py (linkJson entry.1 (.str previous) entryHash)

/-! ## Reading the files -/

/-- The values of the lines that are not blank; `none` when one of them is no JSON. -/
def decodeLines (lines : List PyStr) : Option (List Json) :=
  (lines.filter fun line => !isBlank line).mapM loads

/-- The rows of the ledger as `verify_audit_chain` reads them. -/
def ledgerRows (ledger : ByteArray) : Option (List Json) := do
  decodeLines (splitLines (← readText ledger))

/-- The fields of a `dict`. -/
def asObject : Json → Option (Dict PyStr Json)
  | .obj fields => some fields
  | _ => none

/-- The object that a line holds. -/
def objectOfLine (line : PyStr) : Option (Dict PyStr Json) := (loads line).bind asObject

/-- The objects on the lines that are not blank; `none` when one of them holds none. -/
def objectsOf (lines : List PyStr) : Option (List (Dict PyStr Json)) :=
  (lines.filter fun line => !isBlank line).mapM objectOfLine

/-- The loop of `_audit_lines` over the lines that are left: no rows at all when a line is
no JSON object.  `none` is what the method lets through, the `ValueError` or `RecursionError`
of a line that `json.loads` gives up on and the `UnicodeDecodeError` at the end of the
lines of a file that cannot be decoded. -/
def auditLoop (givesUp : PyStr → Bool) (readable : Bool) (rows : List (Dict PyStr Json)) :
    List PyStr → Option (List (Dict PyStr Json))
  | [] => if readable then some rows else none
  | line :: rest =>
      if isBlank line then auditLoop givesUp readable rows rest
      else if givesUp line then none
      else
        match objectOfLine line with
        | none => some []
        | some row => auditLoop givesUp readable (rows ++ [row]) rest

/-- `_audit_lines`, where `json.loads` gives up on some texts. -/
def auditLinesWithin (givesUp : PyStr → Bool) (audit : ByteArray) :
    Option (List (Dict PyStr Json)) :=
  auditLoop givesUp (readText audit).isSome [] (givenLines audit)

/-- `_audit_lines`, within the limits of the interpreter. -/
def auditLines (audit : ByteArray) : Option (List (Dict PyStr Json)) :=
  auditLinesWithin (fun _ => false) audit

/-- The last hash that `audit_status` reports:
`audit_rows[-1].get("hash") if audit_rows else ""` -/
def lastHash (rows : List (Dict PyStr Json)) : Json :=
  match rows.getLast? with
  | none => .str []
  | some row => (row.get? (lit "hash")).getD .null

/-- The hash that `append_event` continues from, an empty text before the first row. -/
def previousHash (rows : List (Dict PyStr Json)) : Json :=
  match rows.getLast? with
  | none => .str []
  | some row => (row.get? (lit "hash")).getD (.str [])

/-- One round of the loop of `verify_audit_chain`: the hash carried to the next row,
or `none` for `return False` and for the exceptions caught as such. -/
def checkRow (py : Platform) (previous : PyStr) (ledger : Json) (audit : Dict PyStr Json) :
    Option PyStr := do
  let fields ← asObject ledger
  guard (((audit.get? (lit "ledger_id")).getD .null).pyEq ((fields.get? (lit "id")).getD .null))
  guard (((audit.get? (lit "prev_hash")).getD (.str [])).pyEq (.str previous))
  let entryHash ← hashOf py ledger
  guard (((audit.get? (lit "entry_hash")).getD .null).pyEq (.str entryHash))
  let ledgerId ← audit.get? (lit "ledger_id")
  let current ← hashOf py (linkJson ledgerId (.str previous) entryHash)
  guard (((audit.get? (lit "hash")).getD .null).pyEq (.str current))
  return current

/-- The loop of `verify_audit_chain` over `zip(ledger_rows, audit_rows)`. -/
def checkRows (py : Platform) (previous : PyStr) : List (Json × Dict PyStr Json) → Option PyStr
  | [] => some previous
  | (ledger, audit) :: rest => do checkRows py (← checkRow py previous ledger audit) rest

/-- `verify_audit_chain` -/
def verifyAuditChain (py : Platform) (ledger audit : ByteArray) : Bool :=
  match ledgerRows ledger, auditLines audit with
  | some ledgerRows, some auditRows =>
      ledgerRows.length == auditRows.length &&
        (checkRows py [] (ledgerRows.zip auditRows)).isSome
  | _, _ => false

/-- What `state["messages"]` lists of an entry. -/
def LedgerEntry.toMessage (entry : LedgerEntry) : Message :=
  ⟨entry.id, entry.ts, entry.node, entry.op, entry.payload⟩

/-- Only the last messages are kept. -/
def VaultState.withMessage (message : Message) (state : VaultState) : VaultState :=
  { state with messages := lastN 200 (state.messages ++ [message]) }

/-- The state with the time of an entry, which is appended to a chain that verifies. -/
def VaultState.synced (entry : LedgerEntry) (state : VaultState) : VaultState :=
  { state with lastSync := some entry.ts, auditTampered := false }

namespace CollabVault

/-- The vault's files pass the check. -/
def chainVerified (py : Platform) (vault : CollabVault) : Bool :=
  verifyAuditChain py vault.ledger vault.audit

def setTampered (tampered : Bool) (vault : CollabVault) : CollabVault :=
  vault.setState fun state => { state with auditTampered := tampered }

/-- `ensure_audit_clean` -/
def ensureAuditClean (py : Platform) : Action CollabVault Fault Unit := do
  let vault ← .read
  if vault.chainVerified py then return
  else
    .modify (setTampered true)
    saveState
    .raise (.vaultError "audit chain tampered")

/-- The report of `audit_status`. -/
structure AuditStatus where
  verified : Bool
  entries : Nat
  expected : Nat
  lastHash : Json

/-- `audit_status` -/
def auditStatus (py : Platform) : Action CollabVault Fault AuditStatus := do
  let vault ← .read
  let verified := vault.chainVerified py
  let auditRows ← .ofOption .valueError (auditLines vault.audit)
  let text ← .ofOption .valueError (readText vault.ledger)
  let expected := ((splitLines text).filter fun line => !isBlank line).length
  .modify (setTampered (!verified))
  return ⟨verified, auditRows.length, expected, lastHash auditRows⟩

/-! ## Appending -/

/-- Append a line to the ledger file. -/
def appendLedger (line : PyStr) : Action CollabVault Fault Unit := do
  let bytes ← .ofOption .valueError (encodeUtf8 (line ++ [lineFeed]))
  .modify fun vault => { vault with ledger := vault.ledger ++ bytes }

/-- Append a line to the audit file. -/
def appendAudit (line : PyStr) : Action CollabVault Fault Unit := do
  let bytes ← .ofOption .valueError (encodeUtf8 (line ++ [lineFeed]))
  .modify fun vault => { vault with audit := vault.audit ++ bytes }

/-- The task an event is about: its `task` object, else the payload itself. -/
def eventTask (payload : JsonObject) : JsonObject :=
  (payload.getObject? (lit "task")).getD payload

/-- The node a relayed `join` names, unless it is empty or no text. -/
def joinedNode (payload : JsonObject) : Option PyStr :=
  match payload.get? (lit "node_id") with
  | some (.str joined) => if joined.isEmpty then none else some joined
  | _ => none

/-- The role a relayed `join` names. -/
def joinedRole (py : Platform) (payload : JsonObject) : PyStr :=
  (payload.getD (lit "role") (.str (lit "collab"))).pyStr py.unicode

/-- `_apply_event` -/
def applyEvent (py : Platform) (moment : Moment) (entry : LedgerEntry) :
    Action CollabVault Fault Unit := do
  if entry.op = lit "message" ∨ entry.op = lit "broadcast" then
    .modify (setState (VaultState.withMessage entry.toMessage))
  else if entry.op = lit "task" then
    let task := eventTask entry.payload
    if (task.getD (lit "id") .null).truthy then
      let _ ← upsertTask py moment task
  else if entry.op = lit "join" then
    match joinedNode entry.payload with
    | none => return
    | some joined => registerNode moment joined (joinedRole py entry.payload) 0

/-- `append_event` from `_apply_event` on: both files hold the event already. -/
def applyAndSave (py : Platform) (moment : Moment) (entry : LedgerEntry) :
    Action CollabVault Fault LedgerEntry := do
  applyEvent py moment entry
  .modify (setState (VaultState.synced entry))
  saveState
  return entry

/-- The entry `append_event` makes of its arguments. -/
def newEntry (moment : Moment) (node op : PyStr) (payload : JsonObject) (sig : PyStr) :
    LedgerEntry :=
  ⟨moment.uuid.text, moment.now.text, node, op, payload, sig⟩

/-- `append_event` -/
def appendEvent (py : Platform) (moment : Moment) (node op : PyStr) (payload : JsonObject)
    (sig : PyStr) : Action CollabVault Fault LedgerEntry := do
  ensureAuditClean py
  let vault ← .read
  let entry := newEntry moment node op payload sig
  let previous := previousHash (← .ofOption .valueError (auditLines vault.audit))
  let entryHash ← .ofOption .valueError (hashOf py entry.toJson)
  let auditHash ← .ofOption .valueError (hashOf py (linkJson (.str entry.id) previous entryHash))
  let auditEntry : AuditRow := ⟨entry.id, previous, entryHash, auditHash, entry.ts⟩
  appendLedger (Json.dumps .canonical entry.toJson)
  appendAudit (Json.dumps .canonical auditEntry.toJson)
  applyAndSave py moment entry

end CollabVault

end HermesMesh.Collab
