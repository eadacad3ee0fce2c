import HermesMesh.Collab.Vault.Audit
import HermesMesh.Collab.Vault.Operations

/-!
# What `append_event` does

On a vault whose chain verifies, an event that can be encoded is written to both
files before it is applied; only then can applying it refuse it.
-/

namespace HermesMesh.Collab

open Python Foundation Foundation.Action CollabVault

variable {py : Platform}

theorem hashOf_isSome_of_encodable {value : Json} (finite : value.isFinite = true)
    (strings : value.AllStrings Encodable) : ∃ hash, hashOf py value = some hash := by
  obtain ⟨bytes, encoded⟩ := encodable_iff.mp (Json.encodable_canonical strings)
  exact ⟨_, hashOf_eq_some.mpr ⟨finite, bytes, encoded, rfl⟩⟩

/-- A link of texts can always be hashed. -/
theorem hashOf_linkJson {ledgerId previous entryHash : PyStr} (idPlain : ∀ c ∈ ledgerId, IsPlain c)
    (prevPlain : ∀ c ∈ previous, IsPlain c) (hashPlain : ∀ c ∈ entryHash, IsPlain c) :
    ∃ hash, hashOf py (linkJson (.str ledgerId) (.str previous) entryHash) = some hash := by
  refine hashOf_isSome_of_encodable rfl ?_
  exact ⟨encodable_lit _, encodable_of_plain idPlain, encodable_lit _,
    encodable_of_plain prevPlain, encodable_lit _, encodable_of_plain hashPlain, trivial⟩

/-- A property of printable ASCII that the arguments have holds of all strings of the entry. -/
theorem allStrings_newEntry {good : PyStr → Prop}
    (plain : ∀ text, (∀ c ∈ text, IsPlain c) → good text) {moment : Moment} {node op : PyStr}
    {payload : JsonObject} {sig : PyStr} (nodeGood : good node) (opGood : good op)
    (payloadGood : payload.toJson.AllStrings good) (sigGood : good sig) :
    (newEntry moment node op payload sig).toJson.AllStrings good :=
  ⟨plain _ (isPlain_lit "id" (by decide)), plain _ moment.uuid.plain,
    plain _ (isPlain_lit "ts" (by decide)), plain _ moment.now.plain,
    plain _ (isPlain_lit "node" (by decide)), nodeGood, plain _ (isPlain_lit "op" (by decide)),
    opGood, plain _ (isPlain_lit "payload" (by decide)), payloadGood,
    plain _ (isPlain_lit "sig" (by decide)), sigGood, trivial⟩

theorem encodable_auditRow {row : AuditRow} {previous : PyStr} (isText : row.prevHash = .str previous)
    (idPlain : ∀ c ∈ row.ledgerId, IsPlain c) (prevPlain : ∀ c ∈ previous, IsPlain c)
    (entryPlain : ∀ c ∈ row.entryHash, IsPlain c) (hashPlain : ∀ c ∈ row.hash, IsPlain c)
    (tsPlain : ∀ c ∈ row.ts, IsPlain c) : Encodable (row.toJson.dumps .canonical) := by
  refine Json.encodable_canonical ?_
  rw [AuditRow.toJson, AuditRow.fields, isText]
  exact ⟨encodable_lit _, encodable_of_plain idPlain, encodable_lit _,
    encodable_of_plain prevPlain, encodable_lit _, encodable_of_plain entryPlain,
    encodable_lit _, encodable_of_plain hashPlain, encodable_lit _, encodable_of_plain tsPlain,
    trivial⟩

/-- After the accepted rows the chain continues from the last digest, a plain text. -/
theorem previousHash_of_verified {ledger audit : ByteArray}
    (verified : verifyAuditChain py ledger audit = true) :
    ∃ rows previous, auditLines audit = some rows ∧ previousHash rows = .str previous ∧
      ∀ c ∈ previous, IsPlain c := by
  obtain ⟨_, rows, _, previous, -, isRows, -, -, head, ends⟩ := head_of_verified verified
  exact ⟨rows, previous, isRows, previousHash_of_endsWith ends, plain_of_head head⟩

/-! ## The call -/

namespace CollabVault

/-- The vault with the finding that its chain does not verify, saved if it can be. -/
def foundTampered (vault : CollabVault) : CollabVault := (saveState.run (setTampered true vault)).2

/-- What is raised with that finding. -/
def tamperedFault (vault : CollabVault) : Fault :=
  if (setTampered true vault).state.Writable then .vaultError "audit chain tampered" else .valueError

theorem tamperedFault_of_writable {vault : CollabVault} (writable : vault.state.Writable) :
    vault.tamperedFault = .vaultError "audit chain tampered" := by
  rw [tamperedFault, setTampered, state_setState, if_pos (writable.tampered true)]

theorem foundTampered_cases (vault : CollabVault) :
    vault.foundTampered = setTampered true vault ∨
      vault.foundTampered =
        { setTampered true vault with stateFile := .saved (setTampered true vault).state } := by
  unfold foundTampered
  by_cases writable : (setTampered true vault).state.Writable
  · exact .inr (congrArg Prod.snd (run_saveState writable))
  · exact .inl (congrArg Prod.snd (run_saveState_unwritable writable))

theorem files_foundTampered (vault : CollabVault) : vault.foundTampered.files = vault.files := by
  rcases foundTampered_cases vault with same | same
  · rw [same]
    rfl
  · rw [same]
    rfl

@[simp] theorem ledger_foundTampered (vault : CollabVault) :
    vault.foundTampered.ledger = vault.ledger :=
  congrArg (fun files => files.2.1) (files_foundTampered vault)

@[simp] theorem audit_foundTampered (vault : CollabVault) :
    vault.foundTampered.audit = vault.audit :=
  congrArg (fun files => files.2.2) (files_foundTampered vault)

@[simp] theorem state_foundTampered (vault : CollabVault) :
    vault.foundTampered.state = { vault.state with auditTampered := true } := by
  rcases foundTampered_cases vault with same | same
  · rw [same]
    rfl
  · rw [same]
    rfl

theorem run_ensureAuditClean_of_verified {vault : CollabVault}
    (verified : vault.chainVerified py = true) :
    (ensureAuditClean py).run vault = (.ok (), vault) := by
  rw [ensureAuditClean, run_bind_ok (run_read _), if_pos verified]
  rfl

theorem run_ensureAuditClean_of_tampered {vault : CollabVault}
    (tampered : vault.chainVerified py = false) :
    (ensureAuditClean py).run vault = (.error vault.tamperedFault, vault.foundTampered) := by
  rw [ensureAuditClean, run_bind_ok (run_read _), if_neg (by simp [tampered]),
    run_bind_ok (run_modify _ _), foundTampered, tamperedFault]
  by_cases writable : (setTampered true vault).state.Writable
  · rw [run_bind_ok (run_saveState writable), run_saveState writable, if_pos writable, run_raise]
  · rw [run_bind_error (run_saveState_unwritable writable), run_saveState_unwritable writable,
      if_neg writable]

end CollabVault

/-- A vault whose chain does not verify refuses every event and writes to no file
but `state.json`. -/
theorem run_appendEvent_tampered {vault : CollabVault} (tampered : vault.chainVerified py = false)
    (moment : Moment) (node op : PyStr) (payload : JsonObject) (sig : PyStr) :
    (appendEvent py moment node op payload sig).run vault =
      (.error vault.tamperedFault, vault.foundTampered) := by
  rw [appendEvent, run_bind_error (run_ensureAuditClean_of_tampered tampered)]

/-- An entry that cannot be encoded raises before anything is written. -/
theorem run_appendEvent_unencodable {vault : CollabVault}
    (verified : vault.chainVerified py = true) {moment : Moment} {node op : PyStr}
    {payload : JsonObject} {sig : PyStr}
    (unencodable : hashOf py (newEntry moment node op payload sig).toJson = none) :
    (appendEvent py moment node op payload sig).run vault = (.error .valueError, vault) := by
  obtain ⟨rows, previous, isRows, -, -⟩ := previousHash_of_verified verified
  simp [appendEvent, ensureAuditClean, run_bind, verified, isRows, unencodable]

/-- The vault with one more line in each file. -/
def CollabVault.withLines (vault : CollabVault) (ledgerBytes auditBytes : ByteArray) :
    CollabVault :=
  { vault with ledger := vault.ledger ++ ledgerBytes, audit := vault.audit ++ auditBytes }

/-- Any other event is written to both files and then applied. -/
theorem run_appendEvent_recorded {vault : CollabVault} (verified : vault.chainVerified py = true)
    {moment : Moment} {node op : PyStr} {payload : JsonObject} {sig entryHash : PyStr}
    (hashed : hashOf py (newEntry moment node op payload sig).toJson = some entryHash) :
    ∃ rows previous hash ledgerBytes auditBytes,
      auditLines vault.audit = some rows ∧ previousHash rows = .str previous ∧
      hashOf py (linkJson (.str moment.uuid.text) (.str previous) entryHash) = some hash ∧
      encodeUtf8 ((newEntry moment node op payload sig).toJson.dumps .canonical ++ [lineFeed]) =
        some ledgerBytes ∧
      encodeUtf8 ((AuditRow.mk moment.uuid.text (.str previous) entryHash hash
        moment.now.text).toJson.dumps .canonical ++ [lineFeed]) = some auditBytes ∧
      (appendEvent py moment node op payload sig).run vault =
        (applyAndSave py moment (newEntry moment node op payload sig)).run
          (vault.withLines ledgerBytes auditBytes) := by
  obtain ⟨rows, previous, isRows, isPrevious, prevPlain⟩ := previousHash_of_verified verified
  have lineEnd : Encodable [lineFeed] := by
    simpa using CodePoint.toChar?_of_lt (c := lineFeed) (by decide)
  have entryEncodable : Encodable ((newEntry moment node op payload sig).toJson.dumps .canonical) := by
    obtain ⟨-, bytes, encoded, -⟩ := hashOf_eq_some.mp hashed
    exact encodable_iff.mpr ⟨bytes, encoded⟩
  obtain ⟨hash, linkHash⟩ := @hashOf_linkJson py _ _ _ moment.uuid.plain prevPlain
    (plain_of_hash hashed)
  have rowEncodable := @encodable_auditRow
    ⟨moment.uuid.text, .str previous, entryHash, hash, moment.now.text⟩ previous rfl
    moment.uuid.plain prevPlain (plain_of_hash hashed) (plain_of_hash linkHash) moment.now.plain
  obtain ⟨ledgerBytes, ledgerEq⟩ :=
    encodable_iff.mp (encodable_append.mpr ⟨entryEncodable, lineEnd⟩)
  obtain ⟨auditBytes, auditEq⟩ := encodable_iff.mp (encodable_append.mpr ⟨rowEncodable, lineEnd⟩)
  refine ⟨rows, previous, hash, ledgerBytes, auditBytes, isRows, isPrevious, linkHash, ledgerEq,
    auditEq, ?_⟩
  simp only [appendEvent, ensureAuditClean, run_bind, run_read, verified, if_true, run_pure,
    isRows, run_ofOption_some, hashed, isPrevious]
  have idText : (newEntry moment node op payload sig).id = moment.uuid.text := rfl
  have tsText : (newEntry moment node op payload sig).ts = moment.now.text := rfl
  simp only [idText, tsText, linkHash, run_ofOption_some, appendLedger, appendAudit, run_bind,
    ledgerEq, auditEq, run_modify]
  rfl

end HermesMesh.Collab
