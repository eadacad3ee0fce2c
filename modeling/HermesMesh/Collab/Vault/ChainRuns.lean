import HermesMesh.Foundation.Machine
import HermesMesh.Collab.Vault.Append

/-!
# The audit chain over whole runs

Every call of `append_event` on an intact vault adds one line to each file.  The
lines are read back as written unless a string of the event holds one of the
three line breaks that JSON leaves unescaped and at which `str.splitlines`, but
not the other readers of these files, ends a line.
-/

namespace HermesMesh.Collab

open Python Foundation Foundation.Action CollabVault

variable {py : Platform}

/-! ## The recorded rows -/

/-- A ledger entry with its audit row. -/
abbrev Record := LedgerEntry × AuditRow

namespace Record

def ledgerLine (record : Record) : PyStr := record.1.toJson.dumps .canonical

def auditLine (record : Record) : PyStr := record.2.toJson.dumps .canonical

/-- The row of the audit file as it is read back. -/
def auditFields (record : Record) : Dict PyStr Json :=
  Json.orderFields .canonical (Json.orderedFields .canonical record.2.fields)

/-- Both rows as they are read back. -/
def rows (record : Record) : Json × Dict PyStr Json :=
  (record.1.toJson.ordered .canonical, record.auditFields)

end Record

theorem distinct_entry (entry : LedgerEntry) : entry.toJson.Distinct := by
  refine ⟨?_, trivial, trivial, trivial, trivial, entry.payload.distinct, trivial, trivial⟩
  simp only [LedgerEntry.fields, List.map_cons, List.map_nil, List.nodup_cons, List.mem_cons, lit_inj]
  decide

theorem distinct_auditRow {row : AuditRow} {previous : PyStr}
    (isText : row.prevHash = .str previous) : row.toJson.Distinct := by
  rw [AuditRow.toJson, AuditRow.fields, isText]
  refine ⟨?_, trivial, trivial, trivial, trivial, trivial, trivial⟩
  simp only [List.map_cons, List.map_nil, List.nodup_cons, List.mem_cons, lit_inj]
  decide

/-- The files hold these records, one line each, and their chain is accepted. -/
structure Recorded (py : Platform) (records : List Record) (vault : CollabVault) : Prop where
  ledger : encodeUtf8 (joinRows (records.map Record.ledgerLine)) = some vault.ledger
  audit : encodeUtf8 (joinRows (records.map Record.auditLine)) = some vault.audit
  unbroken : ∀ record ∈ records, ∀ c ∈ record.ledgerLine, isLineBreak c = false
  distinct : ∀ record ∈ records, record.2.toJson.Distinct
  checked : ∃ last, checkRows py [] (records.map Record.rows) = some last

/-! ## Reading the files back -/

/-- A file of lines without control characters is read as it was written. -/
theorem readText_joinRows {lines : List PyStr} {bytes : ByteArray}
    (uncontrolled : ∀ line ∈ lines, ∀ c ∈ line, 32 ≤ c.val)
    (encoded : encodeUtf8 (joinRows lines) = some bytes) :
    readText bytes = some (joinRows lines) := by
  have clean : carriageReturn ∉ joinRows lines := by
    intro member
    obtain ⟨line, inLines, inLine⟩ := List.mem_flatMap.mp member
    rcases List.mem_append.mp inLine with inText | isEnd
    · have large := uncontrolled line inLines _ inText
      simp [carriageReturn] at large
    · simp [carriageReturn, lineFeed] at isEnd
  rw [readText, decodeUtf8_of_encodeUtf8 encoded, Option.map_some, translateNewlines_eq_self clean]

theorem not_isBlank_obj (fields : Dict PyStr Json) (ws : PyStr) :
    isBlank (Json.dumps .canonical (.obj fields) ++ ws) = false := by
  have brace : isSpace openBrace = false := by decide
  simp [Json.dumps, isBlank, brace]

/-- Lines that each hold one object are decoded to these objects. -/
theorem decodeLines_objects {objects : List (Dict PyStr Json)} {ws : PyStr}
    (space : ∀ c ∈ ws, JsonScanner.isWs c = true)
    (distinct : ∀ fields ∈ objects, (Json.obj fields).Distinct) :
    decodeLines (objects.map fun fields => Json.dumps .canonical (.obj fields) ++ ws) =
      some (objects.map fun fields => (Json.obj fields).ordered .canonical) := by
  induction objects with
  | nil => rfl
  | cons fields rest ih =>
      have first := Json.loads_canonical (distinct fields List.mem_cons_self) space
      have others := ih fun other member => distinct other (List.mem_cons_of_mem _ member)
      unfold decodeLines at others ⊢
      rw [List.map_cons, List.filter_cons_of_pos (by simp [not_isBlank_obj]), List.mapM_cons, first,
        others]
      rfl

theorem mapM_asObject (objects : List (Dict PyStr Json)) :
    (objects.map Json.obj).mapM asObject = some objects := by
  induction objects with
  | nil => rfl
  | cons fields rest ih => rw [List.map_cons, List.mapM_cons, ih]; rfl

namespace Recorded

variable {records : List Record} {vault : CollabVault}

theorem ledgerText (recorded : Recorded py records vault) :
    readText vault.ledger = some (joinRows (records.map Record.ledgerLine)) := by
  refine readText_joinRows (fun line member => ?_) recorded.ledger
  obtain ⟨record, -, rfl⟩ := List.mem_map.mp member
  exact Json.uncontrolled_canonical _

theorem auditText (recorded : Recorded py records vault) :
    readText vault.audit = some (joinRows (records.map Record.auditLine)) := by
  refine readText_joinRows (fun line member => ?_) recorded.audit
  obtain ⟨record, -, rfl⟩ := List.mem_map.mp member
  exact Json.uncontrolled_canonical _

/-- `str.splitlines` finds the lines of the ledger. -/
theorem ledgerLines (recorded : Recorded py records vault) :
    splitLines (joinRows (records.map Record.ledgerLine)) = records.map Record.ledgerLine := by
  refine splitLines_joinRows fun line member => ?_
  obtain ⟨record, inRecords, rfl⟩ := List.mem_map.mp member
  exact recorded.unbroken record inRecords

theorem ledgerRows (recorded : Recorded py records vault) :
    ledgerRows vault.ledger = some (records.map fun record => record.rows.1) := by
  have decoded := @decodeLines_objects (records.map fun record => record.1.fields) [] (by simp)
    fun fields member => by
      obtain ⟨record, -, rfl⟩ := List.mem_map.mp member
      exact distinct_entry record.1
  simp only [List.map_map, Function.comp_def, List.append_nil] at decoded
  simp only [Collab.ledgerRows, recorded.ledgerText, Option.bind_eq_bind, Option.bind_some,
    recorded.ledgerLines]
  exact decoded

theorem auditLines (recorded : Recorded py records vault) :
    auditLines vault.audit = some (records.map Record.auditFields) := by
  have unbroken : ∀ line ∈ records.map Record.auditLine, lineFeed ∉ line := by
    intro line member isEnd
    obtain ⟨record, -, rfl⟩ := List.mem_map.mp member
    have large := Json.uncontrolled_canonical _ _ isEnd
    simp [lineFeed] at large
  have decoded := @decodeLines_objects (records.map fun record => record.2.fields) [lineFeed]
    (fun c member => List.mem_singleton.mp member ▸ by decide) fun fields member => by
      obtain ⟨record, inRecords, rfl⟩ := List.mem_map.mp member
      exact recorded.distinct record inRecords
  have lines : fileLines (joinRows (records.map Record.auditLine)) =
      (records.map fun record => record.2.fields).map fun fields =>
        Json.dumps .canonical (.obj fields) ++ [lineFeed] := by
    rw [fileLines_joinRows unbroken, List.map_map, List.map_map]
    rfl
  have objects := mapM_asObject (records.map Record.auditFields)
  simp only [List.map_map, Function.comp_def] at decoded objects
  rw [auditLines_of_readText recorded.auditText, lines, objectsOf_eq, List.map_map,
    Function.comp_def, decoded, Option.bind_some]
  exact congrArg (fun found => some (found.getD [])) objects

theorem chainVerified (recorded : Recorded py records vault) : vault.chainVerified py = true := by
  obtain ⟨last, checked⟩ := recorded.checked
  refine verifyAuditChain_eq_true.mpr ⟨_, _, last, recorded.ledgerRows, recorded.auditLines, ?_, ?_⟩
  · rw [List.length_map, List.length_map]
  · rw [List.zip_map']
    exact checked

end Recorded

/-! ## One more record -/

theorem checkRows_append (previous : PyStr) (left right : List (Json × Dict PyStr Json)) :
    checkRows py previous (left ++ right) =
      (checkRows py previous left).bind fun middle => checkRows py middle right := by
  induction left generalizing previous with
  | nil => rfl
  | cons row rest ih =>
      obtain ⟨ledger, audit⟩ := row
      simp only [List.cons_append, checkRows, ih]
      cases checkRow py previous ledger audit <;> rfl

/-- A row that continues the chain with the hash it computed is accepted. -/
theorem checkRow_new {entry : LedgerEntry} {previous entryHash hash ts : PyStr}
    (hashed : hashOf py entry.toJson = some entryHash)
    (linked : hashOf py (linkJson (.str entry.id) (.str previous) entryHash) = some hash) :
    let record : Record := (entry, ⟨entry.id, .str previous, entryHash, hash, ts⟩)
    checkRow py previous record.rows.1 record.rows.2 = some hash := by
  intro record
  have auditKeys := (@distinct_auditRow record.2 previous rfl).1
  have lookup := Json.get?_orderedFields .canonical auditKeys
  have identifier : Dict.get? (lit "id") (Json.orderFields .canonical
      (Json.orderedFields .canonical entry.fields)) = some (.str entry.id) := by
    rw [Json.get?_orderedFields .canonical (distinct_entry entry).1]
    rfl
  refine checkRow_eq_some.mpr ⟨_, .str entry.id, entryHash, rfl, ?_, ?_, ?_, ?_, ?_, linked, ?_⟩
  · exact (lookup _).trans rfl
  · rw [identifier, Option.getD_some, Json.pyEq_str, beq_self_eq_true]
  · have found : record.auditFields.get? (lit "prev_hash") = some (.str previous) :=
      (lookup _).trans (by simp [record, AuditRow.fields, Dict.get?, Json.ordered])
    exact congrArg (fun value => value.getD (.str [])) found
  · exact (hashOf_ordered entry.toJson).trans hashed
  · exact (lookup _).trans (by simp [record, AuditRow.fields, Dict.get?, Json.ordered])
  · exact (lookup _).trans (by simp [record, AuditRow.fields, Dict.get?, Json.ordered])

/-- Text without the line breaks that JSON leaves unescaped: NEL and the line and
paragraph separators. -/
def LineSafe (text : PyStr) : Prop := ∀ c ∈ text, c.val ≠ 0x85 ∧ c.val ≠ 0x2028 ∧ c.val ≠ 0x2029

theorem lineSafe_of_plain {text : PyStr} (plain : ∀ c ∈ text, IsPlain c) : LineSafe text := by
  intro c member
  have bounds := plain c member
  unfold IsPlain at bounds
  omega

/-- An event without these line breaks is one line for `str.splitlines`. -/
theorem unbroken_entry {entry : LedgerEntry} (strings : entry.toJson.AllStrings LineSafe) :
    ∀ c ∈ entry.toJson.dumps .canonical, isLineBreak c = false := by
  have small : ∀ c : CodePoint, 32 ≤ c.val → c.val ≠ 0x85 ∧ c.val ≠ 0x2028 ∧ c.val ≠ 0x2029 →
      isLineBreak c = false := by
    intro c uncontrolled safe
    simp only [isLineBreak, Bool.or_eq_false_iff, Bool.and_eq_false_iff, decide_eq_false_iff_not,
      beq_eq_false_iff_ne]
    omega
  refine Json.forall_mem_canonical (fun c plain => ?_) _
    (Json.AllStrings.imp (fun text safe c member uncontrolled =>
      small c uncontrolled (safe c member)) _ strings)
  have bounds := plain
  unfold IsPlain at bounds
  exact small c bounds.1 (by omega)

theorem lineSafe_lit (text : String) (all : (lit text).all (fun c => decide (IsPlain c)) = true) :
    LineSafe (lit text) :=
  lineSafe_of_plain (isPlain_lit text all)

namespace Recorded

variable {records : List Record} {vault : CollabVault}

/-- The chain over the records ends with the hash that the next one continues from. -/
theorem checked_previous (recorded : Recorded py records vault) {rows : List (Dict PyStr Json)}
    {previous : PyStr} (isRows : Collab.auditLines vault.audit = some rows)
    (isPrevious : previousHash rows = .str previous) :
    checkRows py [] (records.map Record.rows) = some previous := by
  obtain ⟨last, checked⟩ := recorded.checked
  have ends := endsWith_of_checkRows checked
  rw [recorded.auditLines, Option.some.injEq] at isRows
  rw [List.map_map] at ends
  have lastIs := previousHash_of_endsWith ends
  rw [show records.map (Prod.snd ∘ Record.rows) = rows from isRows, isPrevious] at lastIs
  rw [checked, Json.str.inj lastIs]

/-- The two lines of one event extend the record. -/
theorem extend (recorded : Recorded py records vault) {entry : LedgerEntry}
    {rows : List (Dict PyStr Json)} {previous entryHash hash ts : PyStr}
    {ledgerBytes auditBytes : ByteArray} (safe : entry.toJson.AllStrings LineSafe)
    (isRows : Collab.auditLines vault.audit = some rows)
    (isPrevious : previousHash rows = .str previous)
    (hashed : hashOf py entry.toJson = some entryHash)
    (linked : hashOf py (linkJson (.str entry.id) (.str previous) entryHash) = some hash)
    (ledgerEq : encodeUtf8 (entry.toJson.dumps .canonical ++ [lineFeed]) = some ledgerBytes)
    (auditEq : encodeUtf8 ((AuditRow.mk entry.id (.str previous) entryHash hash
      ts).toJson.dumps .canonical ++ [lineFeed]) = some auditBytes) :
    Recorded py (records ++ [(entry, ⟨entry.id, .str previous, entryHash, hash, ts⟩)])
      (vault.withLines ledgerBytes auditBytes) where
  ledger := by
    rw [List.map_append, joinRows_append]
    refine encodeUtf8_append recorded.ledger ?_
    simpa [joinRows, Record.ledgerLine] using ledgerEq
  audit := by
    rw [List.map_append, joinRows_append]
    refine encodeUtf8_append recorded.audit ?_
    simpa [joinRows, Record.auditLine] using auditEq
  unbroken := by
    intro record member
    rcases List.mem_append.mp member with old | new
    · exact recorded.unbroken record old
    · rw [List.mem_singleton.mp new]
      exact unbroken_entry safe
  distinct := by
    intro record member
    rcases List.mem_append.mp member with old | new
    · exact recorded.distinct record old
    · rw [List.mem_singleton.mp new]
      exact distinct_auditRow rfl
  checked := by
    refine ⟨hash, ?_⟩
    rw [List.map_append, checkRows_append, recorded.checked_previous isRows isPrevious,
      Option.bind_some, List.map_singleton, checkRows]
    have accepted := @checkRow_new py entry previous entryHash hash ts hashed linked
    exact congrArg (fun checked => checked.bind fun digest => checkRows py digest []) accepted

/-- Operations on nodes and tasks keep the record. -/
theorem of_files {after : CollabVault} (recorded : Recorded py records vault)
    (same : Agree files vault after) : Recorded py records after where
  ledger := (congrArg (fun files => some files.2.1) same) ▸ recorded.ledger
  audit := (congrArg (fun files => some files.2.2) same) ▸ recorded.audit
  unbroken := recorded.unbroken
  distinct := recorded.distinct
  checked := recorded.checked

/-- `audit_status` counts the same rows in both files. -/
theorem auditStatus (recorded : Recorded py records vault) :
    ∃ status, ((auditStatus py).run vault).1 = .ok status ∧ status.verified = true ∧
      status.entries = status.expected := by
  have nonblank : ∀ record ∈ records, isBlank record.ledgerLine = false := by
    intro record _
    have nonblank := not_isBlank_obj record.1.fields []
    rwa [List.append_nil] at nonblank
  refine ⟨⟨true, records.length, records.length, lastHash (records.map Record.auditFields)⟩, ?_,
    rfl, rfl⟩
  have counted : ((records.map Record.ledgerLine).filter fun line => !isBlank line).length =
      records.length := by
    rw [List.filter_eq_self.mpr, List.length_map]
    intro line member
    obtain ⟨record, inRecords, rfl⟩ := List.mem_map.mp member
    simp [nonblank record inRecords]
  simp only [CollabVault.auditStatus, run_bind, run_read, recorded.chainVerified,
    recorded.auditLines, run_ofOption_some, recorded.ledgerText, recorded.ledgerLines, counted,
    List.length_map, run_modify, run_pure]

end Recorded

/-! ## Runs -/

/-- A call on a vault, or a restart of the program between calls. -/
inductive VaultCall where
  | append (moment : Moment) (node op : PyStr) (payload : JsonObject) (sig : PyStr)
  | reopen

/-- No string of the event holds a line break that JSON leaves unescaped, or the
event cannot be encoded at all. -/
def VaultCall.LineSafe : VaultCall → Prop
  | .append moment node op payload sig =>
      canonical (newEntry moment node op payload sig).toJson = none ∨
        (Collab.LineSafe node ∧ Collab.LineSafe op ∧
          payload.toJson.AllStrings Collab.LineSafe ∧ Collab.LineSafe sig)
  | .reopen => True

/-- A vault under a sequence of calls. -/
def vaultMachine (py : Platform) : Machine CollabVault VaultCall (Option (Except Fault LedgerEntry)) where
  step vault
    | .append moment node op payload sig =>
        let outcome := (appendEvent py moment node op payload sig).run vault
        (some outcome.1, outcome.2)
    | .reopen => (none, vault.reopen)

/-- One call keeps the files in step, whatever becomes of the event. -/
theorem recorded_step {records : List Record} {vault : CollabVault}
    (recorded : Recorded py records vault) {call : VaultCall} (safe : call.LineSafe) :
    ∃ after, Recorded py after ((vaultMachine py).step vault call).2 := by
  cases call with
  | reopen => exact ⟨records, recorded.of_files rfl⟩
  | append moment node op payload sig =>
      have verified := recorded.chainVerified
      cases hashed : hashOf py (newEntry moment node op payload sig).toJson with
      | none =>
          refine ⟨records, ?_⟩
          simpa only [vaultMachine, run_appendEvent_unencodable verified hashed] using recorded
      | some entryHash =>
          have strings : (newEntry moment node op payload sig).toJson.AllStrings LineSafe := by
            rcases safe with unencodable | ⟨nodeSafe, opSafe, payloadSafe, sigSafe⟩
            · rw [hashOf, unencodable] at hashed
              cases hashed
            · exact allStrings_newEntry (fun _ => lineSafe_of_plain) nodeSafe opSafe payloadSafe sigSafe
          obtain ⟨rows, previous, hash, ledgerBytes, auditBytes, isRows, isPrevious, linked,
            ledgerEq, auditEq, same⟩ := run_appendEvent_recorded verified hashed
          have extended := recorded.extend strings isRows isPrevious hashed linked
            ledgerEq auditEq
          refine ⟨_, extended.of_files ?_⟩
          simp only [vaultMachine, same]
          exact within_files_applyAndSave py moment _ _

theorem recorded_fresh (root : Path) : Recorded py [] (fresh root) where
  ledger := encodeUtf8_nil
  audit := encodeUtf8_nil
  unbroken := fun _ member => absurd member List.not_mem_nil
  distinct := fun _ member => absurd member List.not_mem_nil
  checked := ⟨[], rfl⟩

/-- After any calls with line-safe events the files are in step. -/
theorem recorded_run (root : Path) {calls : List VaultCall}
    (safe : ∀ call ∈ calls, call.LineSafe) :
    ∃ records, Recorded py records ((vaultMachine py).run (fresh root) calls) :=
  Machine.run_invariant (fun _ (call : VaultCall) => call.LineSafe)
    (fun vault => ∃ records, Recorded py records vault)
    (fun _ _ ⟨_, recorded⟩ callSafe => recorded_step recorded callSafe)
    ⟨[], recorded_fresh root⟩
    ((vaultMachine py).allowed_of_forall (fun call member _ => safe call member) _)

/-- On a recorded vault no event is refused for a broken chain. -/
theorem append_not_tampered {records : List Record} {vault : CollabVault}
    (recorded : Recorded py records vault) (moment : Moment) (node op : PyStr)
    (payload : JsonObject) (sig : PyStr) :
    ((appendEvent py moment node op payload sig).run vault).1 ≠
      .error (.vaultError "audit chain tampered") := by
  have verified := recorded.chainVerified
  cases hashed : hashOf py (newEntry moment node op payload sig).toJson with
  | none => simp [run_appendEvent_unencodable verified hashed]
  | some entryHash =>
      obtain ⟨-, -, -, ledgerBytes, auditBytes, -, -, -, -, -, same⟩ :=
        run_appendEvent_recorded verified hashed
      rw [same]
      exact fun tampered => @raises_applyAndSave (fun fault => fault ≠ .vaultError "audit chain tampered")
        (by simp) (by simp) (by simp) moment (by simp) (by simp) py _ _ _ tampered rfl

/-- From a fresh vault, after any calls whose events are line-safe and any restarts,
the chain verifies, `audit_status` counts as many audit rows as ledger rows, and no
further event is refused for a broken chain. -/
theorem chain_intact_on_runs (root : Path) (calls : List VaultCall)
    (safe : ∀ call ∈ calls, call.LineSafe) :
    let vault := (vaultMachine py).run (fresh root) calls
    vault.chainVerified py = true ∧
      (∃ status, ((auditStatus py).run vault).1 = .ok status ∧ status.entries = status.expected) ∧
      ∀ moment node op payload sig, ((appendEvent py moment node op payload sig).run vault).1 ≠
        .error (.vaultError "audit chain tampered") := by
  obtain ⟨records, recorded⟩ := @recorded_run py root calls safe
  obtain ⟨status, reported, -, counts⟩ := recorded.auditStatus
  exact ⟨recorded.chainVerified, ⟨status, reported, counts⟩, append_not_tampered recorded⟩

/-- A greeting whose text holds the given character. -/
def greeting (c : CodePoint) : JsonObject := JsonObject.empty.setText (lit "text") (lit "hi" ++ [c])

theorem allStrings_greeting {good : PyStr → Prop}
    (plain : ∀ text, (∀ c ∈ text, IsPlain c) → good text) {c : CodePoint}
    (textGood : good (lit "hi" ++ [c])) : (greeting c).toJson.AllStrings good :=
  ⟨plain _ (isPlain_lit "text" (by decide)), textGood, trivial⟩

def greetingCall (c : CodePoint) : VaultCall :=
  .append .epoch (lit "node-a") (lit "message") (greeting c) (lit "sig")

theorem isPlain_greeting {c : CodePoint} (plain : IsPlain c) : ∀ d ∈ lit "hi" ++ [c], IsPlain d := by
  intro d inText
  rcases List.mem_append.mp inText with inHi | isLast
  · exact isPlain_lit "hi" (by decide) d inHi
  · exact List.mem_singleton.mp isLast ▸ plain

theorem lineSafe_greetingCall {c : CodePoint} (plain : IsPlain c) : (greetingCall c).LineSafe := by
  have textPlain := isPlain_greeting plain
  exact .inr ⟨lineSafe_lit _ (by decide), lineSafe_lit _ (by decide),
    allStrings_greeting (fun _ => lineSafe_of_plain) (lineSafe_of_plain textPlain),
    lineSafe_lit _ (by decide)⟩

theorem run_greeting (c : CodePoint) : (vaultMachine py).run (fresh []) [greetingCall c] =
    ((appendEvent py .epoch (lit "node-a") (lit "message") (greeting c) (lit "sig")).run
      (fresh [])).2 := by
  simp only [Machine.run_cons, Machine.run_nil, vaultMachine, greetingCall]

theorem greeting_runs :
    let vault := (vaultMachine .plain).run (fresh []) [greetingCall 0x21, .reopen, greetingCall 0x3f]
    vault.chainVerified .plain = true ∧
      (∃ status, ((auditStatus .plain).run vault).1 = .ok status ∧
        status.entries = status.expected) ∧
      ∀ moment node op payload sig,
        ((appendEvent .plain moment node op payload sig).run vault).1 ≠
          .error (.vaultError "audit chain tampered") := by
  refine chain_intact_on_runs [] _ fun call member => ?_
  simp only [List.mem_cons, List.not_mem_nil, or_false] at member
  rcases member with rfl | rfl | rfl
  · exact lineSafe_greetingCall (by decide)
  · trivial
  · exact lineSafe_greetingCall (by decide)

/-- A first event whose line is not decoded as it was written breaks the chain. -/
theorem chain_broken_by_line {moment : Moment} {node op : PyStr}
    {payload : JsonObject} {sig entryHash : PyStr}
    (hashed : hashOf py (newEntry moment node op payload sig).toJson = some entryHash)
    (undecodable : decodeLines (splitLines (translateNewlines false
      ((newEntry moment node op payload sig).toJson.dumps .canonical ++ [lineFeed]))) = none) :
    ((appendEvent py moment node op payload sig).run (fresh [])).2.chainVerified py = false := by
  obtain ⟨-, -, -, ledgerBytes, auditBytes, -, -, -, ledgerEq, -, same⟩ :=
    run_appendEvent_recorded (recorded_fresh []).chainVerified hashed
  have kept := within_files_applyAndSave py moment (newEntry moment node op payload sig)
    ((fresh []).withLines ledgerBytes auditBytes)
  have ledgers := congrArg (fun files => files.2.1) kept
  have read := decodeUtf8_of_encodeUtf8 (encodeUtf8_append encodeUtf8_nil ledgerEq)
  have noRows : ledgerRows (ByteArray.empty ++ ledgerBytes) = none := by
    simp only [ledgerRows, readText, read, List.nil_append, Option.map_some, Option.bind_eq_bind,
      Option.bind_some, undecodable]
  have ledgerIs : ((appendEvent py moment node op payload sig).run (fresh [])).2.ledger =
      ByteArray.empty ++ ledgerBytes := by
    rw [same]
    exact ledgers
  simp only [chainVerified, verifyAuditChain, ledgerIs, noRows]

/-- The greeting with a line separator makes a ledger line that `str.splitlines` cuts
inside a string. -/
theorem undecodable_separator :
    (decodeLines (splitLines (translateNewlines false
      ((newEntry .epoch (lit "node-a") (lit "message") (greeting 0x2028)
        (lit "sig")).toJson.dumps .canonical ++ [lineFeed])))).isNone = true := by
  decide +kernel

theorem encodable_separator : Encodable (lit "hi" ++ [(0x2028 : CodePoint)]) := by
  have separator : ∃ char, CodePoint.toChar? 0x2028 = some char :=
    CodePoint.toChar?_of_lt (by decide)
  exact encodable_append.mpr ⟨encodable_lit _, encodable_cons.mpr ⟨separator, encodable_nil⟩⟩

/-- The memory of a vault that has recorded one greeting can be written. -/
theorem tamperedFault_greeted {c : CodePoint} (encodable : Encodable (lit "hi" ++ [c]))
    {entryHash : PyStr} (hashed : hashOf .plain (newEntry .epoch (lit "node-a") (lit "message")
      (greeting c) (lit "sig")).toJson = some entryHash) :
    ((vaultMachine .plain).run (fresh []) [greetingCall c]).tamperedFault =
      .vaultError "audit chain tampered" := by
  obtain ⟨-, -, -, ledgerBytes, auditBytes, -, -, -, -, -, same⟩ :=
    run_appendEvent_recorded (recorded_fresh []).chainVerified hashed
  have state := @state_applyAndSave_of_message .plain (newEntry .epoch (lit "node-a") (lit "message")
    (greeting c) (lit "sig")) (.inl rfl) .epoch ((fresh []).withLines ledgerBytes auditBytes)
  have message : (newEntry .epoch (lit "node-a") (lit "message") (greeting c)
      (lit "sig")).toMessage.toJson.AllStrings Encodable :=
    encodable_message (encodable_lit _) (encodable_lit _) (encodable_lit _) (encodable_lit _)
      (allStrings_greeting (fun _ => encodable_of_plain) encodable)
  have start : ((fresh []).withLines ledgerBytes auditBytes).state.Legible := VaultState.legible_default
  rw [tamperedFault, if_pos]
  rw [run_greeting, same, setTampered, setState, state]
  exact (start.withMessage message).marked (encodable_lit _) true

/-- After a recorded event with a line separator the chain does not verify, and the
next event is refused. -/
theorem separator_breaks_chain :
    let vault := (vaultMachine .plain).run (fresh []) [greetingCall 0x2028]
    vault.chainVerified .plain = false ∧
      ((appendEvent .plain .epoch (lit "node-a") (lit "message") (greeting 0x21)
        (lit "sig")).run vault).1 = .error (.vaultError "audit chain tampered") := by
  obtain ⟨entryHash, hashed⟩ : ∃ hash, hashOf .plain (newEntry .epoch (lit "node-a")
      (lit "message") (greeting 0x2028) (lit "sig")).toJson = some hash :=
    hashOf_isSome_of_encodable (by decide) (allStrings_newEntry (fun _ => encodable_of_plain)
      (encodable_lit _) (encodable_lit _)
      (allStrings_greeting (fun _ => encodable_of_plain) encodable_separator) (encodable_lit _))
  have broken := chain_broken_by_line hashed (Option.isNone_iff_eq_none.mp undecodable_separator)
  rw [← run_greeting] at broken
  refine ⟨broken, ?_⟩
  rw [run_appendEvent_tampered broken, tamperedFault_greeted encodable_separator hashed]

end HermesMesh.Collab
