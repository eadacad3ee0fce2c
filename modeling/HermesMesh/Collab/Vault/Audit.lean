import HermesMesh.Collab.Vault.Ledger

/-!
# What the audit check has checked

The rows that `verify_audit_chain` accepts are the links of a `HashChain`, one for
each row of the ledger, and the last audit row holds the digest of the whole.
-/

namespace HermesMesh.Collab

open Python Foundation

variable {py : Platform}

/-! ## Hashes -/

theorem digest_ext {left right : Digest} (texts : left.text = right.text) : left = right := by
  cases left
  cases right
  cases texts
  rfl

theorem hashOf_eq_some {value : Json} {hash : PyStr} :
    hashOf py value = some hash ↔
      value.isFinite = true ∧
        ∃ bytes, encodeUtf8 (value.dumps .canonical) = some bytes ∧ (py.sha256 bytes).text = hash := by
  unfold hashOf canonical Json.dumpsStrict
  split
  · next finite => simp [finite]
  · next infinite => simp [infinite]

theorem plain_of_hash {value : Json} {hash : PyStr} (hashed : hashOf py value = some hash) :
    ∀ c ∈ hash, IsPlain c := by
  obtain ⟨-, bytes, -, rfl⟩ := hashOf_eq_some.mp hashed
  exact (py.sha256 bytes).plain

theorem hash_ne_nil {value : Json} {hash : PyStr} (hashed : hashOf py value = some hash) :
    hash ≠ [] := by
  obtain ⟨-, bytes, -, rfl⟩ := hashOf_eq_some.mp hashed
  exact (py.sha256 bytes).nonempty

/-- A value read back has the hash of the value written. -/
theorem hashOf_ordered (value : Json) : hashOf py (value.ordered .canonical) = hashOf py value := by
  simp only [hashOf, canonical, Json.dumpsStrict, Json.isFinite_ordered, Json.dumps_ordered]

/-! ## What the check determines -/

/-- Only a text compares equal to a text. -/
theorem eq_str_of_pyEq {value : Json} {text : PyStr} (equal : value.pyEq (.str text) = true) :
    value = .str text := by
  cases value with
  | str other => rw [Json.pyEq_str, beq_iff_eq] at equal; rw [equal]
  | null | bool | int | float | arr | obj => simp [Json.pyEq, Json.numeric] at equal

/-- A ledger row with the identifier its audit row has: an entry of the audit chain. -/
def chainEntry (rows : Json × Dict PyStr Json) : Json × Json :=
  ((rows.2.get? (lit "ledger_id")).getD .null, rows.1)

theorem get?_eq_some_str {d : Dict PyStr Json} {key text : PyStr}
    (equal : ((d.get? key).getD .null).pyEq (.str text) = true) :
    d.get? key = some (.str text) := by
  have value := eq_str_of_pyEq equal
  cases found : d.get? key with
  | none => rw [found] at value; cases value
  | some other => rw [found] at value; exact congrArg some value

theorem asObject_eq_some {value : Json} {fields : Dict PyStr Json} :
    asObject value = some fields ↔ value = .obj fields := by
  cases value <;> simp [asObject]

/-- What one accepted round of the loop has checked. -/
theorem checkRow_eq_some {previous current : PyStr} {ledger : Json} {audit : Dict PyStr Json} :
    checkRow py previous ledger audit = some current ↔
      ∃ fields ledgerId entryHash, ledger = .obj fields ∧
        audit.get? (lit "ledger_id") = some ledgerId ∧
        ledgerId.pyEq ((Dict.get? (lit "id") fields).getD .null) = true ∧
        (audit.get? (lit "prev_hash")).getD (.str []) = .str previous ∧
        hashOf py ledger = some entryHash ∧
        audit.get? (lit "entry_hash") = some (.str entryHash) ∧
        hashOf py (linkJson ledgerId (.str previous) entryHash) = some current ∧
        audit.get? (lit "hash") = some (.str current) := by
  simp only [checkRow, Option.bind_eq_bind, Option.bind_eq_some_iff, Option.pure_def,
    Option.some.injEq, Option.guard_eq_some', asObject_eq_some]
  constructor
  · rintro ⟨fields, isObject, _, sameId, _, samePrev, entryHash, rowHash, _, sameEntry, ledgerId,
      found, hash, linkHash, _, sameHash, rfl⟩
    rw [found, Option.getD_some] at sameId
    exact ⟨fields, ledgerId, entryHash, isObject, found, sameId, eq_str_of_pyEq samePrev, rowHash,
      get?_eq_some_str sameEntry, linkHash, get?_eq_some_str sameHash⟩
  · rintro ⟨fields, ledgerId, entryHash, isObject, found, sameId, samePrev, rowHash, sameEntry,
      linkHash, sameHash⟩
    refine ⟨fields, isObject, (), ?_, (), ?_, entryHash, rowHash, (), ?_, ledgerId, found, current,
      linkHash, (), ?_, rfl⟩
    · rwa [found]
    · rw [samePrev, Json.pyEq_str, beq_self_eq_true]
    · rw [sameEntry, Option.getD_some, Json.pyEq_str, beq_self_eq_true]
    · rw [sameHash, Option.getD_some, Json.pyEq_str, beq_self_eq_true]

/-- One accepted round is one link of the chain, and the audit row holds its digest. -/
theorem link_of_checkRow {previous current : PyStr} {ledger : Json} {audit : Dict PyStr Json}
    (checked : checkRow py previous ledger audit = some current) :
    (auditChain py).link previous (chainEntry (ledger, audit)) = some current ∧
      audit.get? (lit "hash") = some (.str current) := by
  obtain ⟨fields, ledgerId, entryHash, -, found, -, -, rowHash, -, linkHash, last⟩ :=
    checkRow_eq_some.mp checked
  refine ⟨?_, last⟩
  simp only [auditChain, chainEntry, found, Option.getD_some, rowHash, Option.bind_eq_bind,
    Option.bind_some, linkHash]

/-- The accepted rounds together are the fold of the chain, and the last audit row
holds the last digest. -/
theorem head_of_checkRows {previous last : PyStr} {rows : List (Json × Dict PyStr Json)}
    (checked : checkRows py previous rows = some last) :
    (rows.map chainEntry).foldlM (auditChain py).link previous = some last ∧
      ∀ row, rows.getLast? = some row → row.2.get? (lit "hash") = some (.str last) := by
  induction rows generalizing previous with
  | nil =>
      cases checked
      exact ⟨rfl, fun row isLast => by cases isLast⟩
  | cons row rest ih =>
      obtain ⟨ledger, audit⟩ := row
      simp only [checkRows, Option.bind_eq_bind, Option.bind_eq_some_iff] at checked
      obtain ⟨current, first, others⟩ := checked
      obtain ⟨linked, holds⟩ := link_of_checkRow first
      obtain ⟨folded, lastHolds⟩ := ih others
      refine ⟨by simp [linked, folded], fun row isLast => ?_⟩
      cases rest with
      | nil =>
          cases others
          cases isLast
          exact holds
      | cons next more =>
          rw [List.getLast?_cons_cons] at isLast
          exact lastHolds row isLast

/-- The audit rows end with this digest; without rows it is the empty start. -/
def EndsWith (rows : List (Dict PyStr Json)) (last : PyStr) : Prop :=
  match rows.getLast? with
  | none => last = []
  | some row => row.get? (lit "hash") = some (.str last)

theorem lastHash_of_endsWith {rows : List (Dict PyStr Json)} {last : PyStr}
    (ends : EndsWith rows last) : lastHash rows = .str last := by
  unfold EndsWith at ends
  unfold lastHash
  cases isLast : rows.getLast? with
  | none => rw [isLast] at ends; exact congrArg Json.str ends.symm
  | some row =>
      simp only [isLast] at ends
      simp only [ends, Option.getD_some]

theorem previousHash_of_endsWith {rows : List (Dict PyStr Json)} {last : PyStr}
    (ends : EndsWith rows last) : previousHash rows = .str last := by
  unfold EndsWith at ends
  unfold previousHash
  cases isLast : rows.getLast? with
  | none => rw [isLast] at ends; exact congrArg Json.str ends.symm
  | some row =>
      simp only [isLast] at ends
      simp only [ends, Option.getD_some]

/-- Accepted rounds end with the digest that the last audit row holds. -/
theorem endsWith_of_checkRows {rows : List (Json × Dict PyStr Json)} {last : PyStr}
    (checked : checkRows py [] rows = some last) : EndsWith (rows.map Prod.snd) last := by
  obtain ⟨-, lastHolds⟩ := head_of_checkRows checked
  unfold EndsWith
  rw [List.getLast?_map]
  cases isLast : rows.getLast? with
  | none =>
      rw [List.getLast?_eq_none_iff] at isLast
      subst isLast
      exact (Option.some.inj checked).symm
  | some row => exact lastHolds row isLast

/-! ## The files -/

/-- What a good link needs of its two parts. -/
def DistinctPair (entry : Json × Json) : Prop := entry.1.Distinct ∧ entry.2.Distinct

theorem distinct_of_decodeLines {lines : List PyStr} {rows : List Json}
    (decoded : decodeLines lines = some rows) : ∀ row ∈ rows, row.Distinct := by
  unfold decodeLines at decoded
  generalize (lines.filter fun line => !isBlank line) = texts at decoded
  induction texts generalizing rows with
  | nil => cases decoded; simp
  | cons text rest ih =>
      simp only [List.mapM_cons, Option.bind_eq_bind, Option.bind_eq_some_iff, Option.pure_def,
        Option.some.injEq] at decoded
      obtain ⟨row, isRow, others, rest, rfl⟩ := decoded
      exact List.forall_mem_cons.mpr ⟨distinct_of_loads isRow, ih rest⟩

/-! ## The loop of `_audit_lines` -/

/-- What is true of every object that a line may hold is true of the rows. -/
theorem forall_of_auditLoop {givesUp : PyStr → Bool} {readable : Bool} {lines : List PyStr}
    {good : Dict PyStr Json → Prop}
    (each : ∀ line row, objectOfLine line = some row → good row)
    {rows result : List (Dict PyStr Json)} (before : ∀ row ∈ rows, good row)
    (read : auditLoop givesUp readable rows lines = some result) : ∀ row ∈ result, good row := by
  induction lines generalizing rows with
  | nil =>
      rw [auditLoop] at read
      split at read
      · cases read
        exact before
      · cases read
  | cons line rest ih =>
      rw [auditLoop] at read
      split at read
      · exact ih before read
      split at read
      · cases read
      split at read
      · cases read
        exact fun row member => absurd member List.not_mem_nil
      · next row isRow =>
          refine ih (fun other member => ?_) read
          rcases List.mem_append.mp member with old | new
          · exact before other old
          · exact List.mem_singleton.mp new ▸ each line row isRow

theorem distinct_of_auditLines {audit : ByteArray} {rows : List (Dict PyStr Json)}
    (read : auditLines audit = some rows) : ∀ row ∈ rows, (Json.obj row).Distinct := by
  refine forall_of_auditLoop (fun line row isRow => ?_) (fun row member => ?_) read
  · obtain ⟨value, decoded, isObject⟩ := Option.bind_eq_some_iff.mp isRow
    exact asObject_eq_some.mp isObject ▸ distinct_of_loads decoded
  · exact absurd member List.not_mem_nil

theorem mapM_bind_eq {α β γ : Type} (f : α → Option β) (g : β → Option γ) (values : List α) :
    (values.mapM f).bind (fun images => images.mapM g) = values.mapM fun value => (f value).bind g := by
  induction values with
  | nil => rfl
  | cons value rest ih =>
      simp only [List.mapM_cons, Option.bind_eq_bind, Option.pure_def, ← ih]
      cases f value with
      | none => rfl
      | some image =>
          cases rest.mapM f with
          | none => cases mapped : g image <;> simp [mapped]
          | some images => simp

theorem objectsOf_eq (lines : List PyStr) :
    objectsOf lines = (decodeLines lines).bind fun rows => rows.mapM asObject :=
  (mapM_bind_eq loads asObject _).symm

theorem objectsOf_cons_blank {line : PyStr} (blank : isBlank line = true) (rest : List PyStr) :
    objectsOf (line :: rest) = objectsOf rest := by
  rw [objectsOf, objectsOf, List.filter_cons_of_neg (by simp [blank])]

theorem objectsOf_cons {line : PyStr} (blank : isBlank line = false) (rest : List PyStr) :
    objectsOf (line :: rest) = do
      let row ← objectOfLine line
      return row :: (← objectsOf rest) := by
  rw [objectsOf, objectsOf, List.filter_cons_of_pos (by simp [blank]), List.mapM_cons]

/-- Without limits the loop over all lines of a file collects their objects. -/
theorem auditLoop_eq (rows : List (Dict PyStr Json)) (lines : List PyStr) :
    auditLoop (fun _ => false) true rows lines =
      some ((objectsOf lines).elim [] fun objects => rows ++ objects) := by
  induction lines generalizing rows with
  | nil => simp [auditLoop, objectsOf]
  | cons line rest ih =>
      rw [auditLoop]
      split
      · next blank => rw [ih, objectsOf_cons_blank blank]
      · next text =>
          rw [objectsOf_cons (Bool.eq_false_iff.mpr text), if_neg Bool.false_ne_true]
          cases objectOfLine line with
          | none => rfl
          | some row =>
              dsimp only
              rw [ih]
              cases objectsOf rest with
              | none => rfl
              | some objects => simp

theorem auditLines_of_readText {audit : ByteArray} {text : PyStr} (read : readText audit = some text) :
    auditLines audit = some ((objectsOf (fileLines text)).getD []) := by
  rw [auditLines, auditLinesWithin, givenLines_of_readText read, read, Option.isSome_some,
    auditLoop_eq]
  cases objectsOf (fileLines text) <;> rfl

/-- What `verify_audit_chain` has checked when it returns `True`. -/
theorem verifyAuditChain_eq_true {ledger audit : ByteArray} :
    verifyAuditChain py ledger audit = true ↔
      ∃ ledgers audits last, ledgerRows ledger = some ledgers ∧ auditLines audit = some audits ∧
        ledgers.length = audits.length ∧ checkRows py [] (ledgers.zip audits) = some last := by
  unfold verifyAuditChain
  split
  · next ledgers audits isLedgers isAudits =>
      simp [isLedgers, isAudits, Option.isSome_iff_exists]
  · next fails =>
      simp only [Bool.false_eq_true, false_iff]
      rintro ⟨ledgers, audits, last, isLedgers, isAudits, -⟩
      exact fails ledgers audits isLedgers isAudits

theorem distinctPair_of_mem_zip {ledgers : List Json} {audits : List (Dict PyStr Json)}
    (ledgersDistinct : ∀ row ∈ ledgers, row.Distinct)
    (auditsDistinct : ∀ row ∈ audits, (Json.obj row).Distinct) :
    ∀ entry ∈ (ledgers.zip audits).map chainEntry, DistinctPair entry := by
  intro entry member
  obtain ⟨⟨ledger, audit⟩, inZip, rfl⟩ := List.mem_map.mp member
  obtain ⟨inLedgers, inAudits⟩ := List.of_mem_zip inZip
  refine ⟨?_, ledgersDistinct ledger inLedgers⟩
  cases found : audit.get? (lit "ledger_id") with
  | none => simp only [chainEntry, found, Option.getD_none]; trivial
  | some ledgerId =>
      simp only [chainEntry, found, Option.getD_some]
      exact Json.distinctFields_iff.mp (auditsDistinct audit inAudits).2 _ (Dict.mem_of_get? found)

/-- The digest over accepted rows is printable ASCII. -/
theorem plain_of_head {entries : List (Json × Json)} {last : PyStr}
    (head : (auditChain py).head entries = some last) : ∀ c ∈ last, IsPlain c := by
  rcases List.eq_nil_or_concat entries with rfl | ⟨front, entry, rfl⟩
  · cases head
    exact fun c member => absurd member List.not_mem_nil
  · rw [List.concat_eq_append, HashChain.head_concat, Option.bind_eq_some_iff] at head
    obtain ⟨before, -, linked⟩ := head
    simp only [auditChain, Option.bind_eq_bind, Option.bind_eq_some_iff] at linked
    obtain ⟨entryHash, -, linkHash⟩ := linked
    exact plain_of_hash linkHash

/-- The files of an accepted pair: its decoded ledger, and the digest that heads the
chain over it. -/
theorem head_of_verified {ledger audit : ByteArray}
    (verified : verifyAuditChain py ledger audit = true) :
    ∃ ledgers audits entries last, ledgerRows ledger = some ledgers ∧
      auditLines audit = some audits ∧ (∀ entry ∈ entries, DistinctPair entry) ∧
      entries.map Prod.snd = ledgers ∧ (auditChain py).head entries = some last ∧
      EndsWith audits last := by
  obtain ⟨ledgers, audits, last, isLedgers, isAudits, sameLength, checked⟩ :=
    verifyAuditChain_eq_true.mp verified
  obtain ⟨folded, -⟩ := head_of_checkRows checked
  have ledgersDistinct : ∀ row ∈ ledgers, row.Distinct := by
    obtain ⟨text, -, decoded⟩ := Option.bind_eq_some_iff.mp isLedgers
    exact distinct_of_decodeLines decoded
  refine ⟨ledgers, audits, (ledgers.zip audits).map chainEntry, last, isLedgers, isAudits,
    distinctPair_of_mem_zip ledgersDistinct (distinct_of_auditLines isAudits), ?_, folded, ?_⟩
  · simp only [List.map_map, Function.comp_def, chainEntry]
    exact List.map_fst_zip sameLength.le
  · have ends := endsWith_of_checkRows checked
    rwa [List.map_snd_zip sameLength.ge] at ends

end HermesMesh.Collab
