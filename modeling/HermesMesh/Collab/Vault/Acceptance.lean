import HermesMesh.Collab.Vault.Audit

/-!
# Which files the audit check accepts

A pair of files is well formed when every line of both that is not blank holds a
JSON object and the audit rows are, one by one, those that the ledger rows call
for.  `verify_audit_chain` sees the audit file through `_audit_lines`, which
answers with no rows at all once it comes to a line that is no object.  Beside a ledger
without rows such a file passes, whatever follows that line.
-/

namespace HermesMesh.Collab

open Python Foundation

variable {py : Platform}

/-- The rows of the ledger, where `json.loads` gives up on some texts. -/
def ledgerRowsWithin (givesUp : PyStr → Bool) (ledger : ByteArray) : Option (List Json) := do
  let lines := (splitLines (← readText ledger)).filter fun line => !isBlank line
  if lines.any givesUp then none else lines.mapM loads

/-- `verify_audit_chain` returns `True`, where `json.loads` gives up on some texts. -/
def verifiesWithin (givesUp : PyStr → Bool) (py : Platform) (ledger audit : ByteArray) : Bool :=
  match ledgerRowsWithin givesUp ledger, auditLinesWithin givesUp audit with
  | some ledgerRows, some auditRows =>
      ledgerRows.length == auditRows.length &&
        (checkRows py [] (ledgerRows.zip auditRows)).isSome
  | _, _ => false

/-- Within the limits of the interpreter it is the check of the other modules. -/
theorem verifiesWithin_none (ledger audit : ByteArray) :
    verifiesWithin (fun _ => false) py ledger audit = verifyAuditChain py ledger audit := by
  have rows : ledgerRowsWithin (fun _ => false) ledger = ledgerRows ledger := by
    rw [ledgerRowsWithin, ledgerRows]
    refine congrArg (Option.bind (readText ledger)) (funext fun text => ?_)
    rw [decodeLines, if_neg]
    simp
  rw [verifiesWithin, rows]
  rfl

/-- An audit row carries what its ledger row and the hash before it determine, and
`current` is its own hash.  Identifiers are the same as Python compares them, and a
row without `prev_hash` continues from the empty text. -/
structure Carries (py : Platform) (previous : PyStr) (ledger audit : Dict PyStr Json)
    (current : PyStr) : Prop where
  sameId : ∃ ledgerId, audit.get? (lit "ledger_id") = some ledgerId ∧
    ledgerId.pyEq ((ledger.get? (lit "id")).getD .null) = true
  samePrevious : (audit.get? (lit "prev_hash")).getD (.str []) = .str previous
  hashes : ∃ entryHash, hashOf py (.obj ledger) = some entryHash ∧
    audit.get? (lit "entry_hash") = some (.str entryHash) ∧
    hashOf py (linkJson ((audit.get? (lit "ledger_id")).getD .null) (.str previous) entryHash) =
      some current
  sameHash : audit.get? (lit "hash") = some (.str current)

/-- The audit rows carry, in order and number, what the ledger rows determine. -/
def CarriesAll (py : Platform) (previous : PyStr) :
    List (Dict PyStr Json) → List (Dict PyStr Json) → Prop
  | [], [] => True
  | ledger :: ledgers, audit :: audits =>
      ∃ current, Carries py previous ledger audit current ∧ CarriesAll py current ledgers audits
  | _, _ => False

/-- Every line that is not blank holds an object, and the audit rows carry what the
ledger rows determine.  Lines are those that the readers of the two files see. -/
def WellFormed (py : Platform) (ledger audit : ByteArray) : Prop :=
  ∃ ledgerText auditText ledgers audits, readText ledger = some ledgerText ∧
    readText audit = some auditText ∧ objectsOf (splitLines ledgerText) = some ledgers ∧
    objectsOf (fileLines auditText) = some audits ∧ CarriesAll py [] ledgers audits

/-- The file has no line but blank ones. -/
def BlankLedger (ledger : ByteArray) : Prop :=
  ∃ text, readText ledger = some text ∧ ∀ line ∈ splitLines text, isBlank line = true

/-- The loop comes to a line that is neither blank nor an object, before one that
`json.loads` gives up on. -/
def ComesToNoObject (givesUp : PyStr → Bool) (lines : List PyStr) : Prop :=
  ∃ before line after, lines = before ++ line :: after ∧
    (∀ earlier ∈ before, isBlank earlier = true ∨
      givesUp earlier = false ∧ ∃ row, objectOfLine earlier = some row) ∧
    isBlank line = false ∧ givesUp line = false ∧ objectOfLine line = none

/-! ## Rows -/

theorem mapM_eq_none {α β : Type} {f : α → Option β} {values : List α} :
    values.mapM f = none ↔ ∃ value ∈ values, f value = none := by
  induction values with
  | nil => simp
  | cons value rest ih =>
      cases image : f value with
      | none => simp [image]
      | some _ =>
          rw [List.exists_mem_cons_iff, ← ih, List.mapM_cons, image]
          cases rest.mapM f <;> simp

theorem objectsOf_eq_none {lines : List PyStr} :
    objectsOf lines = none ↔ ∃ line ∈ lines, isBlank line = false ∧ objectOfLine line = none := by
  simp only [objectsOf, mapM_eq_none, List.mem_filter, Bool.not_eq_true', and_assoc]

theorem objectsOf_eq_nil {lines : List PyStr} :
    objectsOf lines = some [] ↔ ∀ line ∈ lines, isBlank line = true := by
  unfold objectsOf
  cases kept : lines.filter fun line => !isBlank line with
  | nil => simpa using kept
  | cons line rest =>
      have member : line ∈ lines.filter fun line => !isBlank line := by simp [kept]
      simp only [List.mapM_cons, Option.bind_eq_bind, Option.pure_def, Option.bind_eq_some_iff,
        Option.some.injEq, reduceCtorEq, and_false, exists_const, false_iff]
      intro blank
      simpa [blank line (List.mem_of_mem_filter member)] using List.of_mem_filter member

/-! ## The loop -/

theorem carries_iff {previous current : PyStr} {ledger audit : Dict PyStr Json} :
    checkRow py previous (.obj ledger) audit = some current ↔
      Carries py previous ledger audit current := by
  rw [checkRow_eq_some]
  constructor
  · rintro ⟨fields, ledgerId, entryHash, isObject, found, sameId, samePrev, rowHash, sameEntry,
      linkHash, sameHash⟩
    cases isObject
    exact ⟨⟨ledgerId, found, sameId⟩, samePrev,
      ⟨entryHash, rowHash, sameEntry, by rwa [found, Option.getD_some]⟩, sameHash⟩
  · rintro ⟨⟨ledgerId, found, sameId⟩, samePrev, ⟨entryHash, rowHash, sameEntry, linkHash⟩, sameHash⟩
    rw [found, Option.getD_some] at linkHash
    exact ⟨ledger, ledgerId, entryHash, rfl, found, sameId, samePrev, rowHash, sameEntry, linkHash,
      sameHash⟩

/-- A round accepts only a ledger row that is an object. -/
theorem checkRow_object {previous current : PyStr} {ledger : Json} {audit : Dict PyStr Json}
    (checked : checkRow py previous ledger audit = some current) :
    ∃ fields, ledger = .obj fields ∧ Carries py previous fields audit current := by
  obtain ⟨fields, -, -, isObject, -⟩ := checkRow_eq_some.mp checked
  subst isObject
  exact ⟨fields, rfl, carries_iff.mp checked⟩

/-- The loop accepts rows of equal number exactly when the ledger rows are objects
whose audit rows carry what they should. -/
theorem checkRows_isSome {previous : PyStr} {ledgers : List Json}
    {audits : List (Dict PyStr Json)} (sameLength : ledgers.length = audits.length) :
    (∃ last, checkRows py previous (ledgers.zip audits) = some last) ↔
      ∃ objects, ledgers.mapM asObject = some objects ∧ CarriesAll py previous objects audits := by
  induction ledgers generalizing previous audits with
  | nil =>
      cases audits with
      | nil => simp [checkRows, CarriesAll]
      | cons audit audits => cases sameLength
  | cons ledger ledgers ih =>
      cases audits with
      | nil => cases sameLength
      | cons audit audits =>
          have restLength : ledgers.length = audits.length := Nat.succ.inj sameLength
          simp only [List.zip_cons_cons, checkRows, Option.bind_eq_bind, Option.bind_eq_some_iff,
            List.mapM_cons, Option.pure_def, Option.some.injEq]
          constructor
          · rintro ⟨last, current, first, others⟩
            obtain ⟨fields, rfl, carries⟩ := checkRow_object first
            obtain ⟨objects, isObjects, rest⟩ := (ih restLength).mp ⟨last, others⟩
            exact ⟨fields :: objects, ⟨fields, rfl, objects, isObjects, rfl⟩, current, carries, rest⟩
          · rintro ⟨_, ⟨fields, isObject, objects, isObjects, rfl⟩, current, carries, rest⟩
            obtain ⟨last, others⟩ := (ih restLength).mpr ⟨objects, isObjects, rest⟩
            rw [asObject_eq_some.mp isObject]
            exact ⟨last, current, carries_iff.mpr carries, others⟩

theorem length_of_carriesAll {previous : PyStr} {ledgers audits : List (Dict PyStr Json)}
    (carries : CarriesAll py previous ledgers audits) : ledgers.length = audits.length := by
  induction ledgers generalizing previous audits with
  | nil =>
      cases audits with
      | nil => rfl
      | cons audit audits => exact carries.elim
  | cons ledger ledgers ih =>
      cases audits with
      | nil => exact carries.elim
      | cons audit audits =>
          obtain ⟨current, -, rest⟩ := carries
          rw [List.length_cons, List.length_cons, ih rest]

/-! ## The files -/

variable {givesUp : PyStr → Bool}

theorem verifiesWithin_eq_true {ledger audit : ByteArray} :
    verifiesWithin givesUp py ledger audit = true ↔
      ∃ ledgers audits last, ledgerRowsWithin givesUp ledger = some ledgers ∧
        auditLinesWithin givesUp audit = some audits ∧ ledgers.length = audits.length ∧
        checkRows py [] (ledgers.zip audits) = some last := by
  unfold verifiesWithin
  split
  · next ledgers audits isLedgers isAudits =>
      simp [isLedgers, isAudits, Option.isSome_iff_exists]
  · next fails =>
      simp only [Bool.false_eq_true, false_iff]
      rintro ⟨ledgers, audits, last, isLedgers, isAudits, -⟩
      exact fails ledgers audits isLedgers isAudits

/-- The rows that are read are those of all lines that are not blank. -/
theorem decoded_of_ledgerRowsWithin {ledger : ByteArray} {ledgers : List Json}
    (read : ledgerRowsWithin givesUp ledger = some ledgers) :
    ∃ text, readText ledger = some text ∧ decodeLines (splitLines text) = some ledgers := by
  obtain ⟨text, isText, rows⟩ := Option.bind_eq_some_iff.mp read
  dsimp only at rows
  split at rows
  · cases rows
  · exact ⟨text, isText, rows⟩

theorem ledgerRowsWithin_of_blank {ledger : ByteArray} (blank : BlankLedger ledger) :
    ledgerRowsWithin givesUp ledger = some [] := by
  obtain ⟨text, isText, blankLines⟩ := blank
  have none : (splitLines text).filter (fun line => !isBlank line) = [] := by
    simpa using blankLines
  rw [ledgerRowsWithin, isText, Option.bind_eq_bind, Option.bind_some, none]
  rfl

theorem auditLoop_of_noObject {readable : Bool} {rows : List (Dict PyStr Json)}
    {lines : List PyStr} (comes : ComesToNoObject givesUp lines) :
    auditLoop givesUp readable rows lines = some [] := by
  obtain ⟨before, line, after, rfl, earlier, text, within, noObject⟩ := comes
  induction before generalizing rows with
  | nil =>
      rw [List.nil_append, auditLoop, if_neg (by simp [text]), if_neg (by simp [within]), noObject]
  | cons first rest ih =>
      obtain ⟨passes, others⟩ := List.forall_mem_cons.mp earlier
      rw [List.cons_append, auditLoop]
      split
      · exact ih others
      · next unblank =>
          obtain ⟨small, row, isRow⟩ := passes.resolve_left unblank
          rw [if_neg (by simp [small]), isRow]
          exact ih others

/-- Otherwise the loop returns at the end of a readable file, with the objects of its lines. -/
theorem objectsOf_of_auditLoop {readable : Bool} {rows result : List (Dict PyStr Json)}
    {lines : List PyStr} (objects : ¬ComesToNoObject givesUp lines)
    (read : auditLoop givesUp readable rows lines = some result) :
    readable = true ∧ ∃ found, objectsOf lines = some found ∧ result = rows ++ found := by
  induction lines generalizing rows with
  | nil =>
      rw [auditLoop] at read
      split at read
      · next isReadable =>
          cases read
          exact ⟨isReadable, [], rfl, (List.append_nil _).symm⟩
      · cases read
  | cons line rest ih =>
      have later : (isBlank line = true ∨ givesUp line = false ∧ ∃ row, objectOfLine line = some row) →
          ¬ComesToNoObject givesUp rest := by
        rintro passes ⟨before, other, after, rfl, earlier, noObject⟩
        exact objects ⟨line :: before, other, after, rfl, List.forall_mem_cons.mpr ⟨passes, earlier⟩,
          noObject⟩
      rw [auditLoop] at read
      split at read
      · next blank =>
          rw [objectsOf_cons_blank blank]
          exact ih (later (.inl blank)) read
      next text =>
      split at read
      · cases read
      next within =>
      rw [Bool.not_eq_true] at text within
      split at read
      · next noObject =>
          exact absurd ⟨[], line, rest, rfl, fun _ member => absurd member List.not_mem_nil, text,
            within, noObject⟩ objects
      · next row isRow =>
          obtain ⟨isReadable, found, isFound, isResult⟩ := ih (later (.inr ⟨within, row, isRow⟩)) read
          refine ⟨isReadable, row :: found, ?_, ?_⟩
          · rw [objectsOf_cons text, isRow, isFound]
            rfl
          · rw [isResult, List.append_assoc, List.singleton_append]

/-- Beside a ledger without rows, a line that is no object leaves no audit rows. -/
theorem accepted_of_noObject {ledger audit : ByteArray} (blank : BlankLedger ledger)
    (comes : ComesToNoObject givesUp (givenLines audit)) :
    verifiesWithin givesUp py ledger audit = true :=
  verifiesWithin_eq_true.mpr ⟨[], [], [], ledgerRowsWithin_of_blank blank,
    auditLoop_of_noObject comes, rfl, rfl⟩

theorem not_wellFormed_of_noObject {ledger audit : ByteArray}
    (comes : ComesToNoObject givesUp (givenLines audit)) : ¬WellFormed py ledger audit := by
  rintro ⟨-, text, -, audits, -, isText, -, isObjects, -⟩
  rw [givenLines_of_readText isText] at comes
  obtain ⟨before, line, after, lines, -, unblank, -, noObject⟩ := comes
  have none := objectsOf_eq_none.mpr ⟨line, lines ▸ List.mem_append_right _ List.mem_cons_self,
    unblank, noObject⟩
  cases none.symm.trans isObjects

/-- The check accepts only well-formed files, except that beside a ledger without rows
it accepts an audit file in which it comes to a line that is neither blank nor an object,
before one that `json.loads` gives up on and before it raises. -/
theorem accepts_only_wellFormed_iff (givesUp : PyStr → Bool) (ledger audit : ByteArray) :
    (verifiesWithin givesUp py ledger audit = true → WellFormed py ledger audit) ↔
      ¬(BlankLedger ledger ∧ ComesToNoObject givesUp (givenLines audit)) := by
  constructor
  · rintro sound ⟨blank, comes⟩
    exact not_wellFormed_of_noObject comes (sound (accepted_of_noObject blank comes))
  · intro condition accepted
    obtain ⟨ledgers, audits, last, isLedgers, isAudits, sameLength, checked⟩ :=
      verifiesWithin_eq_true.mp accepted
    obtain ⟨ledgerText, ledgerRead, decoded⟩ := decoded_of_ledgerRowsWithin isLedgers
    obtain ⟨objects, isObjects, carries⟩ := (checkRows_isSome sameLength).mp ⟨last, checked⟩
    have ledgerObjects : objectsOf (splitLines ledgerText) = some objects := by
      rw [objectsOf_eq, decoded, Option.bind_some, isObjects]
    by_cases comes : ComesToNoObject givesUp (givenLines audit)
    · -- without audit rows the accepted ledger has no rows either
      cases isAudits.symm.trans (auditLoop_of_noObject comes)
      have noRows := List.length_eq_zero_iff.mp (length_of_carriesAll carries)
      subst noRows
      exact absurd ⟨⟨ledgerText, ledgerRead, objectsOf_eq_nil.mp ledgerObjects⟩, comes⟩ condition
    · obtain ⟨readable, found, isFound, isResult⟩ := objectsOf_of_auditLoop comes isAudits
      obtain ⟨auditText, auditRead⟩ := Option.isSome_iff_exists.mp readable
      rw [List.nil_append] at isResult
      rw [givenLines_of_readText auditRead, ← isResult] at isFound
      exact ⟨ledgerText, auditText, objects, audits, ledgerRead, auditRead, ledgerObjects, isFound,
        carries⟩

/-- A file of one letter. -/
def letterFile : ByteArray := ⟨#[0x78]⟩

/-- An emptied ledger beside an audit file of one letter is reported as verified. -/
theorem letter_audit_accepted :
    verifyAuditChain .plain ByteArray.empty letterFile = true ∧
      ¬WellFormed .plain ByteArray.empty letterFile ∧ BlankLedger ByteArray.empty ∧
      readText letterFile = some (lit "x") ∧ isBlank (lit "x") = false := by
  have ledgerRead : readText ByteArray.empty = some [] := by decide +kernel
  have auditRead : readText letterFile = some (lit "x") := by decide +kernel
  have comes : ComesToNoObject (fun _ => false) (givenLines letterFile) := by
    rw [givenLines_of_readText auditRead]
    exact ⟨[], lit "x", [], by decide, by simp, by decide, rfl, by decide +kernel⟩
  have blank : BlankLedger ByteArray.empty := ⟨[], ledgerRead, by simp [splitLines]⟩
  refine ⟨?_, not_wellFormed_of_noObject comes, blank, auditRead, by decide⟩
  rw [← verifiesWithin_none]
  exact accepted_of_noObject blank comes

end HermesMesh.Collab
