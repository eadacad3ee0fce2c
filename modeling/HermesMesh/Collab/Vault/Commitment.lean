import HermesMesh.Collab.Vault.ChainRuns

/-!
# The audit head commits to the ledger

When `verify_audit_chain` accepts two pairs of files whose audit files end with
the same hash, the ledgers hold the same objects in the same order: canonical
texts determine the hashed rows up to the order of fields.
-/

namespace HermesMesh.Collab

open Python Foundation

variable {py : Platform}

/-- Without collisions a hash determines the hashed value up to the order of fields. -/
theorem ordered_eq_of_hash_eq (collisionFree : Function.Injective py.sha256) {left right : Json}
    (leftDistinct : left.Distinct) (rightDistinct : right.Distinct) {hash : PyStr}
    (leftHash : hashOf py left = some hash) (rightHash : hashOf py right = some hash) :
    left.ordered .canonical = right.ordered .canonical := by
  obtain ⟨-, leftBytes, leftEncoded, leftText⟩ := hashOf_eq_some.mp leftHash
  obtain ⟨-, rightBytes, rightEncoded, rightText⟩ := hashOf_eq_some.mp rightHash
  have sameBytes := collisionFree (digest_ext (leftText.trans rightText.symm))
  rw [sameBytes] at leftEncoded
  exact Json.ordered_eq_of_dumps_eq leftDistinct rightDistinct
    (encodeUtf8_injective leftEncoded rightEncoded)

theorem distinct_linkJson {ledgerId prevHash : Json} (idDistinct : ledgerId.Distinct)
    (prevDistinct : prevHash.Distinct) (entryHash : PyStr) :
    (linkJson ledgerId prevHash entryHash).Distinct := by
  refine ⟨?_, idDistinct, prevDistinct, trivial, trivial⟩
  simp only [List.map_cons, List.map_nil, List.nodup_cons, List.mem_cons, lit_inj]
  decide

/-- The hashed link determines its previous hash and its entry hash. -/
theorem linkJson_inj {ledgerId ledgerId' : Json} {prev prev' entryHash entryHash' : PyStr}
    (distinct : ledgerId.Distinct) (distinct' : ledgerId'.Distinct)
    (same : (linkJson ledgerId (.str prev) entryHash).ordered .canonical =
      (linkJson ledgerId' (.str prev') entryHash').ordered .canonical) :
    prev = prev' ∧ entryHash = entryHash' := by
  have keys := (@distinct_linkJson _ (.str prev) distinct trivial entryHash).1
  have keys' := (@distinct_linkJson _ (.str prev') distinct' trivial entryHash').1
  have fields := Json.obj.inj same
  have lookup : ∀ key, _ := fun key =>
    (Json.get?_orderedFields .canonical keys key).symm.trans
      ((congrArg (Dict.get? key) fields).trans (Json.get?_orderedFields .canonical keys' key))
  have prevs := lookup (lit "prev_hash")
  have entries := lookup (lit "entry_hash")
  simp only [Dict.get?, lit_inj] at prevs entries
  simp [Json.ordered] at prevs entries
  exact ⟨prevs, entries⟩

/-- The audit chain binds its rows, up to the order of fields. -/
theorem auditChain_binding (collisionFree : Function.Injective py.sha256) :
    (auditChain py).Binding DistinctPair fun entry => entry.2.ordered .canonical where
  link_injective := by
    intro before before' entry entry' digest good good' linked linked'
    simp only [auditChain, Option.bind_eq_bind, Option.bind_eq_some_iff] at linked linked'
    obtain ⟨entryHash, rowHash, linkHash⟩ := linked
    obtain ⟨entryHash', rowHash', linkHash'⟩ := linked'
    have links := ordered_eq_of_hash_eq collisionFree (@distinct_linkJson _ (.str before) good.1 trivial entryHash)
      (@distinct_linkJson _ (.str before') good'.1 trivial entryHash') linkHash linkHash'
    obtain ⟨rfl, rfl⟩ := linkJson_inj good.1 good'.1 links
    exact ⟨rfl, ordered_eq_of_hash_eq collisionFree good.2 good'.2 rowHash rowHash'⟩
  fresh := by
    intro before entry linked
    simp only [auditChain, Option.bind_eq_bind, Option.bind_eq_some_iff] at linked
    obtain ⟨entryHash, -, linkHash⟩ := linked
    exact hash_ne_nil linkHash rfl

/-- Two accepted pairs of files whose audit files end with the same hash have
ledgers that decode to the same objects, in the same order and number. -/
theorem ledger_of_audit_head (collisionFree : Function.Injective py.sha256)
    {ledger audit ledger' audit' : ByteArray} (verified : verifyAuditChain py ledger audit = true)
    (verified' : verifyAuditChain py ledger' audit' = true)
    (sameHead : (auditLines audit).map lastHash = (auditLines audit').map lastHash) :
    ∃ rows rows', ledgerRows ledger = some rows ∧ ledgerRows ledger' = some rows' ∧
      rows.map (Json.ordered .canonical) = rows'.map (Json.ordered .canonical) := by
  obtain ⟨rows, audits, entries, last, isRows, isAudits, good, decoded, head, ends⟩ :=
    head_of_verified verified
  obtain ⟨rows', audits', entries', last', isRows', isAudits', good', decoded', head', ends'⟩ :=
    head_of_verified verified'
  rw [isAudits, isAudits', Option.map_some, Option.map_some, lastHash_of_endsWith ends,
    lastHash_of_endsWith ends'] at sameHead
  have sameLast : last = last' := by simpa using sameHead
  have committed := HashChain.head_commits (auditChain_binding collisionFree) good good' head
    (sameLast ▸ head')
  refine ⟨rows, rows', isRows, isRows', ?_⟩
  rw [← decoded, ← decoded', List.map_map, List.map_map]
  exact committed

/-- The vault after two greetings. -/
def greeted (c : CodePoint) : CollabVault :=
  (vaultMachine .plain).run (CollabVault.fresh []) [greetingCall c, .reopen, greetingCall c]

theorem recorded_greeted {c : CodePoint} (plain : IsPlain c) :
    ∃ records, Recorded .plain records (greeted c) := by
  refine recorded_run [] fun call member => ?_
  simp only [List.mem_cons, List.not_mem_nil, or_false] at member
  rcases member with rfl | rfl | rfl
  · exact lineSafe_greetingCall plain
  · trivial
  · exact lineSafe_greetingCall plain

/-- A blank line, which the check of the chain passes over. -/
def blankLine : ByteArray := ⟨#[10]⟩

theorem ledgerRows_blankLine {records : List Record} {vault : CollabVault}
    (recorded : Recorded py records vault) :
    ledgerRows (vault.ledger ++ blankLine) = ledgerRows vault.ledger := by
  have isBlankLine : encodeUtf8 (joinRows [[]]) = some blankLine := rfl
  have encoded := encodeUtf8_append recorded.ledger isBlankLine
  rw [← joinRows_append] at encoded
  have text := readText_joinRows (fun line member => ?_) encoded
  · have unbroken : ∀ line ∈ records.map Record.ledgerLine ++ [[]], ∀ c ∈ line,
        isLineBreak c = false := by
      intro line member
      rcases List.mem_append.mp member with inLedger | isBlank
      · obtain ⟨record, inRecords, rfl⟩ := List.mem_map.mp inLedger
        exact recorded.unbroken record inRecords
      · rw [List.mem_singleton.mp isBlank]
        exact List.forall_mem_nil _
    rw [ledgerRows, ledgerRows, text, recorded.ledgerText]
    simp only [Option.bind_eq_bind, Option.bind_some, splitLines_joinRows unbroken,
      recorded.ledgerLines, decodeLines, List.filter_append]
    rw [show [([] : PyStr)].filter (fun line => !isBlank line) = [] from rfl, List.append_nil]
  · rcases List.mem_append.mp member with inLedger | isBlank
    · obtain ⟨record, -, rfl⟩ := List.mem_map.mp inLedger
      exact Json.uncontrolled_canonical _
    · rw [List.mem_singleton.mp isBlank]
      exact List.forall_mem_nil _

theorem verified_blankLine {records : List Record} {vault : CollabVault}
    (recorded : Recorded py records vault) :
    verifyAuditChain py (vault.ledger ++ blankLine) vault.audit = true := by
  rw [verifyAuditChain, ledgerRows_blankLine recorded]
  exact recorded.chainVerified

/-- The same audit file vouches for the ledger and for one with a blank line behind it. -/
theorem greeted_ledger : ∃ rows rows', ledgerRows (greeted 0x21).ledger = some rows ∧
    ledgerRows ((greeted 0x21).ledger ++ blankLine) = some rows' ∧
      rows.map (Json.ordered .canonical) = rows'.map (Json.ordered .canonical) := by
  obtain ⟨records, recorded⟩ := @recorded_greeted 0x21 (by decide)
  exact ledger_of_audit_head Digest.ofBytes_injective recorded.chainVerified
    (verified_blankLine recorded) rfl

end HermesMesh.Collab
