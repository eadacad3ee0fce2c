import HermesMesh.Collab.Auth.KillSwitch
import HermesMesh.Collab.Vault.Reader
import HermesMesh.Collab.Vault.StateShape

/-!
# The audit scanner

`audit_identity_scan.py` opens a vault and its `MeshAuth`, reads the ledger and the audit file
line by line, and compares what they name with the nodes, the certificates and the store of the
revoked nodes.  Its report is good exactly when none of these comparisons has found anything,
and a node that was revoked does not escape it.
-/

namespace HermesMesh.Collab

open Python Foundation Foundation.Action

/-! ## Reading -/

/-- A line in `load_jsonl`.  The row of a line that is no JSON object has one field, `_anomaly`,
which is read by nothing. -/
def scannedRow (line : PyStr) : Dict PyStr Json := ((loads line).bind asObject).getD []

/-- `load_jsonl`; `none` is the `UnicodeDecodeError` that it lets through. -/
def loadJsonl (content : ByteArray) : Option (List (Dict PyStr Json)) :=
  (readText content).map fun text => (fileLines text).map scannedRow

/-! ## The comparisons -/

/-- An entry of `anomalies`. -/
inductive Anomaly where
  | chain
  | count (ledger audit : Nat)
  | unnamed (entryId : Json)
  | unregistered (node : PyStr)
  | revoked (node : PyStr)
  | uncertified (node : PyStr)
  | failedCertificate (node : PyStr)
  | unstored (node : PyStr)

/-- The text of the entry. -/
def Anomaly.text (py : Platform) : Anomaly → PyStr
  | .chain => lit "audit chain invalid, truncated, reordered, or mismatched with ledger"
  | .count ledger audit =>
      lit "ledger/audit count mismatch: ledger=" ++ (Json.int ledger).pyStr py.unicode ++
        lit " audit=" ++ (Json.int audit).pyStr py.unicode
  | .unnamed entryId =>
      lit "ledger entry " ++ entryId.pyStr py.unicode ++ lit " has missing node identity"
  | .unregistered node => lit "ledger node " ++ node ++ lit " is not registered in state"
  | .revoked node => lit "revoked node " ++ node ++ lit " appears in ledger"
  | .uncertified node =>
      lit "node " ++ node ++ lit " has missing, expired, revoked, or invalid certificate"
  | .failedCertificate node =>
      lit "registered node " ++ node ++ lit " certificate verification failed"
  | .unstored node =>
      lit "node " ++ node ++ lit " is revoked in state but absent from persistent kill-switch store"

/-- `node.get("status") == "revoked"` -/
def hasRevokedStatus (record : Dict PyStr Json) : Bool :=
  (getOr (lit "status") .null record).pyEq (.str (lit "revoked"))

/-- What the state has of a node of the ledger. -/
def scanStatus (node : PyStr) : Json → Except AuthFault (List Anomaly)
  | .null => .ok [.unregistered node]
  | state => do
      let record ← asDict state
      return if hasRevokedStatus record then [.revoked node] else []

/-- What the loop over the ledger finds in an entry: the node it counts, and the anomalies. -/
structure EntryFinding where
  node : Option PyStr
  anomalies : List Anomaly

/-- An entry that names no node. -/
def unnamedEntry (row : Dict PyStr Json) : EntryFinding :=
  ⟨none, [.unnamed (getOr (lit "id") (.str (lit "<unknown>")) row)]⟩

/-- The body of the loop over the ledger. -/
def scanEntry (authority : CertAuthority) (clock : IdentityClock) (stores : MeshStores)
    (row : Dict PyStr Json) : Except AuthFault EntryFinding :=
  match getOr (lit "node") .null row with
  | .str node =>
      if node = [] then .ok (unnamedEntry row)
      else do
        let nodes ← nodesOf stores.state
        let standing ← scanStatus node ((nodes.get? node).getD .null)
        let verified ← authority.verify clock node .null stores.certificates
        return ⟨some node, standing ++ if verified then [] else [.uncertified node]⟩
  | _ => .ok (unnamedEntry row)

/-- The loop over the ledger; each verification reads a clock of its own. -/
def scanEntries (authority : CertAuthority) (clock : Nat → IdentityClock) (stores : MeshStores) :
    (index : Nat) → List (Dict PyStr Json) → Except AuthFault (List EntryFinding)
  | _, [] => .ok []
  | index, row :: rest => do
      let finding ← scanEntry authority (clock index) stores row
      let findings ← scanEntries authority clock stores (index + 1) rest
      return finding :: findings

/-- The body of the loop over the registered nodes. -/
def scanNode (py : Platform) (authority : CertAuthority) (clock : IdentityClock)
    (stores : MeshStores) (nodeId : PyStr) (node : Json) : Except AuthFault (List Anomaly) := do
  let verified ← authority.verify clock nodeId .null stores.certificates
  let certificate := if verified then [] else [.failedCertificate nodeId]
  let record ← asDict node
  if hasRevokedStatus record then
    let texts ← revokedTexts py stores.revoked
    return certificate ++ if texts.contains nodeId then [] else [.unstored nodeId]
  else return certificate

/-- The loop over the registered nodes. -/
def scanNodes (py : Platform) (authority : CertAuthority) (clock : Nat → IdentityClock)
    (stores : MeshStores) : (index : Nat) → Dict PyStr Json → Except AuthFault (List Anomaly)
  | _, [] => .ok []
  | index, (nodeId, node) :: rest => do
      let found ← scanNode py authority (clock index) stores nodeId node
      let others ← scanNodes py authority clock stores (index + 1) rest
      return found ++ others

/-! ## The report -/

/-- `node_events`, with the nodes in the order in which they are first named. -/
def countEvents (nodes : List PyStr) : Dict PyStr Nat :=
  nodes.foldl (fun counts node => counts.set node ((counts.get? node).getD 0 + 1)) []

/-- `audit_status` of a vault with these files; `none` is the `UnicodeDecodeError`. -/
def auditReport (py : Platform) (ledger audit : ByteArray) : Option CollabVault.AuditStatus := do
  let auditRows ← auditLines audit
  let text ← readText ledger
  let expected := ((splitLines text).filter fun line => !isBlank line).length
  return ⟨verifyAuditChain py ledger audit, auditRows.length, expected, lastHash auditRows⟩

theorem run_auditStatus_fst (py : Platform) (vault : CollabVault) :
    ((CollabVault.auditStatus py).run vault).1 =
      (auditReport py vault.ledger vault.audit).elim (.error .valueError) .ok := by
  rw [CollabVault.auditStatus, run_bind_ok (run_read _), auditReport]
  cases auditLines vault.audit with
  | none => rfl
  | some auditRows => cases readText vault.ledger <;> rfl

/-- The report, but for `root`. -/
structure ScanReport where
  audit : CollabVault.AuditStatus
  ledgerEntries : Nat
  auditEntries : Nat
  nodeEventCounts : Dict PyStr Nat
  unknownNodes : List PyStr
  anomalies : List PyStr
  ok : Bool

/-- The node of an entry that no state knows. -/
def Anomaly.unknown? : Anomaly → Option PyStr
  | .unregistered node => some node
  | _ => none

/-- `scan` from `load_jsonl` on. -/
def scanReport (py : Platform) (authority : CertAuthority) (clock : Nat → IdentityClock)
    (ledger audit : ByteArray) (stores : MeshStores) : Except AuthFault ScanReport := do
  let rows ← (loadJsonl ledger).elim (.error .valueError) .ok
  let auditRows ← (loadJsonl audit).elim (.error .valueError) .ok
  let verified := verifyAuditChain py ledger audit
  let chain := if verified then [] else [.chain]
  let count := if rows.length = auditRows.length then [] else [.count rows.length auditRows.length]
  let findings ← scanEntries authority clock stores 0 rows
  let nodes ← nodesOf stores.state
  let registered ← scanNodes py authority clock stores rows.length nodes
  let found := findings.flatMap EntryFinding.anomalies
  let anomalies := chain ++ count ++ found ++ registered
  let status ← (auditReport py ledger audit).elim (.error .valueError) .ok
  return {
    audit := status
    ledgerEntries := rows.length
    auditEntries := auditRows.length
    nodeEventCounts := countEvents (findings.filterMap EntryFinding.node)
    unknownNodes := sortedTexts (found.filterMap Anomaly.unknown?)
    anomalies := sortedTexts (anomalies.map (Anomaly.text py))
    ok := anomalies.isEmpty }

/-- `scan`: a `CollabVault` and a `MeshAuth` over files in use, and the report on them. -/
def scan (py : Platform) (authority : CertAuthority) (times : Nat → PlainText)
    (clock : Nat → IdentityClock) (ledger audit : ByteArray) :
    Action MeshStores AuthFault ScanReport := do
  restartMesh py times
  let stores ← .read
  .ofExcept (scanReport py authority clock ledger audit stores)

/-! ## A good report -/

section Clean

variable {py : Platform} {authority : CertAuthority} {stores : MeshStores}

/-- The entry names a registered node that is not revoked and has a valid certificate. -/
structure CleanEntry (authority : CertAuthority) (clock : IdentityClock) (stores : MeshStores)
    (row : Dict PyStr Json) (node : PyStr) (nodes record : Dict PyStr Json) : Prop where
  named : getOr (lit "node") .null row = .str node ∧ node ≠ []
  registered : nodesOf stores.state = .ok nodes ∧ nodes.get? node = some (.obj record)
  unrevoked : hasRevokedStatus record = false
  certified : authority.verify clock node .null stores.certificates = .ok true

/-- The registered node has a valid certificate, and is in the store of the revoked nodes where
the state has it as revoked. -/
structure CleanNode (py : Platform) (authority : CertAuthority) (clock : IdentityClock)
    (stores : MeshStores) (nodeId : PyStr) (node : Json) (record : Dict PyStr Json) : Prop where
  isRecord : node = .obj record
  certified : authority.verify clock nodeId .null stores.certificates = .ok true
  stored : hasRevokedStatus record = true → Killed py nodeId stores

theorem scanStatus_eq_nil {node : PyStr} {state : Json} {found : List Anomaly}
    (returned : scanStatus node state = .ok found) :
    found = [] ↔ ∃ record, state = .obj record ∧ hasRevokedStatus record = false := by
  cases state with
  | null =>
      cases returned
      simp
  | obj record =>
      cases returned
      simp
  | _ => cases returned

/-- What the body of the loop over the ledger does: the entry names no node, or the node it names
is looked up and its certificate is verified. -/
theorem scanEntry_eq_ok {clock : IdentityClock} {row : Dict PyStr Json} {finding : EntryFinding}
    (returned : scanEntry authority clock stores row = .ok finding) :
    (finding = unnamedEntry row ∧ ∀ node, getOr (lit "node") .null row = .str node → node = []) ∨
    ∃ node nodes standing verified,
      (getOr (lit "node") .null row = .str node ∧ node ≠ []) ∧
      nodesOf stores.state = .ok nodes ∧
      scanStatus node ((nodes.get? node).getD .null) = .ok standing ∧
      authority.verify clock node .null stores.certificates = .ok verified ∧
      finding = ⟨some node, standing ++ if verified then [] else [.uncertified node]⟩ := by
  unfold scanEntry at returned
  split at returned
  · next node isNode =>
      split at returned
      · next empty =>
          cases returned
          refine .inl ⟨rfl, fun other isOther => ?_⟩
          cases isNode.symm.trans isOther
          exact empty
      · next nonempty =>
          obtain ⟨nodes, table, rest⟩ := except_bind_eq_ok.mp returned
          obtain ⟨standing, isStanding, rest⟩ := except_bind_eq_ok.mp rest
          obtain ⟨verified, isVerified, same⟩ := except_bind_eq_ok.mp rest
          cases same
          exact .inr ⟨node, nodes, standing, verified, ⟨isNode, nonempty⟩, table, isStanding,
            isVerified, rfl⟩
  · next notText =>
      cases returned
      exact .inl ⟨rfl, fun node isNode => absurd isNode (notText node)⟩

/-- What the body of the loop over the ledger finds nothing wrong with. -/
theorem scanEntry_clean_iff {clock : IdentityClock} {row : Dict PyStr Json}
    {finding : EntryFinding} (returned : scanEntry authority clock stores row = .ok finding) :
    finding.anomalies = [] ↔
      ∃ node nodes record, CleanEntry authority clock stores row node nodes record := by
  rcases scanEntry_eq_ok returned with ⟨rfl, nameless⟩ |
    ⟨node, nodes, standing, verified, isNode, table, isStanding, isVerified, rfl⟩
  · constructor
    · intro none
      cases none
    · intro clean
      obtain ⟨node, nodes, record, clean⟩ := clean
      exact absurd (nameless node clean.named.1) clean.named.2
  · rw [List.append_eq_nil_iff, scanStatus_eq_nil isStanding]
    constructor
    · intro clean
      obtain ⟨⟨record, isRecord, unrevoked⟩, certified⟩ := clean
      refine ⟨node, nodes, record, isNode, ⟨table, ?_⟩, unrevoked, ?_⟩
      · cases found : nodes.get? node with
        | none =>
            rw [found] at isRecord
            cases isRecord
        | some value =>
            rw [found] at isRecord
            exact congrArg some isRecord
      · cases verified with
        | true => exact isVerified
        | false => cases certified
    · intro clean
      obtain ⟨other, others, record, clean⟩ := clean
      cases isNode.1.symm.trans clean.named.1
      cases table.symm.trans clean.registered.1
      cases isVerified.symm.trans clean.certified
      refine ⟨⟨record, ?_, clean.unrevoked⟩, rfl⟩
      rw [clean.registered.2]
      rfl

theorem scanEntries_clean_iff {clock : Nat → IdentityClock} {index : Nat}
    {rows : List (Dict PyStr Json)} {findings : List EntryFinding}
    (returned : scanEntries authority clock stores index rows = .ok findings) :
    findings.flatMap EntryFinding.anomalies = [] ↔ ∀ entry ∈ rows.zipIdx index,
      ∃ node nodes record,
        CleanEntry authority (clock entry.2) stores entry.1 node nodes record := by
  induction rows generalizing index findings with
  | nil =>
      cases returned
      simp
  | cons row rest ih =>
      obtain ⟨finding, isFinding, others⟩ := except_bind_eq_ok.mp returned
      obtain ⟨findings, isFindings, same⟩ := except_bind_eq_ok.mp others
      cases same
      rw [List.flatMap_cons, List.append_eq_nil_iff, scanEntry_clean_iff isFinding, ih isFindings,
        List.zipIdx_cons, List.forall_mem_cons]

/-- What the body of the loop over the nodes finds nothing wrong with. -/
theorem scanNode_clean_iff {clock : IdentityClock} {nodeId : PyStr} {node : Json}
    {found : List Anomaly} (returned : scanNode py authority clock stores nodeId node = .ok found) :
    found = [] ↔ ∃ record, CleanNode py authority clock stores nodeId node record := by
  obtain ⟨verified, isVerified, rest⟩ := except_bind_eq_ok.mp returned
  obtain ⟨record, isRecord, rest⟩ := except_bind_eq_ok.mp rest
  have isNode := asDict_eq_ok.mp isRecord
  have certificate : (if verified then [] else [Anomaly.failedCertificate nodeId]) = [] ↔
      authority.verify clock nodeId .null stores.certificates = .ok true := by
    rw [isVerified]
    cases verified <;> simp
  have clean : (∃ record, CleanNode py authority clock stores nodeId node record) ↔
      authority.verify clock nodeId .null stores.certificates = .ok true ∧
        (hasRevokedStatus record = true → Killed py nodeId stores) := by
    constructor
    · intro clean
      obtain ⟨other, same, certified, stored⟩ := clean
      cases isNode.symm.trans same
      exact ⟨certified, stored⟩
    · exact fun clean => ⟨record, isNode, clean.1, clean.2⟩
  rw [clean]
  split at rest
  · next isRevoked =>
      obtain ⟨texts, read, same⟩ := except_bind_eq_ok.mp rest
      cases same
      have stored : (if texts.contains nodeId then [] else [Anomaly.unstored nodeId]) = [] ↔
          (hasRevokedStatus record = true → Killed py nodeId stores) := by
        constructor
        · intro none _
          refine ⟨texts, read, ?_⟩
          by_contra absent
          rw [if_neg fun listed => absent (List.contains_iff_mem.mp listed)] at none
          cases none
        · intro killed
          obtain ⟨others, alsoRead, member⟩ := killed isRevoked
          cases read.symm.trans alsoRead
          exact if_pos (List.contains_iff_mem.mpr member)
      rw [List.append_eq_nil_iff, certificate, stored]
  · next unrevoked =>
      cases rest
      rw [certificate]
      exact ⟨fun certified => ⟨certified, fun isRevoked => absurd isRevoked unrevoked⟩, And.left⟩

theorem scanNodes_clean_iff {clock : Nat → IdentityClock} {index : Nat} {nodes : Dict PyStr Json}
    {found : List Anomaly}
    (returned : scanNodes py authority clock stores index nodes = .ok found) :
    found = [] ↔ ∀ entry ∈ nodes.zipIdx index,
      ∃ record, CleanNode py authority (clock entry.2) stores entry.1.1 entry.1.2 record := by
  induction nodes generalizing index found with
  | nil =>
      cases returned
      simp
  | cons node rest ih =>
      obtain ⟨nodeId, node⟩ := node
      obtain ⟨first, isFirst, others⟩ := except_bind_eq_ok.mp returned
      obtain ⟨last, isLast, same⟩ := except_bind_eq_ok.mp others
      cases same
      rw [List.append_eq_nil_iff, scanNode_clean_iff isFirst, ih isLast, List.zipIdx_cons,
        List.forall_mem_cons]

theorem option_elim_eq_ok {α : Type} {value? : Option α} {fault : AuthFault} {value : α}
    (returned : value?.elim (.error fault) .ok = (.ok value : Except AuthFault α)) :
    value? = some value := by
  cases value? with
  | none => cases returned
  | some other =>
      cases returned
      rfl

/-- What is read and found on the way to a report. -/
structure ScanSteps (py : Platform) (authority : CertAuthority) (clock : Nat → IdentityClock)
    (ledger audit : ByteArray) (stores : MeshStores) (rows auditRows : List (Dict PyStr Json))
    (findings : List EntryFinding) (nodes : Dict PyStr Json) (registered : List Anomaly)
    (status : CollabVault.AuditStatus) : Prop where
  ledgerRead : loadJsonl ledger = some rows
  auditRead : loadJsonl audit = some auditRows
  entries : scanEntries authority clock stores 0 rows = .ok findings
  table : nodesOf stores.state = .ok nodes
  registered : scanNodes py authority clock stores rows.length nodes = .ok registered
  reported : auditReport py ledger audit = some status

/-- All anomalies, in the order in which they are found. -/
def allAnomalies (py : Platform) (ledger audit : ByteArray)
    (rows auditRows : List (Dict PyStr Json)) (findings : List EntryFinding)
    (registered : List Anomaly) : List Anomaly :=
  (if verifyAuditChain py ledger audit then [] else [.chain]) ++
    (if rows.length = auditRows.length then [] else [.count rows.length auditRows.length]) ++
      findings.flatMap EntryFinding.anomalies ++ registered

theorem scanReport_eq_ok {clock : Nat → IdentityClock} {ledger audit : ByteArray}
    {report : ScanReport}
    (returned : scanReport py authority clock ledger audit stores = .ok report) :
    ∃ rows auditRows findings nodes registered status,
      ScanSteps py authority clock ledger audit stores rows auditRows findings nodes registered
        status ∧
      report.ok = (allAnomalies py ledger audit rows auditRows findings registered).isEmpty ∧
      report.anomalies = sortedTexts ((allAnomalies py ledger audit rows auditRows findings
        registered).map (Anomaly.text py)) := by
  obtain ⟨rows, isRows, rest⟩ := except_bind_eq_ok.mp returned
  obtain ⟨auditRows, isAuditRows, rest⟩ := except_bind_eq_ok.mp rest
  obtain ⟨findings, isFindings, rest⟩ := except_bind_eq_ok.mp rest
  obtain ⟨nodes, isNodes, rest⟩ := except_bind_eq_ok.mp rest
  obtain ⟨registered, isRegistered, rest⟩ := except_bind_eq_ok.mp rest
  obtain ⟨status, isStatus, same⟩ := except_bind_eq_ok.mp rest
  cases same
  exact ⟨rows, auditRows, findings, nodes, registered, status,
    ⟨option_elim_eq_ok isRows, option_elim_eq_ok isAuditRows, isFindings, isNodes, isRegistered,
      option_elim_eq_ok isStatus⟩, rfl, rfl⟩

/-- What a good report says of the mesh. -/
structure CleanMesh (py : Platform) (authority : CertAuthority) (clock : Nat → IdentityClock)
    (ledger audit : ByteArray) (stores : MeshStores) (rows auditRows : List (Dict PyStr Json))
    (nodes : Dict PyStr Json) : Prop where
  read : loadJsonl ledger = some rows ∧ loadJsonl audit = some auditRows
  chain : verifyAuditChain py ledger audit = true
  count : rows.length = auditRows.length
  entries : ∀ entry ∈ rows.zipIdx, ∃ node nodes record,
    CleanEntry authority (clock entry.2) stores entry.1 node nodes record
  table : nodesOf stores.state = .ok nodes
  nodes : ∀ entry ∈ nodes.zipIdx rows.length, ∃ record,
    CleanNode py authority (clock entry.2) stores entry.1.1 entry.1.2 record

/-- A scan reports on the stores as the start of the `MeshAuth` leaves them. -/
theorem scan_eq_ok {times : Nat → PlainText} {clock : Nat → IdentityClock}
    {ledger audit : ByteArray} {report : ScanReport} {after : MeshStores}
    (scanned : (scan py authority times clock ledger audit).run stores = (.ok report, after)) :
    (restartMesh py times).run stores = (.ok (), after) ∧
      scanReport py authority clock ledger audit after = .ok report := by
  obtain ⟨_, opened, restarted, rest⟩ := run_bind_eq_ok.mp scanned
  obtain ⟨_, middle, same, reported⟩ := run_bind_eq_ok.mp rest
  cases same
  rw [run_ofExcept] at reported
  obtain ⟨returned, rfl⟩ := Prod.mk.inj reported
  exact ⟨restarted, returned⟩

theorem exists_of_isOk {α σ : Type} {outcome : Except AuthFault α × σ}
    (isOk : outcome.1.isOk = true) : ∃ value, outcome = (.ok value, outcome.2) := by
  obtain ⟨result, after⟩ := outcome
  cases result with
  | error fault => cases isOk
  | ok value => exact ⟨value, rfl⟩

/-- The clock of the scans below. -/
def TokenMoment.scanClock (index : Nat) : IdentityClock :=
  ⟨TokenMoment.sample.parseIso, TokenMoment.sample.identityClock index⟩

/-- An entry that names `bob`, and the ledger of it alone. -/
def bobRow : Dict PyStr Json := [(lit "node", .str (lit "bob"))]

def bobLedger : ByteArray := (jsonBytes (.obj bobRow)).getD ByteArray.empty

/-- A scan of the mesh that has just revoked `bob`. -/
def bobScan : Except AuthFault ScanReport × MeshStores :=
  (scan .plain sealing (fun _ => JoinMoment.sample.now) TokenMoment.scanClock bobLedger
    ByteArray.empty).run (bobMesh.run .fresh (bobJoins ++ bobLeaves.take 1))

theorem bob_is_scanned : bobScan.1.isOk = true := by decide +kernel

/-- A report is good exactly when the chain verifies, both files have one line for each other,
every line of the ledger names a registered node in good standing, and every registered node has
a valid certificate and is revoked in both places or in none. -/
theorem scan_ok_iff {clock : Nat → IdentityClock} {ledger audit : ByteArray} {report : ScanReport}
    (returned : scanReport py authority clock ledger audit stores = .ok report) :
    report.ok = true ↔ ∃ rows auditRows nodes,
      CleanMesh py authority clock ledger audit stores rows auditRows nodes := by
  obtain ⟨rows, auditRows, findings, nodes, registered, _, steps, isOk, -⟩ :=
    scanReport_eq_ok returned
  have chain : (if verifyAuditChain py ledger audit then [] else [Anomaly.chain]) = [] ↔
      verifyAuditChain py ledger audit = true := by
    cases verifyAuditChain py ledger audit <;> simp
  have count : (if rows.length = auditRows.length then []
      else [Anomaly.count rows.length auditRows.length]) = [] ↔ rows.length = auditRows.length := by
    split <;> simp [*]
  rw [isOk, List.isEmpty_iff, allAnomalies, List.append_eq_nil_iff, List.append_eq_nil_iff,
    List.append_eq_nil_iff, chain, count, scanEntries_clean_iff steps.entries,
    scanNodes_clean_iff steps.registered]
  constructor
  · intro clean
    obtain ⟨⟨⟨verified, equal⟩, entries⟩, registered⟩ := clean
    exact ⟨rows, auditRows, nodes, ⟨steps.ledgerRead, steps.auditRead⟩, verified, equal, entries,
      steps.table, registered⟩
  · intro clean
    obtain ⟨others, otherRows, table, clean⟩ := clean
    cases steps.ledgerRead.symm.trans clean.read.1
    cases steps.auditRead.symm.trans clean.read.2
    cases steps.table.symm.trans clean.table
    exact ⟨⟨⟨clean.chain, clean.count⟩, clean.entries⟩, clean.nodes⟩

theorem scan_ok_iff_bob : ∃ report,
    scanReport .plain sealing TokenMoment.scanClock bobLedger ByteArray.empty bobScan.2 =
      .ok report ∧
    (report.ok = true ↔ ∃ rows auditRows nodes, CleanMesh .plain sealing TokenMoment.scanClock
      bobLedger ByteArray.empty bobScan.2 rows auditRows nodes) := by
  obtain ⟨report, scanned⟩ := exists_of_isOk bob_is_scanned
  have returned := (scan_eq_ok scanned).2
  exact ⟨report, returned, scan_ok_iff returned⟩

end Clean

/-! ## Revoked nodes -/

section Revoked

variable {py : Platform} {calendar : Calendar} {authority : CertAuthority} {nodeId : PyStr}

/-- The state has the node as revoked. -/
def RevokedIn (nodeId : PyStr) (state : Dict PyStr Json) : Prop :=
  ∃ nodes record, nodesOf state = .ok nodes ∧ nodes.get? nodeId = some (.obj record) ∧
    hasRevokedStatus record = true

theorem hasRevokedStatus_markedRecord (now : PlainText) (record : Dict PyStr Json) :
    hasRevokedStatus (RawVault.markedRecord now record) = true := by
  rw [hasRevokedStatus, RawVault.markedRecord, getOr, Dict.get?_set_of_ne (by simp),
    Dict.get?_set_self, Option.getD_some, Json.pyEq_str, beq_self_eq_true]

theorem nodesOf_setNodes (state nodes : Dict PyStr Json) :
    nodesOf (state.set (lit "nodes") (.obj nodes)) = .ok nodes := by
  rw [nodesOf, getOr, Dict.get?_set_self]
  rfl

/-- What a mark leaves in the state. -/
theorem markRevoked_eq_ok {now : PlainText} {marked : PyStr} {vault after : RawVault}
    (ran : (RawVault.markRevoked now marked).run vault = (.ok (), after)) :
    ∃ nodes record, nodesOf vault.state = .ok nodes ∧
      after.state = vault.state.set (lit "nodes")
        (.obj (nodes.set marked (.obj (RawVault.markedRecord now record)))) := by
  obtain ⟨found, middle, read, rest⟩ := run_bind_eq_ok.mp ran
  cases read
  obtain ⟨nodes, middle, tabled, rest⟩ := run_bind_eq_ok.mp rest
  obtain ⟨record, other, recorded, rest⟩ := run_bind_eq_ok.mp rest
  obtain ⟨_, last, updated, saved⟩ := run_bind_eq_ok.mp rest
  rw [run_ofExcept] at tabled recorded
  obtain ⟨table, rfl⟩ := Prod.mk.inj tabled
  obtain ⟨-, rfl⟩ := Prod.mk.inj recorded
  cases updated
  refine ⟨nodes, record, table, ?_⟩
  have kept : Within (Agree RawVault.state) RawVault.saveState := by
    refine within_bind within_read fun vault => ?_
    split
    · exact within_modify fun _ => rfl
    · exact within_raise _
  have same := kept (vault.setField (lit "nodes")
    (.obj (nodes.set marked (.obj (RawVault.markedRecord now record)))))
  rw [saved] at same
  exact same

/-- A mark of a node stays, whichever nodes are marked after it. -/
theorem revokedIn_markRevoked {now : PlainText} {marked : PyStr} {vault after : RawVault}
    (ran : (RawVault.markRevoked now marked).run vault = (.ok (), after))
    (known : nodeId = marked ∨ RevokedIn nodeId vault.state) : RevokedIn nodeId after.state := by
  obtain ⟨nodes, record, table, isState⟩ := markRevoked_eq_ok ran
  rw [isState]
  by_cases same : nodeId = marked
  · subst same
    exact ⟨_, _, nodesOf_setNodes _ _, Dict.get?_set_self _ _ _, hasRevokedStatus_markedRecord _ _⟩
  · obtain ⟨others, old, alsoTable, found, isRevoked⟩ := known.resolve_left same
    cases table.symm.trans alsoTable
    refine ⟨_, old, nodesOf_setNodes _ _, ?_, isRevoked⟩
    rw [Dict.get?_set_of_ne same]
    exact found

theorem revokedIn_markAllRevoked {times : Nat → PlainText} {index : Nat} {texts : List PyStr}
    {vault after : RawVault}
    (ran : (markAllRevoked times index texts).run vault = (.ok (), after))
    (known : nodeId ∈ texts ∨ RevokedIn nodeId vault.state) : RevokedIn nodeId after.state := by
  induction texts generalizing index vault with
  | nil =>
      cases ran
      exact known.resolve_left List.not_mem_nil
  | cons text rest ih =>
      obtain ⟨_, middle, marked, others⟩ := run_bind_eq_ok.mp ran
      apply ih others
      rcases known with member | before
      · rcases List.mem_cons.mp member with rfl | later
        · exact .inr (revokedIn_markRevoked marked (.inl rfl))
        · exact .inl later
      · exact .inr (revokedIn_markRevoked marked (.inr before))

/-- A `MeshAuth` that starts with the node in its store of the revoked nodes marks it in the
vault, whatever `state.json` has of it. -/
theorem revokedIn_restartMesh {times : Nat → PlainText} {stores after : MeshStores}
    (killed : Killed py nodeId stores)
    (ran : (restartMesh py times).run stores = (.ok (), after)) : RevokedIn nodeId after.state := by
  obtain ⟨found, middle, read, rest⟩ := run_bind_eq_ok.mp ran
  cases read
  obtain ⟨state, middle, loaded, rest⟩ := run_bind_eq_ok.mp rest
  obtain ⟨_, started, updated, rest⟩ := run_bind_eq_ok.mp rest
  obtain ⟨texts, last, listed, marks⟩ := run_bind_eq_ok.mp rest
  rw [run_ofExcept] at loaded listed
  obtain ⟨-, rfl⟩ := Prod.mk.inj loaded
  cases updated
  obtain ⟨isTexts, rfl⟩ := Prod.mk.inj listed
  obtain ⟨known, alsoRead, member⟩ := killed
  cases isTexts.symm.trans alsoRead
  rw [onVaultState, run_zoom] at marks
  obtain ⟨returned, rfl⟩ := Prod.mk.inj marks
  exact revokedIn_markAllRevoked (Prod.ext returned rfl) (.inl member)

theorem scanEntry_revoked {clock : IdentityClock} {stores : MeshStores} {row : Dict PyStr Json}
    {finding : EntryFinding} (returned : scanEntry authority clock stores row = .ok finding)
    (isNode : getOr (lit "node") .null row = .str nodeId) (named : nodeId ≠ [])
    (revoked : RevokedIn nodeId stores.state) : .revoked nodeId ∈ finding.anomalies := by
  obtain ⟨nodes, record, table, found, isRevoked⟩ := revoked
  rcases scanEntry_eq_ok returned with ⟨-, nameless⟩ |
    ⟨node, others, standing, verified, ⟨isText, -⟩, alsoTable, isStanding, -, rfl⟩
  · exact absurd (nameless nodeId isNode) named
  · cases isText.symm.trans isNode
    cases table.symm.trans alsoTable
    rw [found, Option.getD_some] at isStanding
    have listed := Except.ok.inj isStanding
    rw [if_pos isRevoked] at listed
    rw [← listed]
    exact List.mem_cons_self

theorem mem_scanEntries {clock : Nat → IdentityClock} {stores : MeshStores} {index : Nat}
    {rows : List (Dict PyStr Json)} {findings : List EntryFinding}
    (returned : scanEntries authority clock stores index rows = .ok findings)
    {row : Dict PyStr Json} (member : row ∈ rows) :
    ∃ finding ∈ findings, ∃ index, scanEntry authority (clock index) stores row = .ok finding := by
  induction rows generalizing index findings with
  | nil => cases member
  | cons first rest ih =>
      obtain ⟨finding, isFinding, others⟩ := except_bind_eq_ok.mp returned
      obtain ⟨findings, isFindings, same⟩ := except_bind_eq_ok.mp others
      cases same
      rcases List.mem_cons.mp member with rfl | later
      · exact ⟨finding, List.mem_cons_self, index, isFinding⟩
      · obtain ⟨found, inside, scanned⟩ := ih isFindings later
        exact ⟨found, List.mem_cons_of_mem _ inside, scanned⟩

theorem killed_throughout {start : MeshStores} {calls : List MeshAuthCall}
    {past future : List MeshAuthEvent} {event : MeshAuthEvent}
    (split : (meshAuthMachine py calendar authority).trace start calls = past ++ event :: future)
    {now : PlainText} (asked : event.input = .revoke now nodeId)
    (done : event.output = .revoked true) :
    Killed py nodeId ((meshAuthMachine py calendar authority).run start calls) := by
  obtain ⟨earlier, call, rest, rfl, -, rfl, rfl⟩ := Machine.trace_split split
  cases asked
  rw [Machine.run_append, Machine.run_cons]
  exact Machine.run_invariant (fun _ _ => True) (Killed py nodeId)
    (fun _ call killed _ => killed_step call killed)
    (@killed_of_revoked py calendar authority nodeId now _ done)
    (Machine.allowed_of_forall _ (fun _ _ _ => trivial) _)

/-- Once a revocation of a node has succeeded, every later scan that gives a report flags each
ledger that names the node, whatever has become of the state and of the certificates. -/
theorem scan_flags_revoked {start : MeshStores} {calls : List MeshAuthCall}
    {past future : List MeshAuthEvent} {event : MeshAuthEvent}
    (split : (meshAuthMachine py calendar authority).trace start calls = past ++ event :: future)
    {now : PlainText} (asked : event.input = .revoke now nodeId)
    (done : event.output = .revoked true) (named : nodeId ≠ [])
    {times : Nat → PlainText} {clock : Nat → IdentityClock} {ledger audit : ByteArray}
    {report : ScanReport} {after : MeshStores}
    (scanned : (scan py authority times clock ledger audit).run
      ((meshAuthMachine py calendar authority).run start calls) = (.ok report, after))
    {rows : List (Dict PyStr Json)} (read : loadJsonl ledger = some rows)
    {row : Dict PyStr Json} (member : row ∈ rows)
    (isNode : getOr (lit "node") .null row = .str nodeId) :
    (Anomaly.revoked nodeId).text py ∈ report.anomalies ∧ report.ok = false := by
  have killed := killed_throughout split asked done
  obtain ⟨restarted, returned⟩ := scan_eq_ok scanned
  have revoked := revokedIn_restartMesh killed restarted
  obtain ⟨others, auditRows, findings, nodes, registered, _, steps, isOk, anomalies⟩ :=
    scanReport_eq_ok returned
  cases read.symm.trans steps.ledgerRead
  obtain ⟨finding, inside, index, found⟩ := mem_scanEntries steps.entries member
  have flagged : Anomaly.revoked nodeId ∈
      allAnomalies py ledger audit rows auditRows findings registered := by
    apply List.mem_append_left
    apply List.mem_append_right
    exact List.mem_flatMap.mpr ⟨finding, inside, scanEntry_revoked found isNode named revoked⟩
  constructor
  · rw [anomalies]
    exact mem_sortedTexts.mpr (List.mem_map_of_mem flagged)
  · rw [isOk]
    apply Bool.eq_false_iff.mpr
    intro empty
    rw [List.isEmpty_iff.mp empty] at flagged
    cases flagged

theorem loadJsonl_bobLedger : loadJsonl bobLedger = some [bobRow] := by
  have written : jsonBytes (.obj bobRow) = some bobLedger :=
    written_getD ⟨encodable_lit _, encodable_lit _, trivial⟩
  have uncontrolled := Json.uncontrolled_canonical (.obj bobRow)
  have read := @readText_joinRows [(Json.obj bobRow).dumps .canonical] bobLedger
    (List.forall_mem_singleton.mpr uncontrolled) (by simpa [jsonBytes] using written)
  have unbroken : lineFeed ∉ (Json.obj bobRow).dumps .canonical := by
    intro member
    have large := uncontrolled _ member
    simp [lineFeed] at large
  have loaded : loads ((Json.obj bobRow).dumps .canonical ++ [lineFeed]) = some (.obj bobRow) :=
    @Json.loads_canonical (.obj bobRow) ⟨List.nodup_singleton _, trivial, trivial⟩ [lineFeed]
      (List.forall_mem_singleton.mpr (by decide))
  rw [loadJsonl, read, Option.map_some, fileLines_joinRows (List.forall_mem_singleton.mpr unbroken),
    List.map_singleton, List.map_singleton, scannedRow, loaded]
  rfl

theorem scan_flags_revoked_bob : ∃ report, bobScan = (.ok report, bobScan.2) ∧
    (Anomaly.revoked (lit "bob")).text .plain ∈ report.anomalies ∧ report.ok = false := by
  obtain ⟨past, event, future, split, asked, output⟩ := Machine.exists_event bobMesh .fresh bobJoins
    (.revoke JoinMoment.sample.now (lit "bob")) []
  have done := output.trans (MeshAuthReply.eq_of_isRevoked bob_is_revoked)
  obtain ⟨report, scanned⟩ := exists_of_isOk bob_is_scanned
  exact ⟨report, scanned, scan_flags_revoked split asked done (by decide) scanned
    loadJsonl_bobLedger List.mem_cons_self rfl⟩

end Revoked

end HermesMesh.Collab
