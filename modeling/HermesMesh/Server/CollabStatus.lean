import HermesMesh.Collab.Auth.Identity
import HermesMesh.Collab.Vault.Reader
import HermesMesh.Collab.Vault.State
import HermesMesh.Server.RelayAgreement

/-!
# The state that the dashboards and nodes are shown

`_collab_status` gathers the vault's state, the certificates and the latest activity.  It
returns for every ledger that `append_event` has written and every certificate that has been
issued.
-/

namespace HermesMesh.Server

open Python Foundation Foundation.Action Collab MonitorServer

/-- What `_collab_status` reads beside the server. -/
structure MeshView where
  /-- The certificates of the identity manager. -/
  certs : Dict PyStr Json
  clock : IdentityClock
  fingerprint : PyStr
  /-- `list_files()` -/
  files : List PyStr
  limited : Nat
  lastLimited : Option PyStr

/-! ## Certificates -/

/-- `identity.certificate(node_id)` -/
def certificateOf (certs : Dict PyStr Json) (nodeId : PyStr) : Except AuthFault Json :=
  let cert := (certs.get? nodeId).getD .null
  if cert.truthy then do
    return .obj (← asDict cert)
  else return .null

/-- The `certificate` of a node. -/
def certificateStatus (authority : CertAuthority) (view : MeshView) (nodeId : PyStr) :
    Except AuthFault Json := do
  let cert ← certificateOf view.certs nodeId
  let valid ← authority.verify view.clock nodeId cert view.certs
  match cert with
  | .obj fields =>
      return .obj [(lit "valid", .bool valid), (lit "expires_at", getOr (lit "expires_at") .null fields),
        (lit "revoked", .bool (getOr (lit "revoked") .null fields).truthy)]
  | _ => return .obj [(lit "valid", .bool valid), (lit "expires_at", .null), (lit "revoked", .bool false)]

/-- A node with its certificate. -/
def enrichedNode (authority : CertAuthority) (view : MeshView) (node : PyStr × NodeRecord) :
    Except AuthFault (PyStr × Json) := do
  let certificate ← certificateStatus authority view node.1
  let fields ← asDict node.2.toJson
  return (node.1, .obj (fields ++ [(lit "certificate", certificate)]))

/-! ## Activity -/

/-- The item that `_record_collab_activity` makes. -/
def activityItem? : Broadcast → Option (Dict PyStr Json)
  | .activity kind timestamp data =>
      some ((lit "kind", .str (lit kind)) :: (lit "timestamp", .str timestamp) :: data)
  | _ => none

/-- `collab_activity` with one more item. -/
def pushActivity (items : List (Dict PyStr Json)) (item : Dict PyStr Json) : List (Dict PyStr Json) :=
  if 160 < (items ++ [item]).length then lastN 120 (items ++ [item]) else items ++ [item]

/-- `collab_activity` -/
def collabActivity (server : MonitorServer) : List (Dict PyStr Json) :=
  (server.broadcasts.filterMap activityItem?).foldl pushActivity []

/-- A row of the ledger as an item. -/
def persistedItem (row : Dict PyStr Json) : Dict PyStr Json :=
  [(lit "kind", .str (lit "audit")), (lit "timestamp", getOr (lit "ts") .null row),
    (lit "node_id", getOr (lit "node") .null row), (lit "op", getOr (lit "op") .null row),
    (lit "ledger_id", getOr (lit "id") .null row), (lit "status", .str (lit "verified"))]

/-- `item.get("timestamp") or ""`; only texts are compared with texts. -/
def feedKey (item : Dict PyStr Json) : Except Fault PyStr :=
  match getOr (lit "timestamp") .null item with
  | .str text => .ok text
  | value => if value.truthy then .error .typeError else .ok []

/-- An item with its key. -/
def keyed (item : Dict PyStr Json) : Except Fault (PyStr × Dict PyStr Json) := do
  return (← feedKey item, item)

/-- `_collab_activity_feed` -/
def activityFeed (activity rows : List (Dict PyStr Json)) : Except Fault Json := do
  let transient := activity.filter fun item =>
    !(getOr (lit "kind") .null item).pyEq (.str (lit "audit"))
  let items ← (rows.map persistedItem ++ transient).mapM keyed
  return .arr ((lastN 80 (items.mergeSort fun left right => left.1 ≤ right.1)).map fun item =>
    .obj item.2)

/-! ## `_collab_status` -/

/-- `audit_status()` -/
def auditJson (audit : CollabVault.AuditStatus) : Json :=
  .obj [(lit "verified", .bool audit.verified), (lit "tampered", .bool !audit.verified),
    (lit "entries", .int audit.entries), (lit "expected", .int audit.expected),
    (lit "last_hash", audit.lastHash)]

/-- `telemetry` -/
def telemetry (view : MeshView) (audit : CollabVault.AuditStatus) : Json :=
  .obj [(lit "audit_entries", .int audit.entries), (lit "audit_verified", .bool audit.verified),
    (lit "audit_tampered", .bool !audit.verified), (lit "rate_limit_429", .int view.limited),
    (lit "last_rate_limit_429", optionalText view.lastLimited)]

/-- `_collab_status`; whatever `verify` lets through ends the request. -/
def collabStatus (py : Platform) (authority : CertAuthority) (view : MeshView) : Handler Json := do
  let audit ← onVault (CollabVault.auditStatus py)
  let server ← .read
  let state := server.vault.state
  let nodes ← .ofExcept ((state.nodes.mapM (enrichedNode authority view)).mapError fun _ => .typeError)
  let rows ← .ofOption .valueError (readLedger 60 server.vault.ledger)
  let activity ← .ofExcept (activityFeed (collabActivity server) rows)
  let connected := state.nodes.any fun node => decide (node.2.status = .active)
  return .obj [(lit "nodes", .obj nodes), (lit "tasks", tasksJson state.tasks),
    (lit "messages", .arr (state.messages.map Message.toJson)),
    (lit "mesh_key_rotations", .int 0), (lit "last_sync", optionalText state.lastSync),
    (lit "audit_tampered", .bool state.auditTampered),
    (lit "files", .arr (view.files.map Json.str)), (lit "audit", auditJson audit),
    (lit "mesh_status", .str (lit (if connected then "CONNECTED" else "PARTITIONED"))),
    (lit "ca_fingerprint", .str view.fingerprint), (lit "activity", activity),
    (lit "telemetry", telemetry view audit)]

/-! ## It returns -/

/-- Each certificate was issued, and its time is one that `verify` can read. -/
structure MeshView.Legible {authority : CertAuthority} (issued : List (NodeCert authority))
    (view : MeshView) : Prop where
  certs : AllIssued issued view.certs
  times : ∀ cert ∈ issued, ∃ instant, view.clock.parseIso cert.expiresAt.text = .value instant

variable {py : Platform} {authority : CertAuthority} {issued : List (NodeCert authority)}
  {view : MeshView}

/-- A call returns. -/
def Returns {ε α : Type} (result : Except ε α) : Prop := ∃ value, result = .ok value

theorem returns_bind {ε α β : Type} {first : Except ε α} {next : α → Except ε β}
    (returns : Returns first) (rest : ∀ value, first = .ok value → Returns (next value)) :
    Returns (first >>= next) := by
  obtain ⟨value, isValue⟩ := returns
  obtain ⟨result, isResult⟩ := rest value isValue
  exact ⟨result, except_bind_eq_ok.mpr ⟨value, isValue, isResult⟩⟩

theorem returns_mapM {ε α β : Type} {action : α → Except ε β} {items : List α}
    (returns : ∀ item ∈ items, Returns (action item)) : Returns (items.mapM action) := by
  induction items with
  | nil => exact ⟨[], rfl⟩
  | cons item rest ih =>
      rw [List.mapM_cons]
      refine returns_bind (returns item List.mem_cons_self) fun value _ => ?_
      refine returns_bind (ih fun other member => returns other (List.mem_cons_of_mem _ member))
        fun values _ => ⟨_, rfl⟩

/-- `verify` answers for a certificate that was issued. -/
theorem returns_verifyCert {clock : IdentityClock} {cert : NodeCert authority} {instant : Int}
    (time : clock.parseIso cert.expiresAt.text = .value instant) (revoked : Bool) :
    Returns (authority.verifyCert clock cert.nodeId (cert.fields revoked)) := by
  have copied : cert.CopiedBy (cert.fields revoked) := NodeCert.copiedBy_fields revoked
  obtain ⟨raw, decoded, -⟩ := cert.validKey
  obtain ⟨signature, rawSignature, isSignature, signs, -⟩ := copied.2
  have expiry : clock.expiry (cert.fields revoked) = .ok instant := by
    have found : getItem (lit "expires_at") (cert.fields revoked) = .ok (.str cert.expiresAt.text) := rfl
    simp only [IdentityClock.expiry, expiryOf, found, bind, Except.bind, time]
    rfl
  have key : getItem (lit "public_key") (cert.fields revoked) = .ok (.str cert.publicKey) := rfl
  have sealed : getItem (lit "signature") (cert.fields revoked) = .ok signature := by
    rw [getItem, isSignature]
  have examined : Returns (authority.examine clock (cert.fields revoked)) := by
    refine returns_bind ⟨_, expiry⟩ fun expiry _ => ?_
    split
    · exact ⟨false, rfl⟩
    refine returns_bind ⟨_, key⟩ fun publicKey isKey => ?_
    obtain rfl := Except.ok.inj (key.symm.trans isKey)
    refine returns_bind ⟨raw, decoded⟩ fun rawPublic _ => ?_
    refine returns_bind ⟨_, sealed⟩ fun found isFound => ?_
    obtain rfl := Except.ok.inj (sealed.symm.trans isFound)
    refine returns_bind ⟨rawSignature, signs⟩ fun decodedSignature _ => ?_
    exact returns_bind ⟨_, copied.certMaterial⟩ fun material _ => ⟨_, rfl⟩
  obtain ⟨answer, answers⟩ := examined
  unfold CertAuthority.verifyCert
  split
  · exact ⟨false, rfl⟩
  · rw [answers]
    exact ⟨answer, rfl⟩

/-- `certificate` finds a certificate that was issued, or none. -/
theorem certificateOf_cases (legible : view.Legible issued) (nodeId : PyStr) :
    (view.certs.get? nodeId = none ∧ certificateOf view.certs nodeId = .ok .null) ∨
      ∃ cert ∈ issued, cert.nodeId = nodeId ∧ ∃ revoked,
        certificateOf view.certs nodeId = .ok (.obj (cert.fields revoked)) := by
  unfold certificateOf
  cases found : view.certs.get? nodeId with
  | none => exact .inl ⟨rfl, rfl⟩
  | some entry =>
      obtain ⟨cert, member, named, revoked, rfl⟩ := legible.certs nodeId entry found
      exact .inr ⟨cert, member, named, revoked, rfl⟩

theorem returns_certificateStatus (legible : view.Legible issued) (nodeId : PyStr) :
    Returns (certificateStatus authority view nodeId) := by
  rcases certificateOf_cases legible nodeId with
    ⟨unknown, noCert⟩ | ⟨cert, member, rfl, revoked, isCert⟩
  · have unverified : authority.verify view.clock nodeId .null view.certs = .ok false := by
      rw [CertAuthority.verify, unknown]
      rfl
    refine returns_bind ⟨_, noCert⟩ fun value isValue => ?_
    obtain rfl := Except.ok.inj (noCert.symm.trans isValue)
    exact returns_bind ⟨_, unverified⟩ fun valid _ => ⟨_, rfl⟩
  · obtain ⟨instant, time⟩ := legible.times cert member
    refine returns_bind ⟨_, isCert⟩ fun value isValue => ?_
    obtain rfl := Except.ok.inj (isCert.symm.trans isValue)
    exact returns_bind (returns_verifyCert time revoked) fun valid _ => ⟨_, rfl⟩

theorem returns_enrichedNode (legible : view.Legible issued) (node : PyStr × NodeRecord) :
    Returns (enrichedNode authority view node) := by
  refine returns_bind (returns_certificateStatus legible node.1) fun certificate _ => ?_
  exact returns_bind ⟨_, rfl⟩ fun fields _ => ⟨_, rfl⟩

/-- An item with a text for its time. -/
def Timed (item : Dict PyStr Json) : Prop :=
  ∃ text, getOr (lit "timestamp") .null item = .str text

theorem timed_of_activityItem? {notice : Broadcast} {item : Dict PyStr Json}
    (isItem : activityItem? notice = some item) : Timed item := by
  unfold activityItem? at isItem
  split at isItem
  · cases isItem
    exact ⟨_, rfl⟩
  · cases isItem

theorem timed_collabActivity (server : MonitorServer) :
    ∀ item ∈ collabActivity server, Timed item := by
  have step : ∀ news kept : List (Dict PyStr Json), (∀ item ∈ news, Timed item) →
      (∀ item ∈ kept, Timed item) → ∀ item ∈ news.foldl pushActivity kept, Timed item := by
    intro news
    induction news with
    | nil => exact fun kept _ timed => timed
    | cons next rest ih =>
        intro kept timedNews timedKept
        have added : ∀ item ∈ kept ++ [next], Timed item := by
          intro item member
          rcases List.mem_append.mp member with old | new
          · exact timedKept item old
          · rw [List.mem_singleton.mp new]
            exact timedNews next List.mem_cons_self
        apply ih _ (fun item member => timedNews item (List.mem_cons_of_mem _ member))
        unfold pushActivity
        split
        · intro item member
          exact added item (List.mem_of_mem_drop member)
        · exact added
  apply step
  · intro item member
    obtain ⟨notice, -, isItem⟩ := List.mem_filterMap.mp member
    exact timed_of_activityItem? isItem
  · exact List.forall_mem_nil _

theorem timed_persistedItem (entry : LedgerEntry) : Timed (persistedItem entry.row) := by
  have time : Dict.get? (lit "ts") entry.row = some (.str entry.ts) := by
    rw [LedgerEntry.row, Json.get?_orderedFields .canonical (distinct_entry entry).1]
    rfl
  refine ⟨entry.ts, ?_⟩
  have shown : getOr (lit "timestamp") .null (persistedItem entry.row) =
      getOr (lit "ts") .null entry.row := rfl
  rw [shown, getOr, time, Option.getD_some]

/-- The items of the activity and of the entries can be sorted. -/
theorem returns_activityFeed (server : MonitorServer) (count : Nat) (entries : List LedgerEntry) :
    Returns (activityFeed (collabActivity server) (lastN count (entries.map LedgerEntry.row))) := by
  refine returns_bind (returns_mapM fun item member => ?_) fun items _ => ⟨_, rfl⟩
  have timed : Timed item := by
    rcases List.mem_append.mp member with persisted | transient
    · obtain ⟨row, inRows, rfl⟩ := List.mem_map.mp persisted
      obtain ⟨entry, -, rfl⟩ := List.mem_map.mp (List.mem_of_mem_drop inRows)
      exact timed_persistedItem entry
    · exact timed_collabActivity server item (List.mem_of_mem_filter transient)
  obtain ⟨text, isText⟩ := timed
  have key : feedKey item = .ok text := by
    rw [feedKey, isText]
  exact returns_bind ⟨text, key⟩ fun _ _ => ⟨_, rfl⟩

/-- `audit_status` reports on files that are texts. -/
theorem run_auditStatus {vault : CollabVault} {entries : List LedgerEntry}
    (holds : HoldsEntries entries vault) :
    ∃ report, (CollabVault.auditStatus py).run vault =
      (.ok report, CollabVault.setTampered (!vault.chainVerified py) vault) := by
  obtain ⟨text, isText⟩ := holds.audit
  have audit : readText vault.audit = some (translateNewlines false text) := by
    rw [readText, decodeUtf8_of_encodeUtf8 isText, Option.map_some]
  have ledger : readText vault.ledger =
      some (translateNewlines false (joinRows (entries.map LedgerEntry.line))) := by
    rw [readText, decodeUtf8_of_encodeUtf8 holds.ledger, Option.map_some]
  rw [CollabVault.auditStatus, run_bind_ok (run_read _), auditLines_of_readText audit, ledger,
    run_bind_ok (run_ofOption_some _ _ _), run_bind_ok (run_ofOption_some _ _ _),
    run_bind_ok (run_modify _ _)]
  exact ⟨_, rfl⟩

/-- `_collab_status` returns. -/
theorem returns_collabStatus {server : MonitorServer} {entries : List LedgerEntry}
    (holds : HoldsEntries entries server.vault) (legible : view.Legible issued) :
    Returns ((collabStatus py authority view).run server).1 := by
  obtain ⟨report, audited⟩ := @run_auditStatus py _ _ holds
  have audits : (onVault (CollabVault.auditStatus py)).run server = (.ok report,
      server.withVault (CollabVault.setTampered (!server.vault.chainVerified py) server.vault)) := by
    rw [run_onVault, audited]
  generalize isAfter : server.withVault
    (CollabVault.setTampered (!server.vault.chainVerified py) server.vault) = after at audits
  have sameNodes : after.vault.state.nodes = server.vault.state.nodes := by
    rw [← isAfter]
    rfl
  have sameLedger : after.vault.ledger = server.vault.ledger := by
    rw [← isAfter]
    rfl
  obtain ⟨nodes, isNodes⟩ := @returns_mapM _ _ _ (enrichedNode authority view)
    server.vault.state.nodes fun node _ => returns_enrichedNode legible node
  obtain ⟨activity, isActivity⟩ := returns_activityFeed after 60 entries
  have rows := readLedger_of_holds holds 60
  have sixty : (clampLimit 60).toNat = 60 := rfl
  rw [sixty] at rows
  rw [collabStatus, run_bind_ok audits, run_bind_ok (run_read _)]
  dsimp only
  rw [sameNodes, isNodes, sameLedger, rows, Except.mapError, run_bind_ok (run_ofExcept _ _),
    run_bind_ok (run_ofOption_some _ _ _), isActivity, run_bind_ok (run_ofExcept _ _)]
  exact ⟨_, rfl⟩

end HermesMesh.Server
