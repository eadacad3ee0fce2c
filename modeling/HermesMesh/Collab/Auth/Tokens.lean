import HermesMesh.Collab.Auth.Invite
import HermesMesh.Collab.Auth.Revoke
import HermesMesh.Collab.Vault.LoadedState

/-!
# Tokens

`verify_token` looks for a record with the hash of the token that has neither expired nor
been revoked.  Of its node it asks that the vault has it as active, that it is not in the
store of the revoked nodes, which is read each time, and that its certificate verifies; a
node that passes is touched.  The module also has what the vault does with the stores when
a `join` is relayed and when the program starts again.
-/

namespace HermesMesh.Collab

open Python Foundation Foundation.Action

/-- What a call of `verify_token` finds out.  `identity.verify` reads a clock of its own for
each record whose node is looked at. -/
structure TokenMoment where
  /-- `datetime.fromisoformat(text.replace("Z", "+00:00")).astimezone(utc)` -/
  parseIso : PyStr → Parsed Int
  now : Int
  identityClock : Nat → Int
  touchedAt : PlainText

/-- `_parse_iso(item["expires_at"]) > now`, and `False` where that raises one of `KeyError`,
`TypeError` and `ValueError`; what is no object raises a `TypeError`. -/
def TokenMoment.isValid (moment : TokenMoment) : Json → Except AuthFault Bool
  | .obj item =>
      match expiryOf moment.parseIso item with
      | .ok expiry => .ok (decide (moment.now < expiry))
      | .error .keyError | .error .typeError | .error .valueError => .ok false
      | .error fault => .error fault
  | _ => .ok false

/-- Whether the record is for a token with this hash, and may be used. -/
def matchesToken (moment : TokenMoment) (digest : PyStr) (entry : Json) : Except AuthFault Bool := do
  let valid ← moment.isValid entry
  if valid then
    let item ← asDict entry
    if (getOr (lit "revoked") .null item).truthy then return false
    else compareDigest (getOr (lit "token_hash") (.str []) item) digest
  else return false

/-- `nodes.get(node_id, {})`: a list or an object is not hashable, and every key is a text. -/
def nodeOf (nodes : Dict PyStr Json) : Json → Except AuthFault Json
  | .str nodeId => .ok (getOr nodeId (.obj []) nodes)
  | .arr _ | .obj _ => .error .typeError
  | _ => .ok (.obj [])

/-- The node of a record, if it may use its token. -/
def admitNode (py : Platform) (authority : CertAuthority) (moment : TokenMoment) (index : Nat)
    (stores : MeshStores) (nodeId : Json) : Except AuthFault (Option PyStr) := do
  let nodes ← nodesOf stores.state
  let node ← nodeOf nodes nodeId
  let node ← asDict node
  if (getOr (lit "status") .null node).pyEq (.str (lit "active")) then
    match nodeId with
    | .str nodeId =>
        let revoked ← revokedTexts py stores.revoked
        if revoked.contains nodeId then return none
        else
          let verified ← authority.verify ⟨moment.parseIso, moment.identityClock index⟩ nodeId .null
            stores.certificates
          return if verified then some nodeId else none
    -- Only a text is the identifier of a node that has a status.
    | _ => return none
  else return none

/-- The node of the first record that lets the token in. -/
def findToken (py : Platform) (authority : CertAuthority) (moment : TokenMoment) (digest : PyStr)
    (stores : MeshStores) : (index : Nat) → List Json → Except AuthFault (Option PyStr)
  | _, [] => .ok none
  | index, entry :: rest => do
      let same ← matchesToken moment digest entry
      if same then
        let item ← asDict entry
        let admitted ← admitNode py authority moment index stores (getOr (lit "node_id") .null item)
        if admitted.isSome then return admitted
        else findToken py authority moment digest stores (index + 1) rest
      else findToken py authority moment digest stores (index + 1) rest

/-- The node that `verify_token` finds for a token. -/
def tokenNode (py : Platform) (authority : CertAuthority) (moment : TokenMoment) (token : Json)
    (stores : MeshStores) : Except AuthFault (Option PyStr) :=
  match token with
  | .str text =>
      if text.isEmpty then .ok none
      else do
        let digest ← hashText py text
        match readStore [(lit "tokens", .arr [])] stores.tokens with
        | .error (.authError _) => return none
        | .error fault => .error fault
        | .ok store =>
            let entries ← iterate (getOr (lit "tokens") (.arr []) store)
            findToken py authority moment digest stores 0 entries
  | _ => .ok none

/-- `CollabVault.touch_node` -/
def touchVaultNode (now : PlainText) (nodeId : PyStr) : Action AuthStores AuthFault Unit := do
  let stores ← .read
  let nodes ← .ofExcept (nodesOf stores.state)
  let node := (nodes.get? nodeId).getD .null
  if node.truthy then
    let record ← .ofExcept (asRecord node)
    let touched := record.set (lit "last_seen") (.str now.text)
    .modify fun stores => { stores with state := stateWithNode nodeId touched nodes stores.state }
    saveVaultState
  else return

/-- `MeshAuth.verify_token` -/
def verifyToken (py : Platform) (authority : CertAuthority) (moment : TokenMoment) (token : Json) :
    Action MeshStores AuthFault (Option PyStr) := do
  let stores ← .read
  let found ← .ofExcept (tokenNode py authority moment token stores)
  match found with
  | none => return none
  | some nodeId =>
      onAuth (touchVaultNode moment.touchedAt nodeId)
      return some nodeId

/-! ## The vault's part of the stores -/

/-- What the vault does with its state; its ledger is not looked at. -/
def onVaultState {α : Type} (action : Action RawVault AuthFault α) : Action MeshStores AuthFault α :=
  .zoom (fun stores => ⟨ByteArray.empty, ByteArray.empty, stores.state, stores.stateFile⟩)
    (fun vault stores => { stores with state := vault.state, stateFile := vault.stateFile }) action

/-- `mark_revoked` for each of the revoked nodes. -/
def markAllRevoked (times : Nat → PlainText) : (index : Nat) → List PyStr →
    Action RawVault AuthFault Unit
  | _, [] => return
  | index, nodeId :: rest => do
      RawVault.markRevoked (times index) nodeId
      markAllRevoked times (index + 1) rest

/-- A new `CollabVault` and a new `MeshAuth` over the same files, with the same keys: what was
kept in memory is read again, and each revoked node is marked in the vault.  The order in
which the fields of a file come back is left as it was. -/
def restartMesh (py : Platform) (times : Nat → PlainText) : Action MeshStores AuthFault Unit := do
  let stores ← .read
  let state ← .ofExcept (stateOf (.obj stores.stateFile))
  .modify fun stores => { stores with certificates := stores.certificateFile, state := state }
  let texts ← .ofExcept (revokedTexts py stores.revoked)
  onVaultState (markAllRevoked times 0 texts)

/-! ## What lets a token in -/

variable {py : Platform} {authority : CertAuthority} {moment : TokenMoment} {stores : MeshStores}

/-- The record is for a token with this hash and for this node, and may be used. -/
structure TokenMoment.Grants (moment : TokenMoment) (digest nodeId : PyStr)
    (item : Dict PyStr Json) : Prop where
  node : item.get? (lit "node_id") = some (.str nodeId)
  hash : getOr (lit "token_hash") (.str []) item = .str digest
  live : (getOr (lit "revoked") .null item).truthy = false
  unexpired : ∃ expiry, expiryOf moment.parseIso item = .ok expiry ∧ moment.now < expiry

/-- The node is active in the vault, is not in the store of the revoked nodes, and has a
certificate that verifies. -/
structure GoodStanding (py : Platform) (authority : CertAuthority) (parseIso : PyStr → Parsed Int)
    (stores : MeshStores) (nodeId : PyStr) : Prop where
  active : ∃ nodes record, nodesOf stores.state = .ok nodes ∧
    nodes.get? nodeId = some (.obj record) ∧
    (getOr (lit "status") .null record).pyEq (.str (lit "active")) = true
  unrevoked : ∃ texts, revokedTexts py stores.revoked = .ok texts ∧ nodeId ∉ texts
  certified : ∃ now, authority.verify ⟨parseIso, now⟩ nodeId .null stores.certificates = .ok true

theorem matchesToken_eq_true {digest : PyStr} {entry : Json}
    (same : matchesToken moment digest entry = .ok true) :
    ∃ item, entry = .obj item ∧ getOr (lit "token_hash") (.str []) item = .str digest ∧
      (getOr (lit "revoked") .null item).truthy = false ∧
      ∃ expiry, expiryOf moment.parseIso item = .ok expiry ∧ moment.now < expiry := by
  obtain ⟨valid, isValid, rest⟩ := except_bind_eq_ok.mp same
  cases valid with
  | false => cases rest
  | true =>
      cases entry with
      | obj item =>
          refine ⟨item, rfl, ?_⟩
          have expires : ∃ expiry, expiryOf moment.parseIso item = .ok expiry ∧
              moment.now < expiry := by
            simp only [TokenMoment.isValid] at isValid
            split at isValid
            · next expiry found =>
                refine ⟨expiry, found, ?_⟩
                cases later : decide (moment.now < expiry) with
                | true => exact of_decide_eq_true later
                | false =>
                    rw [later] at isValid
                    cases isValid
            all_goals cases isValid
          change (if (getOr (lit "revoked") .null item).truthy = true then _ else _) = _ at rest
          split at rest
          · cases rest
          · next unrevoked =>
              refine ⟨?_, Bool.eq_false_iff.mpr unrevoked, expires⟩
              cases hash : getOr (lit "token_hash") (.str []) item with
              | str text =>
                  rw [hash, compareDigest] at rest
                  split at rest
                  · cases equal : text == digest with
                    | true => rw [eq_of_beq equal]
                    | false =>
                        rw [equal] at rest
                        cases rest
                  · cases rest
              | _ =>
                  rw [hash] at rest
                  cases rest
      | _ => cases isValid

/-- A node that is active is one that the vault has a record of. -/
theorem get?_of_active {nodes record : Dict PyStr Json} {nodeId : PyStr}
    (found : getOr nodeId (.obj []) nodes = .obj record)
    (active : (getOr (lit "status") .null record).pyEq (.str (lit "active")) = true) :
    nodes.get? nodeId = some (.obj record) := by
  cases value : nodes.get? nodeId with
  | some node =>
      rw [getOr, value] at found
      exact congrArg some found
  | none =>
      rw [getOr, value] at found
      cases found
      cases active

theorem admitNode_eq_some {index : Nat} {nodeId : Json} {admitted : PyStr}
    (found : admitNode py authority moment index stores nodeId = .ok (some admitted)) :
    nodeId = .str admitted ∧ GoodStanding py authority moment.parseIso stores admitted := by
  obtain ⟨nodes, table, rest⟩ := except_bind_eq_ok.mp found
  obtain ⟨node, hasNode, rest⟩ := except_bind_eq_ok.mp rest
  obtain ⟨record, isRecord, rest⟩ := except_bind_eq_ok.mp rest
  split at rest
  · next active =>
      split at rest
      · next text =>
          obtain ⟨texts, revoked, rest⟩ := except_bind_eq_ok.mp rest
          split at rest
          · cases rest
          · next unrevoked =>
              obtain ⟨verified, certified, rest⟩ := except_bind_eq_ok.mp rest
              cases verified with
              | false => cases rest
              | true =>
                  cases rest
                  refine ⟨rfl, ⟨nodes, record, table, ?_, active⟩, ⟨texts, revoked,
                    fun member => unrevoked (List.contains_iff_mem.mpr member)⟩,
                    moment.identityClock index, certified⟩
                  apply get?_of_active ?_ active
                  cases node with
                  | obj fields =>
                      cases isRecord
                      exact Except.ok.inj hasNode
                  | _ => cases isRecord
      · cases rest
  · cases rest

/-- Some record lets the token in, and its node is in good standing. -/
theorem findToken_eq_some {digest nodeId : PyStr} {index : Nat} {entries : List Json}
    (found : findToken py authority moment digest stores index entries = .ok (some nodeId)) :
    ∃ item, .obj item ∈ entries ∧ moment.Grants digest nodeId item ∧
      GoodStanding py authority moment.parseIso stores nodeId := by
  induction entries generalizing index with
  | nil => cases found
  | cons entry rest ih =>
      have onward : findToken py authority moment digest stores (index + 1) rest =
          .ok (some nodeId) → ∃ item, .obj item ∈ entry :: rest ∧
            moment.Grants digest nodeId item ∧
            GoodStanding py authority moment.parseIso stores nodeId := by
        intro later
        obtain ⟨item, member, granted⟩ := ih later
        exact ⟨item, List.mem_cons_of_mem _ member, granted⟩
      obtain ⟨same, matched, tail⟩ := except_bind_eq_ok.mp found
      cases same with
      | false => exact onward tail
      | true =>
          obtain ⟨item, rfl, hash, live, unexpired⟩ := matchesToken_eq_true matched
          obtain ⟨fields, isItem, tail⟩ := except_bind_eq_ok.mp tail
          cases isItem
          obtain ⟨admitted, answer, tail⟩ := except_bind_eq_ok.mp tail
          cases admitted with
          | none => exact onward tail
          | some other =>
              cases tail
              obtain ⟨isNode, standing⟩ := admitNode_eq_some answer
              have node : Dict.get? (lit "node_id") item = some (.str nodeId) := by
                apply getOr_eq_str
                rw [isNode]
                exact beq_self_eq_true nodeId
              exact ⟨item, List.mem_cons_self, ⟨node, hash, live, unexpired⟩, standing⟩

/-- The token store can be read, and has the record among its entries. -/
def InTokens (file : StoreFile) (item : Dict PyStr Json) : Prop :=
  ∃ store entries, readStore [(lit "tokens", .arr [])] file = .ok store ∧
    iterate (getOr (lit "tokens") (.arr []) store) = .ok entries ∧ .obj item ∈ entries

/-- What is true of a token that `verify_token` accepts. -/
theorem tokenNode_eq_some {token : Json} {nodeId : PyStr}
    (found : tokenNode py authority moment token stores = .ok (some nodeId)) :
    ∃ text digest item, token = .str text ∧ hashText py text = .ok digest ∧
      InTokens stores.tokens item ∧ moment.Grants digest nodeId item ∧
      GoodStanding py authority moment.parseIso stores nodeId := by
  unfold tokenNode at found
  split at found
  · next text =>
      split at found
      · cases found
      · obtain ⟨digest, hashed, rest⟩ := except_bind_eq_ok.mp found
        split at rest
        · cases rest
        · cases rest
        · next store isStore =>
            obtain ⟨entries, iterated, rest⟩ := except_bind_eq_ok.mp rest
            obtain ⟨item, member, granted, standing⟩ := findToken_eq_some rest
            exact ⟨text, digest, item, rfl, hashed, ⟨store, entries, isStore, iterated, member⟩,
              granted, standing⟩
  · cases found

theorem tokenNode_of_verifyToken {token : Json} {nodeId : PyStr} {after : MeshStores}
    (accepted : (verifyToken py authority moment token).run stores = (.ok (some nodeId), after)) :
    tokenNode py authority moment token stores = .ok (some nodeId) := by
  obtain ⟨_, _, isRead, rest⟩ := run_bind_eq_ok.mp accepted
  cases isRead
  obtain ⟨found, middle, isFound, rest⟩ := run_bind_eq_ok.mp rest
  have answer := (Prod.mk.inj isFound).1
  cases found with
  | none => cases rest
  | some other =>
      obtain ⟨_, _, -, rest⟩ := run_bind_eq_ok.mp rest
      cases rest
      exact answer

end HermesMesh.Collab
