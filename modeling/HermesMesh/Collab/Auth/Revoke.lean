import HermesMesh.Collab.Auth.AllOrNothing
import HermesMesh.Collab.Auth.Identity

/-!
# The revocation of a node

`revoke_node` marks the node in the vault, then its certificate, adds it to the set of the
revoked nodes and marks its tokens, one store after the other.  Each store is read when it
is come to, so what is wrong with one is found when those before it have been written.
-/

namespace HermesMesh.Collab

open Python Foundation Foundation.Action

/-- The stores of `MeshAuth`, with the set of the revoked nodes. -/
structure MeshStores extends AuthStores where
  revoked : StoreFile

/-- What an enrollment and a revocation share. -/
def onAuth {α : Type} (action : Action AuthStores AuthFault α) : Action MeshStores AuthFault α :=
  .zoom MeshStores.toAuthStores (fun auth stores => { stores with toAuthStores := auth }) action

/-- A value with an item that is assigned to. -/
def asRecord : Json → Except AuthFault (Dict PyStr Json)
  | .obj fields => .ok fields
  | _ => .error .typeError

/-- The record of a node that is revoked. -/
def revokedRecord (now : PlainText) (record : Dict PyStr Json) : Dict PyStr Json :=
  (record.set (lit "status") (.str (lit "revoked"))).set (lit "last_seen") (.str now.text)

/-- The state with the record of a node. -/
def stateWithNode (nodeId : PyStr) (record nodes state : Dict PyStr Json) : Dict PyStr Json :=
  state.set (lit "nodes") (.obj (nodes.set nodeId (.obj record)))

/-- `CollabVault.revoke_node` -/
def revokeVaultNode (now : PlainText) (nodeId : PyStr) : Action AuthStores AuthFault Bool := do
  let stores ← .read
  let nodes ← .ofExcept (nodesOf stores.state)
  let node := (nodes.get? nodeId).getD .null
  if node.truthy then
    let record ← .ofExcept (asRecord node)
    .modify fun stores =>
      { stores with state := stateWithNode nodeId (revokedRecord now record) nodes stores.state }
    saveVaultState
    return true
  else return false

/-- `NodeIdentityManager.revoke` -/
def revokeIdentity (nodeId : PyStr) : Action AuthStores AuthFault Bool := do
  let stores ← .read
  let (found, after) ← .ofExcept (revokeCert nodeId stores.certificates)
  if found then
    .modify fun stores => { stores with certificates := after }
    saveCertificates
    return true
  else return false

/-- `sorted(values)` of a set of texts. -/
def sortedTexts (texts : List PyStr) : List PyStr := texts.dedup.insertionSort (· ≤ ·)

/-- `{str(value) for value in store.get("nodes", [])}` -/
def revokedTexts (py : Platform) (file : StoreFile) : Except AuthFault (List PyStr) := do
  let store ← readStore [(lit "nodes", .arr [])] file
  let values ← iterate (getOr (lit "nodes") (.arr []) store)
  return values.map fun value => value.pyStr py.unicode

/-- `if item.get("node_id") == node_id: item["revoked"] = True` -/
def markToken (nodeId : PyStr) (entry : Json) : Except AuthFault Json := do
  let item ← asDict entry
  if (getOr (lit "node_id") .null item).pyEq (.str nodeId) then
    return .obj (item.set (lit "revoked") (.bool true))
  else return .obj item

/-- The token store with the tokens of the node marked.  What is iterated and is no list
is empty, or its first item has no `get`. -/
def markTokens (nodeId : PyStr) (file : StoreFile) : Except AuthFault (Dict PyStr Json) := do
  let store ← readStore [(lit "tokens", .arr [])] file
  let entries ← iterate (getOr (lit "tokens") (.arr []) store)
  let marked ← entries.mapM (markToken nodeId)
  match store.get? (lit "tokens") with
  | some (.arr _) => return store.set (lit "tokens") (.arr marked)
  | _ => return store

/-- The store of the revoked nodes with one more. -/
def revokedStore (nodeId : PyStr) (texts : List PyStr) : StoreFile :=
  .decoded (.obj [(lit "nodes", .arr ((sortedTexts (nodeId :: texts)).map .str))])

/-- What `revoke_node` does once the node is marked in the vault. -/
def revokeElsewhere (py : Platform) (nodeId : PyStr) : Action MeshStores AuthFault Unit := do
  let _ ← onAuth (revokeIdentity nodeId)
  let stores ← .read
  let texts ← .ofExcept (revokedTexts py stores.revoked)
  .modify fun stores => { stores with revoked := revokedStore nodeId texts }
  let stores ← .read
  let marked ← .ofExcept (markTokens nodeId stores.tokens)
  .modify fun stores => { stores with tokens := .decoded (.obj marked) }

/-- `MeshAuth.revoke_node` -/
def revokeNode (py : Platform) (now : PlainText) (nodeId : PyStr) :
    Action MeshStores AuthFault Bool := do
  let changed ← onAuth (revokeVaultNode now nodeId)
  if changed then
    revokeElsewhere py nodeId
    return true
  else return false

/-! ## What a revocation needs -/

/-- The record of a node that the vault can revoke. -/
def HasRecord (nodeId : PyStr) (stores : AuthStores) (nodes record : Dict PyStr Json) : Prop :=
  nodesOf stores.state = .ok nodes ∧ nodes.get? nodeId = some (.obj record) ∧ record ≠ []

/-- The certificate of the node, if it has one, can be marked and saved. -/
def CanMark (nodeId : PyStr) (certificates : Dict PyStr Json) : Prop :=
  ∃ found after, revokeCert nodeId certificates = .ok (found, after) ∧
    (found = true → Encodable (plainText after))

/-- Each store can be read and, with the node revoked, written. -/
structure Revocable (py : Platform) (now : PlainText) (nodeId : PyStr) (stores : MeshStores)
    (nodes record : Dict PyStr Json) : Prop where
  state : Encodable (plainText (stateWithNode nodeId (revokedRecord now record) nodes stores.state))
  certificates : CanMark nodeId stores.certificates
  revoked : ∃ texts, revokedTexts py stores.revoked = .ok texts
  tokens : ∃ marked, markTokens nodeId stores.tokens = .ok marked

/-- If the vault has a record of the node, every store of the revocation is in order. -/
def CanRevoke (py : Platform) (now : PlainText) (nodeId : PyStr) (stores : MeshStores) : Prop :=
  ∀ nodes record, HasRecord nodeId stores.toAuthStores nodes record →
    Revocable py now nodeId stores nodes record

/-- The stores with a state that the vault has saved. -/
def MeshStores.savingState (state : Dict PyStr Json) (stores : MeshStores) : MeshStores :=
  { stores with state := state, stateFile := state }

variable {py : Platform} {now : PlainText} {nodeId : PyStr}

/-! ## Store by store -/

theorem run_onAuth {α : Type} (action : Action AuthStores AuthFault α) (stores : MeshStores) :
    (onAuth action).run stores = ((action.run stores.toAuthStores).1,
      { stores with toAuthStores := (action.run stores.toAuthStores).2 }) := rfl

/-- Without a record of the node, the vault changes nothing. -/
theorem run_revokeVaultNode_of_none {stores : AuthStores}
    (none : ∀ nodes record, ¬HasRecord nodeId stores nodes record) :
    ∃ result, (revokeVaultNode now nodeId).run stores = (result, stores) ∧ result ≠ .ok true := by
  rw [revokeVaultNode, run_bind_ok (run_read _)]
  cases table : nodesOf stores.state with
  | error fault =>
      refine ⟨.error fault, run_bind_error (run_ofExcept _ _) _, ?_⟩
      intro same
      cases same
  | ok nodes =>
      rw [run_bind_ok (run_ofExcept _ _)]
      cases found : nodes.get? nodeId with
      | none => exact ⟨.ok false, rfl, by simp⟩
      | some node =>
          by_cases present : node.truthy = true
          · have notObject : asRecord node = .error .typeError := by
              cases node with
              | obj record =>
                  refine absurd ⟨table, found, ?_⟩ (none nodes record)
                  rintro rfl
                  cases present
              | _ => rfl
            refine ⟨.error .typeError, ?_, by simp⟩
            simp only [Option.getD_some, if_pos present]
            exact run_bind_error (by rw [run_ofExcept, notObject]) _
          · refine ⟨.ok false, ?_, by simp⟩
            simp only [Option.getD_some, if_neg present, run_pure]

/-- With a record of the node, the vault marks it before it saves its state. -/
theorem run_revokeVaultNode {stores : AuthStores} {nodes record : Dict PyStr Json}
    (recorded : HasRecord nodeId stores nodes record) :
    (revokeVaultNode now nodeId).run stores =
      (saveVaultState >>= fun _ => pure true).run { stores with
        state := stateWithNode nodeId (revokedRecord now record) nodes stores.state } := by
  obtain ⟨table, found, nonempty⟩ := recorded
  have present : (Json.obj record).truthy = true := by
    cases record with
    | nil => exact absurd rfl nonempty
    | cons field rest => rfl
  rw [revokeVaultNode, run_bind_ok (run_read _), run_bind_ok (by rw [run_ofExcept, table])]
  simp only [found, Option.getD_some, if_pos present]
  rw [run_bind_ok (by rw [run_ofExcept, asRecord]), run_bind_ok (run_modify _ _)]

/-- The certificate of the node is marked, where that can be done and saved. -/
theorem run_revokeIdentity (stores : AuthStores) :
    (CanMark nodeId stores.certificates ∧ ∃ found after,
      (revokeIdentity nodeId).run stores = (.ok found, after) ∧ after.tokens = stores.tokens) ∨
    (¬CanMark nodeId stores.certificates ∧ ∃ fault after,
      (revokeIdentity nodeId).run stores = (.error fault, after)) := by
  rw [revokeIdentity, run_bind_ok (run_read _)]
  cases revoked : revokeCert nodeId stores.certificates with
  | error fault =>
      right
      refine ⟨?_, fault, stores, run_bind_error (run_ofExcept _ _) _⟩
      rintro ⟨found, after, same, -⟩
      cases revoked.symm.trans same
  | ok outcome =>
      obtain ⟨found, after⟩ := outcome
      rw [run_bind_ok (run_ofExcept _ _)]
      cases found with
      | false =>
          left
          exact ⟨⟨false, after, revoked, by simp⟩, false, stores, rfl, rfl⟩
      | true =>
          simp only [if_true, saveCertificates, run_bind, run_read, run_modify]
          cases encoded : encodeUtf8 (plainText after) with
          | some bytes =>
              left
              exact ⟨⟨true, after, revoked, fun _ => encodable_iff.mpr ⟨bytes, encoded⟩⟩, true, _,
                rfl, rfl⟩
          | none =>
              right
              refine ⟨?_, _, _, rfl⟩
              rintro ⟨found, other, same, encodable⟩
              cases revoked.symm.trans same
              obtain ⟨bytes, written⟩ := encodable_iff.mp (encodable rfl)
              cases encoded.symm.trans written

/-- Past the vault, a revocation returns exactly when each store is in order. -/
theorem run_revokeElsewhere (stores : MeshStores) :
    ((CanMark nodeId stores.certificates ∧ (∃ texts, revokedTexts py stores.revoked = .ok texts) ∧
        ∃ marked, markTokens nodeId stores.tokens = .ok marked) ∧
      ∃ after, (revokeElsewhere py nodeId).run stores = (.ok (), after)) ∨
    (¬(CanMark nodeId stores.certificates ∧ (∃ texts, revokedTexts py stores.revoked = .ok texts) ∧
        ∃ marked, markTokens nodeId stores.tokens = .ok marked) ∧
      ∃ fault after, (revokeElsewhere py nodeId).run stores = (.error fault, after)) := by
  rw [revokeElsewhere]
  rcases @run_revokeIdentity nodeId stores.toAuthStores with
    ⟨markable, found, after, ran, sameTokens⟩ | ⟨unmarkable, fault, after, ran⟩
  · have identity : (onAuth (revokeIdentity nodeId)).run stores =
        (.ok found, { stores with toAuthStores := after }) := by
      rw [run_onAuth, ran]
    rw [run_bind_ok identity, run_bind_ok (run_read _)]
    cases texts : revokedTexts py stores.revoked with
    | error fault =>
        right
        refine ⟨?_, fault, _, run_bind_error (run_ofExcept _ _) _⟩
        rintro ⟨-, ⟨other, same⟩, -⟩
        cases same
    | ok values =>
        rw [run_bind_ok (run_ofExcept _ _), run_bind_ok (run_modify _ _), run_bind_ok (run_read _)]
        simp only [sameTokens]
        cases marked : markTokens nodeId stores.tokens with
        | error fault =>
            right
            refine ⟨?_, fault, _, run_bind_error (run_ofExcept _ _) _⟩
            rintro ⟨-, -, other, same⟩
            cases same
        | ok store =>
            left
            exact ⟨⟨markable, ⟨values, rfl⟩, store, rfl⟩, _,
              by rw [run_bind_ok (run_ofExcept _ _), run_modify]⟩
  · right
    have identity : (onAuth (revokeIdentity nodeId)).run stores =
        (.error fault, { stores with toAuthStores := after }) := by
      rw [run_onAuth, ran]
    exact ⟨fun all => unmarkable all.1, fault, _, run_bind_error identity _⟩

theorem state_revokeIdentity :
    Within (Agree fun stores : AuthStores => stores.state) (revokeIdentity nodeId) := by
  rw [revokeIdentity]
  refine within_bind within_read fun stores => ?_
  refine within_bind (within_ofExcept _) fun outcome => ?_
  refine within_ite (fun _ => ?_) fun _ => within_pure false
  refine within_bind (within_modify fun _ => rfl) fun _ => ?_
  refine within_bind (within_bind within_read fun stores => ?_) fun _ => within_pure true
  split
  · exact within_modify fun _ => rfl
  · exact within_raise _

/-- Past the vault, its state stays. -/
theorem state_revokeElsewhere :
    Within (Agree fun stores : MeshStores => stores.state) (revokeElsewhere py nodeId) := by
  have identity : Within (Agree fun stores : MeshStores => stores.state)
      (onAuth (revokeIdentity nodeId)) := within_zoom state_revokeIdentity fun _ _ same => same
  refine within_bind identity fun _ => ?_
  refine within_bind within_read fun stores => ?_
  refine within_bind (within_ofExcept _) fun texts => ?_
  refine within_bind (within_modify fun _ => rfl) fun _ => ?_
  refine within_bind within_read fun stores => ?_
  exact within_bind (within_ofExcept _) fun marked => within_modify fun _ => rfl

/-! ## The revocation -/

/-- Without a record of the node, nothing changes. -/
theorem run_revokeNode_of_none {stores : MeshStores}
    (none : ∀ nodes record, ¬HasRecord nodeId stores.toAuthStores nodes record) :
    ∃ result, (revokeNode py now nodeId).run stores = (result, stores) ∧ result ≠ .ok true := by
  obtain ⟨result, ran, other⟩ := @run_revokeVaultNode_of_none now nodeId _ none
  have vault : (onAuth (revokeVaultNode now nodeId)).run stores = (result, stores) := by
    rw [run_onAuth, ran]
  rw [revokeNode]
  cases result with
  | error fault => exact ⟨.error fault, run_bind_error vault _, other⟩
  | ok changed =>
      cases changed with
      | false => exact ⟨.ok false, by rw [run_bind_ok vault]; rfl, other⟩
      | true => exact absurd rfl other

/-- With a record of the node, the rest follows unless the state cannot be saved. -/
theorem run_revokeNode {stores : MeshStores} {nodes record : Dict PyStr Json}
    (recorded : HasRecord nodeId stores.toAuthStores nodes record) :
    (revokeNode py now nodeId).run stores =
      if encodeUtf8 (plainText
          (stateWithNode nodeId (revokedRecord now record) nodes stores.state)) = none then
        (.error .valueError, { stores with
          state := stateWithNode nodeId (revokedRecord now record) nodes stores.state })
      else (revokeElsewhere py nodeId >>= fun _ => pure true).run
        (stores.savingState (stateWithNode nodeId (revokedRecord now record) nodes stores.state)) := by
  have vault := @run_revokeVaultNode now nodeId _ _ _ recorded
  rw [run_bind, run_saveVaultState] at vault
  rw [revokeNode]
  cases encoded : encodeUtf8
      (plainText (stateWithNode nodeId (revokedRecord now record) nodes stores.state)) with
  | none =>
      simp only [encoded] at vault
      rw [if_pos rfl, run_bind_error (by rw [run_onAuth, vault])]
  | some bytes =>
      simp only [encoded, run_pure] at vault
      rw [if_neg (by simp), run_bind_ok (by rw [run_onAuth, vault]), if_pos rfl]
      rfl

/-- With every store in order, the revocation succeeds. -/
theorem run_revokeNode_of_revocable {stores : MeshStores} {nodes record : Dict PyStr Json}
    (recorded : HasRecord nodeId stores.toAuthStores nodes record)
    (revocable : Revocable py now nodeId stores nodes record) :
    ∃ after, (revokeNode py now nodeId).run stores = (.ok true, after) := by
  obtain ⟨bytes, encoded⟩ := encodable_iff.mp revocable.state
  rw [run_revokeNode recorded, if_neg (by simp [encoded])]
  rcases @run_revokeElsewhere py nodeId (stores.savingState
      (stateWithNode nodeId (revokedRecord now record) nodes stores.state)) with
    ⟨-, after, ran⟩ | ⟨fails, -⟩
  · exact ⟨after, by rw [run_bind_ok ran, run_pure]⟩
  · exact absurd ⟨revocable.certificates, revocable.revoked, revocable.tokens⟩ fails

/-- Otherwise it raises, with the node marked in the vault. -/
theorem run_revokeNode_of_not_revocable {stores : MeshStores} {nodes record : Dict PyStr Json}
    (recorded : HasRecord nodeId stores.toAuthStores nodes record)
    (unfit : ¬Revocable py now nodeId stores nodes record) :
    ∃ fault after, (revokeNode py now nodeId).run stores = (.error fault, after) ∧
      after.state = stateWithNode nodeId (revokedRecord now record) nodes stores.state := by
  rw [run_revokeNode recorded]
  split
  · exact ⟨_, _, rfl, rfl⟩
  · next encodable =>
      rcases @run_revokeElsewhere py nodeId (stores.savingState
          (stateWithNode nodeId (revokedRecord now record) nodes stores.state)) with
        ⟨fits, -⟩ | ⟨-, fault, after, ran⟩
      · obtain ⟨bytes, encoded⟩ := Option.ne_none_iff_exists'.mp encodable
        exact absurd ⟨encodable_iff.mpr ⟨bytes, encoded⟩, fits.1, fits.2.1, fits.2.2⟩ unfit
      · refine ⟨fault, after, run_bind_error ran _, ?_⟩
        have kept := @state_revokeElsewhere py nodeId (stores.savingState
          (stateWithNode nodeId (revokedRecord now record) nodes stores.state))
        rw [ran] at kept
        exact kept

end HermesMesh.Collab
