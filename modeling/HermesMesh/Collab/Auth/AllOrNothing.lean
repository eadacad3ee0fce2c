import HermesMesh.Collab.Auth.Legible

/-!
# When a join is all or nothing

`join` reads and checks before it writes, and catches the refusals of the certificate
authority; but between its first write and its last it decrypts the token store, reads
the expiry of every token and encodes two files, and none of these steps is undone or
caught.  The result is the exact condition on the stores and the arguments under which
a join either leaves a code used, a certificate, a token and an active node, or raises
`AuthError` and changes nothing.
-/

namespace HermesMesh.Collab

open Python Foundation Foundation.Action

/-! ## What a join has to leave -/

/-- The four stores have what a successful join records. -/
structure JoinRecorded (py : Platform) (moment : JoinMoment) (nodeId code : Json)
    (credentials : Credentials) (after : AuthStores) : Prop where
  node : nodeId = .str credentials.nodeId
  code : ∃ (text digest : PyStr) (store : Dict PyStr Json) (entries : List Json)
    (item : Dict PyStr Json), code = .str text ∧ hashText py text = .ok digest ∧
    after.codes = .decoded (.obj store) ∧ store.get? (lit "codes") = some (.arr entries) ∧
    Json.obj item ∈ entries ∧ item.get? (lit "code_hash") = some (.str digest) ∧
    item.get? (lit "used_at") = some (.str moment.usedAt.text)
  certificate :
    after.certificates.get? credentials.nodeId = some (.obj credentials.certificate) ∧
      after.certificateFile = after.certificates
  token : ∃ (digest : PyStr) (store : Dict PyStr Json) (entries : List Json)
    (record : Dict PyStr Json), hashText py credentials.token = .ok digest ∧
    after.tokens = .decoded (.obj store) ∧ store.get? (lit "tokens") = some (.arr entries) ∧
    Json.obj record ∈ entries ∧ record.get? (lit "node_id") = some (.str credentials.nodeId) ∧
    record.get? (lit "token_hash") = some (.str digest) ∧
    record.get? (lit "revoked") = some (.bool false)
  active : ∃ nodes record : Dict PyStr Json, after.state.get? (lit "nodes") = some (.obj nodes) ∧
    nodes.get? credentials.nodeId = some (.obj record) ∧
    record.get? (lit "status") = some (.str (lit "active")) ∧ after.stateFile = after.state

/-- The call returned and everything is recorded, or it raised `AuthError` and nothing
has changed. -/
def AllOrNothing (py : Platform) (moment : JoinMoment) (nodeId code : Json) (before : AuthStores)
    (outcome : Except AuthFault Credentials × AuthStores) : Prop :=
  match outcome.1 with
  | .ok credentials => JoinRecorded py moment nodeId code credentials outcome.2
  | .error fault => fault.isAuthError = true ∧ outcome.2 = before

/-! ## The writes -/

theorem run_join_of_refused {py : Platform} {moment : JoinMoment} {nodeId code expiresAt : Json}
    {stores : AuthStores} {fault : AuthFault}
    (refused : findMatch py moment nodeId code expiresAt stores = .error fault) :
    (join py moment nodeId code expiresAt).run stores = (.error fault, stores) := by
  rw [join, run_bind_ok (run_read _)]
  exact run_bind_error (by rw [run_ofExcept, refused]) _

theorem run_join_of_match {py : Platform} {moment : JoinMoment} {nodeId code expiresAt : Json}
    {stores : AuthStores} {found : JoinMatch}
    (matched : findMatch py moment nodeId code expiresAt stores = .ok found) :
    (join py moment nodeId code expiresAt).run stores =
      (enroll py moment found).run stores := by
  rw [join, run_bind_ok (run_read _)]
  exact run_bind_ok (by rw [run_ofExcept, matched]) _

/-- The stores with a certificate that could not be saved. -/
def JoinMoment.unsaved (moment : JoinMoment) (nodeId : PyStr) (stores : AuthStores) : AuthStores :=
  { stores with
    certificates := stores.certificates.set nodeId (.obj (moment.certificate nodeId)) }

/-- The stores once the certificate is issued and saved. -/
def JoinMoment.issued (moment : JoinMoment) (nodeId : PyStr) (stores : AuthStores) : AuthStores :=
  { stores with
    certificates := stores.certificates.set nodeId (.obj (moment.certificate nodeId))
    certificateFile := stores.certificates.set nodeId (.obj (moment.certificate nodeId)) }

theorem run_issue_of_refused {moment : JoinMoment} {nodeId : PyStr} {stores : AuthStores}
    {fault : AuthFault} (refused : checkIssue nodeId stores.certificates = .error fault) :
    (issue moment nodeId).run stores = (.error fault, stores) := by
  rw [issue, run_bind_ok (run_read _)]
  exact run_bind_error (by rw [run_ofExcept, refused]) _

theorem run_issue_of_encodable {moment : JoinMoment} {nodeId : PyStr} {stores : AuthStores}
    (issuable : checkIssue nodeId stores.certificates = .ok ())
    (encodable : Encodable
      (plainText (stores.certificates.set nodeId (.obj (moment.certificate nodeId))))) :
    (issue moment nodeId).run stores =
      (.ok (moment.certificate nodeId), moment.issued nodeId stores) := by
  obtain ⟨bytes, encoded⟩ := encodable_iff.mp encodable
  rw [issue, run_bind_ok (run_read _), run_bind_ok (by rw [run_ofExcept, issuable]),
    run_bind_ok (run_modify _ _), saveCertificates]
  simp only [run_bind, run_read, encoded]
  rfl

theorem run_issue_of_unencodable {moment : JoinMoment} {nodeId : PyStr} {stores : AuthStores}
    (issuable : checkIssue nodeId stores.certificates = .ok ())
    (unencodable : ¬Encodable
      (plainText (stores.certificates.set nodeId (.obj (moment.certificate nodeId))))) :
    (issue moment nodeId).run stores = (.error .valueError, moment.unsaved nodeId stores) := by
  have failed : encodeUtf8
      (plainText (stores.certificates.set nodeId (.obj (moment.certificate nodeId)))) = none := by
    rw [Option.eq_none_iff_forall_ne_some]
    intro bytes encoded
    exact unencodable (encodable_iff.mpr ⟨bytes, encoded⟩)
  rw [issue, run_bind_ok (run_read _), run_bind_ok (by rw [run_ofExcept, issuable]),
    run_bind_ok (run_modify _ _), saveCertificates]
  simp only [run_bind, run_read, failed, run_raise]
  rfl

theorem run_addToken {py : Platform} {moment : JoinMoment} {nodeId digest : PyStr}
    (hashed : hashText py moment.token.text = .ok digest) (stores : AuthStores) :
    (addToken py moment nodeId).run stores =
      match readTokens moment stores.tokens with
      | .ok (store, kept) => (.ok (), { stores with tokens := .decoded (.obj
          (store.set (lit "tokens") (.arr (kept ++ [.obj (moment.tokenRecord nodeId digest)])))) })
      | .error fault => (.error fault, stores) := by
  rw [addToken, run_bind_ok (by rw [run_ofExcept, hashed]), run_bind_ok (run_read _)]
  cases tokens : readTokens moment stores.tokens with
  | error fault => exact run_bind_error (run_ofExcept _ _) _
  | ok found =>
      rw [run_bind_ok (run_ofExcept _ _)]
      rfl

/-- Registering a node that the vault does not know. -/
theorem run_register {moment : JoinMoment} {nodeId : PyStr} {stores : AuthStores}
    {nodes : Dict PyStr Json} (table : nodesOf stores.state = .ok nodes)
    (fresh : ((nodes.get? nodeId).getD .null).truthy = false) :
    (register moment nodeId).run stores =
      match nodeRecord moment (nodes.get? nodeId) with
      | .error fault => (.error fault, stores)
      | .ok record =>
          (saveVaultState).run { stores with
            state := stores.state.set (lit "nodes") (.obj (nodes.set nodeId (.obj record))) } := by
  have allowed : refusesNode ((nodes.get? nodeId).getD .null) = .ok false := by
    simp [refusesNode, fresh]
  rw [register, run_bind_ok (run_read _), run_bind_ok (by rw [run_ofExcept, table]),
    run_bind_ok (by rw [run_ofExcept, allowed]), if_neg (by simp)]
  cases record : nodeRecord moment (nodes.get? nodeId) with
  | error fault => exact run_bind_error (run_ofExcept _ _) _
  | ok written => rw [run_bind_ok (run_ofExcept _ _), run_bind_ok (run_modify _ _)]

theorem run_saveVaultState (stores : AuthStores) :
    (saveVaultState).run stores =
      match encodeUtf8 (plainText stores.state) with
      | some _ => (.ok (), { stores with stateFile := stores.state })
      | none => (.error .valueError, stores) := by
  rw [saveVaultState, run_bind_ok (run_read _)]
  cases encodeUtf8 (plainText stores.state) with
  | some bytes => simp only [run_modify]
  | none => simp only [run_raise]

/-- The stores once the code is marked as used, too. -/
def JoinMoment.taken (moment : JoinMoment) (found : JoinMatch) (stores : AuthStores) : AuthStores :=
  { moment.issued found.nodeId stores with
    codes := .decoded (.obj (markUsed moment found.entries found.index found.item found.store)) }

/-- The stores once the token is stored, too. -/
def JoinMoment.tokened (moment : JoinMoment) (found : JoinMatch) (stores : AuthStores)
    (store : Dict PyStr Json) (kept : List Json) (digest : PyStr) : AuthStores :=
  { moment.taken found stores with
    tokens := .decoded (.obj (store.set (lit "tokens")
      (.arr (kept ++ [.obj (moment.tokenRecord found.nodeId digest)])))) }

/-- The stores once the node is registered, too. -/
def JoinMoment.registered (moment : JoinMoment) (found : JoinMatch) (stores : AuthStores)
    (store : Dict PyStr Json) (kept : List Json) (digest : PyStr) (nodes written : Dict PyStr Json) :
    AuthStores :=
  let state := stores.state.set (lit "nodes") (.obj (nodes.set found.nodeId (.obj written)))
  { moment.tokened found stores store kept digest with state := state, stateFile := state }

/-- Where `issue` agrees, the certificate it writes was not in the store. -/
theorem ne_of_issuable {moment : JoinMoment} {nodeId : PyStr} {certificates : Dict PyStr Json}
    (issuable : checkIssue nodeId certificates = .ok ()) :
    certificates.get? nodeId ≠ some (.obj (moment.certificate nodeId)) := by
  intro present
  unfold checkIssue at issuable
  split at issuable
  · cases issuable
  · rw [present] at issuable
    have notRevoked : getOr (lit "revoked") .null (moment.certificate nodeId) = .bool false := by
      simp [getOr, JoinMoment.certificate, Dict.get?]
    simp [asDict, bind, Except.bind, notRevoked, Json.truthy] at issuable

/-- An exception after the certificate is written leaves a store changed. -/
theorem not_allOrNothing_of_fault {py : Platform} {moment : JoinMoment} {nodeId code : Json}
    {stores after : AuthStores} {id : PyStr} {fault : AuthFault}
    (issuable : checkIssue id stores.certificates = .ok ())
    (written : after.certificates = stores.certificates.set id (.obj (moment.certificate id))) :
    ¬AllOrNothing py moment nodeId code stores (.error fault, after) := by
  rintro ⟨-, unchanged⟩
  apply @ne_of_issuable moment _ _ issuable
  rw [← unchanged, written, Dict.get?_set_self]

theorem exists_hashText {py : Platform} {text : PyStr} (plain : ∀ c ∈ text, IsPlain c) :
    ∃ digest, hashText py text = .ok digest := by
  obtain ⟨bytes, encoded⟩ := encodable_iff.mp (encodable_of_plain plain)
  exact ⟨(py.sha256 bytes).text, by rw [hashText, encoded]⟩

/-! ## The entry that is taken -/

/-- An entry that `join` takes has the hash of the code. -/
theorem hash_of_acceptsItem {py : Platform} {moment : JoinMoment} {nodeId code : PyStr}
    {expiresAt : Json} {index : Nat} {item : Dict PyStr Json}
    (accepted : acceptsItem py moment nodeId code expiresAt index item = .ok true) :
    ∃ digest, hashText py code = .ok digest ∧ item.get? (lit "code_hash") = some (.str digest) := by
  unfold acceptsItem at accepted
  split at accepted
  · cases accepted
  obtain ⟨digest, hashed, accepted⟩ := except_bind_eq_ok.mp accepted
  obtain ⟨same, compared, accepted⟩ := except_bind_eq_ok.mp accepted
  refine ⟨digest, hashed, ?_⟩
  split at accepted
  · next equal =>
      have nonempty : digest ≠ [] := by
        unfold hashText at hashed
        split at hashed
        · cases hashed
          exact (py.sha256 _).nonempty
        · cases hashed
      subst equal
      unfold compareDigest at compared
      split at compared
      · next text isText =>
          split at compared
          · have same : text = digest := by simpa using Except.ok.inj compared
            rw [same, getOr] at isText
            cases stored : item.get? (lit "code_hash") with
            | none =>
                rw [stored] at isText
                exact absurd (Json.str.inj isText).symm nonempty
            | some value =>
                rw [stored] at isText
                exact congrArg some isText
          · cases compared
      · cases compared
  · cases accepted

theorem place_of_findCode {py : Platform} {moment : JoinMoment} {nodeId code : PyStr}
    {expiresAt : Json} {start index : Nat} {entries : List Json} {item : Dict PyStr Json}
    (scanned : findCode py moment nodeId code expiresAt start entries = .ok (some (index, item))) :
    start ≤ index ∧ index < start + entries.length ∧
      acceptsItem py moment nodeId code expiresAt index item = .ok true := by
  induction entries generalizing start with
  | nil => cases scanned
  | cons entry rest ih =>
      rw [findCode] at scanned
      obtain ⟨fields, -, scanned⟩ := except_bind_eq_ok.mp scanned
      obtain ⟨accepted, outcome, scanned⟩ := except_bind_eq_ok.mp scanned
      cases accepted with
      | true =>
          cases scanned
          exact ⟨le_refl _, by simp, outcome⟩
      | false =>
          obtain ⟨lower, upper, taken⟩ := ih (by simpa using scanned)
          rw [List.length_cons]
          exact ⟨by omega, by omega, taken⟩

/-- The code is in the store, marked as used. -/
theorem code_recorded {py : Platform} {moment : JoinMoment} {nodeId code : PyStr} {expiresAt : Json}
    {entries : List Json} {index : Nat} {item : Dict PyStr Json}
    (scanned : findCode py moment nodeId code expiresAt 0 entries = .ok (some (index, item)))
    (store : Dict PyStr Json) :
    ∃ (digest : PyStr) (after : List Json) (used : Dict PyStr Json),
      hashText py code = .ok digest ∧
      (markUsed moment entries index item store).get? (lit "codes") = some (.arr after) ∧
      Json.obj used ∈ after ∧ used.get? (lit "code_hash") = some (.str digest) ∧
      used.get? (lit "used_at") = some (.str moment.usedAt.text) := by
  obtain ⟨-, inside, accepted⟩ := place_of_findCode scanned
  obtain ⟨digest, hashed, stored⟩ := hash_of_acceptsItem accepted
  refine ⟨digest, _, item.set (lit "used_at") (.str moment.usedAt.text), hashed,
    Dict.get?_set_self _ _ _, List.mem_set (by simpa using inside) _, ?_, Dict.get?_set_self _ _ _⟩
  rw [Dict.get?_set_of_ne (by simp), stored]

/-! ## The result -/

/-- The record that is written is of an active node. -/
theorem active_of_nodeRecord {moment : JoinMoment} {existing : Option Json}
    {record : Dict PyStr Json} (written : nodeRecord moment existing = .ok record) :
    record.get? (lit "status") = some (.str (lit "active")) := by
  obtain ⟨fields, -, written⟩ := except_bind_eq_ok.mp written
  cases written
  rfl

theorem joinRecorded {py : Platform} {moment : JoinMoment} {nodeId code expiresAt : Json}
    {stores : AuthStores} {found : JoinMatch} {text digest : PyStr}
    {nodes store written : Dict PyStr Json} {kept : List Json}
    (arguments : nodeId = .str found.nodeId ∧ code = .str text)
    (scanned : findCode py moment found.nodeId text expiresAt 0 found.entries =
      .ok (some (found.index, found.item)))
    (hashed : hashText py moment.token.text = .ok digest)
    (record : nodeRecord moment (nodes.get? found.nodeId) = .ok written) :
    JoinRecorded py moment nodeId code
      ⟨found.nodeId, moment.token.text, moment.tokenExpiresAt.text, lit "collab",
        moment.certificate found.nodeId⟩
      (moment.registered found stores store kept digest nodes written) where
  node := arguments.1
  code := by
    obtain ⟨codeDigest, after, used, codeHashed, marked, member, hash, usedAt⟩ :=
      code_recorded scanned found.store
    exact ⟨text, codeDigest, _, after, used, arguments.2, codeHashed, rfl, marked, member, hash, usedAt⟩
  certificate := ⟨Dict.get?_set_self _ _ _, rfl⟩
  token := by
    refine ⟨digest, _, _, moment.tokenRecord found.nodeId digest, hashed, rfl,
      Dict.get?_set_self _ _ _, by simp, ?_, ?_, ?_⟩
    all_goals simp [JoinMoment.tokenRecord, Dict.get?]
  active := ⟨_, written, Dict.get?_set_self _ _ _, Dict.get?_set_self _ _ _,
    active_of_nodeRecord record, rfl⟩

section Enroll

variable {py : Platform} {moment : JoinMoment} {stores : AuthStores} {found : JoinMatch}
  {nodes : Dict PyStr Json}

/-- What `join` does once the certificate is issued and the code is marked. -/
theorem run_enroll_taken (issuable : checkIssue found.nodeId stores.certificates = .ok ())
    (encodable : Encodable (plainText
      (stores.certificates.set found.nodeId (.obj (moment.certificate found.nodeId))))) :
    (enroll py moment found).run stores = (do
      addToken py moment found.nodeId
      (register moment found.nodeId).catching fun fault => .raise (.registration fault)
      return ⟨found.nodeId, moment.token.text, moment.tokenExpiresAt.text, lit "collab",
        moment.certificate found.nodeId⟩ : Action AuthStores AuthFault Credentials).run
          (moment.taken found stores) := by
  have issued : ((issue moment found.nodeId).catching fun fault => raise (refuseIdentity fault)).run
      stores = (.ok (moment.certificate found.nodeId), moment.issued found.nodeId stores) := by
    rw [run_catching_raise, run_issue_of_encodable issuable encodable]
    rfl
  rw [enroll, run_bind_ok issued]
  rfl

theorem run_addToken_taken {digest : PyStr} {store : Dict PyStr Json} {kept : List Json}
    (hashed : hashText py moment.token.text = .ok digest)
    (tokens : readTokens moment stores.tokens = .ok (store, kept)) :
    (addToken py moment found.nodeId).run (moment.taken found stores) =
      (.ok (), moment.tokened found stores store kept digest) := by
  rw [run_addToken hashed]
  simp only [JoinMoment.taken, JoinMoment.issued, tokens]
  rfl

/-- The vault's state with the node registered. -/
def JoinMoment.stateWith (found : JoinMatch) (stores : AuthStores) (nodes written : Dict PyStr Json) :
    Dict PyStr Json :=
  stores.state.set (lit "nodes") (.obj (nodes.set found.nodeId (.obj written)))

/-- Registering the node is the last step that can fail. -/
theorem run_register_tokened {store written : Dict PyStr Json} {kept : List Json} {digest : PyStr}
    (table : nodesOf stores.state = .ok nodes)
    (fresh : ((nodes.get? found.nodeId).getD .null).truthy = false)
    (record : nodeRecord moment (nodes.get? found.nodeId) = .ok written) :
    (register moment found.nodeId).run (moment.tokened found stores store kept digest) =
      match encodeUtf8 (plainText (JoinMoment.stateWith found stores nodes written)) with
      | some _ => (.ok (), moment.registered found stores store kept digest nodes written)
      | none => (.error .valueError, { moment.tokened found stores store kept digest with
          state := JoinMoment.stateWith found stores nodes written }) := by
  rw [@run_register moment found.nodeId (moment.tokened found stores store kept digest) nodes table
    fresh]
  simp only [record, run_saveVaultState]
  rfl

/-- Where everything can be stored, the writes of a join go through. -/
theorem run_enroll (table : nodesOf stores.state = .ok nodes)
    (fresh : ((nodes.get? found.nodeId).getD .null).truthy = false)
    (issuable : checkIssue found.nodeId stores.certificates = .ok ())
    (storable : Storable moment stores found.nodeId nodes) :
    ∃ digest store kept written, hashText py moment.token.text = .ok digest ∧
      readTokens moment stores.tokens = .ok (store, kept) ∧
      nodeRecord moment (nodes.get? found.nodeId) = .ok written ∧
      (enroll py moment found).run stores =
        (.ok ⟨found.nodeId, moment.token.text, moment.tokenExpiresAt.text, lit "collab",
          moment.certificate found.nodeId⟩,
          moment.registered found stores store kept digest nodes written) := by
  obtain ⟨certificates, ⟨⟨store, kept⟩, tokens⟩, written, record, encodable⟩ := storable
  obtain ⟨digest, hashed⟩ := @exists_hashText py _ moment.token.plain
  obtain ⟨bytes, encoded⟩ := encodable_iff.mp encodable
  have registers := @run_register_tokened moment stores found nodes store written kept digest table
    fresh record
  rw [JoinMoment.stateWith, encoded] at registers
  have done : ((register moment found.nodeId).catching
      fun fault => raise (.registration fault)).run (moment.tokened found stores store kept digest) =
      (.ok (), moment.registered found stores store kept digest nodes written) := by
    rw [run_catching_raise, registers]
    rfl
  refine ⟨digest, store, kept, written, hashed, tokens, record, ?_⟩
  rw [run_enroll_taken issuable certificates, run_bind_ok (run_addToken_taken hashed tokens),
    run_bind_ok done]
  rfl

/-- Where something cannot be stored, the writes of a join stop after the first. -/
theorem enroll_fails (table : nodesOf stores.state = .ok nodes)
    (fresh : ((nodes.get? found.nodeId).getD .null).truthy = false)
    (issuable : checkIssue found.nodeId stores.certificates = .ok ())
    (unstorable : ¬Storable moment stores found.nodeId nodes) :
    ∃ fault after, (enroll py moment found).run stores = (.error fault, after) ∧
      after.certificates =
        stores.certificates.set found.nodeId (.obj (moment.certificate found.nodeId)) := by
  by_cases certificates : Encodable
      (plainText (stores.certificates.set found.nodeId (.obj (moment.certificate found.nodeId))))
  case neg =>
    have failed : ((issue moment found.nodeId).catching fun fault => raise (refuseIdentity fault)).run
        stores = (.error .valueError, moment.unsaved found.nodeId stores) := by
      rw [run_catching_raise, run_issue_of_unencodable issuable certificates]
      rfl
    exact ⟨_, _, by rw [enroll, run_bind_error failed], rfl⟩
  rw [run_enroll_taken issuable certificates]
  obtain ⟨digest, hashed⟩ := @exists_hashText py _ moment.token.plain
  cases tokens : readTokens moment stores.tokens with
  | error fault =>
      have failed : (addToken py moment found.nodeId).run (moment.taken found stores) =
          (.error fault, moment.taken found stores) := by
        rw [run_addToken hashed]
        simp only [JoinMoment.taken, JoinMoment.issued, tokens]
      exact ⟨_, _, run_bind_error failed _, rfl⟩
  | ok read =>
      obtain ⟨store, kept⟩ := read
      rw [run_bind_ok (run_addToken_taken hashed tokens)]
      cases record : nodeRecord moment (nodes.get? found.nodeId) with
      | error fault =>
          have failed : ((register moment found.nodeId).catching
              fun fault => raise (.registration fault)).run
                (moment.tokened found stores store kept digest) =
              (.error (.registration fault), moment.tokened found stores store kept digest) := by
            rw [run_catching_raise, @run_register moment found.nodeId
              (moment.tokened found stores store kept digest) nodes table fresh, record]
            rfl
          exact ⟨_, _, run_bind_error failed _, rfl⟩
      | ok written =>
          have registers := @run_register_tokened moment stores found nodes store written kept digest
            table fresh record
          cases encoded : encodeUtf8 (plainText (JoinMoment.stateWith found stores nodes written)) with
          | none =>
              rw [encoded] at registers
              have failed : ((register moment found.nodeId).catching
                  fun fault => raise (.registration fault)).run
                    (moment.tokened found stores store kept digest) =
                  (.error (.registration .valueError),
                    { moment.tokened found stores store kept digest with
                      state := JoinMoment.stateWith found stores nodes written }) := by
                rw [run_catching_raise, registers]
                rfl
              exact ⟨_, _, run_bind_error failed _, rfl⟩
          | some bytes =>
              exact absurd ⟨certificates, ⟨_, tokens⟩, written, record,
                encodable_iff.mpr ⟨bytes, encoded⟩⟩ unstorable

end Enroll

/-- Once the certificate can be issued, a join is all or nothing exactly when everything
can be stored. -/
theorem allOrNothing_enroll_iff {py : Platform} {moment : JoinMoment}
    {nodeId code expiresAt : Json} {stores : AuthStores} {found : JoinMatch}
    {text : PyStr} {nodes : Dict PyStr Json}
    (arguments : nodeId = .str found.nodeId ∧ code = .str text)
    (scanned : findCode py moment found.nodeId text expiresAt 0 found.entries =
      .ok (some (found.index, found.item)))
    (table : nodesOf stores.state = .ok nodes)
    (fresh : ((nodes.get? found.nodeId).getD .null).truthy = false)
    (issuable : checkIssue found.nodeId stores.certificates = .ok ()) :
    AllOrNothing py moment nodeId code stores ((enroll py moment found).run stores) ↔
      Storable moment stores found.nodeId nodes := by
  by_cases storable : Storable moment stores found.nodeId nodes
  · obtain ⟨digest, store, kept, written, hashed, -, record, ran⟩ :=
      @run_enroll py moment stores found nodes table fresh issuable storable
    rw [ran]
    exact iff_of_true (joinRecorded arguments scanned hashed record) storable
  · obtain ⟨fault, after, ran, written⟩ := @enroll_fails py moment stores found nodes
      table fresh issuable storable
    rw [ran]
    exact iff_of_false (not_allOrNothing_of_fault issuable written) storable

theorem nodeId_of_checkArguments {py : Platform} {nodeId code : Json} {id text : PyStr}
    (arguments : checkArguments py nodeId code = .ok (id, text)) :
    (nodeId = .str id ∧ code = .str text) ∧ id ≠ [] := by
  unfold checkArguments at arguments
  split at arguments
  · split at arguments
    · next valid =>
        cases arguments
        refine ⟨⟨rfl, rfl⟩, ?_⟩
        rintro rfl
        simp [validNodeId] at valid
    · cases arguments
  · cases arguments

/-- Where the checks find a code, what is left to ask is that the node can be stored. -/
theorem joinSettles_of_match {py : Platform} {moment : JoinMoment} {nodeId code expiresAt : Json}
    {stores : AuthStores} {found : JoinMatch}
    (matched : findMatch py moment nodeId code expiresAt stores = .ok found) :
    JoinSettles py moment nodeId code expiresAt stores ↔ LegibleNode moment stores found.nodeId := by
  obtain ⟨text, nodes, arguments, read, items, scanned, table, fresh⟩ := exists_of_findMatch matched
  constructor
  · intro settles
    obtain ⟨-, rest⟩ := settles _ _ arguments
    obtain ⟨entries, same, -, rest⟩ := rest _ read
    cases items.symm.trans same
    exact rest _ scanned
  · intro legible id other same
    cases arguments.symm.trans same
    have readable := (onlyAuthErrors_findMatch py moment nodeId code expiresAt stores).mp
      (by rw [matched]; exact onlyAuthErrors_ok _) _ _ arguments
    refine ⟨readable.1, ?_⟩
    intro store sameStore
    obtain ⟨entries, itemsEq, entriesLegible, -⟩ := readable.2 store sameStore
    exact ⟨entries, itemsEq, entriesLegible, fun _ _ => legible⟩

/-- Where the checks raise, the condition says that they raise `AuthError`. -/
theorem joinSettles_of_refused {py : Platform} {moment : JoinMoment} {nodeId code expiresAt : Json}
    {stores : AuthStores} {fault : AuthFault}
    (refused : findMatch py moment nodeId code expiresAt stores = .error fault) :
    JoinSettles py moment nodeId code expiresAt stores ↔ fault.isAuthError = true := by
  rw [← @onlyAuthErrors_error JoinMatch fault, ← refused, onlyAuthErrors_findMatch]
  refine forall₂_congr fun id text => forall_congr' fun arguments => ?_
  refine and_congr_right fun _ => forall₂_congr fun store read => ?_
  refine exists_congr fun entries => and_congr_right fun items => and_congr_right fun _ => ?_
  refine forall₂_congr fun taken scanned => ?_
  constructor
  · rintro ⟨nodes, table, -⟩
    exact ⟨nodes, table⟩
  · rintro ⟨nodes, table⟩
    refine ⟨nodes, table, ?_⟩
    intro fresh
    obtain ⟨index, item⟩ := taken
    have found : findMatch py moment nodeId code expiresAt stores =
        .ok ⟨id, store, entries, index, item⟩ := by
      simp only [findMatch, arguments, read, items, scanned, table, bind, Except.bind, fresh,
        Bool.false_eq_true, if_false]
      rfl
    cases found.symm.trans refused

/-- A join leaves a used code, a certificate, a token and an active node, or raises
`AuthError` and leaves every store as it was, exactly when what it reads before its first
write is legible and, where it gets so far, everything it writes can be stored. -/
theorem join_allOrNothing_iff (py : Platform) (moment : JoinMoment) (nodeId code expiresAt : Json)
    (stores : AuthStores) :
    AllOrNothing py moment nodeId code stores ((join py moment nodeId code expiresAt).run stores) ↔
      JoinSettles py moment nodeId code expiresAt stores := by
  cases matched : findMatch py moment nodeId code expiresAt stores with
  | error fault =>
      rw [run_join_of_refused matched, joinSettles_of_refused matched]
      simp [AllOrNothing]
  | ok found =>
      rw [run_join_of_match matched, joinSettles_of_match matched]
      obtain ⟨text, nodes, arguments, -, -, scanned, table, fresh⟩ := exists_of_findMatch matched
      obtain ⟨texts, nonempty⟩ := nodeId_of_checkArguments arguments
      have issues := onlyAuthErrors_checkIssue found.nodeId stores.certificates nonempty
      have legible_iff : LegibleNode moment stores found.nodeId ↔
          (found.nodeId.all isIdChar = true →
            (∀ certificate, stores.certificates.get? found.nodeId = some certificate →
              ∃ fields, certificate = .obj fields) ∧
            (checkIssue found.nodeId stores.certificates = .ok () →
              Storable moment stores found.nodeId nodes)) := by
        constructor
        · rintro ⟨other, same, legible⟩
          cases table.symm.trans same
          exact legible fresh
        · exact fun legible => ⟨nodes, table, fun _ => legible⟩
      rw [legible_iff]
      cases issued : checkIssue found.nodeId stores.certificates with
      | error fault =>
          rw [issued] at issues
          have failed : ((issue moment found.nodeId).catching
              fun fault => raise (refuseIdentity fault)).run stores =
                (.error (refuseIdentity fault), stores) := by
            rw [run_catching_raise, run_issue_of_refused issued]
            rfl
          rw [enroll, run_bind_error failed]
          simpa [AllOrNothing] using issues
      | ok value =>
          rw [issued] at issues
          have objects := issues.mp (by simp)
          have chars : found.nodeId.all isIdChar = true := by
            by_contra other
            rw [Bool.not_eq_true] at other
            rw [checkIssue, if_pos (by rw [other, Bool.not_false, Bool.or_true])] at issued
            cases issued
          rw [allOrNothing_enroll_iff texts scanned table fresh issued]
          constructor
          · exact fun storable _ => ⟨objects chars, fun _ => storable⟩
          · exact fun legible => (legible chars).2 rfl

/-! ## A join that burns its code -/

/-- A moment at which every text is an instant that has not come yet. -/
def JoinMoment.early : JoinMoment where
  parseIso := fun _ => .value 1
  clock := fun _ => (0, 0)
  tokenClock := fun _ => 0
  usedAt := ⟨lit "0", isPlain_lit _ (by decide)⟩
  token := ⟨lit "t", isPlain_lit _ (by decide)⟩
  tokenIssuedAt := ⟨lit "0", isPlain_lit _ (by decide)⟩
  tokenExpiresAt := ⟨lit "1", isPlain_lit _ (by decide)⟩
  publicKey := ⟨lit "k", isPlain_lit _ (by decide)⟩
  issuedAt := ⟨lit "0", isPlain_lit _ (by decide)⟩
  expiresAt := ⟨lit "1", isPlain_lit _ (by decide)⟩
  signature := ⟨lit "s", isPlain_lit _ (by decide)⟩
  now := ⟨lit "0", isPlain_lit _ (by decide)⟩

/-- The hash of the code `abc`. -/
def abcDigest : PyStr := (Platform.plain.sha256 (String.ofList ['a', 'b', 'c']).toByteArray).text

/-- The entry of that code, for any node. -/
def abcEntry : Dict PyStr Json :=
  [(lit "code_hash", .str abcDigest), (lit "node_id", .null), (lit "expires_at", .str (lit "1")),
    (lit "used_at", .null)]

/-- Stores with one code and no node, whose token file cannot be decrypted. -/
def lostTokens : AuthStores where
  codes := .decoded (.obj [(lit "codes", .arr [.obj abcEntry])])
  tokens := .invalid
  certificates := []
  certificateFile := []
  state := [(lit "nodes", .obj [])]
  stateFile := [(lit "nodes", .obj [])]

/-- What `bob` finds there with the code. -/
def abcMatch : JoinMatch :=
  ⟨lit "bob", [(lit "codes", .arr [.obj abcEntry])], [.obj abcEntry], 0, abcEntry⟩

theorem hashText_abc : hashText Platform.plain (lit "abc") = .ok abcDigest := by
  have encoded : encodeUtf8 (lit "abc") = some (String.ofList ['a', 'b', 'c']).toByteArray :=
    encodeUtf8_eq_some.mpr ⟨['a', 'b', 'c'], rfl, rfl⟩
  rw [hashText, encoded]
  rfl

theorem findCode_lostTokens :
    findCode Platform.plain .early (lit "bob") (lit "abc") .null 0 [.obj abcEntry] =
      .ok (some (0, abcEntry)) := by
  have unused : getOr (lit "used_at") .null abcEntry = .null := by
    simp [getOr, abcEntry, Dict.get?]
  have hash : getOr (lit "code_hash") (.str []) abcEntry = .str abcDigest := by
    simp [getOr, abcEntry, Dict.get?]
  have unbound : getOr (lit "node_id") .null abcEntry = .null := by
    simp [getOr, abcEntry, Dict.get?]
  have expiry : JoinMoment.early.expiry abcEntry = .ok 1 := by
    simp [JoinMoment.expiry, abcEntry, Dict.get?, JoinMoment.instant, JoinMoment.early]
  have same := @hash_of_compareDigest _ abcDigest _ hash fun c member =>
    lt_trans ((Platform.plain.sha256 _).plain c member).2 (by norm_num)
  have accepted : acceptsItem Platform.plain .early (lit "bob") (lit "abc") .null 0 abcEntry =
      .ok true := by
    simp only [acceptsItem, unused, hashText_abc, same, isUnexpired, expiry, isFor, unbound,
      fitsRequest, bind, Except.bind]
    simp [Json.truthy, JoinMoment.early]
  rw [findCode]
  simp only [asDict, accepted, bind, Except.bind]
  rfl

/-- The code `abc` is valid and the node new, but the token file cannot be decrypted: the
join raises after it has issued the certificate and marked the code as used. -/
theorem join_burns_code :
    ¬AllOrNothing Platform.plain .early (.str (lit "bob")) (.str (lit "abc")) lostTokens
      ((join Platform.plain .early (.str (lit "bob")) (.str (lit "abc")) .null).run lostTokens) := by
  have arguments : checkArguments Platform.plain (.str (lit "bob")) (.str (lit "abc")) =
      .ok (lit "bob", lit "abc") := by
    have valid : validNodeId Platform.plain (lit "bob") = true := by decide
    rw [checkArguments, valid]
    rfl
  have matched : findMatch Platform.plain .early (.str (lit "bob")) (.str (lit "abc")) .null
      lostTokens = .ok abcMatch := by
    simp only [findMatch, arguments, lostTokens, readStore, getOr, Dict.get?, if_true, iterate,
      Option.getD_some, findCode_lostTokens, nodesOf, asDict, bind, Except.bind]
    rfl
  have issuable : checkIssue (lit "bob") lostTokens.certificates = .ok () := by
    have chars : (lit "bob").all isIdChar = true := by decide
    rw [checkIssue, if_neg (by rw [chars]; decide)]
    rfl
  have settles := @allOrNothing_enroll_iff Platform.plain .early (.str (lit "bob"))
    (.str (lit "abc")) .null lostTokens abcMatch (lit "abc") [] ⟨rfl, rfl⟩ findCode_lostTokens rfl rfl
    issuable
  rw [run_join_of_match matched, settles]
  intro storable
  obtain ⟨kept, read⟩ := storable.tokens
  cases read

end HermesMesh.Collab
