import HermesMesh.Collab.Trust.Verification
import HermesMesh.Collab.Vault.Applied
import HermesMesh.Server.Handlers

/-!
# What a handler knows of an accepted envelope

A handler goes on only with an envelope that `verify` has accepted.  Its fields have
their types, its payload satisfies the policy and all its texts can be written, so that
appending its event fails only where the chain does not verify or the vault refuses to
apply the event.
-/

namespace HermesMesh.Server

open Python Foundation Foundation.Action Collab MonitorServer

variable {py : Platform}

/-- What `verify` vouches for. -/
structure Vouched (py : Platform) (node : PyStr) (signed : SignedBody) : Prop where
  allowed : signed.op ∈ allowedOps
  policy : Acceptable py signed.payload.toJson
  finite : signed.payload.toJson.isFinite = true
  node : Encodable node
  strings : signed.payload.toJson.AllStrings Encodable
  sig : ∀ c ∈ signed.sig, IsPlain c

/-- `verify` accepts the envelope as one of the node. -/
def VerifiesFor (py : Platform) (moment : RequestMoment) (node : Peer) (trust : TrustManager)
    (body : JsonObject) : Prop :=
  TrustManager.Accepts ((TrustManager.verify py (some node.id) moment.verifyNow moment.verifyLater
    (some body)).run trust).1

theorem vouched_of_verifies {moment : RequestMoment} {node : Peer} {trust : TrustManager}
    {body : JsonObject} (verifies : VerifiesFor py moment node trust body) :
    ∃ signed, signedBody? body = some signed ∧ Vouched py node.id signed ∧
      ((TrustManager.verify py (some node.id) moment.verifyNow moment.verifyLater
        (some body)).run trust).1 = .ok ⟨true, "verified", some node.id⟩ := by
  obtain ⟨nodeId, nonce, ts, genuine, unseen⟩ := TrustManager.accepts_verify_iff.mp verifies
  obtain ⟨op, payload, sig, material, checked, same⟩ := TrustManager.checked_of_genuine genuine
  have isNode : nodeId = node.id :=
    (checked.node.2.2 node.id rfl).resolve_left node.named
  subst isNode
  obtain ⟨finite, encodable, -, strings, -⟩ := exists_signingMaterial_iff.mp ⟨material, checked.encoded⟩
  refine ⟨⟨op, payload, sig⟩, ?_, ?_, ?_⟩
  · simp only [signedBody?, checked.isOp, checked.isPayload, checked.isSig]
  · exact ⟨checked.allowed, checked.policy, finite, encodable, strings, same ▸ Digest.plain _⟩
  · rw [TrustManager.verify_of_genuine genuine, if_pos unseen]

theorem Vouched.encodable_op {node : PyStr} {signed : SignedBody}
    (vouched : Vouched py node signed) : Encodable signed.op := by
  have allowed := vouched.allowed
  simp only [allowedOps, List.mem_cons, List.not_mem_nil, or_false] at allowed
  rcases allowed with same | same | same | same | same
  all_goals rw [same]; exact encodable_lit _

/-- The entry of an accepted envelope can be encoded. -/
theorem Vouched.canonical {node : PyStr} {signed : SignedBody} (vouched : Vouched py node signed)
    (moment : Moment) :
    canonical (CollabVault.newEntry moment node signed.op signed.payload signed.sig).toJson ≠ none :=
  canonical_newEntry_iff.mpr ⟨vouched.finite, vouched.node, vouched.encodable_op, vouched.strings,
    encodable_of_plain vouched.sig⟩

/-- A memory that can be written can be with the event of an accepted envelope, too. -/
theorem Vouched.saves {node : PyStr} {signed : SignedBody} (vouched : Vouched py node signed)
    {state : VaultState} (writable : state.Writable) (moment : Moment) :
    (state.firstSaved py moment
      (CollabVault.newEntry moment node signed.op signed.payload signed.sig)).Writable :=
  writable.firstSaved (allStrings_newEntry (fun _ => encodable_of_plain) vouched.node
    vouched.encodable_op vouched.strings (encodable_of_plain vouched.sig))

/-- A new vault applies the event of an accepted envelope that stores no task and lets no
node join. -/
theorem Vouched.applies_fresh {node : PyStr} {signed : SignedBody} (vouched : Vouched py node signed)
    (root : Path) (notTask : signed.op ≠ lit "task") (notJoin : signed.op ≠ lit "join")
    (moment : Moment) : (CollabVault.fresh root).Applies py moment
      (CollabVault.newEntry moment node signed.op signed.payload signed.sig) :=
  (applies_iff_of_op notTask notJoin).mpr (vouched.saves VaultState.writable_default moment)

theorem get?_of_signedBody? {body : JsonObject} {signed : SignedBody}
    (fields : signedBody? body = some signed) : body.get? (lit "op") = some (.str signed.op) := by
  unfold signedBody? at fields
  split at fields
  · next op payload sig isOp isPayload isSig =>
      cases fields
      exact isOp
  · cases fields

/-- The server with the nonces that `verify` has left. -/
def MonitorServer.afterVerify (py : Platform) (moment : RequestMoment) (node : Peer)
    (body : JsonObject) (server : MonitorServer) : MonitorServer :=
  { server with trust := ((TrustManager.verify py (some node.id) moment.verifyNow moment.verifyLater
      (some body)).run server.trust).2 }

theorem run_onTrust_verify (moment : RequestMoment) (node : Peer) (body : JsonObject)
    (server : MonitorServer) :
    (onTrust (TrustManager.verify py (some node.id) moment.verifyNow moment.verifyLater
      (some body))).run server =
      (((TrustManager.verify py (some node.id) moment.verifyNow moment.verifyLater
        (some body)).run server.trust).1, server.afterVerify py moment node body) := rfl

theorem run_verifyEnvelope_of_verifies {moment : RequestMoment} {node : Peer} {body : JsonObject}
    {server : MonitorServer} (verifies : VerifiesFor py moment node server.trust body) :
    ∃ signed, signedBody? body = some signed ∧ Vouched py node.id signed ∧
      (verifyEnvelope py moment node body).run server =
        (.ok (.ok (node.id, signed)), server.afterVerify py moment node body) := by
  obtain ⟨signed, fields, vouched, verdict⟩ := vouched_of_verifies verifies
  refine ⟨signed, fields, vouched, ?_⟩
  have answered := @run_onTrust_verify py moment node body server
  rw [verdict] at answered
  rw [verifyEnvelope, run_bind_ok answered]
  simp only [if_true, fields, run_bind, run_ofOption_some, run_pure, Option.getD_some]

/-- What a mutation changes: the vault, and the files that are written. -/
def MonitorServer.stores (server : MonitorServer) : CollabVault × List (Path × PyStr) :=
  (server.vault, server.fileWrites)

/-- Any other envelope is refused or makes `verify` raise; the stores are as they were. -/
theorem run_verifyEnvelope_of_not_verifies {moment : RequestMoment} {node : Peer}
    {body : JsonObject} {server : MonitorServer}
    (refused : ¬VerifiesFor py moment node server.trust body) :
    ((∃ fault, ((verifyEnvelope py moment node body).run server).1 = .error fault) ∨
        ∃ reason, ((verifyEnvelope py moment node body).run server).1 = .ok (.error reason)) ∧
      ((verifyEnvelope py moment node body).run server).2.stores = server.stores := by
  rw [verifyEnvelope, run_bind, run_onTrust_verify]
  cases answer : ((TrustManager.verify py (some node.id) moment.verifyNow moment.verifyLater
      (some body)).run server.trust).1 with
  | error fault => exact ⟨.inl ⟨fault, rfl⟩, rfl⟩
  | ok verdict =>
      have invalid : verdict.valid = false := by
        rw [← Bool.not_eq_true]
        exact fun valid => refused ⟨verdict, answer, valid⟩
      simp only [invalid, Bool.false_eq_true, if_false]
      exact ⟨.inr ⟨verdict.reason, rfl⟩, rfl⟩

/-! ## Requests with an envelope -/

/-- The request comes with an envelope that is accepted, within the rate of its node. -/
structure AcceptedBody (py : Platform) (moment : RequestMoment) (request : Request)
    (trust : TrustManager) (node : Peer) (body : JsonObject) (signed : SignedBody) : Prop where
  isNode : request.node = some node
  unlimited : request.retryAfter = none
  isBody : request.body = some body
  verifies : VerifiesFor py moment node trust body
  fields : signedBody? body = some signed

theorem not_isOk_of_status {status : Nat} {body : Dict PyStr Json} (other : status ≠ 200) :
    ¬(Reply.mk status body).isOk := fun ok => other ok.1

/-- The handler replied with `ok`. -/
def Succeeds (outcome : Except Fault Reply × MonitorServer) : Prop :=
  ∃ reply, outcome.1 = .ok reply ∧ reply.isOk

theorem not_succeeds_of_reply {reply : Reply} (refuses : ¬reply.isOk) (server : MonitorServer) :
    ¬Succeeds (.ok reply, server) := by
  rintro ⟨other, same, isOk⟩
  cases same
  exact refuses isOk

theorem not_succeeds_of_error (fault : Fault) (server : MonitorServer) :
    ¬Succeeds (.error fault, server) := by
  rintro ⟨reply, impossible, -⟩
  cases impossible

/-- A handler goes on with an accepted envelope, or refuses and leaves the stores as they
were. -/
theorem signedRequest_cases (scope : String) (moment : RequestMoment) (request : Request)
    (next : PyStr → PyStr → SignedBody → Handler Reply) (server : MonitorServer) :
    (∃ node body signed, AcceptedBody py moment request server.trust node body signed ∧
        Vouched py node.id signed ∧
        (signedRequest py scope moment request next).run server =
          (next node.id node.id signed).run (server.afterVerify py moment node body)) ∨
      (∀ node body signed, ¬AcceptedBody py moment request server.trust node body signed) ∧
        ((signedRequest py scope moment request next).run server).2.stores = server.stores ∧
          ¬Succeeds ((signedRequest py scope moment request next).run server) := by
  unfold signedRequest
  split
  · next absent =>
      refine .inr ⟨?_, rfl, not_succeeds_of_reply (not_isOk_of_status (by decide)) _⟩
      intro node body signed accepted
      rw [accepted.isNode] at absent
      cases absent
  · next node retryAfter isNode limited =>
      refine .inr ⟨?_, rfl, not_succeeds_of_reply (not_isOk_of_status (by decide)) _⟩
      intro other body signed accepted
      rw [accepted.unlimited] at limited
      cases limited
  · next node isNode unlimited absent =>
      refine .inr ⟨?_, rfl, not_succeeds_of_reply (not_isOk_of_status (by decide)) _⟩
      intro other body signed accepted
      rw [accepted.isBody] at absent
      cases absent
  · next node body isNode unlimited isBody =>
      by_cases verifies : VerifiesFor py moment node server.trust body
      · obtain ⟨signed, fields, vouched, verified⟩ := run_verifyEnvelope_of_verifies verifies
        refine .inl ⟨node, body, signed, ⟨isNode, unlimited, isBody, verifies, fields⟩, vouched, ?_⟩
        rw [run_bind_ok verified]
      · refine .inr ⟨?_, ?_⟩
        · intro other otherBody signed accepted
          cases isNode.symm.trans accepted.isNode
          cases isBody.symm.trans accepted.isBody
          exact verifies accepted.verifies
        · obtain ⟨refused, kept⟩ := run_verifyEnvelope_of_not_verifies verifies
          rcases outcome : (verifyEnvelope py moment node body).run server with ⟨result, after⟩
          rw [outcome] at refused kept
          rcases refused with ⟨fault, rfl⟩ | ⟨reason, rfl⟩
          · rw [run_bind_error outcome]
            exact ⟨kept, not_succeeds_of_error _ _⟩
          · rw [run_bind_ok outcome]
            exact ⟨kept, not_succeeds_of_reply (not_isOk_of_status (by decide)) _⟩

theorem AcceptedBody.unique {moment : RequestMoment} {request : Request} {trust : TrustManager}
    {node other : Peer} {body otherBody : JsonObject} {signed otherSigned : SignedBody}
    (accepted : AcceptedBody py moment request trust node body signed)
    (again : AcceptedBody py moment request trust other otherBody otherSigned) :
    node = other ∧ body = otherBody ∧ signed = otherSigned := by
  obtain ⟨isNode, -, isBody, -, fields⟩ := accepted
  obtain ⟨otherNode, -, isOther, -, otherFields⟩ := again
  cases isNode.symm.trans otherNode
  cases isBody.symm.trans isOther
  cases fields.symm.trans otherFields
  exact ⟨rfl, rfl, rfl⟩

/-! ## A greeting -/

/-- The moment of the closed examples. -/
def RequestMoment.epoch : RequestMoment where
  verifyNow := zeroTime
  verifyLater := zeroTime
  upsert := .epoch
  append := .epoch
  activityTs := Moment.epoch.now
  signing := fun _ => (⟨lit "n", isPlain_lit _ (by decide)⟩, zeroTime)
  file := fun _ => .missing
  fileWriteFails := false

/-- A server over an empty vault, with these partners. -/
def MonitorServer.idle (partners : List PyStr) : MonitorServer where
  vault := .fresh []
  trust := TrustManager.halfMinute
  localTasks := []
  partners := partners
  localNodeId := lit "mesh-local"
  links := []
  fileWrites := []
  dispatched := []
  broadcasts := []

/-- A message of the node `a` to that server is accepted if the policy accepts it. -/
theorem exists_verifies {op : PyStr} {payload : JsonObject} (allowed : op ∈ allowedOps)
    (accepted : Acceptable .plain payload.toJson) (finite : payload.toJson.isFinite = true)
    (strings : payload.toJson.AllStrings Encodable) :
    ∃ envelope : Envelope, envelope.op = op ∧ envelope.payload = payload ∧
      VerifiesFor .plain .epoch ⟨lit "a", by decide⟩ TrustManager.halfMinute envelope.object := by
  have stamp : Encodable ((Json.float (.finite zeroTime)).pyStr Platform.plain.unicode) := by
    rw [Json.pyStr, Json.repr]
    · exact encodable_of_plain (isPlain_reprFloat _)
    · exact fun _ impossible => Json.noConfusion impossible
  obtain ⟨envelope, signed, isNonce, isTs⟩ := @TrustManager.exists_sign .plain
    TrustManager.halfMinute (lit "a") op payload none none (lit "n") zeroTime allowed
    accepted finite (encodable_lit _) strings (encodable_lit _) stamp
  obtain ⟨-, -, material, -, isEnvelope⟩ := TrustManager.sign_eq_ok.mp signed
  refine ⟨envelope, by rw [isEnvelope], by rw [isEnvelope], ?_⟩
  have isTime : timestampSeconds .plain envelope.ts.val = some (.finite zeroTime) := by
    rw [isTs]
    rfl
  have genuine := @TrustManager.examine_signed .plain _ TrustManager.halfMinute rfl _ _ _ _ _ _ _ _
    signed (by decide) (by decide) (some (lit "a")) (by simp) _ isTime zeroTime
  rw [TrustManager.isStale_self (by decide), if_neg Bool.false_ne_true] at genuine
  exact TrustManager.accepts_verify_iff.mpr ⟨_, _, _, genuine, rfl⟩

end HermesMesh.Server
