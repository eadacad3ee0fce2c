import HermesMesh.Collab.Trust.Manager
import HermesMesh.Python.JsonWire

/-!
# What `verify` finds in a signed message

A message made by `sign` carries its fields as they were signed, so a manager with the
same key computes the same signature: the message is genuine unless it is stale, and it
is accepted unless its nonce is remembered.
-/

namespace HermesMesh.Collab

open Python Foundation Foundation.Action

variable {py : Platform}

namespace Envelope

def fields (envelope : Envelope) : Dict PyStr Json :=
  [(lit "node_id", .str envelope.nodeId), (lit "op", .str envelope.op),
    (lit "payload", envelope.payload.toJson), (lit "nonce", .str envelope.nonce),
    (lit "ts", envelope.ts.val), (lit "sig", .str envelope.sig)]

theorem distinct (envelope : Envelope) : (Json.obj envelope.fields).Distinct := by
  refine ⟨?_, trivial, trivial, envelope.payload.distinct, trivial, envelope.ts.property, trivial, trivial⟩
  simp only [fields, List.map_cons, List.map_nil, List.nodup_cons, List.mem_cons, lit_inj]
  decide

/-- The body that is posted, as the partner's `request.json()` decodes it. -/
def object (envelope : Envelope) : JsonObject := ⟨envelope.fields, envelope.distinct⟩

variable (envelope : Envelope)

@[simp] theorem get?_nodeId : envelope.object.get? (lit "node_id") = some (.str envelope.nodeId) := rfl

@[simp] theorem get?_op : envelope.object.get? (lit "op") = some (.str envelope.op) := by
  simp [JsonObject.get?, object, fields, Dict.get?]

@[simp] theorem get?_nonce : envelope.object.get? (lit "nonce") = some (.str envelope.nonce) := by
  simp [JsonObject.get?, object, fields, Dict.get?]

@[simp] theorem get?_ts : envelope.object.get? (lit "ts") = some envelope.ts.val := by
  simp [JsonObject.get?, object, fields, Dict.get?]

@[simp] theorem get?_sig : envelope.object.get? (lit "sig") = some (.str envelope.sig) := by
  simp [JsonObject.get?, object, fields, Dict.get?]

@[simp] theorem getObject?_payload :
    envelope.object.getObject? (lit "payload") = some envelope.payload :=
  JsonObject.getObject?_eq_some.mpr (by simp [JsonObject.get?, object, fields, Dict.get?])

end Envelope

theorem signingMaterial_eq_some {nodeId op nonce : PyStr} {payload : JsonObject} {ts : Json}
    {material : ByteArray} :
    signingMaterial py nodeId op payload nonce ts = some material ↔
      payload.toJson.isFinite = true ∧
        encodeUtf8 (joinWith (lit "|")
          [nodeId, op, payload.toJson.dumps .canonical, nonce, ts.pyStr py.unicode]) = some material := by
  rw [signingMaterial, Json.dumpsStrict]
  split
  · next finite => simp [finite]
  · next infinite => simp [infinite]

theorem encodable_joinWith {sep : PyStr} {texts : List PyStr} (sepEncodable : Encodable sep) :
    Encodable (joinWith sep texts) ↔ ∀ text ∈ texts, Encodable text := by
  constructor
  · intro all text member c inText
    exact all c (Json.mem_joinWith_of_mem member inText)
  · intro all c member
    rcases Json.mem_joinWith member with inSep | ⟨text, textMem, inText⟩
    · exact sepEncodable c inSep
    · exact all text textMem c inText

/-- A message is signed once its parts can be encoded. -/
theorem exists_signingMaterial_iff {nodeId op nonce : PyStr} {payload : JsonObject} {ts : Json} :
    (∃ material, signingMaterial py nodeId op payload nonce ts = some material) ↔
      payload.toJson.isFinite = true ∧ Encodable nodeId ∧ Encodable op ∧
        payload.toJson.AllStrings Encodable ∧ Encodable nonce ∧ Encodable (ts.pyStr py.unicode) := by
  simp only [signingMaterial_eq_some, exists_and_left, ← encodable_iff,
    encodable_joinWith (encodable_lit "|"), List.forall_mem_cons, List.not_mem_nil,
    false_implies, implies_true, and_true]
  have strings : Encodable (payload.toJson.dumps .canonical) ↔ payload.toJson.AllStrings Encodable :=
    ⟨Json.encodable_of_canonical, Json.encodable_canonical⟩
  rw [strings]

namespace TrustManager

/-- What a signed message is made of. -/
theorem sign_eq_ok {manager : TrustManager} {nodeId op : PyStr} {payload : JsonObject}
    {nonce : Option PyStr} {ts : Option JsonValue} {drawn : PyStr} {now : Binary64}
    {envelope : Envelope} :
    manager.sign py nodeId op payload nonce ts drawn now = .ok envelope ↔
      op ∈ allowedOps ∧ Acceptable py payload.toJson ∧
        ∃ material, signingMaterial py nodeId op payload envelope.nonce envelope.ts.val = some material ∧
          envelope = ⟨nodeId, op, payload, nonceOr drawn nonce, ts.getD (.ofFloat (.finite now)),
            (py.hmacSha256 manager.meshKey material).text⟩ := by
  unfold sign Acceptable
  split
  · next notAllowed => simp [notAllowed]
  · next allowed =>
      rw [not_not] at allowed
      split
      · next refused => simp [refused]
      · next accepted =>
          dsimp only
          simp only [allowed, accepted, true_and]
          constructor
          · intro signed
            split at signed
            · cases signed
            · next material encoded =>
                cases signed
                exact ⟨material, encoded, rfl⟩
          · rintro ⟨material, encoded, rfl⟩
            rw [encoded]

/-- What the policy accepts and UTF-8 can hold is signed. -/
theorem exists_sign {manager : TrustManager} {nodeId op : PyStr} {payload : JsonObject}
    {nonce : Option PyStr} {ts : Option JsonValue} {drawn : PyStr} {now : Binary64}
    (allowed : op ∈ allowedOps) (accepted : Acceptable py payload.toJson)
    (finite : payload.toJson.isFinite = true) (node : Encodable nodeId)
    (strings : payload.toJson.AllStrings Encodable) (isNonce : Encodable (nonceOr drawn nonce))
    (isTs : Encodable ((ts.getD (.ofFloat (.finite now))).val.pyStr py.unicode)) :
    ∃ envelope, manager.sign py nodeId op payload nonce ts drawn now = .ok envelope ∧
      envelope.nonce = nonceOr drawn nonce ∧ envelope.ts = ts.getD (.ofFloat (.finite now)) := by
  have isOp : Encodable op := by
    simp only [allowedOps, List.mem_cons, List.not_mem_nil, or_false] at allowed
    rcases allowed with rfl | rfl | rfl | rfl | rfl <;> exact encodable_lit _
  have encodes : ∃ material, signingMaterial py nodeId op payload (nonceOr drawn nonce)
      (ts.getD (.ofFloat (.finite now))).val = some material :=
    exists_signingMaterial_iff.mpr ⟨finite, node, isOp, strings, isNonce, isTs⟩
  obtain ⟨material, encoded⟩ := encodes
  refine ⟨⟨nodeId, op, payload, nonceOr drawn nonce, ts.getD (.ofFloat (.finite now)),
    (py.hmacSha256 manager.meshKey material).text⟩, ?_, rfl, rfl⟩
  exact sign_eq_ok.mpr ⟨allowed, accepted, material, encoded, rfl⟩

/-- The text of a digest can be compared. -/
theorem ascii_digest (digest : Digest) :
    digest.text.any (fun c => decide (128 ≤ c.val)) = false := by
  rw [List.any_eq_false]
  intro c member
  have bounds := digest.plain c member
  unfold IsPlain at bounds
  simp only [decide_eq_true_eq]
  omega

/-- The message of a node that is the expected one, if one is expected. -/
theorem examine_of_expected {manager : TrustManager} {nodeId : PyStr} {expected : Option PyStr}
    {now : Binary64} {message : JsonObject} (sender : message.get? (lit "node_id") = some (.str nodeId))
    (named : nodeId ≠ []) (addressed : ∀ other ∈ expected, other = nodeId) :
    manager.examine py expected now (some message) = manager.examineFields py now nodeId message := by
  have here : ¬(nodeId.isEmpty = true ∨ ∃ other ∈ expected, other ≠ [] ∧ nodeId ≠ other) := by
    rintro (empty | ⟨other, member, -, different⟩)
    · exact named (List.isEmpty_iff.mp empty)
    · exact different (addressed other member).symm
  rw [examine, sender]
  exact if_neg here

theorem nonceOr_ne_nil {drawn : PyStr} (isDrawn : drawn ≠ []) (nonce : Option PyStr) :
    nonceOr drawn nonce ≠ [] := by
  unfold nonceOr
  split
  · exact List.cons_ne_nil _ _
  · exact isDrawn

theorem examineFields_envelope {manager : TrustManager} {envelope : Envelope} {now : Binary64}
    {nodeId : PyStr} (allowed : envelope.op ∈ allowedOps) (drawn : envelope.nonce ≠ []) :
    manager.examineFields py now nodeId envelope.object =
      manager.examineSigned py now nodeId envelope.op envelope.payload envelope.nonce envelope.sig
        envelope.ts.val := by
  have known : isAllowedOp (.str envelope.op) = some true := by
    rw [isAllowedOp, List.contains_iff_mem.mpr allowed]
  have nonempty : ¬envelope.nonce.isEmpty = true := by simpa using drawn
  rw [examineFields, JsonObject.getD, JsonObject.getD, Envelope.get?_op, Envelope.getObject?_payload,
    Envelope.get?_nonce, Envelope.get?_sig, Envelope.get?_ts, Option.getD_some, Option.getD_some,
    known]
  exact if_neg nonempty

/-- The signature that is expected of a message that was signed with the same key. -/
theorem expectedSignature_eq {manager : TrustManager} {nodeId op : PyStr} {payload : JsonObject}
    {nonce : PyStr} {stamp : Json} {seconds : PyFloat} {material : ByteArray}
    (accepted : Acceptable py payload.toJson) (isTime : timestampSeconds py stamp = some seconds)
    (encoded : signingMaterial py nodeId op payload nonce stamp = some material) (now : Binary64) :
    manager.expectedSignature py now nodeId op payload nonce stamp =
      if manager.isStale now seconds = true then .error "stale timestamp"
      else .ok (seconds, (py.hmacSha256 manager.meshKey material).text) := by
  have policy : validatePayload py payload.toJson = .ok () := accepted
  rw [expectedSignature, isTime, policy, encoded]

section Signature

variable {manager : TrustManager} {now : Binary64} {nodeId op nonce sig : PyStr}
  {payload : JsonObject} {stamp : Json}

theorem examineSigned_of_error {reason : String}
    (refused : manager.expectedSignature py now nodeId op payload nonce stamp = .error reason) :
    manager.examineSigned py now nodeId op payload nonce sig stamp =
      .ok (.refused reason (some nodeId)) := by
  rw [examineSigned.eq_def, refused]

/-- The signature that is expected makes the message genuine. -/
theorem examineSigned_of_ok {ts : PyFloat} (ascii : sig.any (fun c => decide (128 ≤ c.val)) = false)
    (expects : manager.expectedSignature py now nodeId op payload nonce stamp = .ok (ts, sig)) :
    manager.examineSigned py now nodeId op payload nonce sig stamp =
      .ok (.genuine nodeId nonce ts) := by
  rw [examineSigned.eq_def, expects]
  simp only [ascii, Bool.false_eq_true, if_false, if_true]

end Signature

/-- A message signed with the same key is genuine unless it is stale. -/
theorem examine_signed {sender partner : TrustManager} (sameKey : partner.meshKey = sender.meshKey)
    {nodeId op : PyStr} {payload : JsonObject} {nonce : Option PyStr} {ts : Option JsonValue}
    {drawn : PyStr} {signedAt : Binary64} {envelope : Envelope}
    (signed : sender.sign py nodeId op payload nonce ts drawn signedAt = .ok envelope)
    (named : nodeId ≠ []) (isDrawn : drawn ≠ []) {expected : Option PyStr}
    (addressed : ∀ other ∈ expected, other = nodeId) {seconds : PyFloat}
    (isTime : timestampSeconds py envelope.ts.val = some seconds) (now : Binary64) :
    partner.examine py expected now (some envelope.object) =
      if partner.isStale now seconds = true then .ok (.refused "stale timestamp" (some nodeId))
      else .ok (.genuine nodeId envelope.nonce seconds) := by
  obtain ⟨allowed, accepted, material, encoded, isEnvelope⟩ := sign_eq_ok.mp signed
  have isSender : envelope.nodeId = nodeId := by rw [isEnvelope]
  have isOp : envelope.op = op := by rw [isEnvelope]
  have isPayload : envelope.payload = payload := by rw [isEnvelope]
  have isSig : envelope.sig = (py.hmacSha256 partner.meshKey material).text := by
    rw [isEnvelope, sameKey]
  have isNonce : envelope.nonce ≠ [] := by
    rw [isEnvelope]
    exact nonceOr_ne_nil isDrawn nonce
  have fromSender : envelope.object.get? (lit "node_id") = some (.str nodeId) := by
    rw [Envelope.get?_nodeId, isSender]
  have expects := @expectedSignature_eq py partner _ _ _ _ _ _ _ accepted isTime encoded now
  rw [examine_of_expected fromSender named addressed,
    examineFields_envelope (isOp.symm ▸ allowed) isNonce, isOp, isPayload]
  by_cases stale : partner.isStale now seconds = true
  · rw [if_pos stale] at expects ⊢
    exact examineSigned_of_error expects
  · rw [if_neg stale, ← isSig] at expects
    rw [if_neg stale]
    exact examineSigned_of_ok (isSig ▸ ascii_digest _) expects

/-- `verify` returned `True`. -/
def Accepts (result : Except Fault Verdict) : Prop := ∃ verdict, result = .ok verdict ∧ verdict.valid = true

section Answer

variable {manager : TrustManager} {expected : Option PyStr} {now : Binary64}
  {message : Option JsonObject}

theorem verify_of_error {fault : Fault}
    (raised : manager.examine py expected now message = .error fault) (later : Binary64) :
    ((verify py expected now later message).run manager).1 = .error fault := by
  rw [verify, run_bind, run_read]
  dsimp only
  rw [raised]
  rfl

theorem verify_of_refused {reason : String} {nodeId : Option PyStr}
    (refused : manager.examine py expected now message = .ok (.refused reason nodeId))
    (later : Binary64) :
    ((verify py expected now later message).run manager).1 = .ok ⟨false, reason, nodeId⟩ := by
  rw [verify, run_bind, run_read]
  dsimp only
  rw [refused]
  rfl

/-- A genuine message is accepted unless its nonce is remembered. -/
theorem verify_of_genuine {nodeId nonce : PyStr} {ts : PyFloat}
    (genuine : manager.examine py expected now message = .ok (.genuine nodeId nonce ts))
    (later : Binary64) :
    ((verify py expected now later message).run manager).1 =
      if manager.nonces.get? nonce = none then .ok ⟨true, "verified", some nodeId⟩
      else .ok ⟨false, "replayed nonce", some nodeId⟩ := by
  rw [verify, run_bind, run_read]
  dsimp only
  rw [genuine]
  dsimp only
  rw [run_bind, rememberNonce, run_bind, run_read]
  dsimp only
  cases known : manager.nonces.get? nonce with
  | some old => rfl
  | none => rfl

/-- A message is accepted once it is genuine and its nonce is new. -/
theorem accepts_verify_iff {later : Binary64} :
    Accepts ((verify py expected now later message).run manager).1 ↔
      ∃ nodeId nonce ts, manager.examine py expected now message = .ok (.genuine nodeId nonce ts) ∧
        manager.nonces.get? nonce = none := by
  cases examined : manager.examine py expected now message with
  | error fault =>
      rw [verify_of_error examined]
      constructor
      · rintro ⟨verdict, impossible, -⟩
        cases impossible
      · rintro ⟨_, _, _, impossible, -⟩
        cases impossible
  | ok outcome =>
      cases outcome with
      | refused reason nodeId =>
          rw [verify_of_refused examined]
          constructor
          · rintro ⟨verdict, same, impossible⟩
            cases same
            cases impossible
          · rintro ⟨_, _, _, impossible, -⟩
            cases impossible
      | genuine nodeId nonce ts =>
          rw [verify_of_genuine examined]
          constructor
          · rintro ⟨verdict, isVerdict, valid⟩
            split at isVerdict
            · next unseen => exact ⟨nodeId, nonce, ts, rfl, unseen⟩
            · cases isVerdict
              cases valid
          · rintro ⟨_, _, _, ⟨⟩, unseen⟩
            rw [if_pos unseen]
            exact ⟨_, rfl, rfl⟩

end Answer

end TrustManager

/-! ## On the wire -/

/-- The timestamps that `verify` can read have texts of their own only. -/
theorem encodable_of_timestampSeconds {stamp : Json} {seconds : PyFloat}
    (isTime : timestampSeconds py stamp = some seconds)
    (encodable : Encodable (stamp.pyStr py.unicode)) : stamp.AllStrings Encodable := by
  cases stamp with
  | str text => exact encodable
  | int value => trivial
  | float value => trivial
  | null | bool _ | arr _ | obj _ => cases isTime

/-- A signed message is decoded from its JSON text as it was signed. -/
theorem loads_dumps_signed {manager : TrustManager} {nodeId op : PyStr} {payload : JsonObject}
    {nonce : Option PyStr} {ts : Option JsonValue} {drawn : PyStr} {now : Binary64}
    {envelope : Envelope} (signed : manager.sign py nodeId op payload nonce ts drawn now = .ok envelope)
    {seconds : PyFloat} (isTime : timestampSeconds py envelope.ts.val = some seconds) :
    loads (envelope.object.toJson.dumps .default) = some envelope.object.toJson := by
  obtain ⟨-, -, material, encoded, isEnvelope⟩ := TrustManager.sign_eq_ok.mp signed
  obtain ⟨-, node, isOp, strings, isNonce, stamp⟩ := exists_signingMaterial_iff.mp ⟨material, encoded⟩
  have isNode : Encodable envelope.nodeId := by rw [isEnvelope]; exact node
  have isOp' : Encodable envelope.op := by rw [isEnvelope]; exact isOp
  have isPayload : envelope.payload.toJson.AllStrings Encodable := by rw [isEnvelope]; exact strings
  have isSig : Encodable envelope.sig := by
    rw [isEnvelope]
    exact encodable_of_plain (py.hmacSha256 manager.meshKey material).plain
  refine Json.loads_default envelope.object.distinct ?_
  exact ⟨encodable_lit _, isNode, encodable_lit _, isOp', encodable_lit _, isPayload,
    encodable_lit _, isNonce, encodable_lit _, encodable_of_timestampSeconds isTime stamp,
    encodable_lit _, isSig, trivial⟩

end HermesMesh.Collab
