import HermesMesh.Collab.Auth.Join
import HermesMesh.Foundation.Machine
import HermesMesh.Python.JsonWire

/-!
# Certificates and their revocation

`NodeIdentityManager` signs four fields of a certificate.  The flag `revoked` is not
among them: `revoke` sets it in the registered certificate, and `verify` reads it out
of the certificate that it is shown.  It looks the registered one up only where it is
shown nothing.  The library's keys and signatures are those of an authority, about
which nothing is assumed but that it accepts what it has signed.
-/

namespace HermesMesh.Collab

open Python Foundation

/-- Ed25519 and base64, with the key of the mesh. -/
structure CertAuthority where
  /-- `base64.urlsafe_b64decode(text)` for an ASCII text; `none` is its `binascii.Error`. -/
  decode : PyStr → Option ByteArray
  /-- `Ed25519PublicKey.from_public_bytes(raw)` raises nothing. -/
  isKey : ByteArray → Bool
  /-- `base64.urlsafe_b64encode(ca_private.sign(material))` -/
  sign : (material : PyStr) → PlainText
  /-- `ca_public.verify(signature, material)` raises nothing. -/
  verifies : (signature : ByteArray) → (material : PyStr) → Bool
  verifies_sign : ∀ material, ∃ signature,
    decode (sign material).text = some signature ∧ verifies signature material = true

/-- What `issue` finds out: a fresh key, and the two times as `_iso` writes them. -/
structure IssueMoment where
  nodeKey : PlainText
  issuedAt : PlainText
  expiresAt : PlainText

/-- The clock and the date parser of `verify`; instants are whole microseconds. -/
structure IdentityClock where
  /-- `datetime.fromisoformat(text.replace("Z", "+00:00")).astimezone(utc)` -/
  parseIso : PyStr → Parsed Int
  now : Int

/-- `cert[key]` -/
def getItem (key : PyStr) (cert : Dict PyStr Json) : Except AuthFault Json :=
  match cert.get? key with
  | some value => .ok value
  | none => .error .keyError

/-- `_parse_iso(cert["expires_at"])` -/
def expiryOf (parseIso : PyStr → Parsed Int) (cert : Dict PyStr Json) : Except AuthFault Int := do
  match ← getItem (lit "expires_at") cert with
  | .str text =>
      match parseIso text with
      | .value result => return result
      | .valueError => .error .valueError
      | .overflowError => .error .overflowError
  | _ => .error .attributeError

def IdentityClock.expiry (clock : IdentityClock) (cert : Dict PyStr Json) : Except AuthFault Int :=
  expiryOf clock.parseIso cert

/-- `_cert_material` -/
def certMaterial (cert : Dict PyStr Json) : Except AuthFault PyStr := do
  let nodeId ← getItem (lit "node_id") cert
  let publicKey ← getItem (lit "public_key") cert
  let issuedAt ← getItem (lit "issued_at") cert
  let expiresAt ← getItem (lit "expires_at") cert
  return Json.dumps .compact (.obj [(lit "node_id", nodeId), (lit "public_key", publicKey),
    (lit "issued_at", issuedAt), (lit "expires_at", expiresAt)])

namespace CertAuthority

variable (authority : CertAuthority)

/-- `base64.urlsafe_b64decode(value.encode("ascii"))`; its other errors are values errors too. -/
def decodeText : Json → Except AuthFault ByteArray
  | .str text =>
      if text.all (fun c => c.val < 128) then
        match authority.decode text with
        | some raw => .ok raw
        | none => .error .valueError
      else .error .valueError
  | _ => .error .attributeError

/-- A text that `issue` and `verify` take for a public key. -/
def ValidKey (key : PyStr) : Prop :=
  ∃ raw, authority.decodeText (.str key) = .ok raw ∧ authority.isKey raw = true

/-- The check of the public key in `issue`. -/
def checkKey : Json → Except AuthFault {key : PyStr // authority.ValidKey key}
  | .str key =>
      match decoded : authority.decodeText (.str key) with
      | .ok raw =>
          if valid : authority.isKey raw = true then .ok ⟨key, raw, decoded, valid⟩
          else .error (.identityError "invalid node public key")
      | .error _ => .error (.identityError "invalid node public key")
  | _ => .error .attributeError

end CertAuthority

/-! ## Certificates -/

/-- The contents of a certificate that `issue` has signed. -/
structure NodeCert (authority : CertAuthority) where
  nodeId : PyStr
  publicKey : PyStr
  issuedAt : PlainText
  expiresAt : PlainText
  idChars : nodeId.all isIdChar = true
  validKey : authority.ValidKey publicKey

namespace NodeCert

variable {authority : CertAuthority} (cert : NodeCert authority)

/-- The fields under the signature. -/
def signedFields : Dict PyStr Json :=
  [(lit "node_id", .str cert.nodeId), (lit "public_key", .str cert.publicKey),
    (lit "issued_at", .str cert.issuedAt.text), (lit "expires_at", .str cert.expiresAt.text)]

/-- The text under the signature. -/
def material : PyStr := Json.dumps .compact (.obj cert.signedFields)

/-- The registered certificate. -/
def fields (revoked : Bool) : Dict PyStr Json :=
  cert.signedFields ++ [(lit "revoked", .bool revoked),
    (lit "signature", .str (authority.sign cert.material).text)]

end NodeCert

theorem idChars_of_checkIssue {nodeId : PyStr} {nodes : Dict PyStr Json}
    (checked : checkIssue nodeId nodes = .ok ()) : nodeId.all isIdChar = true := by
  unfold checkIssue at checked
  split at checked
  · cases checked
  · next passes =>
      simp only [Bool.not_eq_true, Bool.or_eq_false_iff, Bool.not_eq_false'] at passes
      exact passes.2

namespace CertAuthority

variable (authority : CertAuthority)

/-- `issue`, up to the entry that it makes. -/
def issue (moment : IssueMoment) (nodeId publicKey : Json) (nodes : Dict PyStr Json) :
    Except AuthFault (NodeCert authority) :=
  match nodeId with
  | .str nodeId =>
      match checked : checkIssue nodeId nodes with
      | .error fault => .error fault
      | .ok () =>
          let publicKey := match publicKey with
            | .null => .str moment.nodeKey.text
            | given => given
          match authority.checkKey publicKey with
          | .error fault => .error fault
          | .ok key =>
              .ok ⟨nodeId, key, moment.issuedAt, moment.expiresAt, idChars_of_checkIssue checked,
                key.property⟩
  | _ => .error (.identityError "invalid node_id")

/-- The checks of `verify` that may raise; `InvalidSignature` and the errors of a key are
caught. -/
def examine (clock : IdentityClock) (cert : Dict PyStr Json) : Except AuthFault Bool := do
  let expiry ← clock.expiry cert
  if expiry ≤ clock.now then return false
  else
    let publicKey ← getItem (lit "public_key") cert
    let rawPublic ← authority.decodeText publicKey
    let signature ← getItem (lit "signature") cert
    let rawSignature ← authority.decodeText signature
    let material ← certMaterial cert
    return authority.verifies rawSignature material && authority.isKey rawPublic

/-- What `verify` makes of the certificate that it looks at. -/
def verifyCert (clock : IdentityClock) (nodeId : PyStr) (cert : Dict PyStr Json) :
    Except AuthFault Bool :=
  if !(getOr (lit "node_id") .null cert).pyEq (.str nodeId) ||
      (getOr (lit "revoked") .null cert).truthy then .ok false
  else
    match authority.examine clock cert with
    | .error .keyError | .error .typeError | .error .valueError => .ok false
    | result => result

/-- `verify` -/
def verify (clock : IdentityClock) (nodeId : PyStr) (certificate : Json) (nodes : Dict PyStr Json) :
    Except AuthFault Bool :=
  let cert := if certificate.truthy then certificate else (nodes.get? nodeId).getD .null
  if !cert.truthy then .ok false
  else do
    let cert ← asDict cert
    authority.verifyCert clock nodeId cert

end CertAuthority

/-- `revoke`: the answer and the certificates after it. -/
def revokeCert (nodeId : PyStr) (nodes : Dict PyStr Json) : Except AuthFault (Bool × Dict PyStr Json) :=
  match (nodes.get? nodeId).getD .null with
  | .obj [] => .ok (false, nodes)
  | .obj cert => .ok (true, nodes.set nodeId (.obj (Dict.set (lit "revoked") (.bool true) cert)))
  | cert => if cert.truthy then .error .typeError else .ok (false, nodes)

/-! ## Runs of `issue` and `revoke` -/

inductive IdentityCall where
  | issue (moment : IssueMoment) (nodeId publicKey : Json)
  | revoke (nodeId : PyStr)

inductive IdentityReply (authority : CertAuthority) where
  | issued (cert : NodeCert authority)
  | revoked (found : Bool)
  | raised (fault : AuthFault)

/-- The manager with the certificates it has registered. -/
def identityMachine (authority : CertAuthority) :
    Machine (Dict PyStr Json) IdentityCall (IdentityReply authority) where
  step
    | nodes, .issue moment nodeId publicKey =>
        match authority.issue moment nodeId publicKey nodes with
        | .ok cert => (.issued cert, nodes.set cert.nodeId (.obj (cert.fields false)))
        | .error fault => (.raised fault, nodes)
    | nodes, .revoke nodeId =>
        match revokeCert nodeId nodes with
        | .ok (found, after) => (.revoked found, after)
        | .error fault => (.raised fault, nodes)

/-! ## The signed text -/

theorem getOr_eq_str {key text : PyStr} {fields : Dict PyStr Json}
    (equal : (getOr key .null fields).pyEq (.str text) = true) :
    fields.get? key = some (.str text) := by
  unfold getOr at equal
  cases found : fields.get? key with
  | none =>
      rw [found] at equal
      cases equal
  | some value =>
      rw [found] at equal
      cases value with
      | str other => rw [eq_of_beq equal]
      | float value => cases value <;> cases equal
      | null | bool | int | arr | obj => cases equal

theorem getItem_eq_ok {key : PyStr} {cert : Dict PyStr Json} {value : Json} :
    getItem key cert = .ok value ↔ cert.get? key = some value := by
  unfold getItem
  cases cert.get? key <;> simp

/-- The signed fields in the order of their keys. -/
theorem sortFields_signed (nodeId publicKey issuedAt expiresAt : PyStr) :
    Json.sortFields [(lit "node_id", nodeId), (lit "public_key", publicKey),
      (lit "issued_at", issuedAt), (lit "expires_at", expiresAt)] =
      [(lit "expires_at", expiresAt), (lit "issued_at", issuedAt), (lit "node_id", nodeId),
        (lit "public_key", publicKey)] := by
  have issued : ¬lit "issued_at" ≤ lit "expires_at" := by decide
  have keyExpires : ¬lit "public_key" ≤ lit "expires_at" := by decide
  have keyIssued : ¬lit "public_key" ≤ lit "issued_at" := by decide
  have nodeExpires : ¬lit "node_id" ≤ lit "expires_at" := by decide
  have nodeIssued : ¬lit "node_id" ≤ lit "issued_at" := by decide
  have nodeKey : lit "node_id" ≤ lit "public_key" := by decide
  simp only [Json.sortFields, List.insertionSort, List.foldr, List.orderedInsert, issued, keyExpires,
    keyIssued, nodeExpires, nodeIssued, nodeKey, if_true, if_false]

theorem dumps_signed (nodeId publicKey issuedAt expiresAt : Json) :
    Json.dumps .compact (.obj [(lit "node_id", nodeId), (lit "public_key", publicKey),
      (lit "issued_at", issuedAt), (lit "expires_at", expiresAt)]) =
      lit "\x7b\"expires_at\":" ++ (Json.dumps .compact expiresAt ++
        (lit ",\"issued_at\":" ++ (Json.dumps .compact issuedAt ++
          (lit ",\"node_id\":" ++ (Json.dumps .compact nodeId ++
            (lit ",\"public_key\":" ++ (Json.dumps .compact publicKey ++ [closeBrace]))))))) := by
  simp only [Json.dumps, Json.fieldTexts, Json.orderFields]
  rw [if_pos (show JsonStyle.compact.sortKeys = true from rfl), sortFields_signed]
  simp only [List.map_cons, List.map_nil, joinWith, List.append_assoc, List.cons_append]
  rfl

theorem ascii_of_isIdChar {text : PyStr} (idChars : text.all isIdChar = true) :
    ∀ c ∈ text, c.val < 128 := by
  intro c member
  have idChar := List.all_eq_true.mp idChars c member
  simp only [isIdChar, asciiAlnum, isDigit, Bool.or_eq_true, Bool.and_eq_true, decide_eq_true_eq,
    beq_iff_eq] at idChar
  omega

theorem CertAuthority.ValidKey.ascii {authority : CertAuthority} {key : PyStr}
    (valid : authority.ValidKey key) : ∀ c ∈ key, c.val < 128 := by
  obtain ⟨raw, decoded, -⟩ := valid
  rw [decodeText] at decoded
  split at decoded
  · next ascii => exact fun c member => of_decide_eq_true (List.all_eq_true.mp ascii c member)
  · cases decoded

theorem ascii_of_plainText (text : PlainText) : ∀ c ∈ text.text, c.val < 128 := by
  intro c member
  have plain := text.plain c member
  unfold IsPlain at plain
  omega

/-- What is encoded as the text under a signature has the signed fields. -/
theorem NodeCert.material_inj {authority : CertAuthority} (cert : NodeCert authority)
    {nodeId publicKey issuedAt expiresAt : Json}
    (same : Json.dumps .compact (.obj [(lit "node_id", nodeId), (lit "public_key", publicKey),
      (lit "issued_at", issuedAt), (lit "expires_at", expiresAt)]) = cert.material) :
    nodeId = .str cert.nodeId ∧ publicKey = .str cert.publicKey ∧
      issuedAt = .str cert.issuedAt.text ∧ expiresAt = .str cert.expiresAt.text := by
  unfold NodeCert.material NodeCert.signedFields at same
  rw [dumps_signed, dumps_signed] at same
  obtain ⟨expires, same⟩ := JsonScanner.dumps_ascii_inj rfl (ascii_of_plainText cert.expiresAt)
    (List.append_cancel_left same)
  obtain ⟨issued, same⟩ := JsonScanner.dumps_ascii_inj rfl (ascii_of_plainText cert.issuedAt)
    (List.append_cancel_left same)
  obtain ⟨node, same⟩ := JsonScanner.dumps_ascii_inj rfl (ascii_of_isIdChar cert.idChars)
    (List.append_cancel_left same)
  obtain ⟨key, -⟩ := JsonScanner.dumps_ascii_inj rfl cert.validKey.ascii
    (List.append_cancel_left same)
  exact ⟨node, key, issued, expires⟩

/-! ## What `verify` accepts -/

/-- The certificate is not marked as revoked and has not expired. -/
def IsLive (clock : IdentityClock) (cert : Dict PyStr Json) : Prop :=
  (getOr (lit "revoked") .null cert).truthy = false ∧
    ∃ expiry, clock.expiry cert = .ok expiry ∧ clock.now < expiry

/-- The certificate's own signature is accepted for the text. -/
def CertAuthority.Signs (authority : CertAuthority) (cert : Dict PyStr Json) (material : PyStr) :
    Prop :=
  ∃ text raw, cert.get? (lit "signature") = some text ∧ authority.decodeText text = .ok raw ∧
    authority.verifies raw material = true

theorem certMaterial_eq_ok {cert : Dict PyStr Json} {material : PyStr} :
    certMaterial cert = .ok material ↔ ∃ nodeId publicKey issuedAt expiresAt,
      cert.get? (lit "node_id") = some nodeId ∧ cert.get? (lit "public_key") = some publicKey ∧
      cert.get? (lit "issued_at") = some issuedAt ∧ cert.get? (lit "expires_at") = some expiresAt ∧
      Json.dumps .compact (.obj [(lit "node_id", nodeId), (lit "public_key", publicKey),
        (lit "issued_at", issuedAt), (lit "expires_at", expiresAt)]) = material := by
  unfold certMaterial
  simp only [except_bind_eq_ok, getItem_eq_ok, pure, Except.pure, Except.ok.injEq]
  constructor
  · rintro ⟨nodeId, node, publicKey, key, issuedAt, issued, expiresAt, expires, same⟩
    exact ⟨nodeId, publicKey, issuedAt, expiresAt, node, key, issued, expires, same⟩
  · rintro ⟨nodeId, publicKey, issuedAt, expiresAt, node, key, issued, expires, same⟩
    exact ⟨nodeId, node, publicKey, key, issuedAt, issued, expiresAt, expires, same⟩

namespace CertAuthority

variable {authority : CertAuthority}

theorem examine_eq_true {clock : IdentityClock} {cert : Dict PyStr Json} :
    authority.examine clock cert = .ok true ↔
      (∃ expiry, clock.expiry cert = .ok expiry ∧ clock.now < expiry) ∧
      (∃ key raw, cert.get? (lit "public_key") = some key ∧ authority.decodeText key = .ok raw ∧
        authority.isKey raw = true) ∧
      ∃ material, certMaterial cert = .ok material ∧ authority.Signs cert material := by
  unfold examine
  rw [except_bind_eq_ok]
  constructor
  · rintro ⟨expiry, expires, passes⟩
    split at passes
    · cases passes
    · next unexpired =>
        simp only [except_bind_eq_ok, getItem_eq_ok, pure, Except.pure, Except.ok.injEq,
          Bool.and_eq_true] at passes
        obtain ⟨key, hasKey, raw, decoded, text, hasText, signature, decodedText, material, signed,
          verifies, valid⟩ := passes
        exact ⟨⟨expiry, expires, lt_of_not_ge unexpired⟩, ⟨key, raw, hasKey, decoded, valid⟩,
          material, signed, text, signature, hasText, decodedText, verifies⟩
  · rintro ⟨⟨expiry, expires, unexpired⟩, ⟨key, raw, hasKey, decoded, valid⟩, material, signed, text,
      signature, hasText, decodedText, verifies⟩
    refine ⟨expiry, expires, ?_⟩
    rw [if_neg (not_le.mpr unexpired)]
    simp only [except_bind_eq_ok, getItem_eq_ok, pure, Except.pure, Except.ok.injEq,
      Bool.and_eq_true]
    exact ⟨key, hasKey, raw, decoded, text, hasText, signature, decodedText, material, signed,
      verifies, valid⟩

theorem verifyCert_eq_true {clock : IdentityClock} {nodeId : PyStr} {cert : Dict PyStr Json} :
    authority.verifyCert clock nodeId cert = .ok true ↔
      cert.get? (lit "node_id") = some (.str nodeId) ∧ IsLive clock cert ∧
      (∃ key raw, cert.get? (lit "public_key") = some key ∧ authority.decodeText key = .ok raw ∧
        authority.isKey raw = true) ∧
      ∃ material, certMaterial cert = .ok material ∧ authority.Signs cert material := by
  have caught : ∀ result : Except AuthFault Bool,
      (match result with
        | .error .keyError | .error .typeError | .error .valueError => .ok false
        | result => result) = Except.ok true ↔ result = .ok true := by
    intro result
    split
    · exact ⟨nofun, nofun⟩
    · exact ⟨nofun, nofun⟩
    · exact ⟨nofun, nofun⟩
    · exact Iff.rfl
  unfold verifyCert IsLive
  by_cases refused : (!(getOr (lit "node_id") .null cert).pyEq (.str nodeId) ||
      (getOr (lit "revoked") .null cert).truthy) = true
  · rw [if_pos refused]
    refine ⟨nofun, ?_⟩
    rintro ⟨node, ⟨live, -⟩, -⟩
    have same : (getOr (lit "node_id") .null cert).pyEq (.str nodeId) = true := by
      rw [getOr, node]
      exact beq_self_eq_true nodeId
    rw [same, live] at refused
    cases refused
  · rw [if_neg refused, caught, examine_eq_true]
    simp only [Bool.or_eq_true, Bool.not_eq_true', not_or, Bool.not_eq_false,
      Bool.not_eq_true] at refused
    constructor
    · rintro ⟨unexpired, key, signed⟩
      exact ⟨getOr_eq_str refused.1, ⟨refused.2, unexpired⟩, key, signed⟩
    · rintro ⟨-, ⟨-, unexpired⟩, key, signed⟩
      exact ⟨unexpired, key, signed⟩

end CertAuthority

/-- A certificate with the signed fields of an issued one, under a signature that is
accepted for them. -/
def NodeCert.CopiedBy {authority : CertAuthority} (issued : NodeCert authority)
    (cert : Dict PyStr Json) : Prop :=
  (∀ field ∈ issued.signedFields, cert.get? field.1 = some field.2) ∧
    authority.Signs cert issued.material

/-- A signature that is accepted for a certificate was made for an issued one. -/
def Unforged {authority : CertAuthority} (issued : List (NodeCert authority))
    (cert : Dict PyStr Json) : Prop :=
  ∀ material, certMaterial cert = .ok material → authority.Signs cert material →
    ∃ original ∈ issued, original.material = material

namespace NodeCert

variable {authority : CertAuthority} {issued : NodeCert authority}

theorem CopiedBy.certMaterial {cert : Dict PyStr Json} (copied : issued.CopiedBy cert) :
    certMaterial cert = .ok issued.material := by
  have carries := copied.1
  simp only [signedFields, List.forall_mem_cons] at carries
  obtain ⟨node, key, issuedAt, expires, -⟩ := carries
  exact certMaterial_eq_ok.mpr ⟨_, _, _, _, node, key, issuedAt, expires, rfl⟩

/-- A copy is as good as its flag and its time. -/
theorem CopiedBy.verifyCert {clock : IdentityClock} {cert : Dict PyStr Json}
    (copied : issued.CopiedBy cert) :
    authority.verifyCert clock issued.nodeId cert = .ok true ↔ IsLive clock cert := by
  rw [CertAuthority.verifyCert_eq_true]
  have carries := copied.1
  simp only [signedFields, List.forall_mem_cons] at carries
  obtain ⟨raw, decoded, valid⟩ := issued.validKey
  constructor
  · rintro ⟨-, live, -⟩
    exact live
  · intro live
    exact ⟨carries.1, live, ⟨_, raw, carries.2.1, decoded, valid⟩, _, copied.certMaterial, copied.2⟩

theorem copiedBy_fields (revoked : Bool) : issued.CopiedBy (issued.fields revoked) := by
  constructor
  · simp only [signedFields, List.forall_mem_cons]
    exact ⟨rfl, rfl, rfl, rfl, List.forall_mem_nil _⟩
  · obtain ⟨raw, decoded, verifies⟩ := authority.verifies_sign issued.material
    refine ⟨_, raw, rfl, ?_, verifies⟩
    have ascii : (authority.sign issued.material).text.all (fun c => c.val < 128) = true :=
      List.all_eq_true.mpr fun c member => decide_eq_true (ascii_of_plainText _ c member)
    rw [CertAuthority.decodeText, if_pos ascii, decoded]

end NodeCert

/-- What is accepted is a copy of a certificate that was issued to the node. -/
theorem copied_of_verifyCert {authority : CertAuthority} {clock : IdentityClock} {nodeId : PyStr}
    {cert : Dict PyStr Json} {issued : List (NodeCert authority)} (unforged : Unforged issued cert)
    (accepted : authority.verifyCert clock nodeId cert = .ok true) :
    ∃ original ∈ issued, original.nodeId = nodeId ∧ original.CopiedBy cert := by
  obtain ⟨node, -, -, material, signed, signs⟩ := CertAuthority.verifyCert_eq_true.mp accepted
  obtain ⟨original, member, same⟩ := unforged material signed signs
  obtain ⟨nodeField, key, issuedAt, expiresAt, hasNode, hasKey, hasIssued, hasExpires, text⟩ :=
    certMaterial_eq_ok.mp signed
  obtain ⟨rfl, rfl, rfl, rfl⟩ := original.material_inj (text.trans same.symm)
  rw [hasNode, Option.some.injEq, Json.str.injEq] at node
  refine ⟨original, member, node, ?_, same ▸ signs⟩
  simp only [NodeCert.signedFields, List.forall_mem_cons]
  exact ⟨hasNode, hasKey, hasIssued, hasExpires, List.forall_mem_nil _⟩

/-! ## Equal certificates -/

/-- An equal object has each field of the other, with an equal value. -/
theorem get?_of_pyEq {left right : Dict PyStr Json} (equal : (Json.obj left).pyEq (.obj right) = true)
    {key : PyStr} {value : Json} (member : (key, value) ∈ left) :
    ∃ other, right.get? key = some other ∧ value.pyEq other = true := by
  rw [Json.pyEq, Bool.and_eq_true] at equal
  replace equal := equal.2
  induction left with
  | nil => cases member
  | cons field rest ih =>
      obtain ⟨name, first⟩ := field
      rw [Json.pyEqFields, Bool.and_eq_true] at equal
      rcases List.mem_cons.mp member with here | later
      · cases here
        cases found : right.get? key with
        | none =>
            rw [found] at equal
            cases equal.1
        | some other =>
            rw [found] at equal
            exact ⟨other, rfl, equal.1⟩
      · exact ih later equal.2

theorem eq_of_pyEq_str {text : PyStr} {value : Json} (equal : (Json.str text).pyEq value = true) :
    value = .str text := by
  cases value with
  | str other => rw [eq_of_beq equal]
  | null | bool | int | float | arr | obj => cases equal

/-- What equals `True` is true. -/
theorem truthy_of_pyEq_true {value : Json} (equal : (Json.bool true).pyEq value = true) :
    value.truthy = true := by
  have one : (minScale : Int) ≠ 0 := by
    unfold minScale
    positivity
  cases value with
  | bool flag =>
      cases flag with
      | true => rfl
      | false =>
          have same : ((minScale : Int) == 0) = true := equal
          exact absurd (eq_of_beq same) one
  | int number =>
      have same : ((minScale : Int) == number * minScale) = true := equal
      have scaled := eq_of_beq same
      have nonzero : number ≠ 0 := by
        rintro rfl
        exact one (by rw [scaled, Int.zero_mul])
      exact bne_iff_ne.mpr nonzero
  | float number =>
      cases number with
      | finite x =>
          have same : ((minScale : Int) ==
              (if x.neg then -1 else 1) * (x.mant * 2 ^ x.exp : Nat)) = true := equal
          have scaled := eq_of_beq same
          have nonzero : x.mant ≠ 0 := by
            intro zero
            rw [zero, Nat.zero_mul, Nat.cast_zero, Int.mul_zero] at scaled
            exact one scaled
          exact bne_iff_ne.mpr nonzero
      | inf neg => rfl
      | nan => rfl
  | null | str | arr | obj => cases equal

/-- What equals a live certificate's presentation is live itself. -/
theorem NodeCert.isLive_of_pyEq {authority : CertAuthority} {issued : NodeCert authority}
    {revoked : Bool} {clock : IdentityClock} {cert : Dict PyStr Json}
    (equal : (Json.obj (issued.fields revoked)).pyEq (.obj cert) = true) (live : IsLive clock cert) :
    IsLive clock (issued.fields revoked) := by
  obtain ⟨unmarked, expiry, expires, later⟩ := live
  constructor
  · have member : (lit "revoked", Json.bool revoked) ∈ issued.fields revoked := by
      simp [NodeCert.fields]
    obtain ⟨flag, hasFlag, same⟩ := get?_of_pyEq equal member
    rw [getOr, hasFlag, Option.getD_some] at unmarked
    cases revoked with
    | false => rfl
    | true =>
        rw [truthy_of_pyEq_true same] at unmarked
        cases unmarked
  · have member : (lit "expires_at", Json.str issued.expiresAt.text) ∈ issued.fields revoked := by
      simp [NodeCert.fields, NodeCert.signedFields]
    obtain ⟨time, hasTime, same⟩ := get?_of_pyEq equal member
    rw [eq_of_pyEq_str same] at hasTime
    refine ⟨expiry, ?_, later⟩
    rw [IdentityClock.expiry, expiryOf, getItem, hasTime] at expires
    exact expires

/-! ## The certificate of an enrollment -/

theorem CertAuthority.checkKey_val {authority : CertAuthority} {key : PyStr}
    {valid : {key : PyStr // authority.ValidKey key}}
    (checked : authority.checkKey (.str key) = .ok valid) : valid.val = key := by
  rw [checkKey] at checked
  split at checked
  · split at checked
    · cases checked
      rfl
    · cases checked
  · cases checked

/-- The certificate that `join` has issued is an issued one, when it is signed by the same
authority. -/
theorem certificate_eq_fields {authority : CertAuthority} {moment : JoinMoment} {nodeId : PyStr}
    {nodes : Dict PyStr Json} {cert : NodeCert authority}
    (issued : authority.issue ⟨moment.publicKey, moment.issuedAt, moment.expiresAt⟩ (.str nodeId)
      .null nodes = .ok cert)
    (signed : moment.signature = authority.sign cert.material) :
    moment.certificate nodeId = cert.fields false := by
  simp only [CertAuthority.issue] at issued
  split at issued
  · cases issued
  · split at issued
    · cases issued
    · next key checked =>
        have same := CertAuthority.checkKey_val checked
        cases issued
        simp only [JoinMoment.certificate, signed, ← same]
        rfl

/-! ## Runs -/

section Runs

variable {authority : CertAuthority}

/-- The certificates that a run has issued. -/
def issuedCerts (past : List (Event (Dict PyStr Json) IdentityCall (IdentityReply authority))) :
    List (NodeCert authority) :=
  past.filterMap fun event =>
    match event.output with
    | .issued cert => some cert
    | .revoked _ | .raised _ => none

/-- Each registered certificate was issued to its node. -/
def AllIssued (issued : List (NodeCert authority)) (nodes : Dict PyStr Json) : Prop :=
  ∀ nodeId entry, nodes.get? nodeId = some entry →
    ∃ cert ∈ issued, cert.nodeId = nodeId ∧ ∃ revoked, entry = .obj (cert.fields revoked)

theorem AllIssued.mono {issued more : List (NodeCert authority)} {nodes : Dict PyStr Json}
    (registered : AllIssued issued nodes) (within : issued ⊆ more) : AllIssued more nodes := by
  intro nodeId entry found
  obtain ⟨cert, member, rest⟩ := registered nodeId entry found
  exact ⟨cert, within member, rest⟩

theorem AllIssued.set {issued : List (NodeCert authority)} {nodes : Dict PyStr Json}
    (registered : AllIssued issued nodes) {cert : NodeCert authority} (member : cert ∈ issued)
    (revoked : Bool) : AllIssued issued (nodes.set cert.nodeId (.obj (cert.fields revoked))) := by
  intro nodeId entry found
  rw [Dict.get?_set] at found
  split at found
  · next same =>
      cases found
      exact ⟨cert, member, same.symm, revoked, rfl⟩
  · exact registered nodeId entry found

/-- `revoke` marks the certificate that is registered. -/
theorem AllIssued.revoke {issued : List (NodeCert authority)} {nodes after : Dict PyStr Json}
    (registered : AllIssued issued nodes) {nodeId : PyStr} {found : Bool}
    (revoked : revokeCert nodeId nodes = .ok (found, after)) : AllIssued issued after := by
  cases entry : nodes.get? nodeId with
  | none =>
      rw [revokeCert, entry] at revoked
      cases revoked
      exact registered
  | some value =>
      obtain ⟨cert, member, rfl, flag, rfl⟩ := registered nodeId value entry
      have marked : revokeCert cert.nodeId nodes =
          .ok (true, nodes.set cert.nodeId (.obj (cert.fields true))) := by
        rw [revokeCert, entry]
        rfl
      rw [marked] at revoked
      cases revoked
      exact registered.set member true

theorem AllIssued.step {past : List (Event (Dict PyStr Json) IdentityCall (IdentityReply authority))}
    {nodes : Dict PyStr Json} (registered : AllIssued (issuedCerts past) nodes)
    (call : IdentityCall) :
    AllIssued (issuedCerts (past ++ [⟨nodes, call, ((identityMachine authority).step nodes call).1,
      ((identityMachine authority).step nodes call).2⟩]))
      ((identityMachine authority).step nodes call).2 := by
  rw [issuedCerts, Machine.filterMap_concat]
  cases call with
  | issue moment nodeId publicKey =>
      simp only [identityMachine]
      cases authority.issue moment nodeId publicKey nodes with
      | error fault => exact registered.mono (List.subset_append_left _ _)
      | ok cert =>
          apply (registered.mono (List.subset_append_left _ _)).set
          exact List.mem_append_right _ List.mem_cons_self
  | revoke nodeId =>
      simp only [identityMachine]
      cases revoked : revokeCert nodeId nodes with
      | error fault => exact registered.mono (List.subset_append_left _ _)
      | ok reply =>
          exact (registered.revoke revoked).mono (List.subset_append_left _ _)

/-- The certificates issued by some calls of a new manager. -/
def issuedBy (authority : CertAuthority) (calls : List IdentityCall) : List (NodeCert authority) :=
  issuedCerts ((identityMachine authority).trace [] calls)

/-- The certificates registered after them. -/
def registeredBy (authority : CertAuthority) (calls : List IdentityCall) : Dict PyStr Json :=
  (identityMachine authority).run [] calls

theorem allIssued_run (calls : List IdentityCall) :
    AllIssued (issuedBy authority calls) (registeredBy authority calls) := by
  have start : AllIssued (@issuedCerts authority []) [] := nofun
  have anyCalls : (identityMachine authority).Allowed (fun _ _ => True) [] calls :=
    (identityMachine authority).allowed_of_forall (fun _ _ _ => trivial) _
  have run := Machine.history_invariant (fun _ _ => True)
    (fun past nodes => AllIssued (issuedCerts past) nodes)
    (fun past nodes call registered _ => registered.step call) start anyCalls
  rwa [List.nil_append] at run

/-- The certificate is the one that is registered for the node, and live. -/
def IsRegistered (clock : IdentityClock) (nodes : Dict PyStr Json) (nodeId : PyStr)
    (cert : Dict PyStr Json) : Prop :=
  ∃ registered, nodes.get? nodeId = some (.obj registered) ∧
    (Json.obj registered).pyEq (.obj cert) = true ∧ IsLive clock registered

/-- What may be presented without harm: no empty object while a live certificate is
registered, and no unmarked and unexpired copy of a certificate that is not, field by
field, the registered one. -/
structure Presentable (clock : IdentityClock) (issued : List (NodeCert authority))
    (nodes : Dict PyStr Json) (nodeId : PyStr) (cert : Dict PyStr Json) : Prop where
  empty : cert = [] → ∀ registered, nodes.get? nodeId = some (.obj registered) →
    ¬IsLive clock registered
  copy : ∀ original ∈ issued, original.nodeId = nodeId → original.CopiedBy cert → IsLive clock cert →
    ∃ registered, nodes.get? nodeId = some (.obj registered) ∧
      (Json.obj registered).pyEq (.obj cert) = true

/-- Shown nothing, `verify` answers for the registered certificate. -/
theorem verify_empty {issued : List (NodeCert authority)} {nodes : Dict PyStr Json}
    (allIssued : AllIssued issued nodes) {certificate : Json} (nothing : certificate.truthy = false)
    (clock : IdentityClock) (nodeId : PyStr) :
    authority.verify clock nodeId certificate nodes = .ok true ↔
      ∃ registered, nodes.get? nodeId = some (.obj registered) ∧ IsLive clock registered := by
  unfold CertAuthority.verify
  simp only [nothing, Bool.false_eq_true, if_false]
  cases found : nodes.get? nodeId with
  | none =>
      constructor
      · intro accepted
        cases accepted
      · rintro ⟨registered, same, -⟩
        cases same
  | some entry =>
      obtain ⟨cert, -, rfl, revoked, rfl⟩ := allIssued nodeId entry found
      have copied : cert.CopiedBy (cert.fields revoked) := NodeCert.copiedBy_fields revoked
      have accepts : authority.verifyCert clock cert.nodeId (cert.fields revoked) = .ok true ↔
          IsLive clock (cert.fields revoked) := copied.verifyCert
      constructor
      · intro accepted
        exact ⟨_, rfl, accepts.mp accepted⟩
      · rintro ⟨registered, same, live⟩
        cases same
        exact accepts.mpr live

/-- Shown a certificate, it answers for that one. -/
theorem verify_shown {clock : IdentityClock} {nodeId : PyStr} {cert nodes : Dict PyStr Json}
    (shown : cert ≠ []) :
    authority.verify clock nodeId (.obj cert) nodes = authority.verifyCert clock nodeId cert := by
  cases cert with
  | nil => exact absurd rfl shown
  | cons field rest => rfl

/-- `verify` accepts only the registered certificate exactly of what may be presented. -/
theorem verify_iff_presentable {issued : List (NodeCert authority)} {nodes : Dict PyStr Json}
    (allIssued : AllIssued issued nodes) {cert : Dict PyStr Json} (unforged : Unforged issued cert)
    (clock : IdentityClock) (nodeId : PyStr) :
    (authority.verify clock nodeId (.obj cert) nodes = .ok true →
        IsRegistered clock nodes nodeId cert) ↔
      Presentable clock issued nodes nodeId cert := by
  constructor
  · intro safe
    constructor
    · rintro rfl registered found live
      obtain ⟨other, same, equal, -⟩ :=
        safe ((verify_empty allIssued rfl clock nodeId).mpr ⟨registered, found, live⟩)
      obtain ⟨issuedCert, -, -, revoked, shape⟩ := allIssued nodeId _ same
      cases shape
      cases equal
    · rintro original - rfl copied live
      have shown : cert ≠ [] := by
        rintro rfl
        exact absurd (copied.1 _ List.mem_cons_self) nofun
      have accepted : authority.verify clock original.nodeId (.obj cert) nodes = .ok true := by
        rw [verify_shown shown]
        exact copied.verifyCert.mpr live
      obtain ⟨registered, found, equal, -⟩ := safe accepted
      exact ⟨registered, found, equal⟩
  · intro presentable accepted
    by_cases shown : cert = []
    · subst shown
      obtain ⟨registered, found, live⟩ := (verify_empty allIssued rfl clock nodeId).mp accepted
      exact absurd live (presentable.empty rfl registered found)
    · rw [verify_shown shown] at accepted
      have live := (CertAuthority.verifyCert_eq_true.mp accepted).2.1
      obtain ⟨original, member, same, copied⟩ := copied_of_verifyCert unforged accepted
      obtain ⟨registered, found, equal⟩ := presentable.copy original member same copied live
      obtain ⟨issuedCert, -, -, revoked, shape⟩ := allIssued nodeId _ found
      cases shape
      exact ⟨_, found, equal, NodeCert.isLive_of_pyEq equal live⟩

end Runs

/-! ## A revoked certificate that verifies -/

/-- The hexadecimal text of a text's bytes. -/
def sealText (material : PyStr) : PlainText :=
  ⟨Digest.hexText ((encodeUtf8 material).elim [] (·.data.toList)), Digest.isPlain_hexText _⟩

/-- An authority whose keys and signatures are texts, and whose signature is the sealed
text itself. -/
def sealing : CertAuthority where
  decode := encodeUtf8
  isKey raw := raw.size = 32
  sign := sealText
  verifies signature material := decide (encodeUtf8 (sealText material).text = some signature)
  verifies_sign material := by
    obtain ⟨raw, encoded⟩ := encodable_iff.mp (encodable_of_plain (sealText material).plain)
    exact ⟨raw, encoded, decide_eq_true encoded⟩

/-- The certificate of the node `n-1`. -/
def firstCert : NodeCert sealing where
  nodeId := lit "n-1"
  publicKey := lit "qL0-_eXkqL0-_eXkqL0-_eXkqL0-_eXk"
  issuedAt := ⟨lit "2026-01-01T00:00:00+00:00", isPlain_lit _ (by decide)⟩
  expiresAt := ⟨lit "2026-01-02T00:00:00+00:00", isPlain_lit _ (by decide)⟩
  idChars := by decide
  validKey := ⟨_, rfl, by decide +kernel⟩

/-- It is issued, and then revoked. -/
def revocation : List IdentityCall :=
  [.issue ⟨⟨firstCert.publicKey, isPlain_lit _ (by decide)⟩, firstCert.issuedAt, firstCert.expiresAt⟩
    (.str (lit "n-1")) .null, .revoke (lit "n-1")]

/-- An hour before it expires. -/
def beforeExpiry : IdentityClock where
  parseIso text := if text = firstCert.expiresAt.text then .value 3600000000 else .valueError
  now := 0

theorem runs_revocation : issuedBy sealing revocation = [firstCert] ∧
    registeredBy sealing revocation = [(lit "n-1", .obj (firstCert.fields true))] :=
  ⟨rfl, rfl⟩

theorem unforged_firstCert : Unforged [firstCert] (firstCert.fields false) := by
  intro material signed _
  have copied : firstCert.CopiedBy (firstCert.fields false) := NodeCert.copiedBy_fields false
  rw [copied.certMaterial, Except.ok.injEq] at signed
  exact ⟨firstCert, List.mem_cons_self, signed⟩

theorem accepts_firstCert : sealing.verify beforeExpiry (lit "n-1") (.obj (firstCert.fields false))
    (registeredBy sealing revocation) = .ok true := by
  have copied : firstCert.CopiedBy (firstCert.fields false) := NodeCert.copiedBy_fields false
  have live : IsLive beforeExpiry (firstCert.fields false) := ⟨rfl, 3600000000, rfl, by decide⟩
  have accepted : sealing.verifyCert beforeExpiry (lit "n-1") (firstCert.fields false) = .ok true :=
    copied.verifyCert.mpr live
  have shown : firstCert.fields false ≠ [] := List.cons_ne_nil _ _
  rw [verify_shown shown, accepted]

theorem not_isRegistered_firstCert : ¬IsRegistered beforeExpiry (registeredBy sealing revocation)
    (lit "n-1") (firstCert.fields false) := by
  rw [runs_revocation.2]
  rintro ⟨registered, found, -, live, -⟩
  have same : firstCert.fields true = registered := Json.obj.inj (Option.some.inj found)
  have marked : (getOr (lit "revoked") .null (firstCert.fields true)).truthy = true := rfl
  rw [← same, marked] at live
  cases live

/-- After every run of `issue` and `revoke`, whatever may be presented verifies only as the
certificate that is registered and live; whatever else is presented verifies. -/
theorem verify_only_registered_iff (authority : CertAuthority) (calls : List IdentityCall)
    (clock : IdentityClock) (nodeId : PyStr) {cert : Dict PyStr Json}
    (unforged : Unforged (issuedBy authority calls) cert) :
    (authority.verify clock nodeId (.obj cert) (registeredBy authority calls) = .ok true →
        IsRegistered clock (registeredBy authority calls) nodeId cert) ↔
      Presentable clock (issuedBy authority calls) (registeredBy authority calls) nodeId cert :=
  verify_iff_presentable (allIssued_run calls) unforged clock nodeId

theorem not_presentable_firstCert : ¬Presentable beforeExpiry (issuedBy sealing revocation)
    (registeredBy sealing revocation) (lit "n-1") (firstCert.fields false) := by
  intro presentable
  have unforged : Unforged (issuedBy sealing revocation) (firstCert.fields false) := by
    rw [runs_revocation.1]
    exact unforged_firstCert
  have only := verify_only_registered_iff sealing revocation beforeExpiry (lit "n-1") unforged
  exact not_isRegistered_firstCert (only.mpr presentable accepts_firstCert)

/-- The copy that its node holds of a revoked certificate verifies. -/
theorem revoked_copy_verifies :
    Unforged (issuedBy sealing revocation) (firstCert.fields false) ∧
      sealing.verify beforeExpiry (lit "n-1") (.obj (firstCert.fields false))
        (registeredBy sealing revocation) = .ok true ∧
      ¬IsRegistered beforeExpiry (registeredBy sealing revocation) (lit "n-1")
        (firstCert.fields false) := by
  refine ⟨?_, accepts_firstCert, not_isRegistered_firstCert⟩
  rw [runs_revocation.1]
  exact unforged_firstCert

end HermesMesh.Collab
