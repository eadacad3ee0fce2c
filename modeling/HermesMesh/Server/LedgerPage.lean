import HermesMesh.Collab.Vault.Journal
import HermesMesh.Server.CollabStatus
import HermesMesh.Server.Signed

/-!
# A page of the ledger

A node signs the limit that it asks for.  The handler brings the limit into its range before
it rebuilds the payload that it verifies, so that the signature of another limit is refused
rather than its page cut.
-/

namespace HermesMesh.Server

open Python Foundation Foundation.Action Collab MonitorServer

/-- `int(text)`, which reads what `str` writes of a number that is not too long. -/
structure IntReader where
  /-- `none` is a `ValueError`. -/
  read : PyStr → Option Int
  reads : ∀ value : Int, (natDigits value.natAbs).length ≤ 4300 →
    read (NumberLit.ofInt value).render = some value

/-- A request for a page, as the checks before the handler's own work leave it. -/
structure LedgerRequest where
  node : Option Peer
  retryAfter : Option Int
  limit : Option PyStr
  nonce : Option PyStr
  ts : Option PyStr
  sig : Option PyStr

/-- The limit of a query, brought into its range. -/
def queryLimit (reader : IntReader) (limit : Option PyStr) : Int :=
  clampLimit ((reader.read (limit.getD (lit "100"))).getD 100)

/-- `{"action": "ledger_read", "limit": limit}` -/
def ledgerRead (limit : Int) : JsonObject :=
  (JsonObject.empty.setText (lit "action") (lit "ledger_read")).setValue (lit "limit")
    ⟨.int limit, trivial⟩

/-- The message that the handler rebuilds from a query. -/
def ledgerMessage (node : Peer) (limit : Int) (nonce ts sig : PyStr) : Envelope :=
  ⟨node.id, lit "broadcast", ledgerRead limit, nonce, .ofText ts, sig⟩

/-- The end of the handler: the page and the state. -/
def ledgerPage (py : Platform) (authority : CertAuthority) (view : MeshView) (limit : Int) :
    Handler Reply := do
  let server ← .read
  let rows ← .ofOption .valueError (readLedger limit server.vault.ledger)
  let status ← collabStatus py authority view
  return ⟨200, [(lit "ledger", .arr (rows.map Json.obj)), (lit "state", status)]⟩

/-- `api_collab_ledger` once the query is complete. -/
def verifiedPage (py : Platform) (authority : CertAuthority) (view : MeshView)
    (moment : RequestMoment) (node : Peer) (limit : Int) (nonce ts sig : PyStr) : Handler Reply := do
  let verdict ← onTrust (TrustManager.verify py (some node.id) moment.verifyNow moment.verifyLater
    (some (ledgerMessage node limit nonce ts sig).object))
  if verdict.valid then ledgerPage py authority view limit
  else
    recordActivity moment "tamper"
      [(lit "node_id", .str node.id), (lit "op", .str (lit "ledger_read")), (lit "status", .int 403),
        (lit "reason", .str (lit verdict.reason))]
    return rejectedReply 403 verdict.reason

/-- A parameter that is there and not empty. -/
def given? : Option PyStr → Option PyStr
  | some (c :: rest) => some (c :: rest)
  | _ => none

/-- `api_collab_ledger` -/
def apiCollabLedger (py : Platform) (authority : CertAuthority) (view : MeshView) (reader : IntReader)
    (moment : RequestMoment) (request : LedgerRequest) : Handler Reply :=
  match request.node, request.retryAfter with
  | none, _ => return forbidden
  | some node, some retryAfter => limitedReply moment "ledger" node.id retryAfter
  | some node, none =>
      match given? request.nonce, given? request.ts, given? request.sig with
      | some nonce, some ts, some sig =>
          verifiedPage py authority view moment node (queryLimit reader request.limit) nonce ts sig
      | _, _, _ => return errorReply 403 "signed request required"

/-! ## What a client sends -/

/-- The client's signature of the limit that it asks for. -/
def SignsLimit (py : Platform) (key : ByteArray) (node : Peer) (limit : Int) (nonce ts sig : PyStr) :
    Prop :=
  ∃ material, signingMaterial py node.id (lit "broadcast") (ledgerRead limit) nonce (.str ts) =
    some material ∧ (py.hmacSha256 key material).text = sig

/-- The text is a time that is near the clock. -/
def CurrentText (py : Platform) (trust : TrustManager) (now : Binary64) (ts : PyStr) : Prop :=
  ts ≠ [] ∧ ∃ seconds, timestampOfText py ts = some seconds ∧ trust.isStale now seconds = false

/-- The query with the limit as it was signed. -/
def pageRequest (node : Peer) (limit : Int) (nonce ts sig : PyStr) : LedgerRequest :=
  ⟨some node, none, some (NumberLit.ofInt limit).render, some nonce, some ts, some sig⟩

/-- The reply carries the last entries, as many as the limit brought into its range. -/
def ReceivesPage (entries : List LedgerEntry) (limit : Int) (result : Except Fault Reply) : Prop :=
  ∃ reply, result = .ok reply ∧ reply.status = 200 ∧
    reply.body.get? (lit "ledger") =
      some (.arr ((lastN (min (max limit 1) 500).toNat entries).map fun entry => .obj entry.row))

variable {py : Platform} {authority : CertAuthority} {issued : List (NodeCert authority)}
  {view : MeshView} {reader : IntReader} {server : MonitorServer} {entries : List LedgerEntry}

/-! ## The payload -/

theorem toJson_ledgerRead (limit : Int) :
    (ledgerRead limit).toJson =
      .obj [(lit "action", .str (lit "ledger_read")), (lit "limit", .int limit)] := rfl

theorem isSensitiveKey_plain {key : PyStr} (plain : ∀ c ∈ key, IsPlain c) :
    isSensitiveKey py key = isSensitiveKey .plain key := by
  have ascii : ∀ c ∈ key, c.val < 128 := fun c member => lt_trans (plain c member).2 (by norm_num)
  have lower : py.unicode.lower key = Platform.plain.unicode.lower key :=
    (py.unicode.lower_ascii key ascii).trans (Platform.plain.unicode.lower_ascii key ascii).symm
  rw [isSensitiveKey, isSensitiveKey, keyText, keyText, lower]

theorem acceptable_ledgerRead (limit : Int) : Acceptable py (ledgerRead limit).toJson := by
  rw [toJson_ledgerRead, acceptable_obj]
  simp only [List.forall_mem_cons, List.not_mem_nil, false_implies, implies_true, and_true]
  refine ⟨⟨?_, acceptable_str.mpr (acceptableText_iff.mpr (by decide))⟩, ?_, rfl⟩
  · rw [isSensitiveKey_plain (isPlain_lit _ (by decide))]
    decide
  · rw [isSensitiveKey_plain (isPlain_lit _ (by decide))]
    decide

/-- The limit is part of what is signed. -/
theorem limit_of_material {nodeId nonce : PyStr} {ts : Json} {left right : Int} {material : ByteArray}
    (leftSigned : signingMaterial py nodeId (lit "broadcast") (ledgerRead left) nonce ts = some material)
    (rightSigned : signingMaterial py nodeId (lit "broadcast") (ledgerRead right) nonce ts =
      some material) : left = right := by
  have texts := encodeUtf8_injective (signingMaterial_eq_some.mp leftSigned).2
    (signingMaterial_eq_some.mp rightSigned).2
  simp only [joinWith, List.append_assoc, List.append_cancel_left_eq] at texts
  have payloads : (ledgerRead left).toJson.dumps .canonical =
      (ledgerRead right).toJson.dumps .canonical := List.append_cancel_right texts
  have values := Json.ordered_eq_of_dumps_eq (ledgerRead left).distinct (ledgerRead right).distinct
    payloads
  have fields := Json.obj.inj values
  have found : ∀ limit : Int, Dict.get? (lit "limit") (Json.orderFields .canonical
      (Json.orderedFields .canonical (ledgerRead limit).fields)) = some (.int limit) := by
    intro limit
    rw [Json.get?_orderedFields .canonical (ledgerRead limit).distinct.1]
    rfl
  have same := found left
  rw [fields, found right] at same
  cases same
  rfl

/-- A limit can be signed where another one can. -/
theorem exists_material {nodeId nonce : PyStr} {ts : Json} {left : Int} {material : ByteArray}
    (signed : signingMaterial py nodeId (lit "broadcast") (ledgerRead left) nonce ts = some material)
    (right : Int) : ∃ other, signingMaterial py nodeId (lit "broadcast") (ledgerRead right) nonce ts =
      some other := by
  obtain ⟨-, node, isOp, -, isNonce, isTs⟩ := exists_signingMaterial_iff.mp ⟨material, signed⟩
  refine exists_signingMaterial_iff.mpr ⟨rfl, node, isOp, ?_, isNonce, isTs⟩
  exact ⟨encodable_lit _, encodable_lit _, encodable_lit _, trivial, trivial⟩

/-! ## The limit -/

theorem clampLimit_eq (limit : Int) : clampLimit limit = min (max limit 1) 500 := by
  unfold clampLimit
  omega

theorem clampLimit_idem (limit : Int) : clampLimit (clampLimit limit) = clampLimit limit := by
  unfold clampLimit
  omega

theorem queryLimit_render {limit : Int} (small : 1 ≤ limit ∧ limit ≤ 500) :
    queryLimit reader (some (NumberLit.ofInt limit).render) = limit := by
  have digits : (natDigits limit.natAbs).length ≤ 4300 := by
    have short : (Nat.toDigits 10 limit.natAbs).length ≤ 3 :=
      Nat.toDigits_length 10 limit.natAbs 3 (by decide) (by omega)
    rw [natDigits, List.length_map]
    omega
  rw [queryLimit, Option.getD_some, reader.reads limit digits, Option.getD_some, clampLimit]
  omega

/-- The limit of a query is in its range, whatever the query says. -/
theorem queryLimit_mem (limit : Option PyStr) :
    1 ≤ queryLimit reader limit ∧ queryLimit reader limit ≤ 500 := by
  unfold queryLimit clampLimit
  omega

/-! ## The message -/

/-- A message that passes the checks is compared. -/
theorem checked_ledgerMessage {trust : TrustManager} {node : Peer} {limit : Int} {now : Binary64}
    {nonce ts sig : PyStr} {seconds : PyFloat} {material : ByteArray} (nonempty : nonce ≠ [])
    (isTime : timestampOfText py ts = some seconds) (near : trust.isStale now seconds = false)
    (signed : signingMaterial py node.id (lit "broadcast") (ledgerRead limit) nonce (.str ts) =
      some material) :
    TrustManager.Checked py trust (some node.id) now (ledgerMessage node limit nonce ts sig).object
      node.id (lit "broadcast") (ledgerRead limit) nonce sig seconds material := by
  have stamp : (ledgerMessage node limit nonce ts sig).object.getD (lit "ts") .null = .str ts := by
    rw [JsonObject.getD, Envelope.get?_ts]
    rfl
  constructor
  · exact ⟨Envelope.get?_nodeId _, node.named, fun other same => .inr (Option.some.inj same)⟩
  · exact Envelope.get?_op _
  · decide
  · exact Envelope.getObject?_payload _
  · exact Envelope.get?_nonce _
  · exact nonempty
  · exact Envelope.get?_sig _
  · rw [stamp]
    exact isTime
  · exact near
  · exact acceptable_ledgerRead limit
  · rw [stamp]
    exact signed

theorem given?_of_nonempty {text : PyStr} (nonempty : text ≠ []) : given? (some text) = some text := by
  cases text with
  | nil => exact absurd rfl nonempty
  | cons c rest => rfl

/-- A query that is complete is verified with the limit that the handler reads. -/
theorem apiCollabLedger_of_given {moment : RequestMoment} {node : Peer} {limit : Int}
    {nonce ts sig : PyStr} (someNonce : nonce ≠ []) (someTs : ts ≠ []) (someSig : sig ≠ []) :
    apiCollabLedger py authority view reader moment (pageRequest node limit nonce ts sig) =
      verifiedPage py authority view moment node
        (queryLimit reader (some (NumberLit.ofInt limit).render)) nonce ts sig := by
  simp only [apiCollabLedger, pageRequest, given?_of_nonempty someNonce, given?_of_nonempty someTs,
    given?_of_nonempty someSig]

theorem lastN_map {α β : Type} (count : Nat) (f : α → β) (values : List α) :
    lastN count (values.map f) = (lastN count values).map f := by
  rw [lastN, lastN, List.length_map, List.map_drop]

/-- A message that is accepted gets its page. -/
theorem receivesPage_of_accepted {moment : RequestMoment} {node : Peer} {limit : Int}
    {nonce ts sig : PyStr} (holds : HoldsEntries entries server.vault)
    (legible : view.Legible issued)
    (accepted : TrustManager.Accepts ((TrustManager.verify py (some node.id) moment.verifyNow
      moment.verifyLater (some (ledgerMessage node limit nonce ts sig).object)).run server.trust).1) :
    ReceivesPage entries limit
      ((verifiedPage py authority view moment node limit nonce ts sig).run server).1 := by
  obtain ⟨verdict, isVerdict, valid⟩ := accepted
  rcases verified : (TrustManager.verify py (some node.id) moment.verifyNow moment.verifyLater
    (some (ledgerMessage node limit nonce ts sig).object)).run server.trust with ⟨result, trust⟩
  rw [verified] at isVerdict
  cases isVerdict
  have verifies : (onTrust (TrustManager.verify py (some node.id) moment.verifyNow moment.verifyLater
      (some (ledgerMessage node limit nonce ts sig).object))).run server =
        (.ok verdict, { server with trust := trust }) := by
    rw [onTrust, run_zoom, verified]
  have rows := readLedger_of_holds holds limit
  obtain ⟨status, answers⟩ := @returns_collabStatus py authority issued view
    { server with trust := trust } entries holds legible
  rw [verifiedPage, run_bind_ok verifies, if_pos valid, ledgerPage, run_bind_ok (run_read _)]
  dsimp only
  rw [rows, run_bind_ok (run_ofOption_some _ _ _), run_bind_ok (Prod.ext answers rfl)]
  refine ⟨_, rfl, rfl, ?_⟩
  rw [← clampLimit_eq, lastN_map, List.map_map]
  rfl

/-- A message with another signature is refused. -/
theorem not_receivesPage_of_refused {moment : RequestMoment} {node : Peer} {limit served : Int}
    {nonce ts sig : PyStr} {reason : String} {sender : Option PyStr}
    (refused : server.trust.examine py (some node.id) moment.verifyNow
      (some (ledgerMessage node served nonce ts sig).object) = .ok (.refused reason sender)) :
    ¬ReceivesPage entries limit
      ((verifiedPage py authority view moment node served nonce ts sig).run server).1 := by
  have answered := TrustManager.verify_of_refused refused moment.verifyLater
  rcases verified : (TrustManager.verify py (some node.id) moment.verifyNow moment.verifyLater
    (some (ledgerMessage node served nonce ts sig).object)).run server.trust with ⟨result, trust⟩
  rw [verified] at answered
  cases answered
  have verifies : (onTrust (TrustManager.verify py (some node.id) moment.verifyNow moment.verifyLater
      (some (ledgerMessage node served nonce ts sig).object))).run server =
        (.ok ⟨false, reason, sender⟩, { server with trust := trust }) := by
    rw [onTrust, run_zoom, verified]
  rw [verifiedPage, run_bind_ok verifies, if_neg Bool.false_ne_true]
  rintro ⟨reply, isReply, ok, -⟩
  cases isReply
  cases ok

/-! ## The condition -/

section Condition

variable {moment : RequestMoment} {node : Peer} {limit : Int} {nonce ts sig : PyStr}
  (signs : SignsLimit py server.trust.meshKey node limit nonce ts sig) (nonempty : nonce ≠ [])
  (current : CurrentText py server.trust moment.verifyNow ts)

include signs nonempty current

/-- The handler verifies the message with the limit that it reads, against the tag of its own. -/
theorem exists_examined : ∃ rebuilt other seconds,
    queryLimit reader (some (NumberLit.ofInt limit).render) = rebuilt ∧
    signingMaterial py node.id (lit "broadcast") (ledgerRead rebuilt) nonce (.str ts) = some other ∧
    apiCollabLedger py authority view reader moment (pageRequest node limit nonce ts sig) =
      verifiedPage py authority view moment node rebuilt nonce ts sig ∧
    server.trust.examine py (some node.id) moment.verifyNow
        (some (ledgerMessage node rebuilt nonce ts sig).object) =
      if (py.hmacSha256 server.trust.meshKey other).text = sig then .ok (.genuine node.id nonce seconds)
      else .ok (.refused "invalid signature" (some node.id)) := by
  obtain ⟨material, signed, isSig⟩ := signs
  obtain ⟨someTs, seconds, isTime, near⟩ := current
  have someSig : sig ≠ [] := by
    rw [← isSig]
    exact Digest.nonempty _
  have ascii : sig.any (fun c => decide (128 ≤ c.val)) ≠ true := by
    rw [← isSig, TrustManager.ascii_digest]
    exact Bool.false_ne_true
  obtain ⟨other, otherSigned⟩ := exists_material signed
    (queryLimit reader (some (NumberLit.ofInt limit).render))
  have checked := @checked_ledgerMessage py server.trust node _ moment.verifyNow nonce ts sig seconds
    other nonempty isTime near otherSigned
  have examined := TrustManager.examine_of_checked checked
  rw [if_neg ascii] at examined
  exact ⟨_, other, seconds, rfl, otherSigned, apiCollabLedger_of_given nonempty someTs someSig, examined⟩

/-- The signature of a limit that is out of its range is refused. -/
theorem inRange_of_receives (collisionFree : Function.Injective (py.hmacSha256 server.trust.meshKey))
    (receives : ReceivesPage entries limit ((apiCollabLedger py authority view reader moment
      (pageRequest node limit nonce ts sig)).run server).1) : 1 ≤ limit ∧ limit ≤ 500 := by
  obtain ⟨rebuilt, other, seconds, served, otherSigned, isHandler, examined⟩ :=
    @exists_examined py authority view reader server _ _ _ _ _ _ signs nonempty current
  obtain ⟨material, signed, isSig⟩ := signs
  rw [isHandler] at receives
  by_cases same : (py.hmacSha256 server.trust.meshKey other).text = sig
  · have tags : py.hmacSha256 server.trust.meshKey other = py.hmacSha256 server.trust.meshKey material :=
      digest_ext (same.trans isSig.symm)
    rw [collisionFree tags] at otherSigned
    rw [limit_of_material signed otherSigned, ← served]
    exact queryLimit_mem _
  · rw [if_neg same] at examined
    exact absurd receives (not_receivesPage_of_refused examined)

/-- The page of a limit in its range is sent. -/
theorem receives_of_inRange (holds : HoldsEntries entries server.vault)
    (legible : view.Legible issued) (fresh : server.trust.nonces.get? nonce = none)
    (inRange : 1 ≤ limit ∧ limit ≤ 500) :
    ReceivesPage entries limit ((apiCollabLedger py authority view reader moment
      (pageRequest node limit nonce ts sig)).run server).1 := by
  obtain ⟨rebuilt, other, seconds, served, otherSigned, isHandler, examined⟩ :=
    @exists_examined py authority view reader server _ _ _ _ _ _ signs nonempty current
  obtain ⟨material, signed, isSig⟩ := signs
  rw [queryLimit_render inRange] at served
  subst served
  rw [signed, Option.some.injEq] at otherSigned
  subst otherSigned
  rw [if_pos isSig] at examined
  rw [isHandler]
  exact receivesPage_of_accepted holds legible
    (TrustManager.accepts_verify_iff.mpr ⟨_, _, _, examined, fresh⟩)

end Condition

/-- An authenticated node that signs a limit, with a fresh nonce and a time near the clock,
receives the page exactly where the limit is in its range. -/
theorem receivesPage_iff {moment : RequestMoment} {node : Peer} {limit : Int} {nonce ts sig : PyStr}
    (collisionFree : Function.Injective (py.hmacSha256 server.trust.meshKey))
    (holds : HoldsEntries entries server.vault) (legible : view.Legible issued)
    (signs : SignsLimit py server.trust.meshKey node limit nonce ts sig) (nonempty : nonce ≠ [])
    (fresh : server.trust.nonces.get? nonce = none)
    (current : CurrentText py server.trust moment.verifyNow ts) :
    ReceivesPage entries limit ((apiCollabLedger py authority view reader moment
        (pageRequest node limit nonce ts sig)).run server).1 ↔
      1 ≤ limit ∧ limit ≤ 500 := by
  constructor
  · intro receives
    exact inRange_of_receives signs nonempty current collisionFree receives
  · intro inRange
    exact receives_of_inRange signs nonempty current holds legible fresh inRange

/-! ## A limit that is too large -/

/-- A platform that reads one time. -/
def readsZero : Platform :=
  { Platform.plain with
    floatOfText := fun text => if text = lit "0.0" then some (.finite zeroTime) else none }

theorem collisionFree_readsZero (key : ByteArray) : Function.Injective (readsZero.hmacSha256 key) := by
  intro left right same
  have bytes : key ++ left = key ++ right := Digest.ofBytes_injective same
  exact ByteArray.append_right_inj key |>.mp bytes

/-- Numbers as JSON writes them. -/
def jsonReader : IntReader where
  read text :=
    match loads text with
    | some (.int value) => some value
    | _ => none
  reads value _ := by
    have back := @Json.loads_canonical (.int value) trivial [] (List.forall_mem_nil _)
    rw [List.append_nil] at back
    have text : (Json.int value).dumps .canonical = (NumberLit.ofInt value).render := rfl
    rw [← text, back]
    rfl

/-- A mesh without certificates. -/
def bareView : MeshView := ⟨[], beforeExpiry, [], [], 0, none⟩

/-- A mesh with a certificate. -/
def certifiedView : MeshView :=
  ⟨[(lit "n-1", .obj (firstCert.fields false))], beforeExpiry, [], [], 0, none⟩

theorem legible_certifiedView : certifiedView.Legible [firstCert] := by
  constructor
  · intro nodeId entry found
    obtain ⟨rfl, rfl⟩ : lit "n-1" = nodeId ∧ Json.obj (firstCert.fields false) = entry := by
      simpa [certifiedView, Dict.get?] using found
    exact ⟨firstCert, List.mem_singleton_self _, rfl, false, rfl⟩
  · intro cert member
    rw [List.mem_singleton.mp member]
    exact ⟨3600000000, rfl⟩

/-- A node joins and says hello. -/
def helloCalls : List StoreCall :=
  [.registerNode .epoch (lit "n-1") (lit "node") 0,
    .appendEvent .epoch (lit "n-1") (lit "message") TrustManager.hello (lit "sig")]

/-- A server whose ledger has the greeting. -/
def greetedServer : MonitorServer :=
  { MonitorServer.idle [] with vault := (storeMachine readsZero).run (.fresh []) helloCalls }

theorem signsLimit_nodeA (limit : Int) : ∃ sig,
    SignsLimit readsZero TrustManager.halfMinute.meshKey nodeA limit (lit "n") (lit "0.0") sig := by
  have signed : ∃ material, signingMaterial readsZero nodeA.id (lit "broadcast") (ledgerRead limit)
      (lit "n") (.str (lit "0.0")) = some material := by
    refine exists_signingMaterial_iff.mpr ⟨rfl, encodable_lit _, encodable_lit _, ?_,
      encodable_lit _, encodable_lit _⟩
    exact ⟨encodable_lit _, encodable_lit _, encodable_lit _, trivial, trivial⟩
  obtain ⟨material, isMaterial⟩ := signed
  exact ⟨_, material, isMaterial, rfl⟩

theorem current_zero : CurrentText readsZero TrustManager.halfMinute RequestMoment.epoch.verifyNow
    (lit "0.0") := by
  refine ⟨by decide, .finite zeroTime, rfl, ?_⟩
  exact TrustManager.isStale_self (by decide) zeroTime

theorem holds_greetedServer :
    HoldsEntries (journalOf readsZero [] helloCalls) greetedServer.vault := by
  dsimp only [greetedServer]
  exact holds_journalOf [] helloCalls

theorem receivesPage_one : (journalOf readsZero [] helloCalls).length = 1 ∧
    ∃ sig, ReceivesPage (journalOf readsZero [] helloCalls) 1
      ((apiCollabLedger readsZero sealing certifiedView jsonReader .epoch
        (pageRequest nodeA 1 (lit "n") (lit "0.0") sig)).run greetedServer).1 := by
  refine ⟨by decide +kernel, ?_⟩
  obtain ⟨sig, signs⟩ := signsLimit_nodeA 1
  exact ⟨sig, (receivesPage_iff (collisionFree_readsZero _) holds_greetedServer
    legible_certifiedView signs (by decide) rfl current_zero).mpr ⟨le_refl _, by decide⟩⟩

/-- A node that asks for a page of 501 rows, signs that and sends it is refused. -/
theorem limit_refused : ∃ sig,
    SignsLimit readsZero (MonitorServer.idle []).trust.meshKey nodeA 501 (lit "n") (lit "0.0") sig ∧
      CurrentText readsZero (MonitorServer.idle []).trust RequestMoment.epoch.verifyNow (lit "0.0") ∧
      (MonitorServer.idle []).trust.nonces.get? (lit "n") = none ∧
      HoldsEntries [] (MonitorServer.idle []).vault ∧
      ¬ReceivesPage [] 501 ((apiCollabLedger readsZero sealing bareView jsonReader .epoch
        (pageRequest nodeA 501 (lit "n") (lit "0.0") sig)).run (MonitorServer.idle [])).1 := by
  obtain ⟨sig, signs⟩ := signsLimit_nodeA 501
  refine ⟨sig, signs, current_zero, rfl, .fresh [], fun receives => ?_⟩
  obtain ⟨-, small⟩ := inRange_of_receives signs (by decide) current_zero
    (collisionFree_readsZero _) receives
  omega

end HermesMesh.Server
