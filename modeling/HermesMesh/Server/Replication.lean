import HermesMesh.Server.Forwarding

/-!
# An event on two ledgers

What `api_relay` records is signed again as the local node and posted to the partners, whose
`api_relay` takes it like any other envelope.  So a partner records the same operation and
payload under the name of the node that has passed it on, while the copy is fresh and its
nonce is new.
-/

namespace HermesMesh.Server

open Python Foundation Foundation.Action Collab MonitorServer

variable {py : Platform}

/-! ## What is recorded -/

/-- An event that is recorded adds one line to the ledger. -/
theorem ledger_of_records {vault : CollabVault} {moment : Moment} {node op : PyStr}
    {payload : JsonObject} {sig : PyStr} (records : vault.Records py moment node op payload sig) :
    ∃ line, encodeUtf8 ((CollabVault.newEntry moment node op payload sig).toJson.dumps .canonical ++
        [lineFeed]) = some line ∧
      ((CollabVault.appendEvent py moment node op payload sig).run vault).2.ledger =
        vault.ledger ++ line := by
  obtain ⟨verified, encodes⟩ := records
  obtain ⟨bytes, encoded⟩ := Option.ne_none_iff_exists'.mp encodes
  have hashed : hashOf py (CollabVault.newEntry moment node op payload sig).toJson =
      some (py.sha256 bytes).text := by
    rw [hashOf, encoded]
    rfl
  obtain ⟨rows, previous, hash, line, auditLine, -, -, -, isLine, -, same⟩ :=
    run_appendEvent_recorded verified hashed
  refine ⟨line, isLine, ?_⟩
  rw [same]
  have files := CollabVault.within_files_applyAndSave py moment
    (CollabVault.newEntry moment node op payload sig) (vault.withLines line auditLine)
  exact congrArg (fun files => files.2.1) files

/-- What `api_relay` does with an envelope that it has accepted. -/
def recordRelayed (py : Platform) (moment : RequestMoment) (node : PyStr) (signed : SignedBody) :
    Handler Reply := do
  let outcome ← (onVault (CollabVault.appendEvent py moment.append node signed.op signed.payload
    signed.sig)).attempt vaultMessage?
  match outcome with
  | .error reason => return rejectedReply 503 reason
  | .ok entry => relayAccepted py moment signed entry

section Relay

variable {moment : RequestMoment} {request : Request} {server : MonitorServer} {node : Peer}
  {body : JsonObject} {signed : SignedBody}

theorem run_apiRelay (accepted : AcceptedBody py moment request server.trust node body signed) :
    (apiRelay py moment request).run server =
      (recordRelayed py moment node.id signed).run (server.afterVerify py moment node body) := by
  rcases signedRequest_cases "relay" moment request (fun _ => recordRelayed py moment) server with
    ⟨other, otherBody, otherSigned, again, -, continues⟩ | ⟨refused, -⟩
  · obtain ⟨rfl, rfl, rfl⟩ := accepted.unique again
    exact continues
  · exact absurd accepted (refused node body signed)

/-- Without an accepted envelope, `api_relay` does nothing to the vault. -/
theorem vault_apiRelay_of_refused
    (refused : ∀ node body signed, ¬AcceptedBody py moment request server.trust node body signed) :
    ((apiRelay py moment request).run server).2.vault = server.vault := by
  rcases signedRequest_cases "relay" moment request (fun _ => recordRelayed py moment) server with
    ⟨node, body, signed, accepted, -⟩ | ⟨-, kept, -⟩
  · exact absurd accepted (refused node body signed)
  · exact congrArg Prod.fst kept

theorem run_recordRelayed_of_appended {entry : LedgerEntry} {after : CollabVault}
    (appended : (CollabVault.appendEvent py moment.append node.id signed.op signed.payload
      signed.sig).run server.vault = (.ok entry, after)) :
    (recordRelayed py moment node.id signed).run server =
      (relayAccepted py moment signed entry).run (server.withVault after) := by
  rw [recordRelayed, run_bind, run_attempt, run_onVault, appended]
  rfl

/-- With an accepted envelope, it does to the vault what `append_event` does. -/
theorem vault_apiRelay (accepted : AcceptedBody py moment request server.trust node body signed) :
    ((apiRelay py moment request).run server).2.vault =
      ((CollabVault.appendEvent py moment.append node.id signed.op signed.payload signed.sig).run
        server.vault).2 := by
  rw [run_apiRelay accepted]
  rcases outcome : (CollabVault.appendEvent py moment.append node.id signed.op signed.payload
    signed.sig).run server.vault with ⟨fault | entry, after⟩
  · have stored : (CollabVault.appendEvent py moment.append node.id signed.op signed.payload
        signed.sig).run (server.afterVerify py moment node body).vault = (.error fault, after) :=
      outcome
    rw [recordRelayed, run_bind, run_attempt, run_onVault, stored, attempted]
    cases vaultMessage? fault with
    | none => rfl
    | some reason => rfl
  · have stored : (CollabVault.appendEvent py moment.append node.id signed.op signed.payload
        signed.sig).run (server.afterVerify py moment node body).vault = (.ok entry, after) :=
      outcome
    rw [run_recordRelayed_of_appended stored]
    obtain ⟨reply, told, ran, -, vault, -⟩ := @run_relayAccepted py moment signed entry
      ((server.afterVerify py moment node body).withVault after)
    rw [ran]
    exact vault

end Relay

/-! ## What is handed to the partners -/

theorem sign_congr {left right : TrustManager} (sameKey : left.meshKey = right.meshKey)
    (nodeId op : PyStr) (payload : JsonObject) (nonce : Option PyStr) (ts : Option JsonValue)
    (drawn : PyStr) (now : Binary64) :
    left.sign py nodeId op payload nonce ts drawn now =
      right.sign py nodeId op payload nonce ts drawn now := by
  unfold TrustManager.sign
  rw [sameKey]

theorem meshKey_verify (expected : Option PyStr) (now later : Binary64) (message : Option JsonObject)
    (manager : TrustManager) :
    ((TrustManager.verify py expected now later message).run manager).2.meshKey = manager.meshKey := by
  have kept : Within (Agree TrustManager.meshKey) (TrustManager.verify py expected now later message) := by
    refine within_bind within_read fun manager => ?_
    split
    · exact within_raise _
    · exact within_pure _
    · refine within_bind (within_bind within_read fun manager => ?_) fun isNew => ?_
      · split
        · exact within_pure _
        · refine within_bind (within_modify fun _ => rfl) fun _ => ?_
          exact within_bind (within_modify fun _ => rfl) fun _ => within_pure _
      · exact within_ite (fun _ => within_pure _) fun _ => within_pure _
  exact kept manager

/-- Without links, an event that is recorded is signed and handed to all partners. -/
theorem dispatched_relayAccepted {moment : RequestMoment} {signed : SignedBody} {entry : LedgerEntry}
    {server : MonitorServer} {message : Envelope} (unlinked : server.links = [])
    (ready : server.ready = true) (allowed : signed.op ∈ allowedOps)
    (signs : server.trust.sign py server.localNodeId signed.op signed.payload none none
      (moment.signing 0).1.text (moment.signing 0).2 = .ok message) :
    ((relayAccepted py moment signed entry).run server).2.dispatched =
      server.dispatched ++ [message] := by
  have partners : server.partners ≠ [] := by
    intro none
    simp [MonitorServer.ready, none] at ready
  generalize isTold : (server.telling (announcements moment entry)).telling
    (secondNews signed entry) = told
  have same : told.links = [] ∧ told.ready = true ∧ told.partners ≠ [] ∧
      told.dispatched = server.dispatched ∧
      told.trust.sign py told.localNodeId signed.op signed.payload none none
        (moment.signing 0).1.text (moment.signing 0).2 = .ok message := by
    rw [← isTold]
    exact ⟨unlinked, ready, partners, rfl, signs⟩
  obtain ⟨toldUnlinked, toldReady, toldPartners, toldDispatched, toldSigns⟩ := same
  have envelope : forwardEnvelope py told.ready told.partners told.trust told.localNodeId signed.op
      signed.payload (moment.signing 0).1.text (moment.signing 0).2 = some (.ok message) := by
    rw [forwardEnvelope, if_neg (by simp [toldReady, toldPartners, allowed]), toldSigns]
  rw [relayAccepted, run_bind_ok (run_announce moment entry server),
    run_bind_ok (run_announceMessage signed entry _), run_bind_ok (run_quietly _ _), isTold]
  rw [relayForward, run_bind_ok (run_read _), toldUnlinked, forwardLinks, run_bind_ok (run_pure _ _)]
  rw [List.isEmpty_nil, if_pos rfl, forwardIfReady, run_bind_ok (run_read _), if_pos toldReady]
  rw [forward, run_bind, run_bind_ok (run_read _), envelope]
  rw [← toldDispatched]
  rfl

/-! ## At the partner -/

/-- The copy is fresh at the partner, which has not seen its nonce and whose chain verifies. -/
structure TakesCopy (py : Platform) (arrival : RequestMoment) (nonce : PyStr) (signedAt : Binary64)
    (partner : MonitorServer) : Prop where
  fresh : partner.trust.isStale arrival.verifyNow (.finite signedAt) = false
  unseen : partner.trust.nonces.get? nonce = none
  verified : partner.vault.chainVerified py = true

/-- The ledger has one line more, with an event of the node. -/
def GainsEvent (moment : Moment) (node op : PyStr) (payload : JsonObject)
    (before after : MonitorServer) : Prop :=
  ∃ sig line, encodeUtf8 ((CollabVault.newEntry moment node op payload sig).toJson.dumps .canonical ++
      [lineFeed]) = some line ∧
    after.vault.ledger = before.vault.ledger ++ line

section Partner

variable {sender : TrustManager} {nodeId op drawn : PyStr} {payload : JsonObject}
  {signedAt : Binary64} {message : Envelope} {partner : MonitorServer} {arrival : RequestMoment}
  {peer : Peer}

/-- A partner verifies a copy while it is fresh and its nonce is new. -/
theorem verifies_copy_iff
    (signed : sender.sign py nodeId op payload none none drawn signedAt = .ok message)
    (isDrawn : drawn ≠ []) (isPeer : peer.id = nodeId)
    (sameKey : partner.trust.meshKey = sender.meshKey) :
    VerifiesFor py arrival peer partner.trust message.object ↔
      partner.trust.isStale arrival.verifyNow (.finite signedAt) = false ∧
        partner.trust.nonces.get? drawn = none := by
  have named : nodeId ≠ [] := isPeer ▸ peer.named
  have isMessage := signed
  obtain ⟨-, -, material, -, rfl⟩ := TrustManager.sign_eq_ok.mp isMessage
  have addressed : ∀ other ∈ some peer.id, other = nodeId := by
    intro other isOther
    cases isOther
    exact isPeer
  have examined := TrustManager.examine_signed sameKey signed named isDrawn addressed rfl
    arrival.verifyNow
  rw [VerifiesFor, TrustManager.accepts_verify_iff, examined]
  split
  · next stale => simp [stale]
  · next fresh =>
      rw [Bool.not_eq_true] at fresh
      simp only [fresh, true_and]
      constructor
      · rintro ⟨_, _, _, same, unseen⟩
        cases same
        exact unseen
      · intro unseen
        exact ⟨_, _, _, rfl, unseen⟩

/-- A partner records the copy exactly while it takes it. -/
theorem copy_recorded
    (signed : sender.sign py nodeId op payload none none drawn signedAt = .ok message)
    (isDrawn : drawn ≠ []) (isPeer : peer.id = nodeId)
    (sameKey : partner.trust.meshKey = sender.meshKey) :
    (TakesCopy py arrival drawn signedAt partner →
      GainsEvent arrival.append nodeId op payload partner
        ((apiRelay py arrival (relayRequest peer message.object)).run partner).2) ∧
    (¬TakesCopy py arrival drawn signedAt partner →
      ((apiRelay py arrival (relayRequest peer message.object)).run partner).2.vault.ledger =
        partner.vault.ledger) := by
  have verifies_iff := @verifies_copy_iff py sender nodeId op drawn payload signedAt message partner
    arrival peer signed isDrawn isPeer sameKey
  by_cases verifies : VerifiesFor py arrival peer partner.trust message.object
  · obtain ⟨fresh, unseen⟩ := verifies_iff.mp verifies
    obtain ⟨accepted, fields, vouched, -⟩ := vouched_of_verifies verifies
    have body : AcceptedBody py arrival (relayRequest peer message.object) partner.trust peer
        message.object accepted := ⟨rfl, rfl, rfl, verifies, fields⟩
    obtain ⟨-, -, material, -, rfl⟩ := TrustManager.sign_eq_ok.mp signed
    have isAccepted : accepted = ⟨op, payload, (py.hmacSha256 sender.meshKey material).text⟩ := by
      rw [signedBody?, Envelope.get?_op, Envelope.getObject?_payload, Envelope.get?_sig] at fields
      exact (Option.some.inj fields).symm
    rw [vault_apiRelay body]
    constructor
    · intro takes
      obtain ⟨line, isLine, grown⟩ := ledger_of_records ⟨takes.verified, vouched.canonical arrival.append⟩
      rw [isAccepted, isPeer] at isLine
      refine ⟨_, line, isLine, ?_⟩
      rw [vault_apiRelay body]
      exact grown
    · intro refuses
      by_contra changed
      have records := recorded_appendEvent_iff.mp changed
      exact refuses ⟨fresh, unseen, records.1⟩
  · have refused : ∀ node body accepted,
        ¬AcceptedBody py arrival (relayRequest peer message.object) partner.trust node body accepted := by
      intro node body accepted isAccepted
      cases isAccepted.isNode
      cases isAccepted.isBody
      exact verifies isAccepted.verifies
    rw [vault_apiRelay_of_refused refused]
    exact ⟨fun takes => absurd (verifies_iff.mpr ⟨takes.fresh, takes.unseen⟩) verifies, fun _ => rfl⟩

end Partner

/-! ## Both ledgers -/

/-- Of an event that `api_relay` records without links, the partners get a copy as JSON.  A
partner with the same key records its operation and payload exactly while it takes the copy. -/
theorem relay_replicates {moment : RequestMoment} {request : Request} {server : MonitorServer}
    {node : Peer} {body : JsonObject} {signed : SignedBody}
    (accepted : AcceptedBody py moment request server.trust node body signed)
    (records : server.vault.Records py moment.append node.id signed.op signed.payload signed.sig)
    (applies : server.vault.Applies py moment.append
      (CollabVault.newEntry moment.append node.id signed.op signed.payload signed.sig))
    (unlinked : server.links = []) (ready : server.ready = true)
    (named : Encodable server.localNodeId) (isDrawn : (moment.signing 0).1.text ≠ []) :
    GainsEvent moment.append node.id signed.op signed.payload server
        ((apiRelay py moment request).run server).2 ∧
    ∃ message,
      ((apiRelay py moment request).run server).2.dispatched = server.dispatched ++ [message] ∧
      loads (message.object.toJson.dumps .default) = some message.object.toJson ∧
      ∀ (partner : MonitorServer) (arrival : RequestMoment) (peer : Peer),
        peer.id = server.localNodeId → partner.trust.meshKey = server.trust.meshKey →
        (TakesCopy py arrival (moment.signing 0).1.text (moment.signing 0).2 partner →
          GainsEvent arrival.append server.localNodeId signed.op signed.payload partner
            ((apiRelay py arrival (relayRequest peer message.object)).run partner).2) ∧
        (¬TakesCopy py arrival (moment.signing 0).1.text (moment.signing 0).2 partner →
          ((apiRelay py arrival (relayRequest peer message.object)).run partner).2.vault.ledger =
            partner.vault.ledger) := by
  obtain ⟨other, fields, vouched, -⟩ := vouched_of_verifies accepted.verifies
  cases accepted.fields.symm.trans fields
  have forwardable : Forwardable py server.localNodeId signed.payload :=
    ⟨vouched.policy, vouched.finite, named, vouched.strings⟩
  obtain ⟨message, signs⟩ := (@exists_sign_iff py server.trust server.localNodeId signed.op
    signed.payload (moment.signing 0).1 (moment.signing 0).2 vouched.allowed).mpr forwardable
  constructor
  · obtain ⟨line, isLine, grown⟩ := ledger_of_records records
    refine ⟨_, line, isLine, ?_⟩
    rw [vault_apiRelay accepted]
    exact grown
  refine ⟨message, ?dispatched, ?wire, ?partner⟩
  case dispatched =>
    have returned := appendEvent_eq_ok.mpr ⟨records, applies, rfl⟩
    rcases outcome : (CollabVault.appendEvent py moment.append node.id signed.op signed.payload
      signed.sig).run server.vault with ⟨result, after⟩
    rw [outcome] at returned
    cases returned
    have stored : (CollabVault.appendEvent py moment.append node.id signed.op signed.payload
        signed.sig).run (server.afterVerify py moment node body).vault = (.ok _, after) := outcome
    rw [run_apiRelay accepted, run_recordRelayed_of_appended stored]
    have verifiedSigns : (server.afterVerify py moment node body).trust.sign py server.localNodeId
        signed.op signed.payload none none (moment.signing 0).1.text (moment.signing 0).2 =
          .ok message := by
      rw [← signs]
      exact sign_congr (meshKey_verify _ _ _ _ _) _ _ _ _ _ _ _
    exact @dispatched_relayAccepted py moment signed _
      ((server.afterVerify py moment node body).withVault after) message unlinked ready
      vouched.allowed verifiedSigns
  case wire =>
    obtain ⟨-, -, material, -, isMessage⟩ := TrustManager.sign_eq_ok.mp signs
    exact loads_dumps_signed signs (by rw [isMessage]; rfl)
  case partner =>
    intro partner arrival peer isPeer sameKey
    exact copy_recorded signs isDrawn isPeer sameKey

/-- The name of a new server, as a peer. -/
def nodeLocal : Peer := ⟨lit "mesh-local", by decide⟩

/-- A greeting of the node `a` is recorded by a server, and by its partner under the name of
that server. -/
theorem relay_replicates_greeting : ∃ (envelope : JsonObject) (copy : Envelope),
    GainsEvent Moment.epoch nodeA.id (lit "message") TrustManager.hello (.idle [lit "http://b"])
      ((apiRelay .plain .epoch (relayRequest nodeA envelope)).run (.idle [lit "http://b"])).2 ∧
    GainsEvent Moment.epoch nodeLocal.id (lit "message") TrustManager.hello (.idle [])
      ((apiRelay .plain .epoch (relayRequest nodeLocal copy.object)).run (.idle [])).2 := by
  obtain ⟨envelope, isOp, isPayload, verifies⟩ := @exists_verifies (lit "message")
    TrustManager.hello (by decide) rfl rfl ⟨encodable_lit _, encodable_lit _, trivial⟩
  have fields : signedBody? envelope.object =
      some ⟨lit "message", TrustManager.hello, envelope.sig⟩ := by
    simp [signedBody?, isOp, isPayload]
  obtain ⟨signed, sameFields, vouched, -⟩ := vouched_of_verifies verifies
  obtain rfl : signed = _ := Option.some.inj (sameFields.symm.trans fields)
  have accepted : AcceptedBody .plain .epoch (relayRequest nodeA envelope.object)
      (MonitorServer.idle [lit "http://b"]).trust nodeA envelope.object _ :=
    ⟨rfl, rfl, rfl, verifies, fields⟩
  have notTask : lit "message" ≠ lit "task" := by decide
  have notJoin : lit "message" ≠ lit "join" := by decide
  obtain ⟨gains, copy, -, -, partner⟩ := @relay_replicates .plain .epoch
    (relayRequest nodeA envelope.object) (.idle [lit "http://b"]) nodeA envelope.object _ accepted
    ⟨chainVerified_fresh [], vouched.canonical _⟩
    (vouched.applies_fresh [] notTask notJoin .epoch) rfl rfl (encodable_lit _) (by decide)
  refine ⟨envelope.object, copy, gains, (partner (.idle []) .epoch nodeLocal rfl rfl).1 ?_⟩
  have fresh := @TrustManager.isStale_self TrustManager.halfMinute (by decide) zeroTime
  exact ⟨fresh, rfl, chainVerified_fresh []⟩

end HermesMesh.Server
