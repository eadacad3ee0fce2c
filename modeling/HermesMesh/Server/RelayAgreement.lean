import HermesMesh.Server.Signed

/-!
# The relay over HTTP and over the websocket

`api_relay` and the event stream of `api_ws_relay` verify an envelope and append its
event in the same way, and differ in what they answer to exceptions.  Of an accepted
event both tell the dashboards, but `api_relay` tells them twice of a message.
-/

namespace HermesMesh.Server

open Python Foundation Foundation.Action Collab MonitorServer

variable {py : Platform}

/-- What both transports have to agree on. -/
def MonitorServer.shown (server : MonitorServer) : CollabVault × List Broadcast :=
  (server.vault, server.broadcasts)

/-! ## Forwarding -/

theorem run_quietly (action : Handler Unit) (server : MonitorServer) :
    (quietly action).run server = (.ok (), (action.run server).2) := by
  simp only [quietly, run, catching]
  rcases action server with ⟨fault | value, after⟩ <;> rfl

theorem within_shown_forward (moment : RequestMoment) (index : Nat) (op : PyStr)
    (payload : JsonObject) : Within (Agree shown) (forward py moment index op payload) := by
  refine within_bind within_read fun server => ?_
  split
  · exact within_pure false
  · refine within_bind (within_ofExcept _) fun message => ?_
    exact within_bind (within_modify fun _ => rfl) fun _ => within_pure true

theorem within_shown_forwardIfReady (moment : RequestMoment) (index : Nat) (op : PyStr)
    (payload : JsonObject) : Within (Agree shown) (forwardIfReady py moment index op payload) := by
  refine within_bind within_read fun server => ?_
  exact within_ite (fun _ => within_bind (within_shown_forward _ _ _ _) fun _ => within_pure ())
    fun _ => within_pure ()

theorem within_quietly {related : MonitorServer → MonitorServer → Prop} {action : Handler Unit}
    (inner : Within related action) : Within related (quietly action) := by
  intro server
  rw [run_quietly]
  exact inner server

theorem within_shown_forwardLinks (moment : RequestMoment) (op : PyStr) (payload : JsonObject)
    (index : Nat) (links : Dict PyStr Bool) :
    Within (Agree shown) (forwardLinks py moment op payload index links) := by
  induction links generalizing index with
  | nil => exact within_pure ()
  | cons link rest ih =>
      obtain ⟨url, connected⟩ := link
      exact within_ite (fun _ => ih (index + 1)) fun _ =>
        within_bind (within_quietly (within_shown_forwardIfReady _ _ _ _)) fun _ => ih (index + 1)

/-- Forwarding changes neither the vault nor what the dashboards are told. -/
theorem within_shown_relayForward (moment : RequestMoment) (op : PyStr) (payload : JsonObject) :
    Within (Agree shown) (relayForward py moment op payload) := by
  refine within_bind within_read fun server => ?_
  refine within_bind (within_shown_forwardLinks _ _ _ _ _) fun _ => ?_
  exact within_ite (fun _ => within_shown_forwardIfReady _ _ _ _) fun _ => within_pure ()

/-! ## Agreement -/

/-- A request to `api_relay` that gets as far as its envelope. -/
def relayRequest (peer : Peer) (envelope : JsonObject) : Request :=
  ⟨some peer, false, none, some envelope⟩

/-- The transports decide alike, change the vault alike and tell the dashboards alike. -/
structure SameOutcome (http : Reply × MonitorServer)
    (ws : Except Fault (Option LedgerEntry) × MonitorServer) : Prop where
  decision : http.1.isOk ↔ ∃ entry, ws.1 = .ok (some entry)
  vault : http.2.vault = ws.2.vault
  broadcasts : http.2.broadcasts = ws.2.broadcasts

/-- Neither transport accepts the envelope, and both leave the same server. -/
theorem sameOutcome_of_refused {reply : Reply} {result : Except Fault (Option LedgerEntry)}
    {after : MonitorServer} (notOk : ¬reply.isOk) (notSome : ∀ entry, result ≠ .ok (some entry)) :
    SameOutcome (reply, after) (result, after) where
  decision := iff_of_false notOk fun ⟨entry, same⟩ => notSome entry same
  vault := rfl
  broadcasts := rfl

/-- The server with the vault that a call leaves. -/
def MonitorServer.withVault (vault : CollabVault) (server : MonitorServer) : MonitorServer :=
  { server with vault := vault }

theorem run_onVault {α : Type} (action : Action CollabVault Fault α) (server : MonitorServer) :
    (onVault action).run server =
      ((action.run server.vault).1, server.withVault (action.run server.vault).2) := rfl

/-- The broadcasts of an entry that both transports make. -/
def announcements (moment : RequestMoment) (entry : LedgerEntry) : List Broadcast :=
  [.event entry, .activity "audit" moment.activityTs.text
    [(lit "node_id", .str entry.node), (lit "op", .str entry.op),
      (lit "ledger_id", .str entry.id), (lit "status", .str (lit "verified"))]]

/-- The server after it has told the dashboards. -/
def MonitorServer.telling (news : List Broadcast) (server : MonitorServer) : MonitorServer :=
  { server with broadcasts := server.broadcasts ++ news }

theorem run_announce (moment : RequestMoment) (entry : LedgerEntry) (server : MonitorServer) :
    (announce moment entry).run server = (.ok (), server.telling (announcements moment entry)) := by
  simp [announce, broadcast, recordActivity, run_bind, announcements, telling]

/-- What `api_relay` alone tells of an event. -/
def secondNews (signed : SignedBody) (entry : LedgerEntry) : List Broadcast :=
  if signed.op = lit "message" then [.message entry.node (messageText signed.payload) entry.ts]
  else []

theorem run_announceMessage (signed : SignedBody) (entry : LedgerEntry) (server : MonitorServer) :
    (announceMessage signed entry).run server = (.ok (), server.telling (secondNews signed entry)) := by
  unfold announceMessage secondNews
  split
  · rfl
  · simp [telling]

/-- An appended event is answered with `ok`; the vault is as it was, and the dashboards
are told of a message twice. -/
theorem run_relayAccepted (moment : RequestMoment) (signed : SignedBody) (entry : LedgerEntry)
    (server : MonitorServer) :
    ∃ reply after, (relayAccepted py moment signed entry).run server = (.ok reply, after) ∧
      reply.isOk ∧ after.vault = server.vault ∧
      after.broadcasts =
        server.broadcasts ++ announcements moment entry ++ secondNews signed entry := by
  have kept := @within_shown_relayForward py moment signed.op signed.payload
    ((server.telling (announcements moment entry)).telling (secondNews signed entry))
  obtain ⟨vault, broadcasts⟩ := Prod.ext_iff.mp kept
  rw [relayAccepted, run_bind_ok (run_announce moment entry server),
    run_bind_ok (run_announceMessage signed entry _), run_bind_ok (run_quietly _ _)]
  exact ⟨_, _, rfl, ⟨rfl, rfl⟩, vault, broadcasts⟩

/-- An envelope that is not appended is refused by both transports. -/
theorem sameOutcome_of_unappended {moment : RequestMoment} {peer : Peer} {envelope : JsonObject}
    {server : MonitorServer} {signed : SignedBody} {fault : Fault} {after : CollabVault}
    (verified : (verifyEnvelope py moment peer envelope).run server =
      (.ok (.ok (peer.id, signed)), server.afterVerify py moment peer envelope))
    (failed : (CollabVault.appendEvent py moment.append peer.id signed.op signed.payload
      signed.sig).run server.vault = (.error fault, after)) :
    SameOutcome (respond py moment (relayRequest peer envelope) .relay server)
      ((wsRelayFrame py moment peer envelope).run server) := by
  have appended : ((onVault (CollabVault.appendEvent py moment.append peer.id signed.op
      signed.payload signed.sig)).attempt vaultMessage?).run (server.afterVerify py moment peer envelope) =
        (attempted vaultMessage? (.error fault),
          (server.afterVerify py moment peer envelope).withVault after) := by
    rw [run_attempt, run_onVault]
    simp only [afterVerify, failed]
  rw [wsRelayFrame, run_bind_ok verified]
  unfold respond Route.handler apiRelay signedRequest relayRequest
  dsimp only
  rw [run_bind_ok verified]
  rw [attempted] at appended
  cases caught : vaultMessage? fault with
  | none =>
      rw [caught] at appended
      rw [run_bind_error appended, run_bind_error appended]
      exact sameOutcome_of_refused (not_isOk_of_status (by decide)) (by simp)
  | some reason =>
      rw [caught] at appended
      rw [run_bind_ok appended, run_bind_ok appended]
      exact sameOutcome_of_refused (not_isOk_of_status (by decide)) (by simp)

/-- An envelope that is appended is accepted by both transports, and only the dashboards
of one are told of a message twice. -/
theorem sameOutcome_of_appended_iff {moment : RequestMoment} {peer : Peer} {envelope : JsonObject}
    {server : MonitorServer} {signed : SignedBody} {entry : LedgerEntry} {after : CollabVault}
    (verified : (verifyEnvelope py moment peer envelope).run server =
      (.ok (.ok (peer.id, signed)), server.afterVerify py moment peer envelope))
    (done : (CollabVault.appendEvent py moment.append peer.id signed.op signed.payload
      signed.sig).run server.vault = (.ok entry, after)) :
    SameOutcome (respond py moment (relayRequest peer envelope) .relay server)
        ((wsRelayFrame py moment peer envelope).run server) ↔ signed.op ≠ lit "message" := by
  have appended : ((onVault (CollabVault.appendEvent py moment.append peer.id signed.op
      signed.payload signed.sig)).attempt vaultMessage?).run (server.afterVerify py moment peer envelope) =
        (.ok (.ok entry), (server.afterVerify py moment peer envelope).withVault after) := by
    rw [run_attempt, run_onVault]
    simp only [afterVerify, done]
    rfl
  obtain ⟨reply, told, accepted, isOk, vault, broadcasts⟩ := @run_relayAccepted py moment signed
    entry ((server.afterVerify py moment peer envelope).withVault after)
  have http : respond py moment (relayRequest peer envelope) .relay server = (reply, told) := by
    unfold respond Route.handler apiRelay signedRequest relayRequest
    dsimp only
    rw [run_bind_ok verified]
    dsimp only
    rw [run_bind_ok appended]
    dsimp only
    rw [accepted]
  have ws : (wsRelayFrame py moment peer envelope).run server = (.ok (some entry),
      ((server.afterVerify py moment peer envelope).withVault after).telling
        (announcements moment entry)) := by
    rw [wsRelayFrame, run_bind_ok verified]
    dsimp only
    rw [run_bind_ok appended]
    dsimp only
    rw [run_bind_ok (run_announce moment entry _)]
    rfl
  rw [http, ws]
  constructor
  · intro same isMessage
    have equal := broadcasts.symm.trans same.broadcasts
    rw [secondNews, if_pos isMessage] at equal
    simp [telling] at equal
  · intro notMessage
    refine ⟨iff_of_true isOk ⟨entry, rfl⟩, vault, ?_⟩
    rw [broadcasts, secondNews, if_neg notMessage, List.append_nil]
    rfl

/-- `state.json` can hold the memory with the event of the envelope. -/
def SavesEvent (py : Platform) (moment : RequestMoment) (peer : Peer) (envelope : JsonObject)
    (vault : CollabVault) : Prop :=
  ∃ signed, signedBody? envelope = some signed ∧ (vault.state.firstSaved py moment.append
    (CollabVault.newEntry moment.append peer.id signed.op signed.payload signed.sig)).Writable

/-- The node of the example. -/
def nodeA : Peer := ⟨lit "a", by decide⟩

end HermesMesh.Server
