import HermesMesh.Collab.Trust.Replay
import HermesMesh.Foundation.Refinement
import HermesMesh.Server.Node
import HermesMesh.Server.Replication

/-!
# An envelope is recorded at most once

All routes and the websocket verify with one trust manager, so that an envelope that has
been recorded over one of them is refused by all of them, also after a restart.  The server
is a refinement of its trust manager: a request is at most one call of `verify`.
-/

namespace HermesMesh.Server

open Python Foundation Foundation.Action Collab MonitorServer

variable {py : Platform} {authority : CertAuthority} {view : MeshView} {reader : IntReader}

/-! ## What is presented -/

/-- The envelope that a request with a node, within its rate, brings. -/
def Request.presents (moment : RequestMoment) (request : Request) : List TrustManager.WatchStep :=
  match request.node, request.retryAfter, request.body with
  | some node, none, some body =>
      [.verify (some node.id) moment.verifyNow moment.verifyLater (some body)]
  | _, _, _ => []

/-- The query of a request for a page, as the message that is verified. -/
def LedgerRequest.presents (reader : IntReader) (moment : RequestMoment) (request : LedgerRequest) :
    List TrustManager.WatchStep :=
  match request.node, request.retryAfter, given? request.nonce, given? request.ts,
    given? request.sig with
  | some node, none, some nonce, some ts, some sig =>
      [.verify (some node.id) moment.verifyNow moment.verifyLater
        (some (ledgerMessage node (queryLimit reader request.limit) nonce ts sig).object)]
  | _, _, _, _, _ => []

/-- The calls on the trust manager. -/
def NodeStep.presents (reader : IntReader) : NodeStep → List TrustManager.WatchStep
  | .serve (.request _ (.export _) _) => []
  | .serve (.request moment _ request) => request.presents moment
  | .serve (.frame moment peer envelope) =>
      [.verify (some peer.id) moment.verifyNow moment.verifyLater (some envelope)]
  | .serve (.touch _ _) => []
  | .page moment request => request.presents reader moment
  | .restart => [.restart]

/-! ## What is verified -/

/-- The action leaves the trust manager alone. -/
abbrev KeepsTrust {α : Type} (action : Handler α) : Prop := Within (Agree MonitorServer.trust) action

theorem allows_trust : Allows py (Agree MonitorServer.trust) :=
  ⟨fun _ _ _ same => same, fun _ _ => rfl⟩

theorem trust_bind {α β : Type} (first : Handler α) {rest : α → Handler β}
    (keeps : ∀ value, KeepsTrust (rest value)) (server : MonitorServer) :
    ((first >>= rest).run server).2.trust = (first.run server).2.trust := by
  rw [run_bind]
  rcases first.run server with ⟨fault | value, middle⟩
  · rfl
  · exact keeps value middle

/-- The verification of an envelope is one call of `verify`. -/
theorem trust_verifyEnvelope (moment : RequestMoment) (node : Peer) (body : JsonObject)
    (server : MonitorServer) :
    ((verifyEnvelope py moment node body).run server).2.trust =
      ((TrustManager.verify py (some node.id) moment.verifyNow moment.verifyLater
        (some body)).run server.trust).2 := by
  refine (trust_bind _ (fun verdict => ?_) server).trans rfl
  apply within_ite
  · exact fun _ => within_bind (within_ofOption _ _) fun signed => within_pure _
  · exact fun _ => within_bind (within_broadcast (@allows_trust py) _) fun _ => within_pure _

theorem trust_signedRequest {scope : String} {moment : RequestMoment} {request : Request}
    {next : PyStr → PyStr → SignedBody → Handler Reply}
    (keeps : ∀ node signedNode signed, KeepsTrust (next node signedNode signed))
    {server : MonitorServer} {watch : TrustManager.Watch} (same : watch.manager = server.trust) :
    ((TrustManager.watchMachine py).run watch (request.presents moment)).manager =
      ((signedRequest py scope moment request next).run server).2.trust := by
  obtain ⟨node, writeAllowed, retryAfter, body⟩ := request
  cases node with
  | none => exact same
  | some node =>
      cases retryAfter with
      | some seconds => exact same.trans (within_limitedReply (@allows_trust py) _ _ _ _ server).symm
      | none =>
          cases body with
          | none => exact same
          | some body =>
              refine Eq.trans ?_ (trust_bind _ (fun verified => ?_) server).symm
              · rw [trust_verifyEnvelope, ← same]
                rfl
              · cases verified with
                | error reason => exact within_pure _
                | ok accepted => exact keeps _ _ _

theorem trust_apiCollabLedger {moment : RequestMoment} {request : LedgerRequest}
    {server : MonitorServer} {watch : TrustManager.Watch} (same : watch.manager = server.trust) :
    ((TrustManager.watchMachine py).run watch (request.presents reader moment)).manager =
      ((apiCollabLedger py authority view reader moment request).run server).2.trust := by
  rw [LedgerRequest.presents, apiCollabLedger.eq_def]
  cases request.node with
  | none => exact same
  | some node =>
      cases request.retryAfter with
      | some seconds => exact same.trans (within_limitedReply (@allows_trust py) _ _ _ _ server).symm
      | none =>
          dsimp only
          rcases given? request.nonce with _ | nonce
          · exact same
          rcases given? request.ts with _ | ts
          · exact same
          rcases given? request.sig with _ | sig
          · exact same
          have rest := trust_bind (onTrust (TrustManager.verify py (some node.id) moment.verifyNow
            moment.verifyLater
            (some (ledgerMessage node (queryLimit reader request.limit) nonce ts sig).object)))
            (@within_pageVerified py authority view _ _ _ allows_trust moment node
              (queryLimit reader request.limit)) server
          refine Eq.trans ?_ rest.symm
          obtain ⟨manager, clock⟩ := watch
          cases same
          rfl

/-- The server refines its trust manager. -/
def trustRefinement (py : Platform) (authority : CertAuthority) (view : MeshView)
    (reader : IntReader) :
    Refinement (nodeMachine py authority view reader) (TrustManager.watchMachine py) where
  related server watch := watch.manager = server.trust
  steps _ step := step.presents reader
  preserved := by
    intro server watch step same
    cases step with
    | restart => exact congrArg TrustManager.restart same
    | page moment request => exact trust_apiCollabLedger same
    | serve step =>
        cases step with
        | touch moment nodeId => exact same
        | frame moment peer envelope =>
            have rest := trust_bind (verifyEnvelope py moment peer envelope)
              (within_frameAccepted (@allows_trust py) moment) server
            refine Eq.trans ?_ rest.symm
            rw [trust_verifyEnvelope, ← same]
            rfl
        | request moment route request =>
            refine Eq.trans ?_
              (congrArg MonitorServer.trust (respond_snd moment request route server)).symm
            rcases @handler_cases py moment request route with
              ⟨clientIp, rfl⟩ | ⟨notExport, scope, next, isHandler, allowed⟩
            · exact same.trans
                (within_apiCollabExport (@allows_trust py) moment clientIp request server).symm
            · have isSigned : NodeStep.presents reader (.serve (.request moment route request)) =
                  request.presents moment := by
                cases route with
                | «export» clientIp => exact absurd rfl (notExport clientIp)
                | relay => rfl
                | file => rfl
                | task => rfl
              rw [isSigned, isHandler]
              exact trust_signedRequest (allowed _ allows_trust) same

/-! ## What is recorded -/

abbrev NodeEvent := Event MonitorServer NodeStep NodeAnswer

/-- The envelope that a step brings to the routes that record it. -/
def NodeStep.envelope? : NodeStep → Option JsonObject
  | .serve (.request _ (.export _) _) => none
  | .serve (.request _ _ request) => request.body
  | .serve (.frame _ _ envelope) => some envelope
  | _ => none

/-- The step adds to the ledger, for an envelope with this nonce and timestamp. -/
def RecordsStamped (py : Platform) (nonce : PyStr) (ts : Binary64) (event : NodeEvent) : Prop :=
  event.after.vault.ledger ≠ event.before.vault.ledger ∧
    ∃ message, event.input.envelope? = some message ∧ TrustManager.Stamped py message nonce ts

section Records

variable {server : MonitorServer} {moment : RequestMoment}

/-- A frame that is not accepted leaves the stores as they were. -/
theorem stores_wsRelayFrame_of_refused {peer : Peer} {envelope : JsonObject}
    (refused : ¬VerifiesFor py moment peer server.trust envelope) :
    ((wsRelayFrame py moment peer envelope).run server).2.stores = server.stores := by
  obtain ⟨answers, kept⟩ := run_verifyEnvelope_of_not_verifies refused
  rcases outcome : (verifyEnvelope py moment peer envelope).run server with ⟨result, after⟩
  rw [outcome] at answers kept
  rw [wsRelayFrame]
  rcases answers with ⟨fault, rfl⟩ | ⟨reason, rfl⟩
  · rw [run_bind_error outcome]
    exact kept
  · rw [run_bind_ok outcome]
    exact kept

/-- A signed request that adds to the ledger presents an envelope that verifies. -/
theorem verifies_of_recorded {scope : String} {request : Request}
    {next : PyStr → PyStr → SignedBody → Handler Reply}
    (recorded : ((signedRequest py scope moment request next).run server).2.vault.ledger ≠
      server.vault.ledger) {message : JsonObject} (isMessage : request.body = some message) :
    ∃ node : Peer, request.presents moment =
        [.verify (some node.id) moment.verifyNow moment.verifyLater (some message)] ∧
      VerifiesFor py moment node server.trust message := by
  rcases signedRequest_cases scope moment request next server with
    ⟨node, body, signed, accepted, -, -⟩ | ⟨-, kept, -⟩
  · cases isMessage.symm.trans accepted.isBody
    refine ⟨node, ?_, accepted.verifies⟩
    rw [Request.presents, accepted.isNode, accepted.unlimited, isMessage]
  · exact absurd (congrArg (fun stores => stores.1.ledger) kept) recorded

/-- A step that records an envelope presents it to `verify`, which accepts it. -/
theorem accepts_of_records {nonce : PyStr} {ts : Binary64} {event : NodeEvent}
    (stepped : (nodeMachine py authority view reader).step event.before event.input =
      (event.output, event.after))
    (records : RecordsStamped py nonce ts event) {watch : TrustManager.Watch}
    (same : watch.manager = event.before.trust) :
    ∃ step ∈ (TrustManager.watchMachine py).trace watch (event.input.presents reader),
      TrustManager.AcceptsStamped py nonce ts step := by
  obtain ⟨before, input, output, after⟩ := event
  obtain ⟨recorded, message, isMessage, stamped⟩ := records
  have isAfter : ((nodeMachine py authority view reader).step before input).2 = after :=
    congrArg Prod.snd stepped
  dsimp only at recorded isMessage same isAfter ⊢
  rw [← isAfter] at recorded
  clear stepped isAfter
  have presented : ∃ (node : Peer) (moment : RequestMoment),
      input.presents reader =
        [.verify (some node.id) moment.verifyNow moment.verifyLater (some message)] ∧
      VerifiesFor py moment node before.trust message := by
    cases input with
    | restart => cases isMessage
    | page moment request => cases isMessage
    | serve step =>
        cases step with
        | touch moment nodeId => cases isMessage
        | frame moment peer envelope =>
            cases isMessage
            refine ⟨peer, moment, rfl, ?_⟩
            by_contra refused
            exact recorded (congrArg (fun stores => stores.1.ledger)
              (stores_wsRelayFrame_of_refused refused))
        | request moment route request =>
            have changed : ((route.handler py moment request).run before).2.vault.ledger ≠
                before.vault.ledger := by
              rw [← respond_snd]
              exact recorded
            cases route with
            | «export» clientIp => cases isMessage
            | relay =>
                obtain ⟨node, presents, verifies⟩ := verifies_of_recorded changed isMessage
                exact ⟨node, moment, presents, verifies⟩
            | file =>
                obtain ⟨node, presents, verifies⟩ := verifies_of_recorded changed isMessage
                exact ⟨node, moment, presents, verifies⟩
            | task =>
                obtain ⟨node, presents, verifies⟩ := verifies_of_recorded changed isMessage
                exact ⟨node, moment, presents, verifies⟩
  obtain ⟨node, moment, presents, verifies⟩ := presented
  rw [presents]
  refine ⟨_, List.mem_singleton_self _, ?_⟩
  rw [← same] at verifies
  exact ⟨_, _, _, _, _, rfl, rfl, verifies, stamped⟩

end Records

/-- An envelope that a node has recorded is not recorded again: not by another route, not over
the websocket and not after a restart. -/
theorem recorded_once {start : MonitorServer} {inputs : List NodeStep} {clock : Binary64}
    (window : 0 ≤ start.trust.replayWindow) (distinct : start.trust.Distinct)
    (onward : (TrustManager.watchMachine py).Allowed TrustManager.ClockOnward ⟨start.trust, clock⟩
      ((trustRefinement py authority view reader).inputs start inputs))
    (room : (TrustManager.watchMachine py).Allowed (TrustManager.HasRoom py) ⟨start.trust, clock⟩
      ((trustRefinement py authority view reader).inputs start inputs))
    {nonce : PyStr} {ts : Binary64} {past future : List NodeEvent} {event : NodeEvent}
    (split : (nodeMachine py authority view reader).trace start inputs = past ++ event :: future)
    (records : RecordsStamped py nonce ts event) :
    ∀ later ∈ future, ¬RecordsStamped py nonce ts later := by
  intro later member again
  have steps : ∀ other ∈ event :: future,
      (nodeMachine py authority view reader).step other.before other.input =
        (other.output, other.after) := by
    intro other isOther
    have inTrace : other ∈ (nodeMachine py authority view reader).trace start inputs := by
      rw [split]
      exact List.mem_append_right _ isOther
    exact Machine.step_of_mem_trace inTrace
  have related : (trustRefinement py authority view reader).related start ⟨start.trust, clock⟩ := rfl
  obtain ⟨before, here, after, same, calls, laterCalls⟩ := Refinement.trace_split related split
  obtain ⟨step, isStep, accepts⟩ :=
    accepts_of_records (steps event List.mem_cons_self) records same
  obtain ⟨there, sameThere, within⟩ := laterCalls later member
  obtain ⟨second, isSecond, acceptsAgain⟩ :=
    accepts_of_records (steps later (List.mem_cons_of_mem _ member)) again sameThere
  obtain ⟨early, late, isCalls⟩ := List.append_of_mem isStep
  rw [show (trustRefinement py authority view reader).steps event.before event.input =
    event.input.presents reader from rfl, isCalls, List.append_assoc, List.append_assoc,
    List.cons_append] at calls
  rw [← List.append_assoc] at calls
  exact TrustManager.not_accepts_after ⟨window, distinct⟩ (Machine.allowed_and _ onward room) calls
    accepts second (List.mem_append_right _ (within second isSecond)) acceptsAgain

/-- A greeting over HTTP, and again over the websocket after a restart. -/
def greetings (envelope : JsonObject) : List NodeStep :=
  [.serve (.request .epoch .relay (relayRequest nodeA envelope)), .restart,
    .serve (.frame .epoch nodeA envelope)]

/-- The first greeting is recorded and the second is not. -/
theorem recorded_once_greeting :
    ∃ envelope : JsonObject, ∃ event future,
      (nodeMachine .plain sealing bareView jsonReader).trace (.idle []) (greetings envelope) =
        [] ++ event :: future ∧
      RecordsStamped .plain (lit "n") zeroTime event ∧ future.length = 2 ∧
      ∀ later ∈ future, ¬RecordsStamped .plain (lit "n") zeroTime later := by
  obtain ⟨envelope, signed, stamped, isGenuine⟩ := TrustManager.exists_genuine_hello
  have genuine := isGenuine (some (lit "a")) (by simp)
  have verifies : VerifiesFor .plain .epoch nodeA (MonitorServer.idle []).trust envelope.object :=
    TrustManager.accepts_verify_iff.mpr ⟨_, _, _, genuine, rfl⟩
  obtain ⟨accepted, fields, vouched, -⟩ := vouched_of_verifies verifies
  have body : AcceptedBody .plain .epoch (relayRequest nodeA envelope.object)
      (MonitorServer.idle []).trust nodeA envelope.object accepted :=
    ⟨rfl, rfl, rfl, verifies, fields⟩
  have recorded : (respond .plain .epoch (relayRequest nodeA envelope.object) .relay
      (.idle [])).2.vault.ledger ≠ (MonitorServer.idle []).vault.ledger := by
    rw [respond_snd, Route.handler, vault_apiRelay body]
    exact recorded_appendEvent_iff.mpr ⟨chainVerified_fresh [], vouched.canonical _⟩
  have records : ∀ output, RecordsStamped .plain (lit "n") zeroTime
      ⟨.idle [], .serve (.request .epoch .relay (relayRequest nodeA envelope.object)), output,
        (respond .plain .epoch (relayRequest nodeA envelope.object) .relay (.idle [])).2⟩ :=
    fun output => ⟨recorded, envelope.object, rfl, stamped⟩
  refine ⟨envelope.object, _, _, rfl, records _, rfl, ?_⟩
  exact @recorded_once .plain sealing bareView jsonReader (.idle []) (greetings envelope.object)
    zeroTime (by decide) ⟨List.nodup_nil, List.nodup_nil⟩
    ⟨⟨le_rfl, le_rfl⟩, trivial, ⟨le_rfl, le_rfl⟩, trivial⟩ (TrustManager.room_of_genuine genuine)
    _ _ [] _ _ rfl (records _)

end HermesMesh.Server
