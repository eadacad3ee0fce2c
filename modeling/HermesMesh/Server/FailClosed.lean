import HermesMesh.Foundation.Machine
import HermesMesh.Server.Forwarding

/-!
# A server whose audit chain does not verify

Every route that changes the vault looks at the chain before its first change, and
refuses where it does not verify.  What is left behind is the finding itself, which is not
part of the files that the chain is computed from: the server stays closed.
-/

namespace HermesMesh.Server

open Python Foundation Foundation.Action Collab MonitorServer

variable {py : Platform}

/-- What a request would change. -/
structure Kept where
  ledger : ByteArray
  audit : ByteArray
  taskFolders : List FileAction
  tasks : TaskStatus → List JsonObject
  messages : List Message
  files : List (Path × PyStr)

def Kept.ofStores (stores : CollabVault × List (Path × PyStr)) : Kept where
  ledger := stores.1.ledger
  audit := stores.1.audit
  taskFolders := stores.1.fileLog
  tasks := stores.1.state.tasks
  messages := stores.1.state.messages
  files := stores.2

def MonitorServer.kept (server : MonitorServer) : Kept := .ofStores server.stores

theorem chainVerified_of_kept {before after : MonitorServer} (kept : after.kept = before.kept) :
    after.vault.chainVerified py = before.vault.chainVerified py := by
  have ledger : after.vault.ledger = before.vault.ledger := congrArg Kept.ledger kept
  have audit : after.vault.audit = before.vault.audit := congrArg Kept.audit kept
  rw [CollabVault.chainVerified, CollabVault.chainVerified, ledger, audit]

/-! ## The routes -/

/-- Nothing is changed, and a mutation is not answered with `ok`. -/
structure Refuses (server : MonitorServer) (mutates : Prop)
    (outcome : Except Fault Reply × MonitorServer) : Prop where
  kept : outcome.2.kept = server.kept
  notOk : mutates → ¬Succeeds outcome

section Tampered

variable {server : MonitorServer} (tampered : server.vault.chainVerified py = false)

theorem refuses_signedRequest {scope : String} {moment : RequestMoment} {request : Request}
    {next : PyStr → PyStr → SignedBody → Handler Reply} {mutates : Prop}
    (continues : ∀ node body signed, AcceptedBody py moment request server.trust node body signed →
      Refuses server mutates
        ((next node.id node.id signed).run (server.afterVerify py moment node body))) :
    Refuses server mutates ((signedRequest py scope moment request next).run server) := by
  rcases signedRequest_cases scope moment request next server with
    ⟨node, body, signed, accepted, -, same⟩ | ⟨-, kept, notOk⟩
  · rw [same]
    exact continues node body signed accepted
  · exact ⟨congrArg Kept.ofStores kept, fun _ => notOk⟩

/-- What raises and changes nothing is a refusal, however the rest answers it. -/
theorem refuses_attempt {α : Type} {before after : MonitorServer} {action : Handler α} {fault : Fault}
    (failed : action.run server = (.error fault, after)) (kept : after.kept = before.kept)
    {rest : Except String α → Handler Reply}
    (onError : ∀ reason, rest (.error reason) = pure (rejectedReply 503 reason)) (mutates : Prop) :
    Refuses before mutates ((action.attempt vaultMessage? >>= rest).run server) := by
  rw [run_bind, run_attempt, failed, attempted]
  cases vaultMessage? fault with
  | none => exact ⟨kept, fun _ => not_succeeds_of_error _ _⟩
  | some reason =>
      change Refuses before mutates ((rest (.error reason)).run after)
      rw [onError]
      exact ⟨kept, fun _ => not_succeeds_of_reply (not_isOk_of_status (by decide)) _⟩

/-- The finding is not among what is kept. -/
theorem kept_foundTampered (server : MonitorServer) :
    (server.withVault server.vault.foundTampered).kept = server.kept := by
  rcases CollabVault.foundTampered_cases server.vault with same | same
  · rw [same]
    rfl
  · rw [same]
    rfl

include tampered

theorem run_append_of_tampered (moment : Moment) (node op : PyStr) (payload : JsonObject)
    (sig : PyStr) :
    (onVault (CollabVault.appendEvent py moment node op payload sig)).run server =
      (.error server.vault.tamperedFault, server.withVault server.vault.foundTampered) := by
  rw [run_onVault, run_appendEvent_tampered tampered]

theorem refuses_relay (moment : RequestMoment) (request : Request) :
    Refuses server True ((apiRelay py moment request).run server) := by
  apply refuses_signedRequest
  intro node body signed _
  have refused := @run_append_of_tampered py (server.afterVerify py moment node body) tampered
    moment.append node.id signed.op signed.payload signed.sig
  exact refuses_attempt refused (kept_foundTampered server) (fun _ => rfl) True

/-- A route that checks the chain first goes no further. -/
theorem refuses_clean {before : MonitorServer} (same : server.kept = before.kept)
    {rest : Except String Unit → Handler Reply}
    (onError : ∀ reason, rest (.error reason) = pure (rejectedReply 503 reason)) (mutates : Prop) :
    Refuses before mutates
      (((onVault (CollabVault.ensureAuditClean py)).attempt vaultMessage? >>= rest).run server) := by
  have refused : (onVault (CollabVault.ensureAuditClean py)).run server =
      (.error server.vault.tamperedFault, server.withVault server.vault.foundTampered) := by
    rw [run_onVault, CollabVault.run_ensureAuditClean_of_tampered tampered]
  exact refuses_attempt refused ((kept_foundTampered server).trans same) onError mutates

theorem refuses_task (moment : RequestMoment) (request : Request) :
    Refuses server True ((apiCollabTask py moment request).run server) := by
  apply refuses_signedRequest
  intro node body signed _
  by_cases isTask : signed.op = lit "task"
  case neg =>
    rw [if_neg isTask]
    exact ⟨rfl, fun _ => not_succeeds_of_reply (not_isOk_of_status (by decide)) _⟩
  rw [if_pos isTask]
  dsimp only
  cases requestedTask node.id
      (signed.payload.getValueD (lit "action") (.ofText (lit "create"))).val signed.payload with
  | error fault => exact ⟨rfl, fun _ => not_succeeds_of_error _ _⟩
  | ok task =>
      rw [run_bind_ok (run_ofExcept _ _)]
      have stillTampered : (server.afterVerify py moment node body).vault.chainVerified py = false :=
        tampered
      apply @refuses_clean py _ stillTampered server rfl
      intro reason
      rfl

/-- The request asks for the content of a file. -/
def Request.Reads (request : Request) : Prop :=
  ∃ body signed, request.body = some body ∧ signedBody? body = some signed ∧
    signed.payload.getD (lit "action") (.str (lit "read")) = .str (lit "read")

theorem refuses_fileAction (moment : RequestMoment) (node : PyStr) (signed : SignedBody) :
    Refuses server (signed.payload.getD (lit "action") (.str (lit "read")) ≠ .str (lit "read"))
      ((fileAction py moment node signed).run server) := by
  unfold fileAction
  dsimp only
  by_cases reads : (signed.payload.getD (lit "action") (.str (lit "read"))).pyEq
      (.str (lit "read")) = true
  · rw [if_pos reads]
    exact ⟨rfl, fun mutates => absurd (pyEq_str_iff.mp reads) mutates⟩
  rw [if_neg reads]
  split
  · exact refuses_clean tampered rfl (fun _ => rfl) _
  · exact ⟨rfl, fun _ => not_succeeds_of_reply (not_isOk_of_status (by decide)) _⟩

theorem refuses_file (moment : RequestMoment) (request : Request) :
    Refuses server (¬request.Reads) ((apiCollabFile py moment request).run server) := by
  apply refuses_signedRequest
  intro node body signed accepted
  by_cases isFile : signed.op = lit "file_update"
  case neg =>
    rw [if_neg isFile]
    exact ⟨rfl, fun _ => not_succeeds_of_reply (not_isOk_of_status (by decide)) _⟩
  rw [if_pos isFile]
  obtain ⟨kept, notOk⟩ := @refuses_fileAction py (server.afterVerify py moment node body) tampered
    moment node.id signed
  rw [run_bind, run_attempt]
  generalize (fileAction py moment node.id signed).run (server.afterVerify py moment node body) =
    outcome at kept notOk ⊢
  obtain ⟨fault | reply, after⟩ := outcome
  · cases caught : vaultMessage? fault with
    | none =>
        rw [attempted, caught]
        exact ⟨kept, fun _ => not_succeeds_of_error _ _⟩
    | some reason =>
        rw [attempted, caught]
        exact ⟨kept, fun _ => not_succeeds_of_reply (not_isOk_of_status (by decide)) _⟩
  · refine ⟨kept, fun mutates => notOk fun reads => mutates ?_⟩
    exact ⟨body, signed, accepted.isBody, accepted.fields, reads⟩

theorem refuses_export (moment : RequestMoment) (clientIp : PyStr) (request : Request) :
    Refuses server True ((apiCollabExport py moment clientIp request).run server) := by
  unfold apiCollabExport
  split
  case isFalse => exact ⟨rfl, fun _ => not_succeeds_of_reply (not_isOk_of_status (by decide)) _⟩
  split
  · exact ⟨rfl, fun _ => not_succeeds_of_reply (not_isOk_of_status (by decide)) _⟩
  · exact ⟨rfl, fun _ => not_succeeds_of_reply (not_isOk_of_status (by decide)) _⟩
  rw [run_bind_ok (run_read _)]
  split
  · exact ⟨rfl, fun _ => not_succeeds_of_reply (not_isOk_of_status (by decide)) _⟩
  · next task _ =>
      cases exported : exportedTask task with
      | error fault =>
          have failed : (exportAndRecord py moment task).run server = (.error fault, server) := by
            rw [exportAndRecord, exported]
            exact run_bind_error (run_ofExcept _ _) _
          rw [failed]
          exact ⟨rfl, fun _ => not_succeeds_of_error _ _⟩
      | ok source =>
          have refused := @run_storeExport_of_tampered py moment source server tampered
          rw [exportAndRecord, exported, run_bind_ok (run_ofExcept _ _)]
          exact refuses_attempt refused (kept_foundTampered server) (fun _ => rfl) True

end Tampered

/-! ## Runs -/

/-- What the server is asked to do.  Authentication of a node ends in `touch_node`. -/
inductive ServerStep where
  | request (moment : RequestMoment) (route : Route) (request : Request)
  | frame (moment : RequestMoment) (peer : Peer) (envelope : JsonObject)
  | touch (moment : Moment) (nodeId : PyStr)

inductive ServerAnswer where
  | reply (reply : Reply)
  | accepted (entry : Except Fault (Option LedgerEntry))
  | touched

/-- Requests, frames and the traces of authentications, one after the other. -/
def serverMachine (py : Platform) : Machine MonitorServer ServerStep ServerAnswer where
  step
    | server, .request moment route request =>
        let (reply, after) := respond py moment request route server
        (.reply reply, after)
    | server, .frame moment peer envelope =>
        let (entry, after) := (wsRelayFrame py moment peer envelope).run server
        (.accepted entry, after)
    | server, .touch moment nodeId =>
        (.touched, ((onVault (CollabVault.touchNode moment nodeId)).run server).2)

/-- The step asks for a change: it does not ask for the content of a file. -/
def ServerStep.Mutates : ServerStep → Prop
  | .request _ .file asked => ¬asked.Reads
  | .request _ _ _ | .frame _ _ _ => True
  | .touch _ _ => False

def ServerAnswer.Refusal : ServerAnswer → Prop
  | .reply answer => ¬answer.isOk
  | .accepted entry => ∀ stored, entry ≠ .ok (some stored)
  | .touched => True

theorem kept_respond (moment : RequestMoment) (request : Request) (route : Route)
    {server : MonitorServer} {mutates : Prop}
    (refuses : Refuses server mutates ((route.handler py moment request).run server)) :
    (respond py moment request route server).2.kept = server.kept ∧
      (mutates → ¬(respond py moment request route server).1.isOk) := by
  rw [isOk_respond_iff]
  refine ⟨?_, refuses.notOk⟩
  have kept := refuses.kept
  unfold respond
  split <;> next ran => rw [ran] at kept; exact kept

theorem kept_touchNode (moment : Moment) (nodeId : PyStr) (server : MonitorServer) :
    ((onVault (CollabVault.touchNode moment nodeId)).run server).2.kept = server.kept := by
  have saves : Within (Agree fun vault : CollabVault => Kept.ofStores (vault, server.fileWrites))
      CollabVault.saveState := CollabVault.within_saveState fun _ => rfl
  rw [run_onVault, CollabVault.touchNode, run_bind_ok (run_read _)]
  cases server.vault.state.nodes.get? nodeId with
  | none => rfl
  | some node =>
      dsimp only
      rw [run_bind_ok (run_modify _ _)]
      exact saves (CollabVault.setNode nodeId { node with lastSeen := moment.now.text } server.vault)

section Sealed

variable {server : MonitorServer} (tampered : server.vault.chainVerified py = false)

include tampered

theorem kept_wsRelayFrame (moment : RequestMoment) (peer : Peer) (envelope : JsonObject) :
    ((wsRelayFrame py moment peer envelope).run server).2.kept = server.kept ∧
      ∀ stored, ((wsRelayFrame py moment peer envelope).run server).1 ≠ .ok (some stored) := by
  by_cases verifies : VerifiesFor py moment peer server.trust envelope
  · obtain ⟨signed, -, -, verified⟩ := run_verifyEnvelope_of_verifies verifies
    have refused := @run_append_of_tampered py (server.afterVerify py moment peer envelope)
      tampered moment.append peer.id signed.op signed.payload signed.sig
    have kept : ((server.afterVerify py moment peer envelope).withVault
        (server.afterVerify py moment peer envelope).vault.foundTampered).kept = server.kept :=
      kept_foundTampered (server.afterVerify py moment peer envelope)
    rw [wsRelayFrame, run_bind_ok verified]
    dsimp only
    generalize (server.afterVerify py moment peer envelope).withVault
      (server.afterVerify py moment peer envelope).vault.foundTampered = after at refused kept
    generalize (server.afterVerify py moment peer envelope).vault.tamperedFault = fault at refused
    rw [run_bind, run_attempt, refused, attempted]
    cases vaultMessage? fault with
    | none => exact ⟨kept, fun stored impossible => by cases impossible⟩
    | some reason => exact ⟨kept, fun stored impossible => by cases impossible⟩
  · obtain ⟨refused, kept⟩ := run_verifyEnvelope_of_not_verifies verifies
    rcases outcome : (verifyEnvelope py moment peer envelope).run server with ⟨result, after⟩
    rw [outcome] at refused kept
    rw [wsRelayFrame]
    rcases refused with ⟨fault, rfl⟩ | ⟨reason, rfl⟩
    · rw [run_bind_error outcome]
      refine ⟨congrArg Kept.ofStores kept, fun stored impossible => ?_⟩
      cases impossible
    · rw [run_bind_ok outcome]
      refine ⟨congrArg Kept.ofStores kept, fun stored impossible => ?_⟩
      cases impossible

/-- A step leaves a server whose chain does not verify as it was, and refuses to change it. -/
theorem kept_step (input : ServerStep) :
    ((serverMachine py).step server input).2.kept = server.kept ∧
      (input.Mutates → ((serverMachine py).step server input).1.Refusal) := by
  cases input with
  | request moment route request =>
      cases route with
      | relay =>
          exact kept_respond moment request .relay (refuses_relay tampered moment request)
      | file => exact kept_respond moment request .file (refuses_file tampered moment request)
      | task => exact kept_respond moment request .task (refuses_task tampered moment request)
      | «export» clientIp =>
          exact kept_respond moment request (.export clientIp)
            (refuses_export tampered moment clientIp request)
  | frame moment peer envelope =>
      obtain ⟨kept, refused⟩ := kept_wsRelayFrame tampered moment peer envelope
      exact ⟨kept, fun _ => refused⟩
  | touch moment nodeId =>
      exact ⟨kept_touchNode moment nodeId server, fun _ => trivial⟩

end Sealed

/-- A server whose audit chain does not verify keeps everything as it is through every run,
and refuses every mutation. -/
theorem failClosed {server : MonitorServer} (tampered : server.vault.chainVerified py = false)
    (steps : List ServerStep) :
    ((serverMachine py).run server steps).kept = server.kept ∧
      ∀ event ∈ (serverMachine py).trace server steps, event.input.Mutates → event.output.Refusal := by
  have always : (serverMachine py).Allowed (fun _ _ => True) server steps :=
    (serverMachine py).allowed_of_forall (fun _ _ _ => trivial) server
  have preserved : ∀ state input, state.kept = server.kept → True →
      ((serverMachine py).step state input).2.kept = server.kept := by
    intro state input kept _
    exact (kept_step ((chainVerified_of_kept kept).trans tampered) input).1.trans kept
  constructor
  · exact Machine.run_invariant (fun _ _ => True) (fun state => state.kept = server.kept) preserved
      rfl always
  · refine Machine.trace_invariant (fun _ _ => True) (fun state => state.kept = server.kept) preserved
      (fun state input kept _ => ?_) rfl always
    exact (kept_step ((chainVerified_of_kept kept).trans tampered) input).2

/-- A server with a task in its local queue, whose ledger is not even text. -/
def tamperedServer : MonitorServer :=
  { MonitorServer.idle [] with
    vault := { CollabVault.fresh [] with ledger := ⟨#[255]⟩ }
    localTasks := [⟨.ofText (lit "x"), .ofText (lit "t"), .ofText [], .ofText (lit "pending")⟩] }

/-- What is asked of it: the export of that task, after the authentication of a node. -/
def exportAfterTouch : List ServerStep :=
  [.touch .epoch (lit "a"), .request .epoch (.export (lit "a"))
    ⟨none, true, none, some (JsonObject.empty.setText (lit "task_id") (lit "x"))⟩]

/-- It is refused because of the ledger. -/
example : (((serverMachine .plain).trace tamperedServer exportAfterTouch).map Event.output).getLast? =
    some (.reply (rejectedReply 503 "audit chain tampered")) := by
  rfl

theorem failClosed_tamperedServer :
    ((serverMachine .plain).run tamperedServer exportAfterTouch).kept = tamperedServer.kept ∧
      ∀ event ∈ (serverMachine .plain).trace tamperedServer exportAfterTouch,
        event.input.Mutates → event.output.Refusal :=
  failClosed (by decide +kernel) exportAfterTouch

end HermesMesh.Server
