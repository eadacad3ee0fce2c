import HermesMesh.Collab.Vault.Journal
import HermesMesh.Collab.Vault.Revoked
import HermesMesh.Server.Node

/-!
# The vault of a node

A run of a node is a run of calls on its vault, so that what lasts there lasts under requests,
frames and restarts: the ledger only grows, the messages are read off it as long as they are
saved, and no revoked node becomes active again as long as no task takes the place of the state.
-/

namespace HermesMesh.Server

open Python Foundation Foundation.Action Collab MonitorServer

variable {py : Platform} {authority : CertAuthority} {view : MeshView} {reader : IntReader}

/-- Calls lead from the vault before to the vault after. -/
def CallsOf (py : Platform) (before after : MonitorServer) : Prop :=
  ∃ calls, after.vault = (storeMachine py).run before.vault calls

theorem callsOf_of_vault {before after : MonitorServer} (same : after.vault = before.vault) :
    CallsOf py before after :=
  ⟨[], same⟩

theorem callsOf_trans {first second third : MonitorServer} (before : CallsOf py first second)
    (after : CallsOf py second third) : CallsOf py first third := by
  obtain ⟨early, isSecond⟩ := before
  obtain ⟨late, isThird⟩ := after
  exact ⟨early ++ late, by rw [isThird, isSecond, Machine.run_append]⟩

instance : Std.Refl (CallsOf py) := ⟨fun _ => callsOf_of_vault rfl⟩

instance : IsTrans MonitorServer (CallsOf py) := ⟨fun _ _ _ => callsOf_trans⟩

theorem allows_callsOf : Allows py (CallsOf py) :=
  ⟨fun _ _ same _ => callsOf_of_vault same, fun call _ => ⟨[call], rfl⟩⟩

/-! ## One step -/

theorem vault_verifyEnvelope (moment : RequestMoment) (node : Peer) (body : JsonObject) :
    Within (Agree MonitorServer.vault) (verifyEnvelope py moment node body) := by
  refine within_bind (fun _ => rfl) fun verdict => ?_
  apply within_ite
  · exact fun _ => within_bind (within_ofOption _ _) fun signed => within_pure _
  · exact fun _ => within_bind (fun _ => rfl) fun _ => within_pure _

theorem within_verifyEnvelope (moment : RequestMoment) (node : Peer) (body : JsonObject) :
    Within (CallsOf py) (verifyEnvelope py moment node body) :=
  fun server => callsOf_of_vault (vault_verifyEnvelope moment node body server)

theorem within_signedRequest {scope : String} {moment : RequestMoment} {request : Request}
    {next : PyStr → PyStr → SignedBody → Handler Reply}
    (rest : ∀ node signedNode signed, Within (CallsOf py) (next node signedNode signed)) :
    Within (CallsOf py) (signedRequest py scope moment request next) := by
  unfold signedRequest
  split
  · exact within_pure _
  · exact within_limitedReply allows_callsOf _ _ _ _
  · exact within_pure _
  · refine within_bind (within_verifyEnvelope _ _ _) fun verified => ?_
    cases verified with
    | error reason => exact within_pure _
    | ok accepted => exact rest _ _ _

theorem within_handler (moment : RequestMoment) (request : Request) (route : Route) :
    Within (CallsOf py) (route.handler py moment request) := by
  rcases @handler_cases py moment request route with
    ⟨clientIp, rfl⟩ | ⟨-, scope, next, isHandler, allowed⟩
  · exact within_apiCollabExport allows_callsOf _ _ _
  · rw [isHandler]
    exact within_signedRequest (allowed _ allows_callsOf)

theorem within_apiCollabLedger (moment : RequestMoment) (request : LedgerRequest) :
    Within (CallsOf py) (apiCollabLedger py authority view reader moment request) := by
  unfold apiCollabLedger
  split
  · exact within_pure _
  · exact within_limitedReply allows_callsOf _ _ _ _
  · split
    · refine within_bind (fun server => callsOf_of_vault rfl) fun verdict => ?_
      exact within_pageVerified allows_callsOf _ _ _ _
    · exact within_pure _

theorem callsOf_step (server : MonitorServer) (step : NodeStep) :
    CallsOf py server ((nodeMachine py authority view reader).step server step).2 := by
  cases step with
  | restart => exact ⟨[.reopen], rfl⟩
  | page moment request => exact within_apiCollabLedger moment request server
  | serve step =>
      cases step with
      | touch moment nodeId => exact allows_callsOf.calls (.touchNode moment nodeId) server
      | frame moment peer envelope =>
          exact within_bind (within_verifyEnvelope moment peer envelope)
            (within_frameAccepted allows_callsOf moment) server
      | request moment route request =>
          have handled := @within_handler py moment request route server
          rw [← respond_snd] at handled
          exact handled

/-! ## Runs -/

theorem callsOf_run (server : MonitorServer) (steps : List NodeStep) :
    CallsOf py server ((nodeMachine py authority view reader).run server steps) := by
  induction steps generalizing server with
  | nil => exact callsOf_of_vault rfl
  | cons step rest ih => exact callsOf_trans (callsOf_step server step) (ih _)

/-- A run of a node does to its vault what some calls do.  So entries that the vault holds stay
where they are and those that the calls record come behind them, with their messages where the
calls keep them, and a node that is revoked is never active again where the calls spare
`state.json`. -/
theorem vault_run (server : MonitorServer) (steps : List NodeStep) :
    let after := (nodeMachine py authority view reader).run server steps
    ∃ calls, after.vault = (storeMachine py).run server.vault calls ∧
      (∀ entries, HoldsEntries entries server.vault →
        HoldsEntries (entries ++ (journalRefinement py).inputs server.vault calls) after.vault) ∧
      (∀ entries, Journaled entries server.vault →
        (storeMachine py).Allowed (StoreCall.KeepsMessages py) server.vault calls →
          Journaled (entries ++ (journalRefinement py).inputs server.vault calls) after.vault) ∧
      ∀ nodeId, Barred nodeId server.vault →
        (storeMachine py).Allowed (StoreCall.Spares py) server.vault calls →
          Barred nodeId after.vault := by
  intro after
  obtain ⟨calls, isAfter⟩ := @callsOf_run py authority view reader server steps
  refine ⟨calls, isAfter, ?_, ?_, ?_⟩
  · intro entries holds
    rw [isAfter]
    exact holds_run holds calls
  · intro entries journaled keeps
    rw [isAfter]
    exact ⟨holds_run journaled.holds calls, messages_run journaled.messages keeps⟩
  · intro nodeId barred spare
    rw [isAfter]
    exact barred_run barred spare

end HermesMesh.Server
