import HermesMesh.Collab.Vault.Calls
import HermesMesh.Server.FailClosed
import HermesMesh.Server.LedgerPage

/-!
# A node of the mesh

Requests, pages of the ledger, frames and restarts, one after the other.  The handlers change
the vault by its calls only, and the trust manager by verifying an envelope before anything
else; a relation between the servers before and after that allows for the calls holds of
everything else that the handlers do.
-/

namespace HermesMesh.Server

open Python Foundation Foundation.Action Collab MonitorServer

variable {py : Platform} {authority : CertAuthority} {view : MeshView} {reader : IntReader}

/-! ## The machine -/

/-- What happens at a node. -/
inductive NodeStep where
  | serve (step : ServerStep)
  | page (moment : RequestMoment) (request : LedgerRequest)
  | restart

inductive NodeAnswer where
  | served (answer : ServerAnswer)
  | page (reply : Except Fault Reply)
  | restarted

/-- A new process over the same directory. -/
def MonitorServer.restart (server : MonitorServer) : MonitorServer :=
  { server with
    vault := server.vault.reopen
    trust := server.trust.restart
    links := []
    dispatched := []
    broadcasts := [] }

def nodeMachine (py : Platform) (authority : CertAuthority) (view : MeshView) (reader : IntReader) :
    Machine MonitorServer NodeStep NodeAnswer where
  step
    | server, .serve step =>
        let (answer, after) := (serverMachine py).step server step
        (.served answer, after)
    | server, .page moment request =>
        let (reply, after) := (apiCollabLedger py authority view reader moment request).run server
        (.page reply, after)
    | server, .restart => (.restarted, server.restart)

theorem respond_snd (moment : RequestMoment) (request : Request) (route : Route)
    (server : MonitorServer) :
    (respond py moment request route server).2 =
      ((route.handler py moment request).run server).2 := by
  unfold respond
  split
  · next ran => rw [ran]
  · next ran => rw [ran]

/-! ## What handlers change -/

/-- The relation allows for the calls of the vault and for all that leaves both the vault and
the trust manager alone. -/
structure Allows (py : Platform) (related : MonitorServer → MonitorServer → Prop) : Prop where
  others : ∀ before after, after.vault = before.vault → after.trust = before.trust →
    related before after
  calls : ∀ (call : StoreCall) server,
    related server (server.withVault ((storeMachine py).step server.vault call).2)

section Calls

variable {related : MonitorServer → MonitorServer → Prop} (allows : Allows py related)

include allows

theorem within_broadcast (payload : Broadcast) : Within related (broadcast payload) :=
  fun server => allows.others server _ rfl rfl

/-- The calls of the vault, whose results are looked at. -/
theorem within_called {α : Type} {action : Action CollabVault Fault α} {call : StoreCall}
    (isCall : CollabVault.perform py call = action >>= fun _ => pure ()) :
    Within related (onVault action) := by
  intro server
  have called := allows.calls call server
  rw [step_of_perform isCall] at called
  exact called

theorem within_appendEvent (moment : Moment) (node op : PyStr) (payload : JsonObject) (sig : PyStr) :
    Within related (onVault (CollabVault.appendEvent py moment node op payload sig)) :=
  @within_called py related allows _ _ (.appendEvent moment node op payload sig) rfl

theorem within_upsertTask (moment : Moment) (task : JsonObject) :
    Within related (onVault (CollabVault.upsertTask py moment task)) :=
  @within_called py related allows _ _ (.upsertTask moment task) rfl

theorem within_auditStatus : Within related (onVault (CollabVault.auditStatus py)) :=
  @within_called py related allows _ _ .auditStatus rfl

theorem within_ensureAuditClean : Within related (onVault (CollabVault.ensureAuditClean py)) :=
  fun server => allows.calls .ensureAuditClean server

end Calls

section Handlers

variable {related : MonitorServer → MonitorServer → Prop} [Std.Refl related]
  [IsTrans MonitorServer related] (allows : Allows py related)

include allows

omit [Std.Refl related] in
theorem within_announce (moment : RequestMoment) (entry : LedgerEntry) :
    Within related (announce moment entry) :=
  within_bind (within_broadcast allows _) fun _ => within_broadcast allows _

theorem within_forwardIfReady (moment : RequestMoment) (index : Nat) (op : PyStr)
    (payload : JsonObject) : Within related (forwardIfReady py moment index op payload) := by
  refine within_bind within_read fun server => ?_
  apply within_ite
  · intro ready
    refine within_bind (within_bind within_read fun server => ?_) fun _ => within_pure _
    split
    · exact within_pure _
    · refine within_bind (within_ofExcept _) fun message => ?_
      refine within_bind (within_modify fun server => ?_) fun _ => within_pure _
      exact allows.others server _ rfl rfl
  · intro notReady
    exact within_pure _

theorem within_relayForward (moment : RequestMoment) (op : PyStr) (payload : JsonObject) :
    Within related (relayForward py moment op payload) := by
  have links : ∀ (links : Dict PyStr Bool) (index : Nat),
      Within related (forwardLinks py moment op payload index links) := by
    intro links
    induction links with
    | nil => exact fun _ => within_pure ()
    | cons link rest ih =>
        intro index
        apply within_ite
        · exact fun _ => ih (index + 1)
        · intro _
          exact within_bind (within_quietly (within_forwardIfReady allows _ _ _ _))
            fun _ => ih (index + 1)
  refine within_bind within_read fun server => ?_
  refine within_bind (links _ _) fun _ => ?_
  exact within_ite (fun _ => within_forwardIfReady allows _ _ _ _) fun _ => within_pure ()

theorem within_relayAccepted (moment : RequestMoment) (signed : SignedBody) (entry : LedgerEntry) :
    Within related (relayAccepted py moment signed entry) := by
  refine within_bind (within_announce allows _ _) fun _ => ?_
  refine within_bind ?message fun _ => ?_
  case message => exact within_ite (fun _ => within_broadcast allows _) fun _ => within_pure _
  exact within_bind (within_quietly (within_relayForward allows _ _ _)) fun _ => within_pure _

theorem within_limitedReply (moment : RequestMoment) (scope : String) (identity : PyStr)
    (retryAfter : Int) : Within related (limitedReply moment scope identity retryAfter) :=
  within_bind (within_broadcast allows _) fun _ => within_pure _

theorem within_writeAndRecord (moment : RequestMoment) (node : PyStr) (path content : Json)
    (sig : PyStr) : Within related (writeAndRecord py moment node path content sig) := by
  refine within_bind ?write fun written => ?_
  case write =>
    refine within_bind (within_ofExcept _) fun content => ?_
    refine within_bind (within_ofExcept _) fun parts => ?_
    apply within_ite
    · exact fun _ => within_raise _
    · intro _
      refine within_bind (within_modify fun server => ?_) fun _ => within_pure _
      exact allows.others server _ rfl rfl
  refine within_bind (within_attempt (within_appendEvent allows _ _ _ _ _) _) fun outcome => ?_
  cases outcome with
  | error reason => exact within_pure _
  | ok entry =>
      refine within_bind (within_announce allows _ _) fun _ => ?_
      exact within_bind (within_forwardIfReady allows _ _ _ _) fun _ => within_pure _

theorem within_fileAction (moment : RequestMoment) (node : PyStr) (signed : SignedBody) :
    Within related (fileAction py moment node signed) := by
  apply within_ite
  · exact fun _ => within_bind within_read fun server => within_ofExcept _
  intro notRead
  apply within_ite
  case onNo => exact fun _ => within_pure _
  intro writes
  refine within_bind (within_attempt (within_ensureAuditClean allows) _) fun clean => ?_
  cases clean with
  | error reason => exact within_pure _
  | ok done => exact within_writeAndRecord allows _ _ _ _ _

theorem within_storeAndRecord (moment : RequestMoment) (node : PyStr) (action : JsonValue)
    (task : JsonObject) (sig : PyStr) :
    Within related (storeAndRecord py moment node action task sig) := by
  refine within_bind (within_attempt (within_upsertTask allows _ _) _) fun stored => ?_
  cases stored with
  | error reason => exact within_pure _
  | ok saved =>
      refine within_bind (within_attempt (within_appendEvent allows _ _ _ _ _) _) fun outcome => ?_
      cases outcome with
      | error reason => exact within_pure _
      | ok entry =>
          refine within_bind (within_announce allows _ _) fun _ => ?_
          refine within_bind ?forward fun _ => within_pure _
          exact within_quietly (within_forwardIfReady allows _ _ _ _)

theorem within_apiCollabExport (moment : RequestMoment) (clientIp : PyStr) (request : Request) :
    Within related (apiCollabExport py moment clientIp request) := by
  apply within_ite
  case onNo => exact fun _ => within_pure _
  intro allowed
  split
  · exact within_limitedReply allows _ _ _ _
  · exact within_pure _
  refine within_bind within_read fun server => ?_
  split
  · exact within_pure _
  refine within_bind (within_ofExcept _) fun source => ?_
  refine within_bind (within_attempt ?store _) fun outcome => ?_
  case store =>
    refine within_bind (within_ensureAuditClean allows) fun _ => ?_
    refine within_bind (within_upsertTask allows _ _) fun saved => ?_
    refine within_bind within_read fun server => ?_
    exact within_bind (within_appendEvent allows _ _ _ _ _) fun entry => within_pure _
  cases outcome with
  | error reason => exact within_pure _
  | ok stored =>
      refine within_bind (within_announce allows _ _) fun _ => ?_
      exact within_bind (within_forwardIfReady allows _ _ _ _) fun _ => within_pure _

/-- What a frame does once it is verified. -/
theorem within_frameAccepted (moment : RequestMoment) (verified : Except String (PyStr × SignedBody)) :
    Within related (match verified with
      | .error _ => pure none
      | .ok (signedNode, signed) => do
          let outcome ← (onVault (CollabVault.appendEvent py moment.append signedNode signed.op
            signed.payload signed.sig)).attempt vaultMessage?
          match outcome with
          | .error _ => return none
          | .ok entry =>
              announce moment entry
              return some entry : Handler (Option LedgerEntry)) := by
  cases verified with
  | error reason => exact within_pure _
  | ok accepted =>
      obtain ⟨signedNode, signed⟩ := accepted
      refine within_bind (within_attempt (within_appendEvent allows _ _ _ _ _) _) fun outcome => ?_
      cases outcome with
      | error reason => exact within_pure _
      | ok entry => exact within_bind (within_announce allows _ _) fun _ => within_pure _

theorem within_collabStatus : Within related (collabStatus py authority view) := by
  refine within_bind (within_auditStatus allows) fun audit => ?_
  refine within_bind within_read fun server => ?_
  refine within_bind (within_ofExcept _) fun nodes => ?_
  refine within_bind (within_ofOption _ _) fun rows => ?_
  exact within_bind (within_ofExcept _) fun activity => within_pure _

/-- What a request for a page does once it is verified. -/
theorem within_pageVerified (moment : RequestMoment) (node : Peer) (limit : Int) (verdict : Verdict) :
    Within related (if verdict.valid then ledgerPage py authority view limit
      else do
        recordActivity moment "tamper"
          [(lit "node_id", .str node.id), (lit "op", .str (lit "ledger_read")),
            (lit "status", .int 403), (lit "reason", .str (lit verdict.reason))]
        return rejectedReply 403 verdict.reason) := by
  apply within_ite
  · intro valid
    refine within_bind within_read fun server => ?_
    refine within_bind (within_ofOption _ _) fun rows => ?_
    exact within_bind (within_collabStatus allows) fun status => within_pure _
  · exact fun _ => within_bind (within_broadcast allows _) fun _ => within_pure _

end Handlers

/-- A route that is not the export goes on with what is verified, by what the relation allows. -/
theorem handler_cases (moment : RequestMoment) (request : Request) (route : Route) :
    (∃ clientIp, route = .export clientIp) ∨ (∀ clientIp, route ≠ .export clientIp) ∧
      ∃ scope next, route.handler py moment request = signedRequest py scope moment request next ∧
        ∀ (related : MonitorServer → MonitorServer → Prop) [Std.Refl related]
          [IsTrans MonitorServer related], Allows py related →
          ∀ node signedNode signed, Within related (next node signedNode signed) := by
  cases route with
  | «export» clientIp => exact .inl ⟨clientIp, rfl⟩
  | relay =>
      refine .inr ⟨by simp, _, _, apiRelay.eq_def py moment request, ?_⟩
      intro related _ _ allows node signedNode signed
      refine within_bind (within_attempt (within_appendEvent allows _ _ _ _ _) _) fun outcome => ?_
      cases outcome with
      | error reason => exact within_pure _
      | ok entry => exact within_relayAccepted allows _ _ _
  | file =>
      refine .inr ⟨by simp, _, _, apiCollabFile.eq_def py moment request, ?_⟩
      intro related _ _ allows node signedNode signed
      apply within_ite
      case onNo => exact fun _ => within_pure _
      intro isFile
      refine within_bind (within_attempt (within_fileAction allows _ _ _) _) fun outcome => ?_
      cases outcome with
      | error reason => exact within_pure _
      | ok reply => exact within_pure _
  | task =>
      refine .inr ⟨by simp, _, _, apiCollabTask.eq_def py moment request, ?_⟩
      intro related _ _ allows node signedNode signed
      apply within_ite
      case onNo => exact fun _ => within_pure _
      intro isTask
      refine within_bind (within_ofExcept _) fun task => ?_
      refine within_bind (within_attempt (within_ensureAuditClean allows) _) fun clean => ?_
      cases clean with
      | error reason => exact within_pure _
      | ok done => exact within_storeAndRecord allows _ _ _ _ _

end HermesMesh.Server
