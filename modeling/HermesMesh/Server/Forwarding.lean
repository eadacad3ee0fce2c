import HermesMesh.Server.RelayAgreement

/-!
# Forwarding a recorded event

The routes hand a copy of a recorded event to the partners before they answer.  Signing
the copy checks the payload policy and encodes it again, and two of the routes do not
contain what it raises.  The result says for each route on which requests a recorded
event is answered with `ok`.
-/

namespace HermesMesh.Server

open Python Foundation Foundation.Action Collab MonitorServer

variable {py : Platform}

/-- The payload can be signed as the local node. -/
structure Forwardable (py : Platform) (localNodeId : PyStr) (payload : JsonObject) : Prop where
  policy : Acceptable py payload.toJson
  finite : payload.toJson.isFinite = true
  node : Encodable localNodeId
  strings : payload.toJson.AllStrings Encodable

theorem encodable_floatStr (value : PyFloat) :
    Encodable ((Json.float value).pyStr py.unicode) := by
  rw [Json.pyStr, Json.repr]
  · exact encodable_of_plain (isPlain_reprFloat _)
  · exact fun _ impossible => Json.noConfusion impossible

/-- A message that `forward` makes is signed exactly where its payload can be. -/
theorem exists_sign_iff {trust : TrustManager} {localNodeId op : PyStr} {payload : JsonObject}
    {drawn : PlainText} {now : Binary64} (allowed : op ∈ allowedOps) :
    (∃ message, trust.sign py localNodeId op payload none none drawn.text now = .ok message) ↔
      Forwardable py localNodeId payload := by
  constructor
  · rintro ⟨message, signed⟩
    obtain ⟨-, policy, material, encoded, -⟩ := TrustManager.sign_eq_ok.mp signed
    obtain ⟨finite, node, -, strings, -⟩ := exists_signingMaterial_iff.mp ⟨material, encoded⟩
    exact ⟨policy, finite, node, strings⟩
  · intro forwardable
    obtain ⟨message, signed, -⟩ := @TrustManager.exists_sign py trust localNodeId op payload none none
      drawn.text now allowed forwardable.policy forwardable.finite forwardable.node
      forwardable.strings (encodable_of_plain drawn.plain) (encodable_floatStr _)
    exact ⟨message, signed⟩

/-- `forward` returns exactly where the copy can be signed. -/
theorem forwardIfReady_eq_ok {moment : RequestMoment} {index : Nat} {op : PyStr}
    {payload : JsonObject} {server : MonitorServer} (allowed : op ∈ allowedOps) :
    ((forwardIfReady py moment index op payload).run server).1 = .ok () ↔
      (server.ready = true → Forwardable py server.localNodeId payload) := by
  rw [forwardIfReady, run_bind_ok (run_read _)]
  by_cases ready : server.ready = true
  case neg => simp [ready]
  have partners : server.partners ≠ [] := by
    intro none
    simp [MonitorServer.ready, none] at ready
  have signs := @exists_sign_iff py server.trust server.localNodeId op payload
    (moment.signing index).1 (moment.signing index).2 allowed
  simp only [ready, if_true, forall_true_left, ← signs, forward, run_bind, run_read]
  rw [forwardEnvelope, if_neg (by simp [partners, allowed])]
  cases signed : server.trust.sign py server.localNodeId op payload none none
      (moment.signing index).1.text (moment.signing index).2 with
  | error fault => simp [run_bind]
  | ok message => simp [run_bind]

/-! ## Recorded events -/

/-- If the ledger has changed, the handler has replied with `ok`. -/
def Settled (before : MonitorServer) (outcome : Except Fault Reply × MonitorServer) : Prop :=
  outcome.2.vault.ledger ≠ before.vault.ledger → Succeeds outcome

theorem isOk_respond_iff {moment : RequestMoment} {request : Request} {route : Route}
    {server : MonitorServer} :
    (respond py moment request route server).1.isOk ↔
      Succeeds ((route.handler py moment request).run server) := by
  unfold respond Succeeds
  rcases (route.handler py moment request).run server with ⟨fault | reply, after⟩
  · simp [serverError, Reply.isOk]
  · simp

theorem settled_of_same {before : MonitorServer} {outcome : Except Fault Reply × MonitorServer}
    (same : outcome.2.vault.ledger = before.vault.ledger) : Settled before outcome :=
  fun changed => absurd same changed

theorem settled_of_ledger {before other : MonitorServer} {outcome : Except Fault Reply × MonitorServer}
    (same : before.vault.ledger = other.vault.ledger) :
    Settled before outcome ↔ Settled other outcome := by
  unfold Settled
  rw [same]

/-- The ledger of the vault. -/
def MonitorServer.ledger (server : MonitorServer) : ByteArray := server.vault.ledger

/-- Where the rest of a handler leaves the ledger alone, what it tries first has to return
if it changes the ledger, and the rest has to succeed. -/
theorem settled_attempt_iff {α : Type} {action : Handler α} {refusal : String → Reply}
    {next : α → Handler Reply} {rest : Except String α → Handler Reply}
    (onError : ∀ reason, rest (.error reason) = pure (refusal reason))
    (onOk : ∀ value, rest (.ok value) = next value) (refuses : ∀ reason, ¬(refusal reason).isOk)
    (keeps : ∀ value, Within (Agree MonitorServer.ledger) (next value)) (before server : MonitorServer) :
    Settled before ((action.attempt vaultMessage? >>= rest).run server) ↔
      ((action.run server).2.vault.ledger ≠ before.vault.ledger →
        ∃ value, (action.run server).1 = .ok value ∧
          Succeeds ((next value).run (action.run server).2)) := by
  rw [run_bind, run_attempt]
  rcases action.run server with ⟨fault | value, after⟩
  · refine Iff.trans (b := after.vault.ledger ≠ before.vault.ledger → False) ?_ ?_
    · cases caught : vaultMessage? fault with
      | none =>
          rw [attempted, caught]
          refine imp_congr_right fun _ => iff_of_false ?_ id
          rintro ⟨reply, impossible, -⟩
          cases impossible
      | some reason =>
          rw [attempted, caught]
          change Settled before ((rest (.error reason)).run after) ↔ _
          rw [onError]
          refine imp_congr_right fun _ => iff_of_false ?_ id
          rintro ⟨reply, same, isOk⟩
          cases same
          exact refuses reason isOk
    · refine imp_congr_right fun _ => iff_of_false id ?_
      rintro ⟨value, impossible, -⟩
      cases impossible
  · have kept : ((next value).run after).2.vault.ledger = after.vault.ledger := keeps value after
    rw [attempted]
    change Settled before ((rest (.ok value)).run after) ↔ _
    rw [onOk, Settled, kept]
    refine imp_congr_right fun _ => ?_
    constructor
    · intro succeeds
      exact ⟨value, rfl, succeeds⟩
    · rintro ⟨other, same, succeeds⟩
      cases same
      exact succeeds

/-- A recorded event has to be applied, and what follows has to succeed. -/
theorem settled_append_iff {moment : Moment} {node op : PyStr} {payload : JsonObject} {sig : PyStr}
    {refusal : String → Reply} {next : LedgerEntry → Handler Reply} {server : MonitorServer}
    (refuses : ∀ reason, ¬(refusal reason).isOk)
    (keeps : ∀ entry, Within (Agree MonitorServer.ledger) (next entry)) :
    Settled server ((do
      let outcome ← (onVault (CollabVault.appendEvent py moment node op payload sig)).attempt
        vaultMessage?
      match outcome with
      | .error reason => return refusal reason
      | .ok entry => next entry : Handler Reply).run server) ↔
      (server.vault.Records py moment node op payload sig →
        server.vault.Applies py moment (CollabVault.newEntry moment node op payload sig) ∧
          Succeeds ((next (CollabVault.newEntry moment node op payload sig)).run
            (server.withVault
              ((CollabVault.appendEvent py moment node op payload sig).run server.vault).2))) := by
  refine (settled_attempt_iff (fun _ => rfl) (fun _ => rfl) refuses keeps server server).trans ?_
  rw [run_onVault]
  constructor
  · intro settles recorded
    obtain ⟨entry, returned, succeeds⟩ := settles (recorded_appendEvent_iff.mpr recorded)
    obtain ⟨-, applies, rfl⟩ := appendEvent_eq_ok.mp returned
    exact ⟨applies, succeeds⟩
  · intro settles changed
    have recorded := recorded_appendEvent_iff.mp changed
    obtain ⟨applies, succeeds⟩ := settles recorded
    exact ⟨_, appendEvent_eq_ok.mpr ⟨recorded, applies, rfl⟩, succeeds⟩

theorem within_ledger_of_shown {α : Type} {action : Handler α} (kept : Within (Agree shown) action) :
    Within (Agree MonitorServer.ledger) action :=
  fun server => congrArg (fun view : CollabVault × List Broadcast => view.1.ledger) (kept server)

theorem within_ledger_announce (moment : RequestMoment) (entry : LedgerEntry) :
    Within (Agree MonitorServer.ledger) (announce moment entry) := by
  intro server
  rw [run_announce]
  rfl

/-! ## `api_relay` -/

/-- A route with an envelope is settled where what it does with an accepted one is. -/
theorem settled_signedRequest_iff (scope : String) (moment : RequestMoment) (request : Request)
    (next : PyStr → PyStr → SignedBody → Handler Reply) (server : MonitorServer) :
    Settled server ((signedRequest py scope moment request next).run server) ↔
      ∀ node body signed, AcceptedBody py moment request server.trust node body signed →
        Settled server ((next node.id node.id signed).run (server.afterVerify py moment node body)) := by
  rcases signedRequest_cases scope moment request next server with
    ⟨node, body, signed, accepted, -, continues⟩ | ⟨refused, kept, -⟩
  · rw [continues]
    constructor
    · intro settled other otherBody otherSigned again
      obtain ⟨rfl, rfl, rfl⟩ := accepted.unique again
      exact settled
    · intro settles
      exact settles node body signed accepted
  · constructor
    · intro _ node body signed accepted
      exact absurd accepted (refused node body signed)
    · intro _
      exact settled_of_same (congrArg (fun stores => stores.1.ledger) kept)

/-- A recorded event of `api_relay` is answered with `ok` where it is applied. -/
def RelaySettles (py : Platform) (moment : RequestMoment) (request : Request)
    (server : MonitorServer) : Prop :=
  ∀ node body signed, AcceptedBody py moment request server.trust node body signed →
    server.vault.Records py moment.append node.id signed.op signed.payload signed.sig →
      server.vault.Applies py moment.append
        (CollabVault.newEntry moment.append node.id signed.op signed.payload signed.sig)

theorem settled_relay_iff (moment : RequestMoment) (request : Request) (server : MonitorServer) :
    Settled server ((apiRelay py moment request).run server) ↔
      RelaySettles py moment request server := by
  unfold apiRelay RelaySettles
  rw [settled_signedRequest_iff]
  refine forall₃_congr fun node body signed => forall_congr' fun accepted => ?_
  have settled := @settled_append_iff py moment.append node.id signed.op signed.payload signed.sig
    (rejectedReply 503) (relayAccepted py moment signed) (server.afterVerify py moment node body)
    (fun reason => not_isOk_of_status (by decide)) (fun entry before => ?_)
  · refine settled.trans ?_
    constructor
    · intro applies recorded
      exact (applies recorded).1
    · intro applies recorded
      refine ⟨applies recorded, ?_⟩
      obtain ⟨reply, after, ran, isOk, -⟩ := @run_relayAccepted py moment signed
        (CollabVault.newEntry moment.append node.id signed.op signed.payload signed.sig)
        ((server.afterVerify py moment node body).withVault ((CollabVault.appendEvent py
          moment.append node.id signed.op signed.payload signed.sig).run server.vault).2)
      exact ⟨reply, congrArg Prod.fst ran, isOk⟩
  · obtain ⟨reply, after, ran, -, vault, -⟩ := @run_relayAccepted py moment signed entry before
    rw [ran]
    exact congrArg CollabVault.ledger vault

/-! ## Stored tasks -/

theorem eventTask_taskPayload (action : JsonValue) (saved : JsonObject) :
    CollabVault.eventTask (taskPayload action saved) = saved := by
  have found : (taskPayload action saved).getObject? (lit "task") = some saved := by
    rw [JsonObject.getObject?_eq_some, taskPayload, JsonObject.get?_setObject, if_pos rfl]
  rw [CollabVault.eventTask, found, Option.getD_some]

/-- The task as it is stored. -/
def savedTask (py : Platform) (moment : RequestMoment) (task : JsonObject) (status : TaskStatus) :
    JsonObject :=
  CollabVault.storedTask moment.upsert (CollabVault.taskIdText py moment.upsert task) status task

/-- `upsert_task` stores the task with that status. -/
structure StoresTask (py : Platform) (moment : RequestMoment) (vault : CollabVault)
    (task : JsonObject) (status : TaskStatus) : Prop where
  known : CollabVault.taskStatus? py task = some status
  files : moment.upsert.storesTasks
  saved : (CollabVault.withTask (CollabVault.taskIdText py moment.upsert task) status
    (savedTask py moment task status) vault.state).Writable

theorem upsertTask_eq_ok_iff {moment : RequestMoment} {vault : CollabVault} {task saved : JsonObject} :
    ((CollabVault.upsertTask py moment.upsert task).run vault).1 = .ok saved ↔
      ∃ status, StoresTask py moment vault task status ∧ saved = savedTask py moment task status := by
  rw [upsertTask_eq_ok]
  constructor
  · rintro ⟨status, known, files, writable, same⟩
    exact ⟨status, ⟨known, files, writable⟩, same⟩
  · rintro ⟨status, ⟨known, files, writable⟩, same⟩
    exact ⟨status, known, files, writable, same⟩

theorem StoresTask.writable {moment : RequestMoment} {vault : CollabVault} {task : JsonObject}
    {status : TaskStatus} (stores : StoresTask py moment vault task status) :
    ((CollabVault.upsertTask py moment.upsert task).run vault).2.state.Writable := by
  rw [state_upsertTask stores.known]
  exact stores.saved

/-- A vault that can be saved applies the recorded event of a task that it has stored unless the
file system refuses. -/
theorem applies_taskPayload_iff {moment : RequestMoment} {vault : CollabVault} {node : PyStr}
    {action : JsonValue} {status : TaskStatus} {task : JsonObject} {sig : PyStr}
    (writable : vault.state.Writable) (recorded : vault.Records py moment.append node (lit "task")
      (taskPayload action (savedTask py moment task status)) sig) :
    vault.Applies py moment.append (CollabVault.newEntry moment.append node (lit "task")
        (taskPayload action (savedTask py moment task status)) sig) ↔ moment.append.storesTasks := by
  have isTrue : (Json.str (CollabVault.taskIdText py moment.upsert task)).truthy = true := by
    simpa [Json.truthy] using taskIdText_ne_nil moment.upsert task
  have isTask : storesTask (lit "task") (taskPayload action (savedTask py moment task status)) := by
    refine ⟨rfl, ?_⟩
    rw [eventTask_taskPayload, JsonObject.getD, savedTask, get?_storedTask_id, Option.getD_some, isTrue]
  constructor
  · exact fun applies => applies.stored isTask
  · intro stores
    refine ⟨?_, fun _ => stores, writable.recorded recorded.2⟩
    change ¬vault.RefusesEvent py (lit "task") (taskPayload action (savedTask py moment task status))
    unfold CollabVault.RefusesEvent
    rw [eventTask_taskPayload, savedTask, taskStatus?_storedTask]
    simp

/-- Records does not look at the state. -/
theorem records_of_files {moment : Moment} {before after : CollabVault} {node op : PyStr}
    {payload : JsonObject} {sig : PyStr} (kept : after.files = before.files) :
    after.Records py moment node op payload sig ↔ before.Records py moment node op payload sig := by
  have ledger : after.ledger = before.ledger := congrArg (fun files => files.2.1) kept
  have audit : after.audit = before.audit := congrArg (fun files => files.2.2) kept
  rw [CollabVault.Records, CollabVault.Records, CollabVault.chainVerified, CollabVault.chainVerified,
    ledger, audit]

theorem run_attempt_clean_of_tampered {server : MonitorServer}
    (tampered : server.vault.chainVerified py = false) :
    ((onVault (CollabVault.ensureAuditClean py)).attempt vaultMessage?).run server =
      (attempted vaultMessage? (.error server.vault.tamperedFault),
        server.withVault server.vault.foundTampered) := by
  rw [run_attempt, run_onVault, CollabVault.run_ensureAuditClean_of_tampered tampered]

/-- A handler that first checks the chain goes on only where it verifies. -/
theorem settled_clean_iff {next : Unit → Handler Reply} {server : MonitorServer}
    {refusal : String → Reply} :
    Settled server ((do
      let clean ← (onVault (CollabVault.ensureAuditClean py)).attempt vaultMessage?
      match clean with
      | .error reason => return refusal reason
      | .ok value => next value : Handler Reply).run server) ↔
      (server.vault.chainVerified py = true → Settled server ((next ()).run server)) := by
  cases verified : server.vault.chainVerified py with
  | true =>
      have clean : ((onVault (CollabVault.ensureAuditClean py)).attempt vaultMessage?).run server =
          (.ok (.ok ()), server) := by
        rw [run_attempt, run_onVault, CollabVault.run_ensureAuditClean_of_verified verified]
        rfl
      rw [run_bind_ok clean]
      simp
  | false =>
      refine iff_of_true ?_ (by simp)
      rw [run_bind, run_attempt_clean_of_tampered verified, attempted]
      cases vaultMessage? server.vault.tamperedFault
      · exact settled_of_same (CollabVault.ledger_foundTampered server.vault)
      · exact settled_of_same (CollabVault.ledger_foundTampered server.vault)

/-! ## `api_collab_task` -/

theorem run_taskTail {moment : RequestMoment} {action : JsonValue} {saved : JsonObject}
    {entry : LedgerEntry} (server : MonitorServer) :
    ∃ after, (do
        announce moment entry
        quietly (forwardIfReady py moment 0 (lit "task") (taskPayload action saved))
        return taskReply saved entry : Handler Reply).run server = (.ok (taskReply saved entry), after) ∧
      after.vault = server.vault := by
  rw [run_bind_ok (run_announce moment entry server), run_bind_ok (run_quietly _ _)]
  have kept := @within_shown_forwardIfReady py moment 0 (lit "task") (taskPayload action saved)
    (server.telling (announcements moment entry))
  exact ⟨_, rfl, congrArg Prod.fst kept⟩

theorem isOk_taskReply (saved : JsonObject) (entry : LedgerEntry) : (taskReply saved entry).isOk :=
  ⟨rfl, rfl⟩

theorem settled_storeAndRecord_iff {moment : RequestMoment} {node : PyStr} {action : JsonValue}
    {task : JsonObject} {sig : PyStr} {server : MonitorServer} :
    Settled server ((storeAndRecord py moment node action task sig).run server) ↔
      ∀ status, StoresTask py moment server.vault task status →
        server.vault.Records py moment.append node (lit "task")
          (taskPayload action (savedTask py moment task status)) sig →
        moment.append.storesTasks := by
  have kept := CollabVault.within_files_upsertTask py moment.upsert task server.vault
  have returns := @upsertTask_eq_ok_iff py moment server.vault task
  have saves := @StoresTask.writable py moment server.vault task
  rcases outcome : (CollabVault.upsertTask py moment.upsert task).run server.vault with
    ⟨result, after⟩
  rw [outcome] at kept returns saves
  have stored : ((onVault (CollabVault.upsertTask py moment.upsert task)).attempt vaultMessage?).run
      server = (attempted vaultMessage? result, server.withVault after) := by
    rw [run_attempt, run_onVault, outcome]
  have sameLedger : after.ledger = server.vault.ledger := congrArg (fun files => files.2.1) kept
  rw [storeAndRecord, run_bind, stored]
  cases result with
  | error fault =>
      refine iff_of_true ?_ ?_
      · rw [attempted]
        cases vaultMessage? fault <;> exact settled_of_same sameLedger
      · intro status stores
        cases returns.mpr ⟨status, stores, rfl⟩
  | ok saved =>
      obtain ⟨status, stores, rfl⟩ := returns.mp rfl
      have settled := @settled_append_iff py moment.append node (lit "task")
        (taskPayload action (savedTask py moment task status)) sig (rejectedReply 503)
        (fun entry => do
          announce moment entry
          quietly (forwardIfReady py moment 0 (lit "task")
            (taskPayload action (savedTask py moment task status)))
          return taskReply (savedTask py moment task status) entry)
        (server.withVault after) (fun reason => not_isOk_of_status (by decide)) (fun entry before => by
          obtain ⟨last, ran, vault⟩ := run_taskTail before
          rw [ran]
          exact congrArg CollabVault.ledger vault)
      rw [@settled_of_ledger server (server.withVault after) _ sameLedger.symm]
      refine settled.trans ?_
      constructor
      · intro settles other otherStores recorded
        cases stores.known.symm.trans otherStores.known
        have again := (records_of_files kept).mpr recorded
        exact (applies_taskPayload_iff (saves stores) again).mp (settles again).1
      · intro stored recorded
        refine ⟨(applies_taskPayload_iff (saves stores) recorded).mpr
          (stored status stores ((records_of_files kept).mp recorded)), ?_⟩
        obtain ⟨last, ran, -⟩ := run_taskTail _
        exact ⟨_, congrArg Prod.fst ran, isOk_taskReply _ _⟩

/-- A recorded task is answered with `ok` where the file system lets it be stored again. -/
def TaskSettles (py : Platform) (moment : RequestMoment) (request : Request)
    (server : MonitorServer) : Prop :=
  ∀ node body signed, AcceptedBody py moment request server.trust node body signed →
    signed.op = lit "task" →
      let action := signed.payload.getValueD (lit "action") (.ofText (lit "create"))
      ∀ task status, requestedTask node.id action.val signed.payload = .ok task →
        StoresTask py moment server.vault task status →
          server.vault.Records py moment.append node.id (lit "task")
            (taskPayload action (savedTask py moment task status)) signed.sig →
          moment.append.storesTasks

theorem settled_task_iff (moment : RequestMoment) (request : Request) (server : MonitorServer) :
    Settled server ((apiCollabTask py moment request).run server) ↔
      TaskSettles py moment request server := by
  unfold apiCollabTask TaskSettles
  rw [settled_signedRequest_iff]
  refine forall₃_congr fun node body signed => forall_congr' fun accepted => ?_
  by_cases isTask : signed.op = lit "task"
  case neg =>
    rw [if_neg isTask]
    exact iff_of_true (settled_of_same rfl) fun impossible => absurd impossible isTask
  rw [if_pos isTask]
  simp only [isTask, forall_true_left]
  cases wanted : requestedTask node.id
      (signed.payload.getValueD (lit "action") (.ofText (lit "create"))).val signed.payload with
  | error fault => exact iff_of_true (settled_of_same rfl) nofun
  | ok task =>
      rw [run_bind_ok (run_ofExcept _ _)]
      have settled := @settled_clean_iff py (fun _ => storeAndRecord py moment node.id
        (signed.payload.getValueD (lit "action") (.ofText (lit "create"))) task signed.sig)
        (server.afterVerify py moment node body) (rejectedReply 503)
      refine settled.trans ?_
      constructor
      · intro settles other status same stores recorded
        cases same
        exact settled_storeAndRecord_iff.mp (settles recorded.1) status stores recorded
      · intro stores _
        apply settled_storeAndRecord_iff.mpr
        intro status upserted recorded
        exact stores task status rfl upserted recorded

/-! ## `api_collab_file` -/

/-- An action whose exceptions of one kind are answered with a refusal. -/
theorem settled_caught_iff {action : Handler Reply} {refusal : Reply} (refuses : ¬refusal.isOk)
    {before server : MonitorServer} :
    Settled before ((do
      let outcome ← action.attempt vaultMessage?
      match outcome with
      | .error _ => return refusal
      | .ok reply => return reply : Handler Reply).run server) ↔
      Settled before (action.run server) := by
  refine (settled_attempt_iff (fun _ => rfl) (fun _ => rfl) (fun _ => refuses)
    (fun reply => within_pure reply) before server).trans ?_
  unfold Settled
  refine imp_congr_right fun _ => ?_
  constructor
  · rintro ⟨reply, returned, other, same, isOk⟩
    cases same
    exact ⟨reply, returned, isOk⟩
  · rintro ⟨reply, returned, isOk⟩
    exact ⟨reply, returned, reply, rfl, isOk⟩

/-- The server with one more file. -/
def MonitorServer.withFile (parts : Path) (content : PyStr) (server : MonitorServer) :
    MonitorServer :=
  { server with fileWrites := server.fileWrites ++ [(server.vault.root ++ parts, content)] }

/-- The file is written, below the root at these parts. -/
structure Writes (py : Platform) (moment : RequestMoment) (path content : Json) (parts : Path)
    (text : PyStr) : Prop where
  content : checkContent content = .ok text
  path : safePath py path = .ok parts
  succeeds : moment.fileWriteFails = false

/-- `write_file` raises and changes nothing, or writes. -/
theorem run_writeFile (moment : RequestMoment) (path content : Json) (server : MonitorServer) :
    ((∀ parts text, ¬Writes py moment path content parts text) ∧
        ∃ fault, (writeFile py moment path content).run server = (.error fault, server)) ∨
      ∃ parts text, Writes py moment path content parts text ∧
        (writeFile py moment path content).run server =
          (.ok (joinWith (lit "/") parts), server.withFile parts text) := by
  unfold writeFile
  cases checked : checkContent content with
  | error fault =>
      refine .inl ⟨?_, fault, run_bind_error (run_ofExcept _ _) _⟩
      rintro parts text ⟨impossible, -, -⟩
      rw [checked] at impossible
      cases impossible
  | ok text =>
      rw [run_bind_ok (run_ofExcept _ _)]
      cases safe : safePath py path with
      | error fault =>
          refine .inl ⟨?_, fault, run_bind_error (run_ofExcept _ _) _⟩
          rintro parts other ⟨-, impossible, -⟩
          rw [safe] at impossible
          cases impossible
      | ok parts =>
          rw [run_bind_ok (run_ofExcept _ _)]
          cases fails : moment.fileWriteFails with
          | true =>
              refine .inl ⟨?_, .osError, rfl⟩
              rintro _ _ ⟨-, -, impossible⟩
              rw [fails] at impossible
              cases impossible
          | false => exact .inr ⟨parts, text, ⟨checked, safe, fails⟩, rfl⟩

/-- The end of a route that does not contain what forwarding raises. -/
def announceAndForward (py : Platform) (moment : RequestMoment) (entry : LedgerEntry) (op : PyStr)
    (payload : JsonObject) (reply : Reply) : Handler Reply := do
  announce moment entry
  forwardIfReady py moment 0 op payload
  return reply

section Uncontained

variable {moment : RequestMoment} {entry : LedgerEntry} {op : PyStr} {payload : JsonObject}
  {reply : Reply}

theorem within_ledger_announceAndForward :
    Within (Agree MonitorServer.ledger) (announceAndForward py moment entry op payload reply) := by
  refine within_bind (within_ledger_announce _ _) fun _ => ?_
  refine within_bind (within_ledger_of_shown (within_shown_forwardIfReady _ _ _ _)) fun _ => ?_
  exact within_pure reply

theorem succeeds_announceAndForward_iff (isOk : reply.isOk) (allowed : op ∈ allowedOps)
    {server : MonitorServer} :
    Succeeds ((announceAndForward py moment entry op payload reply).run server) ↔
      (server.ready = true → Forwardable py server.localNodeId payload) := by
  have forwards := @forwardIfReady_eq_ok py moment 0 op payload
    (server.telling (announcements moment entry)) allowed
  change _ ↔ (server.ready = true → Forwardable py server.localNodeId payload) at forwards
  rw [← forwards, announceAndForward, run_bind_ok (run_announce moment entry server), run_bind]
  rcases (forwardIfReady py moment 0 op payload).run
      (server.telling (announcements moment entry)) with ⟨fault | value, after⟩
  · refine iff_of_false ?_ nofun
    rintro ⟨other, impossible, -⟩
    cases impossible
  · exact iff_of_true ⟨reply, rfl, isOk⟩ rfl

end Uncontained

/-- `state.json` can hold the memory with the event of the file. -/
def SavesFile (py : Platform) (moment : RequestMoment) (node : PyStr) (parts : Path) (sig : PyStr)
    (vault : CollabVault) : Prop :=
  (vault.state.firstSaved py moment.append (CollabVault.newEntry moment.append node
    (lit "file_update") (filePayload (joinWith (lit "/") parts)) sig)).Writable

theorem applies_file_iff {moment : RequestMoment} {node : PyStr} {parts : Path} {sig : PyStr}
    {vault : CollabVault} : vault.Applies py moment.append (CollabVault.newEntry moment.append node
      (lit "file_update") (filePayload (joinWith (lit "/") parts)) sig) ↔
        SavesFile py moment node parts sig vault :=
  applies_iff_of_op (by simp [CollabVault.newEntry]) (by simp [CollabVault.newEntry])

theorem settled_writeAndRecord_iff {moment : RequestMoment} {node : PyStr} {path content : Json}
    {sig : PyStr} {server : MonitorServer} :
    Settled server ((writeAndRecord py moment node path content sig).run server) ↔
      ∀ parts text, Writes py moment path content parts text →
        server.vault.Records py moment.append node (lit "file_update")
          (filePayload (joinWith (lit "/") parts)) sig →
        SavesFile py moment node parts sig server.vault ∧ (server.ready = true →
          Forwardable py server.localNodeId (filePayload (joinWith (lit "/") parts))) := by
  rcases run_writeFile moment path content server with
    ⟨none, fault, failed⟩ | ⟨parts, text, writes, wrote⟩
  · rw [writeAndRecord, run_bind_error failed]
    exact iff_of_true (settled_of_same rfl) fun parts text writes => absurd writes (none parts text)
  · rw [writeAndRecord, run_bind_ok wrote]
    have settled := @settled_append_iff py moment.append node (lit "file_update")
      (filePayload (joinWith (lit "/") parts)) sig (rejectedReply 503)
      (fun entry => announceAndForward py moment entry (lit "file_update")
        (filePayload (joinWith (lit "/") parts))
        ⟨200, [(lit "status", .str (lit "ok")), (lit "path", .str (joinWith (lit "/") parts)),
          (lit "ledger_id", .str entry.id)]⟩)
      (server.withFile parts text) (fun reason => not_isOk_of_status (by decide))
      (fun entry => within_ledger_announceAndForward)
    refine Iff.trans settled ?_
    rw [succeeds_announceAndForward_iff ⟨rfl, rfl⟩ (by decide)]
    rw [applies_file_iff]
    constructor
    · intro settles other otherText again recorded
      obtain ⟨rfl⟩ : parts = other := Except.ok.inj (writes.path.symm.trans again.path)
      exact settles recorded
    · exact fun settles recorded => settles parts text writes recorded

theorem pyEq_str_iff {value : Json} {text : PyStr} :
    value.pyEq (.str text) = true ↔ value = .str text := by
  constructor
  · exact eq_str_of_pyEq
  · rintro rfl
    exact beq_self_eq_true text

/-- The action of a payload is `write` only where it says so. -/
theorem getD_action_iff {payload : JsonObject} :
    payload.getD (lit "action") (.str (lit "read")) = .str (lit "write") ↔
      payload.get? (lit "action") = some (.str (lit "write")) := by
  rw [JsonObject.getD]
  cases payload.get? (lit "action") <;> simp

theorem settled_fileAction_iff {moment : RequestMoment} {node : PyStr} {signed : SignedBody}
    {server : MonitorServer} :
    Settled server ((fileAction py moment node signed).run server) ↔
      (signed.payload.get? (lit "action") = some (.str (lit "write")) →
        Settled server ((writeAndRecord py moment node (signed.payload.getD (lit "path") .null)
          (signed.payload.getD (lit "content") (.str [])) signed.sig).run server) ∨
        server.vault.chainVerified py = false) := by
  unfold fileAction
  rw [← getD_action_iff]
  dsimp only
  by_cases reads : (signed.payload.getD (lit "action") (.str (lit "read"))).pyEq
      (.str (lit "read")) = true
  · rw [if_pos reads, pyEq_str_iff.mp reads]
    refine iff_of_true (settled_of_same rfl) fun impossible => ?_
    simp at impossible
  rw [if_neg reads]
  by_cases writes : (signed.payload.getD (lit "action") (.str (lit "read"))).pyEq
      (.str (lit "write")) = true
  · rw [if_pos writes, pyEq_str_iff.mp writes]
    have settled := @settled_clean_iff py (fun _ => writeAndRecord py moment node
      (signed.payload.getD (lit "path") .null) (signed.payload.getD (lit "content") (.str []))
      signed.sig) server (rejectedReply 503)
    refine settled.trans ?_
    cases server.vault.chainVerified py <;> simp
  · rw [if_neg writes]
    exact iff_of_true (settled_of_same rfl) fun same => absurd (pyEq_str_iff.mpr same) writes

/-- A recorded file is answered with `ok` where the event of its path can be saved and
forwarded. -/
def FileSettles (py : Platform) (moment : RequestMoment) (request : Request)
    (server : MonitorServer) : Prop :=
  ∀ node body signed, AcceptedBody py moment request server.trust node body signed →
    signed.op = lit "file_update" →
      signed.payload.get? (lit "action") = some (.str (lit "write")) →
        ∀ parts text, Writes py moment (signed.payload.getD (lit "path") .null)
            (signed.payload.getD (lit "content") (.str [])) parts text →
          server.vault.Records py moment.append node.id (lit "file_update")
            (filePayload (joinWith (lit "/") parts)) signed.sig →
          SavesFile py moment node.id parts signed.sig server.vault ∧ (server.ready = true →
            Forwardable py server.localNodeId (filePayload (joinWith (lit "/") parts)))

theorem settled_file_iff (moment : RequestMoment) (request : Request) (server : MonitorServer) :
    Settled server ((apiCollabFile py moment request).run server) ↔
      FileSettles py moment request server := by
  unfold apiCollabFile FileSettles
  rw [settled_signedRequest_iff]
  refine forall₃_congr fun node body signed => forall_congr' fun accepted => ?_
  by_cases isFile : signed.op = lit "file_update"
  case neg =>
    rw [if_neg isFile]
    exact iff_of_true (settled_of_same rfl) fun impossible => absurd impossible isFile
  rw [if_pos isFile]
  simp only [isFile, forall_true_left]
  have settled := @settled_caught_iff (fileAction py moment node.id signed)
    (errorReply 403 "forbidden collab path") (not_isOk_of_status (by decide)) server
    (server.afterVerify py moment node body)
  refine settled.trans ?_
  have action := @settled_fileAction_iff py moment node.id signed (server.afterVerify py moment node body)
  refine Iff.trans action ?_
  refine forall_congr' fun isWrite => ?_
  rw [settled_writeAndRecord_iff]
  constructor
  · rintro (settles | tampered) parts text writes recorded
    · exact settles parts text writes recorded
    · cases tampered.symm.trans recorded.1
  · exact .inl

/-! ## `api_collab_export` -/

section Export

variable {moment : RequestMoment} {source : JsonObject} {server : MonitorServer}

/-- The export of a source is recorded, as a task of that status. -/
def RecordsExport (py : Platform) (moment : RequestMoment) (server : MonitorServer)
    (source : JsonObject) (status : TaskStatus) : Prop :=
  StoresTask py moment server.vault source status ∧
    server.vault.Records py moment.append server.localNodeId (lit "task")
      (taskPayload (.ofText (lit "export")) (savedTask py moment source status)) (lit "local-export")

/-- What the ledger and the result of the stored export say of it. -/
structure ExportOutcome (py : Platform) (moment : RequestMoment) (source : JsonObject)
    (server : MonitorServer) (outcome : Except Fault (JsonObject × LedgerEntry) × MonitorServer) :
    Prop where
  recorded : outcome.2.vault.ledger ≠ server.vault.ledger ↔
    ∃ status, RecordsExport py moment server source status
  returned : ∀ saved entry, outcome.1 = .ok (saved, entry) ↔
    ∃ status, RecordsExport py moment server source status ∧ moment.append.storesTasks ∧
      saved = savedTask py moment source status ∧
      entry = CollabVault.newEntry moment.append server.localNodeId (lit "task")
        (taskPayload (.ofText (lit "export")) saved) (lit "local-export")

theorem run_storeExport_of_tampered (tampered : server.vault.chainVerified py = false) :
    (storeExport py moment source).run server =
      (.error server.vault.tamperedFault, server.withVault server.vault.foundTampered) := by
  apply run_bind_error
  rw [run_onVault, CollabVault.run_ensureAuditClean_of_tampered tampered]

theorem exportOutcome_of_unrecorded {fault : Fault} {after : MonitorServer}
    (kept : after.vault.ledger = server.vault.ledger)
    (unrecorded : ∀ status, ¬RecordsExport py moment server source status) :
    ExportOutcome py moment source server (.error fault, after) where
  recorded := by
    refine iff_of_false (fun changed => changed kept) ?_
    rintro ⟨status, recorded⟩
    exact unrecorded status recorded
  returned := by
    intro saved entry
    refine iff_of_false nofun ?_
    rintro ⟨status, recorded, -⟩
    exact unrecorded status recorded

/-- Once the task is stored, the export is recorded if its event is. -/
theorem exportOutcome_of_stored {after : CollabVault} {status : TaskStatus}
    (kept : after.files = server.vault.files) (writable : after.state.Writable)
    (stores : StoresTask py moment server.vault source status) :
    ExportOutcome py moment source server ((do
      let entry ← onVault (CollabVault.appendEvent py moment.append server.localNodeId (lit "task")
        (taskPayload (.ofText (lit "export")) (savedTask py moment source status))
        (lit "local-export"))
      return (savedTask py moment source status, entry) : Handler _).run (server.withVault after)) := by
  have records := @recorded_appendEvent_iff py moment.append server.localNodeId (lit "task")
    (taskPayload (.ofText (lit "export")) (savedTask py moment source status))
    (lit "local-export") after
  have returns := @appendEvent_eq_ok py moment.append server.localNodeId (lit "task")
    (taskPayload (.ofText (lit "export")) (savedTask py moment source status))
    (lit "local-export") after
  have sameLedger : after.ledger = server.vault.ledger := congrArg (fun files => files.2.1) kept
  have applies := @applies_taskPayload_iff py moment after server.localNodeId
    (.ofText (lit "export")) status source (lit "local-export") writable
  rw [records_of_files kept, sameLedger] at records
  rw [records_of_files kept] at applies
  simp only [records_of_files kept] at returns
  have only : ∀ other, RecordsExport py moment server source other → other = status := by
    rintro other ⟨same, -⟩
    exact Option.some.inj (same.known.symm.trans stores.known)
  rcases appended : (CollabVault.appendEvent py moment.append server.localNodeId (lit "task")
    (taskPayload (.ofText (lit "export")) (savedTask py moment source status))
    (lit "local-export")).run after with ⟨result, last⟩
  rw [appended] at records returns
  have ran : (onVault (CollabVault.appendEvent py moment.append server.localNodeId (lit "task")
      (taskPayload (.ofText (lit "export")) (savedTask py moment source status))
      (lit "local-export"))).run (server.withVault after) = (result, server.withVault last) := by
    rw [run_onVault]
    exact congrArg (fun outcome => (outcome.1, server.withVault outcome.2)) appended
  have recorded : last.ledger ≠ server.vault.ledger ↔
      ∃ status, RecordsExport py moment server source status := by
    refine records.trans ⟨fun isRecorded => ⟨status, stores, isRecorded⟩, ?_⟩
    rintro ⟨other, isRecorded⟩
    rw [only other isRecorded] at isRecorded
    exact isRecorded.2
  cases result with
  | error fault =>
      rw [run_bind_error ran]
      refine ⟨recorded, fun saved entry => iff_of_false nofun ?_⟩
      rintro ⟨other, isRecorded, appends, rfl, rfl⟩
      rw [only other isRecorded] at isRecorded
      cases returns.mpr ⟨isRecorded.2, (applies isRecorded.2).mpr appends, rfl⟩
  | ok appended =>
      rw [run_bind_ok ran]
      refine ⟨recorded, fun saved entry => ?_⟩
      obtain ⟨isRecorded, appends, isEntry⟩ := returns.mp rfl
      constructor
      · intro same
        cases same
        exact ⟨status, ⟨stores, isRecorded⟩, (applies isRecorded).mp appends, rfl, isEntry⟩
      · rintro ⟨other, otherRecorded, -, rfl, rfl⟩
        cases only other otherRecorded
        rw [isEntry]
        rfl

theorem exportOutcome_storeExport (moment : RequestMoment) (source : JsonObject)
    (server : MonitorServer) :
    ExportOutcome py moment source server ((storeExport py moment source).run server) := by
  cases verified : server.vault.chainVerified py with
  | false =>
      rw [run_storeExport_of_tampered verified]
      refine exportOutcome_of_unrecorded (CollabVault.ledger_foundTampered server.vault) ?_
      rintro status ⟨-, impossible, -⟩
      cases verified.symm.trans impossible
  | true =>
      have clean : (onVault (CollabVault.ensureAuditClean py)).run server = (.ok (), server) := by
        rw [run_onVault, CollabVault.run_ensureAuditClean_of_verified verified]
        rfl
      rw [storeExport, run_bind_ok clean]
      have kept := CollabVault.within_files_upsertTask py moment.upsert source server.vault
      have upserts := @upsertTask_eq_ok_iff py moment server.vault source
      have saves := @StoresTask.writable py moment server.vault source
      rcases outcome : (CollabVault.upsertTask py moment.upsert source).run server.vault with
        ⟨result, after⟩
      rw [outcome] at kept upserts saves
      have upserted : (onVault (CollabVault.upsertTask py moment.upsert source)).run server =
          (result, server.withVault after) := by
        rw [run_onVault, outcome]
      have sameLedger : after.ledger = server.vault.ledger := congrArg (fun files => files.2.1) kept
      cases result with
      | error fault =>
          rw [run_bind_error upserted]
          refine exportOutcome_of_unrecorded sameLedger ?_
          rintro status ⟨stores, -⟩
          cases upserts.mpr ⟨status, stores, rfl⟩
      | ok saved =>
          obtain ⟨status, stores, rfl⟩ := upserts.mp rfl
          rw [run_bind_ok upserted, run_bind_ok (run_read _)]
          exact exportOutcome_of_stored kept (saves stores) stores

/-- Storing an export leaves what forwarding looks at. -/
theorem within_relay_storeExport (moment : RequestMoment) (source : JsonObject) :
    Within (Agree fun server : MonitorServer => (server.partners, server.localNodeId))
      (storeExport py moment source) := by
  refine within_bind (fun _ => rfl) fun _ => ?_
  refine within_bind (fun _ => rfl) fun saved => ?_
  refine within_bind within_read fun server => ?_
  exact within_bind (fun _ => rfl) fun entry => within_pure (saved, entry)

/-- A recorded export is answered with `ok` where the file system lets the task be stored
again and its event can be forwarded. -/
theorem settled_exportAndRecord_iff {task : LocalTask} (exported : exportedTask task = .ok source) :
    Settled server ((exportAndRecord py moment task).run server) ↔
      ∀ status, RecordsExport py moment server source status →
        moment.append.storesTasks ∧ (server.ready = true → Forwardable py server.localNodeId
          (taskPayload (.ofText (lit "export")) (savedTask py moment source status))) := by
  rw [exportAndRecord, exported, run_bind_ok (run_ofExcept _ _)]
  obtain ⟨recorded, returned⟩ := @exportOutcome_storeExport py moment source server
  refine (@settled_attempt_iff _ (storeExport py moment source) (rejectedReply 503)
    (fun outcome => announceAndForward py moment outcome.2 (lit "task")
      (taskPayload (.ofText (lit "export")) outcome.1) (taskReply outcome.1 outcome.2)) _
    (fun _ => rfl) (fun _ => rfl) (fun reason => not_isOk_of_status (by decide))
    (fun outcome => within_ledger_announceAndForward) server server).trans ?_
  have kept := @within_relay_storeExport py moment source server
  generalize (storeExport py moment source).run server = outcome at kept recorded returned ⊢
  obtain ⟨result, after⟩ := outcome
  have partners : after.partners = server.partners := congrArg Prod.fst kept
  have localNodeId : after.localNodeId = server.localNodeId := congrArg Prod.snd kept
  have sameReady : after.ready = server.ready := by
    rw [MonitorServer.ready, MonitorServer.ready, partners, localNodeId]
  constructor
  · intro settles status isRecorded
    obtain ⟨⟨saved, entry⟩, same, succeeds⟩ := settles (recorded.mpr ⟨status, isRecorded⟩)
    obtain ⟨other, otherRecorded, stores, rfl, -⟩ := (returned saved entry).mp same
    cases otherRecorded.1.known.symm.trans isRecorded.1.known
    rw [succeeds_announceAndForward_iff (isOk_taskReply _ _) (by decide), sameReady,
      localNodeId] at succeeds
    exact ⟨stores, succeeds⟩
  · intro settles changed
    obtain ⟨status, isRecorded⟩ := recorded.mp changed
    obtain ⟨stores, forwards⟩ := settles status isRecorded
    refine ⟨_, (returned _ _).mpr ⟨status, isRecorded, stores, rfl, rfl⟩, ?_⟩
    rw [succeeds_announceAndForward_iff (isOk_taskReply _ _) (by decide), sameReady, localNodeId]
    exact forwards

end Export

/-- A recorded export is answered with `ok` where the file system lets the task be stored
again and its event can be forwarded. -/
def ExportSettles (py : Platform) (moment : RequestMoment) (request : Request)
    (server : MonitorServer) : Prop :=
  request.writeAllowed = true → request.retryAfter = none →
    ∀ body task source, request.body = some body →
      server.localTasks.find? (fun task => task.id.val.pyStr py.unicode == requestedId py body) =
        some task →
      exportedTask task = .ok source →
      ∀ status, RecordsExport py moment server source status →
        moment.append.storesTasks ∧ (server.ready = true → Forwardable py server.localNodeId
          (taskPayload (.ofText (lit "export")) (savedTask py moment source status)))

theorem settled_export_iff (moment : RequestMoment) (clientIp : PyStr) (request : Request)
    (server : MonitorServer) :
    Settled server ((apiCollabExport py moment clientIp request).run server) ↔
      ExportSettles py moment request server := by
  unfold apiCollabExport ExportSettles
  by_cases allowed : request.writeAllowed = true
  case neg =>
    rw [if_neg allowed]
    exact iff_of_true (settled_of_same rfl) fun impossible => absurd impossible allowed
  rw [if_pos allowed]
  simp only [allowed, forall_true_left]
  cases limit : request.retryAfter with
  | some retryAfter => exact iff_of_true (settled_of_same rfl) nofun
  | none =>
      simp only [forall_true_left]
      cases isBody : request.body with
      | none => exact iff_of_true (settled_of_same rfl) nofun
      | some body =>
          rw [run_bind_ok (run_read _)]
          cases found : server.localTasks.find? fun task =>
              task.id.val.pyStr py.unicode == requestedId py body with
          | none =>
              refine iff_of_true (settled_of_same rfl) fun other task source same inTasks => ?_
              cases same
              rw [found] at inTasks
              cases inTasks
          | some task =>
              cases exported : exportedTask task with
              | error fault =>
                  have failed : (exportAndRecord py moment task).run server = (.error fault, server) := by
                    rw [exportAndRecord, exported]
                    exact run_bind_error (run_ofExcept _ _) _
                  refine iff_of_true ?_ fun other otherTask source same inTasks isSource => ?_
                  · change Settled server ((exportAndRecord py moment task).run server)
                    rw [failed]
                    exact settled_of_same rfl
                  · cases same
                    cases found.symm.trans inTasks
                    rw [exported] at isSource
                    cases isSource
              | ok source =>
                  refine (settled_exportAndRecord_iff exported).trans ?_
                  constructor
                  · intro settles other otherTask otherSource same inTasks isSource
                    cases same
                    cases found.symm.trans inTasks
                    cases exported.symm.trans isSource
                    exact settles
                  · intro settles
                    exact settles body task source rfl found exported

/-! ## The routes -/

/-- When a route answers a recorded event with `ok`. -/
def Route.Settles (py : Platform) (moment : RequestMoment) (request : Request)
    (server : MonitorServer) : Route → Prop
  | .relay => RelaySettles py moment request server
  | .file => FileSettles py moment request server
  | .task => TaskSettles py moment request server
  | .export _ => ExportSettles py moment request server

/-- The event of a request is recorded. -/
def Recorded (py : Platform) (moment : RequestMoment) (request : Request) (route : Route)
    (server : MonitorServer) : Prop :=
  (respond py moment request route server).2.vault.ledger ≠ server.vault.ledger

theorem recorded_isOk_iff_settled {moment : RequestMoment} {request : Request} {route : Route}
    {server : MonitorServer} :
    (Recorded py moment request route server → (respond py moment request route server).1.isOk) ↔
      Settled server ((route.handler py moment request).run server) := by
  have sameLedger : (respond py moment request route server).2.vault.ledger =
      ((route.handler py moment request).run server).2.vault.ledger := by
    unfold respond
    split <;> next ran => rw [ran]
  rw [Recorded, Settled, isOk_respond_iff, sameLedger]

/-- A request whose event is recorded is answered with `ok`, except where the vault does
not apply the event of a relay or cannot save it or that of a file, where the file system fails
when a task is stored again, and where an exported task or the path of a file is not fit to be
forwarded. -/
theorem recorded_isOk_iff (moment : RequestMoment) (request : Request) (route : Route)
    (server : MonitorServer) :
    (Recorded py moment request route server → (respond py moment request route server).1.isOk) ↔
      route.Settles py moment request server := by
  rw [recorded_isOk_iff_settled]
  cases route with
  | relay => exact settled_relay_iff moment request server
  | file => exact settled_file_iff moment request server
  | task => exact settled_task_iff moment request server
  | «export» clientIp => exact settled_export_iff moment clientIp request server

/-- The payload of a request to write `hi` to the file `~/x`. -/
def homeFile : JsonObject :=
  ((JsonObject.empty.setText (lit "action") (lit "write")).setText (lit "path")
    (lit "collab/~/x")).setText (lit "content") (lit "hi")

theorem checkContent_hi : checkContent (.str (lit "hi")) = .ok (lit "hi") := by
  have encoded : encodeUtf8 (lit "hi") = some (String.ofList ['h', 'i']).toByteArray :=
    encodeUtf8_eq_some.mpr ⟨['h', 'i'], rfl, rfl⟩
  rw [checkContent, encoded]
  rfl

/-- The file is written and recorded, but its path looks like one in somebody's home, so
that the copy for the partner is not signed and the request fails. -/
theorem recorded_file_fails :
    ∃ body : JsonObject,
      let request : Request := ⟨some nodeA, false, none, some body⟩
      Recorded .plain .epoch request .file (.idle [lit "http://b"]) ∧
        ¬(respond .plain .epoch request .file (.idle [lit "http://b"])).1.isOk := by
  obtain ⟨envelope, isOp, isPayload, verifies⟩ := @exists_verifies (lit "file_update") homeFile
    (by decide) rfl rfl ⟨encodable_lit _, encodable_lit _, encodable_lit _, encodable_lit _,
      encodable_lit _, encodable_lit _, trivial⟩
  have fields : signedBody? envelope.object = some ⟨lit "file_update", homeFile, envelope.sig⟩ := by
    simp [signedBody?, isOp, isPayload]
  obtain ⟨signed, sameFields, vouched, -⟩ := vouched_of_verifies verifies
  obtain rfl : signed = _ := Option.some.inj (sameFields.symm.trans fields)
  refine ⟨envelope.object, Classical.not_imp.mp ?_⟩
  rw [recorded_isOk_iff_settled]
  intro settled
  have settles := (settled_file_iff _ _ _).mp settled
  have accepted : AcceptedBody .plain .epoch ⟨some nodeA, false, none, some envelope.object⟩
      (MonitorServer.idle [lit "http://b"]).trust nodeA envelope.object
      ⟨lit "file_update", homeFile, envelope.sig⟩ := ⟨rfl, rfl, rfl, verifies, fields⟩
  have records : (CollabVault.fresh []).Records .plain Moment.epoch (lit "a") (lit "file_update")
      (filePayload (lit "~/x")) envelope.sig :=
    ⟨chainVerified_fresh [], canonical_newEntry_iff.mpr ⟨rfl, encodable_lit _, encodable_lit _,
      ⟨encodable_lit _, encodable_lit _, encodable_lit _, encodable_lit _, trivial⟩,
      encodable_of_plain vouched.sig⟩⟩
  obtain ⟨-, forwardable⟩ := settles nodeA envelope.object _ accepted rfl rfl
    [lit "~", lit "x"] (lit "hi") ⟨checkContent_hi, rfl, rfl⟩ records
  have refused : validatePayload .plain (filePayload (lit "~/x")).toJson = .error .personalPath := rfl
  cases refused.symm.trans (forwardable rfl).policy

end HermesMesh.Server
