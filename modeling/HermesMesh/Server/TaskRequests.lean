import HermesMesh.Collab.Vault.TaskTable
import HermesMesh.Collab.Vault.TaskFolders
import HermesMesh.Server.Forwarding

/-!
# Claiming and completing a task

A request to claim or to complete a task carries some fields of it.  The handler sets the
status and the node in these fields and stores them as the whole task, so that what the
request does not carry is lost.
-/

namespace HermesMesh.Server

open Python Foundation Foundation.Action Collab MonitorServer

variable {py : Platform}

/-- The field that names the node of a request, for the actions that set one. -/
def actorField? : Json → Option PyStr
  | .str action =>
      if action = lit "claim" then some (lit "claimed_by")
      else if action = lit "complete" ∨ action = lit "done" then some (lit "completed_by")
      else none
  | _ => none

/-- The fields of the task that a request carries. -/
def requestedFields (payload : JsonObject) : JsonObject :=
  (payload.getObject? (lit "task")).getD (payload.erase (lit "action"))

/-- What a request may change: the status, the node, the time, and what it carries. -/
def MayChange (field : PyStr) (fields : JsonObject) (key : PyStr) : Prop :=
  key = lit "status" ∨ key = field ∨ key = lit "updated_at" ∨ (fields.get? key).isSome = true

/-- The task is listed, and has the fields of the old one but for those that may change. -/
structure KeepsFields (old : JsonObject) (may : PyStr → Prop) (taskId : PyStr) (tasks : TaskTable) :
    Prop where
  listed : ∃ bucket, ∃ stored ∈ tasks bucket, stored.get? (lit "id") = some (.str taskId)
  kept : ∀ bucket, ∀ stored ∈ tasks bucket, stored.get? (lit "id") = some (.str taskId) →
    ∀ key, ¬may key → stored.get? key = old.get? key

/-! ## The table after a request -/

/-- A task that has been stored is stored again as it is. -/
theorem storedTask_storedTask (moment again : Moment) (taskId : PyStr) (status : TaskStatus)
    (task : JsonObject) :
    CollabVault.storedTask again taskId status (CollabVault.storedTask moment taskId status task) =
      CollabVault.storedTask moment taskId status task := by
  have hasTime : ((CollabVault.storedTask moment taskId status task).get?
      (lit "updated_at")).isSome = true := by
    unfold CollabVault.storedTask
    dsimp only
    split
    · next present => exact present
    · rw [JsonObject.get?_setText_self]
      rfl
  generalize isStored : CollabVault.storedTask moment taskId status task = stored at hasTime
  have isId : stored.get? (lit "id") = some (.str taskId) := by
    rw [← isStored]
    exact get?_storedTask_id moment taskId status task
  have isStatus : stored.get? (lit "status") = some (.str status.text) := by
    rw [← isStored]
    exact get?_storedTask_status moment taskId status task
  unfold CollabVault.storedTask
  dsimp only
  rw [JsonObject.setText_eq_self isId, JsonObject.setText_eq_self isStatus, if_pos hasTime]

theorem taskIdText_of_id {moment : Moment} {task : JsonObject} {taskId : PyStr}
    (isId : task.get? (lit "id") = some (.str taskId)) (nonempty : taskId ≠ []) :
    CollabVault.taskIdText py moment task = taskId := by
  have isTrue : (Json.str taskId).truthy = true := by simpa [Json.truthy] using nonempty
  rw [CollabVault.taskIdText, isId, CollabVault.textOr, if_pos isTrue, Json.pyStr_str]

/-- The event of a task that has just been stored stores it once more. -/
theorem storing?_savedTask {moment : RequestMoment} {task : JsonObject} {status : TaskStatus} :
    storing? py moment.append (savedTask py moment task status) =
      some ⟨CollabVault.taskIdText py moment.upsert task, status, savedTask py moment task status⟩ := by
  have isId : CollabVault.taskIdText py moment.append (savedTask py moment task status) =
      CollabVault.taskIdText py moment.upsert task :=
    taskIdText_of_id (get?_storedTask_id _ _ _ _) (taskIdText_ne_nil _ _)
  have again := storedTask_storedTask moment.upsert moment.append
    (CollabVault.taskIdText py moment.upsert task) status task
  rw [storing?, savedTask, taskStatus?_storedTask, Option.map_some, ← savedTask, isId]
  exact congrArg (fun stored => some (Storing.mk _ status stored)) again

/-- A handler that answers an exception of its first part with a refusal succeeds only where
that part returns. -/
theorem run_attempt_of_isOk {α : Type} {action : Handler α} {rest : Except String α → Handler Reply}
    {refusal : String → Reply} (onError : ∀ reason, rest (.error reason) = pure (refusal reason))
    (refuses : ∀ reason, ¬(refusal reason).isOk) {server after : MonitorServer} {reply : Reply}
    (ran : (action.attempt vaultMessage? >>= rest).run server = (.ok reply, after))
    (isOk : reply.isOk) :
    ∃ value middle, action.run server = (.ok value, middle) ∧
      (rest (.ok value)).run middle = (.ok reply, after) := by
  obtain ⟨outcome, middle, attempts, next⟩ := run_bind_eq_ok.mp ran
  rw [run_attempt] at attempts
  rcases first : action.run server with ⟨fault | value, left⟩
  · rw [first, attempted] at attempts
    cases message : vaultMessage? fault with
    | none =>
        rw [message] at attempts
        cases attempts
    | some reason =>
        rw [message] at attempts
        cases attempts
        rw [onError] at next
        cases next
        exact absurd isOk (refuses reason)
  · rw [first, attempted] at attempts
    cases attempts
    exact ⟨value, left, rfl, next⟩

theorem run_onVault_eq_ok {α : Type} {action : Action CollabVault Fault α}
    {server middle : MonitorServer} {value : α}
    (ran : (onVault action).run server = (.ok value, middle)) :
    ∃ vault, action.run server.vault = (.ok value, vault) ∧ middle = server.withVault vault := by
  rw [run_onVault] at ran
  obtain ⟨returned, isMiddle⟩ := Prod.mk.inj ran
  exact ⟨_, Prod.ext returned rfl, isMiddle.symm⟩

/-- A check of the chain that returns has changed nothing. -/
theorem vault_of_clean {vault after : CollabVault}
    (checked : (CollabVault.ensureAuditClean py).run vault = (.ok (), after)) : after = vault := by
  cases verified : vault.chainVerified py with
  | true =>
      rw [CollabVault.run_ensureAuditClean_of_verified verified] at checked
      exact (Prod.mk.inj checked).2.symm
  | false =>
      rw [CollabVault.run_ensureAuditClean_of_tampered verified] at checked
      cases checked

/-- A task that is stored, and whose event is then applied, is put into its place twice. -/
theorem tasks_of_recorded {moment : RequestMoment} {node : PyStr} {action : JsonValue}
    {task saved : JsonObject} {sig : PyStr} {vault middle last : CollabVault} {entry : LedgerEntry}
    (upserted : (CollabVault.upsertTask py moment.upsert task).run vault = (.ok saved, middle))
    (appended : (CollabVault.appendEvent py moment.append node (lit "task") (taskPayload action saved)
      sig).run middle = (.ok entry, last)) :
    ∃ status, CollabVault.taskStatus? py task = some status ∧
      saved = savedTask py moment task status ∧
      last.state.tasks = CollabVault.placeTask (CollabVault.taskIdText py moment.upsert task) status
        saved (CollabVault.placeTask (CollabVault.taskIdText py moment.upsert task) status saved
          vault.state.tasks) := by
  obtain ⟨storing, isStoring, stored⟩ := hasStored_upsertTask upserted
  obtain ⟨status, stores, rfl⟩ := upsertTask_eq_ok_iff.mp (congrArg Prod.fst upserted)
  rw [storing?, stores.known, Option.map_some, Option.some.injEq] at isStoring
  subst isStoring
  refine ⟨status, stores.known, rfl, ?_⟩
  -- The event of the task stores it again.
  have isTrue : ((savedTask py moment task status).getD (lit "id") .null).truthy = true := by
    rw [savedTask, JsonObject.getD, get?_storedTask_id, Option.getD_some]
    simpa [Json.truthy] using taskIdText_ne_nil moment.upsert task
  have did := did_appendEvent appended
  rw [TreeCall.storing?, eventTask_taskPayload, if_pos ⟨rfl, isTrue⟩, storing?_savedTask] at did
  exact did.tasks.trans (congrArg _ stored.tasks)

/-- The vault after a task has been stored and recorded. -/
theorem tasks_storeAndRecord {moment : RequestMoment} {node : PyStr} {action : JsonValue}
    {task : JsonObject} {sig : PyStr} {server after : MonitorServer} {reply : Reply}
    (ran : (storeAndRecord py moment node action task sig).run server = (.ok reply, after))
    (isOk : reply.isOk) :
    ∃ status, CollabVault.taskStatus? py task = some status ∧
      after.vault.state.tasks =
        CollabVault.placeTask (CollabVault.taskIdText py moment.upsert task) status
          (savedTask py moment task status)
          (CollabVault.placeTask (CollabVault.taskIdText py moment.upsert task) status
            (savedTask py moment task status) server.vault.state.tasks) := by
  obtain ⟨saved, middle, stores, recording⟩ := run_attempt_of_isOk (fun _ => rfl)
    (fun _ => not_isOk_of_status (by decide)) ran isOk
  obtain ⟨vault, upserted, rfl⟩ := run_onVault_eq_ok stores
  obtain ⟨entry, last, appends, tail⟩ := run_attempt_of_isOk (fun _ => rfl)
    (fun _ => not_isOk_of_status (by decide)) recording isOk
  obtain ⟨recorded, appended, rfl⟩ := run_onVault_eq_ok appends
  obtain ⟨status, known, rfl, tasks⟩ := tasks_of_recorded upserted appended
  obtain ⟨_, finished, vaultSame⟩ := @run_taskTail py moment action (savedTask py moment task status)
    entry ((server.withVault vault).withVault recorded)
  rw [finished] at tail
  cases tail
  rw [vaultSame]
  exact ⟨status, known, tasks⟩

/-- What an action sets in the fields of a request. -/
theorem requestedTask_of_actor {node : PyStr} {action : Json} {field : PyStr} {payload : JsonObject}
    (acts : actorField? action = some field) :
    ∃ status, requestedTask node action payload =
      .ok (((requestedFields payload).setText (lit "status") status).setText field node) := by
  unfold actorField? at acts
  split at acts
  case h_2 => cases acts
  case h_1 action =>
    split at acts
    · next claims =>
        cases acts
        subst claims
        exact ⟨lit "processing", rfl⟩
    · next notClaim =>
        split at acts
        · next completes =>
            cases acts
            refine ⟨lit "done", ?_⟩
            have isCompletion : isCompletion (.str action) = .ok true := by
              rcases completes with rfl | rfl <;> rfl
            rw [requestedTask, Json.pyEq_str, if_neg (by simpa using notClaim), isCompletion]
            rfl
        · cases acts

theorem field_of_actor {action : Json} {field : PyStr} (acts : actorField? action = some field) :
    field = lit "claimed_by" ∨ field = lit "completed_by" := by
  unfold actorField? at acts
  split at acts
  case h_2 => cases acts
  case h_1 action =>
    split at acts
    · exact .inl (Option.some.inj acts).symm
    · split at acts
      · exact .inr (Option.some.inj acts).symm
      · cases acts

/-- A request that succeeds has stored the task that it asked for. -/
theorem tasks_apiCollabTask {moment : RequestMoment} {request : Request}
    {server after : MonitorServer} {reply : Reply} {node : Peer} {body : JsonObject}
    {signed : SignedBody} (accepted : AcceptedBody py moment request server.trust node body signed)
    (ran : (apiCollabTask py moment request).run server = (.ok reply, after)) (isOk : reply.isOk) :
    ∃ task status, requestedTask node.id
        (signed.payload.getD (lit "action") (.str (lit "create"))) signed.payload = .ok task ∧
      after.vault.state.tasks =
        CollabVault.placeTask (CollabVault.taskIdText py moment.upsert task) status
          (savedTask py moment task status)
          (CollabVault.placeTask (CollabVault.taskIdText py moment.upsert task) status
            (savedTask py moment task status) server.vault.state.tasks) := by
  unfold apiCollabTask at ran
  rcases signedRequest_cases "task" moment request _ server with
    ⟨other, otherBody, otherSigned, again, -, same⟩ | ⟨refused, -, -⟩
  case inr => exact absurd accepted (refused node body signed)
  obtain ⟨rfl, rfl, rfl⟩ := accepted.unique again
  rw [same] at ran
  split at ran
  case isFalse =>
    cases ran
    exact absurd isOk (not_isOk_of_status (by decide))
  obtain ⟨task, _, wanted, checking⟩ := run_bind_eq_ok.mp ran
  rw [run_ofExcept] at wanted
  obtain ⟨isTask, rfl⟩ := Prod.mk.inj wanted
  obtain ⟨_, middle, clean, storing⟩ := run_attempt_of_isOk (fun _ => rfl)
    (fun _ => not_isOk_of_status (by decide)) checking isOk
  obtain ⟨vault, checked, rfl⟩ := run_onVault_eq_ok clean
  obtain ⟨status, -, tasks⟩ := tasks_storeAndRecord storing isOk
  rw [JsonObject.val_getValueD] at isTask
  refine ⟨task, status, isTask, ?_⟩
  rw [vault_of_clean checked] at tasks
  exact tasks

/-! ## What is kept -/

theorem get?_savedTask_of_ne {moment : RequestMoment} {task : JsonObject} {status : TaskStatus}
    {key : PyStr} (notId : key ≠ lit "id") (notStatus : key ≠ lit "status")
    (notTime : key ≠ lit "updated_at") :
    (savedTask py moment task status).get? key = task.get? key := by
  unfold savedTask CollabVault.storedTask
  dsimp only
  split <;> simp [JsonObject.get?_setText, notId, notStatus, notTime]

/-- Whatever is listed under the identifier of a task that was stored twice is that task. -/
theorem eq_of_listed {taskId : PyStr} {status bucket : TaskStatus} {saved stored : JsonObject}
    {tasks : TaskTable}
    (listed : stored ∈ CollabVault.placeTask taskId status saved
      (CollabVault.placeTask taskId status saved tasks) bucket)
    (named : stored.get? (lit "id") = some (.str taskId)) : stored = saved := by
  rcases mem_placeTask listed with ⟨-, rfl⟩ | ⟨-, other⟩
  · rfl
  · rw [hasId_of_id named, beq_self_eq_true] at other
    cases other

/-- A request to claim or to complete a task that succeeds has stored a task that has nothing
but what the request carries and what its action sets. -/
theorem exists_saved {moment : RequestMoment} {request : Request} {server after : MonitorServer}
    {reply : Reply} {node : Peer} {body : JsonObject} {signed : SignedBody} {field taskId : PyStr}
    (accepted : AcceptedBody py moment request server.trust node body signed)
    (acts : actorField? (signed.payload.getD (lit "action") (.str (lit "create"))) = some field)
    (ran : (apiCollabTask py moment request).run server = (.ok reply, after)) (isOk : reply.isOk)
    (named : CollabVault.taskIdText py moment.upsert (requestedFields signed.payload) = taskId) :
    ∃ status saved, saved.get? (lit "id") = some (.str taskId) ∧
      (∀ key, key ≠ lit "id" → ¬MayChange field (requestedFields signed.payload) key →
        saved.get? key = none) ∧
      saved ∈ after.vault.state.tasks status ∧
      ∀ bucket, ∀ stored ∈ after.vault.state.tasks bucket,
        stored.get? (lit "id") = some (.str taskId) → stored = saved := by
  obtain ⟨task, status, isTask, tasks⟩ := tasks_apiCollabTask accepted ran isOk
  obtain ⟨state, wanted⟩ := @requestedTask_of_actor node.id _ _ signed.payload acts
  rw [wanted] at isTask
  cases isTask
  have notField : field ≠ lit "id" := by
    rcases field_of_actor acts with rfl | rfl <;> simp
  have sameId : CollabVault.taskIdText py moment.upsert (((requestedFields signed.payload).setText
      (lit "status") state).setText field node.id) = taskId := by
    rw [← named, CollabVault.taskIdText, CollabVault.taskIdText, JsonObject.get?_setText,
      if_neg (Ne.symm notField), JsonObject.get?_setText, if_neg (by simp)]
  rw [sameId] at tasks
  refine ⟨status, savedTask py moment (((requestedFields signed.payload).setText (lit "status")
    state).setText field node.id) status, ?_, ?_, ?_, ?_⟩
  · rw [savedTask, get?_storedTask_id, sameId]
  · intro key notId fixed
    simp only [MayChange, not_or, Bool.not_eq_true, Option.isSome_eq_false_iff,
      Option.isNone_iff_eq_none] at fixed
    obtain ⟨notStatus, notActor, notTime, absent⟩ := fixed
    rw [get?_savedTask_of_ne notId notStatus notTime, JsonObject.get?_setText, if_neg notActor,
      JsonObject.get?_setText, if_neg notStatus, absent]
  · rw [tasks]
    exact List.mem_of_getLast? (@Buckets.getLast?_place_target _ _ _ _ 199 _ _ _)
  · intro bucket stored listed isId
    rw [tasks] at listed
    exact eq_of_listed listed isId

/-! ## A claim that loses a title -/

theorem run_attempt_onVault {α : Type} {action : Action CollabVault Fault α}
    {rest : Except String α → Handler Reply} {server : MonitorServer} {value : α}
    (returned : (action.run server.vault).1 = .ok value) :
    ((onVault action).attempt vaultMessage? >>= rest).run server =
      (rest (.ok value)).run (server.withVault (action.run server.vault).2) := by
  apply run_bind_ok
  rw [run_attempt, run_onVault, returned]
  rfl

/-- What is stored and recorded is answered with `ok`. -/
theorem succeeds_storeAndRecord {moment : RequestMoment} {node : PyStr} {action : JsonValue}
    {task : JsonObject} {status : TaskStatus} {sig : PyStr} {server : MonitorServer}
    (stores : StoresTask py moment server.vault task status) (again : moment.append.storesTasks)
    (records : server.vault.Records py moment.append node (lit "task")
      (taskPayload action (savedTask py moment task status)) sig) :
    Succeeds ((storeAndRecord py moment node action task sig).run server) := by
  have upserted : ((CollabVault.upsertTask py moment.upsert task).run server.vault).1 =
      .ok (savedTask py moment task status) := upsertTask_eq_ok_iff.mpr ⟨status, stores, rfl⟩
  have kept := CollabVault.within_files_upsertTask py moment.upsert task server.vault
  have recorded := (records_of_files kept).mpr records
  have applies := (applies_taskPayload_iff stores.writable recorded).mpr again
  have appended := appendEvent_eq_ok.mpr ⟨recorded, applies, rfl⟩
  rw [storeAndRecord, run_attempt_onVault upserted]
  dsimp only
  rw [run_attempt_onVault appended]
  obtain ⟨last, finished, -⟩ := run_taskTail _
  exact ⟨_, congrArg Prod.fst finished, isOk_taskReply _ _⟩

/-- A task with no more than an identifier. -/
def untitled : JsonObject := JsonObject.empty.setText (lit "id") (lit "x")

/-- The same task with a title. -/
def titled : JsonObject := untitled.setText (lit "title") (lit "t")

/-- A server whose vault has stored a task. -/
def storingServer (task : JsonObject) : MonitorServer :=
  { MonitorServer.idle [] with
    vault := ((CollabVault.upsertTask .plain .epoch task).run (.fresh [])).2 }

/-- The payload of a request to claim the task by its identifier. -/
def claimX : JsonObject :=
  (JsonObject.empty.setText (lit "action") (lit "claim")).setObject (lit "task")
    (JsonObject.empty.setText (lit "id") (lit "x"))

/-- The task that the claim stores. -/
def claimedX : JsonObject :=
  ((JsonObject.empty.setText (lit "id") (lit "x")).setText (lit "status") (lit "processing")).setText
    (lit "claimed_by") (lit "a")

theorem claimedX_status : CollabVault.taskStatus? .plain claimedX = some .processing := by
  decide +kernel

section Claim

variable {task : JsonObject} (pending : CollabVault.taskStatus? .plain task = some .pending)

include pending

theorem listed_storingServer (named : CollabVault.taskIdText .plain .epoch task = lit "x") :
    CollabVault.storedTask .epoch (lit "x") .pending task ∈
      (storingServer task).vault.state.tasks .pending := by
  change _ ∈ ((CollabVault.upsertTask .plain .epoch task).run (.fresh [])).2.state.tasks .pending
  rw [state_upsertTask pending, named, CollabVault.withTask]
  dsimp only
  exact mem_placeTask_self _ _ _ _

/-- The claim succeeds. -/
theorem exists_claim (legible : task.toJson.AllStrings Encodable) : ∃ body signed reply after,
    AcceptedBody .plain .epoch ⟨some nodeA, false, none, some body⟩ (storingServer task).trust nodeA
        body signed ∧ signed.payload = claimX ∧
      (apiCollabTask .plain .epoch ⟨some nodeA, false, none, some body⟩).run (storingServer task) =
        (.ok reply, after) ∧ reply.isOk := by
  obtain ⟨envelope, isOp, isPayload, verifies⟩ := @exists_verifies (lit "task") claimX
    (by decide) rfl rfl ⟨encodable_lit _, encodable_lit _, encodable_lit _,
      ⟨encodable_lit _, encodable_lit _, trivial⟩, trivial⟩
  have fields : signedBody? envelope.object = some ⟨lit "task", claimX, envelope.sig⟩ := by
    simp [signedBody?, isOp, isPayload]
  obtain ⟨signed, sameFields, vouched, -⟩ := vouched_of_verifies verifies
  obtain rfl : signed = _ := Option.some.inj (sameFields.symm.trans fields)
  have accepted : AcceptedBody .plain .epoch ⟨some nodeA, false, none, some envelope.object⟩
      (storingServer task).trust nodeA envelope.object ⟨lit "task", claimX, envelope.sig⟩ :=
    ⟨rfl, rfl, rfl, verifies, fields⟩
  have run : Succeeds ((apiCollabTask .plain .epoch
      ⟨some nodeA, false, none, some envelope.object⟩).run (storingServer task)) := by
    rcases signedRequest_cases "task" .epoch ⟨some nodeA, false, none, some envelope.object⟩
      _ (storingServer task) with ⟨other, otherBody, otherSigned, again, -, same⟩ | ⟨refused, -, -⟩
    case inr => exact absurd accepted (refused _ _ _)
    obtain ⟨rfl, rfl, rfl⟩ := accepted.unique again
    unfold apiCollabTask
    rw [same, if_pos rfl]
    dsimp only
    have wanted : requestedTask nodeA.id (claimX.getValueD (lit "action") (.ofText (lit "create"))).val
        claimX = .ok claimedX := rfl
    rw [wanted, run_bind_ok (run_ofExcept _ _)]
    have stored : StoresTask .plain .epoch (.fresh []) task .pending :=
      ⟨pending, ⟨rfl, rfl⟩, VaultState.writable_default.stored legible⟩
    have writable : (storingServer task).vault.state.Writable := stored.writable
    have kept := CollabVault.within_files_upsertTask .plain .epoch task (.fresh [])
    have records : (CollabVault.fresh []).Records .plain Moment.epoch nodeA.id (lit "task")
        (taskPayload (.ofText (lit "claim")) (savedTask .plain .epoch claimedX .processing))
          envelope.sig := by
      refine ⟨chainVerified_fresh [], canonical_newEntry_iff.mpr ⟨rfl, encodable_lit _,
        encodable_lit _, ?_, encodable_of_plain vouched.sig⟩⟩
      exact ⟨encodable_lit _, encodable_lit _, encodable_lit _, ⟨encodable_lit _, encodable_lit _,
        encodable_lit _, encodable_lit _, encodable_lit _, encodable_lit _, encodable_lit _,
        encodable_lit _, trivial⟩, trivial⟩
    have again : (storingServer task).vault.Records .plain Moment.epoch nodeA.id (lit "task")
        (taskPayload (.ofText (lit "claim")) (savedTask .plain .epoch claimedX .processing))
          envelope.sig := (records_of_files kept).mpr records
    have clean : ((CollabVault.ensureAuditClean .plain).run
        ((storingServer task).afterVerify .plain .epoch nodeA envelope.object).vault).1 = .ok () :=
      congrArg Prod.fst (CollabVault.run_ensureAuditClean_of_verified again.1)
    have left : ((CollabVault.ensureAuditClean .plain).run
        ((storingServer task).afterVerify .plain .epoch nodeA envelope.object).vault).2 =
          (storingServer task).vault :=
      congrArg Prod.snd (CollabVault.run_ensureAuditClean_of_verified again.1)
    rw [run_attempt_onVault clean, left]
    refine succeeds_storeAndRecord ⟨claimedX_status, ⟨rfl, rfl⟩, writable.stored ?_⟩ ⟨rfl, rfl⟩ again
    exact ⟨encodable_lit _, encodable_lit _, encodable_lit _, encodable_lit _, encodable_lit _,
      encodable_lit _, trivial⟩
  obtain ⟨reply, replied, isOk⟩ := run
  exact ⟨envelope.object, _, reply, _, accepted, rfl, Prod.ext replied rfl, isOk⟩

end Claim

/-! ## The condition -/

/-- A request to claim or to complete a task that succeeds keeps what it does not carry of the
task exactly where the task has no other fields. -/
theorem keepsFields_iff {moment : RequestMoment} {request : Request} {server after : MonitorServer}
    {reply : Reply} {node : Peer} {body : JsonObject} {signed : SignedBody} {field taskId : PyStr}
    (accepted : AcceptedBody py moment request server.trust node body signed)
    (acts : actorField? (signed.payload.getD (lit "action") (.str (lit "create"))) = some field)
    (ran : (apiCollabTask py moment request).run server = (.ok reply, after)) (isOk : reply.isOk)
    (named : CollabVault.taskIdText py moment.upsert (requestedFields signed.payload) = taskId) :
    ∀ bucket, ∀ old ∈ server.vault.state.tasks bucket, old.get? (lit "id") = some (.str taskId) →
      (KeepsFields old (MayChange field (requestedFields signed.payload)) taskId
          after.vault.state.tasks ↔
        ∀ key value, old.get? key = some value →
          key = lit "id" ∨ MayChange field (requestedFields signed.payload) key) := by
  obtain ⟨status, saved, savedId, savedKey, savedListed, unique⟩ :=
    exists_saved accepted acts ran isOk named
  intro bucket old _ oldId
  constructor
  · intro keeps key value found
    by_contra lost
    obtain ⟨notId, fixed⟩ := not_or.mp lost
    have kept := keeps.kept status saved savedListed savedId key fixed
    rw [savedKey key notId fixed, found] at kept
    cases kept
  · intro carried
    refine ⟨⟨status, saved, savedListed, savedId⟩, fun other stored listed isId key fixed => ?_⟩
    rw [unique other stored listed isId]
    by_cases isKey : key = lit "id"
    · rw [isKey, savedId, oldId]
    · rw [savedKey key isKey fixed]
      cases found : old.get? key with
      | none => rfl
      | some value => exact absurd (carried key value found) (not_or.mpr ⟨isKey, fixed⟩)

theorem actorField_claimX : actorField? (claimX.getD (lit "action") (.str (lit "create"))) =
    some (lit "claimed_by") := rfl

theorem taskIdText_claimX :
    CollabVault.taskIdText .plain RequestMoment.epoch.upsert (requestedFields claimX) = lit "x" := rfl

/-- The claim of a task without a title keeps the task. -/
theorem keepsFields_claimX : ∃ body signed reply after,
    (apiCollabTask .plain .epoch ⟨some nodeA, false, none, some body⟩).run (storingServer untitled) =
        (.ok reply, after) ∧ reply.isOk ∧ signedBody? body = some signed ∧
      signed.payload = claimX ∧
      ∃ old ∈ (storingServer untitled).vault.state.tasks .pending,
        old.get? (lit "id") = some (.str (lit "x")) ∧
        KeepsFields old (MayChange (lit "claimed_by") (requestedFields claimX)) (lit "x")
          after.vault.state.tasks := by
  have pending : CollabVault.taskStatus? .plain untitled = some .pending := by decide +kernel
  obtain ⟨body, signed, reply, after, accepted, isClaim, ran, isOk⟩ :=
    exists_claim pending ⟨encodable_lit _, encodable_lit _, trivial⟩
  have listed := listed_storingServer pending rfl
  refine ⟨body, signed, reply, after, ran, isOk, accepted.fields, isClaim, _, listed,
    get?_storedTask_id _ _ _ _, ?_⟩
  have keeps := @keepsFields_iff .plain _ _ _ _ _ _ _ _ (lit "claimed_by") (lit "x") accepted
    (isClaim ▸ actorField_claimX) ran isOk (isClaim ▸ taskIdText_claimX) .pending _ listed
    (get?_storedTask_id _ _ _ _)
  rw [isClaim] at keeps
  refine keeps.mpr fun key value found => ?_
  by_cases isId : key = lit "id"
  · exact .inl isId
  by_cases isStatus : key = lit "status"
  · exact .inr (.inl isStatus)
  by_cases isTime : key = lit "updated_at"
  · exact .inr (.inr (.inr (.inl isTime)))
  have absent := @get?_savedTask_of_ne .plain .epoch untitled .pending key isId isStatus isTime
  rw [savedTask, untitled, JsonObject.get?_setText, if_neg isId] at absent
  cases absent.symm.trans found

/-- The title of the task is lost when a node claims it by its identifier. -/
theorem title_lost : ∃ body signed reply after,
    (apiCollabTask .plain .epoch ⟨some nodeA, false, none, some body⟩).run (storingServer titled) =
        (.ok reply, after) ∧ reply.isOk ∧ signedBody? body = some signed ∧
      signed.payload = claimX ∧
      ∃ old ∈ (storingServer titled).vault.state.tasks .pending,
        old.get? (lit "id") = some (.str (lit "x")) ∧
        ¬KeepsFields old (MayChange (lit "claimed_by") (requestedFields signed.payload)) (lit "x")
          after.vault.state.tasks := by
  have pending : CollabVault.taskStatus? .plain titled = some .pending := by decide +kernel
  obtain ⟨body, signed, reply, after, accepted, isClaim, ran, isOk⟩ := exists_claim pending
    ⟨encodable_lit _, encodable_lit _, encodable_lit _, encodable_lit _, trivial⟩
  have listed := listed_storingServer pending rfl
  refine ⟨body, signed, reply, after, ran, isOk, accepted.fields, isClaim, _, listed,
    get?_storedTask_id _ _ _ _, fun keeps => ?_⟩
  obtain ⟨status, saved, savedId, savedKey, savedListed, -⟩ := @exists_saved .plain _ _ _ _ _ _ _ _
    (lit "claimed_by") (lit "x") accepted (isClaim ▸ actorField_claimX) ran isOk
    (isClaim ▸ taskIdText_claimX)
  have fixed : ¬MayChange (lit "claimed_by") (requestedFields signed.payload) (lit "title") := by
    rw [isClaim]
    rintro (same | same | same | carried)
    · exact absurd same (by decide)
    · exact absurd same (by decide)
    · exact absurd same (by decide)
    · exact absurd carried (by decide)
  have kept := keeps.kept status saved savedListed savedId (lit "title") fixed
  rw [savedKey (lit "title") (by decide) fixed] at kept
  cases kept

end HermesMesh.Server
