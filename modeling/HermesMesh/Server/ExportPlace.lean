import HermesMesh.Server.LocalTasks
import HermesMesh.Server.TaskRequests

/-!
# The place of an exported task

An export looks for a task folder by folder, and stores it by the status that the file of
the task names.  Nothing makes a file name the folder that it lies in.
-/

namespace HermesMesh.Server

open Python Foundation Foundation.Action Collab MonitorServer

variable {py : Platform}

/-- The board of the local queue beside the rest of the server. -/
structure Monitor where
  board : Board
  server : MonitorServer

namespace Monitor

def onServer {α : Type} (action : Handler α) : Action Monitor Fault α :=
  .zoom Monitor.server (fun server monitor => { monitor with server := server }) action

def onBoard {α : Type} (action : Action Board Fault α) : Action Monitor Fault α :=
  .zoom Monitor.board (fun board monitor => { monitor with board := board }) action

end Monitor

/-- The loop of `api_collab_export` over the buckets, with the one that has the task. -/
def Board.search (py : Platform) (taskId : PyStr) (board : Board) :
    List TaskStatus → Option (TaskStatus × LocalTask)
  | [] => none
  | bucket :: rest =>
      match (board bucket).find? fun task => task.id.val.pyStr py.unicode == taskId with
      | some task => some (bucket, task)
      | none => board.search py taskId rest

/-- `api_collab_export` with the scan that it begins with. -/
def scanAndExport (py : Platform) (moment : RequestMoment) (clientIp : PyStr)
    (folders : LocalFolders) (request : Request) : Action Monitor Fault Reply :=
  if request.writeAllowed then
    match request.retryAfter, request.body with
    | some retryAfter, _ =>
        Monitor.onServer (limitedReply moment "collab-export" clientIp retryAfter)
    | none, none => return badRequest
    | none, some body => do
        Monitor.onBoard (scanTasks folders)
        let monitor ← .read
        match monitor.board.search py (requestedId py body) TaskStatus.all with
        | none => return errorReply 404 "internal task not found"
        | some (_, task) => Monitor.onServer (exportAndRecord py moment task)
  else return errorReply 403 "owner or write-token required"

/-- The status of a task's file is one that an export keeps in its folder. -/
def Fits : TaskStatus → Json → Prop
  | .processing, status => status = .str (lit "working") ∨ status = .str (lit "processing")
  | .done, status => status = .str (lit "done")
  | .pending, status => ∀ other ∈ ["working", "processing", "done"], status ≠ .str (lit other)

/-! ## The search -/

/-- The search finds what the list of all the tasks holds first. -/
theorem search_map_snd (taskId : PyStr) (board : Board) (buckets : List TaskStatus) :
    (board.search py taskId buckets).map Prod.snd =
      (buckets.flatMap board).find? fun task => task.id.val.pyStr py.unicode == taskId := by
  induction buckets with
  | nil => rfl
  | cons bucket rest ih =>
      rw [Board.search, List.flatMap_cons, List.find?_append]
      cases found : (board bucket).find? fun task => task.id.val.pyStr py.unicode == taskId with
      | some task => rfl
      | none => exact ih

/-- Once the board is scanned, the export is that of a server with its tasks. -/
theorem scanAndExport_agrees {moment : RequestMoment} {clientIp : PyStr} {folders : LocalFolders}
    {request : Request} {monitor : Monitor} {board : Board}
    (scanned : (scanTasks folders).run monitor.board = (.ok (), board))
    (sameTasks : monitor.server.localTasks = TaskStatus.all.flatMap board) :
    ((scanAndExport py moment clientIp folders request).run monitor).1 =
        ((apiCollabExport py moment clientIp request).run monitor.server).1 ∧
      ((scanAndExport py moment clientIp folders request).run monitor).2.server =
        ((apiCollabExport py moment clientIp request).run monitor.server).2 := by
  unfold scanAndExport apiCollabExport
  by_cases allowed : request.writeAllowed = true
  case neg =>
    rw [if_neg allowed, if_neg allowed]
    exact ⟨rfl, rfl⟩
  rw [if_pos allowed, if_pos allowed]
  cases request.retryAfter with
  | some retryAfter => exact ⟨rfl, rfl⟩
  | none =>
      cases request.body with
      | none => exact ⟨rfl, rfl⟩
      | some body =>
          have scans : (Monitor.onBoard (scanTasks folders)).run monitor =
              (.ok (), ⟨board, monitor.server⟩) := by
            rw [Monitor.onBoard, run_zoom, scanned]
          have same := @search_map_snd py (requestedId py body) board TaskStatus.all
          dsimp only
          rw [run_bind_ok scans, run_bind_ok (run_read _), run_bind_ok (run_read _), sameTasks, ← same]
          dsimp only
          cases board.search py (requestedId py body) TaskStatus.all with
          | none => exact ⟨rfl, rfl⟩
          | some found => exact ⟨rfl, rfl⟩

/-! ## The bucket of an exported task -/

/-- The bucket that an exported task gets is the one folder that its status fits. -/
theorem exportStatus_cases {value : Json} {text : PyStr} (exported : exportStatus value = .ok text) :
    ∃ bucket : TaskStatus, text = bucket.text ∧ ∀ folder, folder = bucket ↔ Fits folder value := by
  cases value with
  | str status =>
      rw [exportStatus, Except.ok.injEq] at exported
      by_cases working : status = lit "working" ∨ status = lit "processing"
      · rw [if_pos working] at exported
        refine ⟨.processing, exported.symm, fun folder => ?_⟩
        rcases working with rfl | rfl <;> cases folder <;> simp [Fits]
      · rw [if_neg working] at exported
        by_cases isDone : status = lit "done"
        · rw [if_pos isDone] at exported
          refine ⟨.done, exported.symm, fun folder => ?_⟩
          subst isDone
          cases folder <;> simp [Fits]
        · rw [if_neg isDone] at exported
          obtain ⟨notWorking, notProcessing⟩ := not_or.mp working
          refine ⟨.pending, exported.symm, fun folder => ?_⟩
          cases folder <;> simp [Fits, notWorking, notProcessing, isDone]
  | arr => cases exported
  | obj => cases exported
  | _ =>
      cases exported
      refine ⟨.pending, rfl, fun folder => ?_⟩
      cases folder <;> simp [Fits]

/-- Telling the dashboards and the partners leaves the vault. -/
theorem run_announceAndForward_eq_ok {moment : RequestMoment} {entry : LedgerEntry} {op : PyStr}
    {payload : JsonObject} {reply other : Reply} {server after : MonitorServer}
    (ran : (announceAndForward py moment entry op payload reply).run server = (.ok other, after)) :
    other = reply ∧ after.vault = server.vault := by
  rw [announceAndForward, run_bind_ok (run_announce moment entry server)] at ran
  obtain ⟨_, middle, forwards, returns⟩ := run_bind_eq_ok.mp ran
  cases returns
  have kept := @within_shown_forwardIfReady py moment 0 op payload
    (server.telling (announcements moment entry))
  rw [forwards] at kept
  exact ⟨rfl, congrArg Prod.fst kept⟩

/-- An export that succeeds has stored the task of its reply, with the status that it was
exported with. -/
theorem tasks_exportAndRecord {moment : RequestMoment} {task : LocalTask}
    {server after : MonitorServer} {reply : Reply}
    (ran : (exportAndRecord py moment task).run server = (.ok reply, after)) (isOk : reply.isOk) :
    ∃ source status, exportedTask task = .ok source ∧
      CollabVault.taskStatus? py source = some status ∧
      reply.body.get? (lit "task") = some (savedTask py moment source status).toJson ∧
      after.vault.state.tasks =
        CollabVault.placeTask (CollabVault.taskIdText py moment.upsert source) status
          (savedTask py moment source status)
          (CollabVault.placeTask (CollabVault.taskIdText py moment.upsert source) status
            (savedTask py moment source status) server.vault.state.tasks) := by
  obtain ⟨source, _, exported, storing⟩ := run_bind_eq_ok.mp ran
  rw [run_ofExcept] at exported
  obtain ⟨isSource, rfl⟩ := Prod.mk.inj exported
  obtain ⟨⟨saved, entry⟩, middle, stores, telling⟩ := run_attempt_of_isOk (fun _ => rfl)
    (fun _ => not_isOk_of_status (by decide)) storing isOk
  -- The vault checks its chain, stores the task and appends the event.
  obtain ⟨_, _, checking, storing⟩ := run_bind_eq_ok.mp stores
  obtain ⟨clean, checked, rfl⟩ := run_onVault_eq_ok checking
  obtain rfl := vault_of_clean checked
  obtain ⟨task, _, upserting, appending⟩ := run_bind_eq_ok.mp storing
  obtain ⟨vault, upserted, rfl⟩ := run_onVault_eq_ok upserting
  rw [run_bind_ok (run_read _)] at appending
  obtain ⟨appended, _, recording, returns⟩ := run_bind_eq_ok.mp appending
  obtain ⟨recorded, appends, rfl⟩ := run_onVault_eq_ok recording
  cases returns
  obtain ⟨status, known, rfl, tasks⟩ := tasks_of_recorded upserted appends
  obtain ⟨rfl, kept⟩ := run_announceAndForward_eq_ok telling
  refine ⟨source, status, isSource, known, rfl, ?_⟩
  rw [kept]
  exact tasks

theorem taskStatus?_exportedTask {task : LocalTask} {source : JsonObject} {bucket : TaskStatus}
    (status : exportStatus task.status.val = .ok bucket.text)
    (exported : exportedTask task = .ok source) :
    CollabVault.taskStatus? py source = some bucket := by
  rw [exportedTask, status] at exported
  cases exported
  apply taskStatus?_of_status
  rw [JsonObject.get?_setText, if_neg (by simp), JsonObject.get?_setText, if_pos rfl]

/-- The task of the reply is in the one bucket that the status of the local task fits. -/
theorem listed_exportAndRecord_iff {moment : RequestMoment} {task : LocalTask}
    {server after : MonitorServer} {reply : Reply}
    (ran : (exportAndRecord py moment task).run server = (.ok reply, after)) (isOk : reply.isOk) :
    ∃ saved : JsonObject, reply.body.get? (lit "task") = some saved.toJson ∧
      ∀ folder, saved ∈ after.vault.state.tasks folder ↔ Fits folder task.status.val := by
  obtain ⟨source, status, isSource, known, shown, tasks⟩ := tasks_exportAndRecord ran isOk
  refine ⟨_, shown, fun folder => ?_⟩
  obtain ⟨text, isText, -⟩ := except_bind_eq_ok.mp isSource
  obtain ⟨bucket, rfl, fits⟩ := exportStatus_cases isText
  obtain rfl : status = bucket :=
    Option.some.inj (known.symm.trans (taskStatus?_exportedTask isText isSource))
  rw [← fits, tasks]
  constructor
  · intro listed
    rcases mem_placeTask listed with ⟨here, -⟩ | ⟨-, other⟩
    · exact here
    · rw [savedTask, hasId_of_id (get?_storedTask_id _ _ _ _), beq_self_eq_true] at other
      cases other
  · rintro rfl
    exact List.mem_of_getLast? (@Buckets.getLast?_place_target _ _ _ _ 199 _ _ _)

/-- An export that succeeds has found a task on the board that it scanned. -/
theorem run_scanAndExport_eq_ok {moment : RequestMoment} {clientIp : PyStr} {folders : LocalFolders}
    {request : Request} {monitor after : Monitor} {reply : Reply}
    (ran : (scanAndExport py moment clientIp folders request).run monitor = (.ok reply, after))
    (isOk : reply.isOk) :
    ∃ body board folder task, request.body = some body ∧
      (scanTasks folders).run monitor.board = (.ok (), board) ∧
      board.search py (requestedId py body) TaskStatus.all = some (folder, task) ∧
      (exportAndRecord py moment task).run monitor.server = (.ok reply, after.server) := by
  unfold scanAndExport at ran
  by_cases allowed : request.writeAllowed = true
  case neg =>
    rw [if_neg allowed] at ran
    cases ran
    exact absurd isOk (not_isOk_of_status (by decide))
  rw [if_pos allowed] at ran
  cases limit : request.retryAfter with
  | some retryAfter =>
      rw [limit] at ran
      cases ran
      exact absurd isOk (not_isOk_of_status (by decide))
  | none =>
      rw [limit] at ran
      cases isBody : request.body with
      | none =>
          rw [isBody] at ran
          cases ran
          exact absurd isOk (not_isOk_of_status (by decide))
      | some body =>
          rw [isBody] at ran
          obtain ⟨_, middle, scans, exporting⟩ := run_bind_eq_ok.mp ran
          rw [Monitor.onBoard, run_zoom] at scans
          obtain ⟨scanned, rfl⟩ := Prod.mk.inj scans
          rw [run_bind_ok (run_read _)] at exporting
          dsimp only at exporting
          cases found : Board.search py (requestedId py body)
              ((scanTasks folders).run monitor.board).2 TaskStatus.all with
          | none =>
              rw [found] at exporting
              cases exporting
              exact absurd isOk (not_isOk_of_status (by decide))
          | some result =>
              obtain ⟨folder, task⟩ := result
              rw [found] at exporting
              refine ⟨body, _, folder, task, rfl, Prod.ext scanned rfl, found, ?_⟩
              obtain ⟨replied, rfl⟩ := Prod.mk.inj exporting
              exact Prod.ext replied rfl

/-- An export that succeeds stores the task in the bucket of the folder in which it found it
exactly where the status of the task's file fits the folder. -/
theorem exportKeepsPlace_iff {moment : RequestMoment} {clientIp : PyStr} {folders : LocalFolders}
    {request : Request} {monitor after : Monitor} {reply : Reply}
    (ran : (scanAndExport py moment clientIp folders request).run monitor = (.ok reply, after))
    (isOk : reply.isOk) :
    ∃ body board folder task saved, request.body = some body ∧
      (scanTasks folders).run monitor.board = (.ok (), board) ∧
      board.search py (requestedId py body) TaskStatus.all = some (folder, task) ∧
      reply.body.get? (lit "task") = some (JsonObject.toJson saved) ∧
      (saved ∈ after.server.vault.state.tasks folder ↔ Fits folder task.status.val) := by
  obtain ⟨body, board, folder, task, isBody, scanned, found, exported⟩ :=
    run_scanAndExport_eq_ok ran isOk
  obtain ⟨saved, shown, listed_iff⟩ := listed_exportAndRecord_iff exported isOk
  exact ⟨body, board, folder, task, saved, isBody, scanned, found, shown, listed_iff folder⟩

/-! ## A task without a status that is exported -/

/-- A server without partners answers an export that is recorded with `ok`. -/
theorem succeeds_exportAndRecord {moment : RequestMoment} {task : LocalTask} {source : JsonObject}
    {status : TaskStatus} {server : MonitorServer} (exported : exportedTask task = .ok source)
    (records : RecordsExport py moment server source status) (again : moment.append.storesTasks)
    (alone : server.partners = []) : Succeeds ((exportAndRecord py moment task).run server) := by
  obtain ⟨-, returned⟩ := @exportOutcome_storeExport py moment source server
  have stores := (returned _ _).mpr ⟨status, records, again, rfl, rfl⟩
  have kept := @within_relay_storeExport py moment source server
  rcases outcome : (storeExport py moment source).run server with ⟨result, middle⟩
  rw [outcome] at stores kept
  cases stores
  have noPartners : middle.partners = [] := (congrArg Prod.fst kept).trans alone
  have unready : middle.ready ≠ true := by
    rw [MonitorServer.ready, noPartners]
    exact Bool.false_ne_true
  rw [exportAndRecord, exported, run_bind_ok (run_ofExcept _ _), run_bind, run_attempt, outcome]
  exact (succeeds_announceAndForward_iff (isOk_taskReply _ _) (by decide)).mpr fun isReady =>
    absurd isReady unready

/-- A file that names no status. -/
def bareFile : LocalFile := ⟨lit "x.json", some "{}".toUTF8, false⟩

/-- Its task. -/
def bareTask : LocalTask := bareFile.unreadable

/-- This folder has that file, the others are empty. -/
def bareFolders (folder : TaskStatus) : LocalFolders := Function.update (fun _ => []) folder [bareFile]

/-- The board of these folders. -/
def bareBoard (folder : TaskStatus) : Board := Function.update (fun _ => []) folder [bareTask]

/-- A request of the owner to export the task. -/
def exportX : Request := ⟨none, true, none, some (JsonObject.empty.setText (lit "task_id") (lit "x"))⟩

theorem run_scanTasks_bareFolders (folder : TaskStatus) (board : Board) :
    (scanTasks (bareFolders folder)).run board = (.ok (), bareBoard folder) := by
  have scans : (scanTasks (bareFolders folder)).run board = (.ok (), Function.update (Function.update
      (Function.update board .pending (bareBoard folder .pending)) .processing
        (bareBoard folder .processing)) .done (bareBoard folder .done)) := by
    cases folder <;> rfl
  rw [scans]
  congr 1
  funext bucket
  cases bucket <;> rfl

theorem search_bareBoard (folder : TaskStatus) :
    (bareBoard folder).search .plain (lit "x") TaskStatus.all = some (folder, bareTask) := by
  cases folder <;> rfl

/-- The task as it is exported. -/
def exportedBare : JsonObject :=
  ((bareTask.toObject.setText (lit "status") (lit "pending")).setText (lit "exported_from")
    (lit "hermes-internal"))

theorem toJson_exportedBare :
    exportedBare.toJson = .obj [(lit "id", .str (lit "x")), (lit "title", .str (lit "x")),
      (lit "assigned_to", .str (lit "")), (lit "status", .str (lit "pending")),
      (lit "exported_from", .str (lit "hermes-internal"))] := rfl

/-- The event of the export. -/
theorem toJson_exportEvent :
    (taskPayload (.ofText (lit "export")) (savedTask .plain .epoch exportedBare .pending)).toJson =
      .obj [(lit "action", .str (lit "export")), (lit "task", .obj [(lit "id", .str (lit "x")),
        (lit "title", .str (lit "x")), (lit "assigned_to", .str (lit "")),
        (lit "status", .str (lit "pending")), (lit "exported_from", .str (lit "hermes-internal")),
        (lit "updated_at", .str Moment.epoch.now.text)])] := rfl

theorem recordsExport_bare :
    RecordsExport .plain .epoch (MonitorServer.idle []) exportedBare .pending := by
  refine ⟨⟨taskStatus?_of_status rfl, ⟨rfl, rfl⟩, VaultState.writable_default.stored ?task⟩,
    chainVerified_fresh [], canonical_newEntry_iff.mpr ⟨rfl, encodable_lit _, encodable_lit _, ?event,
      encodable_lit _⟩⟩
  case task =>
    rw [toJson_exportedBare]
    exact ⟨encodable_lit _, encodable_lit _, encodable_lit _, encodable_lit _, encodable_lit _,
      encodable_lit _, encodable_lit _, encodable_lit _, encodable_lit _, encodable_lit _, trivial⟩
  case event =>
    rw [toJson_exportEvent]
    exact ⟨encodable_lit _, encodable_lit _, encodable_lit _, ⟨encodable_lit _, encodable_lit _,
      encodable_lit _, encodable_lit _, encodable_lit _, encodable_lit _, encodable_lit _,
      encodable_lit _, encodable_lit _, encodable_lit _, encodable_lit _, encodable_lit _, trivial⟩,
      trivial⟩

theorem requestedId_exportX :
    requestedId .plain (JsonObject.empty.setText (lit "task_id") (lit "x")) = lit "x" := rfl

theorem exists_export (folder : TaskStatus) : ∃ reply after,
    (scanAndExport .plain .epoch [] (bareFolders folder) exportX).run
      ⟨fun _ => [], MonitorServer.idle []⟩ = (.ok reply, after) ∧ reply.isOk := by
  obtain ⟨reply, replied, isOk⟩ := @succeeds_exportAndRecord _ _ bareTask _ _ _ rfl
    recordsExport_bare ⟨rfl, rfl⟩ rfl
  refine ⟨reply, ⟨bareBoard folder,
    ((exportAndRecord .plain .epoch bareTask).run (MonitorServer.idle [])).2⟩, ?_, isOk⟩
  have scans : (Monitor.onBoard (scanTasks (bareFolders folder))).run
      ⟨fun _ => [], MonitorServer.idle []⟩ = (.ok (), ⟨bareBoard folder, MonitorServer.idle []⟩) := by
    rw [Monitor.onBoard, run_zoom, run_scanTasks_bareFolders]
  unfold scanAndExport exportX
  rw [if_pos rfl]
  dsimp only
  rw [run_bind_ok scans, run_bind_ok (run_read _), requestedId_exportX, search_bareBoard]
  dsimp only
  rw [Monitor.onServer, run_zoom, replied]

/-- A task that is found among the pending ones is stored there. -/
theorem exportKeepsPlace_bareTask : ∃ reply after saved,
    (scanAndExport .plain .epoch [] (bareFolders .pending) exportX).run
        ⟨fun _ => [], MonitorServer.idle []⟩ = (.ok reply, after) ∧ reply.isOk ∧
      reply.body.get? (lit "task") = some (JsonObject.toJson saved) ∧
      saved ∈ after.server.vault.state.tasks .pending := by
  obtain ⟨reply, after, ran, isOk⟩ := exists_export .pending
  obtain ⟨body, board, folder, task, saved, isBody, scanned, found, shown, listed_iff⟩ :=
    exportKeepsPlace_iff ran isOk
  cases isBody
  rw [run_scanTasks_bareFolders] at scanned
  cases scanned
  rw [requestedId_exportX, search_bareBoard] at found
  cases found
  have fits : Fits .pending (.str []) := by simp [Fits, lit]
  exact ⟨reply, after, saved, ran, isOk, shown, listed_iff.mpr fits⟩

/-- A task that was found in processing is not stored there. -/
theorem bareTask_leaves : ∃ reply after saved,
    (scanAndExport .plain .epoch [] (bareFolders .processing) exportX).run
        ⟨fun _ => [], MonitorServer.idle []⟩ = (.ok reply, after) ∧ reply.isOk ∧
      (scanTasks (bareFolders .processing)).run (fun _ => []) = (.ok (), bareBoard .processing) ∧
      (bareBoard .processing).search .plain (lit "x") TaskStatus.all = some (.processing, bareTask) ∧
      reply.body.get? (lit "task") = some (JsonObject.toJson saved) ∧
      saved ∉ after.server.vault.state.tasks .processing := by
  obtain ⟨reply, after, ran, isOk⟩ := exists_export .processing
  obtain ⟨body, board, folder, task, isBody, scanned, found, exported⟩ :=
    run_scanAndExport_eq_ok ran isOk
  cases isBody
  rw [run_scanTasks_bareFolders] at scanned
  cases scanned
  rw [requestedId_exportX, search_bareBoard] at found
  cases found
  obtain ⟨saved, shown, listed_iff⟩ := listed_exportAndRecord_iff exported isOk
  refine ⟨reply, after, saved, ran, isOk, run_scanTasks_bareFolders _ _, search_bareBoard _, shown, ?_⟩
  intro listed
  have fits : Fits .processing (.str []) := (listed_iff .processing).mp listed
  rcases fits with same | same <;> cases same

end HermesMesh.Server
