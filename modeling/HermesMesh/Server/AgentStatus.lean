import HermesMesh.Foundation.Machine
import HermesMesh.Server.LocalTasks

/-!
# The agents on the dashboards

The monitor reads the local folders again and again.  What an agent does next depends on what
it did: one that has been working is idle, and one that has been idle is online.  The
dashboards are told of the agents only when the hash of the tasks changes.
-/

namespace HermesMesh.Server

open Python Foundation Foundation.Action Collab

/-- What `periodic` broadcasts. -/
inductive Notice where
  | tasksUpdate (data : Board) (timestamp : PyStr)
  | agentStatus (data : AgentTable) (timestamp : PyStr)
  | health (data : Json) (timestamp : PyStr)

/-- The table of an `agent_status`. -/
def Notice.agents? : Notice → Option AgentTable
  | .agentStatus data _ => some data
  | _ => none

/-- What `periodic` reads and writes, and what the clients have been sent, oldest first. -/
structure Dashboard where
  board : Board
  agents : AgentTable
  health : Json
  lastHash : PyStr
  sent : List Notice

/-- What an iteration finds. -/
structure Tick where
  folders : LocalFolders
  /-- Whether `clients` is not empty. -/
  connected : Bool
  /-- `get_health`; `none` is an exception that it does not catch. -/
  health : Option Json
  tasksTime : PyStr
  agentsTime : PyStr
  healthTime : PyStr

namespace Dashboard

def onBoard (action : Action Board Fault Unit) : Action Dashboard Fault Unit :=
  .zoom Dashboard.board (fun board dashboard => { dashboard with board := board }) action

/-- The dashboard once the clients have been sent a notice. -/
def sending (notice : Notice) (dashboard : Dashboard) : Dashboard :=
  { dashboard with sent := dashboard.sent ++ [notice] }

/-- `broadcast` -/
def broadcast (connected : Bool) (notice : Notice) : Action Dashboard Fault Unit :=
  if connected then .modify (sending notice) else return

/-- The broadcasts of an iteration that finds another hash. -/
def publish (tick : Tick) (hash : PyStr) : Action Dashboard Fault Unit := do
  let dashboard ← .read
  broadcast tick.connected (.tasksUpdate dashboard.board tick.tasksTime)
  broadcast tick.connected (.agentStatus dashboard.agents tick.agentsTime)
  .modify fun dashboard => { dashboard with lastHash := hash }

/-- The end of an iteration. -/
def reportHealth (tick : Tick) : Action Dashboard Fault Unit := do
  let health ← .ofOption .osError tick.health
  .modify fun dashboard => { dashboard with health := health }
  broadcast tick.connected (.health health tick.healthTime)

/-- The body of the `try` of `periodic`. -/
def iteration (py : Platform) (tick : Tick) : Action Dashboard Fault Unit := do
  onBoard (scanTasks tick.folders)
  .modify fun dashboard =>
    { dashboard with agents := updateAgents dashboard.board dashboard.agents }
  let dashboard ← .read
  let hash := taskHash py dashboard.board
  if hash ≠ dashboard.lastHash then
    publish tick hash
  reportHealth tick

/-- The table that the last `agent_status` carried. -/
def shownAgents? (dashboard : Dashboard) : Option AgentTable :=
  (dashboard.sent.filterMap Notice.agents?).getLast?

end Dashboard

/-- `periodic`: an exception of an iteration is logged. -/
def periodic (py : Platform) : Machine Dashboard Tick Unit where
  step dashboard tick := ((), ((Dashboard.iteration py tick).run dashboard).2)

/-- Two entries are the same, whatever the order of the fields of a title that is an object. -/
def AgentEntry.Same (left right : AgentEntry) : Prop :=
  left.status = right.status ∧
    left.task.dumps JsonStyle.sorted = right.task.dumps JsonStyle.sorted

namespace Dashboard

/-- The table that the clients were told of last is that of the state. -/
def Converged (dashboard : Dashboard) : Prop :=
  ∀ table, dashboard.shownAgents? = some table →
    ∀ agent, (table agent).Same (dashboard.agents agent)

/-- An agent does what the board says: it works on its first task, or is online without one. -/
def Steady (board : Board) (entry : AgentEntry) (agent : Agent) : Prop :=
  match board.activeTask agent with
  | some task =>
      entry.status = .working ∧
        entry.task.dumps JsonStyle.sorted = task.title.val.dumps JsonStyle.sorted
  | none =>
      entry.status = .online ∧ entry.task.dumps JsonStyle.sorted = Json.null.dumps JsonStyle.sorted

/-- Where an iteration finds the hash that it found last, every agent is steady. -/
def QuietlySteady (py : Platform) (dashboard : Dashboard) (tick : Tick) : Prop :=
  ∀ board, (scanTasks tick.folders).run dashboard.board = (.ok (), board) →
    taskHash py board = dashboard.lastHash →
      ∀ agent, Steady board (dashboard.agents agent) agent

variable {py : Platform} {tick : Tick} {dashboard : Dashboard}

/-! ## One iteration -/

/-- What the dashboards are told, and what decides whether they are. -/
def told (dashboard : Dashboard) : AgentTable × PyStr × Option AgentTable :=
  (dashboard.agents, dashboard.lastHash, dashboard.shownAgents?)

theorem shownAgents?_sending (notice : Notice) :
    (dashboard.sending notice).shownAgents? = notice.agents?.or dashboard.shownAgents? := by
  rw [shownAgents?, shownAgents?, sending, Machine.filterMap_concat]
  cases notice.agents? with
  | none => rw [Option.toList_none, List.append_nil, Option.none_or]
  | some table =>
      rw [Option.toList_some, List.getLast?_append, List.getLast?_singleton, Option.some_or]

theorem told_sending_of_other {notice : Notice} (other : notice.agents? = none) :
    (dashboard.sending notice).told = dashboard.told := by
  rw [told, shownAgents?_sending, other, Option.none_or]
  rfl

theorem within_told_broadcast {connected : Bool} {notice : Notice} (other : notice.agents? = none) :
    Within (Agree told) (broadcast connected notice) := by
  apply within_ite
  · intro _
    exact within_modify fun _ => told_sending_of_other other
  · intro _
    exact within_pure ()

theorem within_told_reportHealth (tick : Tick) : Within (Agree told) (reportHealth tick) := by
  refine within_bind (within_ofOption _ _) fun health => ?_
  refine within_bind (within_modify fun _ => rfl) fun _ => ?_
  exact within_told_broadcast rfl

theorem run_iteration_of_failed {fault : Fault} {board : Board}
    (failed : (scanTasks tick.folders).run dashboard.board = (.error fault, board)) :
    ((iteration py tick).run dashboard).2 = { dashboard with board := board } := by
  have scans : (onBoard (scanTasks tick.folders)).run dashboard =
      (.error fault, { dashboard with board := board }) := by
    rw [onBoard, run_zoom, failed]
  rw [iteration, run_bind_error scans]

section Scanned

variable {board : Board}
  (scanned : (scanTasks tick.folders).run dashboard.board = (.ok (), board))

include scanned

theorem run_iteration_of_scanned :
    (iteration py tick).run dashboard =
      (do
        if taskHash py board ≠ dashboard.lastHash then
          publish tick (taskHash py board)
        reportHealth tick).run
          { dashboard with board := board, agents := updateAgents board dashboard.agents } := by
  have scans : (onBoard (scanTasks tick.folders)).run dashboard =
      (.ok (), { dashboard with board := board }) := by
    rw [onBoard, run_zoom, scanned]
  rw [iteration, run_bind_ok scans, run_bind_ok (run_modify _ _), run_bind_ok (run_read _)]

/-- An iteration that finds the last hash again tells the clients nothing of the agents. -/
theorem told_iteration_of_quiet (quiet : taskHash py board = dashboard.lastHash) :
    ((iteration py tick).run dashboard).2.told =
      (updateAgents board dashboard.agents, dashboard.lastHash, dashboard.shownAgents?) := by
  rw [run_iteration_of_scanned scanned, if_neg (not_not.mpr quiet)]
  exact within_told_reportHealth tick _

/-- An iteration that finds another hash tells them the new table. -/
theorem told_iteration_of_changed (changed : taskHash py board ≠ dashboard.lastHash)
    (connected : tick.connected = true) :
    ((iteration py tick).run dashboard).2.told =
      (updateAgents board dashboard.agents, taskHash py board,
        some (updateAgents board dashboard.agents)) := by
  have published : (publish tick (taskHash py board)).run
      { dashboard with board := board, agents := updateAgents board dashboard.agents } =
        (.ok (), { (({ dashboard with board := board, agents := updateAgents board dashboard.agents } :
          Dashboard).sending (.tasksUpdate board tick.tasksTime)).sending
            (.agentStatus (updateAgents board dashboard.agents) tick.agentsTime) with
              lastHash := taskHash py board }) := by
    rw [publish, run_bind_ok (run_read _), broadcast, broadcast, connected]
    rfl
  rw [run_iteration_of_scanned scanned, if_pos changed, run_bind_ok published]
  refine (within_told_reportHealth tick _).trans ?_
  have shown := @shownAgents?_sending (({ dashboard with
    board := board, agents := updateAgents board dashboard.agents } : Dashboard).sending
      (.tasksUpdate board tick.tasksTime))
    (.agentStatus (updateAgents board dashboard.agents) tick.agentsTime)
  exact Prod.ext rfl (Prod.ext rfl shown)

end Scanned

/-! ## Runs -/

end Dashboard

namespace AgentEntry.Same

variable {left middle right : AgentEntry}

theorem refl (entry : AgentEntry) : entry.Same entry := ⟨rfl, rfl⟩

theorem symm (same : left.Same right) : right.Same left := ⟨same.1.symm, same.2.symm⟩

theorem trans (first : left.Same middle) (second : middle.Same right) : left.Same right :=
  ⟨first.1.trans second.1, first.2.trans second.2⟩

end AgentEntry.Same

namespace Dashboard

variable {py : Platform} {tick : Tick} {dashboard : Dashboard}

/-- An agent is steady exactly where the board leaves its entry as it is. -/
theorem same_updateAgents_iff {board : Board} {agents : AgentTable} {agent : Agent} :
    (agents agent).Same (updateAgents board agents agent) ↔ Steady board (agents agent) agent := by
  unfold updateAgents Steady AgentEntry.Same
  cases board.activeTask agent with
  | some task => rfl
  | none =>
      cases (agents agent).status <;> simp

/-- The clients know the table, and before they do no hash is the last one. -/
structure Known (dashboard : Dashboard) : Prop where
  converged : dashboard.Converged
  unknown : dashboard.shownAgents? = none → dashboard.lastHash = []

/-- An iteration that is told keeps what the clients know only of what it is told. -/
theorem known_of_told {after : Dashboard} (known : dashboard.Known)
    (same : after.told = dashboard.told) : after.Known := by
  obtain ⟨agents, rest⟩ := Prod.mk.inj same
  obtain ⟨lastHash, shown⟩ := Prod.mk.inj rest
  constructor
  · intro table isShown agent
    rw [agents]
    exact known.converged table (shown.symm.trans isShown) agent
  · intro unknown
    rw [lastHash]
    exact known.unknown (shown.symm.trans unknown)

theorem known_iteration (known : dashboard.Known) (connected : tick.connected = true)
    (steady : dashboard.QuietlySteady py tick) : ((iteration py tick).run dashboard).2.Known := by
  rcases scan : (scanTasks tick.folders).run dashboard.board with ⟨fault | ⟨⟩, board⟩
  · rw [run_iteration_of_failed scan]
    exact known_of_told known rfl
  · by_cases quiet : taskHash py board = dashboard.lastHash
    · have told := @told_iteration_of_quiet py _ _ _ scan quiet
      obtain ⟨agents, rest⟩ := Prod.mk.inj told
      obtain ⟨lastHash, shown⟩ := Prod.mk.inj rest
      constructor
      · intro table isShown agent
        rw [agents]
        have old := known.converged table (shown.symm.trans isShown) agent
        exact old.trans (same_updateAgents_iff.mpr (steady board scan quiet agent))
      · intro unknown
        rw [lastHash]
        exact known.unknown (shown.symm.trans unknown)
    · have told := @told_iteration_of_changed py _ _ _ scan quiet connected
      obtain ⟨agents, rest⟩ := Prod.mk.inj told
      obtain ⟨-, shown⟩ := Prod.mk.inj rest
      constructor
      · intro table isShown agent
        rw [agents, ← Option.some.inj (shown.symm.trans isShown)]
        exact .refl _
      · intro unknown
        cases shown.symm.trans unknown

/-- An iteration that finds the last hash again and changes an entry leaves the clients with
the old one. -/
theorem not_converged_iteration (known : dashboard.Known) (moves : ¬dashboard.QuietlySteady py tick) :
    ¬((iteration py tick).run dashboard).2.Converged := by
  intro converged
  apply moves
  intro board scan quiet agent
  have told := @told_iteration_of_quiet py _ _ _ scan quiet
  obtain ⟨agents, rest⟩ := Prod.mk.inj told
  obtain ⟨-, shown⟩ := Prod.mk.inj rest
  cases isShown : dashboard.shownAgents? with
  | none =>
      have noHash := known.unknown isShown
      rw [← quiet] at noHash
      exact absurd noHash (Digest.nonempty _)
  | some table =>
      have new := converged table (shown.trans isShown) agent
      rw [agents] at new
      exact same_updateAgents_iff.mp ((known.converged table isShown agent).symm.trans new)

/-- Before the first iteration. -/
structure Fresh (dashboard : Dashboard) : Prop where
  sent : dashboard.sent = []
  lastHash : dashboard.lastHash = []

theorem Fresh.known (fresh : dashboard.Fresh) : dashboard.Known := by
  constructor
  · intro table isShown
    rw [shownAgents?, fresh.sent] at isShown
    cases isShown
  · intro _
    exact fresh.lastHash

/-- With a client connected throughout, the table that the clients were told of last is that of
the state after every iteration exactly where every iteration that finds the last hash again
finds every agent steady. -/
theorem agentsConverge_iff (py : Platform) {start : Dashboard} (fresh : start.Fresh)
    {ticks : List Tick} (connected : ∀ tick ∈ ticks, tick.connected = true) :
    (∀ past rest, ticks = past ++ rest → ((periodic py).run start past).Converged) ↔
      (periodic py).Allowed (QuietlySteady py) start ticks :=
  Machine.shown_throughout_iff (fun _ tick => tick.connected = true) (QuietlySteady py) Known
    Converged (fun _ known => known.converged)
    (fun _ _ known connected steady => known_iteration known connected steady)
    (fun _ _ known _ moves => not_converged_iteration known moves) fresh.known
    ((periodic py).allowed_const.mpr connected)

/-! ## An agent that is idle -/

/-- The server when it starts. -/
def initial : Dashboard := ⟨fun _ => [], .initial, .null, [], []⟩

theorem fresh_initial : initial.Fresh := ⟨rfl, rfl⟩

/-- A task of `hermes1`. -/
def assignedFile : LocalFile :=
  ⟨lit "x.json", some "\x7b\"assigned_to\": \"hermes1\"\x7d".toUTF8, false⟩

/-- An iteration with a client that finds these folders. -/
def finding (folders : LocalFolders) : Tick := ⟨folders, true, none, [], [], []⟩

/-- An iteration that finds the task in processing. -/
def workingTick : Tick := finding (Function.update (fun _ => []) .processing [assignedFile])

/-- Whatever the board was, the iteration finds one task, of `hermes1`. -/
theorem scanned_working : ∃ board : Board, ∃ task,
    (∀ old, (scanTasks workingTick.folders).run old = (.ok (), board)) ∧
      board.activeTask .hermes1 = some task ∧ board.activeTask .hermes2 = none := by
  have found : ((readFolder [assignedFile]).toOption.map fun tasks => tasks.map fun task =>
      Agent.all.map fun agent => task.assignedTo.val.pyEq (.str agent.text)) =
        some [[true, false]] := by decide +kernel
  obtain ⟨tasks, isTasks, agents⟩ := Option.map_eq_some_iff.mp found
  obtain ⟨task, rfl, isAssigned⟩ := List.map_eq_singleton_iff.mp agents
  simp only [Agent.all, List.map_cons, List.map_nil, List.cons.injEq, and_true] at isAssigned
  have reads : readFolder [assignedFile] = .ok [task] := by
    cases read : readFolder [assignedFile] with
    | error fault =>
        rw [read] at isTasks
        cases isTasks
    | ok tasks =>
        rw [read] at isTasks
        cases isTasks
        rfl
  have empty : readFolder [] = .ok [] := rfl
  refine ⟨fun status => if status = .processing then [task] else [], task, fun old => ?_, ?_, ?_⟩
  · simp only [scanTasks, scanFolder, workingTick, finding, run_bind, Function.update_self,
      Function.update_of_ne, ne_eq, reduceCtorEq, not_false_eq_true, empty, reads, run_ofExcept,
      run_modify, Prod.mk.injEq, true_and]
    funext status
    cases status <;> simp [Function.update]
  · simp [Board.activeTask, isAssigned.1]
  · simp [Board.activeTask, isAssigned.2]

/-- An iteration that finds the task again finds its agent at work on it. -/
theorem quietlySteady_again :
    ((iteration .plain workingTick).run initial).2.QuietlySteady .plain workingTick := by
  obtain ⟨board, task, scanned, first, second⟩ := scanned_working
  have told := @told_iteration_of_changed .plain _ _ _ (scanned initial.board)
    (Digest.nonempty _) rfl
  obtain ⟨agents, -⟩ := Prod.mk.inj told
  intro again scannedAgain _ agent
  cases (scanned _).symm.trans scannedAgain
  rw [agents]
  cases agent with
  | hermes1 => simp [Steady, updateAgents, first]
  | hermes2 => simp [Steady, updateAgents, second, initial, AgentTable.initial]

theorem step_periodic (dashboard : Dashboard) (tick : Tick) :
    ((periodic py).step dashboard tick).2 = ((iteration py tick).run dashboard).2 := rfl

/-- The task stays in processing. -/
def keptTask : List Tick := [workingTick, workingTick]

/-- The clients know of the task after every iteration. -/
theorem agentsConverge_keptTask : (∀ tick ∈ keptTask, tick.connected = true) ∧
    ∀ past rest, keptTask = past ++ rest → ((periodic .plain).run initial past).Converged := by
  have connected : ∀ tick ∈ keptTask, tick.connected = true := by
    intro tick member
    simp only [keptTask, List.mem_cons, List.not_mem_nil, or_false, or_self] at member
    rw [member]
    rfl
  have first : initial.QuietlySteady .plain workingTick :=
    fun _ _ found => absurd found (Digest.nonempty _)
  have steady : (periodic .plain).Allowed (QuietlySteady .plain) initial keptTask := by
    rw [keptTask, Machine.Allowed, Machine.Allowed, step_periodic]
    exact ⟨first, quietlySteady_again, trivial⟩
  exact ⟨connected, (agentsConverge_iff .plain fresh_initial connected).mpr steady⟩

/-- The task is in processing, then gone for two iterations. -/
def goneTask : List Tick := [workingTick, finding fun _ => [], finding fun _ => []]

theorem shown_goneTask :
    (((periodic .plain).run initial goneTask).shownAgents?.map fun table =>
      (table .hermes1).status) = some .idle := by decide +kernel

theorem status_goneTask :
    (((periodic .plain).run initial goneTask).agents .hermes1).status = .online := by
  decide +kernel

/-- The agent is online again, and the clients were told that it is idle. -/
theorem goneTask_diverges : initial.Fresh ∧ (∀ tick ∈ goneTask, tick.connected = true) ∧
    ¬((periodic .plain).run initial goneTask).Converged := by
  refine ⟨fresh_initial, by simp [goneTask, workingTick, finding], fun converged => ?_⟩
  obtain ⟨table, isShown, isIdle⟩ := Option.map_eq_some_iff.mp shown_goneTask
  have same := (converged table isShown .hermes1).1
  rw [isIdle, status_goneTask] at same
  cases same

end Dashboard

end HermesMesh.Server
