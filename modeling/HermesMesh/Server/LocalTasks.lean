import HermesMesh.Python.JsonFacts
import HermesMesh.Python.JsonWire
import HermesMesh.Server.Handlers

/-!
# The local task folders

The monitor reads the files of three folders into its board.  A file that cannot be opened
or is no JSON object counts as a task with the name of the file and no status; one that is
not UTF-8, or on which `json.load` gives up, makes the scan raise, after the folders before it
have been read.
-/

namespace HermesMesh.Server

open Python Foundation Collab

/-- A file of a folder that `glob("*.json")` finds. -/
structure LocalFile where
  name : PyStr
  /-- `none` is a file that cannot be opened. -/
  content : Option ByteArray
  /-- Whether `json.load` gives up on the text, for its depth or the digits of a number. -/
  beyondLimits : Bool

/-- `Path(fname).stem`: the name without `.json`, unless it is nothing else. -/
def LocalFile.stem (file : LocalFile) : PyStr :=
  if file.name.length ≤ 5 then file.name else file.name.take (file.name.length - 5)

/-- What the three folders hold. -/
abbrev LocalFolders := TaskStatus → List LocalFile

/-- `state["tasks"]` -/
abbrev Board := TaskStatus → List LocalTask

/-- `json.load(f)` -/
def loadsValue (text : PyStr) : Option JsonValue :=
  match decoded : loads text with
  | some value => some ⟨value, distinct_of_loads decoded⟩
  | none => none

/-- The task of a file that holds none. -/
def LocalFile.unreadable (file : LocalFile) : LocalTask :=
  ⟨.ofText file.stem, .ofText file.stem, .ofText [], .ofText []⟩

/-- The task of a file with these fields. -/
def LocalFile.ofFields (file : LocalFile) (fields : JsonObject) : LocalTask where
  id := fields.getValueD (lit "id") (.ofText file.stem)
  title := fields.getValueD (lit "title") (.ofText file.stem)
  assignedTo := fields.getValueD (lit "assigned_to") (.ofText [])
  status := fields.getValueD (lit "status") (.ofText [])

/-- `read_task`; a `UnicodeDecodeError`, and what `json.load` raises at a limit, are none of
the exceptions that it catches. -/
def readTask (file : LocalFile) : Except Fault LocalTask :=
  match file.content with
  | none => .ok file.unreadable
  | some bytes =>
      match readText bytes with
      | none => .error .valueError
      | some text =>
          if file.beyondLimits then .error .valueError
          else
            match (loadsValue text).bind JsonValue.object? with
            | none => .ok file.unreadable
            | some fields => .ok (file.ofFields fields)

/-- `[read_task(p) for p in sorted(folder.glob("*.json"))[:50]]` -/
def readFolder (files : List LocalFile) : Except Fault (List LocalTask) :=
  ((files.insertionSort fun left right => left.name ≤ right.name).take 50).mapM readTask

/-- One line of `scan_tasks`. -/
def scanFolder (folders : LocalFolders) (status : TaskStatus) : Action Board Fault Unit := do
  let tasks ← .ofExcept (readFolder (folders status))
  .modify fun board => Function.update board status tasks

/-- `scan_tasks` -/
def scanTasks (folders : LocalFolders) : Action Board Fault Unit := do
  scanFolder folders .pending
  scanFolder folders .processing
  scanFolder folders .done

/-! ## Agents -/

/-- `AGENTS` -/
inductive Agent where
  | hermes1
  | hermes2
  deriving DecidableEq

def Agent.all : List Agent := [.hermes1, .hermes2]

def Agent.text : Agent → PyStr
  | .hermes1 => lit "hermes1"
  | .hermes2 => lit "hermes2"

inductive AgentStatus where
  | online
  | idle
  | working
  deriving DecidableEq

/-- A value of `state["agents"]`. -/
structure AgentEntry where
  status : AgentStatus
  task : Json

/-- `state["agents"]` -/
abbrev AgentTable := Agent → AgentEntry

/-- The table before the first scan. -/
def AgentTable.initial : AgentTable := fun _ => ⟨.online, .null⟩

/-- The first task in processing that is assigned to the agent. -/
def Board.activeTask (board : Board) (agent : Agent) : Option LocalTask :=
  (board .processing).find? fun task => task.assignedTo.val.pyEq (.str agent.text)

/-- `update_agents` -/
def updateAgents (board : Board) (agents : AgentTable) : AgentTable := fun agent =>
  match board.activeTask agent with
  | some task => ⟨.working, task.title.val⟩
  | none => ⟨if (agents agent).status = .working then .idle else .online, .null⟩

/-! ## The task hash -/

/-- `json.dumps(..., sort_keys=True)` -/
def JsonStyle.sorted : JsonStyle := ⟨escapeAscii, lit ", ", lit ": ", true⟩

def Board.toJson (board : Board) : Json :=
  .obj (TaskStatus.all.map fun status =>
    (status.text, .arr ((board status).map fun task => task.toObject.toJson)))

/-- `compute_task_hash`; the text is ASCII, so that it has an encoding. -/
def taskHash (py : Platform) (board : Board) : PyStr :=
  (py.sha256 (((encodeUtf8 (board.toJson.dumps JsonStyle.sorted)).getD ByteArray.empty))).text

end HermesMesh.Server
