import HermesMesh.Collab.Vault.Applied
import HermesMesh.Collab.Vault.ChainRuns
import HermesMesh.Collab.Vault.LoadedState

/-!
# The shape of a loaded state

The operations of the vault need the nodes to be an object of objects, every bucket of tasks
to be a list of objects and the messages to be a list, and they leave them so.  `_load_state`
gives such a state for exactly those files whose own nodes, tasks and messages allow it; for
any other file it raises itself, or one of the operations does.
-/

namespace HermesMesh.Collab

open Python Foundation Foundation.Action

/-- A JSON object. -/
def IsObject (value : Json) : Prop := ∃ fields, value = .obj fields

/-- An object of objects. -/
def NodesShape (value : Json) : Prop :=
  ∃ nodes, value = .obj nodes ∧ ∀ nodeId node, Dict.get? nodeId nodes = some node → IsObject node

/-- An object whose buckets are lists of objects. -/
def TasksShape (value : Json) : Prop :=
  ∃ tasks, value = .obj tasks ∧ ∀ status : TaskStatus, ∃ items,
    Dict.get? status.text tasks = some (.arr items) ∧ ∀ item ∈ items, IsObject item

/-- A list. -/
def MessagesShape (value : Json) : Prop := ∃ items, value = .arr items

/-- What the operations expect of the state. -/
structure Shaped (state : Dict PyStr Json) : Prop where
  nodes : ∃ value, state.get? (lit "nodes") = some value ∧ NodesShape value
  tasks : ∃ value, state.get? (lit "tasks") = some value ∧ TasksShape value
  messages : ∃ value, state.get? (lit "messages") = some value ∧ MessagesShape value

/-- An exception that the shape of a value is the reason for. -/
def AuthFault.isShape : AuthFault → Bool
  | .attributeError | .typeError | .keyError => true
  | _ => false

/-! ## Runs of the operations -/

/-- A call of one of the operations. -/
inductive RawCall where
  | snapshot
  | registerNode (now : PlainText) (nodeId role : PyStr) (ttl : Int)
  | markRevoked (now : PlainText) (nodeId : PyStr)
  | upsertTask (moment : Moment) (task : JsonObject)
  | appendEvent (moment : Moment) (node op : PyStr) (payload : JsonObject) (sig : PyStr)

def RawVault.perform (py : Platform) : RawCall → Action RawVault AuthFault Unit
  | .snapshot => do
      let _ ← snapshot
  | .registerNode now nodeId role ttl => registerNode now nodeId role ttl
  | .markRevoked now nodeId => markRevoked now nodeId
  | .upsertTask moment task => do
      let _ ← upsertTask py moment task
  | .appendEvent moment node op payload sig => do
      let _ ← appendEvent py moment node op payload sig

/-- A vault whose operations are called one after the other. -/
def rawVaultMachine (py : Platform) : Machine RawVault RawCall (Except AuthFault Unit) where
  step vault call := (RawVault.perform py call).run vault

/-- The vault can be made from the file, and whatever is called from then on, no call fails
because of the shape of the state, and the state keeps the shape that is expected of it. -/
def Survives (py : Platform) (givesUp : PyStr → Bool) (content : ByteArray) : Prop :=
  ∃ state, loadStateWithin givesUp content = .ok state ∧ ∀ vault : RawVault, vault.state = state → ∀ calls,
    (∀ event ∈ (rawVaultMachine py).trace vault calls, ∀ fault, event.output = .error fault →
      fault.isShape = false) ∧
    Shaped ((rawVaultMachine py).run vault calls).state

/-- The lists among the buckets are lists of objects. -/
def LoadableTasks (value : Json) : Prop :=
  ∃ tasks, value = .obj tasks ∧ ∀ (status : TaskStatus) items,
    Dict.get? status.text tasks = some (.arr items) → ∀ item ∈ items, IsObject item

/-- Where the file is a JSON object, its nodes, its tasks and its messages are as they have
to be or are missing. -/
structure Loadable (fields : Dict PyStr Json) : Prop where
  nodes : ∀ value, fields.get? (lit "nodes") = some value → NodesShape value
  tasks : ∀ value, fields.get? (lit "tasks") = some value → LoadableTasks value
  messages : ∀ value, fields.get? (lit "messages") = some value → MessagesShape value

/-! ## Loading -/

theorem get?_updateFields {data : Dict PyStr Json} (distinct : data.keys.Nodup)
    (base : Dict PyStr Json) (key : PyStr) :
    (updateFields base data).get? key = (data.get? key).or (base.get? key) := by
  unfold updateFields
  induction data generalizing base with
  | nil => rfl
  | cons field rest ih =>
      obtain ⟨first, value⟩ := field
      obtain ⟨new, others⟩ := List.nodup_cons.mp distinct
      rw [List.foldl_cons, ih others, Dict.get?]
      by_cases same : first = key
      · subst same
        have absent : Dict.get? first rest = none := Dict.get?_eq_none.mpr new
        rw [absent, if_pos rfl, Dict.get?_set_self]
        rfl
      · rw [if_neg same, Dict.get?_set_of_ne (Ne.symm same)]

/-- What a bucket is loaded as. -/
def loadedBucket : Option Json → List Json
  | some (.arr items) => items
  | _ => []

theorem get?_repairBucket (tasks : Dict PyStr Json) (status other : TaskStatus) :
    (repairBucket tasks status).get? other.text =
      if other = status then some (.arr (loadedBucket (tasks.get? other.text)))
      else tasks.get? other.text := by
  unfold repairBucket
  by_cases same : other = status
  · subst same
    rw [if_pos rfl]
    split
    · next items found => rw [found, loadedBucket]
    · next notList =>
        rw [Dict.get?_set_self]
        congr 2
        unfold loadedBucket
        split
        · next items found => exact absurd found (notList items)
        · rfl
  · rw [if_neg same]
    split
    · rfl
    · exact Dict.get?_set_of_ne (fun texts => same (TaskStatus.text_injective texts)) _ _

/-- Every bucket is a list afterwards, and those that were lists are as they were. -/
theorem get?_repaired (tasks : Dict PyStr Json) (status : TaskStatus) :
    (TaskStatus.all.foldl repairBucket tasks).get? status.text =
      some (.arr (loadedBucket (tasks.get? status.text))) := by
  simp only [TaskStatus.all, List.foldl_cons, List.foldl_nil, get?_repairBucket]
  cases status <;> simp [loadedBucket]

/-- The fields that are put under those of a file have the shape. -/
theorem shaped_default : Shaped defaultFields where
  nodes := ⟨_, rfl, [], rfl, fun nodeId node found => by cases found⟩
  tasks := by
    refine ⟨_, rfl, _, rfl, ?_⟩
    intro status
    refine ⟨[], ?_, fun item member => absurd member List.not_mem_nil⟩
    cases status <;> rfl
  messages := ⟨_, rfl, [], rfl⟩

theorem asDict_eq_ok {value : Json} {fields : Dict PyStr Json} :
    asDict value = .ok fields ↔ value = .obj fields := by
  cases value <;> simp [asDict]

/-- What `base.update(data)` leaves under a key. -/
theorem get?_base {fields : Dict PyStr Json} (distinct : fields.keys.Nodup) (key : PyStr) :
    (updateFields defaultFields fields).get? key = (fields.get? key).or (defaultFields.get? key) :=
  get?_updateFields distinct defaultFields key

theorem stateOf_eq_ok {fields state : Dict PyStr Json} :
    stateOf (.obj fields) = .ok state ↔ ∃ tasks,
      getOr (lit "tasks") (.obj []) (updateFields defaultFields fields) = .obj tasks ∧
        (updateFields defaultFields fields).set (lit "tasks")
          (.obj (TaskStatus.all.foldl repairBucket tasks)) = state := by
  rw [stateOf, except_bind_eq_ok]
  constructor
  · rintro ⟨tasks, isTasks, same⟩
    exact ⟨tasks, asDict_eq_ok.mp isTasks, Except.ok.inj same⟩
  · rintro ⟨tasks, isTasks, same⟩
    exact ⟨tasks, asDict_eq_ok.mpr isTasks, congrArg _ same⟩

/-- Every field that the default has and the file has not is that of the default. -/
theorem exists_base {fields : Dict PyStr Json} (distinct : fields.keys.Nodup) {key : PyStr}
    {good : Json → Prop} (own : ∀ value, fields.get? key = some value → good value)
    {default : Json} (found : defaultFields.get? key = some default) (holds : good default) :
    ∃ value, (updateFields defaultFields fields).get? key = some value ∧ good value := by
  rw [get?_base distinct, found]
  cases own? : fields.get? key with
  | none => exact ⟨default, rfl, holds⟩
  | some value => exact ⟨value, rfl, own value own?⟩

theorem loadableTasks_default : ∃ value, defaultFields.get? (lit "tasks") = some value ∧
    LoadableTasks value := by
  obtain ⟨value, found, tasks, rfl, buckets⟩ := shaped_default.tasks
  refine ⟨_, found, tasks, rfl, ?_⟩
  intro status items isList
  obtain ⟨others, same, objects⟩ := buckets status
  cases isList.symm.trans same
  exact objects

/-- A file whose fields allow it is loaded as a state of the shape. -/
theorem shaped_stateOf {fields : Dict PyStr Json} (distinct : fields.keys.Nodup)
    (loadable : Loadable fields) : ∃ state, stateOf (.obj fields) = .ok state ∧ Shaped state := by
  obtain ⟨default, isDefault, loads⟩ := loadableTasks_default
  obtain ⟨value, found, tasks, rfl, buckets⟩ := exists_base distinct loadable.tasks isDefault loads
  refine ⟨_, stateOf_eq_ok.mpr ⟨tasks, by rw [getOr, found]; rfl, rfl⟩, ?_, ?_, ?_⟩
  · rw [Dict.get?_set_of_ne (by simp)]
    obtain ⟨nodes, isNodes, shape⟩ := shaped_default.nodes
    exact exists_base distinct loadable.nodes isNodes shape
  · refine ⟨_, Dict.get?_set_self _ _ _, _, rfl, ?_⟩
    intro status
    refine ⟨_, get?_repaired tasks status, ?_⟩
    cases bucket : Dict.get? status.text tasks with
    | none => exact fun item member => absurd member List.not_mem_nil
    | some content =>
        cases content with
        | arr items => exact buckets status items bucket
        | _ => exact fun item member => absurd member List.not_mem_nil
  · rw [Dict.get?_set_of_ne (by simp)]
    obtain ⟨messages, isMessages, shape⟩ := shaped_default.messages
    exact exists_base distinct loadable.messages isMessages shape

/-! ## The operations keep the shape -/

theorem NodesShape.set {nodes : Dict PyStr Json} (nodeId : PyStr) (record : Dict PyStr Json)
    (shape : NodesShape (.obj nodes)) : NodesShape (.obj (nodes.set nodeId (.obj record))) := by
  obtain ⟨_, same, objects⟩ := shape
  cases same
  refine ⟨_, rfl, ?_⟩
  intro other node found
  rw [Dict.get?_set] at found
  split at found
  · cases found
    exact ⟨record, rfl⟩
  · exact objects other node found

theorem TasksShape.set {tasks : Dict PyStr Json} (status : TaskStatus) {items : List Json}
    (shape : TasksShape (.obj tasks)) (objects : ∀ item ∈ items, IsObject item) :
    TasksShape (.obj (tasks.set status.text (.arr items))) := by
  obtain ⟨_, same, buckets⟩ := shape
  cases same
  refine ⟨_, rfl, ?_⟩
  intro other
  rw [Dict.get?_set]
  split
  · exact ⟨items, rfl, objects⟩
  · exact buckets other

namespace Shaped

variable {state : Dict PyStr Json}

theorem setNodes (shaped : Shaped state) {value : Json} (shape : NodesShape value) :
    Shaped (state.set (lit "nodes") value) where
  nodes := ⟨value, Dict.get?_set_self _ _ _, shape⟩
  tasks := by
    rw [Dict.get?_set_of_ne (by simp)]
    exact shaped.tasks
  messages := by
    rw [Dict.get?_set_of_ne (by simp)]
    exact shaped.messages

theorem setTasks (shaped : Shaped state) {value : Json} (shape : TasksShape value) :
    Shaped (state.set (lit "tasks") value) where
  nodes := by
    rw [Dict.get?_set_of_ne (by simp)]
    exact shaped.nodes
  tasks := ⟨value, Dict.get?_set_self _ _ _, shape⟩
  messages := by
    rw [Dict.get?_set_of_ne (by simp)]
    exact shaped.messages

theorem setMessages (shaped : Shaped state) (items : List Json) :
    Shaped (state.set (lit "messages") (.arr items)) where
  nodes := by
    rw [Dict.get?_set_of_ne (by simp)]
    exact shaped.nodes
  tasks := by
    rw [Dict.get?_set_of_ne (by simp)]
    exact shaped.tasks
  messages := ⟨_, Dict.get?_set_self _ _ _, items, rfl⟩

theorem setOther (shaped : Shaped state) {key : PyStr} (notNodes : lit "nodes" ≠ key)
    (notTasks : lit "tasks" ≠ key) (notMessages : lit "messages" ≠ key) (value : Json) :
    Shaped (state.set key value) where
  nodes := by
    rw [Dict.get?_set_of_ne notNodes]
    exact shaped.nodes
  tasks := by
    rw [Dict.get?_set_of_ne notTasks]
    exact shaped.tasks
  messages := by
    rw [Dict.get?_set_of_ne notMessages]
    exact shaped.messages

/-- The nodes of a state of the shape. -/
theorem nodesOf (shaped : Shaped state) : ∃ nodes, Collab.nodesOf state = .ok nodes ∧
    NodesShape (.obj nodes) := by
  obtain ⟨_, found, nodes, rfl, objects⟩ := shaped.nodes
  refine ⟨nodes, ?_, nodes, rfl, objects⟩
  rw [Collab.nodesOf, getOr, found]
  rfl

/-- The tasks of a state of the shape. -/
theorem tasksOf (shaped : Shaped state) : ∃ tasks, RawVault.tasksOf state = .ok tasks ∧
    TasksShape (.obj tasks) := by
  obtain ⟨_, found, tasks, rfl, buckets⟩ := shaped.tasks
  refine ⟨tasks, ?_, tasks, rfl, buckets⟩
  rw [RawVault.tasksOf, found]
  rfl

end Shaped

/-- A record of a node can be read if it is an object or missing. -/
theorem isObject_getD {nodes : Dict PyStr Json} (shape : NodesShape (.obj nodes)) (nodeId : PyStr)
    (record : Dict PyStr Json) : IsObject ((nodes.get? nodeId).getD (.obj record)) := by
  obtain ⟨_, same, objects⟩ := shape
  cases same
  cases found : nodes.get? nodeId with
  | none => exact ⟨record, rfl⟩
  | some node => exact objects nodeId node found

theorem exists_refusesNode {nodes : Dict PyStr Json} (shape : NodesShape (.obj nodes))
    (nodeId : PyStr) : ∃ refused, refusesNode ((nodes.get? nodeId).getD .null) = .ok refused := by
  obtain ⟨_, same, objects⟩ := shape
  cases same
  cases found : nodes.get? nodeId with
  | none => exact ⟨false, rfl⟩
  | some node =>
      obtain ⟨fields, rfl⟩ := objects nodeId node found
      rw [Option.getD_some, refusesNode]
      split
      · exact ⟨_, rfl⟩
      · exact ⟨false, rfl⟩

/-- Of a list of objects, the other tasks are taken. -/
theorem exists_otherTasks (taskId : PyStr) {items : List Json}
    (objects : ∀ item ∈ items, IsObject item) :
    ∃ others, RawVault.otherTasks taskId items = .ok others ∧ ∀ item ∈ others, item ∈ items := by
  induction items with
  | nil => exact ⟨[], rfl, fun item member => member⟩
  | cons entry rest ih =>
      obtain ⟨fields, rfl⟩ := objects entry List.mem_cons_self
      obtain ⟨kept, isKept, within⟩ := ih fun item member => objects item (List.mem_cons_of_mem _ member)
      rw [RawVault.otherTasks]
      simp only [asDict, isKept, bind, Except.bind]
      split
      · exact ⟨kept, rfl, fun item member => List.mem_cons_of_mem _ (within item member)⟩
      · refine ⟨_, rfl, ?_⟩
        intro item member
        rcases List.mem_cons.mp member with rfl | later
        · exact List.mem_cons_self
        · exact List.mem_cons_of_mem _ (within item later)

namespace RawVault

variable {py : Platform}

/-- The operation needs the shape, keeps it, and fails for other reasons only. -/
abbrev KeepsShape {α : Type} (action : Action RawVault AuthFault α) : Prop :=
  Keeps (fun vault => Shaped vault.state) (fun fault => fault.isShape = false) (fun _ => True) action

theorem keepsShape_ofOption {α : Type} {fault : AuthFault} (other : fault.isShape = false)
    (result : Option α) : KeepsShape (ofOption fault result) :=
  @keeps_ofOption _ _ _ _ (fun fault => fault.isShape = false) fault other result

theorem keepsShape_snapshot : KeepsShape snapshot :=
  keeps_bind keeps_read fun _ _ => keeps_pure trivial

theorem keepsShape_saveState : KeepsShape saveState := by
  refine keeps_bind keeps_read fun vault shaped => ?_
  split
  · exact keeps_modify fun store found => found
  · exact keeps_raise rfl

theorem keepsShape_registerNode (now : PlainText) (nodeId role : PyStr) (ttl : Int) :
    KeepsShape (registerNode now nodeId role ttl) := by
  refine keeps_bind keeps_read fun vault shaped => ?_
  obtain ⟨nodes, table, shape⟩ := shaped.nodesOf
  obtain ⟨refused, isRefused⟩ := exists_refusesNode shape nodeId
  obtain ⟨existing, isObject⟩ := isObject_getD shape nodeId []
  rw [table, ofExcept_ok_bind, isRefused, ofExcept_ok_bind]
  refine keeps_ite (fun _ => keeps_raise rfl) fun _ => ?_
  obtain ⟨record, isRecord⟩ : ∃ record, activeRecord now role ttl (nodes.get? nodeId) = .ok record := by
    rw [activeRecord, isObject]
    exact ⟨_, rfl⟩
  rw [isRecord, ofExcept_ok_bind]
  exact keeps_bind (keeps_modify fun store found => found.setNodes (shape.set nodeId _))
    fun _ _ => keepsShape_saveState

theorem keepsShape_markRevoked (now : PlainText) (nodeId : PyStr) :
    KeepsShape (markRevoked now nodeId) := by
  refine keeps_bind keeps_read fun vault shaped => ?_
  obtain ⟨nodes, table, shape⟩ := shaped.nodesOf
  obtain ⟨record, isObject⟩ := isObject_getD shape nodeId strangerRecord
  rw [table, ofExcept_ok_bind, isObject, asRecord, ofExcept_ok_bind]
  exact keeps_bind (keeps_modify fun store found => found.setNodes (shape.set nodeId _))
    fun _ _ => keepsShape_saveState

theorem keepsShape_clearBucket (taskId : PyStr) (status : TaskStatus) :
    KeepsShape (clearBucket taskId status) := by
  refine keeps_bind keeps_read fun vault shaped => ?_
  obtain ⟨tasks, table, shape⟩ := shaped.tasksOf
  obtain ⟨_, same, buckets⟩ := shape
  cases same
  obtain ⟨items, bucket, objects⟩ := buckets status
  obtain ⟨others, isOthers, within⟩ := exists_otherTasks taskId objects
  have isItems : iterate (getOr status.text (.arr []) tasks) = .ok items := by
    rw [getOr, bucket]
    rfl
  rw [table, ofExcept_ok_bind, isItems, ofExcept_ok_bind, isOthers, ofExcept_ok_bind]
  refine keeps_modify fun store found => found.setTasks ?_
  exact TasksShape.set status ⟨tasks, rfl, buckets⟩ fun item member => objects item (within item member)

theorem keepsShape_clearBuckets (taskId : PyStr) (statuses : List TaskStatus) :
    KeepsShape (clearBuckets taskId statuses) := by
  induction statuses with
  | nil => exact keeps_pure trivial
  | cons status rest ih => exact keeps_bind (keepsShape_clearBucket taskId status) fun _ _ => ih

theorem keepsShape_pushTask (status : TaskStatus) (task : JsonObject) :
    KeepsShape (pushTask status task) := by
  refine keeps_bind keeps_read fun vault shaped => ?_
  obtain ⟨tasks, table, shape⟩ := shaped.tasksOf
  obtain ⟨_, same, buckets⟩ := shape
  cases same
  obtain ⟨items, bucket, objects⟩ := buckets status
  have isItems : asList (getOr status.text .null tasks) = .ok items := by
    rw [getOr, bucket]
    rfl
  rw [table, ofExcept_ok_bind, isItems, ofExcept_ok_bind]
  refine keeps_modify fun store found => found.setTasks ?_
  apply TasksShape.set status ⟨tasks, rfl, buckets⟩
  intro item member
  rcases List.mem_append.mp (List.mem_of_mem_drop member) with old | new
  · exact objects item old
  · cases List.mem_singleton.mp new
    exact ⟨_, rfl⟩

theorem keepsShape_upsertTask (moment : Moment) (task : JsonObject) :
    KeepsShape (upsertTask py moment task) := by
  refine keeps_bind (keepsShape_ofOption rfl _) fun status _ => ?_
  refine keeps_bind (keepsShape_clearBuckets _ _) fun _ _ => ?_
  refine keeps_bind (keepsShape_pushTask _ _) fun _ _ => ?_
  refine keeps_bind (keepsShape_ofOption rfl _) fun _ _ => ?_
  exact keeps_bind keepsShape_saveState fun _ _ => keeps_pure trivial

theorem keepsShape_pushMessage (entry : LedgerEntry) : KeepsShape (pushMessage entry) := by
  refine keeps_bind keeps_read fun vault shaped => ?_
  obtain ⟨_, found, items, rfl⟩ := shaped.messages
  have isItems : asList (getOr (lit "messages") (.arr []) vault.state) = .ok items := by
    rw [getOr, found]
    rfl
  rw [isItems, ofExcept_ok_bind]
  exact keeps_modify fun store shaped => shaped.setMessages _

theorem keepsShape_applyEvent (moment : Moment) (entry : LedgerEntry) :
    KeepsShape (applyEvent py moment entry) := by
  refine keeps_ite (fun _ => keepsShape_pushMessage entry) fun _ => ?_
  refine keeps_ite (fun _ => ?_) fun _ => keeps_ite (fun _ => ?_) fun _ => keeps_pure trivial
  · refine keeps_ite (fun _ => ?_) fun _ => keeps_pure trivial
    exact keeps_bind (keepsShape_upsertTask moment _) fun _ _ => keeps_pure trivial
  · split
    · exact keeps_pure trivial
    · exact keepsShape_registerNode _ _ _ _

theorem keepsShape_ensureAuditClean : KeepsShape (ensureAuditClean py) := by
  refine keeps_bind keeps_read fun vault shaped => ?_
  refine keeps_ite (fun _ => keeps_pure trivial) fun _ => ?_
  refine keeps_bind (keeps_modify fun store found => ?_) fun _ _ => ?_
  · exact found.setOther (by simp) (by simp) (by simp) _
  · exact keeps_bind keepsShape_saveState fun _ _ => keeps_raise rfl

theorem keepsShape_applyAndSave (moment : Moment) (entry : LedgerEntry) :
    KeepsShape (applyAndSave py moment entry) := by
  refine keeps_bind (keepsShape_applyEvent moment entry) fun _ _ => ?_
  refine keeps_bind (keeps_modify fun store found => ?_) fun _ _ => ?_
  · exact found.setOther (by simp) (by simp) (by simp) _
  refine keeps_bind (keeps_modify fun store found => ?_) fun _ _ => ?_
  · exact found.setOther (by simp) (by simp) (by simp) _
  · exact keeps_bind keepsShape_saveState fun _ _ => keeps_pure trivial

theorem keepsShape_appendLedger (line : PyStr) : KeepsShape (appendLedger line) :=
  keeps_bind (keepsShape_ofOption rfl _) fun _ _ => keeps_modify fun _ found => found

theorem keepsShape_appendAudit (line : PyStr) : KeepsShape (appendAudit line) :=
  keeps_bind (keepsShape_ofOption rfl _) fun _ _ => keeps_modify fun _ found => found

theorem keepsShape_appendEvent (moment : Moment) (node op : PyStr) (payload : JsonObject)
    (sig : PyStr) : KeepsShape (appendEvent py moment node op payload sig) := by
  refine keeps_bind keepsShape_ensureAuditClean fun _ _ => ?_
  refine keeps_bind keeps_read fun vault _ => ?_
  refine keeps_bind (keepsShape_ofOption rfl _) fun rows _ => ?_
  refine keeps_bind (keepsShape_ofOption rfl _) fun entryHash _ => ?_
  refine keeps_bind (keepsShape_ofOption rfl _) fun auditHash _ => ?_
  refine keeps_bind (keepsShape_appendLedger _) fun _ _ => ?_
  exact keeps_bind (keepsShape_appendAudit _) fun _ _ => keepsShape_applyAndSave moment _

theorem keepsShape_perform (call : RawCall) : KeepsShape (perform py call) := by
  cases call with
  | snapshot =>
      exact keeps_bind keepsShape_snapshot fun _ _ => keeps_pure trivial
  | registerNode now nodeId role ttl => exact keepsShape_registerNode now nodeId role ttl
  | markRevoked now nodeId => exact keepsShape_markRevoked now nodeId
  | upsertTask moment task =>
      exact keeps_bind (keepsShape_upsertTask moment task) fun _ _ => keeps_pure trivial
  | appendEvent moment node op payload sig =>
      exact keeps_bind (keepsShape_appendEvent moment node op payload sig)
        fun _ _ => keeps_pure trivial

/-- From a state of the shape, no run of the operations meets anything of another shape. -/
theorem shaped_run {vault : RawVault} (shaped : Shaped vault.state) (calls : List RawCall) :
    (∀ event ∈ (rawVaultMachine py).trace vault calls, ∀ fault, event.output = .error fault →
      fault.isShape = false) ∧
    Shaped ((rawVaultMachine py).run vault calls).state := by
  have anyCalls : (rawVaultMachine py).Allowed (fun _ _ => True) vault calls :=
    Machine.allowed_of_forall _ (fun _ _ _ => trivial) vault
  constructor
  · apply @Machine.trace_invariant _ _ _ (rawVaultMachine py) (fun _ _ => True)
      (fun vault => Shaped vault.state)
      fun event => ∀ fault, event.output = .error fault → fault.isShape = false
    · exact fun vault call shaped _ => (keepsShape_perform call vault shaped).1
    · exact fun vault call shaped _ => (keepsShape_perform call vault shaped).2.2
    · exact shaped
    · exact anyCalls
  · apply @Machine.run_invariant _ _ _ (rawVaultMachine py) (fun _ _ => True)
      (fun vault => Shaped vault.state)
    · exact fun vault call shaped _ => (keepsShape_perform call vault shaped).1
    · exact shaped
    · exact anyCalls

/-! ## What fails without the shape -/

/-- Whatever has no list of tasks to go through has no `get`. -/
theorem otherTasks_cases (taskId : PyStr) (items : List Json) :
    ((∀ item ∈ items, IsObject item) ∧ ∃ others, otherTasks taskId items = .ok others) ∨
      otherTasks taskId items = .error .attributeError := by
  induction items with
  | nil => exact .inl ⟨fun item member => absurd member List.not_mem_nil, [], rfl⟩
  | cons entry rest ih =>
      rw [otherTasks]
      cases entry with
      | obj fields =>
          rcases ih with ⟨objects, others, isOthers⟩ | failed
          · left
            constructor
            · intro item member
              rcases List.mem_cons.mp member with rfl | later
              · exact ⟨fields, rfl⟩
              · exact objects item later
            · simp only [asDict, isOthers, bind, Except.bind]
              exact ⟨_, rfl⟩
          · right
            simp only [asDict, failed, bind, Except.bind]
      | _ => exact .inr rfl

/-- A bucket with something else than an object stops the loop over the buckets. -/
theorem clearBuckets_fails (taskId : PyStr) {statuses : List TaskStatus} {vault : RawVault}
    {tasks : Dict PyStr Json} (isTasks : vault.state.get? (lit "tasks") = some (.obj tasks))
    (lists : ∀ status : TaskStatus, ∃ items, tasks.get? status.text = some (.arr items))
    {status : TaskStatus} {items : List Json} (bucket : tasks.get? status.text = some (.arr items))
    (member : status ∈ statuses) (bad : ¬∀ item ∈ items, IsObject item) :
    ∃ after, (clearBuckets taskId statuses).run vault = (.error .attributeError, after) := by
  induction statuses generalizing vault tasks with
  | nil => cases member
  | cons first rest ih =>
      obtain ⟨own, isOwn⟩ := lists first
      have table : tasksOf vault.state = .ok tasks := by
        rw [tasksOf, isTasks]
        rfl
      have isItems : iterate (getOr first.text (.arr []) tasks) = .ok own := by
        rw [getOr, isOwn]
        rfl
      rcases otherTasks_cases taskId own with ⟨objects, others, isOthers⟩ | failed
      · have cleared : (clearBucket taskId first).run vault = (.ok (),
            vault.setField (lit "tasks") (.obj (tasks.set first.text (.arr others)))) := by
          rw [clearBucket, run_bind_ok (run_read _), table, ofExcept_ok_bind, isItems,
            ofExcept_ok_bind, isOthers, ofExcept_ok_bind, run_modify]
        have different : status ≠ first := by
          rintro rfl
          cases bucket.symm.trans isOwn
          exact bad objects
        rw [clearBuckets, run_bind_ok cleared]
        apply ih (Dict.get?_set_self _ _ _)
        · intro other
          rw [Dict.get?_set]
          split
          · exact ⟨others, rfl⟩
          · exact lists other
        · rw [Dict.get?_set_of_ne fun same => different (TaskStatus.text_injective same)]
          exact bucket
        · exact (List.mem_cons.mp member).resolve_left different
      · refine ⟨vault, ?_⟩
        have stopped : (clearBucket taskId first).run vault = (.error .attributeError, vault) := by
          rw [clearBucket, run_bind_ok (run_read _), table, ofExcept_ok_bind, isItems,
            ofExcept_ok_bind, failed]
          exact run_bind_error (run_ofExcept _ _) _
        rw [clearBuckets, run_bind_error stopped]

/-- A vault whose two files verify writes an event that can be hashed before it applies it. -/
theorem run_appendEvent_recorded {vault : RawVault}
    (verified : verifyAuditChain py vault.ledger vault.audit = true) {moment : Moment}
    {node op : PyStr} {payload : JsonObject} {sig entryHash : PyStr}
    (hashed : hashOf py (CollabVault.newEntry moment node op payload sig).toJson = some entryHash) :
    ∃ recorded : RawVault, recorded.state = vault.state ∧
      (appendEvent py moment node op payload sig).run vault =
        (applyAndSave py moment (CollabVault.newEntry moment node op payload sig)).run recorded := by
  obtain ⟨rows, previous, isRows, isPrevious, prevPlain⟩ := previousHash_of_verified verified
  have lineEnd : Encodable [lineFeed] := by
    simpa using CodePoint.toChar?_of_lt (c := lineFeed) (by decide)
  obtain ⟨-, bytes, encoded, -⟩ := hashOf_eq_some.mp hashed
  obtain ⟨hash, linkHash⟩ := @hashOf_linkJson py _ _ _ moment.uuid.plain prevPlain
    (plain_of_hash hashed)
  have rowEncodable := @encodable_auditRow
    ⟨moment.uuid.text, .str previous, entryHash, hash, moment.now.text⟩ previous rfl
    moment.uuid.plain prevPlain (plain_of_hash hashed) (plain_of_hash linkHash) moment.now.plain
  obtain ⟨ledgerBytes, ledgerEq⟩ := encodable_iff.mp
    (encodable_append.mpr ⟨encodable_iff.mpr ⟨bytes, encoded⟩, lineEnd⟩)
  obtain ⟨auditBytes, auditEq⟩ := encodable_iff.mp (encodable_append.mpr ⟨rowEncodable, lineEnd⟩)
  refine ⟨{ vault with ledger := vault.ledger ++ ledgerBytes, audit := vault.audit ++ auditBytes },
    rfl, ?_⟩
  have idText : (CollabVault.newEntry moment node op payload sig).id = moment.uuid.text := rfl
  have tsText : (CollabVault.newEntry moment node op payload sig).ts = moment.now.text := rfl
  simp only [appendEvent, ensureAuditClean, run_bind, run_read, verified, if_true, run_pure, isRows,
    run_ofOption_some, hashed, isPrevious, idText, tsText, linkHash, appendLedger, appendAudit,
    ledgerEq, auditEq, run_modify]

/-- A message that is appended to something else than a list is not appended. -/
theorem appendEvent_fails {vault : RawVault}
    (verified : verifyAuditChain py vault.ledger vault.audit = true) {value : Json}
    (found : vault.state.get? (lit "messages") = some value) (bad : ¬MessagesShape value) :
    ∃ after, (appendEvent py .epoch (lit "n") (lit "message") .empty []).run vault =
      (.error .attributeError, after) := by
  obtain ⟨entryHash, hashed⟩ : ∃ hash, hashOf py (CollabVault.newEntry .epoch (lit "n")
      (lit "message") .empty []).toJson = some hash := by
    apply hashOf_isSome_of_encodable rfl
    exact allStrings_newEntry (fun text plain => encodable_of_plain plain) (encodable_lit _)
      (encodable_lit _) trivial encodable_nil
  obtain ⟨recorded, sameState, ran⟩ := run_appendEvent_recorded verified hashed
  have notList : asList (getOr (lit "messages") (.arr []) recorded.state) =
      .error .attributeError := by
    rw [sameState, getOr, found]
    cases value with
    | arr items => exact absurd ⟨items, rfl⟩ bad
    | _ => rfl
  have pushed : (pushMessage (CollabVault.newEntry .epoch (lit "n") (lit "message") .empty [])).run
      recorded = (.error .attributeError, recorded) := by
    rw [pushMessage, run_bind_ok (run_read _), notList]
    exact run_bind_error (run_ofExcept _ _) _
  refine ⟨recorded, ?_⟩
  rw [ran, applyAndSave, applyEvent, if_pos (.inl rfl), run_bind_error pushed]

end RawVault

/-! ## The result -/

section Survives

variable {py : Platform} {vault : RawVault} {content : ByteArray}

/-- No call on the vault, after any others, fails because of the shape of the state. -/
def RawVault.Safe (py : Platform) (vault : RawVault) : Prop :=
  ∀ calls, ∀ event ∈ (rawVaultMachine py).trace vault calls, ∀ fault,
    event.output = .error fault → fault.isShape = false

theorem RawVault.Safe.isShape (safe : vault.Safe py) {call : RawCall} {fault : AuthFault}
    {after : RawVault} (ran : (RawVault.perform py call).run vault = (.error fault, after)) :
    fault.isShape = false := by
  apply safe [call] ⟨vault, call, _, _⟩ List.mem_cons_self fault
  simp only [rawVaultMachine, ran]

theorem nodesShape_of_safe (safe : vault.Safe py) {value : Json}
    (found : vault.state.get? (lit "nodes") = some value) : NodesShape value := by
  cases value with
  | obj nodes =>
      refine ⟨nodes, rfl, ?_⟩
      intro nodeId node isNode
      by_contra notObject
      have noRecord : asRecord ((Dict.get? nodeId nodes).getD (.obj RawVault.strangerRecord)) =
          .error .typeError := by
        rw [isNode]
        cases node with
        | obj record => exact absurd ⟨record, rfl⟩ notObject
        | _ => rfl
      have failed : (RawVault.perform py (.markRevoked Moment.epoch.now nodeId)).run vault =
          (.error .typeError, vault) := by
        rw [RawVault.perform, RawVault.markRevoked, run_bind_ok (run_read _), nodesOf, getOr, found,
          Option.getD_some, asDict, ofExcept_ok_bind, noRecord]
        exact run_bind_error (run_ofExcept _ _) _
      cases safe.isShape failed
  | _ =>
      have failed : (RawVault.perform py (.registerNode Moment.epoch.now [] [] 0)).run vault =
          (.error .attributeError, vault) := by
        rw [RawVault.perform, RawVault.registerNode, run_bind_ok (run_read _), nodesOf, getOr, found]
        exact run_bind_error (run_ofExcept _ _) _
      cases safe.isShape failed

theorem objects_of_safe (safe : vault.Safe py) {tasks : Dict PyStr Json}
    (isTasks : vault.state.get? (lit "tasks") = some (.obj tasks))
    (lists : ∀ status : TaskStatus, ∃ items, tasks.get? status.text = some (.arr items))
    {status : TaskStatus} {items : List Json} (bucket : tasks.get? status.text = some (.arr items)) :
    ∀ item ∈ items, IsObject item := by
  by_contra bad
  obtain ⟨after, stopped⟩ := RawVault.clearBuckets_fails
    (CollabVault.taskIdText py .epoch (JsonObject.empty.setText (lit "status") TaskStatus.pending.text))
    isTasks lists bucket (TaskStatus.mem_all status) bad
  have isPending : CollabVault.taskStatus? py
      (JsonObject.empty.setText (lit "status") TaskStatus.pending.text) = some .pending :=
    taskStatus?_of_status (by rw [JsonObject.get?_setText, if_pos rfl])
  have failed : (RawVault.perform py (.upsertTask .epoch
      (JsonObject.empty.setText (lit "status") TaskStatus.pending.text))).run vault =
        (.error .attributeError, after) := by
    rw [RawVault.perform, RawVault.upsertTask, isPending]
    apply run_bind_error
    rw [run_bind_ok (run_ofOption_some _ _ _), run_bind_error stopped]
  cases safe.isShape failed

theorem messagesShape_of_safe (safe : vault.Safe py)
    (verified : verifyAuditChain py vault.ledger vault.audit = true) {value : Json}
    (found : vault.state.get? (lit "messages") = some value) : MessagesShape value := by
  by_contra bad
  obtain ⟨after, failed⟩ := @RawVault.appendEvent_fails py vault verified value found bad
  have called : (RawVault.perform py (.appendEvent .epoch (lit "n") (lit "message") .empty [])).run
      vault = (.error .attributeError, after) := by
    rw [RawVault.perform, run_bind_error failed]
  cases safe.isShape called

/-- The fields of a file are loadable when no call on a vault made from them fails because of
the shape. -/
theorem loadable_of_safe {fields : Dict PyStr Json} (distinct : fields.keys.Nodup)
    (loaded : stateOf (.obj fields) = .ok vault.state) (safe : vault.Safe py)
    (verified : verifyAuditChain py vault.ledger vault.audit = true) : Loadable fields := by
  obtain ⟨tasks, isTasks, isState⟩ := stateOf_eq_ok.mp loaded
  have kept : ∀ {key value}, lit "tasks" ≠ key → fields.get? key = some value →
      vault.state.get? key = some value := by
    intro key value notTasks own
    rw [← isState, Dict.get?_set_of_ne (Ne.symm notTasks), get?_base distinct, own]
    rfl
  constructor
  · intro value own
    exact nodesShape_of_safe safe (kept (by simp) own)
  · intro value own
    rw [getOr, get?_base distinct, own] at isTasks
    cases isTasks
    refine ⟨tasks, rfl, ?_⟩
    intro status items bucket
    apply @objects_of_safe py vault safe (TaskStatus.all.foldl repairBucket tasks) _ _ status
    · rw [get?_repaired, bucket]
      rfl
    · rw [← isState]
      exact Dict.get?_set_self _ _ _
    · exact fun status => ⟨_, get?_repaired tasks status⟩
  · intro value own
    exact messagesShape_of_safe safe verified (kept (by simp) own)

theorem verifyAuditChain_empty : verifyAuditChain py ByteArray.empty ByteArray.empty = true :=
  @chainVerified_fresh py []

/-- A vault can be made from a file in UTF-8 and works whatever is called, without meeting a
value of another shape, exactly when `json.loads` does not give up on the file, and it is no
JSON object or the nodes, the tasks and the messages in it, where there are any, are as the
vault would have written them. -/
theorem survives_iff (py : Platform) (givesUp : PyStr → Bool) {content : ByteArray} {text : PyStr}
    (decoded : readText content = some text) :
    Survives py givesUp content ↔
      givesUp text = false ∧ ∀ fields, loads text = some (.obj fields) → Loadable fields := by
  have within : givesUp text = false → loadStateWithin givesUp content = loadState content := by
    intro small
    rw [loadStateWithin, decoded, Option.any_some, small, if_neg Bool.false_ne_true]
  have unread : loads text = none → loadState content = .ok defaultFields := by
    intro read
    rw [loadState, decoded]
    simp only [read]
  have load : ∀ data, loads text = some data → loadState content = stateOf data := by
    intro data read
    rw [loadState, decoded]
    simp only [read]
  have works : ∀ state, loadStateWithin givesUp content = .ok state → Shaped state →
      Survives py givesUp content := by
    intro state loaded shaped
    refine ⟨state, loaded, ?_⟩
    rintro vault rfl calls
    exact RawVault.shaped_run shaped calls
  constructor
  · rintro ⟨state, loaded, safe⟩
    have small : givesUp text = false := by
      by_contra large
      rw [Bool.not_eq_false] at large
      rw [loadStateWithin, decoded, Option.any_some, large, if_pos rfl] at loaded
      cases loaded
    refine ⟨small, fun fields isObject => ?_⟩
    rw [within small, load _ isObject] at loaded
    apply @loadable_of_safe py ⟨ByteArray.empty, ByteArray.empty, state, state⟩ fields
      (distinct_of_loads isObject).1 loaded
    · exact fun calls => (safe _ rfl calls).1
    · exact verifyAuditChain_empty
  · rintro ⟨small, loadable⟩
    rw [within small] at works
    cases read : loads text with
    | none => exact works defaultFields (unread read) shaped_default
    | some data =>
        cases data with
        | obj fields =>
            obtain ⟨state, loaded, shaped⟩ := shaped_stateOf (distinct_of_loads read).1
              (loadable fields read)
            exact works state ((load _ read).trans loaded) shaped
        | _ => exact works defaultFields (load _ read) shaped_default

/-! ## What the vault writes is read back -/

/-- A value that is written to a file is read back, with its fields sorted. -/
theorem loads_jsonBytes {value : Json} (distinct : value.Distinct)
    (written : jsonBytes value = some content) :
    ∃ text, readText content = some text ∧ loads text = some (value.ordered .canonical) := by
  refine ⟨value.dumps .canonical ++ [lineFeed], ?_, ?_⟩
  · have read := @readText_joinRows [value.dumps .canonical] content
      (fun line member => List.mem_singleton.mp member ▸ Json.uncontrolled_canonical value)
      (by simpa [jsonBytes] using written)
    simpa using read
  · apply Json.loads_canonical distinct
    intro c member
    cases List.mem_singleton.mp member
    decide

/-- The bytes of an object whose tasks are a list. -/
def listedTasks : ByteArray := (jsonBytes (.obj [(lit "tasks", .arr [])])).getD ByteArray.empty

theorem written_getD {value : Json} (strings : value.AllStrings Encodable) :
    jsonBytes value = some ((jsonBytes value).getD ByteArray.empty) := by
  have lineEnd : Encodable [lineFeed] := by
    simpa using CodePoint.toChar?_of_lt (c := lineFeed) (by decide)
  obtain ⟨bytes, encoded⟩ := encodable_iff.mp
    (encodable_append.mpr ⟨Json.encodable_canonical strings, lineEnd⟩)
  rw [jsonBytes, encoded]
  rfl

/-- A state with a node and a task. -/
def smallFields : Dict PyStr Json :=
  [(lit "nodes", .obj [(lit "n", .obj [(lit "status", .str (lit "active"))])]),
    (lit "tasks", .obj [(lit "pending", .arr [.obj [(lit "id", .str (lit "t"))]])])]

/-- The bytes of a state with a node and a task. -/
def smallState : ByteArray := (jsonBytes (.obj smallFields)).getD ByteArray.empty

/-- A vault can be made from a file with a node and a task. -/
theorem survives_smallState : Survives Platform.plain (fun _ => false) smallState := by
  have distinct : (Json.obj smallFields).Distinct := by
    simp [smallFields, Json.Distinct, Json.DistinctFields, Json.DistinctItems, lit]
  have strings : (Json.obj smallFields).AllStrings Encodable := by
    simp [smallFields, Json.AllStrings, Json.AllStringsFields, Json.AllStringsItems, encodable_lit]
  obtain ⟨text, decoded, read⟩ := loads_jsonBytes distinct (written_getD strings)
  refine (survives_iff Platform.plain (fun _ => false) decoded).mpr ⟨rfl, fun fields isObject => ?_⟩
  rw [read, Option.some.injEq] at isObject
  have sorted : (Json.obj smallFields).ordered .canonical = .obj smallFields := by rfl
  rw [sorted] at isObject
  cases isObject
  constructor
  · rintro value ⟨⟩
    refine ⟨_, rfl, fun nodeId node found => ?_⟩
    exact ⟨_, (Prod.mk.inj (List.mem_singleton.mp (Dict.mem_of_get? found))).2⟩
  · rintro value ⟨⟩
    refine ⟨_, rfl, fun status items found item member => ?_⟩
    have bucket := (Prod.mk.inj (List.mem_singleton.mp (Dict.mem_of_get? found))).2
    rw [Json.arr.injEq] at bucket
    rw [bucket] at member
    exact ⟨_, List.mem_singleton.mp member⟩
  · rintro value ⟨⟩

/-- The tasks are a list, which has no `get`: no vault can be made, whatever the limits. -/
theorem not_survives_listedTasks :
    (∃ text, readText listedTasks = some text) ∧
      ∀ givesUp, ¬Survives Platform.plain givesUp listedTasks := by
  obtain ⟨text, decoded, read⟩ := @loads_jsonBytes listedTasks (.obj [(lit "tasks", .arr [])])
    ⟨List.nodup_singleton _, trivial, trivial⟩ (written_getD ⟨encodable_lit _, trivial, trivial⟩)
  refine ⟨⟨text, decoded⟩, ?_⟩
  rintro givesUp ⟨state, loaded, -⟩
  rw [loadStateWithin] at loaded
  split at loaded
  · cases loaded
  rw [loadState, decoded] at loaded
  simp only [read] at loaded
  cases loaded

end Survives

end HermesMesh.Collab
