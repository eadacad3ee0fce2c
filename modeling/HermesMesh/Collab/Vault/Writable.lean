import HermesMesh.Collab.Vault.Ledger

/-!
# States that `state.json` can hold

`_save_state` writes the whole memory, so one text with a lone surrogate, in a node, a task or
a message, keeps every later state from being saved.
-/

namespace HermesMesh.Collab

open Python

instance (state : VaultState) : Decidable state.Writable :=
  inferInstanceAs (Decidable ((jsonBytes state.toJson).isSome = true))

/-- A value is written exactly if UTF-8 can hold each of its texts. -/
theorem isSome_jsonBytes_iff {value : Json} :
    (jsonBytes value).isSome = true ↔ value.AllStrings Encodable := by
  have lineEnd : Encodable [lineFeed] := by
    simpa using CodePoint.toChar?_of_lt (c := lineFeed) (by decide)
  have encodes : (jsonBytes value).isSome = true ↔
      Encodable (value.dumps .canonical ++ [lineFeed]) := by
    rw [Option.isSome_iff_exists, encodable_iff]
    rfl
  rw [encodes, encodable_append]
  constructor
  · exact fun both => Json.encodable_of_canonical both.1
  · exact fun strings => ⟨Json.encodable_canonical strings, lineEnd⟩

theorem allStringsItems_iff {good : PyStr → Prop} {items : List Json} :
    Json.AllStringsItems good items ↔ ∀ item ∈ items, item.AllStrings good := by
  induction items with
  | nil => simp [Json.AllStringsItems]
  | cons item rest ih => rw [Json.AllStringsItems, ih, List.forall_mem_cons]

namespace VaultState

variable {state : VaultState}

theorem writable_iff : state.Writable ↔ state.toJson.AllStrings Encodable := isSome_jsonBytes_iff

/-- The texts of a state, but for its times of synchronisation. -/
structure Legible (state : VaultState) : Prop where
  nodes : ∀ node ∈ state.nodes, Encodable node.1 ∧ node.2.toJson.AllStrings Encodable
  tasks : ∀ status, ∀ task ∈ state.tasks status, task.toJson.AllStrings Encodable
  messages : ∀ message ∈ state.messages, message.toJson.AllStrings Encodable

theorem writable_iff_legible :
    state.Writable ↔ state.Legible ∧ ∀ time, state.lastSync = some time → Encodable time := by
  have sync : (optionalText state.lastSync).AllStrings Encodable ↔
      ∀ time, state.lastSync = some time → Encodable time := by
    cases state.lastSync <;> simp [optionalText, Json.AllStrings]
  have nodes : (Json.obj (state.nodes.map fun node => (node.1, node.2.toJson))).AllStrings Encodable ↔
      ∀ node ∈ state.nodes, Encodable node.1 ∧ node.2.toJson.AllStrings Encodable := by
    rw [Json.AllStrings, Json.allStringsFields_iff]
    exact List.forall_mem_map
  have messages : (Json.arr (state.messages.map Message.toJson)).AllStrings Encodable ↔
      ∀ message ∈ state.messages, message.toJson.AllStrings Encodable := by
    rw [Json.AllStrings, allStringsItems_iff]
    exact List.forall_mem_map
  have bucket : ∀ status, (Json.arr ((state.tasks status).map JsonObject.toJson)).AllStrings Encodable ↔
      ∀ task ∈ state.tasks status, task.toJson.AllStrings Encodable := by
    intro status
    rw [Json.AllStrings, allStringsItems_iff]
    exact List.forall_mem_map
  have tasks : (tasksJson state.tasks).AllStrings Encodable ↔
      ∀ status, ∀ task ∈ state.tasks status, task.toJson.AllStrings Encodable := by
    rw [tasksJson, tasksFields, Json.AllStrings, Json.allStringsFields_iff, List.forall_mem_map]
    constructor
    · exact fun strings status => (bucket status).mp (strings status status.mem_all).2
    · intro strings status _
      refine ⟨?_, (bucket status).mpr (strings status)⟩
      cases status <;> exact encodable_lit _
  rw [writable_iff]
  constructor
  · rintro ⟨-, inNodes, -, inTasks, -, inMessages, -, -, -, inSync, -⟩
    exact ⟨⟨nodes.mp inNodes, tasks.mp inTasks, messages.mp inMessages⟩, sync.mp inSync⟩
  · rintro ⟨legible, inSync⟩
    exact ⟨encodable_lit _, nodes.mpr legible.nodes, encodable_lit _, tasks.mpr legible.tasks,
      encodable_lit _, messages.mpr legible.messages, encodable_lit _, trivial, encodable_lit _,
      sync.mpr inSync, encodable_lit _, trivial, trivial⟩

theorem legible_default : VaultState.default.Legible where
  nodes := fun _ member => absurd member List.not_mem_nil
  tasks := fun _ _ member => absurd member List.not_mem_nil
  messages := fun _ member => absurd member List.not_mem_nil

theorem writable_default : VaultState.default.Writable :=
  writable_iff_legible.mpr ⟨legible_default, fun _ impossible => by cases impossible⟩

/-- A task of a state that can be written can be written to a file of its own. -/
theorem Writable.task (writable : state.Writable) {status : TaskStatus} {task : JsonObject}
    (listed : task ∈ state.tasks status) : (jsonBytes task.toJson).isSome = true :=
  isSome_jsonBytes_iff.mpr ((writable_iff_legible.mp writable).1.tasks status task listed)

theorem Writable.tampered (writable : state.Writable) (tampered : Bool) :
    Writable { state with auditTampered := tampered } := by
  obtain ⟨legible, sync⟩ := writable_iff_legible.mp writable
  rw [writable_iff_legible]
  exact ⟨⟨legible.nodes, legible.tasks, legible.messages⟩, sync⟩

/-- A legible message leaves the state legible. -/
theorem Legible.withMessage (legible : state.Legible) {message : Message}
    (good : message.toJson.AllStrings Encodable) : (state.withMessage message).Legible := by
  rw [VaultState.withMessage]
  constructor
  · exact legible.nodes
  · exact legible.tasks
  · intro other listed
    dsimp only at listed
    rw [lastN] at listed
    rcases List.mem_append.mp (List.mem_of_mem_drop listed) with old | new
    · exact legible.messages other old
    · exact List.mem_singleton.mp new ▸ good

/-- The mark and the time do not matter to the rest. -/
theorem Legible.marked (legible : state.Legible) {entry : LedgerEntry} (time : Encodable entry.ts)
    (tampered : Bool) : Writable { state.synced entry with auditTampered := tampered } := by
  rw [synced, writable_iff_legible]
  refine ⟨⟨legible.nodes, legible.tasks, legible.messages⟩, ?_⟩
  rintro _ ⟨⟩
  exact time

theorem writable_synced_iff {entry : LedgerEntry} (time : Encodable entry.ts) :
    (state.synced entry).Writable ↔ state.Legible := by
  constructor
  · intro writable
    have legible := (writable_iff_legible.mp writable).1
    exact ⟨legible.nodes, legible.tasks, legible.messages⟩
  · exact fun legible => legible.marked time false

end VaultState

theorem encodable_message {message : Message} (id : Encodable message.id) (ts : Encodable message.ts)
    (node : Encodable message.node) (op : Encodable message.op)
    (payload : message.payload.toJson.AllStrings Encodable) :
    message.toJson.AllStrings Encodable :=
  ⟨encodable_lit _, id, encodable_lit _, ts, encodable_lit _, node, encodable_lit _, op,
    encodable_lit _, payload, trivial⟩

/-! ## Tasks and nodes of an event -/

theorem encodable_textOr {py : Platform} {value : Option Json} {default : PyStr}
    (strings : ∀ json, value = some json → json.AllStrings Encodable) (isDefault : Encodable default) :
    Encodable (CollabVault.textOr py value default) := by
  unfold CollabVault.textOr
  split
  · next json =>
      split
      · exact Json.encodable_pyStr (strings json rfl)
      · exact isDefault
  · exact isDefault

theorem encodable_eventTask {payload : JsonObject} (strings : payload.toJson.AllStrings Encodable) :
    (CollabVault.eventTask payload).toJson.AllStrings Encodable := by
  unfold CollabVault.eventTask
  cases found : payload.getObject? (lit "task") with
  | none => exact strings
  | some task =>
      have isTask := JsonObject.getObject?_eq_some.mp found
      exact Json.AllStrings.get? strings isTask

theorem encodable_storedTask {moment : Moment} {taskId : PyStr} {status : TaskStatus}
    {task : JsonObject} (isId : Encodable taskId) (strings : task.toJson.AllStrings Encodable) :
    (CollabVault.storedTask moment taskId status task).toJson.AllStrings Encodable := by
  have isStatus : Encodable status.text := by cases status <;> exact encodable_lit _
  have set : ∀ {object : JsonObject} (key : String) {text : PyStr}, Encodable text →
      object.toJson.AllStrings Encodable →
        (object.setText (lit key) text).toJson.AllStrings Encodable :=
    fun key _ good strings => Json.AllStrings.set strings (encodable_lit key) good
  have named := set "status" isStatus (set "id" isId strings)
  unfold CollabVault.storedTask
  dsimp only
  split
  · exact named
  · exact set "updated_at" (encodable_of_plain moment.now.plain) named

namespace VaultState

variable {state : VaultState}

theorem Legible.withTask (legible : state.Legible) {taskId : PyStr} {status : TaskStatus}
    {task : JsonObject} (strings : task.toJson.AllStrings Encodable) :
    (CollabVault.withTask taskId status task state).Legible := by
  have others : ∀ bucket, ∀ other ∈ (state.tasks bucket).filter fun other =>
      !CollabVault.hasId taskId other, other.toJson.AllStrings Encodable :=
    fun bucket other listed => legible.tasks bucket other (List.mem_of_mem_filter listed)
  rw [CollabVault.withTask]
  constructor
  · exact legible.nodes
  · intro bucket other listed
    dsimp only at listed
    rw [CollabVault.placeTask] at listed
    split at listed
    · rw [lastN] at listed
      rcases List.mem_append.mp (List.mem_of_mem_drop listed) with old | new
      · exact others bucket other old
      · exact List.mem_singleton.mp new ▸ strings
    · exact others bucket other listed
  · exact legible.messages

theorem Legible.setNode (legible : state.Legible) {nodeId : PyStr} {record : NodeRecord}
    (isNode : Encodable nodeId) (strings : record.toJson.AllStrings Encodable) :
    Legible { state with nodes := state.nodes.set nodeId record } where
  nodes := by
    intro node listed
    rcases Dict.mem_set listed with rfl | old
    · exact ⟨isNode, strings⟩
    · exact legible.nodes node old
  tasks := legible.tasks
  messages := legible.messages

/-- A node that registers keeps the time at which it has joined. -/
theorem Legible.registered (legible : state.Legible) (moment : Moment) (nodeId : PyStr)
    {role : PyStr} (isRole : Encodable role) (ttl : Int) :
    (CollabVault.registered moment (state.nodes.get? nodeId) role ttl).toJson.AllStrings Encodable := by
  have now := encodable_of_plain moment.now.plain
  have joined : (optionalText ((state.nodes.get? nodeId).elim (some moment.now.text)
      NodeRecord.joinedAt)).AllStrings Encodable := by
    cases found : state.nodes.get? nodeId with
    | none => exact now
    | some record =>
        obtain ⟨-, -, -, isJoined, -⟩ := (legible.nodes _ (Dict.mem_of_get? found)).2
        exact isJoined
  exact ⟨encodable_lit _, encodable_lit _, encodable_lit _, joined, encodable_lit _, now,
    encodable_lit _, isRole, encodable_lit _, trivial, trivial⟩

end VaultState

end HermesMesh.Collab
