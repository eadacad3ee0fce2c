import HermesMesh.Collab.Vault.Reload

/-!
# The program is stopped and started

A vault over its files, under calls and restarts.  A restart forgets the memory and loads
`state.json` again.  Next to it stands a vault that is given the same calls and never
restarted: the two hold the same, up to the order of fields, and the files are the same to the
last byte, as long as no call fails half way, with its changes in the memory and not in the file.
-/

namespace HermesMesh.Collab

open Python Foundation Foundation.Action Foundation.Machine

/-- `VaultError`, which a handler takes for a refused request. -/
def AuthFault.isVaultError : AuthFault → Bool
  | .vaultError _ => true
  | _ => false

/-! ## Vaults that are alike -/

/-- The vaults hold the same, up to the order of fields. -/
structure Twin (left right : RawVault) : Prop where
  ledger : left.ledger = right.ledger
  audit : left.audit = right.audit
  state : Json.Alike (.obj left.state) (.obj right.state)
  stateFile : jsonBytes (.obj left.stateFile) = jsonBytes (.obj right.stateFile)
  loaded : Loaded left.state

/-- Dictionaries that are alike. -/
abbrev AlikeFields (left right : Dict PyStr Json) : Prop := Json.Alike (.obj left) (.obj right)

theorem paired_asDict {left right : Json} (alike : Json.Alike left right) :
    Paired Eq AlikeFields (asDict left) (asDict right) := by
  rcases alike.shapes with ⟨fields, others, rfl, rfl⟩ | ⟨items, others, rfl, rfl⟩ | rfl
  · exact alike
  · exact rfl
  · cases left with
    | obj fields => exact alike
    | _ => exact rfl

theorem paired_asRecord {left right : Json} (alike : Json.Alike left right) :
    Paired Eq AlikeFields (asRecord left) (asRecord right) := by
  rcases alike.shapes with ⟨fields, others, rfl, rfl⟩ | ⟨items, others, rfl, rfl⟩ | rfl
  · exact alike
  · exact rfl
  · cases left with
    | obj fields => exact alike
    | _ => exact rfl

theorem paired_asList {left right : Json} (alike : Json.Alike left right) :
    Paired Eq (List.Forall₂ Json.Alike) (RawVault.asList left) (RawVault.asList right) := by
  rcases alike.shapes with ⟨fields, others, rfl, rfl⟩ | ⟨items, others, rfl, rfl⟩ | rfl
  · exact rfl
  · exact Json.alike_arr_iff.mp alike
  · cases left with
    | arr items => exact Json.alike_arr_iff.mp alike
    | _ => exact rfl

theorem alike_getD {fields others : Dict PyStr Json} (alike : AlikeFields fields others)
    (key : PyStr) {default : Json} (distinct : default.Distinct) :
    Json.Alike ((fields.get? key).getD default) ((others.get? key).getD default) := by
  rcases alike.get? key with ⟨none, alsoNone⟩ | ⟨value, other, found, isOther, both⟩
  · rw [none, alsoNone]
    exact Json.alike_refl distinct
  · rw [found, isOther]
    exact both

theorem alike_str (text : PyStr) : Json.Alike (.str text) (.str text) := Json.alike_refl trivial

theorem alike_empty : AlikeFields [] [] := Json.alike_refl ⟨List.nodup_nil, trivial⟩

theorem paired_nodesOf {left right : Dict PyStr Json} (alike : AlikeFields left right) :
    Paired Eq AlikeFields (nodesOf left) (nodesOf right) :=
  paired_asDict (alike_getD alike _ alike_empty.leftDistinct)

theorem paired_refusesNode {left right : Json} (alike : Json.Alike left right) :
    Paired Eq Eq (refusesNode left) (refusesNode right) := by
  rw [refusesNode, refusesNode, alike.truthy_eq]
  split
  · apply (paired_asDict alike).bind
    intro one other both
    exact (@alike_getD one other both _ .null trivial).pyEq_str _
  · exact rfl

namespace RawVault

theorem distinct_activeRecord (now : PlainText) (role : PyStr) (ttl : Int) {joined : Json}
    (distinct : joined.Distinct) :
    (Json.obj [(lit "status", .str (lit "active")), (lit "joined_at", joined),
      (lit "last_seen", .str now.text), (lit "role", .str role), (lit "ttl", .int ttl)]).Distinct := by
  refine ⟨?_, trivial, distinct, trivial, trivial, trivial, trivial⟩
  simp only [List.map_cons, List.map_nil, List.nodup_cons, List.mem_cons, lit_inj]
  decide

theorem paired_activeRecord (now : PlainText) (role : PyStr) (ttl : Int) {left right : Option Json}
    (alike : Json.Alike (left.getD (.obj [])) (right.getD (.obj []))) :
    Paired Eq AlikeFields (activeRecord now role ttl left) (activeRecord now role ttl right) := by
  apply (paired_asDict alike).bind
  intro one other both
  have joined := @alike_getD one other both (lit "joined_at") (.str now.text) trivial
  have record := (Json.alike_refl (@distinct_activeRecord now role ttl .null trivial)).set
    (lit "joined_at") joined
  simp only [Dict.set, lit_inj, String.reduceEq, if_false, if_true] at record
  exact record

theorem alike_markedRecord (now : PlainText) {left right : Dict PyStr Json}
    (alike : AlikeFields left right) :
    AlikeFields (markedRecord now left) (markedRecord now right) := by
  have marked := alike.set (lit "status") (alike_str (lit "revoked"))
  have lastSeen := @alike_getD _ _ marked (lit "last_seen") .null trivial
  apply marked.set
  rw [getOr, getOr, lastSeen.truthy_eq]
  split
  · exact lastSeen
  · exact alike_str _

theorem paired_otherTasks (taskId : PyStr) {items others : List Json}
    (alike : List.Forall₂ Json.Alike items others) :
    Paired Eq (List.Forall₂ Json.Alike) (otherTasks taskId items) (otherTasks taskId others) := by
  induction alike with
  | nil => exact List.Forall₂.nil
  | cons head tail ih =>
      apply (paired_asDict head).bind
      intro task sameTask both
      apply ih.bind
      intro kept alsoKept rest
      have same := (@alike_getD task sameTask both (lit "id") .null trivial).pyEq_str taskId
      rw [getOr, getOr, same]
      split
      · exact rest
      · exact .cons head rest

/-! ## The operations on both -/

variable {py : Platform}

/-- The operation does the same on vaults that are alike. -/
abbrev SameOnTwins {α β : Type} (values : α → β → Prop) (left : Action RawVault AuthFault α)
    (right : Action RawVault AuthFault β) : Prop :=
  Match Eq Twin values left right

theorem Twin.setField {left right : RawVault} (twin : Twin left right) {key : PyStr}
    (notTasks : lit "tasks" ≠ key) {value other : Json} (alike : Json.Alike value other) :
    Twin (left.setField key value) (right.setField key other) where
  ledger := twin.ledger
  audit := twin.audit
  state := twin.state.set key alike
  stateFile := twin.stateFile
  loaded := {
    fields := fun _ isDefault => mem_keys_set value (twin.loaded.fields _ isDefault)
    tasks := by
      change ∃ tasks, (left.state.set key value).get? (lit "tasks") = _ ∧ _
      rw [Dict.get?_set_of_ne notTasks]
      exact twin.loaded.tasks }

theorem Twin.setTasks {left right : RawVault} (twin : Twin left right)
    {tasks others : Dict PyStr Json} (alike : AlikeFields tasks others)
    (lists : ∀ status : TaskStatus, ∃ items, tasks.get? status.text = some (.arr items)) :
    Twin (left.setField (lit "tasks") (.obj tasks))
      (right.setField (lit "tasks") (.obj others)) where
  ledger := twin.ledger
  audit := twin.audit
  state := twin.state.set _ alike
  stateFile := twin.stateFile
  loaded := {
    fields := fun _ isDefault => mem_keys_set _ (twin.loaded.fields _ isDefault)
    tasks := ⟨tasks, Dict.get?_set_self _ _ _, lists⟩ }

/-- The tables of tasks of both. -/
theorem Twin.tasks {left right : RawVault} (twin : Twin left right) :
    ∃ tasks others, tasksOf left.state = .ok tasks ∧ tasksOf right.state = .ok others ∧
      AlikeFields tasks others ∧
        ∀ status : TaskStatus, ∃ items, Dict.get? status.text tasks = some (.arr items) := by
  obtain ⟨tasks, isTasks, lists⟩ := twin.loaded.tasks
  have inLeft : tasksOf left.state = .ok tasks := by
    rw [tasksOf, isTasks]
    rfl
  rcases twin.state.get? (lit "tasks") with ⟨none, -⟩ | ⟨value, other, found, isOther, both⟩
  · cases isTasks.symm.trans none
  · cases isTasks.symm.trans found
    rcases both.shapes with ⟨fields, others, same, rfl⟩ | ⟨items, others, same, -⟩ | rfl
    · cases same
      refine ⟨tasks, others, inLeft, ?_, both, lists⟩
      rw [tasksOf, isOther]
      rfl
    · cases same
    · refine ⟨tasks, tasks, inLeft, ?_, both, lists⟩
      rw [tasksOf, isOther]
      rfl

/-- A bucket in both. -/
theorem buckets_alike {tasks others : Dict PyStr Json} (alike : AlikeFields tasks others)
    (lists : ∀ status : TaskStatus, ∃ items, tasks.get? status.text = some (.arr items))
    (status : TaskStatus) : ∃ items own, tasks.get? status.text = some (.arr items) ∧
      others.get? status.text = some (.arr own) ∧ List.Forall₂ Json.Alike items own := by
  obtain ⟨items, bucket⟩ := lists status
  rcases alike.get? status.text with ⟨none, -⟩ | ⟨value, other, found, isOther, both⟩
  · cases bucket.symm.trans none
  · cases bucket.symm.trans found
    rcases both.shapes with ⟨fields, others, same, -⟩ | ⟨_, own, same, rfl⟩ | rfl
    · cases same
    · cases same
      exact ⟨items, own, bucket, isOther, Json.alike_arr_iff.mp both⟩
    · exact ⟨items, items, bucket, isOther, Json.alike_arr_iff.mp both⟩

theorem lists_set {tasks : Dict PyStr Json}
    (lists : ∀ status : TaskStatus, ∃ items, tasks.get? status.text = some (.arr items))
    (key : PyStr) (items : List Json) (status : TaskStatus) :
    ∃ items', (tasks.set key (.arr items)).get? status.text = some (.arr items') := by
  rw [Dict.get?_set]
  split
  · exact ⟨items, rfl⟩
  · exact lists status

theorem twins_saveState : SameOnTwins Eq saveState saveState := by
  refine match_bind match_read fun left right twin => ?_
  have text : plainText left.state = plainText right.state := twin.state.dumps_eq
  rw [text]
  split
  · intro store other found
    refine ⟨⟨found.ledger, found.audit, found.state, ?_, found.loaded⟩, rfl⟩
    change jsonBytes (.obj store.state) = jsonBytes (.obj other.state)
    rw [jsonBytes, jsonBytes, found.state.dumps_eq]
  · exact match_raise rfl

theorem twins_registerNode (now : PlainText) (nodeId role : PyStr) (ttl : Int) :
    SameOnTwins Eq (registerNode now nodeId role ttl) (registerNode now nodeId role ttl) := by
  refine match_bind match_read fun left right twin => ?_
  refine match_bind (match_ofExcept (paired_nodesOf twin.state)) fun nodes others alike => ?_
  have existing := @alike_getD nodes others alike nodeId .null trivial
  refine match_bind (match_ofExcept (paired_refusesNode existing)) fun refused also same => ?_
  subst same
  refine match_ite (fun _ => match_raise rfl) fun _ => ?_
  have record := alike_getD alike nodeId alike_empty.leftDistinct
  refine match_bind (match_ofExcept (paired_activeRecord now role ttl record))
    fun active other both => ?_
  refine match_bind (match_modify fun store other twin => ?_) fun _ _ _ => twins_saveState
  exact Twin.setField twin (by simp) (alike.set nodeId both)

theorem twins_markRevoked (now : PlainText) (nodeId : PyStr) :
    SameOnTwins Eq (markRevoked now nodeId) (markRevoked now nodeId) := by
  refine match_bind match_read fun left right twin => ?_
  refine match_bind (match_ofExcept (paired_nodesOf twin.state)) fun nodes others alike => ?_
  have distinct : (Json.obj strangerRecord).Distinct := by
    refine ⟨?_, trivial, trivial, trivial, trivial⟩
    simp only [strangerRecord, List.map_cons, List.map_nil, List.nodup_cons, List.mem_cons, lit_inj]
    decide
  have existing := alike_getD alike nodeId distinct
  refine match_bind (match_ofExcept (paired_asRecord existing)) fun record other both => ?_
  refine match_bind (match_modify fun store other twin => ?_) fun _ _ _ => twins_saveState
  exact Twin.setField twin (by simp) (alike.set nodeId (alike_markedRecord now both))

theorem twins_clearBucket (taskId : PyStr) (status : TaskStatus) :
    SameOnTwins (fun _ _ => True) (clearBucket taskId status) (clearBucket taskId status) := by
  refine match_bind match_read fun left right twin => ?_
  obtain ⟨tasks, others, isTasks, isOthers, alike, lists⟩ := Twin.tasks twin
  obtain ⟨items, own, bucket, isOwn, both⟩ := buckets_alike alike lists status
  rw [isTasks, isOthers, ofExcept_ok_bind, ofExcept_ok_bind, getOr, getOr, bucket, isOwn,
    Option.getD_some, Option.getD_some, iterate, iterate, ofExcept_ok_bind, ofExcept_ok_bind]
  refine match_bind (match_ofExcept (paired_otherTasks taskId both)) fun kept also rest => ?_
  refine match_modify fun store other twin => ?_
  exact Twin.setTasks twin (alike.set _ (Json.alike_arr_iff.mpr rest)) (lists_set lists _ _)

theorem twins_clearBuckets (taskId : PyStr) (statuses : List TaskStatus) :
    SameOnTwins (fun _ _ => True) (clearBuckets taskId statuses) (clearBuckets taskId statuses) := by
  induction statuses with
  | nil => exact match_pure trivial
  | cons status rest ih => exact match_bind (twins_clearBucket taskId status) fun _ _ _ => ih

theorem alike_lastN {items others : List Json} (alike : List.Forall₂ Json.Alike items others)
    {last : Json} (distinct : last.Distinct) :
    Json.Alike (.arr (lastN 200 (items ++ [last]))) (.arr (lastN 200 (others ++ [last]))) := by
  have appended : List.Forall₂ Json.Alike (items ++ [last]) (others ++ [last]) :=
    List.rel_append alike (.cons (Json.alike_refl distinct) .nil)
  rw [lastN, lastN, appended.length_eq]
  exact Json.alike_arr_iff.mpr (List.forall₂_drop _ appended)

theorem twins_pushTask (status : TaskStatus) (task : JsonObject) :
    SameOnTwins (fun _ _ => True) (pushTask status task) (pushTask status task) := by
  refine match_bind match_read fun left right twin => ?_
  obtain ⟨tasks, others, isTasks, isOthers, alike, lists⟩ := Twin.tasks twin
  obtain ⟨items, own, bucket, isOwn, both⟩ := buckets_alike alike lists status
  rw [isTasks, isOthers, ofExcept_ok_bind, ofExcept_ok_bind, getOr, getOr, bucket, isOwn,
    Option.getD_some, Option.getD_some, asList, asList, ofExcept_ok_bind, ofExcept_ok_bind]
  refine match_modify fun store other twin => ?_
  exact Twin.setTasks twin (alike.set _ (alike_lastN both task.distinct)) (lists_set lists _ _)

theorem twins_upsertTask (moment : Moment) (task : JsonObject) :
    SameOnTwins Eq (upsertTask py moment task) (upsertTask py moment task) := by
  refine match_bind (match_ofOption rfl _) fun status also same => ?_
  subst same
  refine match_bind (twins_clearBuckets _ _) fun _ _ _ => ?_
  refine match_bind (twins_pushTask _ _) fun _ _ _ => ?_
  refine match_bind (match_ofOption rfl _) fun _ _ _ => ?_
  exact match_bind twins_saveState fun _ _ _ => match_pure rfl

theorem distinct_messageJson (entry : LedgerEntry) : (messageJson entry).Distinct := by
  refine ⟨?_, trivial, trivial, trivial, trivial, entry.payload.distinct, trivial⟩
  simp only [List.map_cons, List.map_nil, List.nodup_cons, List.mem_cons, lit_inj]
  decide

theorem twins_pushMessage (entry : LedgerEntry) :
    SameOnTwins (fun _ _ => True) (pushMessage entry) (pushMessage entry) := by
  refine match_bind match_read fun left right twin => ?_
  have messages := @alike_getD _ _ twin.state (lit "messages") (.arr []) trivial
  refine match_bind (match_ofExcept (paired_asList messages)) fun items others both => ?_
  refine match_modify fun store other twin => ?_
  exact Twin.setField twin (by simp) (alike_lastN both (distinct_messageJson entry))

theorem twins_applyEvent (moment : Moment) (entry : LedgerEntry) :
    SameOnTwins (fun _ _ => True) (applyEvent py moment entry) (applyEvent py moment entry) := by
  refine match_ite (fun _ => twins_pushMessage entry) fun _ => ?_
  refine match_ite (fun _ => ?_) fun _ => match_ite (fun _ => ?_) fun _ => match_pure trivial
  · refine match_ite (fun _ => ?_) fun _ => match_pure trivial
    exact match_bind (twins_upsertTask moment _) fun _ _ _ => match_pure trivial
  · split
    · exact match_pure trivial
    · exact (twins_registerNode _ _ _ _).forget

theorem twins_ensureAuditClean :
    SameOnTwins (fun _ _ => True) (ensureAuditClean py) (ensureAuditClean py) := by
  refine match_bind match_read fun left right twin => ?_
  rw [twin.ledger, twin.audit]
  refine match_ite (fun _ => match_pure trivial) fun _ => ?_
  refine match_bind (match_modify fun store other twin => ?_) fun _ _ _ => ?_
  · exact Twin.setField twin (by simp) (Json.alike_refl trivial)
  · exact match_bind twins_saveState fun _ _ _ => match_raise rfl

theorem twins_applyAndSave (moment : Moment) (entry : LedgerEntry) :
    SameOnTwins Eq (applyAndSave py moment entry) (applyAndSave py moment entry) := by
  refine match_bind (twins_applyEvent moment entry) fun _ _ _ => ?_
  refine match_bind (match_modify fun store other twin => ?_) fun _ _ _ => ?_
  · exact Twin.setField twin (by simp) (alike_str _)
  refine match_bind (match_modify fun store other twin => ?_) fun _ _ _ => ?_
  · exact Twin.setField twin (by simp) (Json.alike_refl trivial)
  · exact match_bind twins_saveState fun _ _ _ => match_pure rfl

theorem twins_appendLedger (line : PyStr) :
    SameOnTwins (fun _ _ => True) (appendLedger line) (appendLedger line) := by
  refine match_bind (match_ofOption rfl _) fun bytes also same => match_modify ?_
  intro store other twin
  subst same
  exact ⟨congrArg (· ++ bytes) twin.ledger, twin.audit, twin.state, twin.stateFile, twin.loaded⟩

theorem twins_appendAudit (line : PyStr) :
    SameOnTwins (fun _ _ => True) (appendAudit line) (appendAudit line) := by
  refine match_bind (match_ofOption rfl _) fun bytes also same => match_modify ?_
  intro store other twin
  subst same
  exact ⟨twin.ledger, congrArg (· ++ bytes) twin.audit, twin.state, twin.stateFile, twin.loaded⟩

theorem twins_appendEvent (moment : Moment) (node op : PyStr) (payload : JsonObject) (sig : PyStr) :
    SameOnTwins Eq (appendEvent py moment node op payload sig)
      (appendEvent py moment node op payload sig) := by
  refine match_bind twins_ensureAuditClean fun _ _ _ => ?_
  refine match_bind match_read fun left right twin => ?_
  rw [twin.audit]
  refine match_bind (match_ofOption rfl _) fun rows also same => ?_
  subst same
  refine match_bind (match_ofOption rfl _) fun entryHash also same => ?_
  subst same
  refine match_bind (match_ofOption rfl _) fun auditHash also same => ?_
  subst same
  refine match_bind (twins_appendLedger _) fun _ _ _ => ?_
  refine match_bind (twins_appendAudit _) fun _ _ _ => ?_
  exact twins_applyAndSave moment _

theorem twins_snapshot : SameOnTwins Json.Alike snapshot snapshot :=
  match_bind match_read fun _ _ twin => match_pure (Twin.state twin)

/-- A call on vaults that are alike ends in the same way. -/
theorem twins_perform (call : RawCall) :
    SameOnTwins Eq (perform py call) (perform py call) := by
  cases call with
  | snapshot => exact match_bind twins_snapshot fun _ _ _ => match_pure rfl
  | registerNode now nodeId role ttl => exact twins_registerNode now nodeId role ttl
  | markRevoked now nodeId => exact twins_markRevoked now nodeId
  | upsertTask moment task =>
      exact match_bind (twins_upsertTask moment task) fun _ _ _ => match_pure rfl
  | appendEvent moment node op payload sig =>
      exact match_bind (twins_appendEvent moment node op payload sig) fun _ _ _ => match_pure rfl

/-! ## What is saved -/

/-- `state.json` holds what the memory holds. -/
def Settled (vault : RawVault) : Prop :=
  vault.stateFile = vault.state ∧ ∃ content, jsonBytes (.obj vault.state) = some content

/-- Neither the memory nor `state.json` has changed. -/
def Untouched (vault after : RawVault) : Prop :=
  after.state = vault.state ∧ after.stateFile = vault.stateFile

/-- The change of the state is in `state.json`, or there is none. -/
def SavedOrUntouched (vault after : RawVault) : Prop := Settled after ∨ Untouched vault after

/-- Where the action is refused, its changes are saved. -/
abbrev RefusedSaved (vault : RawVault) (fault : AuthFault) (after : RawVault) : Prop :=
  fault.isVaultError = true → SavedOrUntouched vault after

/-- The action saves what it changes, unless it fails half way. -/
abbrev SavesFrom {α : Type} (vault : RawVault) (action : Action RawVault AuthFault α) : Prop :=
  Ends (Untouched vault) (SavedOrUntouched vault) (RefusedSaved vault) action

/-- The action refuses nothing, and saves what is in the memory. -/
abbrev Saving {α : Type} (action : Action RawVault AuthFault α) : Prop :=
  Ends (fun _ => True) Settled (fun fault _ => fault.isVaultError = false) action

/-- The action refuses nothing. -/
abbrev Unrefused {α : Type} (action : Action RawVault AuthFault α) : Prop :=
  Ends (fun _ => True) (fun _ => True) (fun fault _ => fault.isVaultError = false) action

theorem refusedSaved_of_unrefused {vault : RawVault} (fault : AuthFault) (after : RawVault)
    (other : fault.isVaultError = false) : RefusedSaved vault fault after := by
  intro refused
  cases other.symm.trans refused

theorem unrefused_modify (update : RawVault → RawVault) :
    Unrefused (.modify update : Action RawVault AuthFault Unit) :=
  ends_modify fun _ _ => trivial

theorem Saving.savesFrom {α : Type} {action : Action RawVault AuthFault α} (saving : Saving action)
    (vault : RawVault) : SavesFrom vault action := by
  apply Ends.mono saving
  · exact fun _ _ => trivial
  · exact fun _ settled => .inl settled
  · exact refusedSaved_of_unrefused

theorem saving_saveState : Saving saveState := by
  intro store _
  cases encoded : encodeUtf8 (plainText store.state) with
  | some bytes =>
      have ran : saveState.run store = (.ok (), { store with stateFile := store.state }) := by
        rw [saveState, run_bind_ok (run_read _)]
        simp only [encoded, run_modify]
      have lineEnd : Encodable [lineFeed] := by
        simpa using CodePoint.toChar?_of_lt (c := lineFeed) (by decide)
      obtain ⟨content, written⟩ := encodable_iff.mp
        (encodable_append.mpr ⟨encodable_iff.mpr ⟨bytes, encoded⟩, lineEnd⟩)
      constructor
      · intro value after same
        rw [ran] at same
        cases same
        exact ⟨rfl, content, written⟩
      · intro fault after same
        rw [ran] at same
        cases same
  | none =>
      have ran : saveState.run store = (.error .valueError, store) := by
        rw [saveState, run_bind_ok (run_read _)]
        simp only [encoded, run_raise]
      constructor
      · intro value after same
        rw [ran] at same
        cases same
      · intro fault after same
        rw [ran] at same
        cases same
        rfl

theorem savesFrom_registerNode (vault : RawVault) (now : PlainText) (nodeId role : PyStr)
    (ttl : Int) :
    SavesFrom vault (registerNode now nodeId role ttl) := by
  have kept : ∀ store, Untouched vault store → Untouched vault store := fun _ untouched => untouched
  have unsaved : ∀ fault store, Untouched vault store → RefusedSaved vault fault store :=
    fun _ _ untouched _ => .inr untouched
  refine ends_bind (ends_read kept) fun found => ?_
  refine ends_bind (ends_ofExcept kept fun _ _ _ => unsaved _ _) fun nodes => ?_
  refine ends_bind (ends_ofExcept kept fun _ _ _ => unsaved _ _) fun refused => ?_
  refine ends_ite (fun _ => ends_raise (unsaved _)) fun _ => ?_
  refine ends_bind (ends_ofExcept kept fun _ _ _ => unsaved _ _) fun record => ?_
  exact Saving.savesFrom (ends_bind (unrefused_modify _) fun _ => saving_saveState) vault

theorem savesFrom_markRevoked (vault : RawVault) (now : PlainText) (nodeId : PyStr) :
    SavesFrom vault (markRevoked now nodeId) := by
  have kept : ∀ store, Untouched vault store → Untouched vault store := fun _ untouched => untouched
  have unsaved : ∀ fault store, Untouched vault store → RefusedSaved vault fault store :=
    fun _ _ untouched _ => .inr untouched
  refine ends_bind (ends_read kept) fun found => ?_
  refine ends_bind (ends_ofExcept kept fun _ _ _ => unsaved _ _) fun nodes => ?_
  refine ends_bind (ends_ofExcept kept fun _ _ _ => unsaved _ _) fun record => ?_
  exact Saving.savesFrom (ends_bind (unrefused_modify _) fun _ => saving_saveState) vault

theorem asDict_unrefused {value : Json} {fault : AuthFault} (failed : asDict value = .error fault) :
    fault.isVaultError = false := by
  cases value <;> cases failed <;> rfl

theorem otherTasks_unrefused {taskId : PyStr} {items : List Json} {fault : AuthFault}
    (failed : otherTasks taskId items = .error fault) : fault.isVaultError = false := by
  rcases otherTasks_cases taskId items with ⟨-, others, isOthers⟩ | raised
  · cases isOthers.symm.trans failed
  · cases raised.symm.trans failed
    rfl

theorem tasksOf_unrefused {state : Dict PyStr Json} {fault : AuthFault}
    (failed : tasksOf state = .error fault) : fault.isVaultError = false := by
  unfold tasksOf at failed
  split at failed
  · exact asDict_unrefused failed
  · cases failed
    rfl

theorem iterate_unrefused {value : Json} {fault : AuthFault}
    (failed : iterate value = .error fault) : fault.isVaultError = false := by
  cases value <;> cases failed <;> rfl

theorem asList_unrefused {value : Json} {fault : AuthFault} (failed : asList value = .error fault) :
    fault.isVaultError = false := by
  cases value <;> cases failed <;> rfl

theorem unrefused_clearBucket (taskId : PyStr) (status : TaskStatus) :
    Unrefused (clearBucket taskId status) := by
  have goes : ∀ store : RawVault, True → True := fun _ _ => trivial
  refine ends_bind (ends_read goes) fun found => ?_
  refine ends_bind (ends_ofExcept goes fun _ _ failed _ => tasksOf_unrefused failed) fun tasks => ?_
  refine ends_bind (ends_ofExcept goes fun _ _ failed _ => iterate_unrefused failed) fun items => ?_
  refine ends_bind (ends_ofExcept goes fun _ _ failed _ => otherTasks_unrefused failed)
    fun others => ?_
  exact ends_modify fun _ _ => trivial

theorem unrefused_clearBuckets (taskId : PyStr) (statuses : List TaskStatus) :
    Unrefused (clearBuckets taskId statuses) := by
  induction statuses with
  | nil => exact ends_pure _ fun _ _ => trivial
  | cons status rest ih => exact ends_bind (unrefused_clearBucket taskId status) fun _ => ih

theorem unrefused_pushTask (status : TaskStatus) (task : JsonObject) :
    Unrefused (pushTask status task) := by
  have goes : ∀ store : RawVault, True → True := fun _ _ => trivial
  refine ends_bind (ends_read goes) fun found => ?_
  refine ends_bind (ends_ofExcept goes fun _ _ failed _ => tasksOf_unrefused failed) fun tasks => ?_
  refine ends_bind (ends_ofExcept goes fun _ _ failed _ => asList_unrefused failed) fun items => ?_
  exact ends_modify fun _ _ => trivial

theorem unrefused_pushMessage (entry : LedgerEntry) : Unrefused (pushMessage entry) := by
  have goes : ∀ store : RawVault, True → True := fun _ _ => trivial
  refine ends_bind (ends_read goes) fun found => ?_
  refine ends_bind (ends_ofExcept goes fun _ _ failed _ => asList_unrefused failed) fun items => ?_
  exact ends_modify fun _ _ => trivial

theorem savesFrom_upsertTask (vault : RawVault) (moment : Moment) (task : JsonObject) :
    SavesFrom vault (upsertTask py moment task) := by
  refine ends_bind (ends_ofOption _ (fun _ untouched => untouched)
    fun _ untouched _ => .inr untouched) fun status => ?_
  apply Saving.savesFrom
  refine ends_bind (unrefused_clearBuckets _ _) fun _ => ?_
  refine ends_bind (unrefused_pushTask _ _) fun _ => ?_
  refine ends_bind (ends_ofOption _ (fun _ _ => trivial) fun _ _ => rfl) fun _ => ?_
  exact ends_bind saving_saveState fun _ => ends_pure _ fun _ settled => settled

/-- An event that is refused has its changes saved; another may still have to save them. -/
theorem ends_applyEvent (vault : RawVault) (moment : Moment) (entry : LedgerEntry) :
    Ends (Untouched vault) (fun _ => True) (RefusedSaved vault) (applyEvent py moment entry) := by
  have forget : ∀ {action : Action RawVault AuthFault Unit}, SavesFrom vault action →
      Ends (Untouched vault) (fun _ => True) (RefusedSaved vault) action :=
    fun saves => Ends.mono saves (fun _ found => found) (fun _ _ => trivial) fun _ _ failed => failed
  refine ends_ite (fun _ => ?_) fun _ => ?_
  · apply Ends.mono (unrefused_pushMessage entry)
    · exact fun _ _ => trivial
    · exact fun _ _ => trivial
    · exact refusedSaved_of_unrefused
  refine ends_ite (fun _ => ?_) fun _ => ends_ite (fun _ => ?_) fun _ => ends_pure _ fun _ _ => trivial
  · refine ends_ite (fun _ => ?_) fun _ => ends_pure _ fun _ _ => trivial
    apply forget
    exact ends_bind (savesFrom_upsertTask vault moment _) fun _ => ends_pure _ fun _ saved => saved
  · split
    · exact ends_pure _ fun _ _ => trivial
    · exact forget (savesFrom_registerNode vault _ _ _ _)

theorem savesFrom_applyAndSave (vault : RawVault) (moment : Moment) (entry : LedgerEntry) :
    SavesFrom vault (applyAndSave py moment entry) := by
  refine ends_bind (ends_applyEvent vault moment entry) fun _ => ?_
  have saving : Saving (do
      .modify (setField (lit "last_sync") (.str entry.ts))
      .modify (setField (lit "audit_tampered") (.bool false))
      saveState
      return entry : Action RawVault AuthFault LedgerEntry) := by
    refine ends_bind (unrefused_modify _) fun _ => ?_
    refine ends_bind (unrefused_modify _) fun _ => ?_
    exact ends_bind saving_saveState fun _ => ends_pure _ fun _ settled => settled
  apply Ends.mono saving
  · exact fun _ _ => trivial
  · exact fun _ settled => .inl settled
  · exact refusedSaved_of_unrefused

/-- A chain that does not verify is noted and saved before the call is refused. -/
theorem ends_ensureAuditClean (vault : RawVault) :
    Ends (Untouched vault) (Untouched vault) (RefusedSaved vault) (ensureAuditClean py) := by
  refine ends_bind (ends_read fun _ untouched => untouched) fun found => ?_
  refine ends_ite (fun _ => ends_pure _ fun _ untouched => untouched) fun _ => ?_
  apply ends_bind
  · apply Ends.mono (unrefused_modify _)
    · exact fun _ _ => trivial
    · exact fun _ _ => trivial
    · exact refusedSaved_of_unrefused
  intro _
  apply ends_bind
  · apply Ends.mono saving_saveState
    · exact fun _ _ => trivial
    · exact fun _ settled => settled
    · exact refusedSaved_of_unrefused
  · exact fun _ => ends_raise fun _ settled _ => .inl settled

theorem untouched_appendLedger (vault : RawVault) (line : PyStr) :
    Ends (Untouched vault) (Untouched vault) (RefusedSaved vault) (appendLedger line) :=
  ends_bind (ends_ofOption _ (fun _ untouched => untouched) fun _ untouched _ => .inr untouched)
    fun _ => ends_modify fun _ untouched => untouched

theorem untouched_appendAudit (vault : RawVault) (line : PyStr) :
    Ends (Untouched vault) (Untouched vault) (RefusedSaved vault) (appendAudit line) :=
  ends_bind (ends_ofOption _ (fun _ untouched => untouched) fun _ untouched _ => .inr untouched)
    fun _ => ends_modify fun _ untouched => untouched

theorem savesFrom_appendEvent (vault : RawVault) (moment : Moment) (node op : PyStr)
    (payload : JsonObject) (sig : PyStr) :
    SavesFrom vault (appendEvent py moment node op payload sig) := by
  have kept : ∀ store, Untouched vault store → Untouched vault store := fun _ untouched => untouched
  have unsaved : ∀ fault store, Untouched vault store → RefusedSaved vault fault store :=
    fun _ _ untouched _ => .inr untouched
  refine ends_bind (ends_ensureAuditClean vault) fun _ => ?_
  refine ends_bind (ends_read kept) fun found => ?_
  refine ends_bind (ends_ofOption _ kept (unsaved _)) fun rows => ?_
  refine ends_bind (ends_ofOption _ kept (unsaved _)) fun entryHash => ?_
  refine ends_bind (ends_ofOption _ kept (unsaved _)) fun auditHash => ?_
  refine ends_bind (untouched_appendLedger vault _) fun _ => ?_
  refine ends_bind (untouched_appendAudit vault _) fun _ => ?_
  exact savesFrom_applyAndSave vault moment _

/-- A call that returns or is refused has its changes in `state.json`. -/
theorem savesFrom_perform (vault : RawVault) (call : RawCall) :
    SavesFrom vault (perform py call) := by
  have done : ∀ store, SavedOrUntouched vault store → SavedOrUntouched vault store :=
    fun _ saved => saved
  have start : ∀ store, Untouched vault store → SavedOrUntouched vault store :=
    fun _ untouched => .inr untouched
  cases call with
  | snapshot =>
      exact ends_bind (ends_bind (ends_read start) fun _ => ends_pure _ done) fun _ => ends_pure _ done
  | registerNode now nodeId role ttl => exact savesFrom_registerNode vault now nodeId role ttl
  | markRevoked now nodeId => exact savesFrom_markRevoked vault now nodeId
  | upsertTask moment task =>
      exact ends_bind (savesFrom_upsertTask vault moment task) fun _ => ends_pure _ done
  | appendEvent moment node op payload sig =>
      exact ends_bind (savesFrom_appendEvent vault moment node op payload sig) fun _ => ends_pure _ done

/-- What is loaded from `state.json` is what the memory holds. -/
def Saved (vault : RawVault) : Prop :=
  ∃ content again, jsonBytes (.obj vault.stateFile) = some content ∧ loadState content = .ok again ∧
    AlikeFields again vault.state

theorem Settled.saved {vault : RawVault} (settled : Settled vault)
    (distinct : (Json.obj vault.state).Distinct) (loaded : Loaded vault.state) : Saved vault := by
  obtain ⟨same, content, written⟩ := settled
  obtain ⟨again, loads, alike⟩ := reloaded distinct loaded written
  exact ⟨content, again, same ▸ written, loads, alike⟩

/-! ## Runs with restarts -/

/-- A new vault over the files of the old one: the memory is loaded from `state.json`. -/
def restart : Action RawVault AuthFault Unit := do
  let vault ← .read
  let content ← .ofOption .valueError (jsonBytes (.obj vault.stateFile))
  let state ← .ofExcept (loadState content)
  .modify fun vault => { vault with state := state }

end RawVault

/-- A call of the vault, or the program is stopped and started. -/
inductive ServiceStep where
  | call (call : RawCall)
  | restart

/-- The call of a step. -/
def ServiceStep.call? : ServiceStep → Option RawCall
  | .call made => some made
  | .restart => none

/-- A vault whose program is restarted between calls. -/
def serviceMachine (py : Platform) : Machine RawVault ServiceStep (Except AuthFault Unit) where
  step vault step := match step with
    | .call call => (RawVault.perform py call).run vault
    | .restart => RawVault.restart.run vault

section Restarts

variable {py : Platform}

/-- A restart finds what was saved. -/
theorem RawVault.run_restart {vault plain : RawVault} (saved : Saved vault)
    (twin : Twin vault plain) :
    ∃ after, RawVault.restart.run vault = (.ok (), after) ∧ Saved after ∧ Twin after plain := by
  obtain ⟨content, again, written, loads, alike⟩ := saved
  refine ⟨{ vault with state := again }, ?_, ⟨content, again, written, loads, ?_⟩, ?_⟩
  · simp only [RawVault.restart, run_bind, run_read, written, run_ofOption_some, loads, run_ofExcept,
      run_modify]
  · exact Json.alike_refl alike.leftDistinct
  · exact ⟨twin.ledger, twin.audit, alike.trans twin.state, twin.stateFile,
      twin.loaded.of_alike alike.symm⟩

/-- A call that does not fail half way leaves what a restart will find. -/
theorem RawVault.saved_perform {vault plain : RawVault} (saved : Saved vault)
    (twin : Twin vault plain) (call : RawCall) {result : Except AuthFault Unit} {after : RawVault}
    (ran : (RawVault.perform py call).run vault = (result, after))
    (whole : ∀ fault, result = .error fault → fault.isVaultError = true) : Saved after := by
  have twins := (@RawVault.twins_perform py call vault plain twin).1
  rw [ran] at twins
  obtain ⟨returns, refuses⟩ := RawVault.savesFrom_perform vault call vault ⟨rfl, rfl⟩
  have outcome : RawVault.SavedOrUntouched vault after := by
    cases result with
    | ok value => exact returns value after ran
    | error fault => exact refuses fault after ran (whole fault rfl)
  rcases outcome with settled | ⟨sameState, sameFile⟩
  · exact settled.saved twins.state.leftDistinct twins.loaded
  · obtain ⟨content, again, written, loads, alike⟩ := saved
    exact ⟨content, again, sameFile ▸ written, loads, sameState ▸ alike⟩

/-- The restarts of a run can be left out. -/
structure Unnoticed (py : Platform) (vault plain : RawVault) (steps : List ServiceStep) : Prop where
  outputs : ((serviceMachine py).trace vault steps).filterMap (fun event =>
      event.input.call?.map fun call => (call, event.output)) =
    ((rawVaultMachine py).trace plain (steps.filterMap ServiceStep.call?)).map fun event =>
      (event.input, event.output)
  restarts : ∀ event ∈ (serviceMachine py).trace vault steps, event.input = .restart →
    event.output = .ok ()
  twin : Twin ((serviceMachine py).run vault steps)
    ((rawVaultMachine py).run plain (steps.filterMap ServiceStep.call?))

theorem Unnoticed.restart {rest : List ServiceStep} {vault after plain : RawVault}
    (stepped : (serviceMachine py).step vault .restart = (.ok (), after))
    (later : Unnoticed py after plain rest) : Unnoticed py vault plain (.restart :: rest) := by
  obtain ⟨outputs, restarts, twin⟩ := later
  have calls : (ServiceStep.restart :: rest).filterMap ServiceStep.call? =
      rest.filterMap ServiceStep.call? := rfl
  constructor
  · rw [calls, trace_cons_of_step stepped]
    exact outputs
  · rw [trace_cons_of_step stepped]
    intro event member isRestart
    rcases List.mem_cons.mp member with rfl | inRest
    · rfl
    · exact restarts event inRest isRestart
  · rw [calls, run_cons, stepped]
    exact twin

theorem Unnoticed.call {rest : List ServiceStep} {call : RawCall}
    {vault after plain behind : RawVault} {result : Except AuthFault Unit}
    (stepped : (serviceMachine py).step vault (.call call) = (result, after))
    (plainStep : (rawVaultMachine py).step plain call = (result, behind))
    (later : Unnoticed py after behind rest) : Unnoticed py vault plain (.call call :: rest) := by
  obtain ⟨outputs, restarts, twin⟩ := later
  have calls : (ServiceStep.call call :: rest).filterMap ServiceStep.call? =
      call :: rest.filterMap ServiceStep.call? := rfl
  constructor
  · rw [calls, trace_cons_of_step stepped, trace_cons_of_step plainStep]
    exact congrArg (List.cons _) outputs
  · rw [trace_cons_of_step stepped]
    intro event member isRestart
    rcases List.mem_cons.mp member with rfl | inRest
    · cases isRestart
    · exact restarts event inRest isRestart
  · rw [calls, run_cons, run_cons, stepped, plainStep]
    exact twin

theorem unnoticed_of_twin {steps : List ServiceStep} {vault plain : RawVault}
    (saved : RawVault.Saved vault) (twin : Twin vault plain)
    (whole : ∀ event ∈ (rawVaultMachine py).trace plain (steps.filterMap ServiceStep.call?),
      ∀ fault, event.output = .error fault → fault.isVaultError = true) :
    Unnoticed py vault plain steps := by
  induction steps generalizing vault plain with
  | nil => exact ⟨rfl, fun event member => absurd member List.not_mem_nil, twin⟩
  | cons step rest ih =>
      cases step with
      | restart =>
          obtain ⟨after, ran, savedAfter, twinAfter⟩ := RawVault.run_restart saved twin
          exact .restart ran (ih savedAfter twinAfter whole)
      | call call =>
          obtain ⟨twinAfter, paired⟩ := @RawVault.twins_perform py call vault plain twin
          rcases ran : (RawVault.perform py call).run vault with ⟨result, after⟩
          rcases also : (RawVault.perform py call).run plain with ⟨same, behind⟩
          rw [ran, also] at twinAfter paired
          obtain rfl : result = same := paired.eq
          have plainStep : (rawVaultMachine py).step plain call = (result, behind) := also
          have calls : (ServiceStep.call call :: rest).filterMap ServiceStep.call? =
              call :: rest.filterMap ServiceStep.call? := rfl
          rw [calls, trace_cons_of_step plainStep] at whole
          have savedAfter := RawVault.saved_perform saved twin call ran
            (whole _ List.mem_cons_self)
          exact .call ran plainStep (ih savedAfter twinAfter
            fun event later => whole event (List.mem_cons_of_mem _ later))

/-- A vault that was made from its `state.json` may be restarted between any calls, as long as
none of them fails half way: it answers every call as if it had never been stopped, every
restart succeeds, and the three files end with the same bytes. -/
theorem restarts_unnoticed {vault : RawVault} {content : ByteArray}
    (isFile : jsonBytes (.obj vault.stateFile) = some content)
    (loads : loadState content = .ok vault.state) {steps : List ServiceStep}
    (whole : ∀ event ∈ (rawVaultMachine py).trace vault (steps.filterMap ServiceStep.call?),
      ∀ fault, event.output = .error fault → fault.isVaultError = true) :
    Unnoticed py vault vault steps := by
  obtain ⟨distinct, loaded⟩ := loaded_loadState loads
  apply unnoticed_of_twin _ _ whole
  · exact ⟨content, vault.state, isFile, loads, Json.alike_refl distinct⟩
  · exact ⟨rfl, rfl, Json.alike_refl distinct, rfl, loaded⟩

/-- The first node of an empty table is registered. -/
theorem RawVault.run_registerNode_first {vault : RawVault} (now : PlainText) {nodeId role : PyStr}
    (ttl : Int) (noNodes : vault.state.get? (lit "nodes") = some (.obj []))
    (strings : ∀ value : Json, value.AllStrings Encodable →
      (Json.obj (vault.state.set (lit "nodes") value)).AllStrings Encodable)
    (id : Encodable nodeId) (own : Encodable role) :
    ∃ after, (registerNode now nodeId role ttl).run vault = (.ok (), after) := by
  have nodes : nodesOf vault.state = .ok [] := by
    rw [nodesOf, getOr, noNodes]
    rfl
  have time : Encodable now.text := encodable_of_plain now.plain
  obtain ⟨bytes, encoded⟩ := encodable_iff.mp (Json.encodable_canonical (strings
    (.obj [(nodeId, .obj [(lit "status", .str (lit "active")), (lit "joined_at", .str now.text),
      (lit "last_seen", .str now.text), (lit "role", .str role), (lit "ttl", .int ttl)])]) (by
    simp [Json.AllStrings, Json.AllStringsFields, encodable_lit, time, id, own])))
  have saved : ∃ after, saveState.run (vault.setField (lit "nodes") (.obj [(nodeId, .obj
      [(lit "status", .str (lit "active")), (lit "joined_at", .str now.text),
        (lit "last_seen", .str now.text), (lit "role", .str role), (lit "ttl", .int ttl)])])) =
      (.ok (), after) := by
    rw [saveState, run_bind_ok (run_read _)]
    simp only [plainText, setField, encoded, run_modify]
    exact ⟨_, rfl⟩
  obtain ⟨after, saved⟩ := saved
  refine ⟨after, ?_⟩
  rw [registerNode, run_bind_ok (run_read _), nodes]
  exact saved

/-- The bytes of an empty object. -/
def emptyObject : ByteArray := (jsonBytes (.obj [])).getD ByteArray.empty

/-- A vault over an empty object registers a node between two restarts. -/
theorem restarts_unnoticed_bob : Unnoticed Platform.plain
    ⟨ByteArray.empty, ByteArray.empty, defaultFields, []⟩
    ⟨ByteArray.empty, ByteArray.empty, defaultFields, []⟩
    [.restart, .call (.registerNode Moment.epoch.now (lit "bob") (lit "collab") 0), .restart] := by
  have written : jsonBytes (.obj []) = some emptyObject := written_getD trivial
  have loads : loadState emptyObject = .ok defaultFields := by
    obtain ⟨text, decoded, read⟩ := @loads_jsonBytes _ (.obj []) ⟨List.nodup_nil, trivial⟩ written
    rw [loadState, decoded]
    simp only [read]
    rfl
  apply restarts_unnoticed written loads
  obtain ⟨after, ran⟩ := @RawVault.run_registerNode_first
    ⟨ByteArray.empty, ByteArray.empty, defaultFields, []⟩ Moment.epoch.now (lit "bob") (lit "collab")
    0 rfl (by
      intro value strings
      have status : ∀ status : TaskStatus, Encodable status.text := fun status => by
        cases status <;> exact encodable_lit _
      simp [defaultFields, Dict.set, Json.AllStrings, Json.AllStringsFields, Json.AllStringsItems,
        encodable_lit, TaskStatus.all, strings, status]) (encodable_lit _) (encodable_lit _)
  have stepped : (rawVaultMachine Platform.plain).step
      ⟨ByteArray.empty, ByteArray.empty, defaultFields, []⟩
      (.registerNode Moment.epoch.now (lit "bob") (lit "collab") 0) = (.ok (), after) := ran
  simp only [List.filterMap_cons, ServiceStep.call?, List.filterMap_nil, trace_cons_of_step stepped]
  intro event member fault failed
  cases List.mem_singleton.mp member
  cases failed

end Restarts

end HermesMesh.Collab
