import HermesMesh.Collab.Trust.Verification
import HermesMesh.Foundation.Machine

/-!
# Replays

The nonce of an accepted message is kept with its timestamp, in memory and in the file,
until the timestamp is four windows old.  A message is stale before that, so that it is
refused for the one reason or for the other, with restarts of the program in between.  Two
things are asked for: the clock does not go back, and no nonce is dropped because there are
more than the limit.  Who has the mesh key can sign further messages meanwhile.
-/

namespace HermesMesh.Collab

open Python Foundation Foundation.Action

namespace TrustManager

/-- A manager with the last reading of its clock. -/
structure Watch where
  manager : TrustManager
  clock : Binary64

inductive WatchStep where
  /-- Someone with the mesh key signs a message, as `forward` does. -/
  | sign (nodeId op : PyStr) (payload : JsonObject) (drawn : PyStr) (now : Binary64)
  | verify (expected : Option PyStr) (now later : Binary64) (message : Option JsonObject)
  | restart

inductive WatchReply where
  | signed (result : Except Fault Envelope)
  | verified (result : Except Fault Verdict)
  | restarted

/-- Messages that are signed or verified, and restarts. -/
def watchMachine (py : Platform) : Machine Watch WatchStep WatchReply where
  step
    | watch, .sign nodeId op payload drawn now =>
        (.signed (watch.manager.sign py nodeId op payload none none drawn now), watch)
    | watch, .verify expected now later message =>
        let (result, manager) := (verify py expected now later message).run watch.manager
        (.verified result, ⟨manager, later⟩)
    | watch, .restart => (.restarted, { watch with manager := watch.manager.restart })

/-- The clock does not go back. -/
def ClockOnward (watch : Watch) : WatchStep → Prop
  | .verify _ now later _ => watch.clock.units ≤ now.units ∧ now.units ≤ later.units
  | .sign .. | .restart => True

/-- A nonce that is added does not exceed the limit. -/
def HasRoom (py : Platform) (watch : Watch) : WatchStep → Prop
  | .verify expected now later message => ∀ nodeId nonce ts,
      watch.manager.examine py expected now message = .ok (.genuine nodeId nonce ts) →
      (watch.manager.unexpired later (watch.manager.nonces.set nonce ts)).length ≤
        watch.manager.nonceLimit
  | .sign .. | .restart => True

/-- The message has this nonce, and its timestamp denotes this point in time. -/
def Stamped (py : Platform) (message : JsonObject) (nonce : PyStr) (ts : Binary64) : Prop :=
  message.get? (lit "nonce") = some (.str nonce) ∧
    timestampSeconds py (message.getD (lit "ts") .null) = some (.finite ts)

/-- The step accepts a message with this nonce and timestamp. -/
def AcceptsStamped (py : Platform) (nonce : PyStr) (ts : Binary64)
    (event : Event Watch WatchStep WatchReply) : Prop :=
  ∃ expected now later message result, event.input = .verify expected now later (some message) ∧
    event.output = .verified result ∧ Accepts result ∧ Stamped py message nonce ts

/-! ## Remembering a nonce -/

section Remembering

variable {py : Platform} {manager : TrustManager} {expected : Option PyStr} {now later : Binary64}
  {message : Option JsonObject}

/-- The timestamp is more than four windows old. -/
def Outdated (manager : TrustManager) (clock ts : Binary64) : Prop :=
  (PyFloat.sub (.finite clock) (.finite ts)).gtInt (manager.replayWindow * 4) = true

theorem outdated_mono {early late ts : Binary64} (ordered : early.units ≤ late.units)
    (outdated : manager.Outdated early ts) : manager.Outdated late ts :=
  PyFloat.above_sub_mono ordered outdated

/-- What is outdated is stale. -/
theorem stale_of_outdated (window : 0 ≤ manager.replayWindow) {ts : Binary64}
    (outdated : manager.Outdated now ts) : manager.isStale now (.finite ts) = true := by
  unfold isStale
  apply PyFloat.gtInt_abs
  exact PyFloat.gtInt_of_le (by omega) outdated

/-- The manager that has remembered a nonce for which there is room. -/
def remembering (manager : TrustManager) (nonce : PyStr) (ts : PyFloat) (later : Binary64) :
    TrustManager :=
  let nonces := manager.unexpired later (manager.nonces.set nonce ts)
  { manager with nonces := nonces, file := Json.sortFields nonces }

theorem run_verify_of_new {nodeId nonce : PyStr} {ts : PyFloat}
    (genuine : manager.examine py expected now message = .ok (.genuine nodeId nonce ts))
    (new : manager.nonces.get? nonce = none)
    (room : (manager.unexpired later (manager.nonces.set nonce ts)).length ≤ manager.nonceLimit) :
    (verify py expected now later message).run manager =
      (.ok ⟨true, "verified", some nodeId⟩, manager.remembering nonce ts later) := by
  have kept : manager.latest (manager.unexpired later (manager.nonces.set nonce ts)) =
      manager.unexpired later (manager.nonces.set nonce ts) := if_neg (not_lt.mpr room)
  have remembered : (rememberNonce nonce ts later).run manager =
      (.ok true, manager.remembering nonce ts later) := by
    rw [rememberNonce, run_bind_ok (run_read _), new]
    dsimp only
    rw [run_bind_ok (run_modify _ _), saveNonces, run_bind_ok (run_modify _ _), run_pure]
    refine congrArg (Prod.mk _) ?_
    change { manager with
      nonces := manager.latest (manager.unexpired later (manager.nonces.set nonce ts))
      file := Json.sortFields
        (manager.latest (manager.unexpired later (manager.nonces.set nonce ts))) } = _
    rw [kept]
    rfl
  rw [verify, run_bind_ok (run_read _), genuine]
  dsimp only
  rw [run_bind_ok remembered]
  rfl

theorem verify_unchanged
    (notNew : ∀ nodeId nonce ts,
      manager.examine py expected now message = .ok (.genuine nodeId nonce ts) →
        ∃ old, manager.nonces.get? nonce = some old) :
    ((verify py expected now later message).run manager).2 = manager := by
  rw [verify, run_bind_ok (run_read _)]
  cases examined : manager.examine py expected now message with
  | error fault => rfl
  | ok outcome =>
      cases outcome with
      | refused reason nodeId => rfl
      | genuine nodeId nonce ts =>
          obtain ⟨old, known⟩ := notNew nodeId nonce ts examined
          dsimp only
          rw [run_bind, rememberNonce, run_bind_ok (run_read _), known]
          rfl

end Remembering

/-! ## Guarding a nonce -/

/-- The nonce is in the dictionary with its timestamp, unless that is outdated. -/
def Holds (manager : TrustManager) (clock : Binary64) (nonce : PyStr) (ts : Binary64)
    (nonces : Dict PyStr PyFloat) : Prop :=
  nonces.get? nonce = some (.finite ts) ∨ manager.Outdated clock ts

/-- Both the memory and the file have each nonce once. -/
structure Distinct (manager : TrustManager) : Prop where
  nonces : manager.nonces.keys.Nodup
  file : manager.file.keys.Nodup

/-- No message with this nonce and timestamp is accepted any more. -/
structure Guards (nonce : PyStr) (ts : Binary64) (watch : Watch) : Prop where
  window : 0 ≤ watch.manager.replayWindow
  distinct : watch.manager.Distinct
  known : watch.manager.Holds watch.clock nonce ts watch.manager.nonces
  saved : watch.manager.Holds watch.clock nonce ts watch.manager.file

section Guarding

variable {py : Platform} {manager : TrustManager} {nonce : PyStr} {ts clock later : Binary64}
  {nonces : Dict PyStr PyFloat}

theorem holds_mono (ordered : clock.units ≤ later.units)
    (holds : manager.Holds clock nonce ts nonces) : manager.Holds later nonce ts nonces := by
  rcases holds with present | outdated
  · exact .inl present
  · exact .inr (outdated_mono ordered outdated)

/-- What expires is outdated. -/
theorem holds_unexpired (distinct : nonces.keys.Nodup)
    (present : nonces.get? nonce = some (.finite ts)) :
    manager.Holds later nonce ts (manager.unexpired later nonces) := by
  have number : PyFloat.sub (.finite later) (.finite ts) ≠ .nan := PyFloat.ofUnits_ne_nan _
  by_cases young : (PyFloat.sub (.finite later) (.finite ts)).leInt (manager.replayWindow * 4) = true
  · left
    apply Dict.get?_of_mem (distinct.sublist (List.filter_sublist.map Prod.fst))
    exact List.mem_filter.mpr ⟨Dict.mem_of_get? present, young⟩
  · right
    rw [PyFloat.leInt_eq_not_gtInt number, Bool.not_eq_true', Bool.not_eq_false] at young
    exact young

theorem unexpired_distinct (distinct : nonces.keys.Nodup) (later : Binary64) :
    (manager.unexpired later nonces).keys.Nodup :=
  distinct.sublist (List.filter_sublist.map Prod.fst)

theorem sortFields_distinct (distinct : nonces.keys.Nodup) : (Json.sortFields nonces).keys.Nodup :=
  ((List.perm_insertionSort _ nonces).map Prod.fst).nodup_iff.mpr distinct

theorem holds_sortFields (distinct : nonces.keys.Nodup)
    (holds : manager.Holds clock nonce ts nonces) :
    manager.Holds clock nonce ts (Json.sortFields nonces) := by
  apply holds.imp_left
  intro present
  exact (Dict.get?_perm distinct (List.perm_insertionSort _ nonces) nonce).trans present

/-- A manager that has remembered some nonce still guards what its dictionary had. -/
theorem guards_remembering {other : PyStr} {stamp : PyFloat} (window : 0 ≤ manager.replayWindow)
    (distinct : manager.Distinct)
    (holds : manager.Holds later nonce ts (manager.nonces.set other stamp)) :
    Guards nonce ts ⟨manager.remembering other stamp later, later⟩ := by
  have set : (manager.nonces.set other stamp).keys.Nodup := Dict.keys_set_nodup distinct.nonces
  have kept := @unexpired_distinct manager _ set later
  have known : manager.Holds later nonce ts
      (manager.unexpired later (manager.nonces.set other stamp)) := by
    rcases holds with present | outdated
    · exact holds_unexpired set present
    · exact .inr outdated
  constructor
  case window => exact window
  case distinct => exact ⟨kept, sortFields_distinct kept⟩
  case known => exact known
  case saved => exact holds_sortFields kept known

end Guarding

/-! ## Steps -/

/-- The nonces of a manager are distinct, and its window is not negative. -/
structure Sound (watch : Watch) : Prop where
  window : 0 ≤ watch.manager.replayWindow
  distinct : watch.manager.Distinct

/-- What a step may do: the clock does not go back, and there is room for the nonce. -/
def Orderly (py : Platform) (watch : Watch) (input : WatchStep) : Prop :=
  ClockOnward watch input ∧ HasRoom py watch input

section Steps

variable {py : Platform} {nonce : PyStr} {ts : Binary64} {watch : Watch}

/-- A call of `verify` leaves the manager as it is, or it remembers a new nonce. -/
theorem verify_cases (watch : Watch) (expected : Option PyStr) (now later : Binary64)
    (message : Option JsonObject)
    (room : HasRoom py watch (.verify expected now later message)) :
    ((watchMachine py).step watch (.verify expected now later message)).2 =
        ⟨watch.manager, later⟩ ∨
      ∃ nodeId nonce stamp,
        watch.manager.examine py expected now message = .ok (.genuine nodeId nonce stamp) ∧
        watch.manager.nonces.get? nonce = none ∧
        (watchMachine py).step watch (.verify expected now later message) =
          (.verified (.ok ⟨true, "verified", some nodeId⟩),
            ⟨watch.manager.remembering nonce stamp later, later⟩) := by
  by_cases fresh : ∃ nodeId nonce stamp,
      watch.manager.examine py expected now message = .ok (.genuine nodeId nonce stamp) ∧
        watch.manager.nonces.get? nonce = none
  · obtain ⟨nodeId, nonce, stamp, genuine, new⟩ := fresh
    right
    refine ⟨nodeId, nonce, stamp, genuine, new, ?_⟩
    have runs := run_verify_of_new genuine new (room nodeId nonce stamp genuine)
    change (WatchReply.verified ((verify py expected now later message).run watch.manager).1,
      (⟨((verify py expected now later message).run watch.manager).2, later⟩ : Watch)) = _
    rw [runs]
  · left
    have unchanged := @verify_unchanged py watch.manager expected now later message (by
      intro nodeId nonce stamp genuine
      cases known : watch.manager.nonces.get? nonce with
      | some old => exact ⟨old, rfl⟩
      | none => exact absurd ⟨nodeId, nonce, stamp, genuine, known⟩ fresh)
    exact congrArg (Watch.mk · later) unchanged

theorem sound_step (input : WatchStep) (sound : Sound watch) (room : HasRoom py watch input) :
    Sound ((watchMachine py).step watch input).2 := by
  cases input with
  | sign nodeId op payload drawn now => exact sound
  | restart => exact ⟨sound.window, sound.distinct.file, sound.distinct.file⟩
  | verify expected now later message =>
      rcases verify_cases watch expected now later message room with
        unchanged | ⟨nodeId, nonce, stamp, -, -, stepped⟩
      · rw [unchanged]
        exact ⟨sound.window, sound.distinct⟩
      · rw [stepped]
        have set : (watch.manager.nonces.set nonce stamp).keys.Nodup :=
          Dict.keys_set_nodup sound.distinct.nonces
        have kept := @unexpired_distinct watch.manager _ set later
        exact ⟨sound.window, kept, sortFields_distinct kept⟩

theorem guards_step (input : WatchStep) (guards : Guards nonce ts watch)
    (orderly : Orderly py watch input) : Guards nonce ts ((watchMachine py).step watch input).2 := by
  obtain ⟨onward, room⟩ := orderly
  cases input with
  | sign nodeId op payload drawn now => exact guards
  | restart => exact ⟨guards.window, ⟨guards.distinct.file, guards.distinct.file⟩, guards.saved,
      guards.saved⟩
  | verify expected now later message =>
      have ordered : watch.clock.units ≤ later.units := onward.1.trans onward.2
      have known := holds_mono ordered guards.known
      rcases verify_cases watch expected now later message room with
        unchanged | ⟨nodeId, other, stamp, -, new, stepped⟩
      · rw [unchanged]
        exact ⟨guards.window, guards.distinct, known, holds_mono ordered guards.saved⟩
      · rw [stepped]
        apply guards_remembering guards.window guards.distinct
        apply known.imp_left
        intro present
        have different : nonce ≠ other := by
          intro same
          rw [same, new] at present
          cases present
        exact (Dict.get?_set_of_ne different _ _).trans present

/-- The step that accepts a message guards its nonce from then on. -/
theorem guards_of_accepts {input : WatchStep} (sound : Sound watch)
    (orderly : Orderly py watch input)
    (accepts : AcceptsStamped py nonce ts ⟨watch, input, ((watchMachine py).step watch input).1,
      ((watchMachine py).step watch input).2⟩) :
    Guards nonce ts ((watchMachine py).step watch input).2 := by
  obtain ⟨expected, now, later, message, result, rfl, isResult, accepted, isNonce, isTime⟩ := accepts
  cases WatchReply.verified.inj isResult
  obtain ⟨nodeId, other, stamp, genuine, new⟩ := accepts_verify_iff.mp accepted
  obtain ⟨op, payload, sig, material, checked, -⟩ := checked_of_genuine genuine
  have sameNonce : nonce = other := by
    have given := checked.isNonce
    rw [isNonce] at given
    cases given
    rfl
  have sameTime : stamp = .finite ts := Option.some.inj (checked.isTime.symm.trans isTime)
  have stepped := run_verify_of_new genuine new (orderly.2 nodeId other stamp genuine)
  have after : ((watchMachine py).step watch (.verify expected now later (some message))).2 =
      ⟨watch.manager.remembering other stamp later, later⟩ :=
    congrArg (fun result => (⟨result.2, later⟩ : Watch)) stepped
  rw [after, sameNonce, sameTime]
  apply guards_remembering sound.window sound.distinct
  left
  exact Dict.get?_set_self _ _ _

/-- A guarded nonce is not accepted: the message is stale, or its nonce is known. -/
theorem not_accepts_of_guards {input : WatchStep} (guards : Guards nonce ts watch)
    (onward : ClockOnward watch input) :
    ¬AcceptsStamped py nonce ts ⟨watch, input, ((watchMachine py).step watch input).1,
      ((watchMachine py).step watch input).2⟩ := by
  rintro ⟨expected, now, later, message, result, rfl, isResult, accepted, isNonce, isTime⟩
  cases WatchReply.verified.inj isResult
  obtain ⟨nodeId, other, stamp, genuine, new⟩ := accepts_verify_iff.mp accepted
  obtain ⟨op, payload, sig, material, checked, -⟩ := checked_of_genuine genuine
  rcases guards.known with present | outdated
  · have given := checked.isNonce
    rw [isNonce] at given
    cases given
    rw [new] at present
    cases present
  · have sameTime : stamp = .finite ts := Option.some.inj (checked.isTime.symm.trans isTime)
    have fresh := checked.fresh
    rw [sameTime, stale_of_outdated guards.window (outdated_mono onward.1 outdated)] at fresh
    cases fresh

end Steps

/-! ## Runs -/

/-- What has been accepted is not accepted in a later step of the run. -/
theorem not_accepts_after {py : Platform} {start : Watch} {inputs : List WatchStep}
    (sound : Sound start) (orderly : (watchMachine py).Allowed (Orderly py) start inputs)
    {nonce : PyStr} {ts : Binary64} {past future : List (Event Watch WatchStep WatchReply)}
    {event : Event Watch WatchStep WatchReply}
    (split : (watchMachine py).trace start inputs = past ++ event :: future)
    (accepts : AcceptsStamped py nonce ts event) :
    ∀ later ∈ future, ¬AcceptsStamped py nonce ts later := by
  obtain ⟨earlier, input, rest, rfl, rfl, rfl, rfl⟩ := Machine.trace_split split
  rw [Machine.allowed_append] at orderly
  obtain ⟨before, here, after⟩ := orderly
  have reached : Sound ((watchMachine py).run start earlier) :=
    Machine.run_invariant (Orderly py) Sound
      (fun state input sound orderly => sound_step input sound orderly.2) sound before
  exact Machine.trace_invariant (Orderly py) (Guards nonce ts)
    (fun state input guards orderly => guards_step input guards orderly)
    (fun state input guards orderly => not_accepts_of_guards guards orderly.1)
    (guards_of_accepts reached here accepts) after

/-- Once a message has been accepted, no later step of the run accepts a message with its
nonce and timestamp, whatever else is verified in between and however often the program
is started again. -/
theorem accepted_once {py : Platform} {start : Watch} {inputs : List WatchStep}
    (window : 0 ≤ start.manager.replayWindow) (distinct : start.manager.Distinct)
    (onward : (watchMachine py).Allowed ClockOnward start inputs)
    (room : (watchMachine py).Allowed (HasRoom py) start inputs) {nonce : PyStr} {ts : Binary64}
    {past future : List (Event Watch WatchStep WatchReply)}
    {event : Event Watch WatchStep WatchReply}
    (split : (watchMachine py).trace start inputs = past ++ event :: future)
    (accepts : AcceptsStamped py nonce ts event) :
    ∀ later ∈ future, ¬AcceptsStamped py nonce ts later :=
  not_accepts_after ⟨window, distinct⟩ (Machine.allowed_and _ onward room) split accepts

/-! ## A greeting that is sent again -/

theorem hasRoom_of_length {py : Platform} {watch : Watch}
    (few : watch.manager.nonces.length < watch.manager.nonceLimit) (input : WatchStep) :
    HasRoom py watch input := by
  cases input with
  | sign nodeId op payload drawn now => trivial
  | restart => trivial
  | verify expected now later message =>
      intro nodeId nonce stamp genuine
      apply (List.length_filter_le _ _).trans
      exact (Dict.length_set_le nonce stamp watch.manager.nonces).trans few

/-- A message is verified, and once more after a restart. -/
def twice (message : JsonObject) : List WatchStep :=
  [.verify none zeroTime zeroTime (some message), .restart,
    .verify none zeroTime zeroTime (some message)]

theorem clockOnward_twice (message : JsonObject) :
    (watchMachine .plain).Allowed ClockOnward ⟨halfMinute, zeroTime⟩ (twice message) :=
  ⟨⟨le_rfl, le_rfl⟩, trivial, ⟨le_rfl, le_rfl⟩, trivial⟩

theorem few_remembering (nonce : PyStr) (ts : PyFloat) :
    (halfMinute.remembering nonce ts zeroTime).file.length < halfMinute.nonceLimit := by
  have kept : (halfMinute.unexpired zeroTime (halfMinute.nonces.set nonce ts)).length ≤ 1 :=
    List.length_filter_le _ [(nonce, ts)]
  have sorted : (halfMinute.remembering nonce ts zeroTime).file.length ≤ 1 :=
    (List.perm_insertionSort _ _).length_eq.trans_le kept
  exact sorted.trans_lt (by decide)

/-- The greeting is genuine for everybody who expects its sender. -/
theorem exists_genuine_hello :
    ∃ envelope, halfMinute.sign .plain (lit "a") (lit "message") hello none none (lit "n") zeroTime =
        .ok envelope ∧
      Stamped .plain envelope.object (lit "n") zeroTime ∧
      ∀ expected : Option PyStr, (∀ other ∈ expected, other = lit "a") →
        halfMinute.examine .plain expected zeroTime (some envelope.object) =
          .ok (.genuine (lit "a") (lit "n") (.finite zeroTime)) := by
  obtain ⟨envelope, signed, isNonce, isTs⟩ := sign_hello zeroTime
  have isTime : timestampSeconds .plain envelope.ts.val = some (.finite zeroTime) := by
    rw [isTs]
    rfl
  refine ⟨envelope, signed, ⟨?nonce, ?time⟩, ?genuine⟩
  case nonce =>
    rw [← isNonce]
    exact envelope.get?_nonce
  case time =>
    rw [JsonObject.getD, Envelope.get?_ts, Option.getD_some]
    exact isTime
  case genuine =>
    intro expected addressed
    have fresh := @isStale_self halfMinute (by decide) zeroTime
    have genuine := @examine_signed .plain halfMinute halfMinute rfl _ _ _ _ _ _ _ _ signed
      (by decide) (by decide) expected addressed (.finite zeroTime) isTime zeroTime
    rwa [fresh, if_neg Bool.false_ne_true, isNonce] at genuine

/-- There is room for the nonce of a genuine message that comes again after a restart. -/
theorem room_of_genuine {expected : Option PyStr} {message : JsonObject}
    (genuine : halfMinute.examine .plain expected zeroTime (some message) =
      .ok (.genuine (lit "a") (lit "n") (.finite zeroTime))) :
    (watchMachine .plain).Allowed (HasRoom .plain) ⟨halfMinute, zeroTime⟩
      [.verify expected zeroTime zeroTime (some message), .restart,
        .verify expected zeroTime zeroTime (some message)] := by
  have first : HasRoom .plain ⟨halfMinute, zeroTime⟩
      (.verify expected zeroTime zeroTime (some message)) :=
    hasRoom_of_length (by decide) _
  have after : ((watchMachine .plain).step ⟨halfMinute, zeroTime⟩
      (.verify expected zeroTime zeroTime (some message))).2 =
        ⟨halfMinute.remembering (lit "n") (.finite zeroTime) zeroTime, zeroTime⟩ :=
    congrArg (fun result => (⟨result.2, zeroTime⟩ : Watch))
      (run_verify_of_new genuine rfl (first _ _ _ genuine))
  refine ⟨first, trivial, hasRoom_of_length ?_ _, trivial⟩
  rw [after]
  exact few_remembering _ _

/-- The greeting is accepted, and not a second time after a restart. -/
theorem accepted_once_hello :
    ∃ envelope, halfMinute.sign .plain (lit "a") (lit "message") hello none none (lit "n") zeroTime =
        .ok envelope ∧
      ∃ event future, (watchMachine .plain).trace ⟨halfMinute, zeroTime⟩ (twice envelope.object) =
          [] ++ event :: future ∧
        AcceptsStamped .plain (lit "n") zeroTime event ∧ future.length = 2 ∧
        ∀ later ∈ future, ¬AcceptsStamped .plain (lit "n") zeroTime later := by
  obtain ⟨envelope, signed, stamped, isGenuine⟩ := exists_genuine_hello
  have genuine := isGenuine none (by simp)
  have accepted : Accepts
      ((verify .plain none zeroTime zeroTime (some envelope.object)).run halfMinute).1 :=
    accepts_verify_iff.mpr ⟨_, _, _, genuine, rfl⟩
  have accepts : ∀ onward, AcceptsStamped .plain (lit "n") zeroTime
      ⟨⟨halfMinute, zeroTime⟩, .verify none zeroTime zeroTime (some envelope.object),
        .verified ((verify .plain none zeroTime zeroTime (some envelope.object)).run halfMinute).1,
        onward⟩ :=
    fun onward => ⟨_, _, _, _, _, rfl, rfl, accepted, stamped⟩
  have distinct : halfMinute.Distinct := ⟨List.nodup_nil, List.nodup_nil⟩
  refine ⟨envelope, signed, _, _, rfl, accepts _, rfl, ?_⟩
  exact @accepted_once .plain ⟨halfMinute, zeroTime⟩ (twice envelope.object) (by decide) distinct
    (clockOnward_twice _) (room_of_genuine genuine) _ _ [] _ _ rfl (accepts _)

end TrustManager

end HermesMesh.Collab
