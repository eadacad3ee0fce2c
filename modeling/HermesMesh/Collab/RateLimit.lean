import HermesMesh.Foundation.Action
import HermesMesh.Foundation.SlidingWindow
import HermesMesh.Python.FloatOrder
import HermesMesh.Platform

/-!
# The sliding-window rate limiter

`SQLiteRateLimiter.check` samples the clock and then runs one transaction, which
deletes the hits older than its own window in every bucket, counts those left in its
bucket and records itself when there is room.  Processes interleave between the two
parts, so transactions need not run in the order of their samples.
-/

namespace HermesMesh.Collab

open Python Foundation

/-- A row of `rate_hits`: a bucket and its `hit_at`. -/
abbrev RateHit := TimedHit PyStr Binary64

structure RateLimitDecision where
  allowed : Bool
  count : Nat
  limit : Nat
  retryAfter : Int

/-- The settings of a limiter, both at least one. -/
structure RateLimiter where
  limit : Nat
  windowSeconds : Nat
  limit_pos : 0 < limit
  windowSeconds_pos : 0 < windowSeconds

namespace RateLimiter

/-- `SQLiteRateLimiter(db_path, limit, window_seconds)` -/
def new (limit windowSeconds : Int) : RateLimiter where
  limit := (max 1 limit).toNat
  windowSeconds := (max 1 windowSeconds).toNat
  limit_pos := by omega
  windowSeconds_pos := by omega

variable (limiter : RateLimiter)

/-- The window as the float it is subtracted as. -/
def window : PyFloat := .ofInt limiter.windowSeconds

/-- A hit that a call at this time deletes: `hit_at < now - window_seconds`. -/
def expired (now hitAt : Binary64) : Bool :=
  PyFloat.lt (.finite hitAt) (.sub (.finite now) limiter.window)

/-- The hits that the purge of a call at this time leaves. -/
def kept (now : Binary64) (hits : List RateHit) : List RateHit :=
  hits.filter fun hit => !limiter.expired now hit.time

/-- `SELECT MIN(hit_at)` -/
def oldest : List Binary64 → Option Binary64
  | [] => none
  | first :: rest =>
      some (rest.foldl (fun least other => if other.units < least.units then other else least) first)

/-- `max(1, int(oldest + self.window_seconds - now + 0.999))` -/
def retryAfter? (now : Binary64) (hits : List Binary64) : Option Int := do
  let oldest ← oldest hits
  let wait := PyFloat.sub (.add (.finite oldest) limiter.window) (.finite now)
  let seconds ← (PyFloat.add wait (.ofRatio false 999 1000)).toInt?
  return max 1 seconds

/-- The transaction of `check`; one that raises is rolled back. -/
def transaction (bucket : PyStr) (now : Binary64) :
    Action (List RateHit) Fault RateLimitDecision := do
  let hits ← .read
  let kept := limiter.kept now hits
  let mine := kept.filter fun hit => hit.key = bucket
  let count := mine.length
  if limiter.limit ≤ count then
    let retryAfter ← .ofOption .overflowError (limiter.retryAfter? now (mine.map TimedHit.time))
    .modify fun _ => kept
    return ⟨false, count, limiter.limit, max 0 retryAfter⟩
  else
    .modify fun _ => kept ++ [⟨bucket, now⟩]
    return ⟨true, count + 1, limiter.limit, 0⟩

/-- `check`, at the time it has sampled.  The database binds no text that UTF-8 cannot
hold: the first statement with the bucket raises and the transaction is rolled back. -/
def check (bucket : PyStr) (now : Binary64) : Action (List RateHit) Fault RateLimitDecision :=
  if bucket = [] then .raise .valueError
  else
    match limiter.window, encodeUtf8 bucket with
    | .finite _, some _ => limiter.transaction bucket now
    | .finite _, none => .raise .valueError
    | _, _ => .raise .overflowError

end RateLimiter

/-! ## Processes sharing one database -/

/-- A call that has sampled the clock. -/
structure RateCall where
  bucket : PyStr
  now : Binary64

/-- The database, the clock they share, and the calls between their two parts. -/
structure SharedLimiter where
  hits : List RateHit
  clock : Binary64
  pending : List RateCall

/-- What a process does next: start a call with a reading of the clock, or run the
transaction of one of the pending calls. -/
inductive LimiterStep where
  | sample (bucket : PyStr) (reading : Binary64)
  | transact (index : Nat)

/-- Any number of processes that call `check`. -/
def limiterMachine (limiter : RateLimiter) :
    Machine SharedLimiter LimiterStep (Option (RateCall × Except Fault RateLimitDecision)) where
  step state
    | .sample bucket reading =>
        (none, { state with clock := reading, pending := state.pending ++ [⟨bucket, reading⟩] })
    | .transact index =>
        match state.pending[index]? with
        | none => (none, state)
        | some call =>
            let outcome := (limiter.check call.bucket call.now).run state.hits
            (some (call, outcome.1),
              { state with hits := outcome.2, pending := state.pending.eraseIdx index })

/-- The hit of a step whose call was allowed. -/
def allowedHit (event : Event SharedLimiter LimiterStep
    (Option (RateCall × Except Fault RateLimitDecision))) : Option RateHit :=
  match event.output with
  | some (call, .ok decision) => if decision.allowed then some ⟨call.bucket, call.now⟩ else none
  | _ => none

/-- A clock reading is not before the last one. -/
def ClockAdvances (state : SharedLimiter) : LimiterStep → Prop
  | .sample _ reading => state.clock.units ≤ reading.units
  | .transact _ => True

/-- No purge deletes a hit that a pending call of its bucket would still count. -/
def SparesPending (limiter : RateLimiter) (state : SharedLimiter) : LimiterStep → Prop
  | .sample _ _ => True
  | .transact index => ∀ call, state.pending[index]? = some call →
      ∀ other ∈ state.pending, ∀ hit ∈ state.hits, hit.key = other.bucket →
        limiter.expired call.now hit.time = true → limiter.expired other.now hit.time = true

/-! ## One call -/

/-- The number of hits in a bucket at the times that `inside` admits. -/
def countIn (bucket : PyStr) (inside : Binary64 → Bool) (hits : List RateHit) : Nat :=
  hits.countP fun hit => decide (hit.key = bucket) && inside hit.time

@[simp] theorem countIn_append (bucket : PyStr) (inside : Binary64 → Bool)
    (left right : List RateHit) :
    countIn bucket inside (left ++ right) = countIn bucket inside left + countIn bucket inside right :=
  List.countP_append

theorem countIn_singleton (bucket : PyStr) (inside : Binary64 → Bool) (hit : RateHit) :
    countIn bucket inside [hit] = if hit.key = bucket ∧ inside hit.time = true then 1 else 0 := by
  simp [countIn, List.countP_singleton]

/-- A purge that leaves what is counted leaves the count. -/
theorem countIn_kept {limiter : RateLimiter} {now : Binary64} {bucket : PyStr}
    {inside : Binary64 → Bool} {hits : List RateHit}
    (keeps : ∀ hit ∈ hits, hit.key = bucket → inside hit.time = true →
      limiter.expired now hit.time = false) :
    countIn bucket inside (limiter.kept now hits) = countIn bucket inside hits := by
  rw [countIn, RateLimiter.kept, List.countP_filter]
  refine List.countP_congr fun hit member => ?_
  simp only [Bool.and_eq_true, decide_eq_true_eq, Bool.not_eq_true', and_iff_left_iff_imp]
  exact fun ⟨same, isInside⟩ => keeps hit member same isInside

/-- A call raises and changes nothing, or is refused after its purge, or finds room
in its bucket after the purge and records itself. -/
theorem check_cases (limiter : RateLimiter) (bucket : PyStr) (now : Binary64)
    (hits : List RateHit) :
    (∃ fault, (limiter.check bucket now).run hits = (.error fault, hits)) ∨
      (∃ decision, decision.allowed = false ∧
        (limiter.check bucket now).run hits = (.ok decision, limiter.kept now hits)) ∨
      ∃ decision, decision.allowed = true ∧
        (limiter.check bucket now).run hits =
          (.ok decision, limiter.kept now hits ++ [⟨bucket, now⟩]) ∧
        countIn bucket (fun _ => true) (limiter.kept now hits) < limiter.limit := by
  have counted : ((limiter.kept now hits).filter fun hit => decide (hit.key = bucket)).length =
      countIn bucket (fun _ => true) (limiter.kept now hits) := by
    simp only [countIn, Bool.and_true, List.countP_eq_length_filter]
  by_cases noBucket : bucket = []
  · left
    exact ⟨.valueError, by rw [RateLimiter.check, if_pos noBucket, Action.run_raise]⟩
  · rw [RateLimiter.check, if_neg noBucket]
    split
    · simp only [RateLimiter.transaction, Action.run_bind, Action.run_read]
      by_cases full : limiter.limit ≤
          ((limiter.kept now hits).filter fun hit => decide (hit.key = bucket)).length
      · simp only [if_pos full, Action.run_bind]
        cases limiter.retryAfter? now (((limiter.kept now hits).filter fun hit =>
            decide (hit.key = bucket)).map TimedHit.time) with
        | none =>
            simp only [Action.run_ofOption_none]
            exact .inl ⟨_, rfl⟩
        | some seconds =>
            simp only [Action.run_ofOption_some, Action.run_modify, Action.run_pure]
            exact .inr (.inl ⟨_, rfl, rfl⟩)
      · simp only [if_neg full, Action.run_bind, Action.run_modify, Action.run_pure]
        exact .inr (.inr ⟨_, rfl, rfl, by omega⟩)
    · exact .inl ⟨.valueError, rfl⟩
    · exact .inl ⟨.overflowError, rfl⟩

/-! ## Times -/

/-- A later call expires whatever an earlier one does. -/
theorem expired_mono {limiter : RateLimiter} {early late hitAt : Binary64}
    (ordered : early.units ≤ late.units) (isExpired : limiter.expired early hitAt = true) :
    limiter.expired late hitAt = true := by
  unfold RateLimiter.expired at isExpired ⊢
  rw [PyFloat.lt_finite] at isExpired ⊢
  generalize limiter.window = window at isExpired ⊢
  cases window with
  | finite window => exact PyFloat.above_sub_mono ordered isExpired
  | inf neg => exact isExpired
  | nan => exact isExpired

/-- No time that `inside` admits is expired at another. -/
def WithinWindow (limiter : RateLimiter) (inside : Binary64 → Bool) : Prop :=
  ∀ hitAt now, inside hitAt = true → inside now = true → limiter.expired now hitAt = false

/-- The window in seconds is a number that a float holds. -/
def ExactWindow (limiter : RateLimiter) : Prop :=
  ∃ window : Binary64, limiter.window = .finite window ∧
    window.units = limiter.windowSeconds * minScale

/-- The time lies in the closed interval that starts at `first` and is as long as the window. -/
def inInterval (limiter : RateLimiter) (first : Int) (time : Binary64) : Bool :=
  decide (first ≤ time.units) && decide (time.units ≤ first + limiter.windowSeconds * minScale)

theorem withinWindow_inInterval {limiter : RateLimiter} (exact : ExactWindow limiter)
    (first : Int) : WithinWindow limiter (inInterval limiter first) := by
  intro hitAt now hitInside nowInside
  obtain ⟨window, isWindow, units⟩ := exact
  simp only [inInterval, Bool.and_eq_true, decide_eq_true_eq] at hitInside nowInside
  rw [RateLimiter.expired, PyFloat.lt_finite, isWindow]
  refine PyFloat.not_above_sub ?_
  rw [units]
  exact Int.sub_right_le_of_le_add (nowInside.2.trans (Int.add_le_add_right hitInside.1 _))

/-! ## Runs -/

/-- A call of the bucket at this time is pending or can still begin. -/
def MayCount (state : SharedLimiter) (bucket : PyStr) (now : Binary64) : Prop :=
  state.clock.units ≤ now.units ∨ ⟨bucket, now⟩ ∈ state.pending

/-- What the database holds of the hits allowed so far: whatever a call that may still
count has not expired, and never more than the limit within a window. -/
structure Accounted (limiter : RateLimiter) (allowed : List RateHit) (state : SharedLimiter) :
    Prop where
  sampled : ∀ call ∈ state.pending, call.now.units ≤ state.clock.units
  counted : ∀ bucket now, MayCount state bucket now → ∀ inside : Binary64 → Bool,
    (∀ hitAt, inside hitAt = true → limiter.expired now hitAt = false) →
      countIn bucket inside allowed ≤ countIn bucket inside state.hits
  bounded : ∀ bucket inside, WithinWindow limiter inside →
    countIn bucket inside allowed ≤ limiter.limit

theorem accounted_sample {limiter : RateLimiter} {allowed : List RateHit} {state : SharedLimiter}
    (accounted : Accounted limiter allowed state) {bucket : PyStr} {reading : Binary64}
    (later : state.clock.units ≤ reading.units) :
    Accounted limiter allowed
      { state with clock := reading, pending := state.pending ++ [⟨bucket, reading⟩] } where
  sampled := by
    intro call member
    rcases List.mem_append.mp member with old | new
    · exact (accounted.sampled call old).trans later
    · rw [List.mem_singleton.mp new]
  counted := by
    rintro other now (future | member)
    · exact accounted.counted other now (.inl (later.trans future))
    · rcases List.mem_append.mp member with old | new
      · exact accounted.counted other now (.inr old)
      · cases List.mem_singleton.mp new
        exact accounted.counted bucket reading (.inl later)
  bounded := accounted.bounded

/-- A purge that spares the pending calls deletes nothing that may still be counted. -/
theorem countIn_spared {limiter : RateLimiter} {allowed : List RateHit} {state : SharedLimiter}
    (accounted : Accounted limiter allowed state) {index : Nat} {call : RateCall}
    (found : state.pending[index]? = some call)
    (spares : SparesPending limiter state (.transact index)) {bucket : PyStr} {now : Binary64}
    (counts : MayCount state bucket now) {inside : Binary64 → Bool}
    (unexpired : ∀ hitAt, inside hitAt = true → limiter.expired now hitAt = false) :
    countIn bucket inside (limiter.kept call.now state.hits) = countIn bucket inside state.hits := by
  refine countIn_kept fun hit member same isInside => ?_
  rw [Bool.eq_false_iff]
  intro isExpired
  have stillExpired : limiter.expired now hit.time = true := by
    rcases counts with future | pending
    · have past := accounted.sampled call (List.mem_of_getElem? found)
      exact expired_mono (past.trans future) isExpired
    · exact spares call found _ pending hit member same isExpired
  rw [unexpired hit.time isInside] at stillExpired
  cases stillExpired

/-- A pending call remains one that was pending before the transaction. -/
theorem MayCount.before {state : SharedLimiter} {hits : List RateHit} {index : Nat}
    {bucket : PyStr} {now : Binary64}
    (counts : MayCount { state with hits := hits, pending := state.pending.eraseIdx index }
      bucket now) : MayCount state bucket now :=
  counts.imp_right fun member => List.mem_of_mem_eraseIdx member

/-- A call that raises keeps the account. -/
theorem accounted_drop {limiter : RateLimiter} {allowed : List RateHit} {state : SharedLimiter}
    (accounted : Accounted limiter allowed state) (index : Nat) :
    Accounted limiter allowed { state with pending := state.pending.eraseIdx index } where
  sampled := fun other member => accounted.sampled other (List.mem_of_mem_eraseIdx member)
  counted := fun bucket now counts => accounted.counted bucket now counts.before
  bounded := accounted.bounded

/-- A transaction that only purges keeps the account. -/
theorem accounted_purge {limiter : RateLimiter} {allowed : List RateHit} {state : SharedLimiter}
    (accounted : Accounted limiter allowed state) {index : Nat} {call : RateCall}
    (found : state.pending[index]? = some call)
    (spares : SparesPending limiter state (.transact index)) :
    Accounted limiter allowed
      { state with hits := limiter.kept call.now state.hits,
                   pending := state.pending.eraseIdx index } where
  sampled := fun other member => accounted.sampled other (List.mem_of_mem_eraseIdx member)
  counted := by
    intro bucket now counts inside unexpired
    rw [countIn_spared accounted found spares counts.before unexpired]
    exact accounted.counted bucket now counts.before inside unexpired
  bounded := accounted.bounded

/-- A transaction that finds room after its purge keeps the account with its own hit:
within any window around it, everything allowed so far was there to be counted. -/
theorem accounted_admit {limiter : RateLimiter} {allowed : List RateHit} {state : SharedLimiter}
    (accounted : Accounted limiter allowed state) {index : Nat} {call : RateCall}
    (found : state.pending[index]? = some call)
    (spares : SparesPending limiter state (.transact index))
    (room : countIn call.bucket (fun _ => true) (limiter.kept call.now state.hits) < limiter.limit) :
    Accounted limiter (allowed ++ [⟨call.bucket, call.now⟩])
      { state with hits := limiter.kept call.now state.hits ++ [⟨call.bucket, call.now⟩],
                   pending := state.pending.eraseIdx index } where
  sampled := fun other member => accounted.sampled other (List.mem_of_mem_eraseIdx member)
  counted := by
    intro bucket now counts inside unexpired
    rw [countIn_append, countIn_append,
      countIn_spared accounted found spares counts.before unexpired]
    exact Nat.add_le_add_right (accounted.counted bucket now counts.before inside unexpired) _
  bounded := by
    intro bucket inside within
    rw [countIn_append, countIn_singleton]
    split
    · next counted =>
        obtain ⟨rfl, nowInside⟩ := counted
        have unexpired := fun hitAt isInside => within hitAt call.now isInside nowInside
        have pending : MayCount state call.bucket call.now := .inr (List.mem_of_getElem? found)
        have before := accounted.counted _ _ pending inside unexpired
        rw [← countIn_spared accounted found spares pending unexpired] at before
        have few : countIn call.bucket inside (limiter.kept call.now state.hits) ≤
            countIn call.bucket (fun _ => true) (limiter.kept call.now state.hits) :=
          List.countP_mono_left fun hit _ counted => by
            simp only [Bool.and_eq_true, Bool.and_true] at counted ⊢
            exact counted.1
        exact (before.trans few).trans_lt room
    · exact accounted.bounded bucket inside within

theorem accounted_step {limiter : RateLimiter} {allowed : List RateHit} {state : SharedLimiter}
    (accounted : Accounted limiter allowed state) {input : LimiterStep}
    (advances : ClockAdvances state input) (spares : SparesPending limiter state input) :
    let after := (limiterMachine limiter).step state input
    Accounted limiter (allowed ++ (allowedHit ⟨state, input, after.1, after.2⟩).toList) after.2 := by
  cases input with
  | sample bucket reading =>
      simpa [limiterMachine, allowedHit] using accounted_sample accounted advances
  | transact index =>
      cases found : state.pending[index]? with
      | none => simpa [limiterMachine, allowedHit, found] using accounted
      | some call =>
          rcases check_cases limiter call.bucket call.now state.hits with
            ⟨fault, raised⟩ | ⟨decision, refused, answered⟩ | ⟨decision, admitted, answered, room⟩
          · simpa [limiterMachine, allowedHit, found, raised] using accounted_drop accounted index
          · simpa [limiterMachine, allowedHit, found, answered, refused] using
              accounted_purge accounted found spares
          · simpa [limiterMachine, allowedHit, found, answered, admitted] using
              accounted_admit accounted found spares room

/-- While every purge spares what pending calls would count, no closed interval as
long as the window holds more allowed calls of a bucket than the limit. -/
theorem allowed_within_limit {limiter : RateLimiter} (exact : ExactWindow limiter)
    {start : SharedLimiter} (idle : start.pending = []) {inputs : List LimiterStep}
    (spared : (limiterMachine limiter).Allowed (fun state input =>
      ClockAdvances state input ∧ SparesPending limiter state input) start inputs)
    (bucket : PyStr) (first : Int) :
    countIn bucket (inInterval limiter first)
        (((limiterMachine limiter).trace start inputs).filterMap allowedHit) ≤ limiter.limit := by
  have begins : Accounted limiter (List.filterMap allowedHit []) start :=
    ⟨by simp [idle], fun _ _ _ _ _ => Nat.zero_le _, fun _ _ _ => Nat.zero_le _⟩
  have accounted := Machine.history_invariant
    (fun state input => ClockAdvances state input ∧ SparesPending limiter state input)
    (fun past state => Accounted limiter (past.filterMap allowedHit) state)
    (fun past state input held permitted => by
      rw [Machine.filterMap_concat]
      exact accounted_step held permitted.1 permitted.2)
    begins spared
  exact accounted.bounded bucket _ (withinWindow_inInterval exact first)

/-! ## One call a minute -/

/-- One call a minute. -/
def oneAMinute : RateLimiter := ⟨1, 60, by decide, by decide⟩

theorem window_oneAMinute : oneAMinute.window = .finite (sixBits 60 (by decide)) := by
  unfold RateLimiter.window PyFloat.ofInt
  refine PyFloat.ofRatio_exact (sixBits 60 (by decide)) 60 1 Nat.one_pos ?_
  rw [@minScale_split 47 1027 rfl, sixBits, Nat.mul_one, Nat.mul_assoc]

theorem exactWindow_oneAMinute : ExactWindow oneAMinute :=
  ⟨_, window_oneAMinute, units_sixBits 60 (by decide)⟩

theorem not_expired_oneAMinute {now hitAt : Binary64}
    (young : now.units - 60 * minScale ≤ hitAt.units) :
    oneAMinute.expired now hitAt = false := by
  rw [RateLimiter.expired, PyFloat.lt_finite, window_oneAMinute]
  refine PyFloat.not_above_sub ?_
  rwa [units_sixBits]

/-- A call in a bucket of which nothing is left finds room. -/
theorem check_room {bucket : PyStr} (named : bucket ≠ []) (encodable : Encodable bucket)
    (now : Binary64) {hits : List RateHit}
    (none : ∀ hit ∈ oneAMinute.kept now hits, hit.key ≠ bucket) :
    (oneAMinute.check bucket now).run hits =
      (.ok ⟨true, 1, 1, 0⟩, oneAMinute.kept now hits ++ [⟨bucket, now⟩]) := by
  have mine : (oneAMinute.kept now hits).filter (fun hit => decide (hit.key = bucket)) = [] := by
    simpa using none
  have limit : ¬oneAMinute.limit ≤ 0 := by decide
  obtain ⟨bytes, encoded⟩ := encodable_iff.mp encodable
  rw [RateLimiter.check, if_neg named, window_oneAMinute, encoded]
  simp only [RateLimiter.transaction, Action.run_bind, Action.run_read, mine, List.length_nil,
    if_neg limit, Action.run_modify, Action.run_pure]
  rfl

/-- The transaction of a pending call in a bucket of which nothing is left. -/
theorem step_room {hits kept : List RateHit} {clock now : Binary64} {pending : List RateCall}
    {index : Nat} {bucket : PyStr} (found : pending[index]? = some ⟨bucket, now⟩)
    (named : bucket ≠ []) (encodable : Encodable bucket) (left : oneAMinute.kept now hits = kept)
    (none : ∀ hit ∈ kept, hit.key ≠ bucket) :
    (limiterMachine oneAMinute).step ⟨hits, clock, pending⟩ (.transact index) =
      (some (⟨bucket, now⟩, .ok ⟨true, 1, 1, 0⟩),
        ⟨kept ++ [⟨bucket, now⟩], clock, pending.eraseIdx index⟩) := by
  subst left
  simp only [limiterMachine, found, check_room named encodable now none]

/-- The first call of a bucket in an empty database. -/
theorem step_first : (limiterMachine oneAMinute).step ⟨[], zeroTime, [⟨lit "b", zeroTime⟩]⟩
      (.transact 0) =
    (some (⟨lit "b", zeroTime⟩, .ok ⟨true, 1, 1, 0⟩), ⟨[⟨lit "b", zeroTime⟩], zeroTime, []⟩) :=
  step_room rfl (by decide) (encodable_lit _) rfl fun hit member => absurd member List.not_mem_nil

theorem step_sample (hits : List RateHit) (clock : Binary64) (pending : List RateCall)
    (bucket : PyStr) (reading : Binary64) :
    (limiterMachine oneAMinute).step ⟨hits, clock, pending⟩ (.sample bucket reading) =
      (none, ⟨hits, reading, pending ++ [⟨bucket, reading⟩]⟩) := rfl

theorem kept_of_young {now : Binary64} {hits : List RateHit}
    (young : ∀ hit ∈ hits, now.units - 60 * minScale ≤ hit.time.units) :
    oneAMinute.kept now hits = hits :=
  List.filter_eq_self.mpr fun hit member => by rw [not_expired_oneAMinute (young hit member)]; rfl

theorem inInterval_sixBits {n : Nat} (bits : 32 ≤ n ∧ n < 64) (within : n ≤ 60) :
    inInterval oneAMinute 0 (sixBits n bits) = true := by
  have ordered : (n : Int) * minScale ≤ 60 * minScale :=
    Int.mul_le_mul_of_nonneg_right (by omega) (Int.natCast_nonneg _)
  simp only [inInterval, units_sixBits, Bool.and_eq_true, decide_eq_true_eq, Int.zero_add]
  exact ⟨Int.mul_nonneg (Int.natCast_nonneg n) (Int.natCast_nonneg _), ordered⟩

theorem inInterval_zeroTime : inInterval oneAMinute 0 zeroTime = true := by
  simp only [inInterval, units_zeroTime, Bool.and_eq_true, decide_eq_true_eq, Int.zero_add]
  exact ⟨le_refl _, Int.mul_nonneg (Int.natCast_nonneg _) (Int.natCast_nonneg _)⟩

theorem zeroTime_le_sixBits {n : Nat} (bits : 32 ≤ n ∧ n < 64) :
    zeroTime.units ≤ (sixBits n bits).units := by
  rw [units_zeroTime, units_sixBits]
  exact Int.mul_nonneg (Int.natCast_nonneg n) (Int.natCast_nonneg _)

/-- A transaction while no other call is pending spares the pending calls. -/
theorem spares_of_single {limiter : RateLimiter} {state : SharedLimiter} {call : RateCall}
    (single : state.pending = [call]) (index : Nat) :
    SparesPending limiter state (.transact index) := by
  intro mine found other member hit _ _ isExpired
  rw [single] at found member
  rw [List.mem_singleton.mp (List.mem_of_getElem? found)] at isExpired
  rwa [List.mem_singleton.mp member]

/-- A call that waits while one of another bucket, sampled after it, runs its transaction. -/
def promptSteps : List LimiterStep :=
  [.sample (lit "b") zeroTime, .sample (lit "c") (sixBits 59 (by decide)), .transact 1, .transact 0]

theorem prompt_within_limit :
    countIn (lit "b") (inInterval oneAMinute 0)
      (((limiterMachine oneAMinute).trace ⟨[], zeroTime, []⟩ promptSteps).filterMap allowedHit) ≤
        oneAMinute.limit := by
  have overtaking : (limiterMachine oneAMinute).step ⟨[], sixBits 59 (by decide),
        [⟨lit "b", zeroTime⟩, ⟨lit "c", sixBits 59 (by decide)⟩]⟩ (.transact 1) =
      (some (⟨lit "c", sixBits 59 (by decide)⟩, .ok ⟨true, 1, 1, 0⟩),
        ⟨[⟨lit "c", sixBits 59 (by decide)⟩], sixBits 59 (by decide), [⟨lit "b", zeroTime⟩]⟩) :=
    step_room rfl (by decide) (encodable_lit _) rfl fun hit member => absurd member List.not_mem_nil
  refine allowed_within_limit exactWindow_oneAMinute rfl ?_ (lit "b") 0
  refine ⟨⟨le_refl _, trivial⟩, ⟨zeroTime_le_sixBits _, trivial⟩, ⟨trivial, ?_⟩, ⟨trivial, ?_⟩, trivial⟩
  · exact fun call _ other _ hit stored => absurd stored List.not_mem_nil
  · exact spares_of_single (congrArg (fun step => step.2.pending) overtaking) 0

/-- A call sampled at second 59 waits while one of another bucket, sampled at second 61,
runs its transaction. -/
def lateSteps : List LimiterStep :=
  [.sample (lit "b") zeroTime, .transact 0, .sample (lit "b") (sixBits 59 (by decide)),
    .sample (lit "c") (sixBits 61 (by decide)), .transact 1, .transact 0]

def oneSecond : Binary64 := ⟨false, 2 ^ 52, 1022, by decide, by decide, .inr (le_refl _)⟩

theorem units_oneSecond : oneSecond.units = minScale := by
  rw [Binary64.units, oneSecond, if_neg Bool.false_ne_true, @minScale_split 52 1022 rfl]

theorem sub_scaled (scale : Int) : ((61 : Nat) : Int) * scale - ((60 : Nat) : Int) * scale = scale := by
  push_cast
  ring

theorem young_scaled {scale : Int} (nonneg : 0 ≤ scale) :
    ((59 : Nat) : Int) * scale - 60 * scale ≤ ((61 : Nat) : Int) * scale := by
  push_cast
  omega

theorem expired_zeroTime : oneAMinute.expired (sixBits 61 (by decide)) zeroTime = true := by
  have second : (sixBits 61 (by decide)).units - (sixBits 60 (by decide)).units = oneSecond.units := by
    rw [units_sixBits, units_sixBits, sub_scaled, units_oneSecond]
  obtain ⟨same, isFinite, units⟩ := PyFloat.ofUnits_units oneSecond
  rw [RateLimiter.expired, PyFloat.lt_finite, window_oneAMinute, PyFloat.sub, second, isFinite,
    PyFloat.above_finite, units, units_zeroTime, units_oneSecond]
  exact Int.natCast_pos.mpr PyFloat.minScale_pos

/-- The hits that `lateSteps` allows. -/
theorem allowed_lateSteps :
    ((limiterMachine oneAMinute).trace ⟨[], zeroTime, []⟩ lateSteps).filterMap allowedHit =
      [⟨lit "b", zeroTime⟩, ⟨lit "c", sixBits 61 (by decide)⟩, ⟨lit "b", sixBits 59 (by decide)⟩] := by
  have purged : oneAMinute.kept (sixBits 61 (by decide)) [⟨lit "b", zeroTime⟩] = [] := by
    simp [RateLimiter.kept, expired_zeroTime]
  have second : (limiterMachine oneAMinute).step ⟨[⟨lit "b", zeroTime⟩], sixBits 61 (by decide),
        [⟨lit "b", sixBits 59 (by decide)⟩, ⟨lit "c", sixBits 61 (by decide)⟩]⟩ (.transact 1) =
      (some (⟨lit "c", sixBits 61 (by decide)⟩, .ok ⟨true, 1, 1, 0⟩),
        ⟨[⟨lit "c", sixBits 61 (by decide)⟩], sixBits 61 (by decide),
          [⟨lit "b", sixBits 59 (by decide)⟩]⟩) :=
    step_room rfl (by decide) (encodable_lit _) purged (by simp)
  have spared : oneAMinute.kept (sixBits 59 (by decide)) [⟨lit "c", sixBits 61 (by decide)⟩] =
      [⟨lit "c", sixBits 61 (by decide)⟩] := by
    refine kept_of_young fun hit member => ?_
    rw [List.mem_singleton.mp member, units_sixBits, units_sixBits]
    exact young_scaled (Int.natCast_nonneg _)
  have third : (limiterMachine oneAMinute).step ⟨[⟨lit "c", sixBits 61 (by decide)⟩],
        sixBits 61 (by decide), [⟨lit "b", sixBits 59 (by decide)⟩]⟩ (.transact 0) =
      (some (⟨lit "b", sixBits 59 (by decide)⟩, .ok ⟨true, 1, 1, 0⟩),
        ⟨[⟨lit "c", sixBits 61 (by decide)⟩, ⟨lit "b", sixBits 59 (by decide)⟩],
          sixBits 61 (by decide), []⟩) :=
    step_room rfl (by decide) (encodable_lit _) spared (by simp)
  rw [lateSteps, Machine.trace_cons_of_step (step_sample _ _ _ _ _), List.nil_append,
    Machine.trace_cons_of_step step_first, Machine.trace_cons_of_step (step_sample _ _ _ _ _),
    List.nil_append, Machine.trace_cons_of_step (step_sample _ _ _ _ _), List.singleton_append,
    Machine.trace_cons_of_step second, Machine.trace_cons_of_step third, Machine.trace]
  rfl

/-- The purge at second 61 deletes the hit at second 0, which the call sampled at
second 59 would have counted: both calls of the bucket are allowed within a minute. -/
theorem late_call_passes :
    (limiterMachine oneAMinute).Allowed ClockAdvances ⟨[], zeroTime, []⟩ lateSteps ∧
      oneAMinute.limit < countIn (lit "b") (inInterval oneAMinute 0)
        (((limiterMachine oneAMinute).trace ⟨[], zeroTime, []⟩ lateSteps).filterMap allowedHit) := by
  constructor
  · refine ⟨le_refl _, trivial, ?_, ?_, trivial, trivial, trivial⟩
    · exact (congrArg (fun step => step.2.clock.units) step_first).trans_le (zeroTime_le_sixBits _)
    · have ordered : (sixBits 59 (by decide)).units ≤ (sixBits 61 (by decide)).units := by
        rw [units_sixBits, units_sixBits]
        exact Int.mul_le_mul_of_nonneg_right (by decide) (Int.natCast_nonneg _)
      exact ordered
  · have counted : countIn (lit "b") (inInterval oneAMinute 0)
        [⟨lit "b", zeroTime⟩, ⟨lit "c", sixBits 61 (by decide)⟩, ⟨lit "b", sixBits 59 (by decide)⟩] = 2 := by
      simp [countIn, inInterval_zeroTime, inInterval_sixBits]
    rw [allowed_lateSteps, counted]
    decide

end HermesMesh.Collab
