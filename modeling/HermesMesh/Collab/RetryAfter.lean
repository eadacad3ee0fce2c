import HermesMesh.Collab.RateWindow

/-!
# How long to wait

`check` with rational times, as its `retry_after` is meant: no rounding, and no bucket or
window that is refused for its form.  A refusal says how long to wait; it rounds down
after adding 0.999 seconds, but the hit that it waits for expires strictly after its window.
-/

namespace HermesMesh.Collab

open Python Foundation

/-- A row of `rate_hits` with an exact time. -/
abbrev ExactHit := TimedHit PyStr ℚ

/-- `int(value)` -/
def truncate (value : ℚ) : Int := if 0 ≤ value then ⌊value⌋ else ⌈value⌉

namespace RateLimiter

variable (limiter : RateLimiter)

/-- `hit_at < now - window_seconds` -/
def expiry : Expiry ℚ where
  expired now hitAt := decide (hitAt < now - limiter.windowSeconds)
  mono := by
    intro now later hitAt ordered isExpired
    simp only [decide_eq_true_eq] at isExpired ⊢
    linarith

/-- `max(1, int(oldest + self.window_seconds - now + 0.999))` -/
def retrySeconds (now oldest : ℚ) : Int :=
  max 1 (truncate (oldest + limiter.windowSeconds - now + 999 / 1000))

/-- `check` at a given time.  The least of no hits at all is no number to calculate with. -/
def exactCheck (bucket : PyStr) (now : ℚ) : Action (List ExactHit) Fault RateLimitDecision :=
  if bucket = [] then .raise .valueError
  else do
    let hits ← .read
    let kept := limiter.expiry.live now hits
    let mine := kept.filter fun hit => decide (hit.key = bucket)
    let count := mine.length
    if limiter.limit ≤ count then
      let oldest ← .ofOption .typeError (mine.map TimedHit.time).min?
      .modify fun _ => kept
      return ⟨false, count, limiter.limit, max 0 (limiter.retrySeconds now oldest)⟩
    else
      .modify fun _ => kept ++ [⟨bucket, now⟩]
      return ⟨true, count + 1, limiter.limit, 0⟩

/-- Calls of `check`, one after the other. -/
def exactMachine : Machine (List ExactHit) ExactHit (Except Fault RateLimitDecision) where
  step hits call := (limiter.exactCheck call.key call.time).run hits

variable {limiter}

/-! ## One call -/

theorem exactCheck_eq {bucket : PyStr} (named : bucket ≠ []) (now : ℚ) :
    limiter.exactCheck bucket now = do
      let hits ← .read
      if limiter.limit ≤ (limiter.expiry.counted bucket now hits).length then
        let oldest ← .ofOption .typeError
          ((limiter.expiry.counted bucket now hits).map TimedHit.time).min?
        .modify fun _ => limiter.expiry.live now hits
        return ⟨false, (limiter.expiry.counted bucket now hits).length, limiter.limit,
          max 0 (limiter.retrySeconds now oldest)⟩
      else
        .modify fun _ => limiter.expiry.live now hits ++ [⟨bucket, now⟩]
        return ⟨true, (limiter.expiry.counted bucket now hits).length + 1, limiter.limit, 0⟩ := by
  rw [exactCheck, if_neg named]
  rfl

/-- A call that finds as many hits as the limit allows is refused. -/
theorem run_exactCheck_full {bucket : PyStr} (named : bucket ≠ []) {now : ℚ} {hits : List ExactHit}
    (full : limiter.limit ≤ (limiter.expiry.counted bucket now hits).length) :
    ∃ oldest, ((limiter.expiry.counted bucket now hits).map TimedHit.time).min? = some oldest ∧
      (limiter.exactCheck bucket now).run hits =
        (.ok ⟨false, (limiter.expiry.counted bucket now hits).length, limiter.limit,
          limiter.retrySeconds now oldest⟩, limiter.expiry.live now hits) := by
  have some : (limiter.expiry.counted bucket now hits).map TimedHit.time ≠ [] := by
    intro none
    have empty := congrArg List.length none
    rw [List.length_map, List.length_nil] at empty
    have pos := limiter.limit_pos
    omega
  obtain ⟨oldest, least⟩ := Option.isSome_iff_exists.mp (List.isSome_min?_of_ne_nil some)
  refine ⟨oldest, least, ?_⟩
  have atLeastOne : 0 ≤ limiter.retrySeconds now oldest :=
    zero_le_one.trans (le_max_left 1 _)
  rw [exactCheck_eq named, Action.run_bind_ok (Action.run_read _), if_pos full, least,
    Action.run_bind_ok (Action.run_ofOption_some _ _ _), Action.run_bind_ok (Action.run_modify _ _),
    max_eq_right atLeastOne]
  rfl

/-- A call that finds fewer hits is allowed and recorded. -/
theorem run_exactCheck_room {bucket : PyStr} (named : bucket ≠ []) {now : ℚ} {hits : List ExactHit}
    (room : (limiter.expiry.counted bucket now hits).length < limiter.limit) :
    (limiter.exactCheck bucket now).run hits =
      (.ok ⟨true, (limiter.expiry.counted bucket now hits).length + 1, limiter.limit, 0⟩,
        limiter.expiry.live now hits ++ [⟨bucket, now⟩]) := by
  rw [exactCheck_eq named, Action.run_bind_ok (Action.run_read _), if_neg (Nat.not_le.mpr room)]
  rfl

/-- All that a call of a named bucket does: the verdict on the hits it counts, and a purge. -/
theorem step_of_named {call : ExactHit} (named : call.key ≠ []) (hits : List ExactHit) :
    ∃ decision, limiter.exactMachine.step hits call =
        (.ok decision, limiter.expiry.live call.time hits ++ recorded call (.ok decision)) ∧
      (decision.allowed = true ↔
        (limiter.expiry.counted call.key call.time hits).length < limiter.limit) ∧
      decision.count = (limiter.expiry.counted call.key call.time hits).length +
        if decision.allowed then 1 else 0 := by
  by_cases room : (limiter.expiry.counted call.key call.time hits).length < limiter.limit
  · exact ⟨_, run_exactCheck_room named room, iff_of_true rfl room, rfl⟩
  · obtain ⟨oldest, -, ran⟩ := run_exactCheck_full named (Nat.not_lt.mp room)
    refine ⟨⟨false, (limiter.expiry.counted call.key call.time hits).length, limiter.limit,
      limiter.retrySeconds call.time oldest⟩, ran.trans ?_, iff_of_false Bool.false_ne_true room,
      by simp⟩
    rw [recorded, if_neg Bool.false_ne_true, List.append_nil]

theorem step_of_unnamed {call : ExactHit} (unnamed : call.key = []) (hits : List ExactHit) :
    limiter.exactMachine.step hits call = (.error .valueError, hits) := by
  simp only [exactMachine, exactCheck, if_pos unnamed, Action.run_raise]

/-! ## Floats that are exact -/

/-- The value of a time in seconds. -/
def exactTime (time : Binary64) : ℚ := time.units / minScale

/-- A row with the value of its time. -/
def exactHit (hit : RateHit) : ExactHit := ⟨hit.key, exactTime hit.time⟩

/-- Where a float holds the start of the window, the same hits are expired. -/
theorem expired_eq_expiry (exact : ExactWindow limiter) {now cutoff : Binary64}
    (starts : cutoff.units = now.units - limiter.windowSeconds * minScale) (hitAt : Binary64) :
    limiter.expired now hitAt = limiter.expiry.expired (exactTime now) (exactTime hitAt) := by
  obtain ⟨window, held, units⟩ := exact
  obtain ⟨same, isFinite, isCutoff⟩ := PyFloat.ofUnits_units cutoff
  have scale : (0 : ℚ) < minScale := by exact_mod_cast PyFloat.minScale_pos
  rw [expired, PyFloat.lt_finite, held, PyFloat.sub, units, ← starts, isFinite, expiry,
    Bool.eq_iff_iff, PyFloat.above_finite, isCutoff, decide_eq_true_iff, exactTime, exactTime, starts,
    div_lt_iff₀ scale, sub_mul, div_mul_cancel₀ _ scale.ne']
  exact_mod_cast Iff.rfl

theorem live_exactHit (exact : ExactWindow limiter) {now cutoff : Binary64}
    (starts : cutoff.units = now.units - limiter.windowSeconds * minScale) (hits : List RateHit) :
    limiter.expiry.live (exactTime now) (hits.map exactHit) =
      (limiter.floatExpiry.live now hits).map exactHit := by
  rw [Expiry.live, Expiry.live, List.filter_map]
  congr 1
  refine List.filter_congr fun hit _ => ?_
  exact congrArg not (expired_eq_expiry exact starts hit.time).symm

theorem counted_exactHit (exact : ExactWindow limiter) {now cutoff : Binary64}
    (starts : cutoff.units = now.units - limiter.windowSeconds * minScale) (bucket : PyStr)
    (hits : List RateHit) :
    limiter.expiry.counted bucket (exactTime now) (hits.map exactHit) =
      (limiter.floatExpiry.counted bucket now hits).map exactHit := by
  rw [Expiry.counted, live_exactHit exact starts, List.filter_map]
  rfl

/-- Where floats hold the window and its start, what `check` answers and leaves is, but for
the seconds to wait, what it would in exact arithmetic. -/
theorem exactCheck_of_check (exact : ExactWindow limiter) {now cutoff : Binary64}
    (starts : cutoff.units = now.units - limiter.windowSeconds * minScale) {bucket : PyStr}
    {hits after : List RateHit} {decision : RateLimitDecision}
    (answered : (limiter.check bucket now).run hits = (.ok decision, after)) :
    ∃ seconds, (limiter.exactCheck bucket (exactTime now)).run (hits.map exactHit) =
      (.ok { decision with retryAfter := seconds }, after.map exactHit) := by
  have counted := counted_exactHit exact starts bucket hits
  have live := live_exactHit exact starts hits
  obtain ⟨window, held, -⟩ := exact
  have fit : bucket ≠ [] ∧ Encodable bucket := by
    by_contra unfit
    rw [not_and_or, not_not] at unfit
    rw [check_of_unfit unfit held] at answered
    cases answered
  rw [check_of_fit fit.1 fit.2 held] at answered
  by_cases room : (limiter.floatExpiry.counted bucket now hits).length < limiter.limit
  · rw [transaction_of_room room] at answered
    cases answered
    have roomy : (limiter.expiry.counted bucket (exactTime now) (hits.map exactHit)).length <
        limiter.limit := by rwa [counted, List.length_map]
    refine ⟨0, ?_⟩
    rw [run_exactCheck_room fit.1 roomy, counted, live, List.length_map, List.map_append]
    rfl
  · rw [transaction_of_full (Nat.not_lt.mp room)] at answered
    have full : limiter.limit ≤
        (limiter.expiry.counted bucket (exactTime now) (hits.map exactHit)).length := by
      rw [counted, List.length_map]
      exact Nat.not_lt.mp room
    obtain ⟨oldest, -, ran⟩ := run_exactCheck_full fit.1 full
    split at answered
    · cases answered
    · cases answered
      refine ⟨limiter.retrySeconds (exactTime now) oldest, ?_⟩
      rw [ran, counted, live, List.length_map]

/-! ## How long to wait -/

/-- The rows of a bucket. -/
def rowsOf (bucket : PyStr) (hits : List ExactHit) : List ExactHit :=
  hits.filter fun hit => decide (hit.key = bucket)

theorem counted_eq_filter (bucket : PyStr) (now : ℚ) (hits : List ExactHit) :
    limiter.expiry.counted bucket now hits =
      (rowsOf bucket hits).filter fun hit => !limiter.expiry.expired now hit.time :=
  List.filter_comm ..

theorem rowsOf_live (bucket : PyStr) (now : ℚ) (hits : List ExactHit) :
    rowsOf bucket (limiter.expiry.live now hits) = limiter.expiry.counted bucket now hits := rfl

theorem counted_sublist (bucket : PyStr) (now : ℚ) (hits : List ExactHit) :
    (limiter.expiry.counted bucket now hits).Sublist (rowsOf bucket hits) := by
  rw [counted_eq_filter]
  exact List.filter_sublist

/-- A call that records nothing in a bucket leaves some of its rows. -/
theorem rowsOf_step {bucket : PyStr} {hits : List ExactHit} {call : ExactHit}
    (others : ∀ other ∈ recorded call (limiter.exactMachine.step hits call).1, other.key ≠ bucket) :
    (rowsOf bucket (limiter.exactMachine.step hits call).2).Sublist (rowsOf bucket hits) := by
  by_cases unnamed : call.key = []
  · rw [step_of_unnamed unnamed]
  · obtain ⟨decision, ran, -, -⟩ := @step_of_named limiter _ unnamed hits
    rw [ran] at others ⊢
    have none : rowsOf bucket (recorded call (.ok decision)) = [] :=
      List.filter_eq_nil_iff.mpr fun other member => by simpa using others other member
    rw [rowsOf, List.filter_append, ← rowsOf, ← rowsOf, none, List.append_nil, rowsOf_live]
    exact counted_sublist bucket call.time hits

theorem rowsOf_run {bucket : PyStr} {hits : List ExactHit} {calls : List ExactHit}
    (others : ∀ call ∈ allowedCalls (limiter.exactMachine.trace hits calls), call.key ≠ bucket) :
    (rowsOf bucket (limiter.exactMachine.run hits calls)).Sublist (rowsOf bucket hits) := by
  induction calls generalizing hits with
  | nil => exact .refl _
  | cons call rest ih =>
      rw [Machine.trace, allowedCalls, List.flatMap_cons] at others
      have here := rowsOf_step fun other member => others other (List.mem_append_left _ member)
      exact (ih fun other member => others other (List.mem_append_right _ member)).trans here

/-- A call that records itself found room. -/
theorem room_of_recorded {call other : ExactHit} {hits : List ExactHit}
    (member : other ∈ recorded call (limiter.exactMachine.step hits call).1) :
    (rowsOf call.key (limiter.exactMachine.step hits call).2).length ≤ limiter.limit := by
  by_cases unnamed : call.key = []
  · rw [step_of_unnamed unnamed] at member
    cases member
  · obtain ⟨decision, ran, allowed, -⟩ := @step_of_named limiter _ unnamed hits
    rw [ran] at member ⊢
    have isAllowed : decision.allowed = true := by
      by_contra refused
      rw [recorded, if_neg refused] at member
      cases member
    have room := allowed.mp isAllowed
    rw [recorded, if_pos isAllowed, rowsOf, List.filter_append, ← rowsOf, rowsOf_live,
      List.filter_cons_of_pos (by simp), List.length_append]
    exact room

/-- No bucket ever has more rows than the limit, whatever the times of the calls are. -/
theorem length_rowsOf_run (limiter : RateLimiter) (bucket : PyStr) (calls : List ExactHit) :
    (rowsOf bucket (limiter.exactMachine.run [] calls)).length ≤ limiter.limit := by
  refine Machine.run_invariant (fun _ _ => True)
    (fun hits => (rowsOf bucket hits).length ≤ limiter.limit) (fun hits call few _ => ?_)
    (Nat.zero_le _) (Machine.allowed_of_forall _ (fun _ _ _ => trivial) _)
  by_cases others : ∀ other ∈ recorded call (limiter.exactMachine.step hits call).1,
      other.key ≠ bucket
  · exact (rowsOf_step others).length_le.trans few
  · push Not at others
    obtain ⟨other, member, rfl⟩ := others
    rw [eq_of_mem_recorded member]
    exact room_of_recorded member

/-- A refusal is honest: after the time it names a call of the bucket is allowed, if none
was allowed in between, and that time is at most a second longer than the window. -/
def Honest (limiter : RateLimiter) (hits : List ExactHit) (bucket : PyStr) (now : ℚ)
    (seconds : Int) : Prop :=
  (∀ between, InOrder between → (∀ call ∈ between, now ≤ call.time ∧ call.time ≤ now + seconds) →
    (∀ call ∈ allowedCalls (limiter.exactMachine.trace hits between), call.key ≠ bucket) →
    ∃ decision, ((limiter.exactCheck bucket (now + seconds)).run
      (limiter.exactMachine.run hits between)).1 = .ok decision ∧ decision.allowed = true) ∧
  (seconds : ℚ) ≤ limiter.windowSeconds + 1

/-- The hit that a refusal waits for leaves the window in less than a second, or a
thousandth of a second or more after a full one; and it does not lie more than that
fudge of a second in the future. -/
def RoundsUp (limiter : RateLimiter) (now oldest : ℚ) : Prop :=
  let wait := oldest + limiter.windowSeconds - now
  (wait < 1 ∨ 1 / 1000 ≤ Int.fract wait) ∧ wait < limiter.windowSeconds + 1001 / 1000

/-- The seconds to wait are more than the wait unless rounding takes its last thousandth. -/
theorem lt_retrySeconds_iff {limiter : RateLimiter} {now oldest : ℚ}
    (counts : now ≤ oldest + limiter.windowSeconds) :
    oldest + limiter.windowSeconds - now < limiter.retrySeconds now oldest ↔
      oldest + limiter.windowSeconds - now < 1 ∨
        1 / 1000 ≤ Int.fract (oldest + limiter.windowSeconds - now) := by
  rw [retrySeconds]
  generalize waits : oldest + limiter.windowSeconds - now = wait
  have nonneg : 0 ≤ wait := by linarith
  rw [truncate, if_pos (by linarith), Int.cast_max, lt_max_iff, Int.cast_one]
  have split := Int.floor_add_fract wait
  constructor
  · intro later
    refine later.imp_right fun longer => ?_
    by_contra short
    push Not at short
    have below : ⌊wait + 999 / 1000⌋ < ⌊wait⌋ + 1 := by
      rw [Int.floor_lt]
      push_cast
      linarith
    have cast : ((⌊wait + 999 / 1000⌋ : Int) : ℚ) ≤ ⌊wait⌋ := by exact_mod_cast Int.lt_add_one_iff.mp below
    have floor := Int.floor_le wait
    linarith
  · intro early
    refine early.imp_right fun long => ?_
    have above : ⌊wait⌋ + 1 ≤ ⌊wait + 999 / 1000⌋ := by
      rw [Int.le_floor]
      push_cast
      linarith
    have cast : (⌊wait⌋ : ℚ) + 1 ≤ ((⌊wait + 999 / 1000⌋ : Int) : ℚ) := by exact_mod_cast above
    linarith [Int.lt_floor_add_one wait]

theorem retrySeconds_le_iff {limiter : RateLimiter} {now oldest : ℚ}
    (counts : now ≤ oldest + limiter.windowSeconds) :
    (limiter.retrySeconds now oldest : ℚ) ≤ limiter.windowSeconds + 1 ↔
      oldest + limiter.windowSeconds - now < limiter.windowSeconds + 1001 / 1000 := by
  rw [retrySeconds, truncate, if_pos (by linarith)]
  have cast : ((limiter.windowSeconds : ℚ) + 1) = ((limiter.windowSeconds + 1 : Int) : ℚ) := by
    push_cast
    rfl
  rw [cast, Int.cast_le, max_le_iff, ← @Int.lt_add_one_iff ⌊_⌋, Int.floor_lt]
  push_cast
  constructor
  · intro ⟨_, short⟩
    linarith
  · intro short
    exact ⟨by omega, by linarith⟩

/-- A bucket whose rows are all counted finds room later when one of them has expired,
and only then, whatever calls come in between that record nothing in it. -/
theorem room_after_iff {hits : List ExactHit} {bucket : PyStr} {now later oldest : ℚ}
    (full : limiter.limit = (limiter.expiry.counted bucket now hits).length)
    (least : ((limiter.expiry.counted bucket now hits).map TimedHit.time).min? = some oldest) :
    (limiter.expiry.counted bucket later (limiter.expiry.live now hits)).length < limiter.limit ↔
      oldest + limiter.windowSeconds < later := by
  obtain ⟨member, smallest⟩ := List.min?_eq_some_iff.mp least
  rw [counted_eq_filter, rowsOf_live, full, List.length_filter_lt_length_iff_exists]
  constructor
  · intro ⟨hit, counts, expires⟩
    have before := smallest hit.time (List.mem_map_of_mem counts)
    have expired : hit.time + limiter.windowSeconds < later := by simpa [expiry] using expires
    linarith
  · intro passed
    obtain ⟨hit, counts, rfl⟩ := List.mem_map.mp member
    exact ⟨hit, counts, by simpa [expiry] using passed⟩

/-- A refusal is honest exactly when the wait for the bucket's oldest hit rounds up. -/
theorem retryAfter_honest_iff (limiter : RateLimiter) (history : List ExactHit) {bucket : PyStr}
    {now : ℚ} {decision : RateLimitDecision} {after : List ExactHit}
    (answered : (limiter.exactCheck bucket now).run (limiter.exactMachine.run [] history) =
      (.ok decision, after))
    (refused : decision.allowed = false) :
    Honest limiter after bucket now decision.retryAfter ↔
      ∀ oldest, ((limiter.expiry.counted bucket now (limiter.exactMachine.run [] history)).map
        TimedHit.time).min? = some oldest → RoundsUp limiter now oldest := by
  generalize tables : limiter.exactMachine.run [] history = hits at answered ⊢
  have named : bucket ≠ [] := by
    rintro rfl
    rw [exactCheck, if_pos rfl] at answered
    cases answered
  have atLimit : limiter.limit ≤ (limiter.expiry.counted bucket now hits).length := by
    by_contra few
    rw [run_exactCheck_room named (Nat.not_le.mp few)] at answered
    cases answered
    cases refused
  have rows := tables ▸ length_rowsOf_run limiter bucket history
  have full : limiter.limit = (limiter.expiry.counted bucket now hits).length :=
    le_antisymm atLimit ((counted_sublist bucket now hits).length_le.trans rows)
  obtain ⟨oldest, least, ran⟩ := run_exactCheck_full named atLimit
  rw [answered] at ran
  cases ran
  have counts : now ≤ oldest + limiter.windowSeconds := by
    obtain ⟨hit, member, rfl⟩ := List.mem_map.mp (List.min?_eq_some_iff.mp least).1
    have young := (Expiry.mem_counted.mp member).2.1
    simp only [expiry, decide_eq_false_iff_not, not_lt] at young
    linarith
  have rounds : (∀ other, ((limiter.expiry.counted bucket now hits).map TimedHit.time).min? =
      some other → RoundsUp limiter now other) ↔ RoundsUp limiter now oldest := by
    simp [least]
  rw [rounds, Honest, RoundsUp, ← lt_retrySeconds_iff counts, ← retrySeconds_le_iff counts]
  refine and_congr_left fun _ => ?_
  have waits : oldest + limiter.windowSeconds - now < limiter.retrySeconds now oldest ↔
      oldest + limiter.windowSeconds < now + limiter.retrySeconds now oldest := by
    constructor <;> intro <;> linarith
  rw [waits, ← room_after_iff full least]
  constructor
  · intro honest
    obtain ⟨later, ran, allowed⟩ := honest [] .nil (by simp) (by simp [allowedCalls, Machine.trace])
    by_contra noRoom
    obtain ⟨_, _, refuses⟩ := run_exactCheck_full named (Nat.not_lt.mp noRoom)
    rw [Machine.run_nil, refuses] at ran
    cases ran
    cases allowed
  · intro room between _ _ others
    have still : (limiter.expiry.counted bucket (now + limiter.retrySeconds now oldest)
        (limiter.exactMachine.run (limiter.expiry.live now hits) between)).length < limiter.limit := by
      rw [counted_eq_filter] at room ⊢
      exact ((rowsOf_run others).filter _).length_le.trans_lt room
    exact ⟨_, congrArg Prod.fst (run_exactCheck_room named still), rfl⟩

/-- A limiter of one call a minute that was called at second zero and half a second
before the minute is over. -/
theorem retryAfter_honest_halfSecond :
    Honest oneAMinute [⟨lit "a", 0⟩] (lit "a") (119 / 2) 1 ↔
      ∀ oldest, ((oneAMinute.expiry.counted (lit "a") (119 / 2)
        (oneAMinute.exactMachine.run [] [⟨lit "a", 0⟩])).map TimedHit.time).min? = some oldest →
          RoundsUp oneAMinute (119 / 2) oldest :=
  @retryAfter_honest_iff oneAMinute [⟨lit "a", 0⟩] (lit "a") (119 / 2) ⟨false, 1, 1, 1⟩ _
    (by decide +kernel) rfl

/-- A second call at the time of the first is told to wait a minute, at whose end the hit
still counts. -/
theorem refused_after_waiting :
    (oneAMinute.exactCheck (lit "a") 0).run (oneAMinute.exactMachine.run [] [⟨lit "a", 0⟩]) =
        (.ok ⟨false, 1, 1, 60⟩, [⟨lit "a", 0⟩]) ∧
      ¬Honest oneAMinute [⟨lit "a", 0⟩] (lit "a") 0 60 := by
  refine ⟨by decide +kernel, fun honest => ?_⟩
  obtain ⟨decision, ran, allowed⟩ := honest.1 [] .nil (by simp) (by simp [allowedCalls, Machine.trace])
  have refused : ((oneAMinute.exactCheck (lit "a") (0 + (60 : Int))).run
      (oneAMinute.exactMachine.run [⟨lit "a", 0⟩] [])).1 = .ok ⟨false, 1, 1, 1⟩ := by
    decide +kernel
  rw [refused] at ran
  cases ran
  cases allowed

end RateLimiter

end HermesMesh.Collab
