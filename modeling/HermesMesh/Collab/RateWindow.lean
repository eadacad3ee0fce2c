import HermesMesh.Collab.RateLimit

/-!
# The limiter as a sliding window

One call of `check` after the other, at times that do not go back.  A call purges the
hits of every bucket, but none that a later call would still count, so that the calls
decide as a limiter would that never forgets a hit and looks at the window that ends with
the call.  The start of that window is the difference that `check` computes, in floats.
-/

namespace HermesMesh.Collab

open Python Foundation

deriving instance DecidableEq for RateLimitDecision

namespace RateLimiter

/-- What a call records. -/
def recorded {τ : Type} (call : TimedHit PyStr τ) :
    Except Fault RateLimitDecision → List (TimedHit PyStr τ)
  | .ok decision => if decision.allowed then [call] else []
  | .error _ => []

theorem eq_of_mem_recorded {τ : Type} {call other : TimedHit PyStr τ}
    {output : Except Fault RateLimitDecision} (member : other ∈ recorded call output) :
    other = call := by
  unfold recorded at member
  split at member
  · split at member
    · exact List.mem_singleton.mp member
    · cases member
  · cases member

/-- The calls of a run that were allowed. -/
def allowedCalls {τ : Type}
    (events : List (Event (List (TimedHit PyStr τ)) (TimedHit PyStr τ)
      (Except Fault RateLimitDecision))) : List (TimedHit PyStr τ) :=
  events.flatMap fun event => recorded event.input event.output

variable (limiter : RateLimiter)

/-- Calls of `check`, one after the other. -/
def callMachine : Machine (List RateHit) RateHit (Except Fault RateLimitDecision) where
  step hits call := (limiter.check call.key call.time).run hits

/-- `hit_at < now - window_seconds`, in floats -/
def floatExpiry : Expiry Binary64 where
  expired := limiter.expired
  mono := expired_mono

/-- The hits of a bucket in the window that ends at a time, both ends included; it starts
at `now - window_seconds`. -/
def hitsInWindow (bucket : PyStr) (now : Binary64) (hits : List RateHit) : List RateHit :=
  hits.filter fun hit => decide (hit.key = bucket) &&
    (PyFloat.le (.sub (.finite now) limiter.window) (.finite hit.time) &&
      PyFloat.le (.finite hit.time) (.finite now))

variable {limiter}

/-! ## One call -/

theorem transaction_eq (bucket : PyStr) (now : Binary64) :
    limiter.transaction bucket now = do
      let hits ← .read
      let counted := limiter.floatExpiry.counted bucket now hits
      if limiter.limit ≤ counted.length then
        let seconds ← .ofOption .overflowError (limiter.retryAfter? now (counted.map TimedHit.time))
        .modify fun _ => limiter.floatExpiry.live now hits
        return ⟨false, counted.length, limiter.limit, max 0 seconds⟩
      else
        .modify fun _ => limiter.floatExpiry.live now hits ++ [⟨bucket, now⟩]
        return ⟨true, counted.length + 1, limiter.limit, 0⟩ := rfl

theorem check_of_unfit {bucket : PyStr} (unfit : bucket = [] ∨ ¬Encodable bucket)
    {window : Binary64} (held : limiter.window = .finite window) (now : Binary64)
    (hits : List RateHit) : (limiter.check bucket now).run hits = (.error .valueError, hits) := by
  by_cases unnamed : bucket = []
  · rw [check, if_pos unnamed, Action.run_raise]
  · have none : encodeUtf8 bucket = none := by
      refine Option.eq_none_iff_forall_ne_some.mpr fun bytes encoded => ?_
      exact (unfit.resolve_left unnamed) (encodable_iff.mpr ⟨bytes, encoded⟩)
    rw [check, if_neg unnamed, held, none]
    rfl

section Fit

variable {bucket : PyStr} {window now : Binary64} {hits : List RateHit}

theorem check_of_fit (named : bucket ≠ []) (encodable : Encodable bucket)
    (held : limiter.window = .finite window) :
    limiter.check bucket now = limiter.transaction bucket now := by
  obtain ⟨bytes, encoded⟩ := encodable_iff.mp encodable
  rw [check, if_neg named, held, encoded]

/-- A call that counts fewer hits than the limit is allowed and recorded. -/
theorem transaction_of_room
    (room : (limiter.floatExpiry.counted bucket now hits).length < limiter.limit) :
    (limiter.transaction bucket now).run hits =
      (.ok ⟨true, (limiter.floatExpiry.counted bucket now hits).length + 1, limiter.limit, 0⟩,
        limiter.floatExpiry.live now hits ++ [⟨bucket, now⟩]) := by
  rw [transaction_eq, Action.run_bind_ok (Action.run_read _)]
  dsimp only
  rw [if_neg (Nat.not_le.mpr room), Action.run_bind_ok (Action.run_modify _ _)]
  rfl

/-- A call that counts as many hits as the limit is refused, or raises and changes nothing
where its seconds to wait overflow. -/
theorem transaction_of_full
    (full : limiter.limit ≤ (limiter.floatExpiry.counted bucket now hits).length) :
    (limiter.transaction bucket now).run hits =
      match limiter.retryAfter? now ((limiter.floatExpiry.counted bucket now hits).map TimedHit.time) with
      | none => (.error .overflowError, hits)
      | some seconds =>
          (.ok ⟨false, (limiter.floatExpiry.counted bucket now hits).length, limiter.limit,
            max 0 seconds⟩, limiter.floatExpiry.live now hits) := by
  rw [transaction_eq, Action.run_bind_ok (Action.run_read _)]
  dsimp only
  rw [if_pos full]
  cases limiter.retryAfter? now ((limiter.floatExpiry.counted bucket now hits).map TimedHit.time) with
  | none => rw [Action.run_bind, Action.run_ofOption_none]
  | some seconds =>
      rw [Action.run_bind_ok (Action.run_ofOption_some _ _ _),
        Action.run_bind_ok (Action.run_modify _ _)]
      rfl

end Fit

/-- A call answers by the hits it counts and records nothing but itself. -/
theorem purges_callMachine {window : Binary64} (held : limiter.window = .finite window) :
    Expiry.Purges limiter.floatExpiry limiter.callMachine recorded where
  answers := by
    intro call left right same
    by_cases fit : call.key ≠ [] ∧ Encodable call.key
    · simp only [callMachine, check_of_fit fit.1 fit.2 held]
      by_cases room : (limiter.floatExpiry.counted call.key call.time left).length < limiter.limit
      · rw [transaction_of_room room, transaction_of_room (same ▸ room), same]
      · have full := Nat.not_lt.mp room
        rw [transaction_of_full full, transaction_of_full (same ▸ full), same]
        split <;> rfl
    · have unfit : call.key = [] ∨ ¬Encodable call.key := by rwa [not_and_or, not_not] at fit
      simp only [callMachine, check_of_unfit unfit held]
  table := by
    intro log call
    by_cases fit : call.key ≠ [] ∧ Encodable call.key
    · simp only [callMachine, check_of_fit fit.1 fit.2 held]
      by_cases room : (limiter.floatExpiry.counted call.key call.time log).length < limiter.limit
      · right
        rw [transaction_of_room room]
        rfl
      · rw [transaction_of_full (Nat.not_lt.mp room)]
        split
        · exact .inl ⟨rfl, rfl⟩
        · exact .inr (List.append_nil _).symm
    · have unfit : call.key = [] ∨ ¬Encodable call.key := by rwa [not_and_or, not_not] at fit
      have raised := check_of_unfit unfit held call.time log
      exact .inl ⟨congrArg Prod.snd raised, congrArg (fun ran => recorded call ran.1) raised⟩
  own _ _ _ member := eq_of_mem_recorded member

/-! ## The limiter that forgets nothing -/

theorem above_eq_not_le {x : PyFloat} (number : x ≠ .nan) (y : Binary64) :
    PyFloat.le x (.finite y) = !PyFloat.lt (.finite y) x := by
  rw [PyFloat.lt_finite]
  cases x with
  | nan => exact absurd rfl number
  | inf neg => cases neg <;> rfl
  | finite x => simp only [PyFloat.le, PyFloat.above, ← decide_not, Int.not_lt]

/-- What counts at a time is what lies in the window that ends there. -/
theorem counted_eq_hitsInWindow {window : Binary64} (held : limiter.window = .finite window)
    {bucket : PyStr} {now : Binary64} {hits : List RateHit} (past : ∀ hit ∈ hits, hit.time ≤ now) :
    limiter.floatExpiry.counted bucket now hits = limiter.hitsInWindow bucket now hits := by
  rw [Expiry.counted, Expiry.live, List.filter_filter, hitsInWindow]
  refine List.filter_congr fun hit member => ?_
  have cutoff : PyFloat.sub (.finite now) limiter.window ≠ .nan := by
    rw [held, PyFloat.sub]
    exact PyFloat.ofUnits_ne_nan _
  have before : PyFloat.le (.finite hit.time) (.finite now) = true := decide_eq_true (past hit member)
  rw [above_eq_not_le cutoff, before, Bool.and_true]
  rfl

/-- The verdict of a call on the hits in its window. -/
structure Judges (limiter : RateLimiter) (now : Binary64) (inWindow : List RateHit)
    (answer : Except Fault RateLimitDecision) : Prop where
  allowed : (∃ decision, answer = .ok decision ∧ decision.allowed = true) ↔
    inWindow.length < limiter.limit
  count : ∀ decision, answer = .ok decision →
    decision.count = inWindow.length + if decision.allowed then 1 else 0
  raises : ∀ fault, answer = .error fault →
    fault = .overflowError ∧ limiter.retryAfter? now (inWindow.map TimedHit.time) = none

theorem judges_transaction (bucket : PyStr) (now : Binary64) (hits : List RateHit) :
    Judges limiter now (limiter.floatExpiry.counted bucket now hits)
      ((limiter.transaction bucket now).run hits).1 := by
  by_cases room : (limiter.floatExpiry.counted bucket now hits).length < limiter.limit
  · rw [transaction_of_room room]
    refine ⟨iff_of_true ⟨_, rfl, rfl⟩ room, fun decision answered => ?_, fun fault raised => ?_⟩
    · cases answered
      rfl
    · cases raised
  · rw [transaction_of_full (Nat.not_lt.mp room)]
    split
    · next overflows =>
        refine ⟨iff_of_false (fun admitted => ?_) room, fun decision answered => ?_,
          fun fault raised => ?_⟩
        · obtain ⟨decision, answered, -⟩ := admitted
          cases answered
        · cases answered
        · cases raised
          exact ⟨rfl, overflows⟩
    · refine ⟨iff_of_false (fun admitted => ?_) room, fun decision answered => ?_,
        fun fault raised => ?_⟩
      · obtain ⟨decision, answered, allowed⟩ := admitted
        cases answered
        cases allowed
      · cases answered
        rfl
      · cases raised

/-- At times that do not go back, a call is allowed exactly when fewer calls of its bucket
than the limit were allowed within the window that ends with it, and reports their
number; what other buckets do changes no answer. -/
theorem check_slidingWindow {limiter : RateLimiter} {window : Binary64}
    (held : limiter.window = .finite window) {calls : List RateHit} (inOrder : InOrder calls) :
    (∀ past call rest, calls = past ++ call :: rest →
      let table := limiter.callMachine.run [] past
      let answered := limiter.callMachine.step table call
      (call.key ≠ [] → Encodable call.key →
        Judges limiter call.time (limiter.hitsInWindow call.key call.time
          (allowedCalls (limiter.callMachine.trace [] past))) answered.1) ∧
      (call.key = [] ∨ ¬Encodable call.key → answered = (.error .valueError, table))) ∧
    ∀ bucket, Expiry.answersOf bucket (limiter.callMachine.trace [] calls) =
      Expiry.answersOf bucket (limiter.callMachine.trace []
        (calls.filter fun call => decide (call.key = bucket))) := by
  have purges := purges_callMachine held
  refine ⟨fun past call rest split => ⟨fun named encodable => ?_, fun unfit => ?_⟩,
    purges.answersOf_alone inOrder⟩
  · rw [split] at inOrder
    obtain ⟨before, -, ordered⟩ := inOrder_append.mp inOrder
    have earlier : ∀ other ∈ past, other.time ≤ call.time :=
      fun other member => ordered other member call List.mem_cons_self
    have same := purges.sameFrom_run call.key before earlier call.time le_rfl
    have within := @counted_eq_hitsInWindow _ _ held call.key _ _
      (@Expiry.Purges.time_le_of_recorded _ _ _ _ _ _ _ _ _ purges _ earlier [])
    rw [within] at same
    have judged := @judges_transaction limiter call.key call.time (limiter.callMachine.run [] past)
    rw [same] at judged
    simp only [callMachine, check_of_fit named encodable held]
    exact judged
  · exact check_of_unfit unfit held _ _

theorem sixBits_59 : 32 ≤ 59 ∧ 59 < 64 := by decide

theorem sixBits_60 : 32 ≤ 60 ∧ 60 < 64 := by decide

/-- Two calls of a bucket a minute apart, and one of another between them. -/
def minuteApart : List RateHit :=
  [⟨lit "b", zeroTime⟩, ⟨lit "c", sixBits 59 sixBits_59⟩, ⟨lit "b", sixBits 60 sixBits_60⟩]

theorem inOrder_minuteApart : InOrder minuteApart := by
  have ordered : sixBits 59 (by decide) ≤ sixBits 60 (by decide) := by
    change (sixBits 59 (by decide)).units ≤ (sixBits 60 (by decide)).units
    rw [units_sixBits, units_sixBits]
    exact Int.mul_le_mul_of_nonneg_right (by decide) (Int.natCast_nonneg _)
  refine .cons (fun time member => ?_) (.cons (fun time member => ?_) (List.pairwise_singleton _ _))
  · rcases List.mem_cons.mp member with rfl | last
    · exact zeroTime_le_sixBits (by decide)
    · rw [List.mem_singleton.mp last]
      exact zeroTime_le_sixBits (by decide)
  · rw [List.mem_singleton.mp member]
    exact ordered

theorem check_slidingWindow_minuteApart :
    (∀ past call rest, minuteApart = past ++ call :: rest →
      let table := oneAMinute.callMachine.run [] past
      let answered := oneAMinute.callMachine.step table call
      (call.key ≠ [] → Encodable call.key →
        Judges oneAMinute call.time (oneAMinute.hitsInWindow call.key call.time
          (allowedCalls (oneAMinute.callMachine.trace [] past))) answered.1) ∧
      (call.key = [] ∨ ¬Encodable call.key → answered = (.error .valueError, table))) ∧
    ∀ bucket, Expiry.answersOf bucket (oneAMinute.callMachine.trace [] minuteApart) =
      Expiry.answersOf bucket (oneAMinute.callMachine.trace []
        (minuteApart.filter fun call => decide (call.key = bucket))) :=
  check_slidingWindow window_oneAMinute inOrder_minuteApart

/-! ## Rounded windows -/

/-- One call every three seconds. -/
def threeSeconds : RateLimiter := ⟨1, 3, Nat.one_pos, Nat.succ_pos 2⟩

theorem canonical_farHit : Canonical (2 ^ 52) 1076 := by decide

/-- A time after which floats are four seconds apart. -/
def farHit : Binary64 := ⟨false, 2 ^ 52, 1076, canonical_farHit⟩

/-- Four seconds later. -/
def farCall : Binary64 := ⟨false, 2 ^ 52 + 1, 1076, by decide, by decide, .inr (by decide)⟩

/-- A text that UTF-8 cannot hold. -/
def loneBucket : PyStr := [⟨0xD800, by decide⟩]

/-- Four seconds after a hit the window of three seconds starts, rounded, at that hit, and
the call is refused; and a bucket with a lone surrogate is never allowed. -/
theorem rounded_window_refuses :
    farHit ≤ farCall ∧ farHit.units < farCall.units - threeSeconds.windowSeconds * minScale ∧
      (threeSeconds.callMachine.trace [] [⟨lit "b", farHit⟩, ⟨lit "b", farCall⟩]).map Event.output =
        [.ok ⟨true, 1, 1, 0⟩, .ok ⟨false, 1, 1, 1⟩] ∧
      threeSeconds.callMachine.step [] ⟨loneBucket, farHit⟩ = (.error .valueError, []) := by
  refine ⟨?_, ?_, ?_, ?_⟩
  · change farHit.units ≤ farCall.units
    decide +kernel
  · decide +kernel
  · decide +kernel
  · decide +kernel

end RateLimiter

end HermesMesh.Collab
