import HermesMesh.Python.Float

/-!
# Float arithmetic and its order

Subtraction rounds the exact difference to the nearest binary64 number; rounding
keeps the order of what it rounds.  Comparisons with a NaN are false, and the two zeros
are equal.
-/

namespace HermesMesh.Python

theorem roundHalfEven_bounds (numer denom : Nat) (pos : 0 < denom) :
    2 * (roundHalfEven numer denom * denom) ≤ 2 * numer + denom ∧
      2 * numer ≤ 2 * (roundHalfEven numer denom * denom) + denom := by
  have split := Nat.div_add_mod numer denom
  have below := Nat.mod_lt numer pos
  have product : denom * (numer / denom) = numer / denom * denom := Nat.mul_comm _ _
  simp only [roundHalfEven]
  split
  · next up => rw [Nat.add_mul]; omega
  · next down => omega

theorem roundHalfEven_mono {left right denom : Nat} (le : left ≤ right) :
    roundHalfEven left denom ≤ roundHalfEven right denom := by
  by_contra greater
  have quotients := Nat.div_le_div_right (c := denom) le
  have leftSplit := Nat.div_add_mod left denom
  have rightSplit := Nat.div_add_mod right denom
  simp only [roundHalfEven] at greater
  -- the quotients agree, so the remainders are ordered and round the same way
  have same : left / denom = right / denom := by
    split at greater <;> split at greater <;> omega
  rw [same] at leftSplit greater
  split at greater <;> split at greater <;> omega

namespace PyFloat

section Rounding

variable {numer denom : Nat}

theorem mantAt_mono {left right : Nat} (le : left ≤ right) (exp : Nat) :
    mantAt left denom exp ≤ mantAt right denom exp :=
  roundHalfEven_mono (Nat.mul_le_mul_right _ le)

/-- When a significand fits at the least exponent, it fills its 53 bits there or the
exponent is that of the subnormals. -/
theorem canonical_of_least (pos : 0 < denom) {exp : Nat} (inRange : exp < expCount)
    (fits : mantAt numer denom exp < 2 ^ 53)
    (least : ∀ smaller < exp, 2 ^ 53 ≤ mantAt numer denom smaller) :
    Canonical (mantAt numer denom exp) exp := by
  refine ⟨fits, inRange, ?_⟩
  cases exp with
  | zero => exact .inl rfl
  | succ exp =>
      right
      have unit : 0 < denom * 2 ^ exp := Nat.mul_pos pos (by positivity)
      have coarse := (roundHalfEven_bounds (numer * minScale) (denom * 2 ^ exp) unit).1
      have fine := (roundHalfEven_bounds (numer * minScale) (denom * 2 ^ (exp + 1))
        (by positivity)).2
      have large := least exp (Nat.lt_succ_self exp)
      simp only [mantAt] at large ⊢
      have doubled : denom * 2 ^ (exp + 1) = 2 * (denom * 2 ^ exp) := by ring
      rw [doubled] at fine ⊢
      by_contra small
      have coarser := Nat.mul_le_mul_right (denom * 2 ^ exp) large
      have finer := Nat.mul_le_mul_right (2 * (denom * 2 ^ exp)) (Nat.le_of_lt_succ
        (Nat.lt_of_not_le small |>.trans_eq (by norm_num : 2 ^ 52 = (2 ^ 52 - 1).succ)))
      generalize denom * 2 ^ exp = step at *
      omega

/-- The exponent of a rounding is the first at which the significand fits. -/
theorem expOf_eq_some (pos : 0 < denom) {exp : Nat} :
    expOf numer denom = some exp ↔
      exp < expCount ∧ mantAt numer denom exp < 2 ^ 53 ∧
        ∀ smaller < exp, 2 ^ 53 ≤ mantAt numer denom smaller := by
  rw [expOf, List.find?_range_eq_some]
  constructor
  · rintro ⟨canonical, member, none⟩
    have canonical := of_decide_eq_true canonical
    refine ⟨List.mem_range.mp member, canonical.1, fun smaller less => ?_⟩
    induction smaller using Nat.strong_induction_on with
    | _ smaller ih =>
        by_contra fits
        have first := canonical_of_least pos (less.trans (List.mem_range.mp member))
          (Nat.lt_of_not_le fits) fun other below => ih other below (below.trans less)
        simpa [first] using none smaller less
  · rintro ⟨inRange, fits, least⟩
    refine ⟨decide_eq_true (canonical_of_least pos inRange fits least),
      List.mem_range.mpr inRange, fun smaller less => ?_⟩
    have large := least smaller less
    have tooLarge : ¬Canonical (mantAt numer denom smaller) smaller := fun canonical =>
      absurd canonical.1 (Nat.not_lt.mpr large)
    simpa using tooLarge

/-- The magnitude a rounding has, in units of the least subnormal; `none` overflows. -/
@[irreducible] def rounded (numer denom : Nat) : Option Nat :=
  (expOf numer denom).map fun exp => mantAt numer denom exp * 2 ^ exp

theorem rounded_of_expOf {exp : Nat} (found : expOf numer denom = some exp) :
    rounded numer denom = some (mantAt numer denom exp * 2 ^ exp) := by
  unfold rounded
  rw [found, Option.map_some]

/-- Rounding keeps the order of magnitudes. -/
theorem rounded_mono {left right : Nat} (pos : 0 < denom) (le : left ≤ right) {value : Nat}
    (found : rounded right denom = some value) :
    ∃ smaller, rounded left denom = some smaller ∧ smaller ≤ value := by
  unfold rounded at found
  obtain ⟨exp, isExp, rfl⟩ := Option.map_eq_some_iff.mp found
  obtain ⟨inRange, fits, least⟩ := (expOf_eq_some pos).mp isExp
  have leftFits := (mantAt_mono le exp).trans_lt fits
  have some : ∃ first, mantAt left denom first < 2 ^ 53 := ⟨exp, leftFits⟩
  have firstLe : Nat.find some ≤ exp := Nat.find_le leftFits
  have firstIs : expOf left denom = .some (Nat.find some) :=
    (expOf_eq_some pos).mpr ⟨firstLe.trans_lt inRange, Nat.find_spec some,
      fun smaller less => Nat.not_lt.mp (Nat.find_min some less)⟩
  refine ⟨mantAt left denom (Nat.find some) * 2 ^ Nat.find some, rounded_of_expOf firstIs, ?_⟩
  rcases Nat.eq_or_lt_of_le firstLe with same | less
  · rw [same]
    exact Nat.mul_le_mul_right _ (mantAt_mono le exp)
  · have full : 2 ^ 52 ≤ mantAt right denom exp := by
      rcases (canonical_of_least pos inRange fits least).2.2 with zero | full
      · omega
      · exact full
    have step : 2 ^ (Nat.find some + 1) ≤ 2 ^ exp := Nat.pow_le_pow_right (by decide) less
    calc mantAt left denom (Nat.find some) * 2 ^ Nat.find some
        ≤ 2 ^ 53 * 2 ^ Nat.find some := Nat.mul_le_mul_right _ (Nat.find_spec some).le
      _ = 2 ^ 52 * 2 ^ (Nat.find some + 1) := by ring
      _ ≤ mantAt right denom exp * 2 ^ exp := Nat.mul_le_mul full step

end Rounding

end PyFloat

/-- The value of a float in units of the least subnormal. -/
def Binary64.units (x : Binary64) : Int :=
  if x.neg then -((x.mant * 2 ^ x.exp : Nat) : Int) else ((x.mant * 2 ^ x.exp : Nat) : Int)

/-- Floats are ordered by their values. -/
instance : Preorder Binary64 where
  le x y := x.units ≤ y.units
  le_refl x := le_refl x.units
  le_trans _ _ _ first second := Int.le_trans first second

namespace PyFloat

/-! ## Arithmetic -/

/-- The float nearest to a number of units. -/
@[irreducible] def ofUnits (units : Int) : PyFloat := ofRatio (decide (units < 0)) units.natAbs minScale

/-- `x - y` -/
def sub : PyFloat → PyFloat → PyFloat
  | .nan, _ | _, .nan => .nan
  | .inf left, .inf right => if left = right then .nan else .inf left
  | .inf neg, .finite _ => .inf neg
  | .finite _, .inf neg => .inf !neg
  | .finite x, .finite y => ofUnits (x.units - y.units)

/-- `abs(x)` -/
def abs : PyFloat → PyFloat
  | .nan => .nan
  | .inf _ => .inf false
  | .finite x => .finite { x with neg := false }

/-- `x + y` -/
def add : PyFloat → PyFloat → PyFloat
  | .nan, _ | _, .nan => .nan
  | .inf left, .inf right => if left = right then .inf left else .nan
  | .inf neg, .finite _ | .finite _, .inf neg => .inf neg
  | .finite x, .finite y => ofUnits (x.units + y.units)

/-- The value lies above a number of units. -/
def above (x : PyFloat) (bound : Int) : Bool :=
  match x with
  | .nan => false
  | .inf neg => !neg
  | .finite x => decide (bound < x.units)

/-- `x > n`, compared exactly. -/
def gtInt (x : PyFloat) (n : Int) : Bool := x.above (n * minScale)

/-- `x < y` -/
def lt : PyFloat → PyFloat → Bool
  | .nan, _ | _, .nan => false
  | .inf neg, y => neg && decide (y ≠ .inf true)
  | .finite x, y => y.above x.units

/-- `float(n)`; an overflow is infinite here and an `OverflowError` there. -/
@[irreducible] def ofInt (n : Int) : PyFloat := ofRatio (decide (n < 0)) n.natAbs 1

/-- `int(x)`, towards zero; `none` is an `OverflowError` or `ValueError`. -/
def toInt? : PyFloat → Option Int
  | .finite x => some (x.units.tdiv minScale)
  | _ => none

/-- `x <= n`, compared exactly. -/
def leInt (x : PyFloat) (n : Int) : Bool :=
  match x with
  | .nan => false
  | .inf neg => neg
  | .finite x => decide (x.units ≤ n * minScale)

/-- `x <= y` -/
def le : PyFloat → PyFloat → Bool
  | .nan, _ | _, .nan => false
  | .inf true, _ | _, .inf false => true
  | .inf false, _ | _, .inf true => false
  | .finite x, .finite y => decide (x.units ≤ y.units)

theorem leInt_eq_not_gtInt {x : PyFloat} (number : x ≠ .nan) (n : Int) :
    x.leInt n = !x.gtInt n := by
  cases x with
  | nan => exact absurd rfl number
  | inf neg => simp [leInt, gtInt, above]
  | finite x => simp only [leInt, gtInt, above, ← decide_not, Int.not_lt]

theorem ofRatio_ne_nan (neg : Bool) (numer denom : Nat) : ofRatio neg numer denom ≠ .nan := by
  unfold ofRatio
  cases expOf numer denom with
  | none => exact fun same => PyFloat.noConfusion same
  | some exp =>
      rw [Option.elim_some, ofParts]
      split
      · exact fun same => PyFloat.noConfusion same
      · exact fun same => PyFloat.noConfusion same

theorem ofUnits_ne_nan (units : Int) : ofUnits units ≠ .nan := by
  unfold ofUnits
  exact ofRatio_ne_nan _ _ _

theorem abs_ne_nan {x : PyFloat} (number : x ≠ .nan) : x.abs ≠ .nan := by
  cases x with
  | nan => exact absurd rfl number
  | inf neg =>
      rw [abs]
      exact PyFloat.noConfusion
  | finite x =>
      rw [abs]
      exact PyFloat.noConfusion

theorem minScale_pos : 0 < minScale := by
  unfold minScale
  exact Nat.two_pow_pos _

theorem lt_finite (x : Binary64) (y : PyFloat) : lt (.finite x) y = y.above x.units := by
  cases y <;> rfl

theorem above_inf (neg : Bool) (bound : Int) : (inf neg).above bound = !neg := rfl

theorem above_finite (x : Binary64) (bound : Int) :
    (finite x).above bound = true ↔ bound < x.units := by
  unfold above
  exact decide_eq_true_iff

/-- A ratio overflows, or is rounded to a float of its sign. -/
theorem ofRatio_cases (neg : Bool) (numer : Nat) {denom : Nat} (pos : 0 < denom) :
    (rounded numer denom = none ∧ ofRatio neg numer denom = .inf neg) ∨
      ∃ x : Binary64, rounded numer denom = some (x.mant * 2 ^ x.exp) ∧
        ofRatio neg numer denom = .finite x ∧ x.neg = neg := by
  unfold rounded ofRatio
  cases found : expOf numer denom with
  | none =>
      left
      rw [Option.map_none, Option.elim_none]
      exact ⟨rfl, rfl⟩
  | some exp =>
      obtain ⟨inRange, fits, least⟩ := (expOf_eq_some pos).mp found
      have canonical := canonical_of_least pos inRange fits least
      rw [Option.map_some, Option.elim_some, ofParts, dif_pos canonical]
      generalize mantAt numer denom exp = mant at canonical ⊢
      exact .inr ⟨⟨neg, mant, exp, canonical⟩, rfl, rfl, rfl⟩

/-- A number of units whose magnitude is rounded lies above a bound; without a
rounded magnitude it overflows. -/
def Exceeds (bound units : Int) : Option Nat → Prop
  | none => 0 ≤ units
  | some value => bound < if units < 0 then -(value : Int) else value

theorem exceeds_mono {bound small large : Int} {smallValue largeValue : Option Nat}
    (ordered : small ≤ large)
    (shrinks : large.natAbs ≤ small.natAbs → ∀ value, smallValue = some value →
      ∃ other, largeValue = some other ∧ other ≤ value)
    (grows : small.natAbs ≤ large.natAbs → ∀ value, largeValue = some value →
      ∃ other, smallValue = some other ∧ other ≤ value)
    (above : Exceeds bound small smallValue) : Exceeds bound large largeValue := by
  by_cases negative : small < 0
  · cases smallValue with
    | none => exact absurd negative (Int.not_lt.mpr above)
    | some value =>
        simp only [Exceeds, negative, if_true] at above
        by_cases largeNegative : large < 0
        · obtain ⟨other, rfl, le⟩ := shrinks (by omega) value rfl
          simp only [Exceeds, largeNegative, if_true]
          omega
        · cases largeValue with
          | none => exact Int.not_lt.mp largeNegative
          | some other =>
              simp only [Exceeds, largeNegative, if_false]
              omega
  · have largePositive : ¬large < 0 := by omega
    cases largeValue with
    | none => exact Int.not_lt.mp largePositive
    | some other =>
        obtain ⟨value, rfl, le⟩ := grows (by omega) other rfl
        simp only [Exceeds, negative, largePositive, if_false] at above ⊢
        omega

/-- The comparison of a rounded number of units with a bound. -/
theorem above_ofUnits (units bound : Int) :
    (ofUnits units).above bound = true ↔
      Exceeds bound units (rounded units.natAbs minScale) := by
  unfold ofUnits
  rcases ofRatio_cases (decide (units < 0)) units.natAbs minScale_pos with
    ⟨overflows, isInf⟩ | ⟨x, isRounded, isFinite, sign⟩
  · rw [overflows, isInf, above_inf]
    simp only [Exceeds, Bool.not_eq_true', decide_eq_false_iff_not, Int.not_lt]
  · rw [isRounded, isFinite, above_finite, Binary64.units, sign]
    simp only [decide_eq_true_eq, Exceeds]

/-- A larger number of units rounds to a number above whatever the smaller one is above. -/
theorem above_ofUnits_mono {small large bound : Int} (ordered : small ≤ large)
    (isAbove : (ofUnits small).above bound = true) : (ofUnits large).above bound = true :=
  (above_ofUnits large bound).mpr (exceeds_mono ordered
    (fun le _ found => rounded_mono minScale_pos le found)
    (fun le _ found => rounded_mono minScale_pos le found) ((above_ofUnits small bound).mp isAbove))

/-- What lies below the difference from a moment lies below it from every later one. -/
theorem above_sub_mono {early late past : Binary64} (ordered : early.units ≤ late.units)
    {bound : Int} (isAbove : (sub (.finite early) (.finite past)).above bound = true) :
    (sub (.finite late) (.finite past)).above bound = true :=
  above_ofUnits_mono (by omega) isAbove

/-- The units of a float are rounded to its own value. -/
theorem ofUnits_units (x : Binary64) : ∃ y, ofUnits x.units = .finite y ∧ y.units = x.units := by
  have magnitude : x.units.natAbs = x.mant * 2 ^ x.exp := by
    unfold Binary64.units
    split <;> omega
  refine ⟨{ x with neg := decide (x.units < 0) }, ?_, ?_⟩
  · unfold ofUnits
    exact ofRatio_exact { x with neg := decide (x.units < 0) } x.units.natAbs minScale minScale_pos
      (by rw [magnitude])
  · rw [Binary64.units]
    simp only [decide_eq_true_eq, ← magnitude]
    split <;> omega

/-- Rounding does not carry a difference past a float that it does not exceed. -/
theorem not_above_sub {now span hit : Binary64} (within : now.units - span.units ≤ hit.units) :
    (sub (.finite now) (.finite span)).above hit.units = false := by
  rw [Bool.eq_false_iff]
  intro isAbove
  obtain ⟨same, isFinite, units⟩ := ofUnits_units hit
  have aboveItself := above_ofUnits_mono within isAbove
  rw [isFinite, above_finite, units] at aboveItself
  exact lt_irrefl _ aboveItself

theorem gtInt_abs {x : PyFloat} {n : Int} (isAbove : x.gtInt n = true) :
    x.abs.gtInt n = true := by
  cases x with
  | nan => exact isAbove
  | inf neg => rfl
  | finite x =>
      rw [gtInt, above_finite] at isAbove
      rw [abs, gtInt, above_finite]
      refine isAbove.trans_le ?_
      unfold Binary64.units
      split
      · have nonneg : (0 : Int) ≤ (x.mant * 2 ^ x.exp : Nat) := Int.natCast_nonneg _
        simp only [Bool.false_eq_true, if_false]
        omega
      · exact le_of_eq (if_neg (by simp)).symm

theorem lt_of_scaled {small large scale value : Int} (nonneg : 0 ≤ scale) (ordered : small ≤ large)
    (isAbove : large * scale < value) : small * scale < value :=
  (Int.mul_le_mul_of_nonneg_right ordered nonneg).trans_lt isAbove

theorem gtInt_of_le {x : PyFloat} {small large : Int} (ordered : small ≤ large)
    (isAbove : x.gtInt large = true) : x.gtInt small = true := by
  cases x with
  | nan => exact isAbove
  | inf neg => exact isAbove
  | finite x =>
      rw [gtInt, above_finite] at isAbove ⊢
      exact lt_of_scaled (Int.natCast_nonneg minScale) ordered isAbove

theorem units_abs (x : Binary64) : ({ x with neg := false } : Binary64).units = |x.units| := by
  have nonneg : (0 : Int) ≤ (x.mant * 2 ^ x.exp : Nat) := Int.natCast_nonneg _
  unfold Binary64.units
  dsimp only
  rw [if_neg Bool.false_ne_true]
  split
  · rw [abs_neg, abs_of_nonneg nonneg]
  · rw [abs_of_nonneg nonneg]

theorem abs_gtInt_finite (x : Binary64) (n : Int) :
    (finite x).abs.gtInt n = true ↔ n * minScale < |x.units| := by
  rw [abs, gtInt, above_finite, units_abs]

/-- Taking the sign from a ratio. -/
theorem abs_ofRatio (neg : Bool) (numer denom : Nat) :
    (ofRatio neg numer denom).abs = ofRatio false numer denom := by
  unfold ofRatio
  cases expOf numer denom with
  | none => rfl
  | some exp =>
      rw [Option.elim_some, Option.elim_some]
      generalize mantAt numer denom exp = mant
      by_cases canonical : Canonical mant exp
      · rw [ofParts, ofParts, dif_pos canonical, dif_pos canonical]
        rfl
      · rw [ofParts, ofParts, dif_neg canonical, dif_neg canonical]
        rfl

theorem abs_ofUnits (units : Int) : (ofUnits units).abs = ofUnits |units| := by
  unfold ofUnits
  rw [abs_ofRatio, Int.natAbs_abs, decide_eq_false (Int.not_lt.mpr (abs_nonneg units))]

/-- Rounding does not carry a distance past a float that it does not exceed. -/
theorem not_above_abs_sub {now past span : Binary64} (near : |now.units - past.units| ≤ span.units) :
    (sub (.finite now) (.finite past)).abs.above span.units = false := by
  rw [sub, abs_ofUnits, Bool.eq_false_iff]
  intro isAbove
  obtain ⟨same, isFinite, units⟩ := ofUnits_units span
  have aboveItself := above_ofUnits_mono near isAbove
  rw [isFinite, above_finite, units] at aboveItself
  exact lt_irrefl _ aboveItself

end PyFloat

/-! ## Whole numbers -/

open PyFloat

/-- A float holds the whole number exactly. -/
def HeldByFloat (n : Int) : Prop := ∃ x : Binary64, x.units = n * minScale

/-- The float of a whole number that a float holds has its value. -/
theorem PyFloat.ofInt_of_held {n : Int} (held : HeldByFloat n) :
    ∃ x : Binary64, ofInt n = .finite x ∧ x.units = n * minScale := by
  obtain ⟨x, units⟩ := held
  have magnitude : x.units.natAbs = x.mant * 2 ^ x.exp := by
    unfold Binary64.units
    split <;> omega
  have scaled : n.natAbs * minScale = x.mant * 2 ^ x.exp * 1 := by
    rw [Nat.mul_one, ← magnitude, units, Int.natAbs_mul, Int.natAbs_natCast]
  refine ⟨{ x with neg := decide (n < 0) }, ?_, ?_⟩
  · unfold ofInt
    exact ofRatio_exact { x with neg := decide (n < 0) } n.natAbs 1 Nat.one_pos scaled
  · rw [Nat.mul_one] at scaled
    rw [Binary64.units]
    dsimp only
    rw [← scaled]
    split
    · next negative =>
        have below := of_decide_eq_true negative
        push_cast
        rw [abs_of_neg below]
        ring
    · next nonneg =>
        have above := Int.not_lt.mp (mt decide_eq_true nonneg)
        push_cast
        rw [abs_of_nonneg above]

/-- A float holds every whole number of at most 53 bits. -/
theorem heldByFloat_of_lt {n : Int} (small : |n| < 2 ^ 53) : HeldByFloat n := by
  by_cases zero : n.natAbs = 0
  · refine ⟨⟨false, 0, 0, by decide, by decide, .inl rfl⟩, ?_⟩
    rw [Int.natAbs_eq_zero.mp zero]
    simp [Binary64.units]
  have magnitude : n.natAbs < 2 ^ 53 := by
    rw [← Int.natCast_natAbs] at small
    exact_mod_cast small
  have bits : n.natAbs.log2 < 53 := (Nat.log2_lt zero).mpr magnitude
  have parts : 2 ^ (52 - n.natAbs.log2) * 2 ^ (1022 + n.natAbs.log2) = minScale := by
    rw [← pow_add, minScale, minExp]
    congr 1
    omega
  have canonical : Canonical (n.natAbs * 2 ^ (52 - n.natAbs.log2)) (1022 + n.natAbs.log2) := by
    refine ⟨?_, by rw [expCount]; omega, .inr ?_⟩
    · have top := Nat.mul_lt_mul_of_pos_right (@Nat.lt_log2_self n.natAbs)
        (Nat.two_pow_pos (52 - n.natAbs.log2))
      rwa [← pow_add, show n.natAbs.log2 + 1 + (52 - n.natAbs.log2) = 53 by omega] at top
    · have bottom := Nat.mul_le_mul_right (2 ^ (52 - n.natAbs.log2)) (Nat.log2_self_le zero)
      rwa [← pow_add, show n.natAbs.log2 + (52 - n.natAbs.log2) = 52 by omega] at bottom
  refine ⟨⟨decide (n < 0), _, _, canonical⟩, ?_⟩
  rw [Binary64.units]
  dsimp only
  rw [Nat.mul_assoc, parts]
  split
  · next negative =>
      have below := of_decide_eq_true negative
      push_cast
      rw [abs_of_neg below]
      ring
  · next nonneg =>
      have above := Int.not_lt.mp (mt decide_eq_true nonneg)
      push_cast
      rw [abs_of_nonneg above]

/-! ## Small whole numbers -/

/-- The float of a number of six bits. -/
def sixBits (n : Nat) (bits : 32 ≤ n ∧ n < 64) : Binary64 where
  neg := false
  mant := n * 2 ^ 47
  exp := 1027
  canonical := ⟨by omega, by decide, .inr (by omega)⟩

def zeroTime : Binary64 := ⟨false, 0, 0, by decide, by decide, .inl rfl⟩

theorem minScale_split {low high : Nat} (parts : 1074 = low + high) :
    minScale = 2 ^ low * 2 ^ high := by rw [minScale, minExp, parts, pow_add]

theorem units_sixBits (n : Nat) (bits : 32 ≤ n ∧ n < 64) :
    (sixBits n bits).units = n * minScale := by
  rw [Binary64.units, sixBits, if_neg Bool.false_ne_true,
    @minScale_split 47 1027 rfl, Nat.mul_assoc]
  generalize 2 ^ 47 * 2 ^ 1027 = scale
  exact Int.natCast_mul n scale

theorem units_zeroTime : zeroTime.units = 0 := by
  rw [Binary64.units, zeroTime, if_neg Bool.false_ne_true, Nat.zero_mul]
  rfl

/-- The difference from the start of the clock is exact. -/
theorem PyFloat.sub_zeroTime (x : Binary64) :
    ∃ y : Binary64, PyFloat.sub (.finite x) (.finite zeroTime) = .finite y ∧ y.units = x.units := by
  rw [sub, units_zeroTime, Int.sub_zero]
  exact ofUnits_units x

theorem PyFloat.sub_self (x : Binary64) :
    ∃ y : Binary64, PyFloat.sub (.finite x) (.finite x) = .finite y ∧ y.units = 0 := by
  rw [sub, Int.sub_self, ← units_zeroTime]
  exact ofUnits_units zeroTime

end HermesMesh.Python
