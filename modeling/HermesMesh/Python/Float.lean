import HermesMesh.Python.Text

/-!
# Python floats and number literals

A finite Python `float` is an IEEE 754 binary64 number.  `float(text)` rounds a
decimal literal to the nearest one, ties to even; `repr` prints the shortest
literal that rounds back.  Literals are kept in the shape of the JSON number
grammar, which is what the JSON reader and writer exchange.
-/

namespace HermesMesh.Python

/-! ## Rounding -/

/-- `numer / denom` rounded to the nearest integer, ties to even. -/
def roundHalfEven (numer denom : Nat) : Nat :=
  let quotient := numer / denom
  let twice := 2 * (numer % denom)
  if denom < twice ∨ (twice = denom ∧ quotient % 2 = 1) then quotient + 1 else quotient

/-- Exact quotients are not rounded. -/
theorem roundHalfEven_mul (value denom : Nat) (pos : 0 < denom) :
    roundHalfEven (value * denom) denom = value := by
  have notBelow : ¬denom < 0 := Nat.not_lt_zero _
  have notTie : ¬(0 = denom ∧ value % 2 = 1) := by
    rintro ⟨zero, -⟩
    omega
  simp [roundHalfEven, Nat.mul_div_cancel _ pos, notTie]

/-- The least subnormal is `2 ^ -minExp`. -/
@[irreducible] def minExp : Nat := 1074

/-- Denominator of the least subnormal. -/
def minScale : Nat := 2 ^ minExp

/-- Number of binary64 exponents, the subnormal one included. -/
def expCount : Nat := 2046

/-- Significand and biased exponent of a binary64 magnitude
`mant * 2 ^ exp / 2 ^ 1074`: subnormals have the least exponent. -/
def Canonical (mant exp : Nat) : Prop :=
  mant < 2 ^ 53 ∧ exp < expCount ∧ (exp = 0 ∨ 2 ^ 52 ≤ mant)

instance (mant exp : Nat) : Decidable (Canonical mant exp) := by
  unfold Canonical
  infer_instance

/-- A finite binary64 number; the sign is kept for zero. -/
structure Binary64 where
  neg : Bool
  mant : Nat
  exp : Nat
  canonical : Canonical mant exp
  deriving DecidableEq

/-- A Python `float`. -/
inductive PyFloat where
  | finite (value : Binary64)
  | inf (neg : Bool)
  | nan
  deriving DecidableEq

namespace PyFloat

/-- The significand of `numer / denom` at a biased exponent. -/
def mantAt (numer denom exp : Nat) : Nat :=
  roundHalfEven (numer * minScale) (denom * 2 ^ exp)

/-- The least exponent whose rounded significand fits, so that a rounding carry
moves to the next exponent; `none` overflows. -/
def expOf (numer denom : Nat) : Option Nat :=
  (List.range expCount).find? fun exp => decide (Canonical (mantAt numer denom exp) exp)

/-- The float of a significand and exponent that the rounding found. -/
def ofParts (neg : Bool) (mant exp : Nat) : PyFloat :=
  if valid : Canonical mant exp then .finite ⟨neg, mant, exp, valid⟩ else .inf neg

theorem ofParts_canonical (x : Binary64) : ofParts x.neg x.mant x.exp = .finite x :=
  dif_pos x.canonical

/-- The float nearest to `± numer / denom`. -/
def ofRatio (neg : Bool) (numer denom : Nat) : PyFloat :=
  (expOf numer denom).elim (.inf neg) fun exp => ofParts neg (mantAt numer denom exp) exp

theorem mantAt_of_eq_mul {numer denom exp : Nat} (value : Nat) (pos : 0 < denom)
    (exact : numer * minScale = value * (denom * 2 ^ exp)) : mantAt numer denom exp = value := by
  rw [mantAt, exact]
  exact roundHalfEven_mul _ _ (by positivity)

/-- The exponent of a float is the first one that holds its exact ratio. -/
theorem expOf_exact {mant exp numer denom : Nat} (canonical : Canonical mant exp)
    (pos : 0 < denom) (exact : numer * minScale = mant * 2 ^ exp * denom) :
    expOf numer denom = some exp := by
  rw [expOf, List.find?_range_eq_some]
  refine ⟨?_, List.mem_range.mpr canonical.2.1, ?_⟩
  · rw [mantAt_of_eq_mul mant pos (by rw [exact]; ring)]
    exact decide_eq_true canonical
  · intro smaller less
    have split : 2 ^ exp = 2 ^ (exp - smaller) * 2 ^ smaller := by
      rw [← pow_add, Nat.sub_add_cancel less.le]
    -- a smaller exponent leaves an integer significand that no longer fits
    rw [mantAt_of_eq_mul (mant * 2 ^ (exp - smaller)) pos (by rw [exact, split]; ring)]
    have normal : 2 ^ 52 ≤ mant := by
      rcases canonical.2.2 with zero | normal
      · omega
      · exact normal
    have two : 2 ^ 1 ≤ 2 ^ (exp - smaller) := Nat.pow_le_pow_right (by decide) (by omega)
    have large : 2 ^ 52 * 2 ^ 1 ≤ mant * 2 ^ (exp - smaller) := Nat.mul_le_mul normal two
    have tooLarge : ¬Canonical (mant * 2 ^ (exp - smaller)) smaller := by
      intro fits
      have small := fits.1
      omega
    simpa using tooLarge

/-- Reading back an exact ratio of a float gives that float. -/
theorem ofRatio_exact (x : Binary64) (numer denom : Nat) (pos : 0 < denom)
    (exact : numer * minScale = x.mant * 2 ^ x.exp * denom) :
    ofRatio x.neg numer denom = .finite x := by
  have found := expOf_exact x.canonical pos exact
  have same : mantAt numer denom x.exp = x.mant :=
    mantAt_of_eq_mul x.mant pos (by rw [exact]; ring)
  rw [ofRatio, found, Option.elim_some, same, ofParts_canonical]

/-- The float nearest to `± digits * 10 ^ exp`. -/
def ofDecimal (neg : Bool) (digits : Nat) (exp : Int) : PyFloat :=
  if 0 ≤ exp then ofRatio neg (digits * 10 ^ exp.toNat) 1
  else ofRatio neg digits (10 ^ (-exp).toNat)

end PyFloat

/-! ## Digits -/

def isDigit (c : CodePoint) : Bool := 48 ≤ c.val && c.val ≤ 57

def zeroDigit : CodePoint := 48

/-- `int(text)` of a run of ASCII digits. -/
def digitsValue (digits : PyStr) : Nat := digits.foldl (fun value c => 10 * value + (c.val - 48)) 0

/-- `str(n)` of a natural number. -/
def natDigits (n : Nat) : PyStr := (Nat.toDigits 10 n).map CodePoint.ofChar

theorem digitsValue_natDigits (n : Nat) : digitsValue (natDigits n) = n := by
  have valued := Nat.ofDigitChars_ten_toDigits (n := n)
  rw [Nat.ofDigitChars_eq_foldl] at valued
  rw [digitsValue, natDigits, List.foldl_map]
  exact valued

theorem isDigit_of_mem_natDigits {n : Nat} {c : CodePoint} (member : c ∈ natDigits n) :
    isDigit c = true := by
  obtain ⟨char, charMem, rfl⟩ := List.mem_map.mp member
  have digit := Nat.isDigit_of_mem_toDigits (b := 10) (by decide) (by decide) charMem
  simp only [Char.isDigit, Bool.and_eq_true, decide_eq_true_eq] at digit
  simp only [isDigit, Bool.and_eq_true, decide_eq_true_eq]
  exact digit

/-- Decimal digits carry no leading zero, except for zero itself. -/
theorem natDigits_of_head?_zero (n : Nat) (head : (natDigits n).head? = some zeroDigit) :
    natDigits n = [zeroDigit] := by
  induction n using Nat.strongRecOn with
  | ind n ih =>
      unfold natDigits at head ⊢
      rw [Nat.toDigits_eq_if (by decide)] at head ⊢
      split at head
      · next small =>
          rw [if_pos small]
          simpa using head
      · next large =>
          exfalso
          have shorter : (natDigits (n / 10)).head? = some zeroDigit := by
            rw [List.map_append, List.head?_append_of_ne_nil _ (by simp [Nat.toDigits_ne_nil])] at head
            exact head
          have quotient := ih (n / 10) (by omega) shorter
          have value := congrArg digitsValue quotient
          rw [digitsValue_natDigits] at value
          have zero : digitsValue [zeroDigit] = 0 := rfl
          omega

theorem natDigits_ne_nil (n : Nat) : natDigits n ≠ [] := by
  simp [natDigits, Nat.toDigits_ne_nil]

/-! ## Number literals -/

/-- The exponent part of a literal: an optional sign (`some true` is a minus) and
its digits. -/
structure ExpPart where
  sign : Option Bool
  digits : PyStr
  deriving DecidableEq

/-- A literal of the JSON number grammar, in its pieces. -/
structure NumberLit where
  neg : Bool
  whole : PyStr
  frac : Option PyStr
  exp : Option ExpPart
  deriving DecidableEq

namespace NumberLit

/-- A non-empty run of ASCII digits. -/
def Digits (digits : PyStr) : Prop := digits ≠ [] ∧ ∀ c ∈ digits, isDigit c = true

instance (digits : PyStr) : Decidable (Digits digits) := by
  unfold Digits
  infer_instance

/-- The pieces obey the grammar: no leading zero, no empty run of digits. -/
def WellFormed (l : NumberLit) : Prop :=
  Digits l.whole ∧ (l.whole.head? = some zeroDigit → l.whole = [zeroDigit]) ∧
    (∀ digits ∈ l.frac, Digits digits) ∧ ∀ part ∈ l.exp, Digits part.digits

instance (l : NumberLit) : Decidable l.WellFormed := by
  unfold WellFormed
  infer_instance

/-- A literal without fraction and exponent denotes an `int`. -/
def isFloat (l : NumberLit) : Bool := l.frac.isSome || l.exp.isSome

/-- The text of a sign in an exponent part. -/
def signText : Option Bool → PyStr
  | none => []
  | some false => lit "+"
  | some true => lit "-"

/-- The literal as text. -/
def render (l : NumberLit) : PyStr :=
  (if l.neg then lit "-" else []) ++ l.whole ++
    (l.frac.elim [] fun digits => lit "." ++ digits) ++
    (l.exp.elim [] fun part => lit "e" ++ signText part.sign ++ part.digits)

/-- The decimal exponent that the exponent part denotes. -/
def expValue (l : NumberLit) : Int :=
  l.exp.elim 0 fun part =>
    if part.sign = some true then -(digitsValue part.digits : Int) else digitsValue part.digits

/-- `int(text)` of a literal without fraction and exponent. -/
def intValue (l : NumberLit) : Int :=
  if l.neg then -(digitsValue l.whole : Int) else digitsValue l.whole

/-- `float(text)` of a literal. -/
def floatValue (l : NumberLit) : PyFloat :=
  let frac := l.frac.getD []
  .ofDecimal l.neg (digitsValue (l.whole ++ frac)) (l.expValue - frac.length)

/-- The literal of an `int`. -/
def ofInt (i : Int) : NumberLit := ⟨i < 0, natDigits i.natAbs, none, none⟩

theorem digits_natDigits (n : Nat) : Digits (natDigits n) :=
  ⟨natDigits_ne_nil n, fun _ => isDigit_of_mem_natDigits⟩

theorem intValue_ofInt (i : Int) : (ofInt i).intValue = i := by
  simp only [intValue, ofInt, digitsValue_natDigits, decide_eq_true_eq]
  split <;> omega

end NumberLit

/-! ## `repr` of a float -/

namespace Binary64

/-- Decimal places scanned below the units when a float is printed. -/
def decimalShift : Nat := 1100

/-- The number of digits before the decimal point of `x`, shifted by `decimalShift`. -/
def magnitude (x : Binary64) : Nat :=
  ((List.range 1500).find? fun place =>
    decide (x.mant * 2 ^ x.exp * 10 ^ decimalShift < minScale * 10 ^ place)).getD 0

/-- `x` in units of a decimal place, rounded to an integer. -/
def scaledAt (x : Binary64) (place : Nat) : Nat :=
  roundHalfEven (x.mant * 2 ^ x.exp * 10 ^ decimalShift) (minScale * 10 ^ place)

/-- The nearest decimal of `digits` significant digits, as an integer and a
decimal exponent; a rounding carry moves to the next place. -/
def decimalAt (x : Binary64) (digits : Nat) : Nat × Int :=
  let place := x.magnitude - digits
  if x.scaledAt place < 10 ^ digits then (x.scaledAt place, (place : Int) - decimalShift)
  else (x.scaledAt (place + 1), (place : Int) + 1 - decimalShift)

/-- Python's layout of significant digits with the decimal point after `point`
of them: positional for moderate magnitudes, else an exponent of two digits or
more. -/
def layout (neg : Bool) (digits : PyStr) (point : Int) : NumberLit :=
  if -4 < point ∧ point ≤ 16 then
    if point ≤ 0 then
      ⟨neg, [zeroDigit], some (List.replicate (-point).toNat zeroDigit ++ digits), none⟩
    else if (digits.length : Int) ≤ point then
      ⟨neg, digits ++ List.replicate (point.toNat - digits.length) zeroDigit, some [zeroDigit], none⟩
    else ⟨neg, digits.take point.toNat, some (digits.drop point.toNat), none⟩
  else
    let exponent := (point - 1).natAbs
    let padded := if exponent < 10 then zeroDigit :: natDigits exponent else natDigits exponent
    let tail := digits.drop 1
    ⟨neg, digits.take 1, if tail = [] then none else some tail, some ⟨some (point < 1), padded⟩⟩

/-- The two candidates with a given number of significant digits. The upper
neighbour of the nearest decimal matters at powers of two, whose rounding
interval reaches further up than down. -/
def candidates (x : Binary64) (digits : Nat) : List NumberLit :=
  if x.mant = 0 then [⟨x.neg, [zeroDigit], some [zeroDigit], none⟩]
  else
    let (value, exp) := x.decimalAt digits
    [value, value + 1].map fun value =>
      let text := natDigits value
      layout x.neg text (text.length + exp)

/-- A literal that prints back the float it denotes. -/
def Prints (x : Binary64) (l : NumberLit) : Prop :=
  l.WellFormed ∧ l.isFloat = true ∧ l.floatValue = .finite x

instance (x : Binary64) (l : NumberLit) : Decidable (x.Prints l) := by
  unfold Prints
  infer_instance

/-- The exact decimal expansion, which always reads back. -/
def exactLit (x : Binary64) : NumberLit :=
  ⟨x.neg, natDigits (x.mant * 2 ^ x.exp * 5 ^ minExp), none, some ⟨some true, natDigits minExp⟩⟩

theorem prints_exactLit (x : Binary64) : x.Prints x.exactLit := by
  refine ⟨⟨NumberLit.digits_natDigits _, natDigits_of_head?_zero _, by simp [exactLit], ?_⟩, rfl, ?_⟩
  · rintro part (member : part ∈ some _)
    cases Option.mem_some_iff.mp member
    exact NumberLit.digits_natDigits _
  · have ten : (10 : Nat) ^ minExp = 5 ^ minExp * 2 ^ minExp := by
      rw [← Nat.mul_pow]
    have negative : ¬(0 : Int) ≤ -(minExp : Int) - (0 : Nat) := by
      unfold minExp
      decide
    simp only [NumberLit.floatValue, NumberLit.expValue, exactLit, Option.getD_none,
      List.append_nil, List.length_nil, Option.elim_some, if_true, digitsValue_natDigits,
      PyFloat.ofDecimal, if_neg negative]
    rw [show (-(-(minExp : Int) - (0 : Nat))).toNat = minExp by omega]
    refine PyFloat.ofRatio_exact x _ _ (by positivity) ?_
    rw [minScale, ten]
    ring

/-- `repr(x)`: the shortest decimal of at most seventeen digits that reads back. -/
@[irreducible] def reprLit (x : Binary64) : NumberLit :=
  (((List.range 17).flatMap fun digits => x.candidates (digits + 1)).find?
    fun l => decide (x.Prints l)).getD x.exactLit

theorem prints_reprLit (x : Binary64) : x.Prints x.reprLit := by
  unfold reprLit
  cases found : ((List.range 17).flatMap fun digits => x.candidates (digits + 1)).find?
      fun l => decide (x.Prints l) with
  | none => exact prints_exactLit x
  | some l => exact of_decide_eq_true (List.find?_some (p := fun l => decide (x.Prints l)) found)

end Binary64

end HermesMesh.Python
