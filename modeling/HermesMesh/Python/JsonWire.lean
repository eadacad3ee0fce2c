import HermesMesh.Python.Repr

/-!
# The default encoding

`json.dumps` without arguments writes ASCII only: every other character is one
`\\uXXXX` escape, or two of them, a surrogate pair.  A value whose strings have no
surrogates is read back as it is, since the fields keep their order.
-/

namespace HermesMesh.Python

/-- `\\uXXXX` of a code unit. -/
def unitEscape (unit : Nat) : PyStr := backslash :: 117 :: hexDigits 4 unit

def highSurrogate (c : CodePoint) : Nat := 0xd800 + (c.val - 0x10000) / 0x400
def lowSurrogate (c : CodePoint) : Nat := 0xdc00 + (c.val - 0x10000) % 0x400

/-- Character escapes under `ensure_ascii=True`. -/
def escapeAscii (c : CodePoint) : PyStr :=
  if c.val < 127 then escapePlain c
  else if c.val < 0x10000 then unitEscape c.val
  else unitEscape (highSurrogate c) ++ unitEscape (lowSurrogate c)

/-- `json.dumps(value)`. -/
def JsonStyle.default : JsonStyle := ⟨escapeAscii, lit ", ", lit ": ", false⟩

/-- `json.dumps(value, sort_keys=True, separators=(",", ":"))`. -/
def JsonStyle.compact : JsonStyle := ⟨escapeAscii, [comma], [colon], true⟩

namespace JsonScanner

theorem spaced_default : Spaced .default := by
  have space : ∀ c ∈ ([32] : PyStr), isWs c = true := by
    intro c member
    rw [List.mem_singleton.mp member]
    rfl
  exact ⟨⟨[32], rfl, space⟩, ⟨[32], rfl, space⟩⟩

theorem hexValue_hexDigit : ∀ n : Fin 16, hexValue (hexDigit n) = some n.val := by decide

theorem codeUnit_hexDigits {unit : Nat} (small : unit < 0x10000) :
    codeUnit (hexDigit (unit / 4096)) (hexDigit (unit / 256 % 16)) (hexDigit (unit / 16 % 16))
      (hexDigit (unit % 16)) = some (Fin.ofNat _ unit) := by
  have digit : ∀ n, n < 16 → hexValue (hexDigit n) = some n :=
    fun n bound => hexValue_hexDigit ⟨n, bound⟩
  have whole : ((unit / 4096 * 16 + unit / 256 % 16) * 16 + unit / 16 % 16) * 16 + unit % 16 =
      unit := by omega
  rw [codeUnit, digit _ (by omega), digit _ (by omega), digit _ (by omega), digit _ (by omega)]
  simp only [Option.bind_eq_bind, Option.bind_some, whole]
  rfl

theorem hexDigits_four {unit : Nat} (small : unit < 0x10000) :
    hexDigits 4 unit = [hexDigit (unit / 4096), hexDigit (unit / 256 % 16),
      hexDigit (unit / 16 % 16), hexDigit (unit % 16)] := by
  have first : unit / 16 / 16 / 16 % 16 = unit / 4096 := by omega
  have second : unit / 16 / 16 % 16 = unit / 256 % 16 := by omega
  simp only [hexDigits, List.nil_append, List.cons_append, first, second]

theorem scanUnits_unitEscape {unit : Nat} (small : unit < 0x10000) (rest : PyStr) :
    scanUnits (unitEscape unit ++ rest) =
      (scanUnits rest).map fun (units, tail) => ((Fin.ofNat _ unit, true) :: units, tail) := by
  rw [unitEscape, hexDigits_four small]
  exact scanUnits_unit (codeUnit_hexDigits small) rest

/-- The units that the scanner finds for a character. -/
def asciiUnits (c : CodePoint) : List (CodePoint × Bool) :=
  if c.val < 127 then [(c, controlFlag c)]
  else if c.val < 0x10000 then [(c, true)]
  else [(Fin.ofNat _ (highSurrogate c), true), (Fin.ofNat _ (lowSurrogate c), true)]

theorem highSurrogate_lt (c : CodePoint) : highSurrogate c < 0xdc00 := by
  have bound := c.isLt
  unfold highSurrogate
  omega

theorem lowSurrogate_lt (c : CodePoint) : lowSurrogate c < 0xe000 := by
  unfold lowSurrogate
  omega

theorem scanUnits_escapeAscii (c : CodePoint) (rest : PyStr) :
    scanUnits (escapeAscii c ++ rest) =
      (scanUnits rest).map fun (units, tail) => (asciiUnits c ++ units, tail) := by
  unfold escapeAscii asciiUnits
  split
  · exact scanUnits_escapePlain c rest
  split
  · next small =>
      have same : (Fin.ofNat _ c.val : CodePoint) = c := Fin.ext (Nat.mod_eq_of_lt c.isLt)
      rw [scanUnits_unitEscape small, same]
      rfl
  · have high := highSurrogate_lt c
    have low := lowSurrogate_lt c
    rw [List.append_assoc, scanUnits_unitEscape (by omega), scanUnits_unitEscape (by omega),
      Option.map_map]
    rfl

theorem joinPairs_cons {c : CodePoint} (notHigh : isHighSurrogate c = false) (escaped : Bool)
    (rest : List (CodePoint × Bool)) : joinPairs ((c, escaped) :: rest) = c :: joinPairs rest := by
  cases rest with
  | nil => rfl
  | cons unit rest =>
      obtain ⟨d, followed⟩ := unit
      rw [joinPairs]
      simp [notHigh]

/-- The two units of a surrogate pair are the character. -/
theorem joinPairs_surrogates {c : CodePoint} (astral : 0x10000 ≤ c.val)
    (rest : List (CodePoint × Bool)) :
    joinPairs ((Fin.ofNat _ (highSurrogate c), true) :: (Fin.ofNat _ (lowSurrogate c), true) :: rest) =
      c :: joinPairs rest := by
  have bound := c.isLt
  have highBound := highSurrogate_lt c
  have lowBound := lowSurrogate_lt c
  have high : ((Fin.ofNat _ (highSurrogate c) : CodePoint)).val = highSurrogate c :=
    Nat.mod_eq_of_lt (by omega)
  have low : ((Fin.ofNat _ (lowSurrogate c) : CodePoint)).val = lowSurrogate c :=
    Nat.mod_eq_of_lt (by omega)
  have isHigh : isHighSurrogate (Fin.ofNat _ (highSurrogate c)) = true := by
    unfold isHighSurrogate
    rw [high]
    unfold highSurrogate at highBound ⊢
    simp only [Bool.and_eq_true, decide_eq_true_eq]
    omega
  have isLow : isLowSurrogate (Fin.ofNat _ (lowSurrogate c)) = true := by
    unfold isLowSurrogate
    rw [low]
    unfold lowSurrogate at lowBound ⊢
    simp only [Bool.and_eq_true, decide_eq_true_eq]
    omega
  have whole : 0x10000 + (highSurrogate c - 0xd800) * 0x400 + (lowSurrogate c - 0xdc00) = c.val := by
    unfold highSurrogate lowSurrogate
    omega
  rw [joinPairs, isHigh, isLow, high, low, whole]
  simp only [Bool.and_self, if_true, List.cons.injEq, and_true]
  exact Fin.ext (Nat.mod_eq_of_lt c.isLt)

theorem joinPairs_asciiUnits {c : CodePoint} (scalar : ∃ char, CodePoint.toChar? c = some char)
    (rest : List (CodePoint × Bool)) : joinPairs (asciiUnits c ++ rest) = c :: joinPairs rest := by
  have notHigh : isHighSurrogate c = false := by
    obtain ⟨char, isChar⟩ := scalar
    unfold CodePoint.toChar? at isChar
    split at isChar
    · next valid =>
        have split : c.val < 0xd800 ∨ 0xdfff < c.val ∧ c.val < 0x110000 := valid
        simp only [isHighSurrogate, Bool.and_eq_false_iff, decide_eq_false_iff_not]
        omega
    · cases isChar
  unfold asciiUnits
  split
  · exact joinPairs_cons notHigh _ rest
  split
  · exact joinPairs_cons notHigh _ rest
  · next large => exact joinPairs_surrogates (Nat.le_of_not_lt large) rest

theorem scanUnits_ascii (text rest : PyStr) :
    scanUnits (text.flatMap escapeAscii ++ quoteMark :: rest) =
      some (text.flatMap asciiUnits, rest) := by
  induction text with
  | nil =>
      rw [List.flatMap_nil, List.nil_append, scanUnits.eq_def]
      exact if_pos rfl
  | cons c text ih =>
      rw [List.flatMap_cons, List.append_assoc, scanUnits_escapeAscii, ih]
      rfl

/-- ASCII escapes preserve every string without surrogates. -/
theorem readsBack_escapeAscii (style : JsonStyle) (ascii : style.escape = escapeAscii) {text : PyStr}
    (encodable : Encodable text) : ReadsBack style text := by
  intro rest
  have joined : joinPairs (text.flatMap asciiUnits) = text := by
    induction text with
    | nil => rfl
    | cons c text ih =>
        obtain ⟨scalar, restEncodable⟩ := encodable_cons.mp encodable
        rw [List.flatMap_cons, joinPairs_asciiUnits scalar, ih restEncodable]
  rw [scanString, ascii, scanUnits_ascii, Option.map_some]
  simp only [joined]

/-- The units of a character are itself, or two that are no ASCII characters. -/
theorem asciiUnits_cases (c : CodePoint) :
    (asciiUnits c).map Prod.fst = [c] ∨ ∃ unit ∈ (asciiUnits c).map Prod.fst, 128 ≤ unit.val := by
  unfold asciiUnits
  split
  · exact .inl rfl
  split
  · exact .inl rfl
  · right
    have bound := highSurrogate_lt c
    refine ⟨Fin.ofNat _ (highSurrogate c), List.mem_cons_self, ?_⟩
    have value : (Fin.ofNat 0x110000 (highSurrogate c)).val = highSurrogate c :=
      Nat.mod_eq_of_lt (by omega)
    rw [value]
    unfold highSurrogate
    omega

/-- A text whose units are all ASCII consists of them. -/
theorem map_units_of_ascii {text units : PyStr}
    (same : (text.flatMap asciiUnits).map Prod.fst = units) (ascii : ∀ c ∈ units, c.val < 128) :
    text = units := by
  induction text generalizing units with
  | nil => exact same
  | cons c text ih =>
      rw [List.flatMap_cons, List.map_append] at same
      rcases asciiUnits_cases c with single | ⟨unit, member, large⟩
      · rw [single, List.singleton_append] at same
        subst same
        have tail := ih rfl fun d member => ascii d (List.mem_cons_of_mem _ member)
        exact congrArg (c :: ·) tail
      · have small := ascii unit (same ▸ List.mem_append_left _ member)
        omega

/-- Where an ASCII string is quoted, only the same string can be. -/
theorem quoted_ascii_inj {style : JsonStyle} (escapes : style.escape = escapeAscii)
    {text other rest after : PyStr} (ascii : ∀ c ∈ text, c.val < 128)
    (same : Json.quoted style other ++ after = Json.quoted style text ++ rest) :
    other = text ∧ after = rest := by
  simp only [Json.quoted, escapes, List.cons_append, List.append_assoc, List.cons.injEq,
    true_and, List.nil_append] at same
  have scanned := congrArg scanUnits same
  rw [scanUnits_ascii, scanUnits_ascii, Option.some.injEq, Prod.mk.injEq] at scanned
  refine ⟨?_, scanned.2⟩
  have self : (text.flatMap asciiUnits).map Prod.fst = text := by
    clear same scanned
    induction text with
    | nil => rfl
    | cons c text ih =>
        have small := ascii c List.mem_cons_self
        have tail := ih fun d member => ascii d (List.mem_cons_of_mem _ member)
        rw [List.flatMap_cons, List.map_append, tail]
        unfold asciiUnits
        split
        · rfl
        · rw [if_pos (by omega)]
          rfl
  exact map_units_of_ascii (by rw [scanned.1, self]) ascii

/-- Only a string's text starts with a quotation mark. -/
theorem isStr_of_head {style : JsonStyle} {value : Json} {after tail : PyStr}
    (starts : Json.dumps style value ++ after = quoteMark :: tail) : ∃ text, value = .str text := by
  have number : ∀ {l : NumberLit}, l.WellFormed → l.render ++ after ≠ quoteMark :: tail := by
    intro l valid same
    obtain ⟨c, digits, text, head⟩ := render_head valid
    rw [text, List.cons_append, List.cons.injEq] at same
    exact (numberHead_plain head).2.2.1 same.1
  cases value with
  | null => exact absurd (List.cons.inj starts).1 (by decide)
  | bool value => cases value <;> exact absurd (List.cons.inj starts).1 (by decide)
  | int value => exact absurd starts (number (wellFormed_ofInt value))
  | float value =>
      cases value with
      | finite x => exact absurd starts (number x.prints_reprLit.1)
      | inf neg => cases neg <;> exact absurd (List.cons.inj starts).1 (by decide)
      | nan => exact absurd (List.cons.inj starts).1 (by decide)
  | str text => exact ⟨text, rfl⟩
  | arr items => exact absurd (List.cons.inj starts).1 (by decide)
  | obj fields => exact absurd (List.cons.inj starts).1 (by decide)

/-- Where an ASCII string is written, no other value is. -/
theorem dumps_ascii_inj {style : JsonStyle} (escapes : style.escape = escapeAscii) {value : Json}
    {text rest after : PyStr} (ascii : ∀ c ∈ text, c.val < 128)
    (same : Json.dumps style value ++ after = Json.quoted style text ++ rest) :
    value = .str text ∧ after = rest := by
  have starts : Json.dumps style value ++ after =
      quoteMark :: (text.flatMap style.escape ++ quoteMark :: rest) := by
    simp only [same, Json.quoted, List.cons_append, List.append_assoc, List.nil_append]
  obtain ⟨other, rfl⟩ := isStr_of_head starts
  obtain ⟨rfl, rests⟩ := quoted_ascii_inj escapes ascii same
  exact ⟨rfl, rests⟩

end JsonScanner

namespace Json

/-- Without sorting, a value is read back with its fields in their order. -/
theorem ordered_eq_self {style : JsonStyle} (unsorted : style.sortKeys = false) (value : Json) :
    ordered style value = value := by
  induction value using dumps.induct
    (motive_2 := fun fields => orderedFields style fields = fields)
    (motive_3 := fun items => orderedItems style items = items) with
  | case1 | case2 | case3 | case4 | case5 | case6 => rfl
  | case7 items ih => rw [ordered, ih]
  | case8 fields ih => rw [ordered, ih, orderFields, unsorted, if_neg Bool.false_ne_true]
  | case9 => rfl
  | case10 item rest itemIH restIH => rw [orderedItems, itemIH, restIH]
  | case11 => rfl
  | case12 key value rest valueIH restIH => rw [orderedFields, valueIH, restIH]

/-- `json.loads(json.dumps(value))` is the value. -/
theorem loads_default {value : Json} (distinct : value.Distinct)
    (strings : value.AllStrings Encodable) : loads (dumps .default value) = some value := by
  have readBack := @loads_dumps .default JsonScanner.spaced_default value distinct
    (AllStrings.imp (fun _ => JsonScanner.readsBack_escapeAscii .default rfl) value strings) []
    (by simp)
  rwa [List.append_nil, ordered_eq_self rfl] at readBack

end Json

end HermesMesh.Python
