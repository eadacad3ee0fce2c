import HermesMesh.Python.JsonWire

/-!
# Lone surrogates

A JSON text can name a lone surrogate, and the default encoding writes it as one escape
again.  Two of them that make up a pair would be read back as one character; the scanner
never leaves a pair apart, so whatever `json.loads` returns is written and read back as it
is.
-/

namespace HermesMesh.Python

open JsonScanner

/-- No high surrogate stands right before a low one. -/
def Unpaired (text : PyStr) : Prop :=
  text.IsChain fun c d => ¬(isHighSurrogate c = true ∧ isLowSurrogate d = true)

theorem isHighSurrogate_iff {c : CodePoint} :
    isHighSurrogate c = true ↔ 0xd800 ≤ c.val ∧ c.val ≤ 0xdbff := by
  simp [isHighSurrogate]

theorem isLowSurrogate_iff {c : CodePoint} :
    isLowSurrogate c = true ↔ 0xdc00 ≤ c.val ∧ c.val ≤ 0xdfff := by
  simp [isLowSurrogate]

/-- A scalar value is no surrogate. -/
theorem not_surrogate_of_scalar {c : CodePoint} (scalar : ∃ char, CodePoint.toChar? c = some char) :
    ¬(0xd800 ≤ c.val ∧ c.val ≤ 0xdfff) := by
  obtain ⟨char, isChar⟩ := scalar
  unfold CodePoint.toChar? at isChar
  split at isChar
  · next valid =>
      have split : c.val < 0xd800 ∨ 0xdfff < c.val ∧ c.val < 0x110000 := valid
      omega
  · cases isChar

/-- Text without surrogates has no pairs of them. -/
theorem unpaired_of_encodable {text : PyStr} (encodable : Encodable text) : Unpaired text := by
  induction text with
  | nil => exact .nil
  | cons c rest ih =>
      obtain ⟨scalar, restEncodable⟩ := encodable_cons.mp encodable
      apply List.isChain_cons.mpr
      refine ⟨fun d isNext both => ?_, ih restEncodable⟩
      have high := isHighSurrogate_iff.mp both.1
      exact not_surrogate_of_scalar scalar ⟨high.1, by omega⟩

namespace JsonScanner

/-- Where the next unit completes no pair, the character stands for itself. -/
theorem joinPairs_apart {c : CodePoint} {escaped : Bool} {units : List (CodePoint × Bool)}
    (apart : ∀ unit ∈ units.head?, ¬(isHighSurrogate c = true ∧ isLowSurrogate unit.1 = true)) :
    joinPairs ((c, escaped) :: units) = c :: joinPairs units := by
  cases units with
  | nil => rfl
  | cons unit rest =>
      obtain ⟨d, followed⟩ := unit
      have notBoth := apart (d, followed) rfl
      rw [joinPairs, if_neg]
      intro joined
      simp only [Bool.and_eq_true] at joined
      exact notBoth ⟨joined.1.2, joined.2⟩

/-- The first unit of a character is low only where the character is. -/
theorem asciiUnits_head (d : CodePoint) :
    ∃ unit rest, asciiUnits d = unit :: rest ∧
      (isLowSurrogate unit.1 = true → isLowSurrogate d = true) := by
  unfold asciiUnits
  split
  · exact ⟨_, _, rfl, id⟩
  split
  · exact ⟨_, _, rfl, id⟩
  · refine ⟨_, _, rfl, fun low => ?_⟩
    have bound := highSurrogate_lt d
    have value : (Fin.ofNat 0x110000 (highSurrogate d)).val = highSurrogate d :=
      Nat.mod_eq_of_lt (by omega)
    rw [isLowSurrogate_iff, value] at low
    omega

theorem joinPairs_flatMap_asciiUnits {text : PyStr} (unpaired : Unpaired text) :
    joinPairs (text.flatMap asciiUnits) = text := by
  induction text with
  | nil => rfl
  | cons c text ih =>
      have tail := ih unpaired.tail
      rw [List.flatMap_cons]
      by_cases astral : 0x10000 ≤ c.val
      · have units : asciiUnits c = [(Fin.ofNat _ (highSurrogate c), true),
            (Fin.ofNat _ (lowSurrogate c), true)] := by
          rw [asciiUnits, if_neg (by omega), if_neg (by omega)]
        rw [units, List.cons_append, List.cons_append, List.nil_append, joinPairs_surrogates astral,
          tail]
      · obtain ⟨escaped, units⟩ : ∃ escaped, asciiUnits c = [(c, escaped)] := by
          unfold asciiUnits
          split
          · exact ⟨_, rfl⟩
          · rw [if_pos (by omega)]
            exact ⟨_, rfl⟩
        rw [units, List.cons_append, List.nil_append, joinPairs_apart, tail]
        intro unit member
        cases text with
        | nil => cases member
        | cons d rest =>
            obtain ⟨first, others, starts, lowHead⟩ := asciiUnits_head d
            rw [List.flatMap_cons, starts] at member
            cases member
            intro both
            exact (List.isChain_cons_cons.mp unpaired).1 ⟨both.1, lowHead both.2⟩

/-- ASCII escapes preserve every string without pairs of surrogates. -/
theorem readsBack_unpaired (style : JsonStyle) (ascii : style.escape = escapeAscii) {text : PyStr}
    (unpaired : Unpaired text) : ReadsBack style text := by
  intro rest
  rw [scanString, ascii, scanUnits_ascii, Option.map_some]
  simp only [joinPairs_flatMap_asciiUnits unpaired]

/-! ## What the scanner returns -/

theorem encodable_of_suffix {text tail : PyStr} (suffix : tail <:+ text)
    (encodable : Encodable text) : Encodable tail :=
  fun c member => encodable c (suffix.subset member)

/-- A unit that is not written as an escape is no surrogate. -/
def Escaped (units : List (CodePoint × Bool)) : Prop :=
  ∀ unit ∈ units, unit.2 = false → ¬(0xd800 ≤ unit.1.val ∧ unit.1.val ≤ 0xdfff)

/-- One more unit, in front of those of the rest. -/
theorem escaped_cons {unit : CodePoint × Bool} {front rest tail : PyStr}
    {units : List (CodePoint × Bool)}
    (sound : unit.2 = false → ¬(0xd800 ≤ unit.1.val ∧ unit.1.val ≤ 0xdfff))
    (inner : ∀ units tail, scanUnits rest = some (units, tail) → Escaped units ∧ tail <:+ rest)
    (scanned : ((scanUnits rest).map fun (units, tail) => (unit :: units, tail)) =
      some (units, tail)) : Escaped units ∧ tail <:+ front ++ rest := by
  obtain ⟨⟨others, left⟩, scan, same⟩ := Option.map_eq_some_iff.mp scanned
  obtain ⟨escaped, suffix⟩ := inner others left scan
  cases same
  exact ⟨List.forall_mem_cons.mpr ⟨sound, escaped⟩, suffix.trans (List.suffix_append _ _)⟩

theorem simpleEscape_scalar {e c : CodePoint} (escape : simpleEscape e = some c)
    (scalar : ¬(0xd800 ≤ e.val ∧ e.val ≤ 0xdfff)) : ¬(0xd800 ≤ c.val ∧ c.val ≤ 0xdfff) := by
  unfold simpleEscape at escape
  split_ifs at escape <;> cases escape
  · exact scalar
  all_goals decide

theorem scanUnits_escaped {text : PyStr} (encodable : Encodable text) :
    ∀ units tail, scanUnits text = some (units, tail) → Escaped units ∧ tail <:+ text := by
  fun_induction scanUnits text with
  | case1 | case3 | case5 | case6 | case8 | case9 =>
      intro units tail scanned
      cases scanned
  | case2 rest =>
      intro units tail scanned
      cases scanned
      exact ⟨fun unit member => absurd member List.not_mem_nil, List.suffix_cons _ _⟩
  | case4 e isUnit h₁ h₂ h₃ h₄ rest unit isCode notQuote ih =>
      intro units tail scanned
      have front : backslash :: e :: h₁ :: h₂ :: h₃ :: h₄ :: rest =
        [backslash, e, h₁, h₂, h₃, h₄] ++ rest := rfl
      rw [front] at encodable ⊢
      exact escaped_cons (by simp) (ih (encodable_append.mp encodable).2) scanned
  | case7 e rest notUnit c escape notQuote ih =>
      intro units tail scanned
      have front : backslash :: e :: rest = [backslash, e] ++ rest := rfl
      have scalar := not_surrogate_of_scalar (encodable e (by simp))
      rw [front] at encodable ⊢
      exact escaped_cons (fun _ => simpleEscape_scalar escape scalar)
        (ih (encodable_append.mp encodable).2) scanned
  | case10 c rest notQuote notBackslash notControl ih =>
      intro units tail scanned
      obtain ⟨scalar, restEncodable⟩ := encodable_cons.mp encodable
      exact @escaped_cons _ [c] _ _ _ (fun _ => not_surrogate_of_scalar scalar) (ih restEncodable)
        scanned

/-- The text of some units starts with the first of them, or with a pair. -/
theorem head?_joinPairs {d : CodePoint} {followed : Bool} {rest : List (CodePoint × Bool)} :
    ∀ c ∈ (joinPairs ((d, followed) :: rest)).head?, c = d ∨ 0x10000 ≤ c.val := by
  intro c isHead
  cases rest with
  | nil =>
      cases isHead
      exact .inl rfl
  | cons unit rest =>
      obtain ⟨e, also⟩ := unit
      rw [joinPairs] at isHead
      split at isHead
      · next both =>
          rw [List.head?_cons, Option.mem_some_iff] at isHead
          right
          rw [← isHead]
          simp only [Bool.and_eq_true] at both
          have high := isHighSurrogate_iff.mp both.1.2
          have low := isLowSurrogate_iff.mp both.2
          rw [Fin.val_ofNat, Nat.mod_eq_of_lt (by omega)]
          omega
      · cases isHead
        exact .inl rfl

/-- No pair is left apart where only escapes are surrogates. -/
theorem unpaired_joinPairs {units : List (CodePoint × Bool)} (escaped : Escaped units) :
    Unpaired (joinPairs units) := by
  induction units using joinPairs.induct with
  | case1 => exact .nil
  | case2 c flag => exact .singleton c
  | case3 c first d second rest both ih =>
      have tail := ih fun unit member =>
        escaped unit (List.mem_cons_of_mem _ (List.mem_cons_of_mem _ member))
      rw [joinPairs, if_pos both]
      apply List.isChain_cons.mpr
      refine ⟨fun next isNext pair => ?_, tail⟩
      simp only [Bool.and_eq_true] at both
      have high := isHighSurrogate_iff.mp both.1.2
      have low := isLowSurrogate_iff.mp both.2
      have joined := isHighSurrogate_iff.mp pair.1
      rw [Fin.val_ofNat, Nat.mod_eq_of_lt (by omega)] at joined
      omega
  | case4 c first d second rest notBoth ih =>
      have tail := ih fun unit member => escaped unit (List.mem_cons_of_mem _ member)
      rw [joinPairs, if_neg notBoth]
      apply List.isChain_cons.mpr
      refine ⟨fun next isNext pair => ?_, tail⟩
      have high := isHighSurrogate_iff.mp pair.1
      have low := isLowSurrogate_iff.mp pair.2
      rcases head?_joinPairs next isNext with rfl | large
      case inr => omega
      -- both units are surrogates, so both are escapes and have been joined
      have firstEscaped : first = true := by
        by_contra plain
        have isScalar := escaped (c, first) (by simp) (by simpa using plain)
        exact isScalar ⟨high.1, high.2.trans (by decide)⟩
      have secondEscaped : second = true := by
        by_contra plain
        have isScalar := escaped (next, second) (by simp) (by simpa using plain)
        exact isScalar ⟨(by decide : 0xd800 ≤ 0xdc00).trans low.1, low.2⟩
      exact notBoth (by simp [firstEscaped, secondEscaped, pair.1, pair.2])

theorem scanString_unpaired {text string tail : PyStr} (encodable : Encodable text)
    (scanned : scanString text = some (string, tail)) : Unpaired string ∧ tail <:+ text := by
  obtain ⟨⟨units, left⟩, scan, same⟩ := Option.map_eq_some_iff.mp scanned
  obtain ⟨escaped, suffix⟩ := scanUnits_escaped encodable units left scan
  cases same
  exact ⟨unpaired_joinPairs escaped, suffix⟩

/-! ## Tails -/

theorem skipWs_suffix (text : PyStr) : skipWs text <:+ text := List.dropWhile_suffix _

/-- What is left after white space is left of the text before it, too. -/
theorem suffix_of_skipWs {text tail : PyStr} {c : CodePoint} (skipped : skipWs text = c :: tail) :
    tail <:+ text :=
  (List.suffix_cons c tail).trans (skipped ▸ skipWs_suffix text)

theorem spanDigits_suffix (text : PyStr) : (spanDigits text).2 <:+ text := List.dropWhile_suffix _

theorem scanMinus_suffix (text : PyStr) : (scanMinus text).2 <:+ text := by
  unfold scanMinus
  split
  · split
    · exact List.suffix_cons _ _
    · exact List.suffix_refl _
  · exact List.suffix_refl _

theorem scanSign_suffix (text : PyStr) : (scanSign text).2 <:+ text := by
  unfold scanSign
  split
  · split_ifs
    · exact List.suffix_cons _ _
    · exact List.suffix_cons _ _
    · exact List.suffix_refl _
  · exact List.suffix_refl _

theorem scanFrac_suffix (text : PyStr) : (scanFrac text).2 <:+ text := by
  unfold scanFrac
  split
  · split
    · exact (spanDigits_suffix _).trans (List.suffix_cons _ _)
    · exact List.suffix_refl _
  · exact List.suffix_refl _

theorem scanExp_suffix (text : PyStr) : (scanExp text).2 <:+ text := by
  unfold scanExp
  split
  · dsimp only
    split
    · exact (spanDigits_suffix _).trans ((scanSign_suffix _).trans (List.suffix_cons _ _))
    · exact List.suffix_refl _
  · exact List.suffix_refl _

theorem scanWhole_suffix {text whole tail : PyStr} (scanned : scanWhole text = some (whole, tail)) :
    tail <:+ text := by
  unfold scanWhole at scanned
  split at scanned
  · cases scanned
  · split_ifs at scanned <;> cases scanned
    · exact List.suffix_cons _ _
    · exact (spanDigits_suffix _).trans (List.suffix_cons _ _)

theorem scanNumber_suffix {text tail : PyStr} {l : NumberLit}
    (scanned : scanNumber text = some (l, tail)) : tail <:+ text := by
  unfold scanNumber at scanned
  split at scanned
  · cases scanned
  · next whole afterWhole isWhole =>
      cases scanned
      have frac := scanFrac_suffix afterWhole
      exact ((scanExp_suffix _).trans frac).trans
        ((scanWhole_suffix isWhole).trans (scanMinus_suffix text))

/-- Constants and numbers have no strings. -/
theorem scanConstant_strings {good : PyStr → Prop} {text tail : PyStr} {value : Json}
    (scanned : scanConstant text = some (value, tail)) : value.AllStrings good ∧ tail <:+ text := by
  obtain ⟨⟨name, named⟩, member, found⟩ := List.exists_of_findSome?_eq_some scanned
  simp only [Option.ite_none_right_eq_some, Option.some.injEq, Prod.mk.injEq] at found
  obtain ⟨-, rfl, rfl⟩ := found
  refine ⟨?_, List.drop_suffix _ _⟩
  simp only [constants, List.mem_cons, Prod.mk.injEq, List.not_mem_nil, or_false] at member
  rcases member with ⟨-, rfl⟩ | ⟨-, rfl⟩ | ⟨-, rfl⟩ | ⟨-, rfl⟩ | ⟨-, rfl⟩ | ⟨-, rfl⟩ <;> trivial

theorem allStrings_numberValue {good : PyStr → Prop} (l : NumberLit) :
    (numberValue l).AllStrings good := by
  unfold numberValue
  split <;> trivial

end JsonScanner

/-- The strings of a dictionary are strings of its pairs. -/
theorem allStrings_ofPairs {good : PyStr → Prop} {pairs : List (PyStr × Json)}
    (strings : ∀ pair ∈ pairs, good pair.1 ∧ pair.2.AllStrings good) :
    (Json.obj (Dict.ofPairs pairs)).AllStrings good := by
  have run : ∀ start : Dict PyStr Json, (Json.obj start).AllStrings good →
      (Json.obj (pairs.foldl (fun d pair => Dict.set pair.1 pair.2 d) start)).AllStrings good := by
    induction pairs with
    | nil => exact fun start startGood => startGood
    | cons pair rest ih =>
        intro start startGood
        have first := strings pair List.mem_cons_self
        exact ih (fun other member => strings other (List.mem_cons_of_mem _ member)) _
          (startGood.set first.1 first.2)
  exact run [] trivial

namespace JsonScanner

/-- The values that are scanned from a text without surrogates have no pair of them apart. -/
def ValuesUnpaired (fuel : Nat) : Prop :=
  ∀ text value tail, Encodable text → scanValue fuel text = some (value, tail) →
    value.AllStrings Unpaired ∧ tail <:+ text

def ItemsUnpaired (fuel : Nat) : Prop :=
  ∀ text items tail, Encodable text → scanItems fuel text = some (items, tail) →
    Json.AllStringsItems Unpaired items ∧ tail <:+ text

def FieldsUnpaired (fuel : Nat) : Prop :=
  ∀ text fields tail, Encodable text → scanFields fuel text = some (fields, tail) →
    (∀ field ∈ fields, Unpaired field.1 ∧ field.2.AllStrings Unpaired) ∧ tail <:+ text

theorem valuesUnpaired_succ {fuel : Nat} (itemsIH : ItemsUnpaired fuel)
    (fieldsIH : FieldsUnpaired fuel) : ValuesUnpaired (fuel + 1) := by
  intro text value tail encodable scanned
  cases text with
  | nil => simp [scanValue] at scanned
  | cons c rest =>
      have inRest := List.suffix_cons c rest
      have restEncodable := encodable_of_suffix inRest encodable
      simp only [scanValue] at scanned
      split_ifs at scanned with isQuote isObject isArray
      · obtain ⟨⟨string, left⟩, scan, same⟩ := Option.map_eq_some_iff.mp scanned
        have inner := scanString_unpaired restEncodable scan
        cases same
        exact ⟨inner.1, inner.2.trans inRest⟩
      · split at scanned
        · cases scanned
        · next d afterBrace skipped =>
            have inAfter := (suffix_of_skipWs skipped).trans inRest
            split_ifs at scanned with isEmpty isKey
            · cases scanned
              exact ⟨trivial, inAfter⟩
            · obtain ⟨⟨pairs, left⟩, scan, same⟩ := Option.map_eq_some_iff.mp scanned
              have inner := fieldsIH _ _ _ (encodable_of_suffix inAfter encodable) scan
              cases same
              exact ⟨allStrings_ofPairs inner.1, inner.2.trans inAfter⟩
      · split at scanned
        · cases scanned
        · next d afterBracket skipped =>
            have inAfter : d :: afterBracket <:+ c :: rest :=
              (skipped ▸ skipWs_suffix rest).trans inRest
            split_ifs at scanned with isEmpty
            · cases scanned
              exact ⟨trivial, (List.suffix_cons _ _).trans inAfter⟩
            · obtain ⟨⟨items, left⟩, scan, same⟩ := Option.map_eq_some_iff.mp scanned
              have inner := itemsIH _ _ _ (encodable_of_suffix inAfter encodable) scan
              cases same
              exact ⟨inner.1, inner.2.trans inAfter⟩
      · split at scanned
        · next l left isNumber =>
            cases scanned
            exact ⟨allStrings_numberValue l, scanNumber_suffix isNumber⟩
        · exact scanConstant_strings scanned

theorem itemsUnpaired_succ {fuel : Nat} (valueIH : ValuesUnpaired fuel)
    (itemsIH : ItemsUnpaired fuel) : ItemsUnpaired (fuel + 1) := by
  intro text items tail encodable scanned
  simp only [scanItems] at scanned
  split at scanned
  · cases scanned
  · next item afterItem itemScan =>
      have first := valueIH _ _ _ encodable itemScan
      split at scanned
      · cases scanned
      · next d left skipped =>
          have inLeft := (suffix_of_skipWs skipped).trans first.2
          split_ifs at scanned with isLast isComma
          · cases scanned
            exact ⟨⟨first.1, trivial⟩, inLeft⟩
          · obtain ⟨⟨others, final⟩, scan, same⟩ := Option.map_eq_some_iff.mp scanned
            have inNext := (skipWs_suffix left).trans inLeft
            have inner := itemsIH _ _ _ (encodable_of_suffix inNext encodable) scan
            cases same
            exact ⟨⟨first.1, inner.1⟩, inner.2.trans inNext⟩

theorem fieldsUnpaired_succ {fuel : Nat} (valueIH : ValuesUnpaired fuel)
    (fieldsIH : FieldsUnpaired fuel) : FieldsUnpaired (fuel + 1) := by
  intro text fields tail encodable scanned
  simp only [scanFields] at scanned
  split at scanned
  · cases scanned
  · next key afterKey keyScan =>
      have keyed := scanString_unpaired encodable keyScan
      split at scanned
      · cases scanned
      · next d afterColon skipped =>
          have inColon := (suffix_of_skipWs skipped).trans keyed.2
          split_ifs at scanned with isColon
          split at scanned
          · cases scanned
          · next value afterValue valueScan =>
              have inValue := (skipWs_suffix afterColon).trans inColon
              have valued := valueIH _ _ _ (encodable_of_suffix inValue encodable) valueScan
              have field := And.intro keyed.1 valued.1
              split at scanned
              · cases scanned
              · next e left isLeft =>
                  have inLeft := (suffix_of_skipWs isLeft).trans (valued.2.trans inValue)
                  split_ifs at scanned with isLast isComma
                  · cases scanned
                    exact ⟨List.forall_mem_singleton.mpr field, inLeft⟩
                  · split at scanned
                    · cases scanned
                    · next q afterQuote isQuote =>
                        have inNext := (suffix_of_skipWs isQuote).trans inLeft
                        split_ifs at scanned with quote
                        obtain ⟨⟨others, final⟩, scan, same⟩ :=
                          Option.map_eq_some_iff.mp scanned
                        have inner := fieldsIH _ _ _ (encodable_of_suffix inNext encodable) scan
                        cases same
                        exact ⟨List.forall_mem_cons.mpr ⟨field, inner.1⟩, inner.2.trans inNext⟩

/-- What is scanned from a text without surrogates leaves no pair of them apart. -/
theorem unpaired_of_scan (fuel : Nat) :
    ValuesUnpaired fuel ∧ ItemsUnpaired fuel ∧ FieldsUnpaired fuel := by
  induction fuel with
  | zero =>
      refine ⟨fun _ _ _ _ scanned => ?_, fun _ _ _ _ scanned => ?_, fun _ _ _ _ scanned => ?_⟩ <;>
        simp [scanValue, scanItems, scanFields] at scanned
  | succ fuel ih =>
      obtain ⟨valueIH, itemsIH, fieldsIH⟩ := ih
      exact ⟨valuesUnpaired_succ itemsIH fieldsIH, itemsUnpaired_succ valueIH itemsIH,
        fieldsUnpaired_succ valueIH fieldsIH⟩

end JsonScanner

/-- `json.loads` leaves no pair of surrogates apart. -/
theorem unpaired_of_loads {text : PyStr} {value : Json} (encodable : Encodable text)
    (decoded : loads text = some value) : value.AllStrings Unpaired := by
  unfold loads at decoded
  split at decoded
  · next found tail scanned =>
      split at decoded
      · cases decoded
        have skipped := encodable_of_suffix (skipWs_suffix text) encodable
        exact ((unpaired_of_scan _).1 _ _ _ skipped scanned).1
      · cases decoded
  · cases decoded

/-- `json.loads(json.dumps(value))` is the value, lone surrogates included. -/
theorem loads_dumps_unpaired {value : Json} (distinct : value.Distinct)
    (strings : value.AllStrings Unpaired) {ws : PyStr} (space : ∀ c ∈ ws, isWs c = true) :
    loads (Json.dumps .default value ++ ws) = some value := by
  have preserved := Json.AllStrings.imp (fun _ => readsBack_unpaired .default rfl) value strings
  have readBack := loads_dumps spaced_default distinct preserved space
  rwa [Json.ordered_eq_self rfl] at readBack

end HermesMesh.Python
