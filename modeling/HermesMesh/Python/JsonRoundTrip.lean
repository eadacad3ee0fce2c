import HermesMesh.Python.JsonScanner

/-!
# Reading back what the encoder writes

The scanner inverts the encoder up to the order of fields, for every value whose
strings the style's escapes preserve.  Strings, number literals and values are
read back in front of an arbitrary rest of the text; the value theorem is by
induction on the value, one case for each kind.
-/

namespace HermesMesh.Python

namespace JsonScanner

/-! ## Strings -/

/-- A style whose escapes of `text` are scanned back to `text`. -/
def ReadsBack (style : JsonStyle) (text : PyStr) : Prop :=
  ∀ rest, scanString (text.flatMap style.escape ++ quoteMark :: rest) = some (text, rest)

theorem joinPairs_of_notHigh (units : List (CodePoint × Bool))
    (notHigh : ∀ unit ∈ units, unit.2 = true → isHighSurrogate unit.1 = false) :
    joinPairs units = units.map Prod.fst := by
  induction units using joinPairs.induct with
  | case1 => rfl
  | case2 c flag => rfl
  | case3 c escaped d followed rest both =>
      simp only [Bool.and_eq_true] at both
      have high := notHigh (c, escaped) (by simp) both.1.1.1
      simp [high] at both
  | case4 c escaped d followed rest notBoth ih =>
      rw [joinPairs, if_neg notBoth, List.map_cons]
      rw [ih fun unit member => notHigh unit (List.mem_cons_of_mem _ member)]

/-- The flag that the scanner gives to a character written by `escapePlain`. -/
def controlFlag (c : CodePoint) : Bool :=
  c.val < 32 && !(c.val == 8 || c.val == 9 || c.val == 10 || c.val == 12 || c.val == 13)

theorem scanUnits_simple {e c : CodePoint} (notUnit : e.val ≠ 117)
    (escape : simpleEscape e = some c) (rest : PyStr) :
    scanUnits (backslash :: e :: rest) =
      (scanUnits rest).map fun (units, tail) => ((c, false) :: units, tail) := by
  rw [scanUnits.eq_def]
  simp only [notUnit, if_false, escape, if_true, show backslash ≠ quoteMark by decide]

theorem scanUnits_unit {h₁ h₂ h₃ h₄ c : CodePoint} (unit : codeUnit h₁ h₂ h₃ h₄ = some c)
    (rest : PyStr) :
    scanUnits (backslash :: 117 :: h₁ :: h₂ :: h₃ :: h₄ :: rest) =
      (scanUnits rest).map fun (units, tail) => ((c, true) :: units, tail) := by
  rw [scanUnits.eq_def]
  simp only [unit, if_false, if_true, show backslash ≠ quoteMark by decide,
    show ((117 : CodePoint).val = 117) = True by decide]

theorem codeUnit_hexDigit : ∀ n : Fin 32,
    codeUnit 48 48 (hexDigit (n.val / 16)) (hexDigit (n.val % 16)) = some (Fin.ofNat _ n.val) := by
  decide

/-- One escaped character is scanned back, with the flag of its escape. -/
theorem scanUnits_escapePlain (c : CodePoint) (rest : PyStr) :
    scanUnits (escapePlain c ++ rest) =
      (scanUnits rest).map fun (units, tail) => ((c, controlFlag c) :: units, tail) := by
  have simple : ∀ {e : CodePoint} (value : CodePoint), escapePlain value = [backslash, e] →
      e.val ≠ 117 → simpleEscape e = some value → controlFlag value = false → c = value →
      scanUnits (escapePlain c ++ rest) =
        (scanUnits rest).map fun (units, tail) => ((c, controlFlag c) :: units, tail) := by
    rintro e value text notUnit escape flag rfl
    rw [text, flag]
    exact scanUnits_simple notUnit escape rest
  by_cases quote : c = quoteMark
  · exact simple quoteMark rfl (by decide) (by decide) (by decide) quote
  by_cases slash : c = backslash
  · exact simple backslash rfl (by decide) (by decide) (by decide) slash
  by_cases backspace : c = 8
  · exact simple 8 rfl (by decide) (by decide) (by decide) backspace
  by_cases tab : c = 9
  · exact simple 9 rfl (by decide) (by decide) (by decide) tab
  by_cases newline : c = 10
  · exact simple 10 rfl (by decide) (by decide) (by decide) newline
  by_cases formFeed : c = 12
  · exact simple 12 rfl (by decide) (by decide) (by decide) formFeed
  by_cases return_ : c = 13
  · exact simple 13 rfl (by decide) (by decide) (by decide) return_
  have value : ∀ n : Nat, n < 0x110000 → c ≠ Fin.ofNat _ n → ¬c.val = n := by
    rintro n bound different equal
    apply different
    apply Fin.ext
    rw [equal]
    exact (Nat.mod_eq_of_lt bound).symm
  have notEight := value 8 (by decide) backspace
  have notNine := value 9 (by decide) tab
  have notTen := value 10 (by decide) newline
  have notTwelve := value 12 (by decide) formFeed
  have notThirteen := value 13 (by decide) return_
  by_cases control : c.val < 32
  · have text : escapePlain c =
        [backslash, 117, 48, 48, hexDigit (c.val / 16), hexDigit (c.val % 16)] := by
      unfold escapePlain
      rw [if_neg quote, if_neg slash, if_neg notEight, if_neg notNine, if_neg notTen,
        if_neg notTwelve, if_neg notThirteen, if_pos control]
      rfl
    have flag : controlFlag c = true := by
      simp [controlFlag, control, notEight, notNine, notTen, notTwelve, notThirteen]
    have unit := codeUnit_hexDigit ⟨c.val, control⟩
    have same : (Fin.ofNat _ c.val : CodePoint) = c := Fin.ext (Nat.mod_eq_of_lt c.isLt)
    rw [same] at unit
    rw [text, flag]
    exact scanUnits_unit unit rest
  · have text : escapePlain c = [c] := by
      unfold escapePlain
      rw [if_neg quote, if_neg slash, if_neg notEight, if_neg notNine, if_neg notTen,
        if_neg notTwelve, if_neg notThirteen, if_neg control]
    have flag : controlFlag c = false := by simp [controlFlag, control]
    rw [text, List.singleton_append, scanUnits.eq_def, flag]
    simp only [quote, slash, control, if_false]

/-- Plain escapes preserve every string. -/
theorem readsBack_escapePlain (style : JsonStyle) (plain : style.escape = escapePlain)
    (text : PyStr) : ReadsBack style text := by
  intro rest
  have units : scanUnits (text.flatMap escapePlain ++ quoteMark :: rest) =
      some (text.map fun c => (c, controlFlag c), rest) := by
    induction text with
    | nil =>
        rw [List.flatMap_nil, List.nil_append, scanUnits.eq_def]
        exact if_pos rfl
    | cons c text ih =>
        rw [List.flatMap_cons, List.append_assoc, scanUnits_escapePlain, ih]
        rfl
  have notHigh : ∀ unit ∈ text.map fun c => (c, controlFlag c),
      unit.2 = true → isHighSurrogate unit.1 = false := by
    intro unit member flagged
    obtain ⟨c, -, rfl⟩ := List.mem_map.mp member
    have small : c.val < 32 := by
      simp only [controlFlag, Bool.and_eq_true, decide_eq_true_eq] at flagged
      exact flagged.1
    have notHigh : ¬(0xd800 ≤ c.val) := by omega
    simp [isHighSurrogate, notHigh]
  rw [scanString, plain, units, Option.map_some]
  simp only [joinPairs_of_notHigh _ notHigh, List.map_map, Function.comp_def, List.map_id']

/-! ## Numbers -/

/-- The text after a number does not continue it. -/
def NumberEnd (rest : PyStr) : Prop :=
  ∀ c ∈ rest.head?, isDigit c = false ∧ c.val ≠ 46 ∧ c.val ≠ 101 ∧ c.val ≠ 69

theorem spanDigits_append {digits : PyStr} (rest : PyStr) (all : ∀ c ∈ digits, isDigit c = true)
    (stop : ∀ c ∈ rest.head?, isDigit c = false) :
    spanDigits (digits ++ rest) = (digits, rest) := by
  have taken : rest.takeWhile isDigit = [] := by
    cases rest with
    | nil => rfl
    | cons c rest => simp [stop c (by simp)]
  have dropped : rest.dropWhile isDigit = rest := by
    cases rest with
    | nil => rfl
    | cons c rest => simp [stop c (by simp)]
  rw [spanDigits, List.takeWhile_append_of_pos all, List.dropWhile_append_of_pos all, taken,
    dropped, List.append_nil]

theorem scanExp_none {rest : PyStr} (stop : NumberEnd rest) : scanExp rest = (none, rest) := by
  cases rest with
  | nil => rfl
  | cons c rest =>
      have head := stop c (by simp)
      simp [scanExp, head.2.2.1, head.2.2.2]

theorem scanSign_signText (sign : Option Bool) {digits : PyStr} (rest : PyStr)
    (run : NumberLit.Digits digits) :
    scanSign (NumberLit.signText sign ++ (digits ++ rest)) = (sign, digits ++ rest) := by
  rcases sign with _ | _ | _
  · cases digits with
    | nil => exact absurd rfl run.1
    | cons c digits =>
        have digit := run.2 c (by simp)
        simp only [isDigit, Bool.and_eq_true, decide_eq_true_eq] at digit
        have notPlus : ¬c.val = 43 := by omega
        have notMinus : ¬c.val = 45 := by omega
        simp [NumberLit.signText, scanSign, notPlus, notMinus]
  · rfl
  · rfl

theorem scanExp_some {part : ExpPart} {rest : PyStr} (run : NumberLit.Digits part.digits)
    (stop : NumberEnd rest) :
    scanExp (lit "e" ++ NumberLit.signText part.sign ++ part.digits ++ rest) = (some part, rest) := by
  have signed := scanSign_signText part.sign rest run
  have spanned := spanDigits_append rest run.2 fun c member => (stop c member).1
  have letter : lit "e" = [101] := rfl
  rw [letter]
  simp only [List.cons_append, List.nil_append, List.append_assoc]
  unfold scanExp
  simp only [signed, spanned]
  rw [if_pos ⟨Or.inl rfl, run.1⟩]

/-- The text of an optional exponent part stops a run of digits. -/
theorem expText_head {exp : Option ExpPart} {rest : PyStr} (stop : NumberEnd rest) :
    ∀ c ∈ ((exp.elim [] fun part => lit "e" ++ NumberLit.signText part.sign ++ part.digits) ++
      rest).head?, isDigit c = false ∧ c.val ≠ 46 := by
  intro c member
  cases exp with
  | none => exact ⟨(stop c member).1, (stop c member).2.1⟩
  | some part =>
      have letter : c = 101 := by
        have head : lit "e" = [101] := rfl
        simpa [head] using member.symm
      subst letter
      decide

theorem scanNumber_render {l : NumberLit} {rest : PyStr} (valid : l.WellFormed)
    (stop : NumberEnd rest) : scanNumber (l.render ++ rest) = some (l, rest) := by
  obtain ⟨neg, whole, frac, exp⟩ := l
  obtain ⟨wholeRun, noLeadingZero, fracRun, expRun⟩ := valid
  simp only at wholeRun noLeadingZero fracRun expRun
  -- the text after the whole part, from its end backwards
  generalize expTextEq : (exp.elim [] fun part : ExpPart =>
    lit "e" ++ NumberLit.signText part.sign ++ part.digits) = expText
  have expHead : ∀ c ∈ (expText ++ rest).head?, isDigit c = false ∧ c.val ≠ 46 := by
    rw [← expTextEq]
    exact expText_head stop
  have expScan : scanExp (expText ++ rest) = (exp, rest) := by
    rw [← expTextEq]
    cases exp with
    | none => exact scanExp_none stop
    | some part => exact scanExp_some (expRun part rfl) stop
  generalize fracTextEq : (frac.elim [] fun digits : PyStr => lit "." ++ digits) = fracText
  have fracScan : scanFrac (fracText ++ (expText ++ rest)) = (frac, expText ++ rest) := by
    rw [← fracTextEq]
    cases frac with
    | none =>
        cases tail : expText ++ rest with
        | nil => rfl
        | cons c tailRest =>
            have head := (expHead c (by simp [tail])).2
            simp [scanFrac, head]
    | some digits =>
        have run := fracRun digits rfl
        have spanned := spanDigits_append (expText ++ rest) run.2 fun c member => (expHead c member).1
        have point : lit "." = [46] := rfl
        rw [Option.elim_some, point]
        simp only [List.cons_append, List.nil_append]
        unfold scanFrac
        simp only [spanned]
        rw [if_pos ⟨rfl, run.1⟩]
  have fracHead : ∀ c ∈ (fracText ++ (expText ++ rest)).head?, isDigit c = false := by
    intro c member
    rw [← fracTextEq] at member
    cases frac with
    | none => exact (expHead c member).1
    | some digits =>
        have point : c = 46 := by
          have head : lit "." = [46] := rfl
          simpa [head] using member.symm
        subst point
        decide
  have wholeScan : scanWhole (whole ++ (fracText ++ (expText ++ rest))) =
      some (whole, fracText ++ (expText ++ rest)) := by
    cases whole with
    | nil => exact absurd rfl wholeRun.1
    | cons c digits =>
        by_cases zero : c = zeroDigit
        · have only := noLeadingZero (by simp [zero])
          rw [List.cons.injEq] at only
          rw [only.1, only.2]
          rfl
        · have spanned := spanDigits_append (fracText ++ (expText ++ rest))
            (fun d (member : d ∈ digits) => wholeRun.2 d (List.mem_cons_of_mem c member)) fracHead
          rw [List.cons_append, scanWhole, if_neg zero, if_pos (wholeRun.2 c (by simp)), spanned]
  have textEq : NumberLit.render ⟨neg, whole, frac, exp⟩ ++ rest =
      (if neg then lit "-" else []) ++ (whole ++ (fracText ++ (expText ++ rest))) := by
    simp only [NumberLit.render, ← expTextEq, ← fracTextEq, List.append_assoc]
  have minusScan : scanMinus (NumberLit.render ⟨neg, whole, frac, exp⟩ ++ rest) =
      (neg, whole ++ (fracText ++ (expText ++ rest))) := by
    rw [textEq]
    cases neg with
    | true => rfl
    | false =>
        cases whole with
        | nil => exact absurd rfl wholeRun.1
        | cons c digits =>
            have digit := wholeRun.2 c (by simp)
            simp only [isDigit, Bool.and_eq_true, decide_eq_true_eq] at digit
            have notMinus : ¬c.val = 45 := by omega
            simp [scanMinus, notMinus]
  simp only [scanNumber, minusScan, wholeScan, fracScan, expScan]

/-! ## Values -/

/-- The separators are the JSON tokens, followed by white space at most. -/
structure Spaced (style : JsonStyle) : Prop where
  item : ∃ ws, style.itemSep = comma :: ws ∧ ∀ c ∈ ws, isWs c = true
  key : ∃ ws, style.keySep = colon :: ws ∧ ∀ c ∈ ws, isWs c = true

theorem spaced_canonical : Spaced .canonical :=
  ⟨⟨[], rfl, by simp⟩, ⟨[], rfl, by simp⟩⟩

/-- The text starts a value: it is not white space and closes no array. -/
def StartsValue (text : PyStr) : Prop :=
  ∃ c tail, text = c :: tail ∧ isWs c = false ∧ c ≠ closeBracket

theorem StartsValue.append {text : PyStr} (starts : StartsValue text) (rest : PyStr) :
    StartsValue (text ++ rest) := by
  obtain ⟨c, tail, rfl, plain⟩ := starts
  exact ⟨c, tail ++ rest, rfl, plain⟩

theorem skipWs_of_starts {ws text : PyStr} (space : ∀ c ∈ ws, isWs c = true)
    (starts : StartsValue text) : skipWs (ws ++ text) = text := by
  obtain ⟨c, tail, rfl, plain, -⟩ := starts
  rw [skipWs, List.dropWhile_append_of_pos space, List.dropWhile_cons_of_neg (by simp [plain])]

/-- The first character of a number. -/
theorem render_head {l : NumberLit} (valid : l.WellFormed) :
    ∃ c tail, l.render = c :: tail ∧ (isDigit c = true ∨ c = 45) := by
  obtain ⟨neg, whole, frac, exp⟩ := l
  obtain ⟨⟨nonempty, digits⟩, -⟩ := valid
  cases neg with
  | true => exact ⟨45, _, rfl, .inr rfl⟩
  | false =>
      cases whole with
      | nil => exact absurd rfl nonempty
      | cons c whole =>
          exact ⟨c, whole ++ (frac.elim [] fun digits => lit "." ++ digits) ++
            (exp.elim [] fun part => lit "e" ++ NumberLit.signText part.sign ++ part.digits),
            rfl, .inl (digits c List.mem_cons_self)⟩

theorem numberHead_plain {c : CodePoint} (head : isDigit c = true ∨ c = 45) :
    isWs c = false ∧ c ≠ closeBracket ∧ c ≠ quoteMark ∧ c ≠ openBrace ∧ c ≠ openBracket := by
  rcases head with digit | rfl
  · simp only [isDigit, Bool.and_eq_true, decide_eq_true_eq] at digit
    have value : ∀ other : CodePoint, other.val < 48 ∨ 57 < other.val → c ≠ other := by
      rintro other outside rfl
      omega
    refine ⟨?_, value _ (by decide), value _ (by decide), value _ (by decide), value _ (by decide)⟩
    have notSpace : c.val ≠ 32 ∧ c.val ≠ 9 ∧ c.val ≠ 10 ∧ c.val ≠ 13 := by omega
    simp [isWs, notSpace.1, notSpace.2.1, notSpace.2.2.1, notSpace.2.2.2]
  · decide

theorem wellFormed_ofInt (value : Int) : (NumberLit.ofInt value).WellFormed :=
  ⟨NumberLit.digits_natDigits _, natDigits_of_head?_zero _, by simp [NumberLit.ofInt],
    by simp [NumberLit.ofInt]⟩

theorem startsValue_dumps (style : JsonStyle) (value : Json) : StartsValue (Json.dumps style value) := by
  have number : ∀ {l : NumberLit}, l.WellFormed → StartsValue l.render := by
    intro l valid
    obtain ⟨c, tail, text, head⟩ := render_head valid
    have plain := numberHead_plain head
    exact ⟨c, tail, text, plain.1, plain.2.1⟩
  cases value with
  | null => exact ⟨_, _, rfl, by decide, by decide⟩
  | bool value => cases value <;> exact ⟨_, _, rfl, by decide, by decide⟩
  | int value => exact number (wellFormed_ofInt value)
  | float value =>
      cases value with
      | finite x => exact number x.prints_reprLit.1
      | inf neg => cases neg <;> exact ⟨_, _, rfl, by decide, by decide⟩
      | nan => exact ⟨_, _, rfl, by decide, by decide⟩
  | str text => exact ⟨quoteMark, _, rfl, by decide, by decide⟩
  | arr items => exact ⟨openBracket, _, rfl, by decide, by decide⟩
  | obj fields => exact ⟨openBrace, _, rfl, by decide, by decide⟩

/-- The scanner reads the encoding of `value` back, before any text that does not
continue a number. -/
def Scans (style : JsonStyle) (value : Json) : Prop :=
  ∀ fuel rest, (Json.dumps style value).length < fuel → NumberEnd rest →
    scanValue fuel (Json.dumps style value ++ rest) = some (Json.ordered style value, rest)

theorem numberEnd_cons {c : CodePoint}
    (plain : isDigit c = false ∧ c.val ≠ 46 ∧ c.val ≠ 101 ∧ c.val ≠ 69) (rest : PyStr) :
    NumberEnd (c :: rest) := by
  intro d member
  cases Option.mem_some_iff.mp member
  exact plain

/-- A number is scanned through the number branch. -/
theorem scanValue_number {l : NumberLit} (valid : l.WellFormed) {fuel : Nat} {rest : PyStr}
    (stop : NumberEnd rest) :
    scanValue (fuel + 1) (l.render ++ rest) = some (numberValue l, rest) := by
  have scanned := scanNumber_render valid stop
  obtain ⟨c, tail, text, head⟩ := render_head valid
  have plain := numberHead_plain head
  rw [text, List.cons_append] at scanned ⊢
  simp only [scanValue, plain.2.2.1, plain.2.2.2.1, plain.2.2.2.2, if_false, scanned]

/-- The items of an array, from the first one on. -/
theorem scanItems_join {style : JsonStyle} (spaced : Spaced style) {items : List Json}
    (nonempty : items ≠ []) (scans : ∀ item ∈ items, Scans style item) {fuel : Nat}
    (rest : PyStr)
    (enough : (joinWith style.itemSep (Json.itemTexts style items)).length + 1 < fuel) :
    scanItems fuel (joinWith style.itemSep (Json.itemTexts style items) ++ closeBracket :: rest) =
      some (Json.orderedItems style items, rest) := by
  induction items generalizing fuel with
  | nil => exact absurd rfl nonempty
  | cons item others ih =>
      cases fuel with
      | zero => omega
      | succ fuel =>
          have itemScans := scans item List.mem_cons_self
          cases others with
          | nil =>
              simp only [Json.itemTexts, joinWith] at enough ⊢
              have scanned := itemScans fuel (closeBracket :: rest) (by omega)
                (numberEnd_cons (by decide) rest)
              have next : skipWs (closeBracket :: rest) = closeBracket :: rest := rfl
              simp only [scanItems, scanned, next, if_true, Json.orderedItems]
          | cons next more =>
              obtain ⟨ws, sep, space⟩ := spaced.item
              rw [Json.itemTexts, joinWith_cons _ _ (by simp [Json.itemTexts]), sep] at enough ⊢
              generalize tailEq : joinWith (comma :: ws) (Json.itemTexts style (next :: more)) = tailText
                at enough ⊢
              rw [sep] at ih
              simp only [List.length_append, List.length_cons] at enough
              have scanned := itemScans fuel (comma :: ws ++ tailText ++ closeBracket :: rest)
                (by omega) (numberEnd_cons (by decide) _)
              have tailScans := ih (by simp)
                (fun other member => scans other (List.mem_cons_of_mem item member))
                (show _ < fuel by rw [tailEq]; omega)
              rw [tailEq] at tailScans
              have tailStarts : StartsValue tailText := by
                rw [← tailEq]
                cases more with
                | nil => exact startsValue_dumps style next
                | cons third more =>
                    exact ((startsValue_dumps style next).append _).append _
              have skipped : skipWs (ws ++ (tailText ++ closeBracket :: rest)) =
                  tailText ++ closeBracket :: rest :=
                skipWs_of_starts space (tailStarts.append _)
              have sepStays : skipWs (comma :: (ws ++ (tailText ++ closeBracket :: rest))) =
                  comma :: (ws ++ (tailText ++ closeBracket :: rest)) := rfl
              simp only [List.append_assoc, List.cons_append] at scanned ⊢
              simp only [scanItems, scanned, sepStays, show comma ≠ closeBracket by decide, if_false,
                if_true, skipped, tailScans, Option.map_some]
              rfl

/-- One field as the encoder writes it. -/
def fieldText (style : JsonStyle) (key : PyStr) (value : PyStr) : PyStr :=
  Json.quoted style key ++ style.keySep ++ value

/-- The fields of an object, after the opening quote of the first key. -/
theorem scanFields_join {style : JsonStyle} (spaced : Spaced style)
    {fields : List (PyStr × Json)} (nonempty : fields ≠ [])
    (scans : ∀ field ∈ fields, ReadsBack style field.1 ∧ Scans style field.2)
    {fuel : Nat} {text : PyStr} (rest : PyStr)
    (joined : joinWith style.itemSep
      (fields.map fun field => fieldText style field.1 (Json.dumps style field.2)) =
        quoteMark :: text)
    (enough : text.length + 2 < fuel) :
    scanFields fuel (text ++ closeBrace :: rest) =
      some (fields.map fun field => (field.1, Json.ordered style field.2), rest) := by
  induction fields generalizing fuel text with
  | nil => exact absurd rfl nonempty
  | cons field others ih =>
      obtain ⟨key, value⟩ := field
      cases fuel with
      | zero => omega
      | succ fuel =>
          obtain ⟨keyReads, valueScans⟩ : ReadsBack style key ∧ Scans style value :=
            scans (key, value) List.mem_cons_self
          obtain ⟨keyWs, keySep, keySpace⟩ := spaced.key
          have valueStarts := startsValue_dumps style value
          -- the key and the colon are scanned alike whatever follows the value
          have head : ∀ after, scanString (key.flatMap style.escape ++ quoteMark ::
              (colon :: keyWs ++ (Json.dumps style value ++ after))) =
                some (key, colon :: keyWs ++ (Json.dumps style value ++ after)) :=
            fun after => keyReads _
          have skipped : ∀ after, skipWs (keyWs ++ (Json.dumps style value ++ after)) =
              Json.dumps style value ++ after :=
            fun after => skipWs_of_starts keySpace (valueStarts.append after)
          have colonStays : ∀ after : PyStr, skipWs (colon :: after) = colon :: after :=
            fun after => rfl
          cases others with
          | nil =>
              rw [List.map_singleton, joinWith, fieldText, Json.quoted, keySep] at joined
              simp only [List.cons_append, List.append_assoc, List.cons.injEq, true_and] at joined
              subst joined
              simp only [List.length_append, List.length_cons, List.length_nil] at enough
              have scanned := valueScans fuel (closeBrace :: rest) (by omega)
                (numberEnd_cons (by decide) rest)
              have braceStays : skipWs (closeBrace :: rest) = closeBrace :: rest := rfl
              have keyScan := head (closeBrace :: rest)
              simp only [List.append_assoc, List.cons_append, List.nil_append] at keyScan ⊢
              simp only [scanFields, keyScan, colonStays, if_true, skipped, scanned, braceStays,
                List.map_cons, List.map_nil]
          | cons next more =>
              obtain ⟨ws, sep, space⟩ := spaced.item
              rw [List.map_cons, joinWith_cons _ _ (by simp)] at joined
              obtain ⟨tailText, tailEq⟩ : ∃ tailText, joinWith style.itemSep
                  ((next :: more).map fun field =>
                    fieldText style field.1 (Json.dumps style field.2)) = quoteMark :: tailText := by
                cases more with
                | nil => exact ⟨_, rfl⟩
                | cons third more => exact ⟨_, rfl⟩
              rw [tailEq, fieldText, Json.quoted, keySep, sep] at joined
              simp only [List.cons_append, List.append_assoc, List.cons.injEq, true_and] at joined
              subst joined
              simp only [List.length_append, List.length_cons, List.length_nil] at enough
              have tailScans := ih (by simp)
                (fun other member => scans other (List.mem_cons_of_mem _ member)) tailEq
                (show _ < fuel by omega)
              have scanned := valueScans fuel
                (comma :: (ws ++ quoteMark :: (tailText ++ closeBrace :: rest))) (by omega)
                (numberEnd_cons (by decide) _)
              have commaStays : ∀ after : PyStr, skipWs (comma :: after) = comma :: after :=
                fun after => rfl
              have quoteSkipped : skipWs (ws ++ quoteMark :: (tailText ++ closeBrace :: rest)) =
                  quoteMark :: (tailText ++ closeBrace :: rest) :=
                skipWs_of_starts space ⟨quoteMark, _, rfl, by decide, by decide⟩
              have keyScan := head (comma :: (ws ++ quoteMark :: (tailText ++ closeBrace :: rest)))
              simp only [List.append_assoc, List.cons_append, List.nil_append] at keyScan ⊢
              simp only [scanFields, keyScan, colonStays, if_true, skipped, scanned, commaStays,
                show comma ≠ closeBrace by decide, if_false, quoteSkipped, tailScans,
                Option.map_some, List.map_cons]

theorem dumps_obj (style : JsonStyle) (fields : List (PyStr × Json)) :
    Json.dumps style (.obj fields) =
      openBrace :: joinWith style.itemSep ((Json.orderFields style fields).map fun field =>
        fieldText style field.1 (Json.dumps style field.2)) ++ [closeBrace] := by
  rw [Json.dumps, Json.fieldTexts_eq_map, Json.orderFields_map, List.map_map]
  rfl

theorem ordered_obj (style : JsonStyle) (fields : List (PyStr × Json)) :
    Json.ordered style (.obj fields) =
      .obj ((Json.orderFields style fields).map fun field =>
        (field.1, Json.ordered style field.2)) := by
  rw [Json.ordered, Json.orderedFields_eq_map, Json.orderFields_map]

/-- The text of a non-empty object starts with the quote of its first key. -/
theorem joinFields_head (style : JsonStyle) {fields : List (PyStr × Json)} (nonempty : fields ≠ []) :
    ∃ text, joinWith style.itemSep
      (fields.map fun field => fieldText style field.1 (Json.dumps style field.2)) =
        quoteMark :: text := by
  cases fields with
  | nil => exact absurd rfl nonempty
  | cons field others =>
      cases others with
      | nil => exact ⟨_, rfl⟩
      | cons next more => exact ⟨_, rfl⟩

theorem scans_arr {style : JsonStyle} (spaced : Spaced style) {items : List Json}
    (scans : ∀ item ∈ items, Scans style item) : Scans style (.arr items) := by
  intro fuel rest enough stop
  cases fuel with
  | zero => omega
  | succ fuel =>
      rw [Json.dumps] at enough ⊢
      simp only [List.length_append, List.length_cons, List.length_nil] at enough
      cases items with
      | nil => rfl
      | cons item others =>
          have scanned := scanItems_join spaced (by simp) scans rest
            (show _ < fuel by omega)
          obtain ⟨c, tail, text, plain, notClose⟩ :
              StartsValue (joinWith style.itemSep (Json.itemTexts style (item :: others))) := by
            cases others with
            | nil => exact startsValue_dumps style item
            | cons next more => exact ((startsValue_dumps style item).append _).append _
          rw [text] at scanned
          simp only [List.cons_append] at scanned
          simp only [text, List.cons_append, List.append_assoc, List.nil_append, scanValue, skipWs,
            List.dropWhile_cons_of_neg (show ¬isWs c = true by simp [plain]), notClose, if_false,
            if_true, show openBracket ≠ quoteMark by decide, show openBracket ≠ openBrace by decide,
            scanned, Option.map_some, Json.ordered]

theorem scans_obj {style : JsonStyle} (spaced : Spaced style) {fields : List (PyStr × Json)}
    (distinct : (fields.map Prod.fst).Nodup)
    (scans : ∀ field ∈ fields, ReadsBack style field.1 ∧ Scans style field.2) :
    Scans style (.obj fields) := by
  intro fuel rest enough stop
  cases fuel with
  | zero => omega
  | succ fuel =>
      have perm := Json.perm_orderFields style fields
      rw [dumps_obj] at enough ⊢
      rw [ordered_obj]
      by_cases empty : Json.orderFields style fields = []
      · rw [empty]
        rfl
      · obtain ⟨text, joined⟩ := joinFields_head style empty
        rw [joined] at enough ⊢
        simp only [List.length_append, List.length_cons, List.length_nil] at enough
        have scanned := scanFields_join spaced empty
          (fun field member => scans field (perm.mem_iff.mp member)) rest joined
          (show _ < fuel by omega)
        have orderedDistinct : (((Json.orderFields style fields).map fun field =>
            (field.1, Json.ordered style field.2)).map Prod.fst).Nodup := by
          have keys := Json.keys_orderFields_nodup style distinct
          simpa [List.map_map, Function.comp_def] using keys
        have stays : skipWs (quoteMark :: (text ++ closeBrace :: rest)) =
            quoteMark :: (text ++ closeBrace :: rest) := rfl
        simp only [List.cons_append, List.append_assoc, List.nil_append, scanValue, stays,
          show openBrace ≠ quoteMark by decide, show quoteMark ≠ closeBrace by decide, if_false,
          if_true, scanned, Option.map_some, Dict.ofPairs_of_nodup orderedDistinct]

/-- Every value whose strings the escapes preserve is scanned back. -/
theorem scans_of_readsBack {style : JsonStyle} (spaced : Spaced style) (value : Json)
    (distinct : value.Distinct) (strings : value.AllStrings (ReadsBack style)) :
    Scans style value := by
  induction value using Json.dumps.induct
    (motive_2 := fun fields => Json.DistinctFields fields →
      Json.AllStringsFields (ReadsBack style) fields →
        ∀ field ∈ fields, ReadsBack style field.1 ∧ Scans style field.2)
    (motive_3 := fun items => Json.DistinctItems items →
      Json.AllStringsItems (ReadsBack style) items → ∀ item ∈ items, Scans style item) with
  | case1 | case2 | case3 =>
      intro fuel rest enough stop
      cases fuel with
      | zero => omega
      | succ fuel => rfl
  | case4 value =>
      intro fuel rest enough stop
      cases fuel with
      | zero => omega
      | succ fuel =>
          rw [Json.dumps, scanValue_number (wellFormed_ofInt value) stop]
          simp only [numberValue, NumberLit.intValue_ofInt, Json.ordered]
          rfl
  | case5 value =>
      intro fuel rest enough stop
      cases fuel with
      | zero => omega
      | succ fuel =>
          cases value with
          | finite x =>
              obtain ⟨valid, isFloat, same⟩ := x.prints_reprLit
              rw [Json.dumps, Json.floatText, scanValue_number valid stop]
              simp only [numberValue, isFloat, same, if_true, Json.ordered]
          | inf neg => cases neg <;> rfl
          | nan => rfl
  | case6 text =>
      intro fuel rest enough stop
      cases fuel with
      | zero => omega
      | succ fuel =>
          have scanned := strings rest
          rw [Json.dumps, Json.quoted]
          simp only [List.cons_append, List.append_assoc, List.nil_append, scanValue, if_true,
            scanned, Option.map_some, Json.ordered]
  | case7 items ih => exact scans_arr spaced (ih distinct strings)
  | case8 fields ih => exact scans_obj spaced distinct.1 (ih distinct.2 strings)
  | case9 _ _ item member => cases member
  | case10 item rest itemIH restIH distinctAll stringsAll other member =>
      rcases List.mem_cons.mp member with rfl | tail
      · exact itemIH distinctAll.1 stringsAll.1
      · exact restIH distinctAll.2 stringsAll.2 other tail
  | case11 _ _ field member => cases member
  | case12 key value rest valueIH restIH distinctAll stringsAll field member =>
      rcases List.mem_cons.mp member with rfl | tail
      · exact ⟨stringsAll.1, valueIH distinctAll.1 stringsAll.2.1⟩
      · exact restIH distinctAll.2 stringsAll.2.2 field tail

end JsonScanner

open JsonScanner in
/-- `json.loads` inverts `json.dumps`, white space after the text included. -/
theorem loads_dumps {style : JsonStyle} (spaced : Spaced style) {value : Json}
    (distinct : value.Distinct) (strings : value.AllStrings (ReadsBack style)) {ws : PyStr}
    (space : ∀ c ∈ ws, isWs c = true) :
    loads (Json.dumps style value ++ ws) = some (Json.ordered style value) := by
  have scans := scans_of_readsBack spaced value distinct strings
  have starts : StartsValue (Json.dumps style value ++ ws) :=
    (startsValue_dumps style value).append ws
  have stop : NumberEnd ws := by
    intro c member
    have white := space c (List.mem_of_mem_head? member)
    simp only [isWs, Bool.or_eq_true, beq_iff_eq] at white
    refine ⟨?_, by omega, by omega, by omega⟩
    have below : ¬48 ≤ c.val := by omega
    simp [isDigit, below]
  have noLead : skipWs (Json.dumps style value ++ ws) = Json.dumps style value ++ ws :=
    @skipWs_of_starts [] _ (by simp) starts
  have allDropped : skipWs ws = [] := by
    rw [skipWs, List.dropWhile_eq_nil_iff]
    exact space
  have scanned := scans ((Json.dumps style value ++ ws).length + 1) ws
    (by rw [List.length_append]; omega) stop
  rw [loads, noLead, scanned]
  simp only [allDropped, if_true]

end HermesMesh.Python
