import HermesMesh.Python.JsonRoundTrip

/-!
# Facts about JSON texts and decoded values

What characters an encoding can contain, that decoded objects never repeat a key,
and that an encoding determines its value up to the order of fields.
-/

namespace HermesMesh.Python

/-- A character of printable ASCII. -/
def IsPlain (c : CodePoint) : Prop := 32 ≤ c.val ∧ c.val < 127

instance (c : CodePoint) : Decidable (IsPlain c) := by
  unfold IsPlain
  infer_instance

/-- Plainness of a literal is checked character by character. -/
theorem isPlain_lit (text : String) (all : (lit text).all (fun c => decide (IsPlain c)) = true) :
    ∀ c ∈ lit text, IsPlain c :=
  fun c member => of_decide_eq_true (List.all_eq_true.mp all c member)

/-- Printable ASCII has no surrogates. -/
theorem encodable_of_plain {text : PyStr} (plain : ∀ c ∈ text, IsPlain c) : Encodable text :=
  fun c member => CodePoint.toChar?_of_lt (lt_of_lt_of_le (plain c member).2 (by norm_num))

namespace NumberLit

/-- Number literals have digits, signs, points and the letter of the exponent. -/
theorem render_bounds {l : NumberLit} (valid : l.WellFormed) :
    ∀ c ∈ l.render, 43 ≤ c.val ∧ c.val ≤ 101 := by
  have digitBounds : ∀ c, isDigit c = true → 43 ≤ c.val ∧ c.val ≤ 101 := by
    intro c digit
    simp only [isDigit, Bool.and_eq_true, decide_eq_true_eq] at digit
    omega
  obtain ⟨neg, whole, frac, exp⟩ := l
  obtain ⟨⟨-, wholeDigits⟩, -, fracRun, expRun⟩ := valid
  intro c member
  simp only [render, List.mem_append] at member
  rcases member with ((inSign | inWhole) | inFrac) | inExp
  · cases neg with
    | true =>
        have minus : c = 45 := by
          have text : lit "-" = [45] := rfl
          simpa [text] using inSign
        subst minus
        decide
    | false => cases inSign
  · exact digitBounds _ (wholeDigits c inWhole)
  · cases frac with
    | none => cases inFrac
    | some digits =>
        rcases List.mem_append.mp inFrac with point | digit
        · have text : lit "." = [46] := rfl
          rw [text, List.mem_singleton] at point
          subst point
          decide
        · exact digitBounds _ ((fracRun digits rfl).2 c digit)
  · cases exp with
    | none => cases inExp
    | some part =>
        simp only [Option.elim_some, List.mem_append] at inExp
        rcases inExp with (letter | sign) | digit
        · have text : lit "e" = [101] := rfl
          rw [text, List.mem_singleton] at letter
          subst letter
          decide
        · obtain ⟨sign', digits⟩ := part
          rcases sign' with _ | _ | _
          · cases sign
          · have text : signText (some false) = [43] := rfl
            rw [text, List.mem_singleton] at sign
            subst sign
            decide
          · have text : signText (some true) = [45] := rfl
            rw [text, List.mem_singleton] at sign
            subst sign
            decide
        · exact digitBounds _ ((expRun part rfl).2 c digit)

/-- Number literals are printable ASCII. -/
theorem isPlain_render {l : NumberLit} (valid : l.WellFormed) : ∀ c ∈ l.render, IsPlain c := by
  intro c member
  have bounds := render_bounds valid c member
  exact ⟨by omega, by omega⟩

end NumberLit

namespace Json

theorem mem_joinWith {sep : PyStr} {texts : List PyStr} {c : CodePoint}
    (member : c ∈ joinWith sep texts) : c ∈ sep ∨ ∃ text ∈ texts, c ∈ text := by
  induction texts with
  | nil => cases member
  | cons text rest ih =>
      cases rest with
      | nil => exact .inr ⟨text, List.mem_cons_self, member⟩
      | cons next more =>
          rw [joinWith_cons _ _ (by simp), List.mem_append, List.mem_append] at member
          rcases member with (inText | inSep) | inRest
          · exact .inr ⟨text, List.mem_cons_self, inText⟩
          · exact .inl inSep
          · rcases ih inRest with inSep | ⟨other, otherMem, inOther⟩
            · exact .inl inSep
            · exact .inr ⟨other, List.mem_cons_of_mem _ otherMem, inOther⟩

theorem isPlain_floatText (value : PyFloat) : ∀ c ∈ floatText value, IsPlain c := by
  cases value with
  | finite x => exact NumberLit.isPlain_render x.prints_reprLit.1
  | inf neg =>
      cases neg with
      | false => exact isPlain_lit "Infinity" (by decide)
      | true => exact isPlain_lit "-Infinity" (by decide)
  | nan => exact isPlain_lit "NaN" (by decide)

/-- A property of all printable ASCII and of all escapes of a value's strings
holds of its whole encoding. -/
theorem forall_mem_dumps {style : JsonStyle} {good : CodePoint → Prop}
    (plain : ∀ c, IsPlain c → good c) (itemSep : ∀ c ∈ style.itemSep, good c)
    (keySep : ∀ c ∈ style.keySep, good c) (value : Json)
    (strings : value.AllStrings fun text => ∀ c ∈ text, ∀ d ∈ style.escape c, good d) :
    ∀ c ∈ dumps style value, good c := by
  have quotes : ∀ text : PyStr, (∀ c ∈ text, ∀ d ∈ style.escape c, good d) →
      ∀ c ∈ quoted style text, good c := by
    intro text inside c member
    simp only [quoted, List.cons_append, List.mem_cons, List.mem_append, List.mem_flatMap,
      List.not_mem_nil, or_false] at member
    rcases member with rfl | ⟨d, dMem, inEscape⟩ | rfl
    · exact plain _ (by decide)
    · exact inside d dMem c inEscape
    · exact plain _ (by decide)
  induction value using dumps.induct
    (motive_2 := fun fields => AllStringsFields (fun text => ∀ c ∈ text, ∀ d ∈ style.escape c, good d)
      fields → ∀ field ∈ fieldTexts style fields,
        (∀ c ∈ field.1, ∀ d ∈ style.escape c, good d) ∧ ∀ c ∈ field.2, good c)
    (motive_3 := fun items => AllStringsItems (fun text => ∀ c ∈ text, ∀ d ∈ style.escape c, good d)
      items → ∀ text ∈ itemTexts style items, ∀ c ∈ text, good c) with
  | case1 => exact fun c member => plain c (isPlain_lit "null" (by decide) c member)
  | case2 => exact fun c member => plain c (isPlain_lit "true" (by decide) c member)
  | case3 => exact fun c member => plain c (isPlain_lit "false" (by decide) c member)
  | case4 value =>
      exact fun c member => plain c
        (NumberLit.isPlain_render (JsonScanner.wellFormed_ofInt value) c member)
  | case5 value => exact fun c member => plain c (isPlain_floatText value c member)
  | case6 text => exact quotes text strings
  | case7 items ih =>
      intro c member
      simp only [dumps, List.cons_append, List.mem_cons, List.mem_append, List.not_mem_nil,
        or_false] at member
      rcases member with rfl | inside | rfl
      · exact plain _ (by decide)
      · rcases mem_joinWith inside with inSep | ⟨text, textMem, inText⟩
        · exact itemSep c inSep
        · exact ih strings text textMem c inText
      · exact plain _ (by decide)
  | case8 fields ih =>
      intro c member
      simp only [dumps, List.cons_append, List.mem_cons, List.mem_append, List.not_mem_nil,
        or_false] at member
      rcases member with rfl | inside | rfl
      · exact plain _ (by decide)
      · rcases mem_joinWith inside with inSep | ⟨text, textMem, inText⟩
        · exact itemSep c inSep
        · obtain ⟨field, fieldMem, rfl⟩ := List.mem_map.mp textMem
          have good := ih strings field ((perm_orderFields style _).mem_iff.mp fieldMem)
          simp only [List.mem_append] at inText
          rcases inText with (inKey | inSep) | inValue
          · exact quotes field.1 good.1 c inKey
          · exact keySep c inSep
          · exact good.2 c inValue
      · exact plain _ (by decide)
  | case9 _ text member _ _ => cases member
  | case10 item rest itemIH restIH stringsAll text member _ inText =>
      rcases List.mem_cons.mp member with rfl | tail
      · exact itemIH stringsAll.1 _ inText
      · exact restIH stringsAll.2 text tail _ inText
  | case11 _ field member => cases member
  | case12 key value rest valueIH restIH stringsAll field member =>
      rcases List.mem_cons.mp member with rfl | tail
      · exact ⟨stringsAll.1, valueIH stringsAll.2.1⟩
      · exact restIH stringsAll.2.2 field tail

theorem mem_joinWith_of_mem {sep text : PyStr} {texts : List PyStr} {c : CodePoint}
    (member : text ∈ texts) (inside : c ∈ text) : c ∈ joinWith sep texts := by
  induction texts with
  | nil => cases member
  | cons first rest ih =>
      cases rest with
      | nil => exact List.mem_singleton.mp member ▸ inside
      | cons next more =>
          rw [joinWith_cons _ _ (by simp), List.mem_append, List.mem_append]
          rcases List.mem_cons.mp member with rfl | later
          · exact .inl (.inl inside)
          · exact .inr (ih later)

/-- A property of a whole encoding holds of all escapes of the value's strings. -/
theorem allStrings_of_dumps {style : JsonStyle} {good : CodePoint → Prop} (value : Json)
    (all : ∀ c ∈ dumps style value, good c) :
    value.AllStrings fun text => ∀ c ∈ text, ∀ d ∈ style.escape c, good d := by
  have inQuotes : ∀ text : PyStr, (∀ c ∈ quoted style text, good c) →
      ∀ c ∈ text, ∀ d ∈ style.escape c, good d := by
    intro text quotedGood c member d inEscape
    refine quotedGood d ?_
    simp only [quoted, List.cons_append, List.mem_cons, List.mem_append, List.mem_flatMap]
    exact .inr (.inl ⟨c, member, inEscape⟩)
  induction value using dumps.induct
    (motive_2 := fun fields => (∀ field ∈ fieldTexts style fields,
      (∀ c ∈ field.1, ∀ d ∈ style.escape c, good d) ∧ ∀ c ∈ field.2, good c) →
        AllStringsFields (fun text => ∀ c ∈ text, ∀ d ∈ style.escape c, good d) fields)
    (motive_3 := fun items => (∀ text ∈ itemTexts style items, ∀ c ∈ text, good c) →
      AllStringsItems (fun text => ∀ c ∈ text, ∀ d ∈ style.escape c, good d) items) with
  | case1 | case2 | case3 | case4 | case5 => trivial
  | case6 text => exact inQuotes text all
  | case7 items ih =>
      refine ih fun text member c inText => all c ?_
      simp only [dumps, List.cons_append, List.mem_cons, List.mem_append]
      exact .inr (.inl (mem_joinWith_of_mem member inText))
  | case8 fields ih =>
      refine ih fun field member => ?_
      have written : ∀ c ∈ quoted style field.1 ++ style.keySep ++ field.2, good c := by
        intro c inText
        refine all c ?_
        have isText := List.mem_map_of_mem (f := fun field : PyStr × PyStr =>
          quoted style field.1 ++ style.keySep ++ field.2)
            ((perm_orderFields style _).mem_iff.mpr member)
        simp only [dumps, List.cons_append, List.mem_cons, List.mem_append]
        exact .inr (.inl (mem_joinWith_of_mem isText inText))
      simp only [List.mem_append] at written
      exact ⟨inQuotes field.1 fun c inKey => written c (.inl (.inl inKey)),
        fun c inValue => written c (.inr inValue)⟩
  | case9 => trivial
  | case10 item rest itemIH restIH texts =>
      exact ⟨itemIH (texts _ List.mem_cons_self),
        restIH fun text member => texts text (List.mem_cons_of_mem _ member)⟩
  | case11 => trivial
  | case12 key value rest valueIH restIH texts =>
      obtain ⟨keyGood, valueGood⟩ := texts (key, dumps style value) List.mem_cons_self
      exact ⟨keyGood, valueIH valueGood,
        restIH fun field member => texts field (List.mem_cons_of_mem _ member)⟩

/-- Weakening of a property of all strings. -/
theorem AllStrings.imp {good other : PyStr → Prop} (weaker : ∀ text, good text → other text)
    (value : Json) (strings : value.AllStrings good) : value.AllStrings other := by
  induction value using AllStrings.induct
    (motive_2 := fun fields => AllStringsFields good fields → AllStringsFields other fields)
    (motive_3 := fun items => AllStringsItems good items → AllStringsItems other items) with
  | case1 | case2 | case3 | case4 => trivial
  | case5 text => exact weaker text strings
  | case6 items ih => exact ih strings
  | case7 fields ih => exact ih strings
  | case8 => trivial
  | case9 item rest itemIH restIH stringsAll =>
      exact ⟨itemIH stringsAll.1, restIH stringsAll.2⟩
  | case10 => trivial
  | case11 key value rest valueIH restIH stringsAll =>
      exact ⟨weaker key stringsAll.1, valueIH stringsAll.2.1, restIH stringsAll.2.2⟩

/-- What holds of every text holds of all strings of a value. -/
theorem allStrings_of_forall {good : PyStr → Prop} (always : ∀ text, good text) (value : Json) :
    value.AllStrings good := by
  induction value using AllStrings.induct
    (motive_2 := fun fields => AllStringsFields good fields)
    (motive_3 := fun items => AllStringsItems good items) with
  | case1 | case2 | case3 | case4 => trivial
  | case5 text => exact always text
  | case6 items ih => exact ih
  | case7 fields ih => exact ih
  | case8 => trivial
  | case9 item rest itemIH restIH => exact ⟨itemIH, restIH⟩
  | case10 => trivial
  | case11 key value rest valueIH restIH => exact ⟨always key, valueIH, restIH⟩

theorem allStringsFields_iff {good : PyStr → Prop} {fields : List (PyStr × Json)} :
    AllStringsFields good fields ↔ ∀ field ∈ fields, good field.1 ∧ field.2.AllStrings good := by
  induction fields with
  | nil => simp [AllStringsFields]
  | cons field rest ih =>
      obtain ⟨key, value⟩ := field
      rw [AllStringsFields, ih, List.forall_mem_cons, and_assoc]

/-- A field of an object has only strings of the object. -/
theorem AllStrings.get? {good : PyStr → Prop} {fields : Dict PyStr Json} {key : PyStr} {value : Json}
    (strings : (Json.obj fields).AllStrings good) (found : Dict.get? key fields = some value) :
    value.AllStrings good :=
  (allStringsFields_iff.mp strings _ (Dict.mem_of_get? found)).2

/-- An object keeps a property of its strings when it is given another field. -/
theorem AllStrings.set {good : PyStr → Prop} {fields : Dict PyStr Json} {key : PyStr} {value : Json}
    (strings : (Json.obj fields).AllStrings good) (keyGood : good key)
    (valueGood : value.AllStrings good) : (Json.obj (Dict.set key value fields)).AllStrings good := by
  change AllStringsFields good fields at strings
  change AllStringsFields good (Dict.set key value fields)
  induction fields with
  | nil => exact ⟨keyGood, valueGood, trivial⟩
  | cons field rest ih =>
      obtain ⟨other, old⟩ := field
      obtain ⟨otherGood, oldGood, restGood⟩ := strings
      rw [Dict.set]
      split
      · exact ⟨otherGood, valueGood, restGood⟩
      · exact ⟨otherGood, oldGood, ih restGood⟩

/-! ## Decoded values -/

theorem distinctItems_iff {items : List Json} :
    DistinctItems items ↔ ∀ item ∈ items, item.Distinct := by
  induction items with
  | nil => simp [DistinctItems]
  | cons item rest ih => simp [DistinctItems, ih]

theorem distinctFields_iff {fields : List (PyStr × Json)} :
    DistinctFields fields ↔ ∀ field ∈ fields, field.2.Distinct := by
  induction fields with
  | nil => simp [DistinctFields]
  | cons field rest ih => simp [DistinctFields, ih]

end Json

namespace Dict

/-- A property of all values of a list of pairs holds of all values of its dictionary. -/
theorem forall_mem_ofPairs {κ α : Type} [DecidableEq κ] {good : α → Prop} {pairs : List (κ × α)}
    (all : ∀ pair ∈ pairs, good pair.2) : ∀ pair ∈ ofPairs pairs, good pair.2 := by
  have setGood : ∀ (d : Dict κ α) (key : κ) (value : α), good value →
      (∀ pair ∈ d, good pair.2) → ∀ pair ∈ d.set key value, good pair.2 := by
    intro d key value valueGood
    induction d with
    | nil => simpa [set] using valueGood
    | cons head rest ih =>
        intro dGood pair member
        obtain ⟨other, old⟩ := head
        have restGood := ih fun pair member => dGood pair (List.mem_cons_of_mem _ member)
        rw [set] at member
        split at member
        · rcases List.mem_cons.mp member with rfl | later
          · exact valueGood
          · exact dGood pair (List.mem_cons_of_mem _ later)
        · rcases List.mem_cons.mp member with rfl | later
          · exact dGood _ List.mem_cons_self
          · exact restGood pair later
  have run : ∀ start : Dict κ α, (∀ pair ∈ start, good pair.2) →
      ∀ pair ∈ pairs.foldl (fun d pair => d.set pair.1 pair.2) start, good pair.2 := by
    induction pairs with
    | nil => exact fun _ startGood => startGood
    | cons head rest ih =>
        intro start startGood
        exact ih (fun pair member => all pair (List.mem_cons_of_mem _ member)) _
          (setGood start head.1 head.2 (all head List.mem_cons_self) startGood)
  exact run [] (by simp)

end Dict

namespace JsonScanner

theorem distinct_numberValue (l : NumberLit) : (numberValue l).Distinct := by
  unfold numberValue
  split <;> trivial

theorem distinct_of_scanConstant {text tail : PyStr} {value : Json}
    (scanned : scanConstant text = some (value, tail)) : value.Distinct := by
  obtain ⟨⟨name, named⟩, member, found⟩ := List.exists_of_findSome?_eq_some scanned
  simp only [Option.ite_none_right_eq_some, Option.some.injEq, Prod.mk.injEq] at found
  obtain ⟨-, rfl, -⟩ := found
  simp only [constants, List.mem_cons, Prod.mk.injEq, List.not_mem_nil, or_false] at member
  rcases member with ⟨-, rfl⟩ | ⟨-, rfl⟩ | ⟨-, rfl⟩ | ⟨-, rfl⟩ | ⟨-, rfl⟩ | ⟨-, rfl⟩ <;> trivial

/-- The scanner builds dictionaries, so no object it returns repeats a key. -/
theorem distinct_of_scan (fuel : Nat) :
    (∀ text value tail, scanValue fuel text = some (value, tail) → value.Distinct) ∧
      (∀ text items tail, scanItems fuel text = some (items, tail) →
        ∀ item ∈ items, item.Distinct) ∧
      ∀ text fields tail, scanFields fuel text = some (fields, tail) →
        ∀ field ∈ fields, field.2.Distinct := by
  induction fuel with
  | zero =>
      refine ⟨fun _ _ _ scanned => ?_, fun _ _ _ scanned => ?_, fun _ _ _ scanned => ?_⟩ <;>
        simp [scanValue, scanItems, scanFields] at scanned
  | succ fuel ih =>
      obtain ⟨valueIH, itemsIH, fieldsIH⟩ := ih
      refine ⟨fun text value tail scanned => ?_, fun text items tail scanned => ?_,
        fun text fields tail scanned => ?_⟩
      · cases text with
        | nil => simp [scanValue] at scanned
        | cons c rest =>
            simp only [scanValue] at scanned
            split at scanned
            · obtain ⟨⟨string, left⟩, -, same⟩ := Option.map_eq_some_iff.mp scanned
              cases same
              trivial
            · split at scanned
              · split at scanned
                · cases scanned
                · split at scanned
                  · cases scanned
                    exact ⟨List.nodup_nil, trivial⟩
                  · split at scanned
                    · obtain ⟨⟨pairs, left⟩, inner, same⟩ := Option.map_eq_some_iff.mp scanned
                      cases same
                      exact ⟨Dict.ofPairs_keys_nodup pairs, Json.distinctFields_iff.mpr
                        (Dict.forall_mem_ofPairs (fieldsIH _ _ _ inner))⟩
                    · cases scanned
              · split at scanned
                · split at scanned
                  · cases scanned
                  · split at scanned
                    · cases scanned
                      trivial
                    · obtain ⟨⟨items, left⟩, inner, same⟩ := Option.map_eq_some_iff.mp scanned
                      cases same
                      exact Json.distinctItems_iff.mpr (itemsIH _ _ _ inner)
                · split at scanned
                  · cases scanned
                    exact distinct_numberValue _
                  · exact distinct_of_scanConstant scanned
      · simp only [scanItems] at scanned
        split at scanned
        · cases scanned
        · next item afterItem itemScan =>
            have itemDistinct := valueIH _ _ _ itemScan
            split at scanned
            · cases scanned
            · split at scanned
              · cases scanned
                simpa using itemDistinct
              · split at scanned
                · obtain ⟨⟨others, left⟩, inner, same⟩ := Option.map_eq_some_iff.mp scanned
                  cases same
                  exact List.forall_mem_cons.mpr ⟨itemDistinct, itemsIH _ _ _ inner⟩
                · cases scanned
      · simp only [scanFields] at scanned
        split at scanned
        · cases scanned
        · split at scanned
          · cases scanned
          · split at scanned
            · split at scanned
              · cases scanned
              · next value afterValue valueScan =>
                  have valueDistinct := valueIH _ _ _ valueScan
                  split at scanned
                  · cases scanned
                  · split at scanned
                    · cases scanned
                      simpa using valueDistinct
                    · split at scanned
                      · split at scanned
                        · cases scanned
                        · split at scanned
                          · obtain ⟨⟨others, left⟩, inner, same⟩ :=
                              Option.map_eq_some_iff.mp scanned
                            cases same
                            exact List.forall_mem_cons.mpr ⟨valueDistinct, fieldsIH _ _ _ inner⟩
                          · cases scanned
                      · cases scanned
            · cases scanned

end JsonScanner

theorem distinct_of_loads {text : PyStr} {value : Json} (decoded : loads text = some value) :
    value.Distinct := by
  unfold loads at decoded
  split at decoded
  · next found tail scanned =>
      split at decoded
      · cases decoded
        exact (JsonScanner.distinct_of_scan _).1 _ _ _ scanned
      · cases decoded
  · cases decoded

/-! ## The canonical encoding -/

namespace Json

/-- The canonical text of a value is read back as the value, fields sorted. -/
theorem loads_canonical {value : Json} (distinct : value.Distinct) {ws : PyStr}
    (space : ∀ c ∈ ws, JsonScanner.isWs c = true) :
    loads (dumps .canonical value ++ ws) = some (ordered .canonical value) :=
  loads_dumps JsonScanner.spaced_canonical distinct
    (allStrings_of_forall (JsonScanner.readsBack_escapePlain .canonical rfl) value) space

/-- Encodings are self-delimiting: two that start the same text, and are not followed by
more of a number, are of the same value up to the order of fields. -/
theorem dumps_append_inj {style : JsonStyle} (spaced : JsonScanner.Spaced style)
    (escape : style.escape = escapePlain) {left right : Json} (leftDistinct : left.Distinct)
    (rightDistinct : right.Distinct) {leftRest rightRest : PyStr}
    (leftEnd : JsonScanner.NumberEnd leftRest) (rightEnd : JsonScanner.NumberEnd rightRest)
    (same : dumps style left ++ leftRest = dumps style right ++ rightRest) :
    ordered style left = ordered style right ∧ leftRest = rightRest := by
  have scans : ∀ value : Json, value.Distinct → JsonScanner.Scans style value :=
    fun value distinct => JsonScanner.scans_of_readsBack spaced value distinct
      (allStrings_of_forall (JsonScanner.readsBack_escapePlain style escape) value)
  have leftScan := scans left leftDistinct
    ((dumps style left).length + (dumps style right).length + 1) leftRest (by omega) leftEnd
  have rightScan := scans right rightDistinct
    ((dumps style left).length + (dumps style right).length + 1) rightRest (by omega) rightEnd
  rw [same, rightScan, Option.some.injEq, Prod.mk.injEq] at leftScan
  exact ⟨leftScan.1.symm, leftScan.2.symm⟩

/-- The canonical text determines the value up to the order of fields. -/
theorem ordered_eq_of_dumps_eq {left right : Json} (leftDistinct : left.Distinct)
    (rightDistinct : right.Distinct) (same : dumps .canonical left = dumps .canonical right) :
    ordered .canonical left = ordered .canonical right := by
  have leftBack := @loads_canonical left leftDistinct [] (by simp)
  have rightBack := @loads_canonical right rightDistinct [] (by simp)
  rw [same, rightBack] at leftBack
  exact (Option.some.inj leftBack).symm

/-- A plain escape is printable ASCII, or the character itself when that is no control. -/
theorem mem_escapePlain {c d : CodePoint} (member : d ∈ escapePlain c) :
    IsPlain d ∨ d = c ∧ 32 ≤ c.val := by
  have hexPlain : ∀ n : Fin 16, IsPlain (hexDigit n) := by decide
  have plain : ∀ text : String, (lit text).all (fun c => decide (IsPlain c)) = true →
      d ∈ backslash :: lit text → IsPlain d := by
    intro text all inside
    rcases List.mem_cons.mp inside with rfl | inText
    · decide
    · exact isPlain_lit text all d inText
  unfold escapePlain at member
  split at member
  · left
    simp only [List.mem_cons, List.not_mem_nil, or_false] at member
    rcases member with rfl | rfl <;> decide
  split at member
  · left
    simp only [List.mem_cons, List.not_mem_nil, or_false] at member
    rcases member with rfl | rfl <;> decide
  split at member
  · exact .inl (plain "b" (by decide) member)
  split at member
  · exact .inl (plain "t" (by decide) member)
  split at member
  · exact .inl (plain "n" (by decide) member)
  split at member
  · exact .inl (plain "f" (by decide) member)
  split at member
  · exact .inl (plain "r" (by decide) member)
  split at member
  · next control =>
      left
      rcases List.mem_append.mp member with inLead | inDigits
      · exact plain "u00" (by decide) inLead
      · simp only [List.mem_cons, List.not_mem_nil, or_false] at inDigits
        rcases inDigits with rfl | rfl
        · exact hexPlain ⟨c.val / 16, by omega⟩
        · exact hexPlain ⟨c.val % 16, by omega⟩
  · next notControl =>
      rw [List.mem_singleton] at member
      exact .inr ⟨member, by omega⟩

/-- The characters of a canonical text: printable ASCII and the uncontrolled
characters of the value's strings. -/
theorem forall_mem_canonical {good : CodePoint → Prop} (plain : ∀ c, IsPlain c → good c)
    (value : Json) (strings : value.AllStrings fun text => ∀ c ∈ text, 32 ≤ c.val → good c) :
    ∀ c ∈ dumps .canonical value, good c := by
  refine forall_mem_dumps plain ?_ ?_ value (AllStrings.imp ?_ value strings)
  · exact fun c member => plain c (List.mem_singleton.mp member ▸ by decide)
  · exact fun c member => plain c (List.mem_singleton.mp member ▸ by decide)
  · intro text inside c member d escaped
    rcases mem_escapePlain escaped with isPlain | ⟨rfl, uncontrolled⟩
    · exact plain d isPlain
    · exact inside d member uncontrolled

/-- A canonical text has no control characters, so it is one line of a file. -/
theorem uncontrolled_canonical (value : Json) : ∀ c ∈ dumps .canonical value, 32 ≤ c.val :=
  forall_mem_canonical (fun _ plain => plain.1) value
    (allStrings_of_forall (fun _ _ _ uncontrolled => uncontrolled) value)

theorem isFiniteFields_iff {fields : List (PyStr × Json)} :
    isFiniteFields fields = true ↔ ∀ field ∈ fields, field.2.isFinite = true := by
  induction fields with
  | nil => simp [isFiniteFields]
  | cons field rest ih => simp [isFiniteFields, ih]

/-- Reading a value back does not change whether it is finite. -/
theorem isFinite_ordered (style : JsonStyle) (value : Json) :
    (ordered style value).isFinite = value.isFinite := by
  induction value using dumps.induct
    (motive_2 := fun fields => isFiniteFields (orderedFields style fields) = isFiniteFields fields)
    (motive_3 := fun items => isFiniteItems (orderedItems style items) = isFiniteItems items) with
  | case1 | case2 | case3 | case4 | case5 | case6 => rfl
  | case7 items ih => simp only [ordered, isFinite, ih]
  | case8 fields ih =>
      rw [ordered, isFinite, isFinite, ← ih, Bool.eq_iff_iff, isFiniteFields_iff,
        isFiniteFields_iff]
      have same := perm_orderFields style (orderedFields style fields)
      exact ⟨fun all field member => all field (same.mem_iff.mpr member),
        fun all field member => all field (same.mem_iff.mp member)⟩
  | case9 => rfl
  | case10 item rest itemIH restIH => simp only [orderedItems, isFiniteItems, itemIH, restIH]
  | case11 => rfl
  | case12 key value rest valueIH restIH =>
      simp only [orderedFields, isFiniteFields, valueIH, restIH]

/-- Texts without surrogates make a text that UTF-8 can hold. -/
theorem encodable_canonical {value : Json} (strings : value.AllStrings Encodable) :
    Encodable (dumps .canonical value) := by
  refine forall_mem_canonical (fun c plain => CodePoint.toChar?_of_lt ?_) value
    (AllStrings.imp (fun text encodable c member _ => encodable c member) value strings)
  exact lt_of_lt_of_le plain.2 (by norm_num)

/-- A canonical text that UTF-8 can hold comes from texts without surrogates. -/
theorem encodable_of_canonical {value : Json} (encodable : Encodable (dumps .canonical value)) :
    value.AllStrings Encodable := by
  refine AllStrings.imp (fun text escapes c member => ?_) value (allStrings_of_dumps value encodable)
  by_cases small : c.val < 0xd800
  · exact CodePoint.toChar?_of_lt small
  · have large : 0xd800 ≤ c.val := Nat.le_of_not_lt small
    have notQuote : c ≠ quoteMark := fun equal => absurd (equal ▸ large) (by decide)
    have notSlash : c ≠ backslash := fun equal => absurd (equal ▸ large) (by decide)
    have itself : escapePlain c = [c] := by
      unfold escapePlain
      rw [if_neg notQuote, if_neg notSlash, if_neg (by omega), if_neg (by omega), if_neg (by omega),
        if_neg (by omega), if_neg (by omega), if_neg (by omega)]
    refine escapes c member c ?_
    change c ∈ escapePlain c
    rw [itself]
    exact List.mem_singleton_self c

end Json

end HermesMesh.Python
