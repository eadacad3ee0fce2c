import HermesMesh.Python.JsonFacts

/-!
# Python's texts of values

`str` and `repr` of a JSON value as Python's built-in types render it, and the
Unicode tables those and a few string methods consult.  The tables are a
parameter; what they say of ASCII is part of it.
-/

namespace HermesMesh.Python

/-- The lower-case form of an ASCII character. -/
def asciiLower (c : CodePoint) : CodePoint :=
  if 65 ≤ c.val ∧ c.val ≤ 90 then Fin.ofNat _ (c.val + 32) else c

/-- ASCII letters and digits. -/
def asciiAlnum (c : CodePoint) : Bool :=
  isDigit c || (65 ≤ c.val && c.val ≤ 90) || (97 ≤ c.val && c.val ≤ 122)

/-- The Unicode data behind `str.lower`, `str.isalnum` and `repr`. -/
structure UnicodeData where
  lower : PyStr → PyStr
  isAlnum : CodePoint → Bool
  isPrintable : CodePoint → Bool
  lower_ascii : ∀ text, (∀ c ∈ text, c.val < 128) → lower text = text.map asciiLower
  isAlnum_ascii : ∀ c, c.val < 128 → isAlnum c = asciiAlnum c
  isPrintable_ascii : ∀ c, c.val < 128 → isPrintable c = decide (IsPlain c)

/-- Unicode data that knows ASCII only. -/
def UnicodeData.ascii : UnicodeData where
  lower := List.map asciiLower
  isAlnum := fun c => decide (c.val < 128) && asciiAlnum c
  isPrintable := fun c => decide (IsPlain c)
  lower_ascii := fun _ _ => rfl
  isAlnum_ascii := fun c small => by simp [small]
  isPrintable_ascii := fun _ _ => rfl

/-- The last `count` hexadecimal digits of a number. -/
def hexDigits : Nat → Nat → PyStr
  | 0, _ => []
  | count + 1, value => hexDigits count (value / 16) ++ [hexDigit (value % 16)]

/-- One character inside a `repr` with the given quote. -/
def reprChar (unicode : UnicodeData) (quote c : CodePoint) : PyStr :=
  if c = quote ∨ c = backslash then [backslash, c]
  else if c.val = 9 then backslash :: lit "t"
  else if c.val = 10 then backslash :: lit "n"
  else if c.val = 13 then backslash :: lit "r"
  else if unicode.isPrintable c then [c]
  else if c.val < 0x100 then backslash :: lit "x" ++ hexDigits 2 c.val
  else if c.val < 0x10000 then backslash :: lit "u" ++ hexDigits 4 c.val
  else backslash :: lit "U" ++ hexDigits 8 c.val

def apostrophe : CodePoint := 0x27

/-- `repr(text)`: double quotes only around a text with apostrophes and none of them. -/
def reprStr (unicode : UnicodeData) (text : PyStr) : PyStr :=
  let quote := if text.contains apostrophe && !text.contains quoteMark then quoteMark else apostrophe
  quote :: text.flatMap (reprChar unicode quote) ++ [quote]

/-- `repr` of a float. -/
def reprFloat : PyFloat → PyStr
  | .finite x => x.reprLit.render
  | .inf false => lit "inf"
  | .inf true => lit "-inf"
  | .nan => lit "nan"

/-- The texts of numbers hold neither separators nor letters past the first few. -/
theorem reprFloat_bounds (value : PyFloat) : ∀ c ∈ reprFloat value, 43 ≤ c.val ∧ c.val ≤ 110 := by
  have literal : ∀ text : String,
      (lit text).all (fun c => decide (43 ≤ c.val ∧ c.val ≤ 110)) = true →
        ∀ c ∈ lit text, 43 ≤ c.val ∧ c.val ≤ 110 :=
    fun text all c member => of_decide_eq_true (List.all_eq_true.mp all c member)
  cases value with
  | finite x =>
      intro c member
      have bounds := NumberLit.render_bounds x.prints_reprLit.1 c member
      exact ⟨bounds.1, by omega⟩
  | inf neg =>
      cases neg with
      | false => exact literal "inf" (by decide)
      | true => exact literal "-inf" (by decide)
  | nan => exact literal "nan" (by decide)

theorem isPlain_reprFloat (value : PyFloat) : ∀ c ∈ reprFloat value, IsPlain c := by
  intro c member
  have bounds := reprFloat_bounds value c member
  exact ⟨by omega, by omega⟩

namespace Json

mutual
/-- `repr(value)`. -/
def repr (unicode : UnicodeData) : Json → PyStr
  | .null => lit "None"
  | .bool true => lit "True"
  | .bool false => lit "False"
  | .int value => (NumberLit.ofInt value).render
  | .float value => reprFloat value
  | .str text => reprStr unicode text
  | .arr items => openBracket :: joinWith (lit ", ") (reprItems unicode items) ++ [closeBracket]
  | .obj fields => openBrace :: joinWith (lit ", ") (reprFields unicode fields) ++ [closeBrace]

def reprItems (unicode : UnicodeData) : List Json → List PyStr
  | [] => []
  | item :: rest => repr unicode item :: reprItems unicode rest

def reprFields (unicode : UnicodeData) : List (PyStr × Json) → List PyStr
  | [] => []
  | (key, value) :: rest =>
      (reprStr unicode key ++ lit ": " ++ repr unicode value) :: reprFields unicode rest
end

/-- `str(value)`. -/
def pyStr (unicode : UnicodeData) : Json → PyStr
  | .str text => text
  | value => repr unicode value

@[simp] theorem pyStr_str (unicode : UnicodeData) (text : PyStr) :
    pyStr unicode (.str text) = text := rfl

end Json

/-! ## Texts that UTF-8 can hold -/

theorem encodable_hexDigits (count value : Nat) : Encodable (hexDigits count value) := by
  have digit : ∀ n : Fin 16, IsPlain (hexDigit n) := by decide
  induction count generalizing value with
  | zero => exact encodable_nil
  | succ count ih =>
      have last : IsPlain (hexDigit (value % 16)) := digit ⟨value % 16, Nat.mod_lt _ (by decide)⟩
      rw [hexDigits, encodable_append]
      refine ⟨ih _, encodable_of_plain fun c member => ?_⟩
      rw [List.mem_singleton.mp member]
      exact last

theorem encodable_reprChar {unicode : UnicodeData} {quote c : CodePoint}
    (scalar : ∃ char, CodePoint.toChar? c = some char) : Encodable (reprChar unicode quote c) := by
  have slash : ∃ char, CodePoint.toChar? backslash = some char := CodePoint.toChar?_of_lt (by decide)
  have single : Encodable [c] := encodable_cons.mpr ⟨scalar, encodable_nil⟩
  have escape : ∀ text, Encodable text → Encodable (backslash :: text) :=
    fun _ rest => encodable_cons.mpr ⟨slash, rest⟩
  have hex : ∀ (kind : String) (count : Nat),
      Encodable (backslash :: lit kind ++ hexDigits count c.val) := fun kind count =>
    encodable_append.mpr ⟨escape _ (encodable_lit _), encodable_hexDigits _ _⟩
  unfold reprChar
  split
  · exact escape _ single
  split
  · exact escape _ (encodable_lit _)
  split
  · exact escape _ (encodable_lit _)
  split
  · exact escape _ (encodable_lit _)
  split
  · exact single
  split
  · exact hex "x" 2
  split
  · exact hex "u" 4
  · exact hex "U" 8

theorem encodable_reprStr {unicode : UnicodeData} {text : PyStr} (encodable : Encodable text) :
    Encodable (reprStr unicode text) := by
  have quoted : ∀ quote, (∃ char, CodePoint.toChar? quote = some char) →
      Encodable (quote :: text.flatMap (reprChar unicode quote) ++ [quote]) := by
    intro quote scalar
    refine encodable_append.mpr ⟨encodable_cons.mpr ⟨scalar, ?_⟩,
      encodable_cons.mpr ⟨scalar, encodable_nil⟩⟩
    intro c member
    obtain ⟨d, inText, inRepr⟩ := List.mem_flatMap.mp member
    exact encodable_reprChar (encodable d inText) c inRepr
  unfold reprStr
  split
  · exact quoted quoteMark (CodePoint.toChar?_of_lt (by decide))
  · exact quoted apostrophe (CodePoint.toChar?_of_lt (by decide))

namespace Json

theorem encodable_bracketed {texts : List PyStr} (all : ∀ text ∈ texts, Encodable text)
    {opening closing : CodePoint} (openPlain : IsPlain opening) (closePlain : IsPlain closing) :
    Encodable (opening :: joinWith (lit ", ") texts ++ [closing]) := by
  have plain : ∀ c, IsPlain c → ∃ char, CodePoint.toChar? c = some char :=
    fun c isPlain => CodePoint.toChar?_of_lt (lt_of_lt_of_le isPlain.2 (by norm_num))
  refine encodable_append.mpr ⟨encodable_cons.mpr ⟨plain _ openPlain, ?_⟩,
    encodable_cons.mpr ⟨plain _ closePlain, encodable_nil⟩⟩
  intro c member
  rcases mem_joinWith member with inSep | ⟨text, listed, inText⟩
  · exact encodable_lit _ c inSep
  · exact all text listed c inText

/-- The `repr` of a value has no surrogate that its strings do not have. -/
theorem encodable_repr {unicode : UnicodeData} {value : Json} (strings : value.AllStrings Encodable) :
    Encodable (repr unicode value) := by
  induction value using AllStrings.induct
    (motive_2 := fun fields => AllStringsFields Encodable fields →
      ∀ text ∈ reprFields unicode fields, Encodable text)
    (motive_3 := fun items => AllStringsItems Encodable items →
      ∀ text ∈ reprItems unicode items, Encodable text) with
  | case1 => exact encodable_lit _
  | case2 value => cases value <;> exact encodable_lit _
  | case3 value => exact encodable_of_plain (NumberLit.isPlain_render (JsonScanner.wellFormed_ofInt value))
  | case4 value => exact encodable_of_plain (isPlain_reprFloat value)
  | case5 text => exact encodable_reprStr strings
  | case6 items ih => exact encodable_bracketed (ih strings) (by decide) (by decide)
  | case7 fields ih => exact encodable_bracketed (ih strings) (by decide) (by decide)
  | case8 => contradiction
  | case9 item rest itemIH restIH all text member =>
      rcases List.mem_cons.mp member with rfl | later
      · exact itemIH all.1
      · exact restIH all.2 text later
  | case10 => contradiction
  | case11 key value rest valueIH restIH all text member =>
      obtain ⟨keyGood, valueAll, restAll⟩ := all
      rcases List.mem_cons.mp member with rfl | later
      · exact encodable_append.mpr ⟨encodable_append.mpr ⟨encodable_reprStr keyGood, encodable_lit _⟩,
          valueIH valueAll⟩
      · exact restIH restAll text later

theorem encodable_pyStr {unicode : UnicodeData} {value : Json}
    (strings : value.AllStrings Encodable) : Encodable (pyStr unicode value) := by
  unfold pyStr
  split
  · exact strings
  · exact encodable_repr strings

end Json

/-! ## Objects -/

/-- A `dict` decoded from JSON or built from such values: no object in it repeats a key. -/
structure JsonObject where
  fields : Dict PyStr Json
  distinct : (Json.obj fields).Distinct

namespace JsonObject

def toJson (object : JsonObject) : Json := .obj object.fields

/-- `object.get(key)`, `none` when the key is absent. -/
def get? (key : PyStr) (object : JsonObject) : Option Json := object.fields.get? key

/-- `object.get(key, default)`. -/
def getD (key : PyStr) (default : Json) (object : JsonObject) : Json :=
  (object.get? key).getD default

def empty : JsonObject := ⟨[], List.nodup_nil, trivial⟩

theorem distinct_of_get? {object : JsonObject} {key : PyStr} {value : Json}
    (found : object.get? key = some value) : value.Distinct :=
  Json.distinctFields_iff.mp object.distinct.2 _ (Dict.mem_of_get? found)

theorem distinct_set {fields : Dict PyStr Json} (distinct : (Json.obj fields).Distinct)
    (key : PyStr) {value : Json} (valueDistinct : value.Distinct) :
    (Json.obj (fields.set key value)).Distinct := by
  refine ⟨Dict.keys_set_nodup distinct.1, Json.distinctFields_iff.mpr ?_⟩
  have inner := Json.distinctFields_iff.mp distinct.2
  clear distinct
  induction fields with
  | nil => simpa [Dict.set] using valueDistinct
  | cons field rest ih =>
      intro pair member
      rw [Dict.set] at member
      split at member
      · rcases List.mem_cons.mp member with rfl | later
        · exact valueDistinct
        · exact inner pair (List.mem_cons_of_mem _ later)
      · rcases List.mem_cons.mp member with rfl | later
        · exact inner _ List.mem_cons_self
        · exact ih (fun pair member => inner pair (List.mem_cons_of_mem _ member)) pair later

theorem distinct_erase {fields : Dict PyStr Json} (distinct : (Json.obj fields).Distinct)
    (key : PyStr) : (Json.obj (fields.erase key)).Distinct := by
  constructor
  · exact distinct.1.sublist (List.filter_sublist.map Prod.fst)
  · rw [Json.distinctFields_iff]
    intro field member
    exact Json.distinctFields_iff.mp distinct.2 field (List.mem_of_mem_filter member)

/-- The object without the key. -/
def erase (key : PyStr) (object : JsonObject) : JsonObject :=
  ⟨object.fields.erase key, distinct_erase object.distinct key⟩

/-- `object[key] = text`. -/
def setText (key text : PyStr) (object : JsonObject) : JsonObject :=
  ⟨object.fields.set key (.str text), distinct_set object.distinct key trivial⟩

/-- `object[key] = other`, a nested object. -/
def setObject (object : JsonObject) (key : PyStr) (other : JsonObject) : JsonObject :=
  ⟨object.fields.set key other.toJson, distinct_set object.distinct key other.distinct⟩

/-- `object.get(key)` when it is a `dict`. -/
def getObject? (key : PyStr) (object : JsonObject) : Option JsonObject :=
  match found : object.get? key with
  | some (.obj fields) => some ⟨fields, distinct_of_get? found⟩
  | _ => none

theorem getObject?_eq_some {object other : JsonObject} {key : PyStr} :
    object.getObject? key = some other ↔ object.get? key = some other.toJson := by
  obtain ⟨fields, distinct⟩ := other
  unfold getObject? toJson
  split
  · next found => simp [found]
  · next notObject =>
      simp only [reduceCtorEq, false_iff]
      exact fun found => notObject _ found

@[simp] theorem get?_setText_self (key text : PyStr) (object : JsonObject) :
    (object.setText key text).get? key = some (.str text) :=
  Dict.get?_set_self key _ _

theorem get?_setText (key other text : PyStr) (object : JsonObject) :
    (object.setText key text).get? other =
      if other = key then some (.str text) else object.get? other :=
  Dict.get?_set key other _ _

theorem setText_eq_self {key text : PyStr} {object : JsonObject}
    (found : object.get? key = some (.str text)) : object.setText key text = object := by
  have same : object.fields.set key (.str text) = object.fields := Dict.set_eq_self found
  cases object
  simp only [setText, same]

theorem get?_setObject (key other : PyStr) (inner object : JsonObject) :
    (object.setObject key inner).get? other =
      if other = key then some inner.toJson else object.get? other :=
  Dict.get?_set key other _ _

end JsonObject

/-- A value decoded from JSON or built from such values. -/
abbrev JsonValue := { value : Json // value.Distinct }

namespace JsonValue

/-- The value as a `dict`, where it is one. -/
def object? : JsonValue → Option JsonObject
  | ⟨.obj fields, distinct⟩ => some ⟨fields, distinct⟩
  | _ => none

def ofFloat (value : PyFloat) : JsonValue := ⟨.float value, trivial⟩

def ofInt (value : Int) : JsonValue := ⟨.int value, trivial⟩

def ofText (text : PyStr) : JsonValue := ⟨.str text, trivial⟩

end JsonValue

namespace JsonObject

/-- `object[key] = value`. -/
def setValue (key : PyStr) (value : JsonValue) (object : JsonObject) : JsonObject :=
  ⟨object.fields.set key value.val, distinct_set object.distinct key value.property⟩

/-- `object.get(key, default)`, a value. -/
def getValueD (key : PyStr) (default : JsonValue) (object : JsonObject) : JsonValue :=
  match found : object.get? key with
  | some value => ⟨value, distinct_of_get? found⟩
  | none => default

theorem val_getValueD (key : PyStr) (default : JsonValue) (object : JsonObject) :
    (object.getValueD key default).val = object.getD key default.val := by
  unfold getValueD getD
  split <;> next found => simp [found]

end JsonObject

end HermesMesh.Python
