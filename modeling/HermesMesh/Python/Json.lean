import HermesMesh.Python.Float
import HermesMesh.Python.Dict

/-!
# JSON values and their encoder

`Json` is what Python's `json.loads` returns: objects keep their insertion order,
integers and floats are different types, and strings may hold lone surrogates.
The encoder is parameterized by the choices the program makes at its call sites:
how a character is escaped, the two separators, and whether keys are sorted.
-/

namespace HermesMesh.Python

/-- A JSON value as Python holds it. -/
inductive Json where
  | null
  | bool (value : Bool)
  | int (value : Int)
  | float (value : PyFloat)
  | str (text : PyStr)
  | arr (items : List Json)
  | obj (fields : List (PyStr × Json))

namespace Json

/-! ## Python's view of a value -/

mutual
/-- No object of the value repeats a key, as in every Python `dict`. -/
def Distinct : Json → Prop
  | .null | .bool _ | .int _ | .float _ | .str _ => True
  | .arr items => DistinctItems items
  | .obj fields => (fields.map Prod.fst).Nodup ∧ DistinctFields fields

def DistinctItems : List Json → Prop
  | [] => True
  | item :: rest => Distinct item ∧ DistinctItems rest

def DistinctFields : List (PyStr × Json) → Prop
  | [] => True
  | (_, value) :: rest => Distinct value ∧ DistinctFields rest
end

mutual
/-- No float of the value is infinite or NaN. -/
def isFinite : Json → Bool
  | .null | .bool _ | .int _ | .str _ => true
  | .float (.finite _) => true
  | .float _ => false
  | .arr items => isFiniteItems items
  | .obj fields => isFiniteFields fields

def isFiniteItems : List Json → Bool
  | [] => true
  | item :: rest => isFinite item && isFiniteItems rest

def isFiniteFields : List (PyStr × Json) → Bool
  | [] => true
  | (_, value) :: rest => isFinite value && isFiniteFields rest
end

/-- `bool(value)`. -/
def truthy : Json → Bool
  | .null => false
  | .bool value => value
  | .int value => value != 0
  | .float (.finite x) => x.mant != 0
  | .float _ => true
  | .str text => !text.isEmpty
  | .arr items => !items.isEmpty
  | .obj fields => !fields.isEmpty

/-- The number a value compares as, in units of the least subnormal; infinities
and NaN compare separately. -/
def numeric : Json → Option (PyFloat ⊕ Int)
  | .bool value => some (.inr (if value then minScale else 0))
  | .int value => some (.inr (value * minScale))
  | .float (.finite x) => some (.inr ((if x.neg then -1 else 1) * (x.mant * 2 ^ x.exp : Nat)))
  | .float .nan => none
  | .float infinite => some (.inl infinite)
  | _ => none

mutual
/-- Python's `==`: numbers compare by value across their types, objects without
regard to order. -/
def pyEq : Json → Json → Bool
  | .null, .null => true
  | .str left, .str right => left == right
  | .arr left, .arr right => pyEqItems left right
  | .obj left, .obj right => left.length == right.length && pyEqFields left right
  | left, right =>
      match numeric left, numeric right with
      | some x, some y => x == y
      | _, _ => false

def pyEqItems : List Json → List Json → Bool
  | [], [] => true
  | left :: lefts, right :: rights => pyEq left right && pyEqItems lefts rights
  | _, _ => false

def pyEqFields : List (PyStr × Json) → Dict PyStr Json → Bool
  | [], _ => true
  | (key, left) :: rest, other =>
      (match other.get? key with
        | some right => pyEq left right
        | none => false) && pyEqFields rest other
end

@[simp] theorem pyEq_str (left right : PyStr) :
    pyEq (.str left) (.str right) = (left == right) := rfl

end Json

/-! ## Encoding -/

def quoteMark : CodePoint := 0x22
def backslash : CodePoint := 0x5c
def comma : CodePoint := 0x2c
def colon : CodePoint := 0x3a
def openBracket : CodePoint := 0x5b
def closeBracket : CodePoint := 0x5d
def openBrace : CodePoint := 0x7b
def closeBrace : CodePoint := 0x7d

/-- The arguments of `json.dumps` that shape its text. -/
structure JsonStyle where
  escape : CodePoint → PyStr
  itemSep : PyStr
  keySep : PyStr
  sortKeys : Bool

/-- One lowercase hexadecimal digit. -/
def hexDigit (value : Nat) : CodePoint :=
  if value < 10 then Fin.ofNat _ (48 + value) else Fin.ofNat _ (87 + value)

/-- Character escapes under `ensure_ascii=False`: quotes, backslashes and control
characters only. Everything else is written as it is. -/
def escapePlain (c : CodePoint) : PyStr :=
  if c = quoteMark then [backslash, quoteMark]
  else if c = backslash then [backslash, backslash]
  else if c.val = 8 then backslash :: lit "b"
  else if c.val = 9 then backslash :: lit "t"
  else if c.val = 10 then backslash :: lit "n"
  else if c.val = 12 then backslash :: lit "f"
  else if c.val = 13 then backslash :: lit "r"
  else if c.val < 32 then
    backslash :: lit "u00" ++ [hexDigit (c.val / 16), hexDigit (c.val % 16)]
  else [c]

/-- `json.dumps(value, ensure_ascii=False, sort_keys=True, separators=(",", ":"))`. -/
def JsonStyle.canonical : JsonStyle := ⟨escapePlain, [comma], [colon], true⟩

/-- `sep.join(texts)`. -/
def joinWith (sep : PyStr) : List PyStr → PyStr
  | [] => []
  | [text] => text
  | text :: other :: rest => text ++ sep ++ joinWith sep (other :: rest)

theorem joinWith_cons (sep text : PyStr) {rest : List PyStr} (nonempty : rest ≠ []) :
    joinWith sep (text :: rest) = text ++ sep ++ joinWith sep rest := by
  cases rest with
  | nil => exact absurd rfl nonempty
  | cons other rest => rfl

namespace Json

/-- Fields in the order of `sorted(d.items())`, whose keys are distinct. -/
def sortFields {α : Type} (fields : Dict PyStr α) : Dict PyStr α :=
  fields.insertionSort fun left right => left.1 ≤ right.1

/-- The order in which an encoder visits the fields of an object. -/
def orderFields {α : Type} (style : JsonStyle) (fields : Dict PyStr α) : Dict PyStr α :=
  if style.sortKeys then sortFields fields else fields

/-- A quoted string. -/
def quoted (style : JsonStyle) (text : PyStr) : PyStr :=
  quoteMark :: text.flatMap style.escape ++ [quoteMark]

/-- The text of a float, with Python's names for the values JSON lacks. -/
def floatText : PyFloat → PyStr
  | .finite x => x.reprLit.render
  | .inf false => lit "Infinity"
  | .inf true => lit "-Infinity"
  | .nan => lit "NaN"

mutual
/-- `json.dumps(value)` with `allow_nan=True`. -/
def dumps (style : JsonStyle) : Json → PyStr
  | .null => lit "null"
  | .bool true => lit "true"
  | .bool false => lit "false"
  | .int value => (NumberLit.ofInt value).render
  | .float value => floatText value
  | .str text => quoted style text
  | .arr items => openBracket :: joinWith style.itemSep (itemTexts style items) ++ [closeBracket]
  | .obj fields =>
      openBrace :: joinWith style.itemSep
        ((orderFields style (fieldTexts style fields)).map fun field =>
          quoted style field.1 ++ style.keySep ++ field.2) ++ [closeBrace]

def itemTexts (style : JsonStyle) : List Json → List PyStr
  | [] => []
  | item :: rest => dumps style item :: itemTexts style rest

def fieldTexts (style : JsonStyle) : List (PyStr × Json) → List (PyStr × PyStr)
  | [] => []
  | (key, value) :: rest => (key, dumps style value) :: fieldTexts style rest
end

/-- `json.dumps(value, allow_nan=False)`: `none` is its `ValueError`. -/
def dumpsStrict (style : JsonStyle) (value : Json) : Option PyStr :=
  if value.isFinite then some (dumps style value) else none

mutual
/-- The value an encoding is read back as: the same value with the fields of
every object in the order they were written. -/
def ordered (style : JsonStyle) : Json → Json
  | .arr items => .arr (orderedItems style items)
  | .obj fields => .obj (orderFields style (orderedFields style fields))
  | .null => .null
  | .bool value => .bool value
  | .int value => .int value
  | .float value => .float value
  | .str text => .str text

def orderedItems (style : JsonStyle) : List Json → List Json
  | [] => []
  | item :: rest => ordered style item :: orderedItems style rest

def orderedFields (style : JsonStyle) : List (PyStr × Json) → List (PyStr × Json)
  | [] => []
  | (key, value) :: rest => (key, ordered style value) :: orderedFields style rest
end

theorem fieldTexts_eq_map (style : JsonStyle) (fields : List (PyStr × Json)) :
    fieldTexts style fields = fields.map fun field => (field.1, dumps style field.2) := by
  induction fields with
  | nil => rfl
  | cons field rest ih => rw [fieldTexts, ih, List.map_cons]

theorem orderedFields_eq_map (style : JsonStyle) (fields : List (PyStr × Json)) :
    orderedFields style fields = fields.map fun field => (field.1, ordered style field.2) := by
  induction fields with
  | nil => rfl
  | cons field rest ih => rw [orderedFields, ih, List.map_cons]

mutual
/-- Every string of the value, keys included, satisfies `good`. -/
def AllStrings (good : PyStr → Prop) : Json → Prop
  | .null | .bool _ | .int _ | .float _ => True
  | .str text => good text
  | .arr items => AllStringsItems good items
  | .obj fields => AllStringsFields good fields

def AllStringsItems (good : PyStr → Prop) : List Json → Prop
  | [] => True
  | item :: rest => AllStrings good item ∧ AllStringsItems good rest

def AllStringsFields (good : PyStr → Prop) : List (PyStr × Json) → Prop
  | [] => True
  | (key, value) :: rest => good key ∧ AllStrings good value ∧ AllStringsFields good rest
end

/-! ## Ordering fields -/

theorem perm_orderFields {α : Type} (style : JsonStyle) (fields : Dict PyStr α) :
    (orderFields style fields).Perm fields := by
  unfold orderFields
  split
  · exact List.perm_insertionSort _ fields
  · exact .refl fields

theorem sortFields_map {α β : Type} (f : α → β) (fields : Dict PyStr α) :
    sortFields (fields.map fun field => (field.1, f field.2)) =
      (sortFields fields).map fun field => (field.1, f field.2) := by
  symm
  exact List.map_insertionSort _ _ _ _ fun _ _ _ _ => Iff.rfl

theorem orderFields_map {α β : Type} (style : JsonStyle) (f : α → β) (fields : Dict PyStr α) :
    orderFields style (fields.map fun field => (field.1, f field.2)) =
      (orderFields style fields).map fun field => (field.1, f field.2) := by
  unfold orderFields
  split
  · exact sortFields_map f fields
  · rfl

theorem orderFields_idem {α : Type} (style : JsonStyle) (fields : Dict PyStr α) :
    orderFields style (orderFields style fields) = orderFields style fields := by
  unfold orderFields
  split
  · have total : Std.Total (fun left right : PyStr × α => left.1 ≤ right.1) :=
      ⟨fun left right => le_total left.1 right.1⟩
    have trans : IsTrans (PyStr × α) (fun left right => left.1 ≤ right.1) :=
      ⟨fun _ _ _ first second => le_trans first second⟩
    exact (List.pairwise_insertionSort _ fields).insertionSort_eq
  · rfl

theorem keys_orderFields_nodup {α : Type} (style : JsonStyle) {fields : Dict PyStr α}
    (distinct : (fields.map Prod.fst).Nodup) :
    ((orderFields style fields).map Prod.fst).Nodup :=
  ((perm_orderFields style fields).map Prod.fst).nodup_iff.mpr distinct

/-- Encoding looks through the order of fields. -/
theorem dumps_ordered (style : JsonStyle) (value : Json) :
    dumps style (ordered style value) = dumps style value := by
  induction value using dumps.induct
    (motive_2 := fun fields => fieldTexts style (orderedFields style fields) = fieldTexts style fields)
    (motive_3 := fun items => itemTexts style (orderedItems style items) = itemTexts style items) with
  | case1 | case2 | case3 | case4 | case5 | case6 => rfl
  | case7 items ih => simp only [ordered, dumps, ih]
  | case8 fields ih =>
      have commutes : fieldTexts style (orderFields style (orderedFields style fields)) =
          orderFields style (fieldTexts style fields) := by
        rw [fieldTexts_eq_map, ← orderFields_map, ← fieldTexts_eq_map, ih]
      simp only [ordered, dumps, commutes, orderFields_idem]
  | case9 => rfl
  | case10 item rest itemIH restIH => simp only [orderedItems, itemTexts, itemIH, restIH]
  | case11 => rfl
  | case12 key value rest valueIH restIH =>
      simp only [orderedFields, fieldTexts, valueIH, restIH]

/-- A field of the value read back. -/
theorem get?_orderedFields (style : JsonStyle) {fields : Dict PyStr Json}
    (distinct : (fields.map Prod.fst).Nodup) (key : PyStr) :
    (orderFields style (orderedFields style fields)).get? key =
      (fields.get? key).map (ordered style) := by
  rw [orderedFields_eq_map]
  have mapped : ((fields.map fun field => (field.1, ordered style field.2)).map Prod.fst).Nodup := by
    simpa [List.map_map, Function.comp_def] using distinct
  rw [Dict.get?_perm mapped (perm_orderFields style _), Dict.get?_map]

end Json

end HermesMesh.Python
