import Mathlib

/-!
# Python text and its files

A Python `str` is a sequence of Unicode code points in which lone surrogates may
occur, so it is wider than a Lean `String`.  This module fixes that type, its
strict UTF-8 codec, and the line readers of Python's text files:
`str.splitlines` and iteration over an open file split at different characters.
-/

namespace HermesMesh.Python

/-- One element of a Python `str`: any code point, lone surrogates included. -/
abbrev CodePoint := Fin 0x110000

/-- A Python `str`. -/
abbrev PyStr := List CodePoint

instance neZero_codePoints : NeZero (0x110000 : Nat) := ⟨by decide⟩

namespace CodePoint

theorem toNat_char_lt (char : Char) : char.toNat < 0x110000 := by
  rcases char.valid with low | high
  · have bound : char.toNat < 0xd800 := low
    omega
  · exact high.2

/-- The code point of a Unicode scalar value. -/
def ofChar (char : Char) : CodePoint := ⟨char.toNat, toNat_char_lt char⟩

/-- The scalar value of a code point; surrogates have none. -/
def toChar? (c : CodePoint) : Option Char :=
  if valid : c.val.isValidChar then some (Char.ofNatAux c.val valid) else none

@[simp] theorem ofChar_inj {left right : Char} :
    ofChar left = ofChar right ↔ left = right := by
  constructor
  · intro equal
    have values : left.toNat = right.toNat := Fin.mk.inj equal
    exact Char.ext (UInt32.toNat_inj.mp values)
  · exact fun equal => equal ▸ rfl

@[simp] theorem toChar?_ofChar (char : Char) : toChar? (ofChar char) = some char := by
  have valid : (ofChar char).val.isValidChar := char.valid
  simp only [toChar?, valid, dite_true, Option.some.injEq]
  apply Char.ext
  apply UInt32.toNat_inj.mp
  rfl

theorem ofChar_of_toChar? {c : CodePoint} {char : Char}
    (scalar : toChar? c = some char) : ofChar char = c := by
  unfold toChar? at scalar
  split at scalar
  · cases scalar
    rfl
  · cases scalar

theorem toChar?_of_lt {c : CodePoint} (small : c.val < 0xd800) :
    ∃ char, toChar? c = some char := by
  have valid : c.val.isValidChar := Or.inl small
  exact ⟨_, dif_pos valid⟩

end CodePoint

/-- A string literal of the source as a Python `str`. -/
def lit (text : String) : PyStr := text.toList.map CodePoint.ofChar

@[simp] theorem lit_inj {left right : String} : lit left = lit right ↔ left = right := by
  constructor
  · intro equal
    have injective : Function.Injective CodePoint.ofChar := fun _ _ => CodePoint.ofChar_inj.mp
    exact String.toList_injective (List.map_injective_iff.mpr injective equal)
  · exact fun equal => equal ▸ rfl

/-! ## UTF-8 -/

/-- `str.encode("utf-8")`: `none` is `UnicodeEncodeError`. -/
def encodeUtf8 (text : PyStr) : Option ByteArray :=
  (text.mapM CodePoint.toChar?).map fun chars => (String.ofList chars).toByteArray

/-- `bytes.decode("utf-8")`: `none` is `UnicodeDecodeError`. -/
def decodeUtf8 (bytes : ByteArray) : Option PyStr :=
  bytes.utf8Decode?.map fun chars => chars.toList.map CodePoint.ofChar

/-- Text without surrogates, which is the text a UTF-8 file can hold. -/
def Encodable (text : PyStr) : Prop := ∀ c ∈ text, ∃ char, CodePoint.toChar? c = some char

theorem mapM_toChar?_eq_some {text : PyStr} {chars : List Char} :
    text.mapM CodePoint.toChar? = some chars ↔ text = chars.map CodePoint.ofChar := by
  induction text generalizing chars with
  | nil => cases chars <;> simp
  | cons c rest ih =>
      cases scalar : CodePoint.toChar? c with
      | none =>
          simp only [List.mapM_cons, scalar, Option.bind_eq_bind, Option.bind_none]
          constructor
          · intro impossible
            cases impossible
          · intro equal
            cases chars with
            | nil => cases equal
            | cons char chars =>
                rw [List.map_cons, List.cons.injEq] at equal
                rw [equal.1, CodePoint.toChar?_ofChar] at scalar
                cases scalar
      | some char =>
          have same := CodePoint.ofChar_of_toChar? scalar
          simp only [List.mapM_cons, scalar, Option.bind_eq_bind, Option.bind_some]
          cases chars with
          | nil => cases tail : rest.mapM CodePoint.toChar? <;> simp
          | cons head chars =>
              rw [List.map_cons, List.cons.injEq, ← same, CodePoint.ofChar_inj]
              cases tail : rest.mapM CodePoint.toChar? with
              | none =>
                  simp only [Option.bind_none, reduceCtorEq, false_iff, not_and]
                  intro _ restEq
                  rw [ih.mpr restEq] at tail
                  cases tail
              | some decoded =>
                  have restEq := ih.mp tail
                  subst restEq
                  have injective : Function.Injective CodePoint.ofChar :=
                    fun _ _ => CodePoint.ofChar_inj.mp
                  simp [(List.map_injective_iff.mpr injective).eq_iff]

theorem encodeUtf8_eq_some {text : PyStr} {bytes : ByteArray} :
    encodeUtf8 text = some bytes ↔
      ∃ chars : List Char, text = chars.map CodePoint.ofChar ∧ chars.utf8Encode = bytes := by
  simp only [encodeUtf8, Option.map_eq_some_iff, mapM_toChar?_eq_some, String.toByteArray_ofList]

theorem decodeUtf8_eq_some {bytes : ByteArray} {text : PyStr} :
    decodeUtf8 bytes = some text ↔ encodeUtf8 text = some bytes := by
  rw [encodeUtf8_eq_some]
  constructor
  · intro decoded
    obtain ⟨chars, isChars, rfl⟩ := Option.map_eq_some_iff.mp decoded
    have isSome : bytes.utf8Decode?.isSome = true := by simp [isChars]
    have encoded := @ByteArray.utf8Encode_get_utf8Decode? bytes isSome
    simp only [isChars, Option.get_some] at encoded
    exact ⟨chars.toList, rfl, encoded⟩
  · rintro ⟨chars, rfl, rfl⟩
    simp [decodeUtf8, List.utf8Decode?_utf8Encode]

theorem decodeUtf8_of_encodeUtf8 {text : PyStr} {bytes : ByteArray}
    (encoded : encodeUtf8 text = some bytes) : decodeUtf8 bytes = some text :=
  decodeUtf8_eq_some.mpr encoded

/-- No two texts have the same UTF-8 bytes. -/
theorem encodeUtf8_injective {left right : PyStr} {bytes : ByteArray}
    (leftBytes : encodeUtf8 left = some bytes) (rightBytes : encodeUtf8 right = some bytes) :
    left = right := by
  have equal := (decodeUtf8_of_encodeUtf8 leftBytes).symm.trans (decodeUtf8_of_encodeUtf8 rightBytes)
  exact Option.some.inj equal

theorem encodeUtf8_append {left right : PyStr} {leftBytes rightBytes : ByteArray}
    (leftEq : encodeUtf8 left = some leftBytes) (rightEq : encodeUtf8 right = some rightBytes) :
    encodeUtf8 (left ++ right) = some (leftBytes ++ rightBytes) := by
  obtain ⟨leftChars, rfl, rfl⟩ := encodeUtf8_eq_some.mp leftEq
  obtain ⟨rightChars, rfl, rfl⟩ := encodeUtf8_eq_some.mp rightEq
  rw [encodeUtf8_eq_some]
  exact ⟨leftChars ++ rightChars, by simp, List.utf8Encode_append⟩

@[simp] theorem encodeUtf8_nil : encodeUtf8 [] = some ByteArray.empty := by
  rw [encodeUtf8_eq_some]
  exact ⟨[], rfl, List.utf8Encode_nil⟩

@[simp] theorem encodable_nil : Encodable [] := by simp [Encodable]

@[simp] theorem encodable_cons {c : CodePoint} {rest : PyStr} :
    Encodable (c :: rest) ↔ (∃ char, CodePoint.toChar? c = some char) ∧ Encodable rest := by
  simp [Encodable]

@[simp] theorem encodable_append {left right : PyStr} :
    Encodable (left ++ right) ↔ Encodable left ∧ Encodable right := by
  simp only [Encodable, List.mem_append]
  constructor
  · exact fun all => ⟨fun c m => all c (.inl m), fun c m => all c (.inr m)⟩
  · rintro ⟨inLeft, inRight⟩ c (m | m)
    · exact inLeft c m
    · exact inRight c m

theorem encodable_iff {text : PyStr} :
    Encodable text ↔ ∃ bytes, encodeUtf8 text = some bytes := by
  constructor
  · intro all
    induction text with
    | nil => exact ⟨_, encodeUtf8_nil⟩
    | cons c rest ih =>
        obtain ⟨⟨char, scalar⟩, restAll⟩ := encodable_cons.mp all
        obtain ⟨bytes, encoded⟩ := ih restAll
        have head : encodeUtf8 [c] = some [char].utf8Encode :=
          encodeUtf8_eq_some.mpr ⟨[char], by simp [CodePoint.ofChar_of_toChar? scalar], rfl⟩
        exact ⟨_, encodeUtf8_append head encoded⟩
  · rintro ⟨bytes, encoded⟩ c member
    obtain ⟨chars, rfl, -⟩ := encodeUtf8_eq_some.mp encoded
    obtain ⟨char, -, rfl⟩ := List.mem_map.mp member
    exact ⟨char, CodePoint.toChar?_ofChar char⟩

theorem encodable_lit (text : String) : Encodable (lit text) := by
  intro c member
  obtain ⟨char, -, rfl⟩ := List.mem_map.mp member
  exact ⟨char, CodePoint.toChar?_ofChar char⟩

/-! ## White space and lines -/

/-- `str.isspace` of one character. -/
def isSpace (c : CodePoint) : Bool :=
  (9 ≤ c.val && c.val ≤ 13) || (28 ≤ c.val && c.val ≤ 32) || c.val == 0x85 || c.val == 0xa0 ||
    c.val == 0x1680 || (0x2000 ≤ c.val && c.val ≤ 0x200a) || c.val == 0x2028 ||
    c.val == 0x2029 || c.val == 0x202f || c.val == 0x205f || c.val == 0x3000

/-- `str.strip()`. -/
def strip (text : PyStr) : PyStr := (text.dropWhile isSpace).rdropWhile isSpace

/-- `not line.strip()`. -/
def isBlank (line : PyStr) : Bool := line.all isSpace

def lineFeed : CodePoint := 0x0a
def carriageReturn : CodePoint := 0x0d

/-- The characters at which `str.splitlines` ends a line. -/
def isLineBreak (c : CodePoint) : Bool :=
  (10 ≤ c.val && c.val ≤ 13) || (28 ≤ c.val && c.val ≤ 30) || c.val == 0x85 ||
    c.val == 0x2028 || c.val == 0x2029

/-- Text-mode newline translation while reading; the flag says that the previous
character was a carriage return. -/
def translateNewlines (afterReturn : Bool) : PyStr → PyStr
  | [] => []
  | c :: rest =>
      if c = carriageReturn then lineFeed :: translateNewlines true rest
      else if c = lineFeed ∧ afterReturn then translateNewlines false rest
      else c :: translateNewlines false rest

/-- `Path.read_text(encoding="utf-8")`. -/
def readText (bytes : ByteArray) : Option PyStr :=
  (decodeUtf8 bytes).map (translateNewlines false)

/-- `str.splitlines()` of a text without carriage returns. -/
def splitLines : PyStr → List PyStr
  | [] => []
  | c :: rest =>
      if isLineBreak c then [] :: splitLines rest
      else
        match splitLines rest with
        | [] => [[c]]
        | line :: lines => (c :: line) :: lines

/-- `for line in handle`: lines end at line feeds only and keep them. -/
def fileLines : PyStr → List PyStr
  | [] => []
  | c :: rest =>
      if c = lineFeed then [lineFeed] :: fileLines rest
      else
        match fileLines rest with
        | [] => [[c]]
        | line :: lines => (c :: line) :: lines

/-- A text file as `append` leaves it: every row ended by a line feed. -/
def joinRows (rows : List PyStr) : PyStr := rows.flatMap fun row => row ++ [lineFeed]

@[simp] theorem joinRows_nil : joinRows [] = [] := rfl

@[simp] theorem joinRows_cons (row : PyStr) (rows : List PyStr) :
    joinRows (row :: rows) = row ++ lineFeed :: joinRows rows := by
  simp [joinRows]

@[simp] theorem joinRows_append (left right : List PyStr) :
    joinRows (left ++ right) = joinRows left ++ joinRows right := by
  simp [joinRows]

theorem translateNewlines_eq_self {text : PyStr} (clean : carriageReturn ∉ text) :
    translateNewlines false text = text := by
  induction text with
  | nil => rfl
  | cons c rest ih =>
      have notReturn : c ≠ carriageReturn := by
        rintro rfl
        exact clean (by simp)
      have restClean : carriageReturn ∉ rest := fun member => clean (by simp [member])
      simp [translateNewlines, notReturn, ih restClean]

theorem splitLines_row (row text : PyStr) (unbroken : ∀ c ∈ row, isLineBreak c = false) :
    splitLines (row ++ lineFeed :: text) = row :: splitLines text := by
  induction row with
  | nil => simp [splitLines, isLineBreak, lineFeed]
  | cons c row ih =>
      have head := unbroken c (by simp)
      have tail := ih fun d member => unbroken d (by simp [member])
      simp [splitLines, head, tail]

/-- Rows free of line breaks are read back by `str.splitlines`. -/
theorem splitLines_joinRows {rows : List PyStr}
    (unbroken : ∀ row ∈ rows, ∀ c ∈ row, isLineBreak c = false) :
    splitLines (joinRows rows) = rows := by
  induction rows with
  | nil => rfl
  | cons row rows ih =>
      rw [joinRows_cons, splitLines_row row _ (unbroken row (by simp)),
        ih fun other member => unbroken other (by simp [member])]

theorem fileLines_row (row text : PyStr) (unbroken : lineFeed ∉ row) :
    fileLines (row ++ lineFeed :: text) = (row ++ [lineFeed]) :: fileLines text := by
  induction row with
  | nil => simp [fileLines]
  | cons c row ih =>
      have head : c ≠ lineFeed := by
        rintro rfl
        exact unbroken (by simp)
      have tail := ih fun member => unbroken (by simp [member])
      simp [fileLines, head, tail]

/-- Rows free of line feeds are read back by iterating over the file. -/
theorem fileLines_joinRows {rows : List PyStr} (unbroken : ∀ row ∈ rows, lineFeed ∉ row) :
    fileLines (joinRows rows) = rows.map fun row => row ++ [lineFeed] := by
  induction rows with
  | nil => rfl
  | cons row rows ih =>
      rw [joinRows_cons, fileLines_row row _ (unbroken row (by simp)),
        ih fun other member => unbroken other (by simp [member]), List.map_cons]

end HermesMesh.Python
