import HermesMesh.Python.Surrogates

/-!
# Files of JSON lines

A program appends one encoded value and a line feed at a time, and reads the file line by
line.  Where the text so far ends a line, the new line is read back beside the older ones.
-/

namespace HermesMesh.Python

open JsonScanner

/-- The text is empty or ends a line. -/
def Terminated (text : PyStr) : Prop := text = [] ∨ ∃ front, text = front ++ [lineFeed]

theorem terminated_row (front row : PyStr) : Terminated (front ++ (row ++ [lineFeed])) :=
  .inr ⟨front ++ row, (List.append_assoc front row [lineFeed]).symm⟩

/-- The lines after a line that has ended are lines of their own. -/
theorem fileLines_append {left : PyStr} (terminated : Terminated left) (right : PyStr) :
    fileLines (left ++ right) = fileLines left ++ fileLines right := by
  rcases terminated with rfl | ⟨front, rfl⟩
  · rfl
  · rw [List.append_assoc]
    induction front with
    | nil => simp [fileLines]
    | cons c rest ih =>
        change fileLines (c :: (rest ++ ([lineFeed] ++ right))) =
          fileLines (c :: (rest ++ [lineFeed])) ++ fileLines right
        rw [fileLines.eq_2, fileLines.eq_2, ih]
        split
        · rfl
        · -- what follows is a line, so `c` belongs to the first of the left text
          cases lines : fileLines (rest ++ [lineFeed]) with
          | nil =>
              rw [fileLines.eq_def] at lines
              split at lines
              · next empty => simp at empty
              · split at lines
                · cases lines
                · split at lines <;> cases lines
          | cons line others => rfl

/-! ## New lines -/

theorem translateNewlines_append {right : PyStr} (clean : carriageReturn ∉ right)
    (start : right.head? ≠ some lineFeed) (afterReturn : Bool) (left : PyStr) :
    translateNewlines afterReturn (left ++ right) = translateNewlines afterReturn left ++ right := by
  induction left generalizing afterReturn with
  | nil =>
      have unchanged := translateNewlines_eq_self clean
      cases right with
      | nil => rfl
      | cons c rest =>
          have notReturn : c ≠ carriageReturn := fun same => clean (same ▸ List.mem_cons_self)
          have notFeed : c ≠ lineFeed := fun same => start (same ▸ rfl)
          have restClean : carriageReturn ∉ rest := fun member => clean (List.mem_cons_of_mem c member)
          simp [translateNewlines, notReturn, notFeed, translateNewlines_eq_self restClean]
  | cons c rest ih =>
      rw [List.cons_append, translateNewlines, translateNewlines]
      split
      · rw [ih, List.cons_append]
      split
      · rw [ih]
      · rw [ih, List.cons_append]

/-- A line without control characters is read back after the text before it. -/
theorem readText_append {bytes line : ByteArray} {text row : PyStr}
    (uncontrolled : ∀ c ∈ row, 32 ≤ c.val) (isText : readText bytes = some text)
    (isLine : encodeUtf8 (row ++ [lineFeed]) = some line) (nonempty : row ≠ []) :
    readText (bytes ++ line) = some (text ++ (row ++ [lineFeed])) := by
  obtain ⟨raw, decoded, rfl⟩ := Option.map_eq_some_iff.mp isText
  have whole := encodeUtf8_append (decodeUtf8_eq_some.mp decoded) isLine
  have clean : carriageReturn ∉ row ++ [lineFeed] := by
    intro member
    rcases List.mem_append.mp member with inRow | isEnd
    · have large := uncontrolled _ inRow
      simp [carriageReturn] at large
    · simp [carriageReturn, lineFeed] at isEnd
  have start : (row ++ [lineFeed]).head? ≠ some lineFeed := by
    cases row with
    | nil => exact absurd rfl nonempty
    | cons c rest =>
        intro isFeed
        have large := uncontrolled c List.mem_cons_self
        rw [Option.some.inj isFeed] at large
        simp [lineFeed] at large
  rw [readText, decodeUtf8_of_encodeUtf8 whole, Option.map_some,
    translateNewlines_append clean start]

/-- The text of a file, which need not exist. -/
def fileText : Option ByteArray → Option PyStr
  | none => some []
  | some bytes => readText bytes

/-- `handle.write(row + "\n")` in append mode: `none` is the `UnicodeEncodeError`. -/
def appendRow (row : PyStr) (file : Option ByteArray) : Option ByteArray :=
  (encodeUtf8 (row ++ [lineFeed])).map fun bytes => file.getD ByteArray.empty ++ bytes

theorem fileText_appendRow {file : Option ByteArray} {after : ByteArray} {text row : PyStr}
    (uncontrolled : ∀ c ∈ row, 32 ≤ c.val) (nonempty : row ≠ []) (isText : fileText file = some text)
    (appended : appendRow row file = some after) :
    fileText (some after) = some (text ++ (row ++ [lineFeed])) := by
  obtain ⟨line, isLine, rfl⟩ := Option.map_eq_some_iff.mp appended
  cases file with
  | none =>
      cases isText
      exact @readText_append .empty line [] row uncontrolled
        (by simp [readText, decodeUtf8, translateNewlines]) isLine
        nonempty
  | some bytes => exact readText_append uncontrolled isText isLine nonempty

/-- A text without surrogates can always be written. -/
theorem exists_appendRow {row : PyStr} (encodable : Encodable row) (file : Option ByteArray) :
    ∃ after, appendRow row file = some after := by
  have feed : Encodable [lineFeed] := by
    intro c member
    rw [List.mem_singleton.mp member]
    exact CodePoint.toChar?_of_lt (by decide)
  obtain ⟨bytes, isBytes⟩ := encodable_iff.mp (encodable_append.mpr ⟨encodable, feed⟩)
  exact ⟨_, by rw [appendRow, isBytes, Option.map_some]⟩

/-! ## Rows -/

namespace JsonStyle

/-- A style that writes every value into one line. -/
structure OneLine (style : JsonStyle) : Prop where
  escape : ∀ c, ∀ d ∈ style.escape c, 32 ≤ d.val
  itemSep : ∀ c ∈ style.itemSep, 32 ≤ c.val
  keySep : ∀ c ∈ style.keySep, 32 ≤ c.val

theorem OneLine.uncontrolled {style : JsonStyle} (oneLine : style.OneLine) (value : Json) :
    ∀ c ∈ value.dumps style, 32 ≤ c.val :=
  Json.forall_mem_dumps (fun _ plain => plain.1) oneLine.itemSep oneLine.keySep value
    (Json.allStrings_of_forall (fun _ c _ d escaped => oneLine.escape c d escaped) value)

end JsonStyle

theorem uncontrolled_escapePlain (c : CodePoint) : ∀ d ∈ escapePlain c, 32 ≤ d.val := by
  intro d member
  rcases Json.mem_escapePlain member with plain | ⟨rfl, uncontrolled⟩
  · exact plain.1
  · exact uncontrolled

/-- ASCII escapes are printable ASCII. -/
theorem isPlain_escapeAscii (c : CodePoint) : ∀ d ∈ escapeAscii c, IsPlain d := by
  have unit : ∀ value, value < 0x10000 → ∀ d ∈ unitEscape value, IsPlain d := by
    intro value small d member
    have digit : ∀ n : Fin 16, IsPlain (hexDigit n) := by decide
    rw [unitEscape, hexDigits_four small] at member
    simp only [List.mem_cons, List.not_mem_nil, or_false] at member
    rcases member with rfl | rfl | rfl | rfl | rfl | rfl
    · decide
    · decide
    · exact digit ⟨value / 4096, by omega⟩
    · exact digit ⟨value / 256 % 16, by omega⟩
    · exact digit ⟨value / 16 % 16, by omega⟩
    · exact digit ⟨value % 16, by omega⟩
  intro d member
  unfold escapeAscii at member
  split_ifs at member with ascii basic
  · rcases Json.mem_escapePlain member with plain | ⟨rfl, uncontrolled⟩
    · exact plain
    · exact ⟨uncontrolled, ascii⟩
  · exact unit c.val basic d member
  · have high := highSurrogate_lt c
    have low := lowSurrogate_lt c
    rcases List.mem_append.mp member with inHigh | inLow
    · exact unit _ (by omega) d inHigh
    · exact unit _ (by omega) d inLow

theorem oneLine_default : JsonStyle.default.OneLine where
  escape c d member := (isPlain_escapeAscii c d member).1
  itemSep c member := (isPlain_lit ", " (by decide) c member).1
  keySep c member := (isPlain_lit ": " (by decide) c member).1

/-- The default encoding is ASCII, so every file can hold it. -/
theorem encodable_default (value : Json) : Encodable (value.dumps .default) := by
  have plain : ∀ c ∈ value.dumps .default, IsPlain c :=
    Json.forall_mem_dumps (fun _ isPlain => isPlain) (isPlain_lit ", " (by decide))
      (isPlain_lit ": " (by decide)) value
      (Json.allStrings_of_forall (fun _ c _ d escaped => isPlain_escapeAscii c d escaped) value)
  exact encodable_of_plain plain

theorem dumps_obj_ne_nil (style : JsonStyle) (fields : Dict PyStr Json) :
    Json.dumps style (.obj fields) ≠ [] := by
  rw [Json.dumps]
  simp

/-- The line of an object has no white space around it but its end. -/
theorem strip_row (style : JsonStyle) (fields : Dict PyStr Json) :
    strip (Json.dumps style (.obj fields) ++ [lineFeed]) = Json.dumps style (.obj fields) := by
  have opens : ¬isSpace openBrace = true := by decide
  have closes : ¬isSpace closeBrace = true := by decide
  have ends : isSpace lineFeed = true := by decide
  rw [strip, Json.dumps, List.cons_append, List.cons_append, List.dropWhile_cons_of_neg opens,
    ← List.cons_append, List.rdropWhile_concat_pos _ _ _ ends, ← List.cons_append,
    List.rdropWhile_concat_neg _ _ _ closes]

/-- The lines of a file to which a row is added. -/
theorem fileLines_concat {text row : PyStr} (terminated : Terminated text)
    (uncontrolled : ∀ c ∈ row, 32 ≤ c.val) :
    fileLines (text ++ (row ++ [lineFeed])) = fileLines text ++ [row ++ [lineFeed]] := by
  have unbroken : lineFeed ∉ row := by
    intro member
    have large := uncontrolled _ member
    simp [lineFeed] at large
  rw [fileLines_append terminated, fileLines_row row [] unbroken]
  rfl

/-! ## What a file holds -/

section Rows

variable {α : Type} {read : PyStr → Option α}

/-- The values that a reader finds in the lines of a file; `none` is a `UnicodeDecodeError`. -/
def readRows (read : PyStr → Option α) (file : Option ByteArray) : Option (List α) :=
  (fileText file).map fun text => (fileLines text).filterMap read

/-- The file ends its last line and is read as these values. -/
def HoldsRows (read : PyStr → Option α) (values : List α) (file : Option ByteArray) : Prop :=
  ∃ text, fileText file = some text ∧ Terminated text ∧ (fileLines text).filterMap read = values

theorem holdsRows_none (read : PyStr → Option α) : HoldsRows read [] none :=
  ⟨[], rfl, .inl rfl, rfl⟩

theorem HoldsRows.readRows {values : List α} {file : Option ByteArray}
    (holds : HoldsRows read values file) : readRows read file = some values := by
  obtain ⟨text, isText, -, isRead⟩ := holds
  rw [Python.readRows, isText, Option.map_some, isRead]

/-- A row that is added is read after the older ones. -/
theorem HoldsRows.append {values : List α} {file : Option ByteArray} {after : ByteArray}
    (holds : HoldsRows read values file) {row : PyStr} (uncontrolled : ∀ c ∈ row, 32 ≤ c.val)
    (nonempty : row ≠ []) (appended : appendRow row file = some after) {value : α}
    (reads : read (row ++ [lineFeed]) = some value) :
    HoldsRows read (values ++ [value]) (some after) := by
  obtain ⟨text, isText, terminated, isRead⟩ := holds
  have newText := fileText_appendRow uncontrolled nonempty isText appended
  refine ⟨_, newText, terminated_row _ _, ?_⟩
  rw [fileLines_concat terminated uncontrolled, List.filterMap_append, isRead,
    List.filterMap_cons_some reads, List.filterMap_nil]

end Rows

end HermesMesh.Python
