import HermesMesh.Python.Text

/-!
# Text files, line by line

`for line in handle` decodes a file in chunks.  When a chunk is no UTF-8, or the file ends
within a character, the iteration raises, but only after it has given the lines that end
in the chunks before.
-/

namespace HermesMesh.Python

/-- `TextIOWrapper._CHUNK_SIZE` -/
def chunkSize : Nat := 8192

/-- The bytes that may follow the first one of a character. -/
def mayFollow (first second : UInt8) : Bool :=
  (if first = 0xE0 then 0xA0 else if first = 0xF0 then 0x90 else 0x80) ≤ second &&
    second ≤ (if first = 0xED then 0x9F else if first = 0xF4 then 0x8F else 0xBF)

/-- The bytes are the start of a character, or none at all. -/
def isUnfinished : List UInt8 → Bool
  | [] => true
  | [first] => 0xC2 ≤ first && first ≤ 0xF4
  | [first, second] => 0xE0 ≤ first && first ≤ 0xF4 && mayFollow first second
  | [first, second, third] =>
      0xF0 ≤ first && first ≤ 0xF4 && mayFollow first second && 0x80 ≤ third && third ≤ 0xBF
  | _ => false

/-- What the decoder makes of bytes that more may follow: it holds back the start of a
character; `none` is its `UnicodeDecodeError`. -/
def decodePart (bytes : ByteArray) : Option PyStr :=
  [0, 1, 2, 3].findSome? fun held =>
    let cut := bytes.size - held
    if held ≤ bytes.size ∧ isUnfinished (bytes.extract cut bytes.size).toList then
      decodeUtf8 (bytes.extract 0 cut)
    else none

/-- The text that is decoded before the iteration raises: that of the most whole chunks,
or of all bytes where they end within a character. -/
def decodedBefore (bytes : ByteArray) : PyStr :=
  let ends := bytes.size :: ((List.range (bytes.size / chunkSize + 1)).map (· * chunkSize)).reverse
  (ends.findSome? fun stop => decodePart (bytes.extract 0 stop)).getD []

/-- The lines of the text that end in it; a carriage return at its end may still become
one line end with a line feed. -/
def completeLines (text : PyStr) : List PyStr :=
  let settled := if text.getLast? = some carriageReturn then text.dropLast else text
  (fileLines (translateNewlines false settled)).filter fun line => line.getLast? = some lineFeed

/-- The lines that `for line in handle` gives before it ends or raises. -/
def givenLines (bytes : ByteArray) : List PyStr :=
  match readText bytes with
  | some text => fileLines text
  | none => completeLines (decodedBefore bytes)

theorem givenLines_of_readText {bytes : ByteArray} {text : PyStr} (read : readText bytes = some text) :
    givenLines bytes = fileLines text := by rw [givenLines, read]

end HermesMesh.Python
