import HermesMesh.Python.Repr
import HermesMesh.Python.Path

/-!
# The platform

What the program takes from outside its repository: SHA-256, HMAC, the Unicode
tables and the parsers of Python's library for dates, floats and addresses.
Properties beyond the shape of their results are hypotheses of the theorems that
need them.
-/

namespace HermesMesh

open Python

/-- The exceptions of the modelled code, with the texts of its own ones. -/
inductive Fault where
  | vaultError (message : String)
  | trustError (message : String)
  | valueError
  | osError
  | overflowError
  | typeError
  deriving DecidableEq

/-- The text of `hexdigest()`: some printable ASCII. -/
structure Digest where
  text : PyStr
  nonempty : text ≠ []
  plain : ∀ c ∈ text, IsPlain c

/-- A text the library guarantees to be printable ASCII, such as a time stamp. -/
structure PlainText where
  text : PyStr
  plain : ∀ c ∈ text, IsPlain c

/-- The text of a `uuid4`: letters, digits and hyphens. -/
structure UuidText where
  text : PyStr
  nonempty : text ≠ []
  chars : ∀ c ∈ text, asciiAlnum c = true ∨ c.val = 45

/-- What a parser of the library makes of a text. -/
inductive Parsed (α : Type) where
  | value (result : α)
  | valueError
  | overflowError

structure Platform where
  unicode : UnicodeData
  /-- `hashlib.sha256(data).hexdigest()` -/
  sha256 : ByteArray → Digest
  /-- `hmac.new(key, data, hashlib.sha256).hexdigest()` -/
  hmacSha256 : (key data : ByteArray) → Digest
  /-- `datetime.fromisoformat(text.replace("Z", "+00:00")).timestamp()` -/
  isoTimestamp : PyStr → Parsed PyFloat
  /-- `float(text)`; `none` is its `ValueError`. -/
  floatOfText : PyStr → Option PyFloat
  /-- Whether `ipaddress.ip_address(text)` is private, loopback or link-local; `none` is
  its `ValueError`. -/
  internalAddress : PyStr → Option Bool

theorem UuidText.plain (uuid : UuidText) : ∀ c ∈ uuid.text, IsPlain c := by
  intro c member
  rcases uuid.chars c member with alnum | hyphen
  · simp only [asciiAlnum, isDigit, Bool.or_eq_true, Bool.and_eq_true, decide_eq_true_eq] at alnum
    exact ⟨by omega, by omega⟩
  · exact ⟨by omega, by omega⟩

namespace Digest

/-- The hexadecimal text of some bytes, after a leading zero. -/
def hexText (bytes : List UInt8) : PyStr :=
  zeroDigit :: bytes.flatMap fun byte => [hexDigit (byte.toNat / 16), hexDigit (byte.toNat % 16)]

theorem isPlain_hexDigit : ∀ n : Fin 16, IsPlain (hexDigit n) := by decide

theorem hexDigit_injective : ∀ m n : Fin 16, hexDigit m = hexDigit n → m = n := by decide

theorem isPlain_hexText (bytes : List UInt8) : ∀ c ∈ hexText bytes, IsPlain c := by
  intro c member
  rcases List.mem_cons.mp member with rfl | inside
  · decide
  · obtain ⟨byte, -, inByte⟩ := List.mem_flatMap.mp inside
    have small := byte.toNat_lt
    simp only [List.mem_cons, List.not_mem_nil, or_false] at inByte
    rcases inByte with rfl | rfl
    · exact isPlain_hexDigit ⟨byte.toNat / 16, by omega⟩
    · exact isPlain_hexDigit ⟨byte.toNat % 16, by omega⟩

theorem hexText_injective : Function.Injective hexText := by
  intro left right same
  have bodies := (List.cons.inj same).2
  clear same
  induction left generalizing right with
  | nil =>
      cases right with
      | nil => rfl
      | cons byte rest => simp at bodies
  | cons byte rest ih =>
      cases right with
      | nil => simp at bodies
      | cons other others =>
          simp only [List.flatMap_cons, List.cons_append, List.nil_append, List.cons.injEq] at bodies
          obtain ⟨high, low, tails⟩ := bodies
          have smallByte := byte.toNat_lt
          have smallOther := other.toNat_lt
          have highs := hexDigit_injective ⟨byte.toNat / 16, by omega⟩ ⟨other.toNat / 16, by omega⟩ high
          have lows := hexDigit_injective ⟨byte.toNat % 16, by omega⟩ ⟨other.toNat % 16, by omega⟩ low
          rw [Fin.mk.injEq] at highs lows
          have same : byte = other := UInt8.toNat_inj.mp (by omega)
          rw [same, ih tails]

/-- A digest that is the hashed bytes themselves, in hexadecimal. -/
def ofBytes (bytes : ByteArray) : Digest :=
  ⟨hexText bytes.data.toList, by simp [hexText], isPlain_hexText _⟩

theorem ofBytes_injective : Function.Injective ofBytes := by
  intro left right same
  have texts : hexText left.data.toList = hexText right.data.toList := congrArg Digest.text same
  exact ByteArray.ext (Array.toList_inj.mp (hexText_injective texts))

end Digest

/-- A platform whose digests are the bytes themselves, so that they never collide, and
whose parsers read nothing. -/
def Platform.plain : Platform where
  unicode := .ascii
  sha256 := Digest.ofBytes
  hmacSha256 := fun key data => Digest.ofBytes (key ++ data)
  isoTimestamp := fun _ => .valueError
  floatOfText := fun _ => none
  internalAddress := fun _ => none

end HermesMesh
