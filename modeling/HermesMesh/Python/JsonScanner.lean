import HermesMesh.Python.Json

/-!
# The JSON scanner

`json.loads` as CPython's scanner reads text: white space between tokens, strict
strings, the number grammar with its optional parts, and the extra constants
`NaN`, `Infinity` and `-Infinity`.  The recursion carries fuel; every nested call
has consumed a character, so the length of the text is enough.  The interpreter's
own limits, on the digits of an `int` and on the depth of calls, are settings of it
and not part of the grammar.
-/

namespace HermesMesh.Python

namespace JsonScanner

/-- White space between tokens. -/
def isWs (c : CodePoint) : Bool := c.val == 32 || c.val == 9 || c.val == 10 || c.val == 13

def skipWs (text : PyStr) : PyStr := text.dropWhile isWs

/-! ## Strings -/

def hexValue (c : CodePoint) : Option Nat :=
  if 48 ≤ c.val ∧ c.val ≤ 57 then some (c.val - 48)
  else if 97 ≤ c.val ∧ c.val ≤ 102 then some (c.val - 87)
  else if 65 ≤ c.val ∧ c.val ≤ 70 then some (c.val - 55)
  else none

/-- The code unit of four hexadecimal digits. -/
def codeUnit (a b c d : CodePoint) : Option CodePoint := do
  let a ← hexValue a
  let b ← hexValue b
  let c ← hexValue c
  let d ← hexValue d
  return Fin.ofNat _ (((a * 16 + b) * 16 + c) * 16 + d)

/-- The character of a one-letter escape. -/
def simpleEscape (c : CodePoint) : Option CodePoint :=
  if c = quoteMark ∨ c = backslash ∨ c.val = 47 then some c
  else if c.val = 98 then some 8
  else if c.val = 102 then some 12
  else if c.val = 110 then some 10
  else if c.val = 114 then some 13
  else if c.val = 116 then some 9
  else none

/-- The characters of a string up to its closing quote; the flag marks those
written as `\\uXXXX`. Control characters end the scan (`strict=True`). -/
def scanUnits : PyStr → Option (List (CodePoint × Bool) × PyStr)
  | [] => none
  | c :: rest =>
      if c = quoteMark then some ([], rest)
      else if c = backslash then
        match rest with
        | [] => none
        | e :: rest =>
            if e.val = 117 then
              match rest with
              | h₁ :: h₂ :: h₃ :: h₄ :: rest =>
                  match codeUnit h₁ h₂ h₃ h₄ with
                  | some unit => (scanUnits rest).map fun (units, tail) => ((unit, true) :: units, tail)
                  | none => none
              | _ => none
            else
              match simpleEscape e with
              | some c => (scanUnits rest).map fun (units, tail) => ((c, false) :: units, tail)
              | none => none
      else if c.val < 32 then none
      else (scanUnits rest).map fun (units, tail) => ((c, false) :: units, tail)

def isHighSurrogate (c : CodePoint) : Bool := 0xd800 ≤ c.val && c.val ≤ 0xdbff
def isLowSurrogate (c : CodePoint) : Bool := 0xdc00 ≤ c.val && c.val ≤ 0xdfff

/-- Two adjacent `\\uXXXX` escapes that form a surrogate pair are one character. -/
def joinPairs : List (CodePoint × Bool) → PyStr
  | [] => []
  | [(c, _)] => [c]
  | (c, escaped) :: (d, followed) :: rest =>
      if escaped && followed && isHighSurrogate c && isLowSurrogate d then
        Fin.ofNat _ (0x10000 + (c.val - 0xd800) * 0x400 + (d.val - 0xdc00)) :: joinPairs rest
      else c :: joinPairs ((d, followed) :: rest)

/-- A string after its opening quote. -/
def scanString (text : PyStr) : Option (PyStr × PyStr) :=
  (scanUnits text).map fun (units, tail) => (joinPairs units, tail)

/-! ## Numbers -/

/-- The longest run of digits at the head of a text. -/
def spanDigits (text : PyStr) : PyStr × PyStr :=
  (text.takeWhile isDigit, text.dropWhile isDigit)

/-- `(\.\d+)?` -/
def scanFrac (text : PyStr) : Option PyStr × PyStr :=
  match text with
  | c :: rest =>
      if c.val = 46 ∧ (spanDigits rest).1 ≠ [] then
        (some (spanDigits rest).1, (spanDigits rest).2)
      else (none, text)
  | [] => (none, text)

/-- `[-+]?` -/
def scanSign (text : PyStr) : Option Bool × PyStr :=
  match text with
  | c :: rest => if c.val = 43 then (some false, rest) else if c.val = 45 then (some true, rest) else (none, text)
  | [] => (none, text)

/-- `([eE][-+]?\d+)?` -/
def scanExp (text : PyStr) : Option ExpPart × PyStr :=
  match text with
  | c :: rest =>
      let (sign, afterSign) := scanSign rest
      if (c.val = 101 ∨ c.val = 69) ∧ (spanDigits afterSign).1 ≠ [] then
        (some ⟨sign, (spanDigits afterSign).1⟩, (spanDigits afterSign).2)
      else (none, text)
  | [] => (none, text)

/-- `0|[1-9]\d*` -/
def scanWhole (text : PyStr) : Option (PyStr × PyStr) :=
  match text with
  | [] => none
  | c :: rest =>
      if c = zeroDigit then some ([zeroDigit], rest)
      else if isDigit c then some (c :: (spanDigits rest).1, (spanDigits rest).2)
      else none

/-- `-?` -/
def scanMinus (text : PyStr) : Bool × PyStr :=
  match text with
  | c :: rest => if c.val = 45 then (true, rest) else (false, text)
  | [] => (false, text)

/-- `(-?(?:0|[1-9]\d*))(\.\d+)?([eE][-+]?\d+)?` -/
def scanNumber (text : PyStr) : Option (NumberLit × PyStr) :=
  match scanWhole (scanMinus text).2 with
  | none => none
  | some (whole, afterWhole) =>
      let (frac, afterFrac) := scanFrac afterWhole
      let (exp, tail) := scanExp afterFrac
      some (⟨(scanMinus text).1, whole, frac, exp⟩, tail)

/-- A literal becomes an `int` or a `float`. -/
def numberValue (l : NumberLit) : Json :=
  if l.isFloat then .float l.floatValue else .int l.intValue

/-! ## Values -/

/-- The constant names, in the order the scanner tries them around numbers. -/
def constants : List (PyStr × Json) :=
  [(lit "null", .null), (lit "true", .bool true), (lit "false", .bool false),
    (lit "NaN", .float .nan), (lit "Infinity", .float (.inf false)),
    (lit "-Infinity", .float (.inf true))]

/-- The value named by the first constant that starts the text. -/
def scanConstant (text : PyStr) : Option (Json × PyStr) :=
  constants.findSome? fun (name, value) =>
    if name.isPrefixOf text then some (value, text.drop name.length) else none

mutual
/-- `scan_once`: `none` is the `JSONDecodeError`. -/
def scanValue : Nat → PyStr → Option (Json × PyStr)
  | 0, _ => none
  | _ + 1, [] => none
  | fuel + 1, c :: rest =>
      if c = quoteMark then (scanString rest).map fun (text, tail) => (.str text, tail)
      else if c = openBrace then
        match skipWs rest with
        | [] => none
        | d :: tail =>
            if d = closeBrace then some (.obj [], tail)
            else if d = quoteMark then
              (scanFields fuel tail).map fun (pairs, tail) => (.obj (Dict.ofPairs pairs), tail)
            else none
      else if c = openBracket then
        match skipWs rest with
        | [] => none
        | d :: tail =>
            if d = closeBracket then some (.arr [], tail)
            else (scanItems fuel (d :: tail)).map fun (items, tail) => (.arr items, tail)
      else
        match scanNumber (c :: rest) with
        | some (l, tail) => some (numberValue l, tail)
        | none => scanConstant (c :: rest)

/-- The items of an array from its first item to the closing bracket. -/
def scanItems : Nat → PyStr → Option (List Json × PyStr)
  | 0, _ => none
  | fuel + 1, text =>
      match scanValue fuel text with
      | none => none
      | some (item, afterItem) =>
          match skipWs afterItem with
          | [] => none
          | d :: tail =>
              if d = closeBracket then some ([item], tail)
              else if d = comma then
                (scanItems fuel (skipWs tail)).map fun (items, tail) => (item :: items, tail)
              else none

/-- The fields of an object after the opening quote of the first key. -/
def scanFields : Nat → PyStr → Option (List (PyStr × Json) × PyStr)
  | 0, _ => none
  | fuel + 1, text =>
      match scanString text with
      | none => none
      | some (key, afterKey) =>
          match skipWs afterKey with
          | [] => none
          | d :: afterColon =>
              if d = colon then
                match scanValue fuel (skipWs afterColon) with
                | none => none
                | some (value, afterValue) =>
                    match skipWs afterValue with
                    | [] => none
                    | e :: tail =>
                        if e = closeBrace then some ([(key, value)], tail)
                        else if e = comma then
                          match skipWs tail with
                          | [] => none
                          | q :: tail =>
                              if q = quoteMark then
                                (scanFields fuel tail).map fun (fields, tail) =>
                                  ((key, value) :: fields, tail)
                              else none
                        else none
              else none
end

end JsonScanner

/-- `json.loads(text)`: `none` is `JSONDecodeError`. -/
def loads (text : PyStr) : Option Json :=
  match JsonScanner.scanValue (text.length + 1) (JsonScanner.skipWs text) with
  | some (value, tail) => if JsonScanner.skipWs tail = [] then some value else none
  | none => none

end HermesMesh.Python
