import HermesMesh.Platform

/-!
# The payload policy

`validate_payload` walks a payload and refuses sensitive keys, texts that look like an
e-mail address and texts that look like a path outside the vault.  It also asks for the
kind of an address, but raises its own refusal inside the `try` that ignores every
`ValueError`, and `TrustError` is one.
-/

namespace HermesMesh.Collab

open Python

/-- `TrustError` of the policy, with its texts. -/
inductive PolicyFault where
  | sensitiveField
  | pii
  | personalPath
  | internalAddress
  deriving DecidableEq

def PolicyFault.text : PolicyFault → String
  | .sensitiveField => "sensitive payload field denied"
  | .pii => "PII payload denied"
  | .personalPath => "personal path denied"
  | .internalAddress => "internal IP payload denied"

/-- `FORBIDDEN_KEY_TERMS` -/
def forbiddenKeyTerms : List PyStr :=
  [lit "api_key", lit "apikey", lit "secret", lit "password", lit "private_key", lit "env",
    lit "hostname", lit "email", lit "internal_ip"]

/-- The terms that a key may not hold anywhere. -/
def forbiddenKeyParts : List PyStr :=
  [lit "api_key", lit "private_key", lit "password", lit "secret"]

/-- `part in text` -/
def hasPart (part text : PyStr) : Bool := text.tails.any fun tail => part.isPrefixOf tail

def hyphen : CodePoint := 0x2d
def underscore : CodePoint := 0x5f
def atSign : CodePoint := 0x40
def dot : CodePoint := 0x2e

/-- `str(key).lower().replace("-", "_")` -/
def keyText (py : Platform) (key : PyStr) : PyStr :=
  (py.unicode.lower key).map fun c => if c = hyphen then underscore else c

def isSensitiveKey (py : Platform) (key : PyStr) : Bool :=
  let text := keyText py key
  forbiddenKeyTerms.contains text || forbiddenKeyParts.any fun part => hasPart part text

/-- `EMAIL_RE.match(text)` for a stripped text: no white space, one `@` that is not the
first character, and after it a dot that is neither its first nor its last. -/
def isEmail (text : PyStr) : Bool :=
  let host := (text.dropWhile (· ≠ atSign)).drop 1
  text.all (fun c => !isSpace c) && text.count atSign == 1 && text.head? != some atSign &&
    (host.drop 1).dropLast.contains dot

/-- The text starts like an absolute or home path, or has a backslash or a step up. -/
def isPersonalPath (text : PyStr) : Bool :=
  (lit "/").isPrefixOf text || (lit "~/").isPrefixOf text || text.contains backslash ||
    hasPart (lit "../") text

/-- The check of an address: `except ValueError: pass` takes its own refusal too. -/
def checkAddress (py : Platform) (text : PyStr) : Except PolicyFault Unit :=
  let outcome : Except (Option PolicyFault) Unit :=
    match py.internalAddress text with
    | none => .error none
    | some true => .error (some .internalAddress)
    | some false => .ok ()
  match outcome with
  | .error _ => .ok ()
  | .ok () => .ok ()

/-- `validate_payload` of a text. -/
def checkText (py : Platform) (text : PyStr) : Except PolicyFault Unit :=
  let stripped := strip text
  if isEmail stripped then .error .pii
  else if isPersonalPath stripped then .error .personalPath
  else checkAddress py stripped

mutual
/-- `validate_payload`; the path of the field is for nobody. -/
def validatePayload (py : Platform) : Json → Except PolicyFault Unit
  | .obj fields => validateFields py fields
  | .arr items => validateItems py items
  | .str text => checkText py text
  | .null | .bool _ | .int _ | .float _ => .ok ()

def validateFields (py : Platform) : List (PyStr × Json) → Except PolicyFault Unit
  | [] => .ok ()
  | (key, value) :: rest =>
      if isSensitiveKey py key then .error .sensitiveField
      else do
        validatePayload py value
        validateFields py rest

def validateItems (py : Platform) : List Json → Except PolicyFault Unit
  | [] => .ok ()
  | item :: rest => do
      validatePayload py item
      validateItems py rest
end

/-- The policy accepts the value. -/
def Acceptable (py : Platform) (value : Json) : Prop := validatePayload py value = .ok ()

/-- The policy accepts the text, as a value. -/
def AcceptableText (py : Platform) (text : PyStr) : Prop := checkText py text = .ok ()

variable {py : Platform}

theorem checkAddress_ok (text : PyStr) : checkAddress py text = .ok () := by
  unfold checkAddress
  split <;> rfl

theorem acceptableText_iff {text : PyStr} :
    AcceptableText py text ↔ isEmail (strip text) = false ∧ isPersonalPath (strip text) = false := by
  unfold AcceptableText checkText
  dsimp only
  split
  · next email => simp [email]
  · next notEmail =>
      split
      · next personal => simp [personal]
      · next notPersonal => simp [notEmail, notPersonal, checkAddress_ok]

@[simp] theorem acceptable_str {text : PyStr} :
    Acceptable py (.str text) ↔ AcceptableText py text := Iff.rfl

theorem bind_eq_ok {first next : Except PolicyFault Unit} :
    (first >>= fun _ => next) = .ok () ↔ first = .ok () ∧ next = .ok () := by
  cases first with
  | error fault => simp [bind, Except.bind]
  | ok value => simp [bind, Except.bind]

theorem acceptable_arr {items : List Json} :
    Acceptable py (.arr items) ↔ ∀ item ∈ items, Acceptable py item := by
  unfold Acceptable
  rw [validatePayload]
  induction items with
  | nil => simp [validateItems]
  | cons item rest ih => rw [validateItems, bind_eq_ok, ih, List.forall_mem_cons]

/-- The policy accepts an object whose keys are harmless and whose values it accepts. -/
theorem acceptable_obj {fields : List (PyStr × Json)} :
    Acceptable py (.obj fields) ↔
      ∀ field ∈ fields, isSensitiveKey py field.1 = false ∧ Acceptable py field.2 := by
  unfold Acceptable
  rw [validatePayload]
  induction fields with
  | nil => simp [validateFields]
  | cons field rest ih =>
      obtain ⟨key, value⟩ := field
      rw [validateFields, List.forall_mem_cons, ← ih]
      split
      · next sensitive => simp [sensitive]
      · next harmless => simp [harmless, bind_eq_ok]

end HermesMesh.Collab
