import HermesMesh.Collab.Trust.Policy

/-!
# The documented value policy

The policy that the documentation states speaks of all keys and all texts of a value, at
any depth.  `validate_payload` raises for every one of its rules but that on addresses.
-/

namespace HermesMesh

namespace Python.Json

/-- A key of some object in the value. -/
inductive KeyIn (key : PyStr) : Json → Prop where
  | here {fields : List (PyStr × Json)} {value : Json} (member : (key, value) ∈ fields) :
      KeyIn key (.obj fields)
  | inField {fields : List (PyStr × Json)} {field : PyStr × Json} (member : field ∈ fields)
      (inner : KeyIn key field.2) : KeyIn key (.obj fields)
  | inItem {items : List Json} {item : Json} (member : item ∈ items) (inner : KeyIn key item) :
      KeyIn key (.arr items)

/-- A text that is the value or stands somewhere in it. -/
inductive TextIn (text : PyStr) : Json → Prop where
  | here : TextIn text (.str text)
  | inField {fields : List (PyStr × Json)} {field : PyStr × Json} (member : field ∈ fields)
      (inner : TextIn text field.2) : TextIn text (.obj fields)
  | inItem {items : List Json} {item : Json} (member : item ∈ items) (inner : TextIn text item) :
      TextIn text (.arr items)

end Python.Json

namespace Collab

open Python Python.Json

variable {py : Platform}

/-- A rule other than that on addresses denies the value. -/
def DeniedByText (py : Platform) (value : Json) : Prop :=
  (∃ key, KeyIn key value ∧ isSensitiveKey py key = true) ∨
    ∃ text, TextIn text value ∧ (isEmail (strip text) = true ∨ isPersonalPath (strip text) = true)

/-- Some text of the value is that of an internal address. -/
def HasInternalAddress (py : Platform) (value : Json) : Prop :=
  ∃ text, TextIn text value ∧ py.internalAddress (strip text) = some true

/-- The documented policy denies the value. -/
def Denied (py : Platform) (value : Json) : Prop :=
  (∃ key, KeyIn key value ∧ isSensitiveKey py key = true) ∨
    ∃ text, TextIn text value ∧ (isEmail (strip text) = true ∨ isPersonalPath (strip text) = true ∨
      py.internalAddress (strip text) = some true)

theorem denied_iff {value : Json} :
    Denied py value ↔ DeniedByText py value ∨ HasInternalAddress py value := by
  constructor
  · rintro (key | ⟨text, inValue, email | personal | internal⟩)
    · exact .inl (.inl key)
    · exact .inl (.inr ⟨text, inValue, .inl email⟩)
    · exact .inl (.inr ⟨text, inValue, .inr personal⟩)
    · exact .inr ⟨text, inValue, internal⟩
  · rintro ((key | ⟨text, inValue, email | personal⟩) | ⟨text, inValue, internal⟩)
    · exact .inl key
    · exact .inr ⟨text, inValue, .inl email⟩
    · exact .inr ⟨text, inValue, .inr (.inl personal)⟩
    · exact .inr ⟨text, inValue, .inr (.inr internal)⟩

/-- The keys of an accepted value are harmless. -/
theorem Acceptable.key {value : Json} (accepted : Acceptable py value) {key : PyStr}
    (inValue : KeyIn key value) : isSensitiveKey py key = false := by
  induction inValue with
  | here member => exact (acceptable_obj.mp accepted _ member).1
  | inField member _ ih => exact ih (acceptable_obj.mp accepted _ member).2
  | inItem member _ ih => exact ih (acceptable_arr.mp accepted _ member)

/-- The texts of an accepted value are accepted. -/
theorem Acceptable.text {value : Json} (accepted : Acceptable py value) {text : PyStr}
    (inValue : TextIn text value) : AcceptableText py text := by
  induction inValue with
  | here => exact accepted
  | inField member _ ih => exact ih (acceptable_obj.mp accepted _ member).2
  | inItem member _ ih => exact ih (acceptable_arr.mp accepted _ member)

/-- A value with harmless keys and accepted texts is accepted. -/
theorem acceptable_of_parts (value : Json)
    (keys : ∀ key, KeyIn key value → isSensitiveKey py key = false)
    (texts : ∀ text, TextIn text value → AcceptableText py text) : Acceptable py value := by
  induction value using dumps.induct
    (motive_2 := fun fields => (∀ field ∈ fields, isSensitiveKey py field.1 = false ∧
      (∀ key, KeyIn key field.2 → isSensitiveKey py key = false) ∧
        ∀ text, TextIn text field.2 → AcceptableText py text) →
      ∀ field ∈ fields, isSensitiveKey py field.1 = false ∧ Acceptable py field.2)
    (motive_3 := fun items => (∀ item ∈ items,
      (∀ key, KeyIn key item → isSensitiveKey py key = false) ∧
        ∀ text, TextIn text item → AcceptableText py text) →
      ∀ item ∈ items, Acceptable py item) with
  | case1 | case2 | case3 | case4 | case5 => rfl
  | case6 text => exact texts text .here
  | case7 items ih =>
      refine acceptable_arr.mpr (ih fun item member => ⟨?_, ?_⟩)
      · exact fun key inItem => keys key (.inItem member inItem)
      · exact fun text inItem => texts text (.inItem member inItem)
  | case8 fields ih =>
      refine acceptable_obj.mpr (ih fun field member => ⟨keys _ (.here member), ?_, ?_⟩)
      · exact fun key inField => keys key (.inField member inField)
      · exact fun text inField => texts text (.inField member inField)
  | case9 _ item member => cases member
  | case10 item rest itemIH restIH parts other member =>
      rcases List.mem_cons.mp member with rfl | later
      · exact itemIH (parts _ member).1 (parts _ member).2
      · exact restIH (fun item tail => parts item (List.mem_cons_of_mem _ tail)) other later
  | case11 _ field member => cases member
  | case12 key value rest valueIH restIH parts field member =>
      rcases List.mem_cons.mp member with rfl | later
      · obtain ⟨harmless, keys, texts⟩ := parts _ member
        exact ⟨harmless, valueIH keys texts⟩
      · exact restIH (fun field tail => parts field (List.mem_cons_of_mem _ tail)) field later

/-- `validate_payload` raises exactly by the rules on keys, e-mails and paths. -/
theorem refused_iff {value : Json} :
    (∃ fault, validatePayload py value = .error fault) ↔ DeniedByText py value := by
  constructor
  · rintro ⟨fault, refused⟩
    by_contra notDenied
    rw [DeniedByText, not_or] at notDenied
    obtain ⟨harmless, plain⟩ := notDenied
    have accepted : Acceptable py value := by
      refine acceptable_of_parts value (fun key inValue => ?_) fun text inValue => ?_
      · exact Bool.eq_false_iff.mpr fun sensitive => harmless ⟨key, inValue, sensitive⟩
      · refine acceptableText_iff.mpr ⟨?_, ?_⟩
        · exact Bool.eq_false_iff.mpr fun email => plain ⟨text, inValue, .inl email⟩
        · exact Bool.eq_false_iff.mpr fun personal => plain ⟨text, inValue, .inr personal⟩
    rw [Acceptable, refused] at accepted
    cases accepted
  · intro denied
    cases outcome : validatePayload py value with
    | error fault => exact ⟨fault, rfl⟩
    | ok done =>
        exfalso
        have accepted : Acceptable py value := outcome
        rcases denied with ⟨key, inValue, sensitive⟩ | ⟨text, inValue, bad⟩
        · rw [accepted.key inValue] at sensitive
          cases sensitive
        · obtain ⟨notEmail, notPersonal⟩ := acceptableText_iff.mp (accepted.text inValue)
          rw [notEmail, notPersonal] at bad
          rcases bad with email | personal
          · cases email
          · cases personal

/-- `validate_payload` is the documented policy for a value exactly if it has no text of an
internal address or is denied by another rule as well. -/
theorem refused_iff_denied_iff (value : Json) :
    ((∃ fault, validatePayload py value = .error fault) ↔ Denied py value) ↔
      (HasInternalAddress py value → DeniedByText py value) := by
  rw [refused_iff, denied_iff]
  constructor
  · intro same internal
    exact same.mpr (.inr internal)
  · intro otherwise
    exact ⟨.inl, fun denied => denied.elim id otherwise⟩

/-- A platform that knows one address of a private network. -/
def oneAddress : Platform :=
  { Platform.plain with
    internalAddress := fun text => if text = lit "10.0.0.1" then some true else none }

/-- A payload with a private address is denied by the policy and passes the check. -/
theorem private_address_passes :
    let payload := Json.obj [(lit "addr", .str (lit "10.0.0.1"))]
    validatePayload oneAddress payload = .ok () ∧
      ¬((∃ fault, validatePayload oneAddress payload = .error fault) ↔
        Denied oneAddress payload) := by
  have passes : validatePayload oneAddress (.obj [(lit "addr", .str (lit "10.0.0.1"))]) =
      .ok () := by rfl
  refine ⟨passes, fun same => ?_⟩
  have stripped : strip (lit "10.0.0.1") = lit "10.0.0.1" := by decide
  have denied : Denied oneAddress (.obj [(lit "addr", .str (lit "10.0.0.1"))]) := by
    refine .inr ⟨lit "10.0.0.1", .inField List.mem_cons_self .here, .inr (.inr ?_)⟩
    simp [stripped, oneAddress]
  obtain ⟨fault, refused⟩ := same.mpr denied
  rw [passes] at refused
  cases refused

end Collab

end HermesMesh
