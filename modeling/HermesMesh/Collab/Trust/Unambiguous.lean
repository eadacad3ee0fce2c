import HermesMesh.Collab.Trust.Verification

/-!
# One reading of a signed text

The fields of a message are joined with `|` and none of them is escaped.  Node names and
operations have no `|`, the canonical text of an object ends where its scanner says, and
a timestamp with a `|` has a time of day after it, which is no fresh timestamp.  So two
accepted messages with the same signed text have the same fields.
-/

namespace HermesMesh.Collab

open Python Foundation Foundation.Action

variable {py : Platform}

def bar : CodePoint := 0x7c

/-- What `signing_material` makes of the fields of a message. -/
def signedText (py : Platform) (message : JsonObject) : Option ByteArray :=
  match message.get? (lit "node_id"), message.get? (lit "op"), message.getObject? (lit "payload"),
    message.get? (lit "nonce") with
  | some (.str nodeId), some (.str op), some payload, some (.str nonce) =>
      signingMaterial py nodeId op payload nonce (message.getD (lit "ts") .null)
  | _, _, _, _ => none

/-- An identifier of the server: letters, digits, hyphens and underscores. -/
def IsNodeId (nodeId : PyStr) : Prop :=
  nodeId ≠ [] ∧ ∀ c ∈ nodeId, asciiAlnum c = true ∨ c = hyphen ∨ c = underscore

/-- What is assumed of the timestamps that Python's parsers accept: a text has at most one
`|`, and no fresh timestamp is rendered as the text after it. -/
structure BarsSeparate (py : Platform) (manager : TrustManager) (now : Binary64) : Prop where
  once : ∀ text seconds, timestampOfText py text = some seconds → text.count bar ≤ 1
  rest : ∀ before after seconds, timestampOfText py (before ++ bar :: after) = some seconds →
    bar ∉ before → bar ∉ after →
      ∀ stamp ts, stamp.pyStr py.unicode = after → timestampSeconds py stamp = some ts →
        manager.isStale now ts = true

theorem bar_notMem_nodeId {nodeId : PyStr} (isId : IsNodeId nodeId) : bar ∉ nodeId := by
  intro member
  have notAlnum : asciiAlnum bar = false := by decide
  rcases isId.2 bar member with alnum | hyphen | underscore
  · rw [notAlnum] at alnum
    cases alnum
  · exact absurd hyphen (by decide)
  · exact absurd underscore (by decide)

theorem bar_notMem_op : ∀ op ∈ allowedOps, bar ∉ op := by decide

/-- Texts before the first `|` are determined by the whole text. -/
theorem before_bar_inj {left right leftRest rightRest : PyStr} (leftClean : bar ∉ left)
    (rightClean : bar ∉ right) (same : left ++ bar :: leftRest = right ++ bar :: rightRest) :
    left = right ∧ leftRest = rightRest := by
  induction left generalizing right with
  | nil =>
      cases right with
      | nil => exact ⟨rfl, (List.cons.inj same).2⟩
      | cons c right => exact absurd (List.cons.inj same).1 (fun isBar => rightClean (isBar ▸ List.mem_cons_self))
  | cons c left ih =>
      cases right with
      | nil => exact absurd (List.cons.inj same).1.symm (fun isBar => leftClean (isBar ▸ List.mem_cons_self))
      | cons d right =>
          rw [List.cons_append, List.cons_append, List.cons.injEq] at same
          obtain ⟨tails, rests⟩ := ih (fun member => leftClean (List.mem_cons_of_mem _ member))
            (fun member => rightClean (List.mem_cons_of_mem _ member)) same.2
          exact ⟨by rw [same.1, tails], rests⟩

/-- A timestamp with a `|` is a text. -/
theorem isText_of_bar {stamp : Json} {seconds : PyFloat}
    (isTime : timestampSeconds py stamp = some seconds) (member : bar ∈ stamp.pyStr py.unicode) :
    ∃ text, stamp = .str text := by
  cases stamp with
  | str text => exact ⟨text, rfl⟩
  | int value =>
      have bounds := NumberLit.render_bounds (JsonScanner.wellFormed_ofInt value) bar member
      exact absurd bounds.2 (by decide)
  | float value =>
      have bounds := reprFloat_bounds value bar member
      exact absurd bounds.2 (by decide)
  | null | bool _ | arr _ | obj _ => cases isTime

namespace TrustManager

/-- The nonce and the timestamp of a fresh message are split in one way: a longer
timestamp would have a fresh one after its `|`. -/
theorem nonce_split {manager : TrustManager} {now : Binary64} (separate : BarsSeparate py manager now)
    {leftNonce rightNonce : PyStr} {leftStamp rightStamp : Json} {leftTs rightTs : PyFloat}
    (leftTime : timestampSeconds py leftStamp = some leftTs)
    (rightTime : timestampSeconds py rightStamp = some rightTs)
    (rightFresh : manager.isStale now rightTs = false) {between : PyStr}
    (longer : bar :: leftStamp.pyStr py.unicode = between ++ bar :: rightStamp.pyStr py.unicode)
    (nonces : rightNonce = leftNonce ++ between) :
    leftNonce = rightNonce ∧ leftStamp.pyStr py.unicode = rightStamp.pyStr py.unicode := by
  cases between with
  | nil =>
      rw [List.append_nil] at nonces
      exact ⟨nonces.symm, (List.cons.inj longer).2⟩
  | cons c before =>
      exfalso
      have isLeft : leftStamp.pyStr py.unicode = before ++ bar :: rightStamp.pyStr py.unicode :=
        (List.cons.inj longer).2
      obtain ⟨text, rfl⟩ := isText_of_bar leftTime (by rw [isLeft]; simp)
      rw [Json.pyStr_str] at isLeft
      have parsed : timestampOfText py text = some leftTs := leftTime
      have once := separate.once text leftTs parsed
      rw [isLeft, List.count_append, List.count_cons_self] at once
      have beforeClean : bar ∉ before := List.count_eq_zero.mp (by omega)
      have afterClean : bar ∉ rightStamp.pyStr py.unicode := List.count_eq_zero.mp (by omega)
      rw [isLeft] at parsed
      have stale := separate.rest before _ leftTs parsed beforeClean afterClean rightStamp rightTs rfl
        rightTime
      rw [rightFresh] at stale
      cases stale

/-- The parts of two signed texts that are equal. -/
theorem parts_of_material {manager : TrustManager} {now : Binary64}
    (separate : BarsSeparate py manager now) {leftNode rightNode leftOp rightOp : PyStr}
    {leftPayload rightPayload : JsonObject} {leftNonce rightNonce : PyStr}
    {leftStamp rightStamp : Json} {leftTs rightTs : PyFloat} {material : ByteArray}
    (leftId : IsNodeId leftNode) (rightId : IsNodeId rightNode) (leftAllowed : leftOp ∈ allowedOps)
    (rightAllowed : rightOp ∈ allowedOps)
    (leftTime : timestampSeconds py leftStamp = some leftTs)
    (rightTime : timestampSeconds py rightStamp = some rightTs)
    (leftFresh : manager.isStale now leftTs = false) (rightFresh : manager.isStale now rightTs = false)
    (leftText : signingMaterial py leftNode leftOp leftPayload leftNonce leftStamp = some material)
    (rightText : signingMaterial py rightNode rightOp rightPayload rightNonce rightStamp =
      some material) :
    leftNode = rightNode ∧ leftOp = rightOp ∧
      leftPayload.toJson.ordered .canonical = rightPayload.toJson.ordered .canonical ∧
        leftNonce = rightNonce ∧ leftStamp.pyStr py.unicode = rightStamp.pyStr py.unicode := by
  have texts := encodeUtf8_injective (signingMaterial_eq_some.mp leftText).2
    (signingMaterial_eq_some.mp rightText).2
  have isBar : lit "|" = [bar] := rfl
  simp only [joinWith, isBar, List.append_assoc, List.singleton_append] at texts
  obtain ⟨sameNode, texts⟩ := before_bar_inj (bar_notMem_nodeId leftId) (bar_notMem_nodeId rightId) texts
  obtain ⟨sameOp, texts⟩ :=
    before_bar_inj (bar_notMem_op _ leftAllowed) (bar_notMem_op _ rightAllowed) texts
  have stop : ∀ rest, JsonScanner.NumberEnd (bar :: rest) :=
    JsonScanner.numberEnd_cons (by decide)
  obtain ⟨samePayload, texts⟩ := Json.dumps_append_inj JsonScanner.spaced_canonical rfl
    leftPayload.distinct rightPayload.distinct (stop _) (stop _) texts
  refine ⟨sameNode, sameOp, samePayload, ?_⟩
  rcases List.append_eq_append_iff.mp (List.cons.inj texts).2 with
    ⟨between, nonces, longer⟩ | ⟨between, nonces, longer⟩
  · exact nonce_split separate leftTime rightTime rightFresh longer nonces
  · obtain ⟨sameNonce, sameStamp⟩ := nonce_split separate rightTime leftTime leftFresh longer nonces
    exact ⟨sameNonce.symm, sameStamp.symm⟩

theorem isStale_congr {left right : TrustManager} (sameWindow : right.replayWindow = left.replayWindow)
    (now : Binary64) (ts : PyFloat) : right.isStale now ts = left.isStale now ts := by
  rw [isStale, isStale, sameWindow]

/-- An accepted message has passed the checks, and `signing_material` has made its text. -/
theorem checked_of_accepted {manager : TrustManager} {nodeId : PyStr} {now later : Binary64}
    {message : JsonObject} (isId : IsNodeId nodeId)
    (accepted : Accepts ((verify py (some nodeId) now later (some message)).run manager).1) :
    ∃ op payload nonce sig ts material,
      Checked py manager (some nodeId) now message nodeId op payload nonce sig ts material ∧
        signedText py message = some material := by
  obtain ⟨sender, nonce, ts, genuine, -⟩ := accepts_verify_iff.mp accepted
  obtain ⟨op, payload, sig, material, checked, -⟩ := checked_of_genuine genuine
  have isSender : sender = nodeId := (checked.node.2.2 nodeId rfl).resolve_left isId.1
  subst isSender
  refine ⟨op, payload, nonce, sig, ts, material, checked, ?_⟩
  rw [signedText, checked.node.1, checked.isOp, checked.isPayload, checked.isNonce]
  exact checked.encoded

/-- Two messages that are accepted at one reading of the clock, from identifiers of the
server, and have the same signed text have the same node, operation, payload, nonce and
rendered timestamp. -/
theorem fields_of_signedText {left right : TrustManager}
    (sameWindow : right.replayWindow = left.replayWindow) {now : Binary64}
    (separate : BarsSeparate py left now) {leftId rightId : PyStr} (leftIsId : IsNodeId leftId)
    (rightIsId : IsNodeId rightId) {leftLater rightLater : Binary64}
    {leftMessage rightMessage : JsonObject}
    (leftAccepted : Accepts ((verify py (some leftId) now leftLater (some leftMessage)).run left).1)
    (rightAccepted :
      Accepts ((verify py (some rightId) now rightLater (some rightMessage)).run right).1)
    (same : signedText py leftMessage = signedText py rightMessage) :
    leftMessage.get? (lit "node_id") = rightMessage.get? (lit "node_id") ∧
      leftMessage.get? (lit "op") = rightMessage.get? (lit "op") ∧
      (∃ leftPayload rightPayload, leftMessage.getObject? (lit "payload") = some leftPayload ∧
        rightMessage.getObject? (lit "payload") = some rightPayload ∧
        leftPayload.toJson.ordered .canonical = rightPayload.toJson.ordered .canonical) ∧
      leftMessage.get? (lit "nonce") = rightMessage.get? (lit "nonce") ∧
      (leftMessage.getD (lit "ts") .null).pyStr py.unicode =
        (rightMessage.getD (lit "ts") .null).pyStr py.unicode := by
  obtain ⟨leftOp, leftPayload, leftNonce, leftSig, leftTs, material, isLeft, leftText⟩ :=
    checked_of_accepted leftIsId leftAccepted
  obtain ⟨rightOp, rightPayload, rightNonce, rightSig, rightTs, other, isRight, rightText⟩ :=
    checked_of_accepted rightIsId rightAccepted
  rw [leftText, rightText] at same
  cases same
  have rightFresh : left.isStale now rightTs = false := by
    rw [← isStale_congr sameWindow]
    exact isRight.fresh
  obtain ⟨sameNode, sameOp, samePayload, sameNonce, sameStamp⟩ :=
    parts_of_material separate leftIsId rightIsId isLeft.allowed isRight.allowed isLeft.isTime
      isRight.isTime isLeft.fresh rightFresh isLeft.encoded isRight.encoded
  refine ⟨?_, ?_, ⟨leftPayload, rightPayload, isLeft.isPayload, isRight.isPayload, samePayload⟩, ?_,
    sameStamp⟩
  · rw [isLeft.node.1, isRight.node.1, sameNode]
  · rw [isLeft.isOp, isRight.isOp, sameOp]
  · rw [isLeft.isNonce, isRight.isNonce, sameNonce]

/-- The fields that `verify` reads. -/
def readFields : List PyStr :=
  [lit "node_id", lit "op", lit "payload", lit "nonce", lit "sig", lit "ts"]

/-- Another field changes nothing of what is checked and signed. -/
theorem checked_setText {manager : TrustManager} {expected : Option PyStr} {now : Binary64}
    {message : JsonObject} {nodeId op nonce sig : PyStr} {payload : JsonObject} {ts : PyFloat}
    {material : ByteArray} {key text : PyStr} (other : key ∉ readFields)
    (checked : Checked py manager expected now message nodeId op payload nonce sig ts material) :
    Checked py manager expected now (message.setText key text) nodeId op payload nonce sig ts
        material ∧
      signedText py (message.setText key text) = signedText py message := by
  have kept : ∀ field ∈ readFields, (message.setText key text).get? field = message.get? field := by
    intro field isRead
    rw [JsonObject.get?_setText, if_neg]
    rintro rfl
    exact other isRead
  have isNode := (kept (lit "node_id") (by simp [readFields])).trans checked.node.1
  have isOp := (kept (lit "op") (by simp [readFields])).trans checked.isOp
  have isNonce := (kept (lit "nonce") (by simp [readFields])).trans checked.isNonce
  have isSig := (kept (lit "sig") (by simp [readFields])).trans checked.isSig
  have isPayload : (message.setText key text).getObject? (lit "payload") = some payload :=
    JsonObject.getObject?_eq_some.mpr ((kept _ (by simp [readFields])).trans
      (JsonObject.getObject?_eq_some.mp checked.isPayload))
  have stamp : (message.setText key text).getD (lit "ts") .null = message.getD (lit "ts") .null := by
    rw [JsonObject.getD, JsonObject.getD, kept _ (by simp [readFields])]
  constructor
  · exact ⟨⟨isNode, checked.node.2⟩, isOp, checked.allowed, isPayload, isNonce, checked.nonempty,
      isSig, stamp ▸ checked.isTime, checked.fresh, checked.policy, stamp ▸ checked.encoded⟩
  · rw [signedText, signedText, isNode, isOp, isPayload, isNonce, stamp, checked.node.1,
      checked.isOp, checked.isPayload, checked.isNonce]

/-- A message with another field is accepted like the one without it. -/
theorem accepts_setText {manager : TrustManager} {expected : Option PyStr} {now later : Binary64}
    {message : JsonObject} {key text : PyStr} (other : key ∉ readFields)
    (accepted : Accepts ((verify py expected now later (some message)).run manager).1) :
    Accepts ((verify py expected now later (some (message.setText key text))).run manager).1 ∧
      signedText py (message.setText key text) = signedText py message := by
  obtain ⟨sender, nonce, ts, genuine, unseen⟩ := accepts_verify_iff.mp accepted
  obtain ⟨op, payload, sig, material, checked, -⟩ := checked_of_genuine genuine
  obtain ⟨noted, sameText⟩ := @checked_setText py _ _ _ _ _ _ _ _ _ _ _ key text other checked
  rw [examine_of_checked checked, ← examine_of_checked noted] at genuine
  exact ⟨accepts_verify_iff.mpr ⟨sender, nonce, ts, genuine, unseen⟩, sameText⟩

/-- A greeting and the greeting with a field of its own behind it. -/
theorem fields_of_signedText_hello :
    ∃ envelope, halfMinute.sign .plain (lit "a") (lit "message") hello none
        (some (.ofFloat (.finite zeroTime))) (lit "n") zeroTime = .ok envelope ∧
      let noted := envelope.object.setText (lit "note") (lit "x")
      envelope.object.get? (lit "node_id") = noted.get? (lit "node_id") ∧
        envelope.object.get? (lit "op") = noted.get? (lit "op") ∧
        (∃ leftPayload rightPayload, envelope.object.getObject? (lit "payload") = some leftPayload ∧
          noted.getObject? (lit "payload") = some rightPayload ∧
          leftPayload.toJson.ordered .canonical = rightPayload.toJson.ordered .canonical) ∧
        envelope.object.get? (lit "nonce") = noted.get? (lit "nonce") ∧
        (envelope.object.getD (lit "ts") .null).pyStr Platform.plain.unicode =
          (noted.getD (lit "ts") .null).pyStr Platform.plain.unicode := by
  obtain ⟨envelope, signed, isNonce, isTs⟩ :=
    sign_hello_at (some (.ofFloat (.finite zeroTime))) zeroTime rfl
  have fresh := @isStale_self halfMinute (by decide) zeroTime
  have accepted := @accepts_hello _ _ _ (some (lit "a")) signed isNonce isTs fresh (by simp)
  obtain ⟨alsoAccepted, sameText⟩ :=
    @accepts_setText .plain _ _ _ _ _ (lit "note") (lit "x") (by decide) accepted
  have separate : BarsSeparate .plain halfMinute zeroTime := by
    constructor
    · intro text seconds impossible
      cases impossible
    · intro before after seconds impossible
      cases impossible
  have isId : IsNodeId (lit "a") := by
    refine ⟨by decide, fun c member => .inl ?_⟩
    have isA : c = 97 := List.mem_singleton.mp member
    rw [isA]
    decide
  exact ⟨envelope, signed,
    fields_of_signedText rfl separate isId isId accepted alsoAccepted sameText.symm⟩

end TrustManager

end HermesMesh.Collab
