import HermesMesh.Collab.Trust.Replay
import HermesMesh.Collab.Trust.Unambiguous

/-!
# Accepted messages were signed, and are accepted once

Who has the mesh key signs messages.  Everybody else sends what they like, with any
signature that they have seen, but cannot make the signature of a text that nobody has
signed.  Then what `verify` accepts agrees with a message that was signed before, field by
field, and no signed message is accepted twice.
-/

namespace HermesMesh.Collab

open Python Foundation Foundation.Action

variable {py : Platform}

/-! ## The timestamp of a signed message -/

/-- The numbers and texts that are written like a finite float. -/
theorem stamp_of_reprFloat {stamp : Json} {seconds : PyFloat} {now : Binary64}
    (isTime : timestampSeconds py stamp = some seconds)
    (same : stamp.pyStr py.unicode = reprFloat (.finite now)) :
    stamp = .float (.finite now) ∨ stamp = .str (reprFloat (.finite now)) := by
  have own := @Json.loads_default (.float (.finite now)) trivial trivial
  cases stamp with
  | str text =>
      right
      exact congrArg Json.str same
  | int value =>
      have read := @Json.loads_default (.int value) trivial trivial
      have texts : Json.dumps .default (.int value) = Json.dumps .default (.float (.finite now)) := same
      rw [texts, own] at read
      cases read
  | float value =>
      cases value with
      | finite other =>
          left
          have read := @Json.loads_default (.float (.finite other)) trivial trivial
          have texts : Json.dumps .default (.float (.finite other)) =
              Json.dumps .default (.float (.finite now)) := same
          rw [texts, own] at read
          exact (Option.some.inj read).symm
      | inf neg =>
          have letter : (105 : CodePoint) ∈ reprFloat (.inf neg) := by
            cases neg with
            | false => decide
            | true => decide
          have texts : reprFloat (.inf neg) = now.reprLit.render := same
          have small := (NumberLit.render_bounds now.prints_reprLit.1 105 (texts ▸ letter)).2
          exact absurd small (by decide)
      | nan =>
          have letter : (110 : CodePoint) ∈ reprFloat .nan := by decide
          have texts : reprFloat .nan = now.reprLit.render := same
          have small := (NumberLit.render_bounds now.prints_reprLit.1 110 (texts ▸ letter)).2
          exact absurd small (by decide)
  | null | bool _ | arr _ | obj _ => cases isTime

/-- As a timestamp, the text of this reading of the clock is no other point in time. -/
def ReadsBack (py : Platform) (now : Binary64) : Prop :=
  ∀ seconds, timestampOfText py (reprFloat (.finite now)) = some seconds → seconds = .finite now

theorem seconds_of_reprFloat {stamp : Json} {seconds : PyFloat} {now : Binary64}
    (reads : ReadsBack py now) (isTime : timestampSeconds py stamp = some seconds)
    (same : stamp.pyStr py.unicode = reprFloat (.finite now)) : seconds = .finite now := by
  rcases stamp_of_reprFloat isTime same with rfl | rfl
  · exact (Option.some.inj isTime).symm
  · exact reads seconds isTime

/-- Where one side has a single `|`, it is the same on the other. -/
theorem single_bar_inj {left right leftRest rightRest : PyStr} (rightClean : bar ∉ right)
    (restClean : bar ∉ rightRest) (same : left ++ bar :: leftRest = right ++ bar :: rightRest) :
    left = right ∧ leftRest = rightRest := by
  have once : (left ++ bar :: leftRest).count bar = 1 := by
    rw [same, List.count_append, List.count_cons_self, List.count_eq_zero.mpr rightClean,
      List.count_eq_zero.mpr restClean]
  rw [List.count_append, List.count_cons_self] at once
  have leftClean : bar ∉ left := List.count_eq_zero.mp (by omega)
  exact before_bar_inj leftClean rightClean same

theorem bar_notMem_reprFloat (value : PyFloat) : bar ∉ reprFloat value := by
  intro member
  have bounds := reprFloat_bounds value bar member
  exact absurd bounds.2 (by decide)

/-- The text that the envelope's signature is made of. -/
def Envelope.material (py : Platform) (envelope : Envelope) : Option ByteArray :=
  signingMaterial py envelope.nodeId envelope.op envelope.payload envelope.nonce envelope.ts.val

namespace TrustManager

/-! ## Agreement -/

/-- The fields of the message are those of the envelope: the payload up to the order of its
fields, the timestamp as a point in time. -/
structure Agrees (py : Platform) (message : JsonObject) (envelope : Envelope) : Prop where
  node : message.get? (lit "node_id") = some (.str envelope.nodeId)
  op : message.get? (lit "op") = some (.str envelope.op)
  payload : ∃ payload, message.getObject? (lit "payload") = some payload ∧
    payload.toJson.ordered .canonical = envelope.payload.toJson.ordered .canonical
  nonce : message.get? (lit "nonce") = some (.str envelope.nonce)
  time : timestampSeconds py (message.getD (lit "ts") .null) = timestampSeconds py envelope.ts.val

abbrev WatchEvent := Event Watch WatchStep WatchReply

/-- The step signs the envelope. -/
def Signs (envelope : Envelope) (event : WatchEvent) : Prop := event.output = .signed (.ok envelope)

/-- The step accepts the message as one from the node `peer`. -/
def AcceptsFrom (peer : PyStr) (message : JsonObject) (event : WatchEvent) : Prop :=
  ∃ now later result, event.input = .verify (some peer) now later (some message) ∧
    event.output = .verified result ∧ Accepts result

/-- A signature that fits the text of a message has been made for that text before. -/
def Unforged (py : Platform) (past : List WatchEvent) (event : WatchEvent) : Prop :=
  ∀ expected now later message sig material,
    event.input = .verify expected now later (some message) →
    signedText py message = some material → message.get? (lit "sig") = some (.str sig) →
    (py.hmacSha256 event.before.manager.meshKey material).text = sig →
      ∃ earlier ∈ past, ∃ envelope, Signs envelope earlier ∧ envelope.material py = some material

/-- What is signed is signed as a node without a `|` in its name, with a nonce without one. -/
def Tidy (py : Platform) : WatchStep → Prop
  | .sign nodeId _ _ drawn now => bar ∉ nodeId ∧ bar ∉ drawn ∧ ReadsBack py now
  | .verify .. | .restart => True

section Agreement

variable {manager : TrustManager}

/-- A message that passes the checks and has the text of a signed envelope agrees with it. -/
theorem agrees_of_material {expected : Option PyStr} {now : Binary64} {message : JsonObject}
    {peer op nonce sig : PyStr} {payload : JsonObject} {ts : PyFloat} {material : ByteArray}
    (isId : IsNodeId peer)
    (checked : Checked py manager expected now message peer op payload nonce sig ts material)
    {signer : TrustManager} {nodeId signedOp drawn : PyStr} {signedPayload : JsonObject}
    {signedAt : Binary64} {envelope : Envelope}
    (signed : signer.sign py nodeId signedOp signedPayload none none drawn signedAt = .ok envelope)
    (named : bar ∉ nodeId) (isDrawn : bar ∉ drawn) (reads : ReadsBack py signedAt)
    (same : envelope.material py = some material) : Agrees py message envelope := by
  obtain ⟨allowed, -, other, -, rfl⟩ := sign_eq_ok.mp signed
  have ours := (signingMaterial_eq_some.mp checked.encoded).2
  have theirs := (signingMaterial_eq_some.mp same).2
  have texts := encodeUtf8_injective ours theirs
  have isBar : lit "|" = [bar] := rfl
  simp only [joinWith, isBar, List.append_assoc, List.singleton_append] at texts
  obtain ⟨sameNode, texts⟩ := before_bar_inj (bar_notMem_nodeId isId) named texts
  obtain ⟨sameOp, texts⟩ :=
    before_bar_inj (bar_notMem_op _ checked.allowed) (bar_notMem_op _ allowed) texts
  have stop : ∀ rest, JsonScanner.NumberEnd (bar :: rest) :=
    JsonScanner.numberEnd_cons (by decide)
  obtain ⟨samePayload, texts⟩ := Json.dumps_append_inj JsonScanner.spaced_canonical rfl
    payload.distinct signedPayload.distinct (stop _) (stop _) texts
  obtain ⟨sameNonce, sameStamp⟩ :=
    single_bar_inj isDrawn (bar_notMem_reprFloat (.finite signedAt)) (List.cons.inj texts).2
  have sameTime := seconds_of_reprFloat reads checked.isTime sameStamp
  constructor
  case node => rw [checked.node.1, sameNode]
  case op => rw [checked.isOp, sameOp]
  case payload => exact ⟨payload, checked.isPayload, samePayload⟩
  case nonce => rw [checked.isNonce, sameNonce]; rfl
  case time => rw [checked.isTime, sameTime]; rfl

end Agreement

/-! ## Runs -/

section Runs

variable {start : Watch} {inputs : List WatchStep}

theorem sign_of_signs {event : WatchEvent} (member : event ∈ (watchMachine py).trace start inputs)
    {envelope : Envelope} (signs : Signs envelope event) :
    ∃ nodeId op payload drawn now, event.input = .sign nodeId op payload drawn now ∧
      event.before.manager.sign py nodeId op payload none none drawn now = .ok envelope := by
  have stepped := Machine.step_of_mem_trace member
  obtain ⟨before, input, output, after⟩ := event
  cases signs
  cases input with
  | sign nodeId op payload drawn now =>
      exact ⟨nodeId, op, payload, drawn, now, rfl, WatchReply.signed.inj (congrArg Prod.fst stepped)⟩
  | verify expected now later message => cases congrArg Prod.fst stepped
  | restart => cases congrArg Prod.fst stepped

theorem mem_inputs {event : WatchEvent} (member : event ∈ (watchMachine py).trace start inputs) :
    event.input ∈ inputs := by
  rw [← (watchMachine py).inputs_trace start inputs]
  exact List.mem_map_of_mem member

/-- Two steps that accept what agrees with a signed envelope accept its nonce and its time. -/
theorem acceptsStamped_of_agrees {signing : WatchEvent} {envelope : Envelope}
    (member : signing ∈ (watchMachine py).trace start inputs) (signs : Signs envelope signing) :
    ∃ ts, ∀ event peer message, AcceptsFrom peer message event → Agrees py message envelope →
      AcceptsStamped py envelope.nonce ts event := by
  obtain ⟨nodeId, op, payload, drawn, signedAt, -, signed⟩ := sign_of_signs member signs
  obtain ⟨-, -, material, -, rfl⟩ := sign_eq_ok.mp signed
  refine ⟨signedAt, ?_⟩
  intro event peer message accepts agrees
  obtain ⟨now, later, result, isInput, isOutput, accepted⟩ := accepts
  exact ⟨some peer, now, later, message, result, isInput, isOutput, accepted, agrees.nonce, agrees.time⟩

/-- What is accepted has been signed, if the signature has not been forged. -/
theorem exists_signed {past future : List WatchEvent} {event : WatchEvent}
    (split : (watchMachine py).trace start inputs = past ++ event :: future)
    (tidy : ∀ input ∈ inputs, Tidy py input) (unforged : Unforged py past event)
    {peer : PyStr} {message : JsonObject} (isId : IsNodeId peer)
    (accepts : AcceptsFrom peer message event) :
    ∃ earlier ∈ past, ∃ envelope, Signs envelope earlier ∧ Agrees py message envelope := by
  have inTrace : event ∈ (watchMachine py).trace start inputs := by
    rw [split]
    simp
  obtain ⟨now, later, result, isInput, isOutput, accepted⟩ := accepts
  have stepped := Machine.step_of_mem_trace inTrace
  rw [isInput, isOutput] at stepped
  have isResult : ((verify py (some peer) now later (some message)).run event.before.manager).1 =
      result := WatchReply.verified.inj (congrArg Prod.fst stepped)
  rw [← isResult] at accepted
  obtain ⟨sender, nonce, ts, genuine, -⟩ := accepts_verify_iff.mp accepted
  obtain ⟨op, payload, sig, material, checked, fits⟩ := checked_of_genuine genuine
  have isSender : sender = peer := (checked.node.2.2 peer rfl).resolve_left isId.1
  subst isSender
  have isText : signedText py message = some material := by
    rw [signedText, checked.node.1, checked.isOp, checked.isPayload, checked.isNonce]
    exact checked.encoded
  obtain ⟨earlier, isPast, envelope, signs, same⟩ :=
    unforged _ _ _ _ _ _ isInput isText checked.isSig fits
  have member : earlier ∈ (watchMachine py).trace start inputs := by
    rw [split]
    exact List.mem_append_left _ isPast
  obtain ⟨nodeId, signedOp, signedPayload, drawn, signedAt, isSign, signed⟩ :=
    sign_of_signs member signs
  have clean := tidy _ (mem_inputs member)
  rw [isSign] at clean
  obtain ⟨named, isDrawn, reads⟩ := clean
  exact ⟨earlier, isPast, envelope, signs,
    agrees_of_material isId checked signed named isDrawn reads same⟩

end Runs

/-- If no signature is forged, each accepted message agrees with one that was signed before,
and no two steps of a run accept messages that agree with the same one. -/
theorem injective_agreement {start : Watch} {inputs : List WatchStep}
    (window : 0 ≤ start.manager.replayWindow) (distinct : start.manager.Distinct)
    (onward : (watchMachine py).Allowed ClockOnward start inputs)
    (room : (watchMachine py).Allowed (HasRoom py) start inputs)
    (tidy : ∀ input ∈ inputs, Tidy py input)
    (unforged : ∀ past event future,
      (watchMachine py).trace start inputs = past ++ event :: future → Unforged py past event) :
    (∀ past event future, (watchMachine py).trace start inputs = past ++ event :: future →
      ∀ peer message, IsNodeId peer → AcceptsFrom peer message event →
        ∃ earlier ∈ past, ∃ envelope, Signs envelope earlier ∧ Agrees py message envelope) ∧
    ((watchMachine py).trace start inputs).Pairwise fun first second =>
      ∀ signing ∈ (watchMachine py).trace start inputs, ∀ envelope, Signs envelope signing →
        ∀ peer message other again, AcceptsFrom peer message first → Agrees py message envelope →
          AcceptsFrom other again second → ¬Agrees py again envelope := by
  constructor
  · intro past event future split peer message isId accepts
    exact exists_signed split tidy (unforged past event future split) isId accepts
  · apply Machine.pairwise_of_splits
    intro past first future split second later signing member envelope signs peer message other again
      accepts agrees acceptsAgain agreesAgain
    obtain ⟨ts, stamped⟩ := acceptsStamped_of_agrees member signs
    exact not_accepts_after ⟨window, distinct⟩ (Machine.allowed_and _ onward room) split
      (stamped first peer message accepts agrees) second later
      (stamped second other again acceptsAgain agreesAgain)

/-! ## A greeting -/

/-- A node signs a greeting, and another verifies it. -/
def greeted (message : JsonObject) : List WatchStep :=
  [.sign (lit "a") (lit "message") hello (lit "n") zeroTime,
    .verify (some (lit "a")) zeroTime zeroTime (some message)]

theorem signedText_object (envelope : Envelope) :
    signedText py envelope.object = envelope.material py := by
  rw [signedText, Envelope.get?_nodeId, Envelope.get?_op, Envelope.getObject?_payload,
    Envelope.get?_nonce, JsonObject.getD, Envelope.get?_ts, Option.getD_some]
  rfl

theorem tidy_greeted (message : JsonObject) : ∀ input ∈ greeted message, Tidy .plain input := by
  intro input member
  rcases List.mem_pair.mp member with rfl | rfl
  · refine ⟨by decide, by decide, fun seconds impossible => ?_⟩
    cases impossible
  · trivial

theorem isNodeId_a : IsNodeId (lit "a") := by
  refine ⟨by decide, fun c member => .inl ?_⟩
  have isA : c = 97 := List.mem_singleton.mp member
  rw [isA]
  decide

/-- The greeting that is accepted has been signed. -/
theorem injective_agreement_hello :
    ∃ envelope first second,
      (watchMachine .plain).trace ⟨halfMinute, zeroTime⟩ (greeted envelope.object) = [first, second] ∧
        Signs envelope first ∧ AcceptsFrom (lit "a") envelope.object second ∧
        ∃ earlier ∈ [first], ∃ other, Signs other earlier ∧ Agrees .plain envelope.object other := by
  obtain ⟨envelope, signed, -, isGenuine⟩ := exists_genuine_hello
  have accepted : Accepts
      ((verify .plain (some (lit "a")) zeroTime zeroTime (some envelope.object)).run halfMinute).1 :=
    accepts_verify_iff.mpr ⟨_, _, _, isGenuine (some (lit "a")) (by simp), rfl⟩
  have traced : ∃ first second,
      (watchMachine .plain).trace ⟨halfMinute, zeroTime⟩ (greeted envelope.object) =
        [first, second] ∧ Signs envelope first ∧ AcceptsFrom (lit "a") envelope.object second ∧
        (∀ expected now later message, first.input ≠ .verify expected now later message) ∧
        second.input = .verify (some (lit "a")) zeroTime zeroTime (some envelope.object) := by
    refine ⟨_, _, rfl, congrArg WatchReply.signed signed, ⟨_, _, _, rfl, rfl, accepted⟩, ?_, rfl⟩
    intro expected now later message impossible
    cases impossible
  obtain ⟨first, second, isTrace, signs, accepts, isSign, isVerify⟩ := traced
  have unforged : ∀ past event future,
      (watchMachine .plain).trace ⟨halfMinute, zeroTime⟩ (greeted envelope.object) =
        past ++ event :: future → Unforged .plain past event := by
    intro past event future split expected now later message sig material isInput isText
    rw [isTrace] at split
    cases past with
    | nil =>
        cases split
        exact absurd isInput (isSign _ _ _ _)
    | cons head rest =>
        cases rest with
        | cons other rest => simp at split
        | nil =>
            cases split
            rw [isVerify] at isInput
            cases isInput
            intro _ _
            exact ⟨first, List.mem_singleton_self _, envelope, signs, signedText_object _ ▸ isText⟩
  have distinct : halfMinute.Distinct := ⟨List.nodup_nil, List.nodup_nil⟩
  have agreement := @injective_agreement .plain ⟨halfMinute, zeroTime⟩ (greeted envelope.object)
    (by decide) distinct ⟨trivial, ⟨le_rfl, le_rfl⟩, trivial⟩
    ⟨trivial, hasRoom_of_length (by decide) _, trivial⟩ (tidy_greeted _) unforged
  exact ⟨envelope, first, second, isTrace, signs, accepts,
    agreement.1 [first] second [] isTrace _ _ isNodeId_a accepts⟩

end TrustManager

end HermesMesh.Collab
