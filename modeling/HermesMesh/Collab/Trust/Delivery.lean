import HermesMesh.Collab.Trust.Signing

/-!
# Signed messages that arrive

A signed message sent as JSON is accepted by a manager with the same key while its
timestamp is within the window, a whole timestamp as the float it is rounded to.  `RelayClient.forward` signs a message once, with the
time of the signing, and `drain_loop` posts that same message however long it has
waited.
-/

namespace HermesMesh.Collab

open Python Foundation Foundation.Action

variable {py : Platform}

/-- What `forward` queues for its partners: nothing unless it is ready, has partners and
knows the operation, else the message that it signs as the local node. -/
def forwardEnvelope (py : Platform) (ready : Bool) (partners : List PyStr) (trust : TrustManager)
    (localNodeId op : PyStr) (payload : JsonObject) (drawn : PyStr) (now : Binary64) :
    Option (Except Fault Envelope) :=
  if ready = false ∨ partners = [] ∨ allowedOps.contains op = false then none
  else some (trust.sign py localNodeId op payload none none drawn now)

namespace TrustManager

theorem sign_of_forward {ready : Bool} {partners : List PyStr} {trust : TrustManager}
    {nodeId op : PyStr} {payload : JsonObject} {drawn : PyStr} {now : Binary64} {envelope : Envelope}
    (queued : forwardEnvelope py ready partners trust nodeId op payload drawn now =
      some (.ok envelope)) :
    trust.sign py nodeId op payload none none drawn now = .ok envelope := by
  unfold forwardEnvelope at queued
  split at queued
  · cases queued
  · exact Option.some.inj queued

/-- A message of the time it is verified is fresh. -/
theorem isStale_self {manager : TrustManager} (window : 0 ≤ manager.replayWindow) (now : Binary64) :
    manager.isStale now (.finite now) = false := by
  obtain ⟨age, isAge, none⟩ := PyFloat.sub_self now
  rw [Bool.eq_false_iff, isStale, isAge]
  intro stale
  rw [PyFloat.abs_gtInt_finite, none, abs_zero] at stale
  exact absurd stale (Int.not_lt.mpr (Int.mul_nonneg window (Int.natCast_nonneg _)))

/-- A timestamp at an exact distance of no more than the window is fresh, where a float
holds the window. -/
theorem isStale_of_near {manager : TrustManager} (held : HeldByFloat manager.replayWindow)
    {now ts : Binary64} (near : |now.units - ts.units| ≤ manager.replayWindow * minScale) :
    manager.isStale now (.finite ts) = false := by
  obtain ⟨window, isWindow⟩ := held
  rw [isStale, PyFloat.gtInt, ← isWindow]
  exact PyFloat.not_above_abs_sub (near.trans_eq isWindow.symm)

theorem timestampSeconds_int {n : Int} {seconds : Binary64}
    (isFloat : PyFloat.ofInt n = .finite seconds) :
    timestampSeconds py (.int n) = some (.finite seconds) := by
  rw [timestampSeconds, floatOfInt, isFloat, raisedInf]
  exact fun _ impossible => PyFloat.noConfusion impossible

/-- The float of a whole timestamp has its value where a float holds it. -/
theorem timestampSeconds_of_held (py : Platform) {n : Int} (held : HeldByFloat n) :
    ∃ seconds : Binary64, timestampSeconds py (.int n) = some (.finite seconds) ∧
      seconds.units = n * minScale := by
  obtain ⟨seconds, isFloat, units⟩ := PyFloat.ofInt_of_held held
  exact ⟨seconds, timestampSeconds_int isFloat, units⟩

/-! ## A manager and its greeting -/

/-- A manager with a window of half a minute and no nonces. -/
def halfMinute : TrustManager := ⟨⟨Array.replicate 16 7⟩, by decide, 30, 10000, [], []⟩

/-- A message of the start of the clock is stale after half a minute. -/
theorem isStale_halfMinute {n : Nat} (bits : 32 ≤ n ∧ n < 64) :
    halfMinute.isStale (sixBits n bits) (.finite zeroTime) = true := by
  obtain ⟨age, isAge, units⟩ := PyFloat.sub_zeroTime (sixBits n bits)
  have scale := PyFloat.minScale_pos
  rw [isStale, isAge, PyFloat.abs_gtInt_finite, units, units_sixBits, halfMinute]
  refine lt_of_lt_of_le ?_ (le_abs_self _)
  have positive : (0 : Int) < minScale := Int.natCast_pos.mpr scale
  exact Int.mul_lt_mul_of_pos_right (by change (30 : Int) < n; omega) positive

/-- A greeting that can be signed. -/
def hello : JsonObject := JsonObject.empty.setText (lit "text") (lit "hi")

/-- The greeting is signed with any float as its timestamp. -/
theorem sign_hello_at (ts : Option JsonValue) (now : Binary64) {value : PyFloat}
    (isFloat : ts.getD (.ofFloat (.finite now)) = .ofFloat value) :
    ∃ envelope, halfMinute.sign .plain (lit "a") (lit "message") hello none ts (lit "n") now =
        .ok envelope ∧ envelope.nonce = lit "n" ∧ envelope.ts = .ofFloat value := by
  have strings : hello.toJson.AllStrings Encodable := ⟨encodable_lit _, encodable_lit _, trivial⟩
  have stamp : Encodable ((Json.float value).pyStr Platform.plain.unicode) := by
    rw [Json.pyStr, Json.repr]
    · exact encodable_of_plain (isPlain_reprFloat _)
    · exact fun _ impossible => Json.noConfusion impossible
  rw [← isFloat]
  exact exists_sign (by decide) rfl rfl (encodable_lit _) strings (encodable_lit _) (isFloat ▸ stamp)

/-- The greeting is signed with any whole number as its timestamp. -/
theorem sign_hello_whole (n : Int) (now : Binary64) :
    ∃ envelope, halfMinute.sign .plain (lit "a") (lit "message") hello none (some (.ofInt n)) (lit "n")
        now = .ok envelope ∧ envelope.nonce = lit "n" ∧ envelope.ts = .ofInt n := by
  have strings : hello.toJson.AllStrings Encodable := ⟨encodable_lit _, encodable_lit _, trivial⟩
  have stamp : Encodable ((Json.int n).pyStr Platform.plain.unicode) :=
    encodable_of_plain (NumberLit.isPlain_render (JsonScanner.wellFormed_ofInt n))
  exact exists_sign (by decide) rfl rfl (encodable_lit _) strings (encodable_lit _) stamp

theorem sign_hello (now : Binary64) :
    ∃ envelope, halfMinute.sign .plain (lit "a") (lit "message") hello none none (lit "n") now =
        .ok envelope ∧ envelope.nonce = lit "n" ∧ envelope.ts = .ofFloat (.finite now) :=
  sign_hello_at none now rfl

/-- What `sign` makes of a payload is accepted, after its way through JSON, by every manager
with the same key that does not expect another node, has not remembered the nonce and does
not find the timestamp outside its window. -/
theorem verify_of_fresh {sender receiver : TrustManager} (sameKey : receiver.meshKey = sender.meshKey)
    {nodeId op : PyStr} {payload : JsonObject} {nonce : Option PyStr} {ts : Option JsonValue}
    {drawn : PyStr} {signedAt : Binary64} {envelope : Envelope}
    (signed : sender.sign py nodeId op payload nonce ts drawn signedAt = .ok envelope)
    (named : nodeId ≠ []) (isDrawn : drawn ≠ []) {expected : Option PyStr}
    (addressed : ∀ other ∈ expected, other = nodeId) {seconds : PyFloat}
    (isTime : timestampSeconds py envelope.ts.val = some seconds) {now : Binary64}
    (fresh : receiver.isStale now seconds = false)
    (unseen : receiver.nonces.get? envelope.nonce = none) (later : Binary64) :
    ∃ message : JsonObject, loads (envelope.object.toJson.dumps .default) = some message.toJson ∧
      ((verify py expected now later (some message)).run receiver).1 =
        .ok ⟨true, "verified", some nodeId⟩ := by
  have genuine := examine_signed sameKey signed named isDrawn addressed isTime now
  rw [fresh, if_neg Bool.false_ne_true] at genuine
  refine ⟨envelope.object, loads_dumps_signed signed isTime, ?_⟩
  rw [verify_of_genuine genuine, if_pos unseen]

/-- What `sign` makes of a payload is accepted, after its way through JSON, by every manager
with the same key that does not expect another node and has not remembered the nonce, and
whose clock is no more than its window away from the float of the timestamp.  The distance
is the exact one: its rounding cannot pass a window that a float holds. -/
theorem verify_of_sign {sender receiver : TrustManager} (sameKey : receiver.meshKey = sender.meshKey)
    (held : HeldByFloat receiver.replayWindow)
    {nodeId op : PyStr} {payload : JsonObject} {nonce : Option PyStr} {ts : Option JsonValue}
    {drawn : PyStr} {signedAt : Binary64} {envelope : Envelope}
    (signed : sender.sign py nodeId op payload nonce ts drawn signedAt = .ok envelope)
    (named : nodeId ≠ []) (isDrawn : drawn ≠ []) {expected : Option PyStr}
    (addressed : ∀ other ∈ expected, other = nodeId) {seconds : Binary64}
    (isTime : timestampSeconds py envelope.ts.val = some (.finite seconds)) {now : Binary64}
    (near : |now.units - seconds.units| ≤ receiver.replayWindow * minScale)
    (unseen : receiver.nonces.get? envelope.nonce = none) (later : Binary64) :
    ∃ message : JsonObject, loads (envelope.object.toJson.dumps .default) = some message.toJson ∧
      ((verify py expected now later (some message)).run receiver).1 =
        .ok ⟨true, "verified", some nodeId⟩ :=
  verify_of_fresh sameKey signed named isDrawn addressed isTime (isStale_of_near held near) unseen later

/-- The greeting with a whole timestamp is accepted half a minute later. -/
theorem verify_of_sign_hello :
    ∃ envelope, halfMinute.sign .plain (lit "a") (lit "message") hello none (some (.ofInt 32)) (lit "n")
        zeroTime = .ok envelope ∧
      ∃ message : JsonObject, loads (envelope.object.toJson.dumps .default) = some message.toJson ∧
        ((verify .plain (some (lit "a")) (sixBits 62 (by decide)) (sixBits 62 (by decide))
          (some message)).run halfMinute).1 = .ok ⟨true, "verified", some (lit "a")⟩ := by
  obtain ⟨envelope, signed, isNonce, isTs⟩ := sign_hello_whole 32 zeroTime
  obtain ⟨seconds, isTime, units⟩ := timestampSeconds_of_held .plain (@heldByFloat_of_lt 32 (by norm_num))
  have isStamp : timestampSeconds .plain envelope.ts.val = some (.finite seconds) := by rwa [isTs]
  refine ⟨envelope, signed, verify_of_sign rfl (heldByFloat_of_lt (by norm_num [halfMinute])) signed
    (by decide) (by decide) (by simp) isStamp ?_ (isNonce ▸ rfl) _⟩
  have scale : (0 : Int) ≤ minScale := Int.natCast_nonneg _
  have window : halfMinute.replayWindow = 30 := rfl
  have apart : ((62 : Nat) : Int) - 32 = 30 := by norm_num
  rw [units, units_sixBits, ← Int.sub_mul, apart, window, abs_of_nonneg (Int.mul_nonneg (by decide) scale)]

/-! ## Rounded timestamps -/

/-- A whole timestamp that no float holds. -/
def farStamp : Int := 18014398509481986

theorem canonical_roundedStamp : Canonical (2 ^ 52) 1076 := by decide

/-- The float it is rounded to. -/
def roundedStamp : Binary64 := ⟨false, 2 ^ 52, 1076, canonical_roundedStamp⟩

/-- A clock half a minute later. -/
def farClock : Binary64 := ⟨false, 2 ^ 52 + 8, 1076, by decide, by decide, .inr (by decide)⟩

theorem ofInt_farStamp : PyFloat.ofInt farStamp = .finite roundedStamp := by decide +kernel

theorem units_farClock : farClock.units = (farStamp + 30) * minScale := by decide +kernel

theorem isStale_farClock : halfMinute.isStale farClock (.finite roundedStamp) = true := by
  decide +kernel

/-- The greeting is refused at a clock that differs from its timestamp by the window: the
float of the timestamp is smaller. -/
theorem far_greeting_refused :
    ∃ envelope, halfMinute.sign .plain (lit "a") (lit "message") hello none (some (.ofInt farStamp))
        (lit "n") zeroTime = .ok envelope ∧
      envelope.ts.val = .int farStamp ∧ halfMinute.nonces.get? envelope.nonce = none ∧
      |farClock.units - farStamp * minScale| ≤ halfMinute.replayWindow * minScale ∧
      loads (envelope.object.toJson.dumps .default) = some envelope.object.toJson ∧
      ¬Accepts ((verify .plain (some (lit "a")) farClock farClock (some envelope.object)).run
        halfMinute).1 := by
  obtain ⟨envelope, signed, isNonce, isTs⟩ := sign_hello_whole farStamp zeroTime
  have isTime : timestampSeconds .plain envelope.ts.val = some (.finite roundedStamp) := by
    rw [isTs]
    exact timestampSeconds_int ofInt_farStamp
  refine ⟨envelope, signed, by rw [isTs]; rfl, isNonce ▸ rfl, ?_, loads_dumps_signed signed isTime, ?_⟩
  · have scale : (0 : Int) ≤ minScale := Int.natCast_nonneg _
    have window : halfMinute.replayWindow = 30 := rfl
    rw [units_farClock, ← Int.sub_mul, add_sub_cancel_left, window,
      abs_of_nonneg (Int.mul_nonneg (by decide) scale)]
  · rw [accepts_verify_iff, examine_signed rfl signed (by decide) (by decide) (by simp) isTime,
      isStale_farClock, if_pos rfl]
    rintro ⟨_, _, _, impossible, -⟩
    cases impossible

/-! ## In the queue -/

/-- The message that `forward` queues, posted as JSON to a partner with the same key,
which expects the sender and has not remembered the nonce, is accepted exactly while its
timestamp is within the partner's window, however long it has waited. -/
theorem queued_accepted_iff {sender partner : TrustManager}
    (sameKey : partner.meshKey = sender.meshKey) {ready : Bool} {partners : List PyStr}
    {nodeId op : PyStr} {payload : JsonObject} {drawn : PyStr} {signedAt : Binary64}
    {envelope : Envelope}
    (queued : forwardEnvelope py ready partners sender nodeId op payload drawn signedAt =
      some (.ok envelope))
    (named : nodeId ≠ []) (isDrawn : drawn ≠ []) (unseen : partner.nonces.get? drawn = none)
    (now later : Binary64) :
    ∃ message : JsonObject, loads (envelope.object.toJson.dumps .default) = some message.toJson ∧
      (Accepts ((verify py (some nodeId) now later (some message)).run partner).1 ↔
        partner.isStale now (.finite signedAt) = false) := by
  have signed := sign_of_forward queued
  obtain ⟨-, -, material, -, isEnvelope⟩ := sign_eq_ok.mp signed
  have isNonce : envelope.nonce = drawn := by rw [isEnvelope]; rfl
  have isTime : timestampSeconds py envelope.ts.val = some (.finite signedAt) := by
    rw [isEnvelope]
    rfl
  refine ⟨envelope.object, loads_dumps_signed signed isTime, ?_⟩
  rw [accepts_verify_iff, examine_signed sameKey signed named isDrawn (by simp) isTime now, isNonce]
  split
  · next stale => simp [stale]
  · next fresh =>
      rw [Bool.not_eq_true] at fresh
      simp only [fresh, iff_true]
      exact ⟨nodeId, drawn, _, rfl, unseen⟩

theorem forward_hello (now : Binary64) :
    ∃ envelope, forwardEnvelope .plain true [lit "http://b:5959"] halfMinute (lit "a")
        (lit "message") hello (lit "n") now = some (.ok envelope) := by
  obtain ⟨envelope, signed, -⟩ := sign_hello now
  refine ⟨envelope, ?_⟩
  rw [← signed]
  exact if_neg (by decide)

/-- The greeting is accepted at once and refused after half a minute. -/
theorem queued_accepted_iff_hello :
    ∃ envelope, forwardEnvelope .plain true [lit "http://b:5959"] halfMinute (lit "a")
        (lit "message") hello (lit "n") zeroTime = some (.ok envelope) ∧
      ∃ message : JsonObject, loads (envelope.object.toJson.dumps .default) = some message.toJson ∧
        (Accepts ((verify .plain (some (lit "a")) zeroTime zeroTime (some message)).run halfMinute).1 ↔
          halfMinute.isStale zeroTime (.finite zeroTime) = false) := by
  obtain ⟨envelope, queued⟩ := forward_hello zeroTime
  exact ⟨envelope, queued, queued_accepted_iff rfl queued (by decide) (by decide) rfl zeroTime zeroTime⟩

/-- A greeting that is posted three quarters of a minute after it was signed is refused. -/
theorem greeting_outdated :
    ∃ envelope, forwardEnvelope .plain true [lit "http://b:5959"] halfMinute (lit "a")
        (lit "message") hello (lit "n") zeroTime = some (.ok envelope) ∧
      loads (envelope.object.toJson.dumps .default) = some envelope.object.toJson ∧
      ¬Accepts ((verify .plain (some (lit "a")) (sixBits 45 (by decide)) (sixBits 45 (by decide))
        (some envelope.object)).run halfMinute).1 := by
  obtain ⟨envelope, queued⟩ := forward_hello zeroTime
  have signed := sign_of_forward queued
  have isTime : timestampSeconds .plain envelope.ts.val = some (.finite zeroTime) := by
    obtain ⟨-, -, material, -, isEnvelope⟩ := sign_eq_ok.mp signed
    rw [isEnvelope]
    rfl
  refine ⟨envelope, queued, loads_dumps_signed signed isTime, ?_⟩
  rw [accepts_verify_iff, examine_signed rfl signed (by decide) (by decide) (by simp) isTime,
    isStale_halfMinute, if_pos rfl]
  rintro ⟨_, _, _, impossible, -⟩
  cases impossible

end TrustManager

end HermesMesh.Collab
