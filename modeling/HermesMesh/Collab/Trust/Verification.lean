import HermesMesh.Collab.Trust.Delivery

/-!
# What `verify` answers to any message

A message comes to the comparison of its signature only after all other checks.  What
`verify` accepts has passed them, and it raises at the two places where a check meets a
value that Python cannot hash or compare.
-/

namespace HermesMesh.Collab

open Python Foundation Foundation.Action

variable {py : Platform}

namespace TrustManager

/-- The message names a node, which is not another than the expected one. -/
def NamesNode (expected : Option PyStr) (message : JsonObject) (nodeId : PyStr) : Prop :=
  message.get? (lit "node_id") = some (.str nodeId) ∧ nodeId ≠ [] ∧
    ∀ other ∈ expected, other = [] ∨ nodeId = other

/-- The message passes the checks that `verify` makes before it compares the signature. -/
structure Checked (py : Platform) (manager : TrustManager) (expected : Option PyStr) (now : Binary64)
    (message : JsonObject) (nodeId op : PyStr) (payload : JsonObject) (nonce sig : PyStr)
    (ts : PyFloat) (material : ByteArray) : Prop where
  node : NamesNode expected message nodeId
  isOp : message.get? (lit "op") = some (.str op)
  allowed : op ∈ allowedOps
  isPayload : message.getObject? (lit "payload") = some payload
  isNonce : message.get? (lit "nonce") = some (.str nonce)
  nonempty : nonce ≠ []
  isSig : message.get? (lit "sig") = some (.str sig)
  isTime : timestampSeconds py (message.getD (lit "ts") .null) = some ts
  fresh : manager.isStale now ts = false
  policy : Acceptable py payload.toJson
  encoded : signingMaterial py nodeId op payload nonce (message.getD (lit "ts") .null) = some material

section Inversion

variable {manager : TrustManager} {expected : Option PyStr} {now : Binary64} {message : JsonObject}
  {nodeId op nonce sig : PyStr} {payload : JsonObject} {ts : PyFloat} {material : ByteArray}
  {stamp : Json}

theorem expectedSignature_eq_ok {digest : PyStr} :
    manager.expectedSignature py now nodeId op payload nonce stamp = .ok (ts, digest) ↔
      timestampSeconds py stamp = some ts ∧ manager.isStale now ts = false ∧
        Acceptable py payload.toJson ∧ ∃ material,
          signingMaterial py nodeId op payload nonce stamp = some material ∧
            (py.hmacSha256 manager.meshKey material).text = digest := by
  constructor
  · intro expects
    unfold expectedSignature at expects
    split at expects
    · cases expects
    next seconds isTime =>
    split at expects
    · cases expects
    next fresh =>
    split at expects
    · cases expects
    next policy =>
    split at expects
    · cases expects
    next material encoded =>
    rw [Except.ok.injEq, Prod.mk.injEq] at expects
    obtain ⟨rfl, isDigest⟩ := expects
    exact ⟨isTime, Bool.eq_false_iff.mpr fresh, policy, material, encoded, isDigest⟩
  · rintro ⟨isTime, fresh, policy, material, encoded, rfl⟩
    rw [expectedSignature_eq policy isTime encoded, fresh]
    exact if_neg Bool.false_ne_true

theorem isAllowedOp_eq_true {value : Json} :
    isAllowedOp value = some true ↔ ∃ op, value = .str op ∧ op ∈ allowedOps := by
  cases value with
  | str op =>
      rw [isAllowedOp, Option.some.injEq, List.contains_iff_mem]
      constructor
      · intro allowed
        exact ⟨op, rfl, allowed⟩
      · rintro ⟨other, same, allowed⟩
        cases same
        exact allowed
  | null | bool _ | int _ | float _ | arr _ | obj _ =>
      simp [isAllowedOp]

theorem examine_of_node (node : NamesNode expected message nodeId) :
    manager.examine py expected now (some message) = manager.examineFields py now nodeId message := by
  obtain ⟨sender, named, addressed⟩ := node
  have here : ¬(nodeId.isEmpty = true ∨ ∃ other ∈ expected, other ≠ [] ∧ nodeId ≠ other) := by
    rintro (empty | ⟨other, member, given, different⟩)
    · exact named (List.isEmpty_iff.mp empty)
    · exact (addressed other member).elim given different
  rw [examine.eq_def]
  dsimp only
  rw [sender]
  exact if_neg here

/-- What is compared at the end of the checks. -/
theorem examine_of_checked
    (checked : Checked py manager expected now message nodeId op payload nonce sig ts material) :
    manager.examine py expected now (some message) =
      if sig.any (fun c => decide (128 ≤ c.val)) then .error .typeError
      else if (py.hmacSha256 manager.meshKey material).text = sig then .ok (.genuine nodeId nonce ts)
      else .ok (.refused "invalid signature" (some nodeId)) := by
  obtain ⟨node, isOp, allowed, isPayload, isNonce, nonempty, isSig, isTime, fresh, policy,
    encoded⟩ := checked
  have known : isAllowedOp (message.getD (lit "op") .null) = some true := by
    rw [JsonObject.getD, isOp, Option.getD_some]
    exact isAllowedOp_eq_true.mpr ⟨op, rfl, allowed⟩
  have someNonce : ¬nonce.isEmpty = true := by simpa using nonempty
  have expects := expectedSignature_eq_ok.mpr ⟨isTime, fresh, policy, material, encoded, rfl⟩
  rw [examine_of_node node, examineFields, known, isOp, isPayload, isNonce, isSig]
  dsimp only
  rw [if_neg someNonce, examineSigned.eq_def, expects]

theorem examine_of_unhashable (node : NamesNode expected message nodeId)
    (unhashable : isAllowedOp (message.getD (lit "op") .null) = none) :
    manager.examine py expected now (some message) = .error .typeError := by
  rw [examine_of_node node, examineFields, unhashable]

/-- A message is refused, or its operation cannot be looked up, or it is compared. -/
theorem examine_cases (manager : TrustManager) (expected : Option PyStr) (now : Binary64)
    (message : JsonObject) :
    (∃ reason nodeId, manager.examine py expected now (some message) = .ok (.refused reason nodeId)) ∨
      (∃ nodeId, NamesNode expected message nodeId ∧
        isAllowedOp (message.getD (lit "op") .null) = none) ∨
      ∃ nodeId op payload nonce sig ts material,
        Checked py manager expected now message nodeId op payload nonce sig ts material := by
  rw [examine.eq_def]
  dsimp only
  split
  case h_2 => exact .inl ⟨_, _, rfl⟩
  next nodeId sender =>
  split
  · exact .inl ⟨_, _, rfl⟩
  next here =>
  rw [not_or] at here
  have node : NamesNode expected message nodeId := by
    refine ⟨sender, fun empty => here.1 (List.isEmpty_iff.mpr empty), fun other member => ?_⟩
    by_contra different
    rw [not_or] at different
    exact here.2 ⟨other, member, different.1, different.2⟩
  rw [examineFields.eq_def]
  split
  · next unhashable => exact .inr (.inl ⟨nodeId, node, unhashable⟩)
  · exact .inl ⟨_, _, rfl⟩
  next known =>
  split
  case h_2 => exact .inl ⟨_, _, rfl⟩
  next op payload nonce sig isOp isPayload isNonce isSig =>
  split
  · exact .inl ⟨_, _, rfl⟩
  next nonempty =>
  have allowed : op ∈ allowedOps := by
    rw [JsonObject.getD, isOp, Option.getD_some] at known
    obtain ⟨other, same, allowed⟩ := isAllowedOp_eq_true.mp known
    cases same
    exact allowed
  cases expects : manager.expectedSignature py now nodeId op payload nonce
      (message.getD (lit "ts") .null) with
  | error reason => exact .inl ⟨_, _, examineSigned_of_error expects⟩
  | ok found =>
      obtain ⟨ts, digest⟩ := found
      obtain ⟨isTime, fresh, policy, material, encoded, -⟩ := expectedSignature_eq_ok.mp expects
      refine .inr (.inr ⟨nodeId, op, payload, nonce, sig, ts, material, ?_⟩)
      exact ⟨node, isOp, allowed, isPayload, isNonce, fun empty => nonempty (List.isEmpty_iff.mpr empty),
        isSig, isTime, fresh, policy, encoded⟩

/-- A genuine message has passed all checks, and its signature is the one expected. -/
theorem checked_of_genuine
    (genuine : manager.examine py expected now (some message) = .ok (.genuine nodeId nonce ts)) :
    ∃ op payload sig material,
      Checked py manager expected now message nodeId op payload nonce sig ts material ∧
        (py.hmacSha256 manager.meshKey material).text = sig := by
  rcases @examine_cases py manager expected now message with
    ⟨reason, sender, refused⟩ | ⟨sender, node, unhashable⟩ |
    ⟨sender, op, payload, nonce', sig, ts', material, checked⟩
  · rw [genuine] at refused
    cases refused
  · rw [examine_of_unhashable node unhashable] at genuine
    cases genuine
  · rw [examine_of_checked checked] at genuine
    split at genuine
    · cases genuine
    split at genuine
    · next same =>
        cases genuine
        exact ⟨op, payload, sig, material, checked, same⟩
    · cases genuine

end Inversion

/-! ## Freshness -/

/-- The distance of the timestamp from the clock, a rounded difference of floats, is at most the
window. -/
def IsNear (manager : TrustManager) (now ts : Binary64) : Prop :=
  (PyFloat.sub (.finite now) (.finite ts)).abs.leInt manager.replayWindow = true

theorem isNear_iff {manager : TrustManager} {now ts : Binary64} :
    manager.IsNear now ts ↔ manager.isStale now (.finite ts) = false := by
  have number : (PyFloat.sub (.finite now) (.finite ts)).abs ≠ .nan := by
    rw [PyFloat.sub]
    exact PyFloat.abs_ne_nan (PyFloat.ofUnits_ne_nan _)
  rw [IsNear, isStale, PyFloat.leInt_eq_not_gtInt number, Bool.not_eq_true']

theorem isStale_inf (manager : TrustManager) (now : Binary64) (neg : Bool) :
    manager.isStale now (.inf neg) = true := by
  rw [isStale]
  rfl

theorem isStale_nan (manager : TrustManager) (now : Binary64) : manager.isStale now .nan = false := by
  rw [isStale]
  rfl

/-- An accepted message has a finite timestamp within the window of the clock exactly if
its timestamp is not a NaN: the check is a comparison that a NaN does not meet. -/
theorem accepted_near_iff {manager : TrustManager} {expected : Option PyStr} {now later : Binary64}
    {message : JsonObject}
    (accepted : Accepts ((verify py expected now later (some message)).run manager).1) :
    (∃ ts : Binary64, timestampSeconds py (message.getD (lit "ts") .null) = some (.finite ts) ∧
        manager.IsNear now ts) ↔
      timestampSeconds py (message.getD (lit "ts") .null) ≠ some .nan := by
  obtain ⟨nodeId, nonce, ts, genuine, -⟩ := accepts_verify_iff.mp accepted
  obtain ⟨op, payload, sig, material, checked, -⟩ := checked_of_genuine genuine
  have isTime := checked.isTime
  have fresh := checked.fresh
  constructor
  · rintro ⟨seconds, isFinite, -⟩ isNan
    rw [isFinite] at isNan
    cases isNan
  · intro notNan
    cases ts with
    | finite seconds => exact ⟨seconds, isTime, isNear_iff.mpr fresh⟩
    | inf neg =>
        rw [isStale_inf] at fresh
        cases fresh
    | nan => exact absurd isTime notNan

/-- A new greeting with the timestamp `value` is accepted if that is not stale. -/
theorem accepts_hello {value : PyFloat} {envelope : Envelope} {now : Binary64}
    {expected : Option PyStr}
    (signed : halfMinute.sign .plain (lit "a") (lit "message") hello none (some (.ofFloat value))
      (lit "n") now = .ok envelope)
    (isNonce : envelope.nonce = lit "n") (isTs : envelope.ts = .ofFloat value)
    (fresh : halfMinute.isStale now value = false)
    (addressed : ∀ other ∈ expected, other = lit "a") :
    Accepts ((verify .plain expected now now (some envelope.object)).run halfMinute).1 := by
  have isTime : timestampSeconds .plain envelope.ts.val = some value := by
    rw [isTs]
    rfl
  have genuine := @examine_signed .plain halfMinute halfMinute rfl _ _ _ _ _ _ _ _ signed (by decide)
    (by decide) expected addressed value isTime now
  rw [fresh, if_neg Bool.false_ne_true, isNonce] at genuine
  exact accepts_verify_iff.mpr ⟨_, _, _, genuine, rfl⟩

/-- The greeting of the time of its verification is near. -/
theorem accepted_near_iff_hello :
    ∃ envelope, halfMinute.sign .plain (lit "a") (lit "message") hello none
        (some (.ofFloat (.finite zeroTime))) (lit "n") zeroTime = .ok envelope ∧
      ((∃ ts : Binary64, timestampSeconds .plain (envelope.object.getD (lit "ts") .null) =
          some (.finite ts) ∧ halfMinute.IsNear zeroTime ts) ↔
        timestampSeconds .plain (envelope.object.getD (lit "ts") .null) ≠ some .nan) := by
  obtain ⟨envelope, signed, isNonce, isTs⟩ :=
    sign_hello_at (some (.ofFloat (.finite zeroTime))) zeroTime rfl
  have fresh := @isStale_self halfMinute (by decide) zeroTime
  have accepted := @accepts_hello _ _ _ none signed isNonce isTs fresh (by simp)
  exact ⟨envelope, signed, accepted_near_iff accepted⟩

/-- The greeting with a NaN for its timestamp is accepted. -/
theorem nan_accepted :
    ∃ envelope, halfMinute.sign .plain (lit "a") (lit "message") hello none (some (.ofFloat .nan))
        (lit "n") zeroTime = .ok envelope ∧
      loads (envelope.object.toJson.dumps .default) = some envelope.object.toJson ∧
      Accepts ((verify .plain none zeroTime zeroTime (some envelope.object)).run halfMinute).1 ∧
      ¬∃ ts : Binary64, timestampSeconds .plain (envelope.object.getD (lit "ts") .null) =
        some (.finite ts) ∧ halfMinute.IsNear zeroTime ts := by
  obtain ⟨envelope, signed, isNonce, isTs⟩ := sign_hello_at (some (.ofFloat .nan)) zeroTime rfl
  have isTime : timestampSeconds .plain envelope.ts.val = some .nan := by
    rw [isTs]
    rfl
  refine ⟨envelope, signed, loads_dumps_signed signed isTime,
    accepts_hello signed isNonce isTs (isStale_nan _ _) (by simp), ?_⟩
  rintro ⟨ts, isFinite, -⟩
  rw [JsonObject.getD, Envelope.get?_ts, Option.getD_some, isTime] at isFinite
  cases isFinite

/-! ## Exceptions -/

/-- The answer of `verify` is a refusal, or says that the message of a node is verified. -/
def Answers (result : Except Fault Verdict) : Prop :=
  ∃ verdict, result = .ok verdict ∧
    (verdict.valid = true → verdict.reason = "verified" ∧ verdict.nodeId.isSome = true)

section Answers

variable {manager : TrustManager} {expected : Option PyStr} {now : Binary64}
  {message : Option JsonObject}

theorem answers_of_ok {outcome : Examined}
    (examined : manager.examine py expected now message = .ok outcome) (later : Binary64) :
    Answers ((verify py expected now later message).run manager).1 := by
  cases outcome with
  | refused reason nodeId =>
      rw [verify_of_refused examined]
      refine ⟨_, rfl, fun impossible => ?_⟩
      cases impossible
  | genuine nodeId nonce ts =>
      rw [verify_of_genuine examined]
      split
      · exact ⟨_, rfl, fun _ => ⟨rfl, rfl⟩⟩
      · refine ⟨_, rfl, fun impossible => ?_⟩
        cases impossible

theorem not_answers_of_error {fault : Fault}
    (raised : manager.examine py expected now message = .error fault) (later : Binary64) :
    ¬Answers ((verify py expected now later message).run manager).1 := by
  rw [verify_of_error raised]
  rintro ⟨verdict, impossible, -⟩
  cases impossible

end Answers

/-- Whether a signature can be compared. -/
theorem examine_raises_of_checked {manager : TrustManager} {expected : Option PyStr} {now : Binary64}
    {message : JsonObject} {nodeId op nonce sig : PyStr} {payload : JsonObject} {ts : PyFloat}
    {material : ByteArray}
    (checked : Checked py manager expected now message nodeId op payload nonce sig ts material) :
    (∃ fault, manager.examine py expected now (some message) = .error fault) ↔
      ∃ c ∈ sig, 128 ≤ c.val := by
  have nonAscii : (sig.any fun c => decide (128 ≤ c.val)) = true ↔ ∃ c ∈ sig, 128 ≤ c.val := by
    simp only [List.any_eq_true, decide_eq_true_eq]
  rw [examine_of_checked checked, ← nonAscii]
  split
  · next wide => exact iff_of_true ⟨_, rfl⟩ wide
  · next ascii =>
      refine iff_of_false ?_ ascii
      split
      · rintro ⟨fault, impossible⟩
        cases impossible
      · rintro ⟨fault, impossible⟩
        cases impossible

/-- `verify` answers exactly if the operation of a message that names a node has a hash,
and the signature of a message that passes all other checks is ASCII. -/
theorem verify_answers_iff {manager : TrustManager} {expected : Option PyStr} {now later : Binary64}
    (value : JsonValue) :
    Answers ((verify py expected now later value.object?).run manager).1 ↔
      ∀ message, value.object? = some message →
        (∀ nodeId, NamesNode expected message nodeId →
          isAllowedOp (message.getD (lit "op") .null) ≠ none) ∧
        ∀ nodeId op payload nonce sig ts material,
          Checked py manager expected now message nodeId op payload nonce sig ts material →
            ∀ c ∈ sig, c.val < 128 := by
  cases isObject : value.object? with
  | none =>
      refine iff_of_true (answers_of_ok rfl later) fun message impossible => ?_
      cases impossible
  | some message =>
      constructor
      · rintro answers other ⟨⟩
        refine ⟨fun nodeId node unhashable => ?_, ?_⟩
        · exact not_answers_of_error (examine_of_unhashable node unhashable) later answers
        · intro nodeId op payload nonce sig ts material checked c member
          by_contra wide
          obtain ⟨fault, raised⟩ :=
            (examine_raises_of_checked checked).mpr ⟨c, member, Nat.le_of_not_lt wide⟩
          exact not_answers_of_error raised later answers
      · intro condition
        obtain ⟨hashable, ascii⟩ := condition message rfl
        rcases @examine_cases py manager expected now message with
          ⟨reason, nodeId, refused⟩ | ⟨nodeId, node, unhashable⟩ |
          ⟨nodeId, op, payload, nonce, sig, ts, material, checked⟩
        · exact answers_of_ok refused later
        · exact absurd unhashable (hashable nodeId node)
        · cases examined : manager.examine py expected now (some message) with
          | ok outcome => exact answers_of_ok examined later
          | error fault =>
              obtain ⟨c, member, wide⟩ := (examine_raises_of_checked checked).mp ⟨fault, examined⟩
              exact absurd (ascii _ _ _ _ _ _ _ checked c member) (Nat.not_lt.mpr wide)

/-- A message whose operation is a list. -/
def listOp : JsonValue :=
  ⟨.obj [(lit "node_id", .str (lit "a")), (lit "op", .arr [])], by
    refine ⟨?_, trivial, trivial, trivial⟩
    simp only [List.map_cons, List.map_nil, List.nodup_cons, List.mem_cons, lit_inj]
    decide⟩

/-- A list for the operation makes `verify` raise. -/
theorem listOp_raises :
    ((verify .plain (some (lit "a")) zeroTime zeroTime listOp.object?).run halfMinute).1 =
        .error .typeError ∧
      ¬Answers ((verify .plain (some (lit "a")) zeroTime zeroTime listOp.object?).run halfMinute).1 := by
  have node : ∀ message, listOp.object? = some message →
      halfMinute.examine .plain (some (lit "a")) zeroTime (some message) = .error .typeError := by
    rintro message ⟨⟩
    refine @examine_of_unhashable .plain _ _ _ _ (lit "a") ⟨?_, by decide, by simp⟩ ?_
    · rfl
    · rfl
  have raised := node _ rfl
  exact ⟨verify_of_error raised _, not_answers_of_error raised _⟩

end TrustManager

end HermesMesh.Collab
