import HermesMesh.Collab.Auth.AllOrNothing
import HermesMesh.Collab.Auth.Identity
import HermesMesh.Python.FloatOrder

/-!
# Invites and the joins that redeem them

`create_invite` adds a code to the store and purges those that are used or expired.  A
code is for one node, whose identifier is checked there as it is in `join`, but not as it
is in `issue`.  Stores that the two methods have kept are legible to both, so that nothing
but that difference stands between an invite and its join.
-/

namespace HermesMesh.Collab

open Python Foundation Foundation.Action

/-- The formatter of instants and the parser that reads back what it writes. -/
structure Calendar where
  /-- `_iso(value)`; `none` is the `OverflowError` of an instant out of range. -/
  iso : Int → Option PlainText
  /-- `datetime.fromisoformat(text.replace("Z", "+00:00")).astimezone(utc)` -/
  parseIso : PyStr → Parsed Int
  parse_iso : ∀ {instant text}, iso instant = some text → parseIso text.text = .value instant

/-- What `create_invite` finds out: the clock before and after it reads the store, a fresh
code, and how the library reads a number. -/
structure InviteMoment where
  issuedAt : Int
  now : Int
  code : PlainText
  codeNonempty : code.text ≠ []
  /-- `int(text)`; `none` is its `ValueError`. -/
  intOfText : PyStr → Option Int

/-- What `create_invite` returns. -/
structure Invite where
  code : PyStr
  expiresAt : PyStr
  nodeId : Json

/-! ## `create_invite` -/

/-- `int(ttl)`, with `AuthError` for the two exceptions that are caught. -/
def ttlSeconds (moment : InviteMoment) : Json → Except AuthFault Int
  | .bool value => .ok (if value then 1 else 0)
  | .int value => .ok value
  | .float (.inf _) => .error .overflowError
  | .float value =>
      match value.toInt? with
      | some seconds => .ok seconds
      | none => .error (.authError "invalid ttl")
  | .str text =>
      match moment.intOfText text with
      | some seconds => .ok seconds
      | none => .error (.authError "invalid ttl")
  | _ => .error (.authError "invalid ttl")

/-- `node_id is None or self._valid_node_id(node_id)` -/
def mayInvite (py : Platform) : Json → Bool
  | .null => true
  | .str nodeId => validNodeId py nodeId
  | _ => false

/-- The checks of the arguments; the seconds that the code is valid. -/
def checkInvite (py : Platform) (moment : InviteMoment) (nodeId ttl : Json) : Except AuthFault Int :=
  if mayInvite py nodeId then do
    let seconds ← ttlSeconds moment ttl
    if seconds < 1 || 86400 < seconds then
      .error (.authError "ttl must be between 1 and 86400 seconds")
    else return seconds
  else .error (.authError "invalid node_id")

/-- The entry of a new code. -/
def inviteRecord (digest : PyStr) (nodeId : Json) (expiresAt : PyStr) : Dict PyStr Json :=
  [(lit "code_hash", .str digest), (lit "node_id", nodeId), (lit "expires_at", .str expiresAt),
    (lit "used_at", .null)]

/-- The entries that are kept: neither used nor expired. -/
def liveCodes (calendar : Calendar) (now : Int) : List Json → Except AuthFault (List Json)
  | [] => .ok []
  | entry :: rest => do
      let item ← asDict entry
      let live ← if (getOr (lit "used_at") .null item).truthy then .ok false
        else (expiryOf calendar.parseIso item).map fun expiry => decide (now < expiry)
      let kept ← liveCodes calendar now rest
      return if live then entry :: kept else kept

/-- `create_invite` -/
def createInvite (py : Platform) (calendar : Calendar) (moment : InviteMoment) (nodeId ttl : Json) :
    Action AuthStores AuthFault Invite := do
  let seconds ← .ofExcept (checkInvite py moment nodeId ttl)
  let expiresAt ← .ofOption .overflowError (calendar.iso (moment.issuedAt + seconds * 1000000))
  let digest ← .ofExcept (hashText py moment.code.text)
  let stores ← .read
  let store ← .ofExcept (readStore [(lit "codes", .arr [])] stores.codes)
  let entries ← .ofExcept (iterate (getOr (lit "codes") (.arr []) store))
  let kept ← .ofExcept (liveCodes calendar moment.now entries)
  .modify fun stores => { stores with codes := .decoded (.obj (store.set (lit "codes")
    (.arr (kept ++ [.obj (inviteRecord digest nodeId expiresAt.text)])))) }
  return ⟨moment.code.text, expiresAt.text, nodeId⟩

inductive AuthCall where
  | invite (moment : InviteMoment) (nodeId ttl : Json)
  | join (moment : JoinMoment) (nodeId code expiresAt : Json)

/-- Invites and joins on one set of stores. -/
def authMachine (py : Platform) (calendar : Calendar) :
    Machine AuthStores AuthCall (Except AuthFault Unit) where
  step
    | stores, .invite moment nodeId ttl =>
        let (result, after) := (createInvite py calendar moment nodeId ttl).run stores
        (result.map fun _ => (), after)
    | stores, .join moment nodeId code expiresAt =>
        let (result, after) := (join py moment nodeId code expiresAt).run stores
        (result.map fun _ => (), after)

/-! ## Stores that have been kept -/

/-- The entry expires at an instant that can be read. -/
def Expires (calendar : Calendar) (item : Dict PyStr Json) (expiry : Int) : Prop :=
  ∃ text, item.get? (lit "expires_at") = some (.str text) ∧ calendar.parseIso text = .value expiry

/-- An entry of the code store as `create_invite` writes it and `join` marks it. -/
def KeptCode (calendar : Calendar) (entry : Json) : Prop :=
  ∃ (item : Dict PyStr Json) (digest : PyStr) (expiry : Int), entry = .obj item ∧ item.get? (lit "code_hash") = some (.str digest) ∧
    (∀ c ∈ digest, c.val < 128) ∧ Expires calendar item expiry

/-- An entry of the token store as `join` writes it. -/
def KeptToken (calendar : Calendar) (entry : Json) : Prop :=
  ∃ (item : Dict PyStr Json) (expiry : Int), entry = .obj item ∧ Expires calendar item expiry

/-- A store file with its one list of entries. -/
def Holds (key : PyStr) (file : StoreFile) (store : Dict PyStr Json) (entries : List Json) : Prop :=
  file = .decoded (.obj store) ∧ store.get? key = some (.arr entries)

/-- The stores are as the methods leave them: every entry is legible, and the files that
hold plain text can be written again. -/
structure WellKept (calendar : Calendar) (stores : AuthStores) : Prop where
  codes : ∃ store entries, Holds (lit "codes") stores.codes store entries ∧
    ∀ entry ∈ entries, KeptCode calendar entry
  tokens : ∃ store entries, Holds (lit "tokens") stores.tokens store entries ∧
    ∀ entry ∈ entries, KeptToken calendar entry
  certificates : ∀ nodeId certificate, stores.certificates.get? nodeId = some certificate →
    ∃ fields, certificate = .obj fields
  certificateTexts : (Json.obj stores.certificates).AllStrings Encodable
  nodes : ∃ nodes : Dict PyStr Json, stores.state.get? (lit "nodes") = some (.obj nodes) ∧
    ∀ nodeId record, nodes.get? nodeId = some record → ∃ fields, record = .obj fields
  stateTexts : (Json.obj stores.state).AllStrings Encodable

/-- The stores of a new mesh, with the state of a new vault. -/
def AuthStores.fresh : AuthStores where
  codes := .decoded (.obj [(lit "codes", .arr [])])
  tokens := .decoded (.obj [(lit "tokens", .arr [])])
  certificates := []
  certificateFile := []
  state := defaultState
  stateFile := defaultState
where
  /-- `_default_state` -/
  defaultState : Dict PyStr Json :=
    [(lit "nodes", .obj []),
      (lit "tasks", .obj [(lit "pending", .arr []), (lit "processing", .arr []),
        (lit "done", .arr [])]),
      (lit "messages", .arr []), (lit "mesh_key_rotations", .int 0), (lit "last_sync", .null),
      (lit "audit_tampered", .bool false)]

theorem wellKept_fresh (calendar : Calendar) : WellKept calendar .fresh where
  codes := ⟨_, [], ⟨rfl, rfl⟩, nofun⟩
  tokens := ⟨_, [], ⟨rfl, rfl⟩, nofun⟩
  certificates := nofun
  certificateTexts := trivial
  nodes := ⟨[], rfl, nofun⟩
  stateTexts := by
    simp [AuthStores.fresh, AuthStores.fresh.defaultState, Json.AllStrings, Json.AllStringsFields,
      Json.AllStringsItems, encodable_lit]

/-! ## Reading kept stores -/

variable {py : Platform} {calendar : Calendar}

theorem Holds.read {key : PyStr} {file : StoreFile} {store : Dict PyStr Json} {entries : List Json}
    (holds : Holds key file store entries) (default : Dict PyStr Json) :
    readStore default file = .ok store ∧
      iterate (getOr key (.arr []) store) = .ok entries := by
  obtain ⟨rfl, found⟩ := holds
  refine ⟨rfl, ?_⟩
  rw [getOr, found]
  rfl

theorem Holds.unique {key : PyStr} {file : StoreFile} {store other : Dict PyStr Json}
    {entries others : List Json} (holds : Holds key file store entries)
    (also : Holds key file other others) : store = other ∧ entries = others := by
  obtain ⟨rfl, found⟩ := holds
  obtain ⟨same, alsoFound⟩ := also
  cases same
  rw [found] at alsoFound
  cases alsoFound
  exact ⟨rfl, rfl⟩

theorem expiryOf_eq_ok {item : Dict PyStr Json} {expiry : Int} (expires : Expires calendar item expiry) :
    expiryOf calendar.parseIso item = .ok expiry := by
  obtain ⟨text, found, parsed⟩ := expires
  simp only [expiryOf, getItem, found, bind, Except.bind, parsed]
  rfl

theorem expiry_eq_ok {moment : JoinMoment} (sameParser : moment.parseIso = calendar.parseIso)
    {item : Dict PyStr Json} {expiry : Int} (expires : Expires calendar item expiry) :
    moment.expiry item = .ok expiry := by
  obtain ⟨text, found, parsed⟩ := expires
  simp only [JoinMoment.expiry, found, JoinMoment.instant, sameParser, parsed]

/-- Every kept code can be read; those that are neither used nor expired are kept. -/
theorem liveCodes_eq_ok (now : Int) {entries : List Json}
    (kept : ∀ entry ∈ entries, KeptCode calendar entry) :
    ∃ live, liveCodes calendar now entries = .ok live ∧ (∀ entry ∈ live, entry ∈ entries) ∧
      ∀ (item : Dict PyStr Json) (expiry : Int), .obj item ∈ entries →
        (getOr (lit "used_at") .null item).truthy = false → Expires calendar item expiry →
        now < expiry → .obj item ∈ live := by
  induction entries with
  | nil => exact ⟨[], rfl, fun _ member => member, fun _ _ member => absurd member List.not_mem_nil⟩
  | cons entry rest ih =>
      obtain ⟨live, isLive, within, every⟩ := ih fun other member =>
        kept other (List.mem_cons_of_mem _ member)
      obtain ⟨item, digest, expiry, rfl, -, -, expires⟩ := kept _ List.mem_cons_self
      have itemRead := expiryOf_eq_ok expires
      by_cases used : (getOr (lit "used_at") .null item).truthy = true
      · refine ⟨live, ?_, fun other member => List.mem_cons_of_mem _ (within other member), ?_⟩
        · simp only [liveCodes, asDict, used, if_true, isLive, bind, Except.bind]
          rfl
        · intro other otherExpiry member unused otherExpires later
          rcases List.mem_cons.mp member with same | inRest
          · cases same
            rw [used] at unused
            cases unused
          · exact every other otherExpiry inRest unused otherExpires later
      · refine ⟨if now < expiry then .obj item :: live else live, ?_, ?_, ?_⟩
        · simp only [liveCodes, asDict, used, Bool.false_eq_true, if_false, itemRead, Except.map, isLive, bind,
            Except.bind, decide_eq_true_eq]
          split <;> rfl
        · intro other member
          split at member
          · rcases List.mem_cons.mp member with rfl | inLive
            · exact List.mem_cons_self
            · exact List.mem_cons_of_mem _ (within other inLive)
          · exact List.mem_cons_of_mem _ (within other member)
        · intro other otherExpiry member unused otherExpires later
          rcases List.mem_cons.mp member with same | inRest
          · cases same
            have sameExpiry : otherExpiry = expiry :=
              Except.ok.inj ((expiryOf_eq_ok otherExpires).symm.trans itemRead)
            rw [if_pos (sameExpiry ▸ later)]
            exact List.mem_cons_self
          · have inLive := every other otherExpiry inRest unused otherExpires later
            split
            · exact List.mem_cons_of_mem _ inLive
            · exact inLive

/-- Every kept token can be read. -/
theorem liveTokens_eq_ok {moment : JoinMoment} (sameParser : moment.parseIso = calendar.parseIso)
    {entries : List Json} (kept : ∀ entry ∈ entries, KeptToken calendar entry) (index : Nat) :
    ∃ live, liveTokens moment index entries = .ok live ∧ ∀ entry ∈ live, entry ∈ entries := by
  induction entries generalizing index with
  | nil => exact ⟨[], rfl, fun _ member => member⟩
  | cons entry rest ih =>
      obtain ⟨live, isLive, within⟩ := ih (fun other member =>
        kept other (List.mem_cons_of_mem _ member)) (index + 1)
      obtain ⟨item, expiry, rfl, expires⟩ := kept _ List.mem_cons_self
      have itemRead := expiry_eq_ok sameParser expires
      have wider : ∀ other ∈ live, other ∈ Json.obj item :: rest :=
        fun other member => List.mem_cons_of_mem _ (within other member)
      by_cases revoked : (getOr (lit "revoked") .null item).truthy = true
      · refine ⟨live, ?_, wider⟩
        simp only [liveTokens, asDict, revoked, if_true, isLive, bind, Except.bind]
        rfl
      · refine ⟨if moment.tokenClock index < expiry then .obj item :: live else live, ?_, ?_⟩
        · simp only [liveTokens, asDict, revoked, Bool.false_eq_true, if_false, itemRead, Except.map,
            isLive, bind, Except.bind, decide_eq_true_eq]
          split <;> rfl
        · intro other member
          split at member
          · rcases List.mem_cons.mp member with rfl | inLive
            · exact List.mem_cons_self
            · exact wider other inLive
          · exact wider other member

/-! ## What an invite leaves -/

/-- The stores after an invite. -/
def AuthStores.withCodes (stores : AuthStores) (store : Dict PyStr Json) (entries : List Json) :
    AuthStores :=
  { stores with codes := .decoded (.obj (store.set (lit "codes") (.arr entries))) }

/-- An invite with good arguments adds its entry to those that are kept. -/
theorem run_createInvite_ok {stores : AuthStores} {store : Dict PyStr Json} {entries live : List Json}
    (holds : Holds (lit "codes") stores.codes store entries) {moment : InviteMoment}
    (isLive : liveCodes calendar moment.now entries = .ok live) {nodeId ttl : Json} {seconds : Int}
    (checked : checkInvite py moment nodeId ttl = .ok seconds) {expiresAt : PlainText}
    (formatted : calendar.iso (moment.issuedAt + seconds * 1000000) = some expiresAt) :
    ∃ digest, hashText py moment.code.text = .ok digest ∧
      (createInvite py calendar moment nodeId ttl).run stores =
        (.ok ⟨moment.code.text, expiresAt.text, nodeId⟩, stores.withCodes store
          (live ++ [.obj (inviteRecord digest nodeId expiresAt.text)])) := by
  obtain ⟨read, items⟩ := holds.read [(lit "codes", .arr [])]
  obtain ⟨digest, hashed⟩ := @exists_hashText py _ moment.code.plain
  refine ⟨digest, hashed, ?_⟩
  unfold createInvite
  simp only [checked, formatted, hashed, run_bind, run_ofExcept, run_ofOption_some, run_read, read,
    items, isLive, run_modify]
  rfl

/-- An invite raises and changes nothing, or adds its entry to those that are kept. -/
theorem run_createInvite {stores : AuthStores} {store : Dict PyStr Json} {entries live : List Json}
    (holds : Holds (lit "codes") stores.codes store entries) {moment : InviteMoment}
    (isLive : liveCodes calendar moment.now entries = .ok live) (nodeId ttl : Json) :
    (∃ fault, (createInvite py calendar moment nodeId ttl).run stores = (.error fault, stores)) ∨
      ∃ seconds expiresAt digest, checkInvite py moment nodeId ttl = .ok seconds ∧
        calendar.iso (moment.issuedAt + seconds * 1000000) = some expiresAt ∧
        hashText py moment.code.text = .ok digest ∧
        (createInvite py calendar moment nodeId ttl).run stores =
          (.ok ⟨moment.code.text, expiresAt.text, nodeId⟩, stores.withCodes store
            (live ++ [.obj (inviteRecord digest nodeId expiresAt.text)])) := by
  cases checked : checkInvite py moment nodeId ttl with
  | error fault =>
      left
      refine ⟨fault, ?_⟩
      rw [createInvite, checked]
      exact run_bind_error (run_ofExcept _ _) _
  | ok seconds =>
      cases formatted : calendar.iso (moment.issuedAt + seconds * 1000000) with
      | none =>
          left
          refine ⟨.overflowError, ?_⟩
          rw [createInvite, checked, run_bind_ok (run_ofExcept _ _), formatted]
          exact run_bind_error (run_ofOption_none _ _) _
      | some expiresAt =>
          right
          obtain ⟨digest, hashed, ran⟩ := run_createInvite_ok holds isLive checked formatted
          exact ⟨seconds, expiresAt, digest, rfl, formatted, hashed, ran⟩

theorem ascii_of_hashText {text digest : PyStr} (hashed : hashText py text = .ok digest) :
    ∀ c ∈ digest, c.val < 128 := by
  unfold hashText at hashed
  split at hashed
  · cases hashed
    exact fun c member => lt_trans ((py.sha256 _).plain c member).2 (by norm_num)
  · cases hashed

theorem keptCode_inviteRecord {code digest : PyStr} (hashed : hashText py code = .ok digest)
    (nodeId : Json) {instant : Int} {expiresAt : PlainText}
    (formatted : calendar.iso instant = some expiresAt) :
    KeptCode calendar (.obj (inviteRecord digest nodeId expiresAt.text)) :=
  ⟨_, digest, instant, rfl, rfl, ascii_of_hashText hashed, expiresAt.text, rfl,
    calendar.parse_iso formatted⟩

/-- An invite keeps the stores legible. -/
theorem WellKept.createInvite {stores : AuthStores} (wellKept : WellKept calendar stores)
    (moment : InviteMoment) (nodeId ttl : Json) :
    WellKept calendar ((createInvite py calendar moment nodeId ttl).run stores).2 := by
  obtain ⟨store, entries, holds, kept⟩ := wellKept.codes
  obtain ⟨live, isLive, within, -⟩ := liveCodes_eq_ok moment.now kept
  rcases @run_createInvite py calendar _ _ _ _ holds moment isLive nodeId ttl with
    ⟨fault, ran⟩ | ⟨seconds, expiresAt, digest, -, formatted, hashed, ran⟩
  · rw [ran]
    exact wellKept
  · rw [ran]
    refine { wellKept with codes := ⟨_, _, ⟨rfl, Dict.get?_set_self _ _ _⟩, ?_⟩ }
    intro entry member
    rcases List.mem_append.mp member with old | new
    · exact kept entry (within entry old)
    · rw [List.mem_singleton.mp new]
      exact keptCode_inviteRecord hashed nodeId formatted

/-! ## What a join leaves -/

/-- The moment's parser and its texts are the calendar's. -/
structure JoinMoment.OnCalendar (moment : JoinMoment) (calendar : Calendar) : Prop where
  parseIso : moment.parseIso = calendar.parseIso
  tokenExpiresAt : ∃ instant, calendar.iso instant = some moment.tokenExpiresAt

theorem encodable_of_isIdChar {text : PyStr} (idChars : text.all isIdChar = true) : Encodable text :=
  fun c member => CodePoint.toChar?_of_lt
    (lt_trans (ascii_of_isIdChar idChars c member) (by norm_num))

theorem allStrings_certificate (moment : JoinMoment) {nodeId : PyStr} (encodable : Encodable nodeId) :
    (Json.obj (moment.certificate nodeId)).AllStrings Encodable :=
  ⟨encodable_lit _, encodable, encodable_lit _, encodable_of_plain moment.publicKey.plain,
    encodable_lit _, encodable_of_plain moment.issuedAt.plain, encodable_lit _,
    encodable_of_plain moment.expiresAt.plain, encodable_lit _, trivial, encodable_lit _,
    encodable_of_plain moment.signature.plain, trivial⟩

/-- The record of a node can be written wherever the one before it could. -/
theorem allStrings_nodeRecord {moment : JoinMoment} {nodes written : Dict PyStr Json} {nodeId : PyStr}
    (texts : (Json.obj nodes).AllStrings Encodable)
    (record : nodeRecord moment (nodes.get? nodeId) = .ok written) :
    (Json.obj written).AllStrings Encodable := by
  obtain ⟨existing, isObject, rest⟩ := except_bind_eq_ok.mp record
  cases rest
  have existingTexts : (Json.obj existing).AllStrings Encodable := by
    cases found : nodes.get? nodeId with
    | none =>
        rw [found] at isObject
        cases isObject
        trivial
    | some value =>
        rw [found] at isObject
        cases value with
        | obj fields =>
            cases isObject
            exact texts.get? found
        | _ => cases isObject
  have joined : (getOr (lit "joined_at") (.str moment.now.text) existing).AllStrings Encodable := by
    unfold getOr
    cases found : existing.get? (lit "joined_at") with
    | none => exact encodable_of_plain moment.now.plain
    | some value => exact existingTexts.get? found
  exact ⟨encodable_lit _, encodable_lit _, encodable_lit _, joined, encodable_lit _,
    encodable_of_plain moment.now.plain, encodable_lit _, encodable_lit _, encodable_lit _, trivial,
    trivial⟩

theorem nodesOf_eq_ok {state nodes : Dict PyStr Json}
    (found : state.get? (lit "nodes") = some (.obj nodes)) : nodesOf state = .ok nodes := by
  rw [nodesOf, getOr, found]
  rfl

/-- In kept stores everything that a join writes can be stored. -/
theorem WellKept.storable {stores : AuthStores} (wellKept : WellKept calendar stores)
    {moment : JoinMoment} (onCalendar : moment.OnCalendar calendar) {nodeId : PyStr}
    (idChars : nodeId.all isIdChar = true) {nodes : Dict PyStr Json}
    (found : stores.state.get? (lit "nodes") = some (.obj nodes))
    (objects : ∀ nodeId record, nodes.get? nodeId = some record → ∃ fields, record = .obj fields) :
    Storable moment stores nodeId nodes := by
  have encodable := encodable_of_isIdChar idChars
  obtain ⟨store, entries, holds, kept⟩ := wellKept.tokens
  obtain ⟨read, items⟩ := holds.read [(lit "tokens", .arr [])]
  obtain ⟨live, isLive, -⟩ := liveTokens_eq_ok onCalendar.parseIso kept 0
  refine ⟨?_, ⟨(store, live), ?_⟩, ?_⟩
  · exact Json.encodable_canonical
      (wellKept.certificateTexts.set encodable (allStrings_certificate moment encodable))
  · simp only [readTokens, read, items, isLive, bind, Except.bind]
    rfl
  · have isObject : ∃ existing, asDict ((nodes.get? nodeId).getD (.obj [])) = .ok existing := by
      cases existing : nodes.get? nodeId with
      | none => exact ⟨[], rfl⟩
      | some value =>
          obtain ⟨fields, rfl⟩ := objects nodeId value existing
          exact ⟨fields, rfl⟩
    obtain ⟨existing, isExisting⟩ := isObject
    have record : ∃ written, nodeRecord moment (nodes.get? nodeId) = .ok written :=
      ⟨_, except_bind_eq_ok.mpr ⟨existing, isExisting, rfl⟩⟩
    obtain ⟨written, record⟩ := record
    refine ⟨written, record, Json.encodable_canonical ?_⟩
    have nodeTexts : (Json.obj nodes).AllStrings Encodable := wellKept.stateTexts.get? found
    exact wellKept.stateTexts.set (encodable_lit _)
      (nodeTexts.set encodable (allStrings_nodeRecord nodeTexts record))

/-- A join of kept stores changes nothing, or goes through to its last write. -/
theorem run_join_cases {stores : AuthStores} (wellKept : WellKept calendar stores)
    {moment : JoinMoment} (onCalendar : moment.OnCalendar calendar) (nodeId code expiresAt : Json) :
    ((join py moment nodeId code expiresAt).run stores).2 = stores ∨
      ∃ (found : JoinMatch) (digest : PyStr) (store : Dict PyStr Json) (kept : List Json)
        (nodes written : Dict PyStr Json),
        findMatch py moment nodeId code expiresAt stores = .ok found ∧
        checkIssue found.nodeId stores.certificates = .ok () ∧
        readTokens moment stores.tokens = .ok (store, kept) ∧
        stores.state.get? (lit "nodes") = some (.obj nodes) ∧
        nodeRecord moment (nodes.get? found.nodeId) = .ok written ∧
        ((join py moment nodeId code expiresAt).run stores).2 =
          moment.registered found stores store kept digest nodes written := by
  cases matched : findMatch py moment nodeId code expiresAt stores with
  | error fault =>
      left
      rw [run_join_of_refused matched]
  | ok found =>
      rw [run_join_of_match matched]
      obtain ⟨text, others, -, -, -, -, table, fresh⟩ := exists_of_findMatch matched
      cases issued : checkIssue found.nodeId stores.certificates with
      | error fault =>
          left
          have failed : ((issue moment found.nodeId).catching
              fun fault => raise (refuseIdentity fault)).run stores =
                (.error (refuseIdentity fault), stores) := by
            rw [run_catching_raise, run_issue_of_refused issued]
            rfl
          rw [enroll, run_bind_error failed]
      | ok value =>
          right
          obtain ⟨nodes, inState, objects⟩ := wellKept.nodes
          obtain rfl : nodes = others := Except.ok.inj ((nodesOf_eq_ok inState).symm.trans table)
          obtain ⟨digest, store, kept, written, -, tokens, record, ran⟩ :=
            @run_enroll py moment stores found nodes table fresh issued
              (wellKept.storable onCalendar (idChars_of_checkIssue issued) inState objects)
          exact ⟨found, digest, store, kept, nodes, written, rfl, issued, tokens, inState, record,
            by rw [ran]⟩

/-- The entry that a join takes is where it was found. -/
theorem entry_of_findCode {moment : JoinMoment} {nodeId code : PyStr} {expiresAt : Json}
    {start index : Nat} {entries : List Json} {item : Dict PyStr Json}
    (scanned : findCode py moment nodeId code expiresAt start entries = .ok (some (index, item))) :
    entries[index - start]? = some (.obj item) := by
  induction entries generalizing start with
  | nil => cases scanned
  | cons entry rest ih =>
      have taken := scanned
      rw [findCode] at scanned
      obtain ⟨fields, isObject, scanned⟩ := except_bind_eq_ok.mp scanned
      obtain ⟨accepted, -, scanned⟩ := except_bind_eq_ok.mp scanned
      cases accepted with
      | true =>
          cases scanned
          cases entry with
          | obj fields =>
              cases isObject
              rw [Nat.sub_self]
              rfl
          | _ => cases isObject
      | false =>
          have later : findCode py moment nodeId code expiresAt (start + 1) rest =
              .ok (some (index, item)) := by simpa using scanned
          have place := (place_of_findCode later).1
          have shift : index - start = index - (start + 1) + 1 := by omega
          rw [shift, List.getElem?_cons_succ]
          exact ih later

/-- The stores as a join has read them. -/
theorem Holds.of_findMatch {moment : JoinMoment} {nodeId code expiresAt : Json} {stores : AuthStores}
    {store : Dict PyStr Json} {entries : List Json} {found : JoinMatch}
    (holds : Holds (lit "codes") stores.codes store entries)
    (matched : findMatch py moment nodeId code expiresAt stores = .ok found) :
    found.store = store ∧ found.entries = entries ∧
      entries[found.index]? = some (.obj found.item) ∧ ∃ text,
        acceptsItem py moment found.nodeId text expiresAt found.index found.item = .ok true := by
  obtain ⟨text, nodes, -, read, items, scanned, -, -⟩ := exists_of_findMatch matched
  obtain ⟨alsoRead, alsoItems⟩ := holds.read [(lit "codes", .arr [])]
  have sameStore : found.store = store := Except.ok.inj (read.symm.trans alsoRead)
  rw [sameStore] at items
  have sameEntries : found.entries = entries := Except.ok.inj (items.symm.trans alsoItems)
  have entry := entry_of_findCode scanned
  rw [Nat.sub_zero, sameEntries] at entry
  exact ⟨sameStore, sameEntries, entry, text, (place_of_findCode scanned).2.2⟩

theorem expires_set_used {item : Dict PyStr Json} {expiry : Int}
    (expires : Expires calendar item expiry) (usedAt : Json) :
    Expires calendar (item.set (lit "used_at") usedAt) expiry := by
  obtain ⟨text, found, parsed⟩ := expires
  exact ⟨text, by rw [Dict.get?_set_of_ne (by simp), found], parsed⟩

/-- A join keeps the stores legible. -/
theorem WellKept.join {stores : AuthStores} (wellKept : WellKept calendar stores)
    {moment : JoinMoment} (onCalendar : moment.OnCalendar calendar) (nodeId code expiresAt : Json) :
    WellKept calendar ((join py moment nodeId code expiresAt).run stores).2 := by
  rcases run_join_cases wellKept onCalendar nodeId code expiresAt with
    unchanged | ⟨found, digest, store, kept, nodes, written, matched, issuable, tokens, table, record, ran⟩
  · rw [unchanged]
    exact wellKept
  · rw [ran]
    have encodable := encodable_of_isIdChar (idChars_of_checkIssue issuable)
    have nodeTexts : (Json.obj nodes).AllStrings Encodable := wellKept.stateTexts.get? table
    refine ⟨?_, ?_, ?_, ?_, ?_, ?_⟩
    · obtain ⟨store, entries, holds, keptCodes⟩ := wellKept.codes
      obtain ⟨sameStore, sameEntries, entry, -⟩ := holds.of_findMatch matched
      refine ⟨_, _, ⟨rfl, Dict.get?_set_self _ _ _⟩, ?_⟩
      rw [sameEntries]
      intro other member
      rcases List.mem_or_eq_of_mem_set member with old | rfl
      · exact keptCodes other old
      · obtain ⟨item, codeDigest, expiry, same, hash, ascii, expires⟩ :=
          keptCodes _ (List.mem_of_getElem? entry)
        cases same
        refine ⟨_, codeDigest, expiry, rfl, ?_, ascii, expires_set_used expires _⟩
        rw [Dict.get?_set_of_ne (by simp), hash]
    · obtain ⟨tokenStore, entries, holds, keptTokens⟩ := wellKept.tokens
      obtain ⟨read, items⟩ := holds.read [(lit "tokens", .arr [])]
      obtain ⟨live, isLive, within⟩ := liveTokens_eq_ok onCalendar.parseIso keptTokens 0
      have same : (store, kept) = (tokenStore, live) := by
        simp only [readTokens, read, items, isLive, bind, Except.bind] at tokens
        exact (Except.ok.inj tokens).symm
      obtain ⟨rfl, rfl⟩ := Prod.mk.inj same
      refine ⟨_, _, ⟨rfl, Dict.get?_set_self _ _ _⟩, ?_⟩
      intro other member
      rcases List.mem_append.mp member with old | new
      · exact keptTokens other (within other old)
      · rw [List.mem_singleton.mp new]
        obtain ⟨instant, formatted⟩ := onCalendar.tokenExpiresAt
        exact ⟨_, instant, rfl, _, rfl, calendar.parse_iso formatted⟩
    · intro other certificate present
      simp only [JoinMoment.registered, JoinMoment.tokened, JoinMoment.taken, JoinMoment.issued,
        Dict.get?_set] at present
      split at present
      · exact ⟨_, (Option.some.inj present).symm⟩
      · exact wellKept.certificates other certificate present
    · exact wellKept.certificateTexts.set encodable (allStrings_certificate moment encodable)
    · refine ⟨_, Dict.get?_set_self _ _ _, ?_⟩
      intro other value present
      rw [Dict.get?_set] at present
      split at present
      · exact ⟨_, (Option.some.inj present).symm⟩
      · obtain ⟨others, same, objects⟩ := wellKept.nodes
        cases same.symm.trans table
        exact objects other value present
    · exact wellKept.stateTexts.set (encodable_lit _)
        (nodeTexts.set encodable (allStrings_nodeRecord nodeTexts record))

end HermesMesh.Collab
