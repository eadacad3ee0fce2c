import HermesMesh.Collab.Auth.Invite

/-!
# Every invite can be redeemed

The entry of an invite stays in the store until it expires, whatever is invited meanwhile
and whoever else joins: the purge spares it and no other node can take it.  The join it was
made for then finds it.  What is left is `issue`, which accepts fewer identifiers than the
two methods that `_valid_node_id` guards, and no node that has a certificate.
-/

namespace HermesMesh.Collab

open Python Foundation Foundation.Action

variable {py : Platform} {calendar : Calendar}

/-! ## The entry of an invite -/

theorem mem_set_of_ne {α : Type} {values : List α} {kept old new : α} {index : Nat}
    (member : kept ∈ values) (here : values[index]? = some old) (different : old ≠ kept) :
    kept ∈ values.set index new := by
  obtain ⟨place, inside, rfl⟩ := List.getElem_of_mem member
  have elsewhere : index ≠ place := by
    rintro rfl
    rw [List.getElem?_eq_getElem inside, Option.some.injEq] at here
    exact different here.symm
  have still : (values.set index new)[place]? = some values[place] := by
    rw [List.getElem?_set_ne elsewhere, List.getElem?_eq_getElem inside]
  exact List.mem_of_getElem? still

/-- An entry that a join takes is for its node. -/
theorem isFor_of_acceptsItem {moment : JoinMoment} {nodeId code : PyStr} {expiresAt : Json}
    {index : Nat} {item : Dict PyStr Json}
    (accepted : acceptsItem py moment nodeId code expiresAt index item = .ok true) :
    isFor nodeId item = true := by
  unfold acceptsItem at accepted
  split at accepted
  · cases accepted
  obtain ⟨digest, -, accepted⟩ := except_bind_eq_ok.mp accepted
  obtain ⟨same, -, accepted⟩ := except_bind_eq_ok.mp accepted
  split at accepted
  · obtain ⟨valid, -, accepted⟩ := except_bind_eq_ok.mp accepted
    split at accepted
    · next both => exact (Bool.and_eq_true_iff.mp both).2
    · cases accepted
  · cases accepted

/-- The entry waits in the store, and the vault has no record of its node. -/
structure Waits (calendar : Calendar) (stores : AuthStores) (nodeId : PyStr)
    (record : Dict PyStr Json) (certificate : Option Json) : Prop where
  wellKept : WellKept calendar stores
  entry : ∃ store entries, Holds (lit "codes") stores.codes store entries ∧ .obj record ∈ entries
  noRecord : ∀ nodes : Dict PyStr Json, stores.state.get? (lit "nodes") = some (.obj nodes) →
    nodes.get? nodeId = none
  certificate : stores.certificates.get? nodeId = certificate

/-- A call that may come between: an invite before the expiry, or a join of another node. -/
def AuthCall.Elsewhere (calendar : Calendar) (nodeId : Json) (expiry : Int) : AuthCall → Prop
  | .invite moment _ _ => moment.now < expiry
  | .join moment other _ _ => moment.OnCalendar calendar ∧ other ≠ nodeId

section Waiting

variable {stores : AuthStores} {nodeId digest expiresAt : PyStr} {expiry : Int}
  {certificate : Option Json}

/-- The purge of another invite spares the entry. -/
theorem Waits.invite
    (waits : Waits calendar stores nodeId (inviteRecord digest (.str nodeId) expiresAt) certificate)
    (parsed : calendar.parseIso expiresAt = .value expiry) {moment : InviteMoment}
    (early : moment.now < expiry) (other ttl : Json) :
    Waits calendar ((createInvite py calendar moment other ttl).run stores).2 nodeId
      (inviteRecord digest (.str nodeId) expiresAt) certificate := by
  have wellKept := @WellKept.createInvite py calendar _ waits.wellKept moment other ttl
  obtain ⟨store, entries, holds, member⟩ := waits.entry
  obtain ⟨keptStore, keptEntries, keptHolds, kept⟩ := waits.wellKept.codes
  obtain ⟨sameStore, sameEntries⟩ := holds.unique keptHolds
  rw [← sameEntries] at kept
  obtain ⟨live, isLive, -, every⟩ := liveCodes_eq_ok moment.now kept
  have stays := every _ expiry member rfl ⟨expiresAt, rfl, parsed⟩ early
  rcases @run_createInvite py calendar _ _ _ _ holds moment isLive other ttl with
    ⟨fault, ran⟩ | ⟨seconds, formatted, otherDigest, -, -, -, ran⟩
  · rw [ran]
    exact waits
  · rw [ran] at wellKept ⊢
    exact ⟨wellKept, ⟨_, _, ⟨rfl, Dict.get?_set_self _ _ _⟩, List.mem_append_left _ stays⟩,
      waits.noRecord, waits.certificate⟩

/-- A join of another node takes another entry. -/
theorem Waits.join
    (waits : Waits calendar stores nodeId (inviteRecord digest (.str nodeId) expiresAt) certificate)
    {moment : JoinMoment} (onCalendar : moment.OnCalendar calendar) {other : Json}
    (different : other ≠ .str nodeId) (code asked : Json) :
    Waits calendar ((join py moment other code asked).run stores).2 nodeId
      (inviteRecord digest (.str nodeId) expiresAt) certificate := by
  have wellKept := @WellKept.join py calendar _ waits.wellKept _ onCalendar other code asked
  rcases @run_join_cases py calendar _ waits.wellKept _ onCalendar other code asked with
    unchanged | ⟨found, tokenDigest, tokenStore, kept, nodes, written, matched, -, -, table, -, ran⟩
  · rw [unchanged]
    exact waits
  · rw [ran] at wellKept ⊢
    obtain ⟨store, entries, holds, member⟩ := waits.entry
    obtain ⟨-, sameEntries, entry, text, accepted⟩ := holds.of_findMatch matched
    obtain ⟨_, _, arguments, -⟩ := exists_of_findMatch matched
    have elsewhere : nodeId ≠ found.nodeId := by
      rintro rfl
      exact different (nodeId_of_checkArguments arguments).1.1
    have otherEntry : Json.obj found.item ≠ .obj (inviteRecord digest (.str nodeId) expiresAt) := by
      intro same
      have isOurs := isFor_of_acceptsItem accepted
      rw [Json.obj.inj same] at isOurs
      exact elsewhere (eq_of_beq isOurs)
    refine ⟨wellKept, ⟨_, _, ⟨rfl, Dict.get?_set_self _ _ _⟩, ?_⟩, ?_, ?_⟩
    · rw [sameEntries]
      exact mem_set_of_ne member entry otherEntry
    · intro others present
      have isTable : Json.obj (nodes.set found.nodeId (.obj written)) = .obj others :=
        Option.some.inj ((Dict.get?_set_self _ _ _).symm.trans present)
      rw [← Json.obj.inj isTable, Dict.get?_set_of_ne elsewhere]
      exact waits.noRecord nodes table
    · change Dict.get? nodeId (stores.certificates.set found.nodeId _) = certificate
      rw [Dict.get?_set_of_ne elsewhere]
      exact waits.certificate

/-- The entry waits through any calls that may come between. -/
theorem Waits.run
    (waits : Waits calendar stores nodeId (inviteRecord digest (.str nodeId) expiresAt) certificate)
    (parsed : calendar.parseIso expiresAt = .value expiry) {between : List AuthCall}
    (elsewhere : ∀ call ∈ between, call.Elsewhere calendar (.str nodeId) expiry) :
    Waits calendar ((authMachine py calendar).run stores between) nodeId
      (inviteRecord digest (.str nodeId) expiresAt) certificate := by
  apply Machine.run_invariant (fun _ (call : AuthCall) => call.Elsewhere calendar (.str nodeId) expiry)
    (fun stores => Waits calendar stores nodeId (inviteRecord digest (.str nodeId) expiresAt)
      certificate) _ waits ((authMachine py calendar).allowed_const.mpr elsewhere)
  intro stores call waits permitted
  cases call with
  | invite moment other ttl => exact waits.invite parsed permitted other ttl
  | join moment other code asked => exact waits.join permitted.1 permitted.2 code asked

end Waiting

/-! ## The join that redeems it -/

/-- A request for an expiry that a join can read, or none. -/
def ReadableRequest (calendar : Calendar) (asked : Json) : Prop :=
  asked = .null ∨ ∃ text instant, asked = .str text ∧ calendar.parseIso text = .value instant

section Redeeming

variable {moment : JoinMoment} {nodeId code : PyStr} {asked : Json}

theorem fitsRequest_eq_ok (sameParser : moment.parseIso = calendar.parseIso)
    (readable : ReadableRequest calendar asked) {item : Dict PyStr Json} {expiry : Int}
    (expires : Expires calendar item expiry) (now : Int) :
    ∃ fits, fitsRequest moment now asked item = .ok fits := by
  unfold fitsRequest
  split
  · next given =>
      rcases readable with rfl | ⟨text, instant, rfl, parsed⟩
      · cases given
      · simp only [JoinMoment.instant, sameParser, parsed, expiry_eq_ok sameParser expires]
        split
        · exact ⟨false, rfl⟩
        · exact ⟨_, rfl⟩
  · exact ⟨true, rfl⟩

/-- A kept entry is passed or taken. -/
theorem acceptsItem_eq_ok (sameParser : moment.parseIso = calendar.parseIso)
    (readable : ReadableRequest calendar asked) {codeDigest : PyStr}
    (hashed : hashText py code = .ok codeDigest) {entry : Json} (kept : KeptCode calendar entry) :
    ∃ item, entry = .obj item ∧ ∀ index, ∃ accepted,
      acceptsItem py moment nodeId code asked index item = .ok accepted := by
  obtain ⟨item, digest, expiry, rfl, hash, ascii, expires⟩ := kept
  refine ⟨item, rfl, fun index => ?_⟩
  unfold acceptsItem
  split
  · exact ⟨false, rfl⟩
  · have isText : getOr (lit "code_hash") (.str []) item = .str digest := by rw [getOr, hash]; rfl
    have unexpired : isUnexpired moment (moment.clock index).1 item =
        .ok (decide ((moment.clock index).1 < expiry)) := by
      rw [isUnexpired, expiry_eq_ok sameParser expires]
    simp only [hashed, hash_of_compareDigest isText ascii, unexpired, bind, Except.bind]
    split
    · split
      · exact fitsRequest_eq_ok sameParser readable expires _
      · exact ⟨false, rfl⟩
    · exact ⟨false, rfl⟩

/-- The entry of the invite is taken by the join of its node before its expiry. -/
theorem acceptsItem_inviteRecord (sameParser : moment.parseIso = calendar.parseIso)
    {digest expiresAt : PyStr} (hashed : hashText py code = .ok digest) {expiry : Int}
    (parsed : calendar.parseIso expiresAt = .value expiry)
    (early : ∀ index, (moment.clock index).1 < expiry ∧ (moment.clock index).2 < expiry)
    (asks : asked = .null ∨ asked = .str expiresAt) (index : Nat) :
    acceptsItem py moment nodeId code asked index (inviteRecord digest (.str nodeId) expiresAt) =
      .ok true := by
  have expires : Expires calendar (inviteRecord digest (.str nodeId) expiresAt) expiry :=
    ⟨expiresAt, rfl, parsed⟩
  have read := expiry_eq_ok sameParser expires
  have isText : getOr (lit "code_hash") (.str []) (inviteRecord digest (.str nodeId) expiresAt) =
      .str digest := rfl
  have isOurs : isFor nodeId (inviteRecord digest (.str nodeId) expiresAt) = true :=
    beq_self_eq_true nodeId
  have unused : (getOr (lit "used_at") .null
      (inviteRecord digest (.str nodeId) expiresAt)).truthy = false := rfl
  have fits : fitsRequest moment (moment.clock index).2 asked
      (inviteRecord digest (.str nodeId) expiresAt) = .ok true := by
    unfold fitsRequest
    split
    · next given =>
        rcases asks with rfl | rfl
        · cases given
        · simp only [JoinMoment.instant, sameParser, parsed, read,
            if_neg (not_le.mpr (early index).2), bind, Except.bind, beq_self_eq_true]
          rfl
    · rfl
  unfold acceptsItem
  simp only [unused, Bool.false_eq_true, if_false, hashed, hash_of_compareDigest isText (ascii_of_hashText hashed),
    beq_self_eq_true, if_true, isUnexpired, read, decide_eq_true (early index).1, isOurs, Bool.and_self,
    fits, bind, Except.bind]

/-- Among entries that can be read, one that is taken is found, or another before it. -/
theorem exists_findCode {entries : List Json}
    (legible : ∀ entry ∈ entries, ∃ item, entry = .obj item ∧ ∀ index, ∃ accepted,
      acceptsItem py moment nodeId code asked index item = .ok accepted)
    {item : Dict PyStr Json} (member : .obj item ∈ entries)
    (taken : ∀ index, acceptsItem py moment nodeId code asked index item = .ok true) (start : Nat) :
    ∃ found, findCode py moment nodeId code asked start entries = .ok (some found) := by
  induction entries generalizing start with
  | nil => cases member
  | cons entry rest ih =>
      obtain ⟨first, rfl, outcome⟩ := legible _ List.mem_cons_self
      obtain ⟨accepted, accepts⟩ := outcome start
      cases accepted with
      | true =>
          refine ⟨(start, first), ?_⟩
          simp only [findCode, asDict, accepts, bind, Except.bind]
          rfl
      | false =>
          rcases List.mem_cons.mp member with same | later
          · cases same
            rw [taken start] at accepts
            cases accepts
          · obtain ⟨found, isFound⟩ := ih
              (fun other inRest => legible other (List.mem_cons_of_mem _ inRest)) later (start + 1)
            refine ⟨found, ?_⟩
            simp only [findCode, asDict, accepts, bind, Except.bind]
            exact isFound

end Redeeming

/-- No certificate of the node stands in the way of another. -/
def Reissuable (nodeId : PyStr) (certificates : Dict PyStr Json) : Prop :=
  ∀ certificate, certificates.get? nodeId = some (.obj certificate) →
    (getOr (lit "revoked") .null certificate).truthy = true

theorem checkIssue_eq_ok_iff {nodeId : PyStr} {certificates : Dict PyStr Json} (some : nodeId ≠ [])
    (objects : ∀ nodeId certificate, certificates.get? nodeId = .some certificate →
      ∃ fields, certificate = .obj fields) :
    checkIssue nodeId certificates = .ok () ↔
      nodeId.all isIdChar = true ∧ Reissuable nodeId certificates := by
  have notEmpty : nodeId.isEmpty = false := by simpa using some
  unfold checkIssue Reissuable
  by_cases chars : nodeId.all isIdChar = true
  · simp only [notEmpty, chars, Bool.not_true, Bool.or_self, Bool.false_eq_true, if_false, true_and]
    cases found : certificates.get? nodeId with
    | none => simp
    | some certificate =>
        obtain ⟨fields, rfl⟩ := objects nodeId certificate found
        simp only [asDict, bind, Except.bind]
        split
        · next revoked =>
            refine iff_of_true rfl fun other same => ?_
            cases same
            exact revoked
        · next live =>
            apply iff_of_false
            · intro issued
              cases issued
            · intro every
              exact live (every fields rfl)
  · simp [chars]

section Outcome

variable {stores : AuthStores} {nodeId digest expiresAt code : PyStr} {expiry : Int}
  {certificate : Option Json} {moment : JoinMoment} {asked : Json}

/-- The join of the node finds an entry, its own or another one that it may take. -/
theorem Waits.exists_findMatch
    (waits : Waits calendar stores nodeId (inviteRecord digest (.str nodeId) expiresAt) certificate)
    (valid : validNodeId py nodeId = true) (some : code ≠ []) (hashed : hashText py code = .ok digest)
    (parsed : calendar.parseIso expiresAt = .value expiry) (sameParser : moment.parseIso = calendar.parseIso)
    (early : ∀ index, (moment.clock index).1 < expiry ∧ (moment.clock index).2 < expiry)
    (asks : asked = .null ∨ asked = .str expiresAt) :
    ∃ found, findMatch py moment (.str nodeId) (.str code) asked stores = .ok found ∧
      found.nodeId = nodeId := by
  obtain ⟨store, entries, holds, member⟩ := waits.entry
  obtain ⟨keptStore, keptEntries, keptHolds, kept⟩ := waits.wellKept.codes
  obtain ⟨-, sameEntries⟩ := holds.unique keptHolds
  rw [← sameEntries] at kept
  obtain ⟨read, items⟩ := holds.read [(lit "codes", .arr [])]
  have readable : ReadableRequest calendar asked :=
    asks.imp_right fun same => ⟨expiresAt, expiry, same, parsed⟩
  have legible : ∀ entry ∈ entries, ∃ item, entry = .obj item ∧ ∀ index, ∃ accepted,
      acceptsItem py moment nodeId code asked index item = .ok accepted :=
    fun entry inStore => acceptsItem_eq_ok sameParser readable hashed (kept entry inStore)
  obtain ⟨⟨index, item⟩, scanned⟩ := exists_findCode legible member
    (acceptsItem_inviteRecord sameParser hashed parsed early asks) 0
  obtain ⟨nodes, inState, -⟩ := waits.wellKept.nodes
  have arguments : checkArguments py (.str nodeId) (.str code) = .ok (nodeId, code) := by
    have notEmpty : code.isEmpty = false := by simpa using some
    rw [checkArguments, valid, notEmpty]
    rfl
  refine ⟨⟨nodeId, store, entries, index, item⟩, ?_, rfl⟩
  simp only [findMatch, arguments, read, items, scanned, nodesOf_eq_ok inState,
    waits.noRecord nodes inState, bind, Except.bind]
  rfl

/-- The join succeeds just when `issue` does. -/
theorem Waits.redeems_iff
    (waits : Waits calendar stores nodeId (inviteRecord digest (.str nodeId) expiresAt) certificate)
    (valid : validNodeId py nodeId = true) (some : code ≠ []) (hashed : hashText py code = .ok digest)
    (parsed : calendar.parseIso expiresAt = .value expiry) (onCalendar : moment.OnCalendar calendar)
    (early : ∀ index, (moment.clock index).1 < expiry ∧ (moment.clock index).2 < expiry)
    (asks : asked = .null ∨ asked = .str expiresAt) :
    (∃ credentials, ((Collab.join py moment (.str nodeId) (.str code) asked).run stores).1 =
        .ok credentials) ↔
      checkIssue nodeId stores.certificates = .ok () := by
  obtain ⟨found, matched, rfl⟩ := waits.exists_findMatch valid some hashed parsed onCalendar.parseIso
    early asks
  obtain ⟨_, others, -, -, -, -, table, fresh⟩ := exists_of_findMatch matched
  obtain ⟨nodes, inState, objects⟩ := waits.wellKept.nodes
  obtain rfl : nodes = others := Except.ok.inj ((nodesOf_eq_ok inState).symm.trans table)
  rw [run_join_of_match matched]
  cases issued : checkIssue found.nodeId stores.certificates with
  | error fault =>
      have failed : ((issue moment found.nodeId).catching
          fun fault => raise (refuseIdentity fault)).run stores =
            (.error (refuseIdentity fault), stores) := by
        rw [run_catching_raise, run_issue_of_refused issued]
        rfl
      refine iff_of_false ?_ nofun
      rintro ⟨credentials, succeeds⟩
      rw [enroll, run_bind_error failed] at succeeds
      cases succeeds
  | ok value =>
      obtain ⟨_, _, _, _, -, -, -, ran⟩ := @run_enroll py moment stores found nodes table fresh issued
        (waits.wellKept.storable onCalendar (idChars_of_checkIssue issued) inState objects)
      exact iff_of_true ⟨_, congrArg Prod.fst ran⟩ rfl

end Outcome

/-! ## An invite of a new mesh -/

/-- A calendar of two instants. -/
def Calendar.sample : Calendar where
  iso := fun instant =>
    if instant = 300000000 then some ⟨lit "1970-01-01T00:05:00+00:00", isPlain_lit _ (by decide)⟩
    else if instant = 86400000000 then
      some ⟨lit "1970-01-02T00:00:00+00:00", isPlain_lit _ (by decide)⟩
    else none
  parseIso := fun text =>
    if text = lit "1970-01-01T00:05:00+00:00" then .value 300000000
    else if text = lit "1970-01-02T00:00:00+00:00" then .value 86400000000
    else .valueError
  parse_iso := by
    intro instant text formatted
    split at formatted
    · next first =>
        cases formatted
        rw [first]
        rfl
    · split at formatted
      · next second =>
          cases formatted
          rw [second, if_neg (by decide), if_pos rfl]
      · cases formatted

def InviteMoment.sample : InviteMoment where
  issuedAt := 0
  now := 0
  code := ⟨lit "c0de", isPlain_lit _ (by decide)⟩
  codeNonempty := by decide
  intOfText := fun _ => none

/-- A join one second after the invite. -/
def JoinMoment.sample : JoinMoment :=
  { JoinMoment.early with
    parseIso := Calendar.sample.parseIso
    clock := fun _ => (1000000, 1000000)
    tokenExpiresAt := ⟨lit "1970-01-02T00:00:00+00:00", isPlain_lit _ (by decide)⟩ }

theorem JoinMoment.onCalendar_sample : JoinMoment.sample.OnCalendar .sample :=
  ⟨rfl, 86400000000, rfl⟩

theorem JoinMoment.early_sample (index : Nat) :
    (JoinMoment.sample.clock index).1 < 300000000 ∧ (JoinMoment.sample.clock index).2 < 300000000 := by
  change (1000000 : Int) < 300000000 ∧ (1000000 : Int) < 300000000
  decide

/-- An invite of a new mesh for five minutes. -/
theorem run_createInvite_fresh {nodeId : Json} (may : mayInvite py nodeId = true) :
    ∃ invited, (createInvite py .sample .sample nodeId (.int 300)).run .fresh =
      (.ok ⟨lit "c0de", lit "1970-01-01T00:05:00+00:00", nodeId⟩, invited) := by
  have checked : checkInvite py .sample nodeId (.int 300) = .ok 300 := by
    rw [checkInvite, if_pos may]
    rfl
  obtain ⟨digest, -, ran⟩ := @run_createInvite_ok py .sample .fresh
    [(lit "codes", .arr [])] [] [] ⟨rfl, rfl⟩ .sample rfl _ _ _ checked
    ⟨lit "1970-01-01T00:05:00+00:00", isPlain_lit _ (by decide)⟩ rfl
  exact ⟨_, ran⟩

/-! ## Redeeming every invite -/

/-- What `issue` accepts: a text of its characters, without a certificate that it has not
revoked. -/
def Issuable (nodeId : Json) (certificates : Dict PyStr Json) : Prop :=
  ∃ text, nodeId = .str text ∧ text.all isIdChar = true ∧ Reissuable text certificates

theorem nonempty_of_validNodeId {nodeId : PyStr} (valid : validNodeId py nodeId = true) :
    nodeId ≠ [] := by
  rintro rfl
  cases valid

/-- An invite that was made has checked its node. -/
theorem mayInvite_of_checkInvite {moment : InviteMoment} {nodeId ttl : Json} {seconds : Int}
    (checked : checkInvite py moment nodeId ttl = .ok seconds) : mayInvite py nodeId = true := by
  unfold checkInvite at checked
  split at checked
  · next may => exact may
  · cases checked

/-- The entry of an invite waits from then on, for a node that `_valid_node_id` accepts. -/
theorem waits_of_createInvite {stores : AuthStores} (wellKept : WellKept calendar stores)
    {invite : InviteMoment} {nodeId : PyStr} {ttl : Json} {given : Invite} {invited : AuthStores}
    (created : (createInvite py calendar invite (.str nodeId) ttl).run stores = (.ok given, invited))
    (noRecord : ∀ nodes : Dict PyStr Json, stores.state.get? (lit "nodes") = some (.obj nodes) →
      nodes.get? nodeId = none) :
    validNodeId py nodeId = true ∧ given.code ≠ [] ∧
      ∃ digest, hashText py given.code = .ok digest ∧
        Waits calendar invited nodeId (inviteRecord digest (.str nodeId) given.expiresAt)
          (stores.certificates.get? nodeId) := by
  obtain ⟨store, entries, holds, kept⟩ := wellKept.codes
  obtain ⟨live, isLive, -⟩ := liveCodes_eq_ok invite.now kept
  have stillKept := @WellKept.createInvite py calendar _ wellKept invite (.str nodeId) ttl
  rcases @run_createInvite py calendar _ _ _ _ holds invite isLive (.str nodeId) ttl with
    ⟨fault, ran⟩ | ⟨seconds, expiresAt, digest, checked, -, hashed, ran⟩
  · rw [ran] at created
    cases created
  · rw [ran] at created stillKept
    cases created
    refine ⟨mayInvite_of_checkInvite checked, invite.codeNonempty, digest, hashed, stillKept, ?_,
      noRecord, rfl⟩
    exact ⟨_, _, ⟨rfl, Dict.get?_set_self _ _ _⟩,
      List.mem_append_right _ (List.mem_singleton_self _)⟩

/-- A join needs a text as the node. -/
theorem join_fails_of_not_text {nodeId : Json} (notText : ∀ text, nodeId ≠ .str text)
    (moment : JoinMoment) (code : PyStr) (asked : Json) (stores : AuthStores) :
    ¬∃ credentials, ((join py moment nodeId (.str code) asked).run stores).1 = .ok credentials := by
  rintro ⟨credentials, succeeds⟩
  have refused : findMatch py moment nodeId (.str code) asked stores =
      .error (.authError "invalid or expired code") := by
    cases nodeId with
    | str text => exact absurd rfl (notText text)
    | _ => rfl
  rw [run_join_of_refused refused] at succeeds
  cases succeeds

/-- An invite for a node that the vault does not know is redeemed by the join of the node
before the expiry just when `issue` accepts the node. -/
theorem invite_redeemable_iff {stores : AuthStores} (wellKept : WellKept calendar stores)
    {invite : InviteMoment} {nodeId ttl : Json} {given : Invite} {invited : AuthStores}
    (created : (createInvite py calendar invite nodeId ttl).run stores = (.ok given, invited))
    (noRecord : ∀ (text : PyStr) (nodes : Dict PyStr Json), nodeId = .str text →
      stores.state.get? (lit "nodes") = some (.obj nodes) → nodes.get? text = none)
    {expiry : Int} (parsed : calendar.parseIso given.expiresAt = .value expiry)
    {between : List AuthCall} (elsewhere : ∀ call ∈ between, call.Elsewhere calendar nodeId expiry)
    {moment : JoinMoment} (onCalendar : moment.OnCalendar calendar)
    (early : ∀ index, (moment.clock index).1 < expiry ∧ (moment.clock index).2 < expiry)
    {asked : Json} (asks : asked = .null ∨ asked = .str given.expiresAt) :
    (∃ credentials, ((join py moment nodeId (.str given.code) asked).run
        ((authMachine py calendar).run invited between)).1 = .ok credentials) ↔
      Issuable nodeId stores.certificates := by
  by_cases isText : ∃ text, nodeId = .str text
  · obtain ⟨text, rfl⟩ := isText
    obtain ⟨valid, codeNonempty, digest, hashed, waits⟩ := waits_of_createInvite wellKept created
      fun nodes => noRecord text nodes rfl
    have later := @Waits.run py calendar _ _ _ _ _ _ waits parsed between elsewhere
    have sameCertificate : Reissuable text
        ((authMachine py calendar).run invited between).certificates ↔
          Reissuable text stores.certificates := by
      unfold Reissuable
      rw [later.certificate]
    have issuable : Issuable (.str text) stores.certificates ↔
        text.all isIdChar = true ∧ Reissuable text stores.certificates := by
      simp [Issuable]
    rw [later.redeems_iff valid codeNonempty hashed parsed onCalendar early asks,
      checkIssue_eq_ok_iff (nonempty_of_validNodeId valid) later.wellKept.certificates,
      sameCertificate, issuable]
  · have notText : ∀ text, nodeId ≠ .str text := fun text same => isText ⟨text, same⟩
    refine iff_of_false (join_fails_of_not_text notText _ _ _ _) ?_
    rintro ⟨text, same, -⟩
    exact notText text same

theorem invite_redeemable_bob :
    ∃ invited, (createInvite Platform.plain .sample .sample (.str (lit "bob")) (.int 300)).run .fresh =
        (.ok ⟨lit "c0de", lit "1970-01-01T00:05:00+00:00", .str (lit "bob")⟩, invited) ∧
      ((∃ credentials, ((join Platform.plain .sample (.str (lit "bob")) (.str (lit "c0de"))
          (.str (lit "1970-01-01T00:05:00+00:00"))).run
            ((authMachine Platform.plain .sample).run invited [.invite .sample .null (.int 300)])).1 =
          .ok credentials) ↔
        Issuable (.str (lit "bob")) []) := by
  obtain ⟨invited, created⟩ :=
    @run_createInvite_fresh Platform.plain (.str (lit "bob")) (by decide)
  refine ⟨invited, created, ?_⟩
  apply invite_redeemable_iff (wellKept_fresh .sample) created _ rfl _
    JoinMoment.onCalendar_sample JoinMoment.early_sample (.inr rfl)
  · intro text nodes _ table
    cases table
    rfl
  · intro call member
    rw [List.mem_singleton.mp member]
    change (0 : Int) < 300000000
    decide

/-- Unicode data that knows one letter beyond ASCII. -/
def UnicodeData.withLetter : UnicodeData :=
  { UnicodeData.ascii with
    isAlnum := fun c => if c.val < 128 then asciiAlnum c else c.val == 241
    isAlnum_ascii := fun _ small => if_pos small }

/-- The node `niño` can be invited and the invite cannot be redeemed: `issue` refuses the
letter that `_valid_node_id` accepts. -/
theorem invite_not_redeemable :
    let py := { Platform.plain with unicode := UnicodeData.withLetter }
    ∃ invited, (createInvite py .sample .sample (.str (lit "niño")) (.int 300)).run .fresh =
        (.ok ⟨lit "c0de", lit "1970-01-01T00:05:00+00:00", .str (lit "niño")⟩, invited) ∧
      Calendar.sample.parseIso (lit "1970-01-01T00:05:00+00:00") = .value 300000000 ∧
      (JoinMoment.sample.clock 0).2 < 300000000 ∧
      ¬∃ credentials, ((join py .sample (.str (lit "niño")) (.str (lit "c0de")) .null).run
        invited).1 = .ok credentials := by
  intro py
  obtain ⟨invited, created⟩ := @run_createInvite_fresh py (.str (lit "niño")) (by decide)
  have noRecord : ∀ nodes : Dict PyStr Json,
      AuthStores.fresh.state.get? (lit "nodes") = some (.obj nodes) →
        nodes.get? (lit "niño") = none := by
    intro nodes table
    cases table
    rfl
  obtain ⟨valid, codeNonempty, digest, hashed, waits⟩ :=
    waits_of_createInvite (wellKept_fresh .sample) created noRecord
  refine ⟨invited, created, rfl, by decide, ?_⟩
  rw [waits.redeems_iff valid codeNonempty hashed rfl JoinMoment.onCalendar_sample
    JoinMoment.early_sample (.inl rfl), checkIssue_eq_ok_iff (by decide) waits.wellKept.certificates]
  rintro ⟨idChars, -⟩
  revert idChars
  decide

end HermesMesh.Collab
