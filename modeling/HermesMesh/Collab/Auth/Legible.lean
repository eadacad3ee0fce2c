import HermesMesh.Collab.Auth.Join

/-!
# What a join can read

The loop of `join` stops at the first entry it takes, so only the entries up to that
one have to be legible, and of each only the values that its checks come to.  The
conditions of this module say what those are, on the stores and the arguments; the
lemmas say that the checks raise nothing but `AuthError` exactly where they hold.
-/

namespace HermesMesh.Collab

open Python Foundation

variable {α β : Type}

/-- Nothing but `AuthError` is raised. -/
def OnlyAuthErrors (result : Except AuthFault α) : Prop :=
  ∀ fault, result = .error fault → fault.isAuthError = true

@[simp] theorem onlyAuthErrors_ok (value : α) : OnlyAuthErrors (.ok value) := by
  intro fault failed
  cases failed

@[simp] theorem onlyAuthErrors_error (fault : AuthFault) :
    OnlyAuthErrors (.error fault : Except AuthFault α) ↔ fault.isAuthError = true := by
  constructor
  · intro only
    exact only fault rfl
  · intro refused other failed
    cases failed
    exact refused

@[simp] theorem onlyAuthErrors_pure (value : α) : OnlyAuthErrors (pure value : Except AuthFault α) :=
  onlyAuthErrors_ok value

theorem onlyAuthErrors_bind (result : Except AuthFault α) (next : α → Except AuthFault β) :
    OnlyAuthErrors (result >>= next) ↔
      OnlyAuthErrors result ∧ ∀ value, result = .ok value → OnlyAuthErrors (next value) := by
  cases result with
  | error fault => simp [bind, Except.bind]
  | ok value => simp [bind, Except.bind]

/-! ## What the stores and the arguments have to be -/

/-- A text that Python reads as an instant that it can hold, or not at all. -/
def LegibleInstant (moment : JoinMoment) (value : Json) : Prop :=
  ∃ text, value = .str text ∧ moment.parseIso text ≠ .overflowError

/-- An entry that the loop of `join` can pass or stop at: used, or with an ASCII hash
and, where that is the hash of the code, with instants that are legible. -/
def LegibleEntry (py : Platform) (moment : JoinMoment) (nodeId code : PyStr) (expiresAt : Json)
    (index : Nat) (item : Dict PyStr Json) : Prop :=
  (getOr (lit "used_at") .null item).truthy = true ∨
    ∃ digest hash, hashText py code = .ok digest ∧
      getOr (lit "code_hash") (.str []) item = .str hash ∧ (∀ c ∈ hash, c.val < 128) ∧
      (hash = digest →
        (∀ value, item.get? (lit "expires_at") = some value → LegibleInstant moment value) ∧
        (isUnexpired moment (moment.clock index).1 item = .ok true → isFor nodeId item = true →
          expiresAt.truthy = true → LegibleInstant moment expiresAt))

/-- The entries up to the first that `join` takes are objects that it can read. -/
def LegibleEntries (py : Platform) (moment : JoinMoment) (nodeId code : PyStr) (expiresAt : Json) :
    (index : Nat) → List Json → Prop
  | _, [] => True
  | index, entry :: rest =>
      ∃ item, entry = .obj item ∧ LegibleEntry py moment nodeId code expiresAt index item ∧
        (acceptsItem py moment nodeId code expiresAt index item = .ok false →
          LegibleEntries py moment nodeId code expiresAt (index + 1) rest)

/-- Both files that hold plain text can be written and the token store can be read, so
that nothing fails after the first write. -/
structure Storable (moment : JoinMoment) (stores : AuthStores) (nodeId : PyStr)
    (nodes : Dict PyStr Json) : Prop where
  certificates :
    Encodable (plainText (stores.certificates.set nodeId (.obj (moment.certificate nodeId))))
  tokens : ∃ kept, readTokens moment stores.tokens = .ok kept
  node : ∃ record, nodeRecord moment (nodes.get? nodeId) = .ok record ∧
    Encodable (plainText (stores.state.set (lit "nodes") (.obj (nodes.set nodeId (.obj record)))))

/-- The table of nodes is one, and where the node is new to it, the certificate it may
have had is an object; where that leaves it to be issued a new one, all of it can be
stored. -/
def LegibleNode (moment : JoinMoment) (stores : AuthStores) (nodeId : PyStr) : Prop :=
  ∃ nodes, nodesOf stores.state = .ok nodes ∧
    (((nodes.get? nodeId).getD .null).truthy = false → nodeId.all isIdChar = true →
      (∀ certificate, stores.certificates.get? nodeId = some certificate →
        ∃ fields, certificate = .obj fields) ∧
      (checkIssue nodeId stores.certificates = .ok () → Storable moment stores nodeId nodes))

/-- The codes can be read as far as `join` reads them and, where it takes one, so can
what it needs of the other stores. -/
def JoinSettles (py : Platform) (moment : JoinMoment) (nodeId code expiresAt : Json)
    (stores : AuthStores) : Prop :=
  ∀ id text, checkArguments py nodeId code = .ok (id, text) →
    stores.codes ≠ .beyondLimits ∧
    ∀ store, readStore [(lit "codes", .arr [])] stores.codes = .ok store →
      ∃ entries, iterate (getOr (lit "codes") (.arr []) store) = .ok entries ∧
        LegibleEntries py moment id text expiresAt 0 entries ∧
        ∀ taken, findCode py moment id text expiresAt 0 entries = .ok (some taken) →
          LegibleNode moment stores id

/-! ## The checks -/

theorem onlyAuthErrors_asDict (value : Json) :
    OnlyAuthErrors (asDict value) ↔ ∃ fields, value = .obj fields := by
  cases value <;> simp [asDict, AuthFault.isAuthError]

theorem onlyAuthErrors_iterate (value : Json) :
    OnlyAuthErrors (iterate value) ↔ ∃ items, iterate value = .ok items := by
  cases value <;> simp [iterate, AuthFault.isAuthError]

theorem onlyAuthErrors_readStore (default : Dict PyStr Json) (file : StoreFile) :
    OnlyAuthErrors (readStore default file) ↔ file ≠ .beyondLimits := by
  unfold readStore
  split <;> simp [AuthFault.isAuthError]

theorem onlyAuthErrors_hashText (py : Platform) (text : PyStr) :
    OnlyAuthErrors (hashText py text) ↔ ∃ digest, hashText py text = .ok digest := by
  unfold hashText
  split <;> simp [AuthFault.isAuthError]

theorem onlyAuthErrors_compareDigest (value : Json) (digest : PyStr) :
    OnlyAuthErrors (compareDigest value digest) ↔
      ∃ text, value = .str text ∧ ∀ c ∈ text, c.val < 128 := by
  cases value with
  | str text =>
      by_cases ascii : ∀ c ∈ text, c.val < 128
      · have all : text.all (fun c => c.val < 128) = true := by simpa using ascii
        simp [compareDigest, all]
        exact ascii
      · have notAll : text.all (fun c => c.val < 128) = false := by
          simpa [List.all_eq_false] using ascii
        simp [compareDigest, notAll, ascii, AuthFault.isAuthError]
  | _ => simp [compareDigest, AuthFault.isAuthError]

/-- What an instant raises is caught, except that it is no text or out of range. -/
theorem instant_cases (moment : JoinMoment) (value : Json) :
    (LegibleInstant moment value ∧
        ((∃ result, moment.instant value = .ok result) ∨ moment.instant value = .error .valueError)) ∨
      ¬LegibleInstant moment value ∧
        (moment.instant value = .error .attributeError ∨
          moment.instant value = .error .overflowError) := by
  cases value with
  | str text =>
      cases parsed : moment.parseIso text <;>
        simp [JoinMoment.instant, LegibleInstant, parsed]
  | _ => simp [JoinMoment.instant, LegibleInstant]

theorem onlyAuthErrors_isUnexpired (moment : JoinMoment) (now : Int) (item : Dict PyStr Json) :
    OnlyAuthErrors (isUnexpired moment now item) ↔
      ∀ value, item.get? (lit "expires_at") = some value → LegibleInstant moment value := by
  unfold isUnexpired JoinMoment.expiry
  cases item.get? (lit "expires_at") with
  | none => simp
  | some value =>
      rcases instant_cases moment value with ⟨legible, ⟨result, ok⟩ | failed⟩ | ⟨illegible, failed | failed⟩
      · simp [ok, legible]
      · simp [failed, legible]
      · simp [failed, illegible, AuthFault.isAuthError]
      · simp [failed, illegible, AuthFault.isAuthError]

theorem expiry_of_isUnexpired {moment : JoinMoment} {now : Int} {item : Dict PyStr Json}
    (unexpired : isUnexpired moment now item = .ok true) : ∃ expiry, moment.expiry item = .ok expiry := by
  unfold isUnexpired at unexpired
  split at unexpired
  · next expiry found => exact ⟨expiry, found⟩
  all_goals cases unexpired

theorem onlyAuthErrors_fitsRequest {moment : JoinMoment} {item : Dict PyStr Json} {expiry : Int}
    (found : moment.expiry item = .ok expiry) (now : Int) (expiresAt : Json) :
    OnlyAuthErrors (fitsRequest moment now expiresAt item) ↔
      (expiresAt.truthy = true → LegibleInstant moment expiresAt) := by
  unfold fitsRequest
  by_cases asked : expiresAt.truthy = true
  · rw [if_pos asked]
    rcases instant_cases moment expiresAt with
      ⟨legible, ⟨result, ok⟩ | failed⟩ | ⟨illegible, failed | failed⟩
    · simp only [ok, found, legible, implies_true, iff_true]
      split
      · exact onlyAuthErrors_ok _
      · exact onlyAuthErrors_pure _
    · simp [failed, legible]
    · simp [failed, illegible, asked, AuthFault.isAuthError]
    · simp [failed, illegible, asked, AuthFault.isAuthError]
  · simp [asked]

theorem hash_of_compareDigest {value : Json} {digest text : PyStr} (isText : value = .str text)
    (ascii : ∀ c ∈ text, c.val < 128) : compareDigest value digest = .ok (text == digest) := by
  have all : text.all (fun c => c.val < 128) = true := by simpa using ascii
  simp [isText, compareDigest, all]

theorem onlyAuthErrors_acceptsItem (py : Platform) (moment : JoinMoment) (nodeId code : PyStr)
    (expiresAt : Json) (index : Nat) (item : Dict PyStr Json) :
    OnlyAuthErrors (acceptsItem py moment nodeId code expiresAt index item) ↔
      LegibleEntry py moment nodeId code expiresAt index item := by
  unfold acceptsItem LegibleEntry
  by_cases used : (getOr (lit "used_at") .null item).truthy = true
  · simp [used]
  rw [if_neg used, onlyAuthErrors_bind, onlyAuthErrors_hashText]
  simp only [used, Bool.false_eq_true, false_or]
  constructor
  · rintro ⟨⟨digest, hashed⟩, rest⟩
    obtain ⟨compares, rest⟩ := (onlyAuthErrors_bind _ _).mp (rest digest hashed)
    obtain ⟨hash, isText, ascii⟩ := (onlyAuthErrors_compareDigest _ _).mp compares
    refine ⟨digest, hash, hashed, isText, ascii, ?_⟩
    intro same
    have rest := rest _ (hash_of_compareDigest isText ascii)
    rw [if_pos (by simp [same]), onlyAuthErrors_bind, onlyAuthErrors_isUnexpired] at rest
    obtain ⟨legible, rest⟩ := rest
    refine ⟨legible, ?_⟩
    intro unexpired isOwn
    have rest := rest true unexpired
    rw [if_pos (by simp [isOwn])] at rest
    obtain ⟨expiry, found⟩ := expiry_of_isUnexpired unexpired
    exact (onlyAuthErrors_fitsRequest found _ _).mp rest
  · rintro ⟨digest, hash, hashed, isText, ascii, rest⟩
    refine ⟨⟨digest, hashed⟩, ?_⟩
    intro other hashedOther
    obtain rfl : digest = other := Except.ok.inj (hashed.symm.trans hashedOther)
    rw [onlyAuthErrors_bind, onlyAuthErrors_compareDigest, hash_of_compareDigest isText ascii]
    refine ⟨⟨hash, isText, ascii⟩, ?_⟩
    intro same equal
    obtain rfl := Except.ok.inj equal
    split
    · next same =>
        obtain ⟨legible, rest⟩ := rest (by simpa using same)
        rw [onlyAuthErrors_bind, onlyAuthErrors_isUnexpired]
        refine ⟨legible, ?_⟩
        intro valid unexpired
        split
        · next both =>
            obtain ⟨rfl, isOwn⟩ := Bool.and_eq_true_iff.mp both
            obtain ⟨expiry, found⟩ := expiry_of_isUnexpired unexpired
            exact (onlyAuthErrors_fitsRequest found _ _).mpr (rest unexpired isOwn)
        · exact onlyAuthErrors_pure _
    · exact onlyAuthErrors_pure _

theorem onlyAuthErrors_findCode (py : Platform) (moment : JoinMoment) (nodeId code : PyStr)
    (expiresAt : Json) (index : Nat) (entries : List Json) :
    OnlyAuthErrors (findCode py moment nodeId code expiresAt index entries) ↔
      LegibleEntries py moment nodeId code expiresAt index entries := by
  induction entries generalizing index with
  | nil => simp [findCode, LegibleEntries]
  | cons entry rest ih =>
      rw [findCode, LegibleEntries, onlyAuthErrors_bind, onlyAuthErrors_asDict]
      constructor
      · rintro ⟨⟨item, rfl⟩, later⟩
        have later := later item rfl
        rw [onlyAuthErrors_bind, onlyAuthErrors_acceptsItem] at later
        refine ⟨item, rfl, later.1, ?_⟩
        intro passed
        exact (ih (index + 1)).mp (by simpa using later.2 false passed)
      · rintro ⟨item, rfl, legible, later⟩
        refine ⟨⟨item, rfl⟩, ?_⟩
        intro other equal
        obtain rfl := Except.ok.inj equal
        rw [onlyAuthErrors_bind, onlyAuthErrors_acceptsItem]
        refine ⟨legible, ?_⟩
        intro accepted outcome
        cases accepted with
        | true => exact onlyAuthErrors_pure _
        | false => simpa using (ih (index + 1)).mpr (later outcome)

/-- The certificate that a node may have is an object, unless the identifier is refused
before it is looked at. -/
theorem onlyAuthErrors_checkIssue (nodeId : PyStr) (certificates : Dict PyStr Json)
    (nonempty : nodeId ≠ []) :
    (∀ fault, checkIssue nodeId certificates = .error fault →
        (refuseIdentity fault).isAuthError = true) ↔
      (nodeId.all isIdChar = true → ∀ certificate, certificates.get? nodeId = some certificate →
        ∃ fields, certificate = .obj fields) := by
  unfold checkIssue
  have notEmpty : nodeId.isEmpty = false := by simpa using nonempty
  by_cases chars : nodeId.all isIdChar = true
  · simp only [notEmpty, chars, Bool.not_true, Bool.or_self, Bool.false_eq_true, if_false,
      forall_true_left]
    cases certificates.get? nodeId with
    | none => simp
    | some certificate =>
        cases certificate with
        | obj fields =>
            simp only [asDict, bind, Except.bind]
            split <;> simp [pure, Except.pure, refuseIdentity, AuthFault.isAuthError]
        | _ => simp [asDict, bind, Except.bind, refuseIdentity, AuthFault.isAuthError]
  · simp [chars, refuseIdentity, AuthFault.isAuthError]

/-- What `findMatch` returns is what each of its steps found. -/
theorem exists_of_findMatch {py : Platform} {moment : JoinMoment} {nodeId code expiresAt : Json}
    {stores : AuthStores} {found : JoinMatch}
    (matched : findMatch py moment nodeId code expiresAt stores = .ok found) :
    ∃ text nodes, checkArguments py nodeId code = .ok (found.nodeId, text) ∧
      readStore [(lit "codes", .arr [])] stores.codes = .ok found.store ∧
      iterate (getOr (lit "codes") (.arr []) found.store) = .ok found.entries ∧
      findCode py moment found.nodeId text expiresAt 0 found.entries =
        .ok (some (found.index, found.item)) ∧
      nodesOf stores.state = .ok nodes ∧
      ((nodes.get? found.nodeId).getD .null).truthy = false := by
  unfold findMatch at matched
  obtain ⟨⟨id, text⟩, arguments, matched⟩ := except_bind_eq_ok.mp matched
  obtain ⟨store, read, matched⟩ := except_bind_eq_ok.mp matched
  obtain ⟨entries, items, matched⟩ := except_bind_eq_ok.mp matched
  obtain ⟨taken, scanned, matched⟩ := except_bind_eq_ok.mp matched
  cases taken with
  | none => cases matched
  | some taken =>
      obtain ⟨index, item⟩ := taken
      obtain ⟨nodes, table, matched⟩ := except_bind_eq_ok.mp matched
      split at matched
      · cases matched
      · next fresh =>
          cases matched
          exact ⟨text, nodes, arguments, read, items, scanned, table, by simpa using fresh⟩

theorem onlyAuthErrors_findMatch (py : Platform) (moment : JoinMoment)
    (nodeId code expiresAt : Json) (stores : AuthStores) :
    OnlyAuthErrors (findMatch py moment nodeId code expiresAt stores) ↔
      ∀ id text, checkArguments py nodeId code = .ok (id, text) →
        stores.codes ≠ .beyondLimits ∧
        ∀ store, readStore [(lit "codes", .arr [])] stores.codes = .ok store →
          ∃ entries, iterate (getOr (lit "codes") (.arr []) store) = .ok entries ∧
            LegibleEntries py moment id text expiresAt 0 entries ∧
            ∀ taken, findCode py moment id text expiresAt 0 entries = .ok (some taken) →
              ∃ nodes, nodesOf stores.state = .ok nodes := by
  have arguments : OnlyAuthErrors (checkArguments py nodeId code) := by
    unfold checkArguments
    split
    · split
      · exact onlyAuthErrors_ok _
      · exact (onlyAuthErrors_error _).mpr rfl
    · exact (onlyAuthErrors_error _).mpr rfl
  unfold findMatch
  rw [onlyAuthErrors_bind, and_iff_right arguments, Prod.forall]
  refine forall₂_congr fun id text => imp_congr_right fun _ => ?_
  rw [onlyAuthErrors_bind, onlyAuthErrors_readStore]
  refine and_congr_right fun _ => forall_congr' fun store => imp_congr_right fun _ => ?_
  rw [onlyAuthErrors_bind, onlyAuthErrors_iterate]
  constructor
  · rintro ⟨⟨entries, items⟩, rest⟩
    have rest := rest entries items
    rw [onlyAuthErrors_bind, onlyAuthErrors_findCode] at rest
    refine ⟨entries, items, rest.1, ?_⟩
    rintro ⟨index, item⟩ scanned
    have rest := ((onlyAuthErrors_bind _ _).mp (rest.2 _ scanned)).1
    obtain ⟨fields, table⟩ := (onlyAuthErrors_asDict _).mp rest
    exact ⟨fields, by rw [nodesOf, table, asDict]⟩
  · rintro ⟨entries, items, legible, rest⟩
    refine ⟨⟨entries, items⟩, ?_⟩
    intro other equal
    obtain rfl := Except.ok.inj (items.symm.trans equal)
    rw [onlyAuthErrors_bind, onlyAuthErrors_findCode]
    refine ⟨legible, ?_⟩
    intro taken scanned
    cases taken with
    | none => exact (onlyAuthErrors_error _).mpr rfl
    | some taken =>
        obtain ⟨nodes, table⟩ := rest taken scanned
        simp only [table, bind, Except.bind]
        split
        · exact (onlyAuthErrors_error _).mpr rfl
        · exact onlyAuthErrors_pure _

end HermesMesh.Collab
