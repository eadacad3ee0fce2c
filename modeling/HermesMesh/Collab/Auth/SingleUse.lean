import HermesMesh.Collab.Auth.JoinCodes
import HermesMesh.Foundation.Counting

/-!
# Join codes are used once

A call that writes what it has computed from the store it read is harmless as long as
no other call writes in between.  Under that condition the unused entries of a code,
the calls that have redeemed it and the invitations still to be written are together
at most the one call that drew it.  The lock does not give the condition: one call can
hold it on the file that another has replaced.
-/

namespace HermesMesh.Collab

open Python Foundation

/-! ## What a call writes -/

/-- The entries of a code that a call could still redeem. -/
def unused (codeHash : PyStr) (records : List CodeRecord) : Nat :=
  records.countP fun item => item.usedAt.isNone && item.codeHash == codeHash

variable {hash : PyStr → PyStr}

/-- One entry that fits is marked as used, the others stay. -/
theorem redeem_split {nodeId code : PyStr} {requested : RequestedExpiry} {usedAt : Int}
    {clock : Nat → Int × Int} {records after : List CodeRecord}
    (redeemed : redeem hash nodeId code requested usedAt clock records = some after) :
    ∃ first item rest, records = first ++ item :: rest ∧ item.usedAt = none ∧
      item.codeHash = hash code ∧ after = first ++ { item with usedAt := some usedAt } :: rest := by
  induction records generalizing clock after with
  | nil => cases redeemed
  | cons item rest ih =>
      rw [redeem] at redeemed
      split at redeemed
      · next fits =>
          cases redeemed
          simp only [CodeRecord.fits, Bool.and_eq_true, Option.isNone_iff_eq_none, beq_iff_eq] at fits
          exact ⟨[], item, rest, rfl, fits.1.1.1.1, fits.1.1.1.2, rfl⟩
      · obtain ⟨later, found, rfl⟩ := Option.map_eq_some_iff.mp redeemed
        obtain ⟨first, other, last, rfl, free, same, rfl⟩ := ih found
        exact ⟨item :: first, other, last, rfl, free, same, rfl⟩

/-- A join uses up an entry of its code, an invitation adds one of its own. -/
theorem unused_rewrite {request : CodeRequest} {findings : Findings}
    {records after : List CodeRecord} (written : request.rewrite hash findings records = some after)
    (codeHash : PyStr) :
    unused codeHash after + (if (request.isJoin && hash request.code == codeHash) = true then 1 else 0) ≤
      unused codeHash records +
        if (request.isInvite && hash request.code == codeHash) = true then 1 else 0 := by
  cases request with
  | invite code nodeId expiresAt =>
      cases written
      have kept : unused codeHash (records.filter (CodeRecord.isLive findings.now)) ≤
          unused codeHash records := List.Sublist.countP_le List.filter_sublist
      simp only [unused, List.countP_append, List.countP_singleton, CodeRequest.isJoin,
        CodeRequest.isInvite, CodeRequest.code, Option.isNone_none, Bool.true_and, Bool.not_true,
        Bool.false_and, Bool.false_eq_true, if_false] at kept ⊢
      omega
  | join nodeId code requested =>
      rw [CodeRequest.rewrite] at written
      split at written
      · obtain ⟨first, item, rest, rfl, free, same, rfl⟩ := redeem_split written
        simp only [unused, List.countP_append, List.countP_cons, free, same, CodeRequest.isJoin,
          CodeRequest.isInvite, CodeRequest.code, Option.isNone_none, Option.isNone_some,
          Bool.true_and, Bool.not_false, Bool.false_and, Bool.false_eq_true, if_false]
        omega
      · cases written

/-- An entry that is not expired is lost to nobody but a join with its code. -/
theorem mem_rewrite {request : CodeRequest} {findings : Findings}
    {records after : List CodeRecord} (written : request.rewrite hash findings records = some after)
    {item : CodeRecord} (member : item ∈ records) (free : item.usedAt = none)
    (fresh : findings.now < item.expiresAt) :
    item ∈ after ∨ request.isJoin = true ∧ hash request.code = item.codeHash := by
  cases request with
  | invite code nodeId expiresAt =>
      cases written
      refine .inl (List.mem_append_left _ (List.mem_filter.mpr ⟨member, ?_⟩))
      simp [CodeRecord.isLive, free, fresh]
  | join nodeId code requested =>
      rw [CodeRequest.rewrite] at written
      split at written
      · obtain ⟨first, other, rest, rfl, -, same, rfl⟩ := redeem_split written
        simp only [List.mem_append, List.mem_cons] at member ⊢
        rcases member with before | rfl | behind
        · exact .inl (.inl before)
        · exact .inr ⟨rfl, same.symm⟩
        · exact .inl (.inr (.inr behind))
      · cases written

theorem record_mem_rewrite {request : CodeRequest} {findings : Findings}
    {records after : List CodeRecord} (written : request.rewrite hash findings records = some after)
    {record : CodeRecord} (isRecord : request.record hash = some record) : record ∈ after := by
  cases request with
  | invite code nodeId expiresAt =>
      cases written
      cases isRecord
      exact List.mem_append_right _ (List.mem_singleton_self _)
  | join nodeId code requested => cases isRecord

theorem record_of_request {request : CodeRequest} {record : CodeRecord}
    (isRecord : request.record hash = some record) :
    record.usedAt = none ∧ record.codeHash = hash request.code := by
  cases request with
  | invite code nodeId expiresAt =>
      cases isRecord
      exact ⟨rfl, rfl⟩
  | join nodeId code requested => cases isRecord

namespace CodeCall

/-- A join that has redeemed a code. -/
def redeems (hash : PyStr → PyStr) (codeHash : PyStr) (call : CodeCall) : Bool :=
  call.request.isJoin && hash call.request.code == codeHash && call.phase.hasWritten

/-- An invitation whose code is not in the store yet. -/
def pends (hash : PyStr → PyStr) (codeHash : PyStr) (call : CodeCall) : Bool :=
  call.request.isInvite && hash call.request.code == codeHash && !call.phase.hasWritten

end CodeCall

/-- An invitation with a code of this hash. -/
def CodeRequest.invites (hash : PyStr → PyStr) (codeHash : PyStr) (request : CodeRequest) : Bool :=
  request.isInvite && hash request.code == codeHash

namespace CodeStore

/-! ## The invariant -/

def requests (store : CodeStore) : List CodeRequest := store.calls.map CodeCall.request

/-- The codes of the calls collide nowhere, and `secrets` draws no code twice. -/
def Fresh (hash : PyStr → PyStr) (store : CodeStore) : CodeStep → Prop
  | .start request => ∀ other ∈ store.requests, hash other.code = hash request.code →
      other.code = request.code ∧ ¬(other.isInvite = true ∧ request.isInvite = true)
  | _ => True

/-- The call waits for the lock on a file, and nobody holds it. -/
def grants (store : CodeStore) (index : Nat) : Bool :=
  match store.calls[index]? with
  | some ⟨_, .opened inode⟩ => !store.isHeld inode
  | _ => false

/-- No lock is granted while another call is between its `flock` and its write. -/
def Exclusive (store : CodeStore) : CodeStep → Prop
  | .flock index => store.grants index = true → ∀ call ∈ store.calls, call.phase.inSection = false
  | _ => True

/-- What holds of the store in a run whose calls keep out of each other's sections and
purge no later than `now`. -/
structure Consistent (hash : PyStr → PyStr) (now : Int) (store : CodeStore) : Prop where
  alone : store.calls.countP (fun call => call.phase.inSection) ≤ 1
  upToDate : ∀ call ∈ store.calls, ∀ inode records, call.phase = .looked inode records →
    ∃ findings : Findings, findings.now ≤ now ∧
      call.request.rewrite hash findings store.records = some records
  drawnOnce : ∀ codeHash, store.requests.countP (CodeRequest.invites hash codeHash) ≤ 1
  apart : ∀ request ∈ store.requests, ∀ other ∈ store.requests,
    hash request.code = hash other.code → request.code = other.code
  balanced : ∀ codeHash, unused codeHash store.records +
      store.calls.countP (CodeCall.redeems hash codeHash) +
      store.calls.countP (CodeCall.pends hash codeHash) ≤
    store.requests.countP (CodeRequest.invites hash codeHash)
  kept : ∀ call ∈ store.calls, ∀ record, call.request.record hash = some record →
    call.phase.hasWritten = true → now < record.expiresAt →
      record ∈ store.records ∨ 0 < store.calls.countP (CodeCall.redeems hash record.codeHash)

theorem setCall_requests {store : CodeStore} {index : Nat} {request : CodeRequest}
    {old new : CodePhase} (found : store.calls[index]? = some ⟨request, old⟩) :
    (store.setCall index ⟨request, new⟩).requests = store.requests :=
  map_set_of_same found rfl

theorem forall_mem_setCall {store : CodeStore} {index : Nat} {call : CodeCall}
    {good : CodeCall → Prop} (others : ∀ other ∈ store.calls, good other) (new : good call) :
    ∀ other ∈ (store.setCall index call).calls, good other := by
  intro other member
  rcases List.mem_or_eq_of_mem_set member with old | rfl
  · exact others other old
  · exact new

theorem consistent_empty (hash : PyStr → PyStr) (now : Int) : Consistent hash now empty where
  alone := Nat.zero_le _
  upToDate := fun _ member => absurd member List.not_mem_nil
  drawnOnce := fun _ => Nat.zero_le _
  apart := fun _ member => absurd member List.not_mem_nil
  balanced := fun _ => le_refl _
  kept := fun _ member => absurd member List.not_mem_nil

variable {now : Int} {store : CodeStore}

/-- A call that goes on without writing changes none of the counts. -/
theorem consistent_setCall (consistent : store.Consistent hash now) {index : Nat}
    {request : CodeRequest} {old new : CodePhase}
    (found : store.calls[index]? = some ⟨request, old⟩) (same : new.hasWritten = old.hasWritten)
    (enters : new.inSection = true → old.inSection = true ∨
      ∀ call ∈ store.calls, call.phase.inSection = false)
    (looks : ∀ inode records, new = .looked inode records → ∃ findings : Findings,
      findings.now ≤ now ∧ request.rewrite hash findings store.records = some records) :
    (store.setCall index ⟨request, new⟩).Consistent hash now := by
  have redeems : ∀ codeHash, (store.setCall index ⟨request, new⟩).calls.countP
      (CodeCall.redeems hash codeHash) = store.calls.countP (CodeCall.redeems hash codeHash) :=
    fun codeHash => countP_set_of_same found (by simp only [CodeCall.redeems, same])
  have pends : ∀ codeHash, (store.setCall index ⟨request, new⟩).calls.countP
      (CodeCall.pends hash codeHash) = store.calls.countP (CodeCall.pends hash codeHash) :=
    fun codeHash => countP_set_of_same found (by simp only [CodeCall.pends, same])
  have isOld : ⟨request, old⟩ ∈ store.calls := List.mem_of_getElem? found
  refine ⟨?_, ?_, ?_, ?_, fun codeHash => ?_, ?_⟩
  · have moved := countP_set_add (fun call : CodeCall => call.phase.inSection) found ⟨request, new⟩
    have before := consistent.alone
    simp only [setCall]
    by_cases entered : new.inSection = true
    · rcases enters entered with wasIn | empty
      · rw [if_pos wasIn, if_pos entered] at moved
        omega
      · have nobody : store.calls.countP (fun call => call.phase.inSection) = 0 :=
          List.countP_eq_zero.mpr fun call member => by simp [empty call member]
        split at moved <;> omega
    · rw [if_neg entered] at moved
      omega
  · exact forall_mem_setCall consistent.upToDate looks
  · rw [setCall_requests found]
    exact consistent.drawnOnce
  · rw [setCall_requests found]
    exact consistent.apart
  · rw [setCall_requests found, redeems, pends]
    exact consistent.balanced codeHash
  · simp only [redeems]
    refine forall_mem_setCall consistent.kept fun record isRecord written fresh => ?_
    exact consistent.kept _ isOld record isRecord (same ▸ written) fresh

/-- Nobody is in a section after the one call in its section has written. -/
theorem nobody_after_write (consistent : store.Consistent hash now) {index inode : Nat}
    {request : CodeRequest} {records : List CodeRecord}
    (found : store.calls[index]? = some ⟨request, .looked inode records⟩) :
    (store.calls.set index ⟨request, .written inode⟩).countP
      (fun call => call.phase.inSection) = 0 := by
  have moved : (store.calls.set index ⟨request, .written inode⟩).countP
        (fun call => call.phase.inSection) + 1 =
      store.calls.countP fun call => call.phase.inSection :=
    countP_set_add (fun call : CodeCall => call.phase.inSection) found ⟨request, .written inode⟩
  have before := consistent.alone
  omega

/-- The write of the one call in its section. -/
theorem consistent_replace (consistent : store.Consistent hash now) (index : Nat) :
    (store.replace index).Consistent hash now := by
  unfold replace
  split
  · next request inode records found =>
      have isOld : ⟨request, .looked inode records⟩ ∈ store.calls := List.mem_of_getElem? found
      obtain ⟨findings, inTime, written⟩ := consistent.upToDate _ isOld inode records rfl
      have redeems : ∀ codeHash, (store.calls.set index ⟨request, .written inode⟩).countP
            (CodeCall.redeems hash codeHash) = store.calls.countP (CodeCall.redeems hash codeHash) +
          if (request.isJoin && hash request.code == codeHash) = true then 1 else 0 := by
        intro codeHash
        have moved := countP_set_add (CodeCall.redeems hash codeHash) found ⟨request, .written inode⟩
        simpa [CodeCall.redeems, CodePhase.hasWritten] using moved
      have pends : ∀ codeHash, (store.calls.set index ⟨request, .written inode⟩).countP
            (CodeCall.pends hash codeHash) +
          (if (request.isInvite && hash request.code == codeHash) = true then 1 else 0) =
            store.calls.countP (CodeCall.pends hash codeHash) := by
        intro codeHash
        have moved := countP_set_add (CodeCall.pends hash codeHash) found ⟨request, .written inode⟩
        simpa [CodeCall.pends, CodePhase.hasWritten] using moved
      have same : requests { store.setCall index ⟨request, .written inode⟩ with
          inode := store.inode + 1, records := records } = store.requests := map_set_of_same found rfl
      refine ⟨?_, ?_, ?_, ?_, fun codeHash => ?_, ?_⟩
      · exact (nobody_after_write consistent found).le.trans zero_le_one
      · -- nobody else has read the store
        have nobody := List.countP_eq_zero.mp (nobody_after_write consistent found)
        intro call member other snapshot looked
        refine absurd ?_ (nobody call member)
        rw [looked, CodePhase.inSection]
      · rw [same]
        exact consistent.drawnOnce
      · rw [same]
        exact consistent.apart
      · have before := consistent.balanced codeHash
        have entries := unused_rewrite written codeHash
        have redeems := redeems codeHash
        have pends := pends codeHash
        rw [same]
        dsimp only [setCall] at entries ⊢
        omega
      · have grows : ∀ codeHash, store.calls.countP (CodeCall.redeems hash codeHash) ≤
            (store.calls.set index ⟨request, .written inode⟩).countP (CodeCall.redeems hash codeHash) :=
          fun codeHash => by
            rw [redeems]
            exact Nat.le_add_right _ _
        refine forall_mem_setCall (fun call member record isRecord hasWritten fresh => ?_)
          (fun record isRecord _ _ => .inl (record_mem_rewrite written isRecord))
        rcases consistent.kept call member record isRecord hasWritten fresh with inStore | used
        · obtain ⟨free, -⟩ := record_of_request isRecord
          rcases mem_rewrite written inStore free (lt_of_le_of_lt inTime fresh) with stays |
            ⟨isJoin, sameHash⟩
          · exact .inl stays
          · have counted := redeems record.codeHash
            simp only [isJoin, sameHash, beq_self_eq_true, Bool.and_self, if_true] at counted
            refine .inr ?_
            simp only [setCall]
            omega
        · exact .inr (lt_of_lt_of_le used (grows _))
  · exact consistent

theorem consistent_start (consistent : store.Consistent hash now) {request : CodeRequest}
    (fresh : store.Fresh hash (.start request)) :
    Consistent hash now { store with calls := store.calls ++ [⟨request, .ready⟩] } := by
  have requests : requests { store with calls := store.calls ++ [⟨request, .ready⟩] } =
      store.requests ++ [request] := by
    simp only [CodeStore.requests, List.map_append, List.map_singleton]
  have redeems : ∀ codeHash, (store.calls ++ [(⟨request, .ready⟩ : CodeCall)]).countP
      (CodeCall.redeems hash codeHash) = store.calls.countP (CodeCall.redeems hash codeHash) :=
    fun codeHash => by
      simp [List.countP_append, CodeCall.redeems, CodePhase.hasWritten]
  refine ⟨?_, ?_, fun codeHash => ?_, ?_, fun codeHash => ?_, ?_⟩
  · simpa [List.countP_append, CodePhase.inSection] using consistent.alone
  · intro call member
    rcases List.mem_append.mp member with old | new
    · exact consistent.upToDate call old
    · rw [List.mem_singleton.mp new]
      rintro inode records ⟨⟩
  · rw [requests, List.countP_append, List.countP_singleton]
    split
    · next isInvite =>
        have none : store.requests.countP (CodeRequest.invites hash codeHash) = 0 := by
          refine List.countP_eq_zero.mpr fun other member invites => ?_
          simp only [CodeRequest.invites, Bool.and_eq_true, beq_iff_eq] at isInvite invites
          exact (fresh other member (invites.2.trans isInvite.2.symm)).2 ⟨invites.1, isInvite.1⟩
        omega
    · exact consistent.drawnOnce codeHash
  · rw [requests]
    intro one isOne other isOther same
    rcases List.mem_append.mp isOne with oldOne | newOne
    · rcases List.mem_append.mp isOther with oldOther | newOther
      · exact consistent.apart one oldOne other oldOther same
      · rw [List.mem_singleton.mp newOther] at same ⊢
        exact (fresh one oldOne same).1
    · rw [List.mem_singleton.mp newOne] at same ⊢
      rcases List.mem_append.mp isOther with oldOther | newOther
      · exact (fresh other oldOther same.symm).1.symm
      · rw [List.mem_singleton.mp newOther]
  · have before := consistent.balanced codeHash
    rw [requests]
    have pends : (store.calls ++ [(⟨request, .ready⟩ : CodeCall)]).countP
          (CodeCall.pends hash codeHash) = store.calls.countP (CodeCall.pends hash codeHash) +
        if CodeRequest.invites hash codeHash request = true then 1 else 0 := by
      simp [List.countP_append, List.countP_singleton, CodeCall.pends, CodeRequest.invites,
        CodePhase.hasWritten]
    simp only [redeems, pends, List.countP_append, List.countP_singleton]
    omega
  · intro call member record isRecord hasWritten inTime
    simp only [redeems]
    rcases List.mem_append.mp member with old | new
    · exact consistent.kept call old record isRecord hasWritten inTime
    · rw [List.mem_singleton.mp new] at hasWritten
      cases hasWritten

/-- A purge of the step comes no later than `now`. -/
def ReadsBy (now : Int) : CodeStep → Prop
  | .read _ findings => findings.now ≤ now
  | _ => True

theorem consistent_step (consistent : store.Consistent hash now) {input : CodeStep}
    (fresh : store.Fresh hash input) (exclusive : store.Exclusive input)
    (inTime : ReadsBy now input) : ((codeMachine hash).step store input).2.Consistent hash now := by
  cases input with
  | start request => exact consistent_start consistent fresh
  | openFile index =>
      simp only [codeMachine, openFile]
      split
      · next found => exact consistent_setCall consistent found rfl (by simp [CodePhase.inSection]) (by simp)
      · exact consistent
  | flock index =>
      simp only [codeMachine, flock]
      split
      · next found =>
          split
          · exact consistent
          · next free =>
              have granted : store.grants index = true := by simp [grants, found, free]
              exact consistent_setCall consistent found rfl (fun _ => .inr (exclusive granted)) (by simp)
      · exact consistent
  | read index findings =>
      simp only [codeMachine, read]
      split
      · next found =>
          split
          · next rewritten =>
              refine consistent_setCall consistent found rfl (fun _ => .inl rfl) ?_
              rintro inode records ⟨⟩
              exact ⟨findings, inTime, rewritten⟩
          · exact consistent_setCall consistent found rfl (by simp [CodePhase.inSection]) (by simp)
      · exact consistent
  | replace index => exact consistent_replace consistent index
  | unlock index =>
      simp only [codeMachine, unlock]
      split
      · next found => exact consistent_setCall consistent found rfl (by simp [CodePhase.inSection]) (by simp)
      · next found => exact consistent_setCall consistent found rfl (by simp [CodePhase.inSection]) (by simp)
      · exact consistent
  | finish index =>
      simp only [codeMachine, finish]
      split
      · next found => exact consistent_setCall consistent found rfl (by simp [CodePhase.inSection]) (by simp)
      · exact consistent

/-! ## Every run -/

/-- The joins that have returned, having given a code. -/
def successes (code : PyStr) (store : CodeStore) : Nat :=
  store.calls.countP fun call =>
    call.request.isJoin && call.request.code == code && call.phase matches .joined

/-- The code of the call has been redeemed. -/
def IsUsed (code : PyStr) (store : CodeStore) : Prop :=
  ∃ call ∈ store.calls, call.request.isJoin = true ∧ call.request.code = code ∧
    call.phase.hasWritten = true

theorem successes_le_one (consistent : store.Consistent hash now) (code : PyStr) :
    store.successes code ≤ 1 := by
  have redeemed : store.successes code ≤ store.calls.countP (CodeCall.redeems hash (hash code)) := by
    refine List.countP_mono_left fun call _ joined => ?_
    simp only [Bool.and_eq_true, beq_iff_eq] at joined
    obtain ⟨⟨isJoin, sameCode⟩, isJoined⟩ := joined
    have hasWritten : call.phase.hasWritten = true := by
      split at isJoined
      · next phase => rw [phase, CodePhase.hasWritten]
      · cases isJoined
    simp [CodeCall.redeems, isJoin, sameCode, hasWritten]
  have balanced := consistent.balanced (hash code)
  have once := consistent.drawnOnce (hash code)
  omega

theorem record_mem_of_unused (consistent : store.Consistent hash now) {invite : CodeCall}
    (member : invite ∈ store.calls) {record : CodeRecord}
    (isRecord : invite.request.record hash = some record) (hasWritten : invite.phase.hasWritten = true)
    (unexpired : now < record.expiresAt) (unused : ¬store.IsUsed invite.request.code) :
    record ∈ store.records := by
  rcases consistent.kept invite member record isRecord hasWritten unexpired with inStore | redeemed
  · exact inStore
  · obtain ⟨join, isCall, redeems⟩ := List.countP_pos_iff.mp redeemed
    simp only [CodeCall.redeems, Bool.and_eq_true, beq_iff_eq] at redeems
    obtain ⟨⟨isJoin, sameHash⟩, joinWritten⟩ := redeems
    have sameCode := consistent.apart _ (List.mem_map_of_mem isCall) _ (List.mem_map_of_mem member)
      (sameHash.trans (record_of_request isRecord).2)
    exact absurd ⟨join, isCall, isJoin, sameCode, joinWritten⟩ unused

/-- Some instant comes after every purge of a run. -/
theorem exists_bound (inputs : List CodeStep) :
    ∃ now, ∀ index findings, CodeStep.read index findings ∈ inputs → findings.now ≤ now := by
  induction inputs with
  | nil => exact ⟨0, fun _ _ member => absurd member List.not_mem_nil⟩
  | cons input rest ih =>
      obtain ⟨now, later⟩ := ih
      cases input with
      | read index findings =>
          refine ⟨max findings.now now, fun other readings member => ?_⟩
          rcases List.mem_cons.mp member with equal | inRest
          · cases equal
            exact le_max_left _ _
          · exact (later other readings inRest).trans (le_max_right _ _)
      | _ => exact ⟨now, fun other readings member => later other readings (by simpa using member)⟩

/-- In every run of any number of calls in which no lock is granted while another call
is between its `flock` and its write, at most one join succeeds with a code, and the
entry of a code that was returned, is not expired and not used is in the store. -/
theorem codes_single_use (hash : PyStr → PyStr) {inputs : List CodeStep}
    (fresh : (codeMachine hash).Allowed (Fresh hash) empty inputs)
    (exclusive : (codeMachine hash).Allowed Exclusive empty inputs) :
    let store := (codeMachine hash).run empty inputs
    (∀ code, store.successes code ≤ 1) ∧
      ∀ now, (∀ index findings, .read index findings ∈ inputs → findings.now ≤ now) →
        ∀ invite ∈ store.calls, invite.phase = .released →
          ∀ record, invite.request.record hash = some record → now < record.expiresAt →
            ¬store.IsUsed invite.request.code → record ∈ store.records := by
  have consistent (now : Int)
      (inTime : ∀ index findings, .read index findings ∈ inputs → findings.now ≤ now) :
      ((codeMachine hash).run empty inputs).Consistent hash now := by
    have purges : (codeMachine hash).Allowed (fun _ => ReadsBy now) empty inputs := by
      refine (codeMachine hash).allowed_of_forall (fun input member _ => ?_) _
      cases input with
      | read index findings => exact inTime index findings member
      | _ => trivial
    exact Machine.run_invariant _ (Consistent hash now)
      (fun store input consistent permitted =>
        consistent_step consistent permitted.1.1 permitted.1.2 permitted.2)
      (consistent_empty hash now)
      ((codeMachine hash).allowed_and ((codeMachine hash).allowed_and fresh exclusive) purges)
  refine ⟨fun code => ?_, fun now inTime invite member released record isRecord unexpired free => ?_⟩
  · obtain ⟨now, inTime⟩ := exists_bound inputs
    exact successes_le_one (consistent now inTime) code
  · exact record_mem_of_unused (consistent now inTime) member isRecord
      (by rw [released, CodePhase.hasWritten]) unexpired free

/-! ## Two joins on two files -/

instance (store : CodeStore) (input : CodeStep) : Decidable (store.Fresh id input) := by
  cases input <;> unfold Fresh <;> infer_instance

instance (store : CodeStore) (input : CodeStep) : Decidable (store.Exclusive input) := by
  cases input <;> unfold Exclusive <;> infer_instance

/-- Every clock reads zero. -/
def atOnce : Findings := ⟨0, fun _ => (0, 0), true, 0⟩

/-- A call from start to end without another in between. -/
def inTurn (index : Nat) (request : CodeRequest) : List CodeStep :=
  [.start request, .openFile index, .flock index, .read index atOnce, .replace index, .unlock index,
    .finish index]

/-- An invitation with the code `c`, and two joins with it that wait for nobody. -/
def invitedJoins : List CodeStep :=
  inTurn 0 (.invite (lit "c") none 300) ++ inTurn 1 (.join (lit "n-1") (lit "c") .absent) ++
    inTurn 2 (.join (lit "n-2") (lit "c") .absent)

theorem one_join_succeeds :
    ((codeMachine id).run empty invitedJoins).successes (lit "c") = 1 ∧
      ((codeMachine id).run empty invitedJoins).successes (lit "c") ≤ 1 :=
  ⟨by decide +kernel, (codes_single_use id (by decide +kernel) (by decide +kernel)).1 _⟩

/-- A first join opens the file and waits for the lock of another invitation, which
replaces the file.  The join is then granted the lock on the old file, and a second one
that on the new file. -/
def joinsOnTwoFiles : List CodeStep :=
  inTurn 0 (.invite (lit "c") none 300) ++
    [.start (.invite (lit "d") none 300), .start (.join (lit "n-1") (lit "c") .absent),
      .start (.join (lit "n-2") (lit "c") .absent), .openFile 1, .flock 1, .openFile 2, .flock 2,
      .read 1 atOnce, .replace 1, .unlock 1, .flock 2, .openFile 3, .flock 3, .read 2 atOnce,
      .read 3 atOnce, .replace 2, .replace 3, .unlock 2, .unlock 3, .finish 2, .finish 3]

theorem two_joins_succeed :
    (codeMachine id).Allowed (Fresh id) empty joinsOnTwoFiles ∧
      ((codeMachine id).run empty joinsOnTwoFiles).successes (lit "c") = 2 := by
  decide +kernel

end CodeStore

end HermesMesh.Collab
