import HermesMesh.Collab.Auth.Redeem
import HermesMesh.Collab.Auth.Tokens

/-!
# Who a token lets in

The calls on `MeshAuth` in any order, with relayed joins and restarts of the program between
them.  Two things are followed through a run: the store of the revoked nodes, which no call
takes a node out of, and the records of the tokens, each of which comes from a `join` that
presented a valid code.  So a token that is accepted was drawn for its node, and once a
revocation has succeeded no token of the node is accepted again.
-/

namespace HermesMesh.Collab

open Python Foundation Foundation.Action

/-- A call on `MeshAuth`, a `join` that is relayed to the vault, or a restart. -/
inductive MeshAuthCall where
  | invite (moment : InviteMoment) (nodeId ttl : Json)
  | join (moment : JoinMoment) (nodeId code expiresAt : Json)
  | verify (moment : TokenMoment) (token : Json)
  | revoke (now : PlainText) (nodeId : PyStr)
  | relayedJoin (now : PlainText) (nodeId role : PyStr)
  | restart (times : Nat → PlainText)

inductive MeshAuthReply where
  | invited (invite : Invite)
  | joined (credentials : Credentials)
  | verified (nodeId : Option PyStr)
  | revoked (found : Bool)
  | done
  | raised (fault : AuthFault)

/-- What a call answers. -/
def authReply {α : Type} (reply : α → MeshAuthReply) (outcome : Except AuthFault α × MeshStores) :
    MeshAuthReply × MeshStores :=
  (match outcome.1 with
    | .ok value => reply value
    | .error fault => .raised fault, outcome.2)

/-- `MeshAuth` under a sequence of calls. -/
def meshAuthMachine (py : Platform) (calendar : Calendar) (authority : CertAuthority) :
    Machine MeshStores MeshAuthCall MeshAuthReply where
  step
    | stores, .invite moment nodeId ttl =>
        authReply .invited ((onAuth (createInvite py calendar moment nodeId ttl)).run stores)
    | stores, .join moment nodeId code expiresAt =>
        authReply .joined ((onAuth (join py moment nodeId code expiresAt)).run stores)
    | stores, .verify moment token =>
        authReply .verified ((verifyToken py authority moment token).run stores)
    | stores, .revoke now nodeId => authReply .revoked ((revokeNode py now nodeId).run stores)
    | stores, .relayedJoin now nodeId role =>
        authReply (fun _ => .done)
          ((onVaultState (RawVault.registerNode now nodeId role 0)).run stores)
    | stores, .restart times => authReply (fun _ => .done) ((restartMesh py times).run stores)

/-- The stores of a new mesh, in which no node is revoked. -/
def MeshStores.fresh : MeshStores :=
  { AuthStores.fresh with revoked := .decoded (.obj [(lit "nodes", .arr [])]) }

abbrev MeshAuthEvent := Event MeshStores MeshAuthCall MeshAuthReply

variable {py : Platform} {calendar : Calendar} {authority : CertAuthority}

theorem authReply_eq {α : Type} {reply : α → MeshAuthReply}
    {outcome : Except AuthFault α × MeshStores} {answer : MeshAuthReply}
    (answered : (authReply reply outcome).1 = answer) (returned : ∀ fault, answer ≠ .raised fault) :
    ∃ value, outcome.1 = .ok value ∧ reply value = answer := by
  obtain ⟨result, after⟩ := outcome
  cases result with
  | ok value => exact ⟨value, rfl, answered⟩
  | error fault => exact absurd answered.symm (returned fault)

/-! ## The store of the revoked nodes -/

/-- The store of the revoked nodes can be read, and has the node. -/
def Killed (py : Platform) (nodeId : PyStr) (stores : MeshStores) : Prop :=
  ∃ texts, revokedTexts py stores.revoked = .ok texts ∧ nodeId ∈ texts

theorem mem_sortedTexts {text : PyStr} {texts : List PyStr} :
    text ∈ sortedTexts texts ↔ text ∈ texts := by
  rw [sortedTexts, List.mem_insertionSort, List.mem_dedup]

theorem revokedTexts_revokedStore (nodeId : PyStr) (texts : List PyStr) :
    revokedTexts py (revokedStore nodeId texts) = .ok (sortedTexts (nodeId :: texts)) := by
  refine congrArg Except.ok ?_
  rw [List.map_map]
  exact List.map_id' _

theorem tokens_revokeIdentity {nodeId : PyStr} :
    Within (Agree fun stores : AuthStores => stores.tokens) (revokeIdentity nodeId) := by
  rw [revokeIdentity]
  refine within_bind within_read fun stores => ?_
  refine within_bind (within_ofExcept _) fun outcome => ?_
  refine within_ite (fun _ => ?_) fun _ => within_pure false
  refine within_bind (within_modify fun _ => rfl) fun _ => ?_
  refine within_bind (within_bind within_read fun stores => ?_) fun _ => within_pure true
  split
  · exact within_modify fun _ => rfl
  · exact within_raise _

theorem tokens_saveVaultState :
    Within (Agree fun stores : AuthStores => stores.tokens) saveVaultState := by
  refine within_bind within_read fun stores => ?_
  split
  · exact within_modify fun _ => rfl
  · exact within_raise _

theorem tokens_revokeVaultNode {now : PlainText} {nodeId : PyStr} :
    Within (Agree fun stores : AuthStores => stores.tokens) (revokeVaultNode now nodeId) := by
  rw [revokeVaultNode]
  refine within_bind within_read fun stores => ?_
  refine within_bind (within_ofExcept _) fun nodes => ?_
  refine within_ite (fun _ => ?_) fun _ => within_pure false
  refine within_bind (within_ofExcept _) fun record => ?_
  refine within_bind (within_modify fun _ => rfl) fun _ => ?_
  exact within_bind tokens_saveVaultState fun _ => within_pure true

/-- What a revocation makes of the two stores that are followed: the revoked nodes stay, unless
the node is added to them, and the tokens stay, unless those of the node are marked. -/
structure RevocationEffect (py : Platform) (nodeId : PyStr) (before after : MeshStores)
    (succeeded : Prop) : Prop where
  revoked : (after.revoked = before.revoked ∧ ¬succeeded) ∨
    ∃ texts, revokedTexts py before.revoked = .ok texts ∧
      after.revoked = revokedStore nodeId texts
  tokens : after.tokens = before.tokens ∨
    ∃ marked, markTokens nodeId before.tokens = .ok marked ∧ after.tokens = .decoded (.obj marked)

theorem effect_revokeElsewhere (nodeId : PyStr) (stores : MeshStores) :
    RevocationEffect py nodeId stores ((revokeElsewhere py nodeId).run stores).2
      (((revokeElsewhere py nodeId).run stores).1 = .ok ()) := by
  have sameTokens := @tokens_revokeIdentity nodeId stores.toAuthStores
  rw [revokeElsewhere]
  rcases ran : (revokeIdentity nodeId).run stores.toAuthStores with ⟨result, after⟩
  rw [ran] at sameTokens
  have identity : (onAuth (revokeIdentity nodeId)).run stores =
      (result, { stores with toAuthStores := after }) := by
    rw [run_onAuth, ran]
  cases result with
  | error fault =>
      rw [run_bind_error identity]
      exact ⟨.inl ⟨rfl, by simp⟩, .inl sameTokens⟩
  | ok found =>
      rw [run_bind_ok identity, run_bind_ok (run_read _)]
      cases texts : revokedTexts py stores.revoked with
      | error fault =>
          rw [run_bind_error (run_ofExcept _ _)]
          exact ⟨.inl ⟨rfl, by simp⟩, .inl sameTokens⟩
      | ok values =>
          rw [run_bind_ok (run_ofExcept _ _), run_bind_ok (run_modify _ _),
            run_bind_ok (run_read _)]
          have added : ∃ texts, revokedTexts py stores.revoked = .ok texts ∧
              revokedStore nodeId values = revokedStore nodeId texts := ⟨values, texts, rfl⟩
          cases marked : markTokens nodeId after.tokens with
          | error fault =>
              rw [run_bind_error (run_ofExcept _ _)]
              exact ⟨.inr added, .inl sameTokens⟩
          | ok store =>
              rw [run_bind_ok (run_ofExcept _ _), run_modify]
              have before : markTokens nodeId stores.tokens = .ok store := by
                rw [← marked]
                exact congrArg (markTokens nodeId) sameTokens.symm
              exact ⟨.inr added, .inr ⟨store, before, rfl⟩⟩

theorem effect_revokeNode (now : PlainText) (nodeId : PyStr) (stores : MeshStores) :
    RevocationEffect py nodeId stores ((revokeNode py now nodeId).run stores).2
      (((revokeNode py now nodeId).run stores).1 = .ok true) := by
  have sameTokens := @tokens_revokeVaultNode now nodeId stores.toAuthStores
  rw [revokeNode]
  rcases ran : (revokeVaultNode now nodeId).run stores.toAuthStores with ⟨result, after⟩
  rw [ran] at sameTokens
  have vault : (onAuth (revokeVaultNode now nodeId)).run stores =
      (result, { stores with toAuthStores := after }) := by
    rw [run_onAuth, ran]
  cases result with
  | error fault =>
      rw [run_bind_error vault]
      exact ⟨.inl ⟨rfl, by simp⟩, .inl sameTokens⟩
  | ok changed =>
      rw [run_bind_ok vault]
      cases changed with
      | false => exact ⟨.inl ⟨rfl, by simp⟩, .inl sameTokens⟩
      | true =>
          have rest := @effect_revokeElsewhere py nodeId { stores with toAuthStores := after }
          rcases elsewhere : (revokeElsewhere py nodeId).run { stores with toAuthStores := after }
            with ⟨answer, last⟩
          rw [elsewhere] at rest
          have tokens : last.tokens = stores.tokens ∨ ∃ marked,
              markTokens nodeId stores.tokens = .ok marked ∧
                last.tokens = .decoded (.obj marked) := by
            have sameTokens : after.tokens = stores.tokens := sameTokens
            rw [← sameTokens]
            exact rest.tokens
          cases answer with
          | error fault =>
              rw [if_pos rfl, run_bind_error elsewhere]
              refine ⟨?_, tokens⟩
              rcases rest.revoked with ⟨same, -⟩ | added
              · exact .inl ⟨same, by simp⟩
              · exact .inr added
          | ok _ =>
              rw [if_pos rfl, run_bind_ok elsewhere]
              refine ⟨?_, tokens⟩
              rcases rest.revoked with ⟨-, failed⟩ | added
              · exact absurd rfl failed
              · exact .inr added

theorem Killed.of_revoked {nodeId : PyStr} {before after : MeshStores}
    (killed : Killed py nodeId before) (same : after.revoked = before.revoked) :
    Killed py nodeId after := by
  obtain ⟨texts, read, member⟩ := killed
  exact ⟨texts, by rw [same, read], member⟩

/-- What is done with the other stores leaves the revoked nodes alone. -/
theorem revoked_onAuth {α : Type} (action : Action AuthStores AuthFault α) :
    Within (Agree MeshStores.revoked) (onAuth action) := fun _ => rfl

theorem revoked_onVaultState {α : Type} (action : Action RawVault AuthFault α) :
    Within (Agree MeshStores.revoked) (onVaultState action) := fun _ => rfl

theorem revoked_verifyToken (moment : TokenMoment) (token : Json) :
    Within (Agree MeshStores.revoked) (verifyToken py authority moment token) := by
  refine within_bind within_read fun stores => ?_
  refine within_bind (within_ofExcept _) fun found => ?_
  cases found with
  | none => exact within_pure none
  | some nodeId => exact within_bind (revoked_onAuth _) fun _ => within_pure (some nodeId)

theorem revoked_restartMesh (times : Nat → PlainText) :
    Within (Agree MeshStores.revoked) (restartMesh py times) := by
  refine within_bind within_read fun stores => ?_
  refine within_bind (within_ofExcept _) fun state => ?_
  refine within_bind (within_modify fun _ => rfl) fun _ => ?_
  exact within_bind (within_ofExcept _) fun texts => revoked_onVaultState _

/-- No call takes a node out of the store of the revoked nodes. -/
theorem killed_step {nodeId : PyStr} {stores : MeshStores} (call : MeshAuthCall)
    (killed : Killed py nodeId stores) :
    Killed py nodeId ((meshAuthMachine py calendar authority).step stores call).2 := by
  cases call with
  | invite moment other ttl =>
      exact killed.of_revoked (revoked_onAuth (createInvite py calendar moment other ttl) stores)
  | join moment other code expiresAt =>
      exact killed.of_revoked (revoked_onAuth (join py moment other code expiresAt) stores)
  | verify moment token => exact killed.of_revoked (revoked_verifyToken moment token stores)
  | relayedJoin now other role =>
      exact killed.of_revoked (revoked_onVaultState (RawVault.registerNode now other role 0) stores)
  | restart times => exact killed.of_revoked (revoked_restartMesh times stores)
  | revoke now other =>
      rcases (@effect_revokeNode py now other stores).revoked with ⟨same, -⟩ | ⟨texts, read, added⟩
      · exact killed.of_revoked same
      · obtain ⟨known, alsoRead, member⟩ := killed
        cases read.symm.trans alsoRead
        refine ⟨_, (congrArg (revokedTexts py) added).trans (revokedTexts_revokedStore other texts),
          ?_⟩
        exact mem_sortedTexts.mpr (List.mem_cons_of_mem _ member)

/-- A token of a node that is in the store of the revoked nodes is not accepted. -/
theorem not_verified_of_killed {nodeId : PyStr} {stores : MeshStores} (call : MeshAuthCall)
    (killed : Killed py nodeId stores) :
    ((meshAuthMachine py calendar authority).step stores call).1 ≠ .verified (some nodeId) := by
  intro answered
  cases call with
  | verify moment token =>
      obtain ⟨found, accepted, same⟩ := authReply_eq answered fun _ => by simp
      cases same
      have answer := tokenNode_of_verifyToken (Prod.ext accepted rfl)
      obtain ⟨text, digest, item, -, -, -, -, standing⟩ := tokenNode_eq_some answer
      obtain ⟨texts, read, outside⟩ := standing.unrevoked
      obtain ⟨known, alsoRead, member⟩ := killed
      cases read.symm.trans alsoRead
      exact outside member
  | _ =>
      obtain ⟨value, -, same⟩ := authReply_eq answered fun _ => by simp
      cases same

/-- A revocation that succeeds puts the node in the store of the revoked nodes. -/
theorem killed_of_revoked {nodeId : PyStr} {now : PlainText} {stores : MeshStores}
    (done : ((meshAuthMachine py calendar authority).step stores (.revoke now nodeId)).1 =
      .revoked true) :
    Killed py nodeId ((meshAuthMachine py calendar authority).step stores (.revoke now nodeId)).2 := by
  obtain ⟨found, returned, same⟩ := authReply_eq done fun _ => by simp
  cases same
  rcases (@effect_revokeNode py now nodeId stores).revoked with ⟨-, failed⟩ | ⟨texts, -, added⟩
  · exact absurd returned failed
  · refine ⟨_, (congrArg (revokedTexts py) added).trans (revokedTexts_revokedStore nodeId texts), ?_⟩
    exact mem_sortedTexts.mpr List.mem_cons_self

theorem not_verified_after {start : MeshStores} {calls : List MeshAuthCall}
    {past future : List MeshAuthEvent} {event : MeshAuthEvent}
    (split : (meshAuthMachine py calendar authority).trace start calls = past ++ event :: future)
    {now : PlainText} {nodeId : PyStr} (asked : event.input = .revoke now nodeId)
    (done : event.output = .revoked true) :
    ∀ later ∈ future, later.output ≠ .verified (some nodeId) := by
  obtain ⟨earlier, call, rest, -, -, rfl, rfl⟩ := Machine.trace_split split
  cases asked
  exact Machine.trace_invariant (fun _ _ => True) (Killed py nodeId)
    (fun _ call killed _ => killed_step call killed)
    (fun _ call killed _ => not_verified_of_killed call killed)
    (@killed_of_revoked py calendar authority nodeId now _ done)
    (Machine.allowed_of_forall _ (fun _ _ _ => trivial) _)

/-! ## The records of the tokens -/

/-- The token store holds a list of records of this kind. -/
def TokensAre (kind : Dict PyStr Json → Prop) (file : StoreFile) : Prop :=
  ∃ store entries, Holds (lit "tokens") file store entries ∧
    ∀ entry ∈ entries, ∃ item, entry = .obj item ∧ kind item

/-- What is done to the stores leaves the token store with records of a kind, if it had such. -/
def KeepsTokens (kind : Dict PyStr Json → Prop) (before after : AuthStores) : Prop :=
  TokensAre kind before.tokens → TokensAre kind after.tokens

instance (kind : Dict PyStr Json → Prop) : Std.Refl (KeepsTokens kind) := ⟨fun _ => id⟩

instance (kind : Dict PyStr Json → Prop) : IsTrans AuthStores (KeepsTokens kind) :=
  ⟨fun _ _ _ first second => second ∘ first⟩

variable {kind : Dict PyStr Json → Prop}

theorem TokensAre.mono {more : Dict PyStr Json → Prop} {file : StoreFile}
    (tokens : TokensAre kind file) (weaker : ∀ item, kind item → more item) :
    TokensAre more file := by
  obtain ⟨store, entries, holds, all⟩ := tokens
  refine ⟨store, entries, holds, fun entry member => ?_⟩
  obtain ⟨item, same, isKind⟩ := all entry member
  exact ⟨item, same, weaker item isKind⟩

theorem TokensAre.of_mem {file : StoreFile} {item : Dict PyStr Json} (tokens : TokensAre kind file)
    (member : InTokens file item) : kind item := by
  obtain ⟨store, entries, holds, all⟩ := tokens
  obtain ⟨read, others, isRead, iterated, member⟩ := member
  obtain ⟨alsoRead, alsoIterated⟩ := holds.read [(lit "tokens", .arr [])]
  cases isRead.symm.trans alsoRead
  cases iterated.symm.trans alsoIterated
  obtain ⟨other, same, isKind⟩ := all _ member
  cases same
  exact isKind

theorem liveTokens_sublist {moment : JoinMoment} {index : Nat} {entries kept : List Json}
    (live : liveTokens moment index entries = .ok kept) : kept.Sublist entries := by
  induction entries generalizing index kept with
  | nil =>
      cases live
      exact .slnil
  | cons entry rest ih =>
      obtain ⟨fields, -, tail⟩ := except_bind_eq_ok.mp live
      have rest : ∃ isLive : Bool, (do
          let kept ← liveTokens moment (index + 1) rest
          return if isLive then entry :: kept else kept) = Except.ok kept := by
        split at tail
        · exact ⟨false, tail⟩
        · obtain ⟨isLive, -, tail⟩ := except_bind_eq_ok.mp tail
          exact ⟨isLive, tail⟩
      obtain ⟨isLive, tail⟩ := rest
      obtain ⟨later, isLater, tail⟩ := except_bind_eq_ok.mp tail
      cases tail
      cases isLive with
      | true => exact (ih isLater).cons_cons entry
      | false => exact (ih isLater).cons entry

/-- A `join` adds one record to those it keeps. -/
theorem keepsTokens_addToken {moment : JoinMoment} {nodeId : PyStr}
    (added : ∀ digest, hashText py moment.token.text = .ok digest →
      kind (moment.tokenRecord nodeId digest)) :
    Within (KeepsTokens kind) (addToken py moment nodeId) := by
  intro stores tokens
  rw [addToken]
  cases hashed : hashText py moment.token.text with
  | error fault =>
      rw [run_bind_error (run_ofExcept _ _)]
      exact tokens
  | ok digest =>
      rw [run_bind_ok (run_ofExcept _ _), run_bind_ok (run_read _)]
      cases isRead : readTokens moment stores.tokens with
      | error fault =>
          rw [run_bind_error (run_ofExcept _ _)]
          exact tokens
      | ok found =>
          obtain ⟨store, kept⟩ := found
          rw [run_bind_ok (run_ofExcept _ _), run_modify]
          obtain ⟨original, entries, holds, all⟩ := tokens
          obtain ⟨readsStore, readsEntries⟩ := holds.read [(lit "tokens", .arr [])]
          obtain ⟨_, isStore, rest⟩ := except_bind_eq_ok.mp isRead
          cases isStore.symm.trans readsStore
          obtain ⟨_, isEntries, rest⟩ := except_bind_eq_ok.mp rest
          cases isEntries.symm.trans readsEntries
          obtain ⟨_, live, rest⟩ := except_bind_eq_ok.mp rest
          cases rest
          refine ⟨_, _, ⟨rfl, Dict.get?_set_self _ _ _⟩, ?_⟩
          intro entry member
          rcases List.mem_append.mp member with old | new
          · exact all entry ((liveTokens_sublist live).subset old)
          · cases List.mem_singleton.mp new
            exact ⟨_, rfl, added digest hashed⟩

theorem tokens_issue (moment : JoinMoment) (nodeId : PyStr) :
    Within (Agree fun stores : AuthStores => stores.tokens) (issue moment nodeId) := by
  refine within_bind within_read fun stores => ?_
  refine within_bind (within_ofExcept _) fun _ => ?_
  refine within_bind (within_modify fun _ => rfl) fun _ => ?_
  refine within_bind (within_bind within_read fun stores => ?_) fun _ => within_pure _
  split
  · exact within_modify fun _ => rfl
  · exact within_raise _

theorem tokens_register (moment : JoinMoment) (nodeId : PyStr) :
    Within (Agree fun stores : AuthStores => stores.tokens) (register moment nodeId) := by
  refine within_bind within_read fun stores => ?_
  refine within_bind (within_ofExcept _) fun nodes => ?_
  refine within_bind (within_ofExcept _) fun refused => ?_
  refine within_ite (fun _ => within_raise _) fun _ => ?_
  refine within_bind (within_ofExcept _) fun record => ?_
  exact within_bind (within_modify fun _ => rfl) fun _ => tokens_saveVaultState

/-- What leaves the token store alone leaves its records of their kind. -/
theorem keepsTokens_of_agree {α : Type} {action : Foundation.Action AuthStores AuthFault α}
    (agree : Within (Agree fun stores : AuthStores => stores.tokens) action) :
    Within (KeepsTokens kind) action := by
  intro stores tokens
  have same : (action.run stores).2.tokens = stores.tokens := agree stores
  rw [same]
  exact tokens

theorem keepsTokens_enroll {moment : JoinMoment} {found : JoinMatch}
    (added : ∀ digest, hashText py moment.token.text = .ok digest →
      kind (moment.tokenRecord found.nodeId digest)) :
    Within (KeepsTokens kind) (enroll py moment found) := by
  have issued : Within (KeepsTokens kind) _ := keepsTokens_of_agree (tokens_issue moment found.nodeId)
  have registered : Within (KeepsTokens kind) _ :=
    keepsTokens_of_agree (tokens_register moment found.nodeId)
  refine within_bind (within_catching issued refuseIdentity) fun certificate => ?_
  refine within_bind (within_modify fun _ => id) fun _ => ?_
  refine within_bind (keepsTokens_addToken added) fun _ => ?_
  exact within_bind (within_catching registered .registration) fun _ => within_pure _

theorem tokens_createInvite (moment : InviteMoment) (nodeId ttl : Json) :
    Within (Agree fun stores : AuthStores => stores.tokens)
      (createInvite py calendar moment nodeId ttl) := by
  refine within_bind (within_ofExcept _) fun seconds => ?_
  refine within_bind (within_ofOption _ _) fun expiresAt => ?_
  refine within_bind (within_ofExcept _) fun digest => ?_
  refine within_bind within_read fun stores => ?_
  refine within_bind (within_ofExcept _) fun store => ?_
  refine within_bind (within_ofExcept _) fun entries => ?_
  refine within_bind (within_ofExcept _) fun kept => ?_
  exact within_bind (within_modify fun _ => rfl) fun _ => within_pure _

theorem tokens_touchVaultNode (now : PlainText) (nodeId : PyStr) :
    Within (Agree fun stores : AuthStores => stores.tokens) (touchVaultNode now nodeId) := by
  refine within_bind within_read fun stores => ?_
  refine within_bind (within_ofExcept _) fun nodes => ?_
  refine within_ite (fun _ => ?_) fun _ => within_pure ()
  refine within_bind (within_ofExcept _) fun record => ?_
  exact within_bind (within_modify fun _ => rfl) fun _ => tokens_saveVaultState

theorem exists_of_mem_mapM {ε α β : Type} {make : α → Except ε β} {items : List α}
    {images : List β} (mapped : items.mapM make = .ok images) {image : β}
    (member : image ∈ images) : ∃ item ∈ items, make item = .ok image := by
  induction items generalizing images with
  | nil =>
      cases mapped
      cases member
  | cons item rest ih =>
      rw [List.mapM_cons] at mapped
      obtain ⟨first, made, mapped⟩ := except_bind_eq_ok.mp mapped
      obtain ⟨others, later, mapped⟩ := except_bind_eq_ok.mp mapped
      cases mapped
      rcases List.mem_cons.mp member with rfl | tail
      · exact ⟨item, List.mem_cons_self, made⟩
      · obtain ⟨other, isOther, same⟩ := ih later tail
        exact ⟨other, List.mem_cons_of_mem _ isOther, same⟩

/-- Marking the tokens of a node leaves records of a kind that does not look at the mark. -/
theorem tokensAre_marked {nodeId : PyStr} {file : StoreFile} {marked : Dict PyStr Json}
    (tokens : TokensAre kind file) (isMarked : markTokens nodeId file = .ok marked)
    (unseen : ∀ item, kind item → kind (item.set (lit "revoked") (.bool true))) :
    TokensAre kind (.decoded (.obj marked)) := by
  obtain ⟨store, entries, holds, all⟩ := tokens
  obtain ⟨readsStore, readsEntries⟩ := holds.read [(lit "tokens", .arr [])]
  obtain ⟨_, isStore, rest⟩ := except_bind_eq_ok.mp isMarked
  cases isStore.symm.trans readsStore
  obtain ⟨_, isEntries, rest⟩ := except_bind_eq_ok.mp rest
  cases isEntries.symm.trans readsEntries
  obtain ⟨others, mapped, rest⟩ := except_bind_eq_ok.mp rest
  rw [holds.2] at rest
  cases rest
  refine ⟨_, _, ⟨rfl, Dict.get?_set_self _ _ _⟩, ?_⟩
  intro entry member
  obtain ⟨before, isEntry, made⟩ := exists_of_mem_mapM mapped member
  obtain ⟨item, rfl, isKind⟩ := all before isEntry
  obtain ⟨fields, isItem, rest⟩ := except_bind_eq_ok.mp made
  cases isItem
  split at rest
  · cases rest
    exact ⟨_, rfl, unseen item isKind⟩
  · cases rest
    exact ⟨item, rfl, isKind⟩

/-! ## Where the records come from -/

/-- The step is a `join` that presents a valid code for the node and draws a token with this
hash and this expiry. -/
def DrawsToken (py : Platform) (event : MeshAuthEvent) (nodeId digest expiresAt : PyStr) : Prop :=
  ∃ moment claimed code requested found, event.input = .join moment claimed code requested ∧
    findMatch py moment claimed code requested event.before.toAuthStores = .ok found ∧
    found.nodeId = nodeId ∧ hashText py moment.token.text = .ok digest ∧
    moment.tokenExpiresAt.text = expiresAt

/-- The record is that of a token that was drawn in the past. -/
def DrawnIn (py : Platform) (past : List MeshAuthEvent) (item : Dict PyStr Json) : Prop :=
  ∃ event ∈ past, ∃ nodeId digest expiresAt, DrawsToken py event nodeId digest expiresAt ∧
    item.get? (lit "node_id") = some (.str nodeId) ∧
    item.get? (lit "token_hash") = some (.str digest) ∧
    item.get? (lit "expires_at") = some (.str expiresAt)

theorem DrawnIn.mono {past more : List MeshAuthEvent} {item : Dict PyStr Json}
    (drawn : DrawnIn py past item) (within : past ⊆ more) : DrawnIn py more item := by
  obtain ⟨event, member, rest⟩ := drawn
  exact ⟨event, within member, rest⟩

theorem DrawnIn.mark {past : List MeshAuthEvent} {item : Dict PyStr Json}
    (drawn : DrawnIn py past item) : DrawnIn py past (item.set (lit "revoked") (.bool true)) := by
  obtain ⟨event, member, nodeId, digest, expiresAt, draws, node, hash, expiry⟩ := drawn
  refine ⟨event, member, nodeId, digest, expiresAt, draws, ?_, ?_, ?_⟩
  · rw [Dict.get?_set_of_ne (by decide), node]
  · rw [Dict.get?_set_of_ne (by decide), hash]
  · rw [Dict.get?_set_of_ne (by decide), expiry]

/-- After each step the token store still has records of drawn tokens only. -/
theorem drawn_step {past : List MeshAuthEvent} {stores : MeshStores} {call : MeshAuthCall}
    {event : MeshAuthEvent} (isBefore : event.before = stores) (isInput : event.input = call)
    (drawn : TokensAre (DrawnIn py past) stores.tokens) :
    TokensAre (DrawnIn py (past ++ [event]))
      ((meshAuthMachine py calendar authority).step stores call).2.tokens := by
  have known : TokensAre (DrawnIn py (past ++ [event])) stores.tokens :=
    drawn.mono fun item isDrawn => isDrawn.mono (List.subset_append_left past [event])
  cases call with
  | invite moment nodeId ttl =>
      exact keepsTokens_of_agree (tokens_createInvite moment nodeId ttl) stores.toAuthStores known
  | verify moment token =>
      change TokensAre _ ((verifyToken py authority moment token).run stores).2.tokens
      cases found : tokenNode py authority moment token stores with
      | error fault =>
          rw [verifyToken, run_bind_ok (run_read _), run_bind_error (by rw [run_ofExcept, found])]
          exact known
      | ok nodeId =>
          rw [verifyToken, run_bind_ok (run_read _), run_bind_ok (by rw [run_ofExcept, found])]
          cases nodeId with
          | none => exact known
          | some nodeId =>
              have touched := keepsTokens_of_agree
                (tokens_touchVaultNode moment.touchedAt nodeId) stores.toAuthStores known
              rcases ran : (touchVaultNode moment.touchedAt nodeId).run stores.toAuthStores with
                ⟨result, after⟩
              rw [ran] at touched
              have vault : (onAuth (touchVaultNode moment.touchedAt nodeId)).run stores =
                  (result, { stores with toAuthStores := after }) := by
                rw [run_onAuth, ran]
              cases result with
              | error fault =>
                  rw [run_bind_error vault]
                  exact touched
              | ok _ =>
                  rw [run_bind_ok vault]
                  exact touched
  | relayedJoin now nodeId role => exact known
  | restart times =>
      change TokensAre _ ((restartMesh py times).run stores).2.tokens
      have same : ((restartMesh py times).run stores).2.tokens = stores.tokens := by
        have within : Within (Agree fun stores : MeshStores => stores.tokens)
            (restartMesh py times) := by
          refine within_bind within_read fun stores => ?_
          refine within_bind (within_ofExcept _) fun state => ?_
          refine within_bind (within_modify fun _ => rfl) fun _ => ?_
          exact within_bind (within_ofExcept _) fun texts => fun _ => rfl
        exact within stores
      rw [same]
      exact known
  | join moment claimed code requested =>
      change TokensAre _ ((join py moment claimed code requested).run stores.toAuthStores).2.tokens
      cases matched : findMatch py moment claimed code requested stores.toAuthStores with
      | error fault =>
          rw [run_join_of_refused matched]
          exact known
      | ok found =>
          rw [run_join_of_match matched]
          refine keepsTokens_enroll (fun digest hashed => ?_) stores.toAuthStores known
          refine ⟨event, by simp, found.nodeId, digest, moment.tokenExpiresAt.text, ?_, rfl, rfl, rfl⟩
          exact ⟨moment, claimed, code, requested, found, isInput, by rw [isBefore, matched], rfl,
            hashed, rfl⟩
  | revoke now nodeId =>
      rcases (@effect_revokeNode py now nodeId stores).tokens with same | ⟨marked, isMarked, after⟩
      · change TokensAre _ ((revokeNode py now nodeId).run stores).2.tokens
        rw [same]
        exact known
      · change TokensAre _ ((revokeNode py now nodeId).run stores).2.tokens
        rw [after]
        exact tokensAre_marked known isMarked fun item isDrawn => isDrawn.mark

theorem drawn_run (calls : List MeshAuthCall) :
    TokensAre (DrawnIn py ((meshAuthMachine py calendar authority).trace .fresh calls))
      ((meshAuthMachine py calendar authority).run .fresh calls).tokens := by
  have start : TokensAre (DrawnIn py []) MeshStores.fresh.tokens :=
    ⟨_, [], ⟨rfl, rfl⟩, fun entry member => absurd member List.not_mem_nil⟩
  exact @Machine.history_invariant _ _ _ (meshAuthMachine py calendar authority) (fun _ _ => True)
    (fun past stores => TokensAre (DrawnIn py past) stores.tokens)
    (fun past stores call drawn _ => drawn_step rfl rfl drawn) [] .fresh calls start
    (Machine.allowed_of_forall _ (fun _ _ _ => trivial) _)

/-! ## A node that joins and is revoked -/

/-- The certificate of the node `bob`. -/
def bobCert : NodeCert sealing where
  nodeId := lit "bob"
  publicKey := firstCert.publicKey
  issuedAt := JoinMoment.sample.issuedAt
  expiresAt := JoinMoment.sample.tokenExpiresAt
  idChars := by decide
  validKey := firstCert.validKey

theorem plain_firstKey : ∀ c ∈ firstCert.publicKey, IsPlain c := isPlain_lit _ (by decide)

/-- A join of `bob` with a certificate that is signed. -/
def JoinMoment.sealed : JoinMoment :=
  { JoinMoment.sample with
    publicKey := ⟨firstCert.publicKey, plain_firstKey⟩
    expiresAt := JoinMoment.sample.tokenExpiresAt
    signature := sealing.sign bobCert.material }

/-- A second after it. -/
def TokenMoment.sample : TokenMoment where
  parseIso := Calendar.sample.parseIso
  now := 2000000
  identityClock := fun _ => 2000000
  touchedAt := JoinMoment.sample.now

/-- `bob` is invited, joins with the code and presents the token. -/
def bobJoins : List MeshAuthCall :=
  [.invite .sample (.str (lit "bob")) (.int 300),
    .join .sealed (.str (lit "bob")) (.str (lit "c0de")) .null, .verify .sample (.str (lit "t"))]

/-- `bob` is revoked, the program starts again, and the token is presented once more. -/
def bobLeaves : List MeshAuthCall :=
  [.revoke JoinMoment.sample.now (lit "bob"), .restart fun _ => JoinMoment.sample.now,
    .verify .sample (.str (lit "t"))]

/-- Whether the reply is that the token is `bob`'s. -/
def MeshAuthReply.isBob : MeshAuthReply → Bool
  | .verified (some nodeId) => nodeId == lit "bob"
  | _ => false

/-- Whether the reply is that the node has been revoked. -/
def MeshAuthReply.isRevoked : MeshAuthReply → Bool
  | .revoked found => found
  | _ => false

theorem MeshAuthReply.eq_of_isBob {reply : MeshAuthReply} (isBob : reply.isBob = true) :
    reply = .verified (some (lit "bob")) := by
  unfold MeshAuthReply.isBob at isBob
  split at isBob
  · rw [eq_of_beq isBob]
  · cases isBob

theorem MeshAuthReply.eq_of_isRevoked {reply : MeshAuthReply} (isRevoked : reply.isRevoked = true) :
    reply = .revoked true := by
  unfold MeshAuthReply.isRevoked at isRevoked
  split at isRevoked
  · rw [isRevoked]
  · cases isRevoked

abbrev bobMesh : Machine MeshStores MeshAuthCall MeshAuthReply :=
  meshAuthMachine .plain .sample sealing

theorem bob_is_accepted : (bobMesh.step (bobMesh.run .fresh (bobJoins.take 2))
    (.verify .sample (.str (lit "t")))).1.isBob = true := by decide +kernel

theorem bob_is_revoked : (bobMesh.step (bobMesh.run .fresh bobJoins)
    (.revoke JoinMoment.sample.now (lit "bob"))).1.isRevoked = true := by decide +kernel

/-! ## The two results -/

/-- Once a revocation of a node has succeeded, no token of the node is accepted again, whatever
is called afterwards and however often the program is started again. -/
theorem revoked_stays_out {start : MeshStores} {calls : List MeshAuthCall}
    {past future : List MeshAuthEvent} {event : MeshAuthEvent}
    (split : (meshAuthMachine py calendar authority).trace start calls = past ++ event :: future)
    {now : PlainText} {nodeId : PyStr} (asked : event.input = .revoke now nodeId)
    (done : event.output = .revoked true) :
    ∀ later ∈ future, later.output ≠ .verified (some nodeId) :=
  not_verified_after split asked done

theorem revoked_stays_out_bob : ∃ past event future,
    bobMesh.trace .fresh (bobJoins ++ bobLeaves) = past ++ event :: future ∧
      event.output = .revoked true ∧
      ∀ later ∈ future, later.output ≠ .verified (some (lit "bob")) := by
  obtain ⟨past, event, future, split, asked, output⟩ := Machine.exists_event bobMesh .fresh bobJoins
    (.revoke JoinMoment.sample.now (lit "bob")) bobLeaves.tail
  have done := output.trans (MeshAuthReply.eq_of_isRevoked bob_is_revoked)
  exact ⟨past, event, future, split, done, revoked_stays_out split asked done⟩

/-- A token that is accepted has the hash of one that an earlier `join` of the node drew, with a
valid code, and that has not expired; the node is in good standing, and no revocation of it
has succeeded before. -/
theorem accepted_token_drawn {calls : List MeshAuthCall} {past future : List MeshAuthEvent}
    {event : MeshAuthEvent}
    (split : (meshAuthMachine py calendar authority).trace .fresh calls = past ++ event :: future)
    {moment : TokenMoment} {token : Json} {nodeId : PyStr}
    (asked : event.input = .verify moment token)
    (accepted : event.output = .verified (some nodeId)) :
    (∃ text digest expiresAt expiry, token = .str text ∧ hashText py text = .ok digest ∧
      (∃ earlier ∈ past, DrawsToken py earlier nodeId digest expiresAt) ∧
      moment.parseIso expiresAt = .value expiry ∧ moment.now < expiry) ∧
    GoodStanding py authority moment.parseIso event.before nodeId ∧
    ∀ earlier ∈ past, ∀ now, earlier.input = .revoke now nodeId → earlier.output ≠ .revoked true := by
  have unrevoked : ∀ earlier ∈ past, ∀ now, earlier.input = .revoke now nodeId →
      earlier.output ≠ .revoked true := by
    intro earlier member now revoked done
    obtain ⟨before, between, isPast⟩ := List.append_of_mem member
    rw [isPast, List.append_assoc, List.cons_append] at split
    exact not_verified_after split revoked done event (by simp) accepted
  obtain ⟨earlier, call, rest, rfl, rfl, rfl, -⟩ := Machine.trace_split split
  cases asked
  obtain ⟨found, returned, same⟩ := authReply_eq accepted fun _ => by simp
  cases same
  obtain ⟨text, digest, item, isText, hashed, stored, granted, standing⟩ :=
    tokenNode_eq_some (tokenNode_of_verifyToken (Prod.ext returned rfl))
  refine ⟨?_, standing, unrevoked⟩
  obtain ⟨drawing, member, owner, hash, expiresAt, draws, node, hasHash, expires⟩ :=
    (drawn_run earlier).of_mem stored
  cases node.symm.trans granted.node
  have sameHash : hash = digest := by
    have both := granted.hash
    rw [getOr, hasHash] at both
    exact Json.str.inj both
  subst sameHash
  obtain ⟨expiry, isExpiry, later⟩ := granted.unexpired
  refine ⟨text, hash, expiresAt, expiry, isText, hashed, ⟨drawing, member, draws⟩, ?_, later⟩
  obtain ⟨value, isValue, rest⟩ := except_bind_eq_ok.mp isExpiry
  rw [getItem, expires] at isValue
  cases isValue
  cases parsed : moment.parseIso expiresAt with
  | value instant =>
      simp only [parsed] at rest
      cases rest
      rfl
  | valueError =>
      simp only [parsed] at rest
      cases rest
  | overflowError =>
      simp only [parsed] at rest
      cases rest

theorem accepted_token_drawn_bob : ∃ past event future,
    bobMesh.trace .fresh bobJoins = past ++ event :: future ∧
      event.output = .verified (some (lit "bob")) ∧
      ∃ digest expiresAt, ∃ earlier ∈ past,
        DrawsToken .plain earlier (lit "bob") digest expiresAt := by
  obtain ⟨past, event, future, split, asked, output⟩ := Machine.exists_event bobMesh .fresh
    (bobJoins.take 2) (.verify .sample (.str (lit "t"))) []
  have accepted := output.trans (MeshAuthReply.eq_of_isBob bob_is_accepted)
  obtain ⟨⟨text, digest, expiresAt, expiry, -, -, drawn, -⟩, -, -⟩ :=
    accepted_token_drawn split asked accepted
  exact ⟨past, event, future, split, accepted, digest, expiresAt, drawn⟩

end HermesMesh.Collab
