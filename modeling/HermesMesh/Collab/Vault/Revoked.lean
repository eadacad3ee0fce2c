import HermesMesh.Collab.Vault.Calls

/-!
# Nodes that are revoked for good

A node is revoked for good once the call that revokes it has saved the state: no call of the
vault gives it another status, in the memory or in `state.json`, so that it is revoked after any
calls and restarts, also after relayed `join` events.  Only a task whose file takes the place of
`state.json` can undo it.
-/

namespace HermesMesh.Collab

open Python Foundation Foundation.Action CollabVault

variable {py : Platform}

/-- The node is revoked, in the memory and in `state.json`. -/
def Barred (nodeId : PyStr) (vault : CollabVault) : Prop := Both (IsRevoked nodeId) vault

theorem lasting_isRevoked (nodeId : PyStr) : Lasting (IsRevoked nodeId) where
  others _ _ _ _ revoked := revoked
  nodes := by
    intro found state other record foundRevoked revoked stays
    rw [IsRevoked, Dict.get?_set]
    split
    · next same =>
        rw [same] at foundRevoked
        rw [Option.map_some, stays foundRevoked]
    · exact revoked

theorem barred_step {nodeId : PyStr} {vault : CollabVault} (barred : Barred nodeId vault)
    {call : StoreCall} (spares : call.Spares py vault) :
    Barred nodeId ((storeMachine py).step vault call).2 :=
  both_step (lasting_isRevoked nodeId) (fun _ _ revoked => revoked) barred spares

theorem barred_run {nodeId : PyStr} {vault : CollabVault} (barred : Barred nodeId vault)
    {calls : List StoreCall} (spare : (storeMachine py).Allowed (StoreCall.Spares py) vault calls) :
    Barred nodeId ((storeMachine py).run vault calls) :=
  Machine.run_invariant (StoreCall.Spares py) (Barred nodeId)
    (fun _ _ barred spares => barred_step barred spares) barred spare

/-! ## Revocations -/

/-- The step revokes the node: `mark_revoked`, or `revoke_node` of a node that the vault knows,
that has returned. -/
def Revokes (nodeId : PyStr) (event : Event CollabVault StoreCall (Except Fault Unit)) : Prop :=
  event.output = .ok () ∧ ((∃ moment, event.input = .markRevoked moment nodeId) ∨
    ∃ moment, event.input = .revokeNode moment nodeId ∧
      (event.before.state.nodes.get? nodeId).isSome = true)

/-- A record that is written and saved. -/
theorem barred_of_saved {nodeId : PyStr} {vault : CollabVault} {record : NodeRecord}
    (revoked : record.status = .revoked)
    (saved : (saveState.run (setNode nodeId record vault)).1 = .ok ()) :
    Barred nodeId (saveState.run (setNode nodeId record vault)).2 := by
  have isRevoked : IsRevoked nodeId (setNode nodeId record vault).state := by
    rw [IsRevoked, setNode, setState, Dict.get?_set_self, Option.map_some, revoked]
  rw [run_saveState (isOk_saveState_iff.mp saved)]
  exact ⟨isRevoked, _, rfl, isRevoked⟩

theorem barred_of_revokes {nodeId : PyStr} {event : Event CollabVault StoreCall (Except Fault Unit)}
    (stepped : (storeMachine py).step event.before event.input = (event.output, event.after))
    (revokes : Revokes nodeId event) : Barred nodeId event.after := by
  have isAfter : ((storeMachine py).step event.before event.input).2 = event.after :=
    congrArg Prod.snd stepped
  have returned : ((storeMachine py).step event.before event.input).1 = .ok () :=
    (congrArg Prod.fst stepped).trans revokes.1
  rw [← isAfter]
  rcases revokes.2 with ⟨moment, isCall⟩ | ⟨moment, isCall, known⟩
  · rw [isCall] at returned ⊢
    change ((CollabVault.markRevoked moment nodeId).run event.before).1 = .ok () at returned
    change Barred nodeId ((CollabVault.markRevoked moment nodeId).run event.before).2
    rw [CollabVault.markRevoked, run_bind_ok (run_read _), run_bind_ok (run_modify _ _)] at returned ⊢
    exact barred_of_saved rfl returned
  · obtain ⟨record, found⟩ := Option.isSome_iff_exists.mp known
    rw [isCall] at returned ⊢
    rw [@step_of_perform py _ _ (CollabVault.revokeNode moment nodeId) rfl]
    obtain ⟨value, isValue⟩ := (run_discard _ event.before).2.mp returned
    rw [CollabVault.revokeNode, run_bind_ok (run_read _), found] at isValue ⊢
    rw [run_bind_ok (run_modify _ _)] at isValue ⊢
    obtain ⟨⟨⟩, saved, -⟩ := run_bind_fst_eq_ok.mp isValue
    rw [run_bind_ok (run_saveState (isOk_saveState_iff.mp saved))]
    have barred := barred_of_saved rfl saved
    rwa [run_saveState (isOk_saveState_iff.mp saved)] at barred

/-- A node whose revocation has been saved is revoked in every later state, whatever is called
and however often the program restarts, as long as no task takes the place of `state.json`, and
every later registration of it is refused. -/
theorem revoked_for_good {vault : CollabVault} {calls : List StoreCall} {nodeId : PyStr}
    {past future : List (Event CollabVault StoreCall (Except Fault Unit))}
    {event : Event CollabVault StoreCall (Except Fault Unit)}
    (split : (storeMachine py).trace vault calls = past ++ event :: future)
    (revokes : Revokes nodeId event)
    (spare : ∀ later ∈ future, later.input.Spares py later.before) :
    ∀ later ∈ future, Barred nodeId later.after ∧
      ∀ moment role ttl, later.input = .registerNode moment nodeId role ttl →
        later.output = .error (.vaultError "node is revoked") := by
  have stepped : (storeMachine py).step event.before event.input = (event.output, event.after) := by
    apply Machine.step_of_mem_trace
    rw [split]
    exact List.mem_append_right _ List.mem_cons_self
  obtain ⟨earlier, input, rest, -, -, -, rfl⟩ := Machine.trace_split split
  apply @Machine.trace_invariant _ _ _ (storeMachine py) (StoreCall.Spares py) (Barred nodeId)
    (fun later => Barred nodeId later.after ∧
      ∀ moment role ttl, later.input = .registerNode moment nodeId role ttl →
        later.output = .error (.vaultError "node is revoked"))
  · exact fun _ _ barred spares => barred_step barred spares
  · intro state call barred spares
    refine ⟨barred_step barred spares, ?_⟩
    rintro moment role ttl rfl
    have refused : (registerNode moment nodeId role ttl).run state =
        (.error (.vaultError "node is revoked"), state) := by
      rw [registerNode, run_bind_ok (run_read _)]
      exact congrArg (fun action : Action CollabVault Fault Unit => action.run state)
        (if_pos barred.1)
    exact congrArg Prod.fst refused
  · exact barred_of_revokes stepped revokes
  · exact ((storeMachine py).allowed_iff_trace).mpr spare

/-- A node that is revoked before it has joined, a task, and a `join` of the node after a
restart. -/
def barredJoin : List StoreCall :=
  [.markRevoked .epoch (lit "n"), .upsertTask .epoch (JsonObject.empty.setText (lit "id") (lit "t")),
    .reopen, .registerNode .epoch (lit "n") (lit "collab") 0]

/-- The file of the task is no `state.json`. -/
theorem spares_barredJoin {vault : CollabVault} (here : vault.root = []) :
    (storeMachine .plain).Allowed (StoreCall.Spares .plain) vault barredJoin.tail := by
  have spares : (fresh []).Spares (lit "t") := by
    intro status
    cases status <;> decide +kernel
  have isId : taskIdText .plain .epoch (JsonObject.empty.setText (lit "id") (lit "t")) = lit "t" := rfl
  refine ⟨?_, trivial, trivial, trivial⟩
  rw [StoreCall.Spares, isId]
  exact (spares_congr here).mpr spares

theorem revoked_for_good_join :
    ∃ event future, (storeMachine .plain).trace (fresh []) barredJoin = [] ++ event :: future ∧
      Revokes (lit "n") event ∧ future.length = 3 ∧
      ∀ later ∈ future, Barred (lit "n") later.after ∧
        ∀ moment role ttl, later.input = .registerNode moment (lit "n") role ttl →
          later.output = .error (.vaultError "node is revoked") := by
  have returns : ((storeMachine .plain).step (fresh []) (.markRevoked .epoch (lit "n"))).1 =
      .ok () := by
    change ((CollabVault.markRevoked .epoch (lit "n")).run (fresh [])).1 = _
    rw [CollabVault.markRevoked, run_bind_ok (run_read _), run_bind_ok (run_modify _ _),
      isOk_saveState_iff]
    decide +kernel
  rcases stepped : (storeMachine .plain).step (fresh []) (.markRevoked .epoch (lit "n")) with
    ⟨output, after⟩
  rw [stepped] at returns
  have here : after.root = [] := by
    have files := @files_step .plain (.markRevoked .epoch (lit "n")) (by simp) (fresh [])
    rw [stepped] at files
    exact congrArg Prod.fst files
  have split := Machine.trace_cons_of_step stepped barredJoin.tail
  have spare := (storeMachine .plain).allowed_iff_trace.mp (spares_barredJoin here)
  have long : ((storeMachine .plain).trace after barredJoin.tail).length = 3 := by
    rw [← List.length_map Event.input, Machine.inputs_trace]
    rfl
  have revokes : Revokes (lit "n") ⟨fresh [], .markRevoked .epoch (lit "n"), output, after⟩ :=
    ⟨returns, .inl ⟨_, rfl⟩⟩
  exact ⟨_, _, split, revokes, long, @revoked_for_good .plain _ _ _ [] _ _ split revokes spare⟩

end HermesMesh.Collab
