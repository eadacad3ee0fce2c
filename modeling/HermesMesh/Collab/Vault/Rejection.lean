import HermesMesh.Collab.Vault.Append

/-!
# Rejected events

The relay answers "rejected" when `append_event` raises `VaultError`.  The event
is unrecorded after that only if the refusal came before the first write, and
`_apply_event` runs after both.
-/

namespace HermesMesh.Collab

open Python Foundation Foundation.Action CollabVault

variable {py : Platform}

/-- Ledger, audit file, nodes, tasks and messages are as they were. -/
structure Unrecorded (before after : CollabVault) : Prop where
  ledger : after.ledger = before.ledger
  audit : after.audit = before.audit
  nodes : after.state.nodes = before.state.nodes
  tasks : after.state.tasks = before.state.tasks
  messages : after.state.messages = before.state.messages

/-- A file is not what it was after a line has been added. -/
theorem append_line_ne {file bytes : ByteArray} {line : PyStr}
    (encoded : encodeUtf8 (line ++ [lineFeed]) = some bytes) : file ++ bytes ≠ file := by
  intro same
  have sizes := congrArg ByteArray.size same
  rw [ByteArray.size_append] at sizes
  have empty : bytes = ByteArray.empty := ByteArray.size_eq_zero_iff.mp (by omega)
  subst empty
  have texts := encodeUtf8_injective encoded encodeUtf8_nil
  simp at texts

theorem isVaultError_applyAndSave (moment : Moment) (entry : LedgerEntry) (vault : CollabVault) :
    IsVaultError ((applyAndSave py moment entry).run vault).1 ↔
      vault.RefusesEvent py entry.op entry.payload := by
  rw [← isVaultError_applyEvent py moment entry vault, applyAndSave, run_bind]
  rcases (applyEvent py moment entry).run vault with ⟨fault | value, after⟩
  · simp [IsVaultError]
  · have saved := not_isVaultError_saveState (setState (VaultState.synced entry) after)
    dsimp only
    rw [run_bind_ok (run_modify _ _), run_bind]
    rcases outcome : saveState.run _ with ⟨fault | done, last⟩
    · rw [outcome] at saved
      simpa [IsVaultError] using saved
    · simp [IsVaultError]

/-- An event that can be encoded is in the ledger even when the vault refuses it. -/
theorem refused_event_recorded {vault : CollabVault} (verified : vault.chainVerified py = true)
    {moment : Moment} {node op : PyStr} {payload : JsonObject} {sig entryHash : PyStr}
    (hashed : hashOf py (newEntry moment node op payload sig).toJson = some entryHash) :
    (IsVaultError ((appendEvent py moment node op payload sig).run vault).1 ↔
        vault.RefusesEvent py op payload) ∧
      ((appendEvent py moment node op payload sig).run vault).2.ledger ≠ vault.ledger := by
  obtain ⟨-, -, -, ledgerBytes, auditBytes, -, -, -, ledgerEq, -, same⟩ :=
    run_appendEvent_recorded verified hashed
  rw [same]
  refine ⟨isVaultError_applyAndSave moment _ (vault.withLines ledgerBytes auditBytes), ?_⟩
  have kept := within_files_applyAndSave py moment (newEntry moment node op payload sig)
    (vault.withLines ledgerBytes auditBytes)
  have ledgers := congrArg (fun files => files.2.1) kept
  exact fun unchanged => append_line_ne ledgerEq (ledgers.symm.trans unchanged)

/-- A rejected event is unrecorded exactly when it was rejected before the first
write: the chain does not verify, or the event cannot be encoded, or the vault does
not refuse to apply it and so there is no rejection. -/
theorem rejected_event_unrecorded_iff (vault : CollabVault) (moment : Moment) (node op : PyStr)
    (payload : JsonObject) (sig : PyStr) :
    (IsVaultError ((appendEvent py moment node op payload sig).run vault).1 →
        Unrecorded vault ((appendEvent py moment node op payload sig).run vault).2) ↔
      (vault.chainVerified py = false ∨
        canonical (newEntry moment node op payload sig).toJson = none ∨
        ¬vault.RefusesEvent py op payload) := by
  cases verified : vault.chainVerified py with
  | false =>
      rw [run_appendEvent_tampered verified]
      simp only [true_or, iff_true]
      exact fun _ => ⟨by simp, by simp, by simp, by simp, by simp⟩
  | true =>
      cases hashed : hashOf py (newEntry moment node op payload sig).toJson with
      | none =>
          have unencodable : canonical (newEntry moment node op payload sig).toJson = none :=
            Option.map_eq_none_iff.mp hashed
          rw [run_appendEvent_unencodable verified hashed]
          simp [IsVaultError, unencodable]
      | some entryHash =>
          have encodable : canonical (newEntry moment node op payload sig).toJson ≠ none := by
            intro unencodable
            rw [hashOf, unencodable] at hashed
            cases hashed
          obtain ⟨refused, recorded⟩ := refused_event_recorded verified hashed
          simp only [Bool.true_eq_false, encodable, false_or, ← refused]
          exact ⟨fun unrecorded failed => recorded (unrecorded failed).ledger,
            fun accepted failed => absurd failed accepted⟩

/-- A task whose status is none of the three. -/
def archivedTask : JsonObject :=
  (JsonObject.empty.setText (lit "id") (lit "t1")).setText (lit "status") (lit "archived")

theorem chainVerified_fresh (root : Path) : (fresh root).chainVerified py = true := by
  have empty : readText ByteArray.empty = some [] := by
    rw [readText, decodeUtf8_of_encodeUtf8 encodeUtf8_nil]
    rfl
  simp [chainVerified, verifyAuditChain, ledgerRows, auditLines_of_readText empty, fresh, empty,
    splitLines, fileLines, objectsOf, decodeLines, checkRows]

theorem archived_task_recorded :
    ¬(IsVaultError ((appendEvent .plain .epoch (lit "node-a") (lit "task") archivedTask
          (lit "sig")).run (fresh [])).1 →
        Unrecorded (fresh []) ((appendEvent .plain .epoch (lit "node-a") (lit "task") archivedTask
          (lit "sig")).run (fresh [])).2) := by
  obtain ⟨entryHash, hashed⟩ : ∃ hash, hashOf .plain
      (newEntry .epoch (lit "node-a") (lit "task") archivedTask (lit "sig")).toJson = some hash := by
    refine hashOf_isSome_of_encodable (by decide) (allStrings_newEntry
      (fun _ => encodable_of_plain) (encodable_lit _) (encodable_lit _) ?_ (encodable_lit _))
    simp [archivedTask, JsonObject.setText, JsonObject.toJson, JsonObject.empty, Dict.set,
      Json.AllStrings, Json.AllStringsFields, encodable_lit]
  obtain ⟨refused, recorded⟩ := refused_event_recorded (chainVerified_fresh []) hashed
  intro unrecorded
  refine recorded (unrecorded (refused.mpr (.inl ⟨rfl, by decide +kernel, ?_⟩))).ledger
  decide +kernel

end HermesMesh.Collab
