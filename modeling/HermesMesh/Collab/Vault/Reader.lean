import HermesMesh.Collab.Vault.ChainRuns

/-!
# Reading the ledger

`read_ledger` gives the last objects of the file.  Whatever `append_event` has written before,
and also lines at which `str.splitlines` would break, it reads back entry by entry.
-/

namespace HermesMesh.Collab

open Python Foundation Foundation.Action CollabVault

/-- `max(1, min(limit, 500))` -/
def clampLimit (limit : Int) : Int := max 1 (min limit 500)

/-- The objects in the lines of a file; a line that is no JSON is left out. -/
def objectLines (text : PyStr) : List (Dict PyStr Json) :=
  (fileLines text).filterMap fun line => (loads line).bind asObject

/-- `read_ledger`; `none` is the `UnicodeDecodeError` that it lets through. -/
def readLedger (limit : Int) (ledger : ByteArray) : Option (List (Dict PyStr Json)) :=
  (readText ledger).map fun text => lastN (clampLimit limit).toNat (objectLines text)

/-- The line of an entry. -/
def LedgerEntry.line (entry : LedgerEntry) : PyStr := entry.toJson.dumps .canonical

/-- The fields of an entry in the order in which they are read back. -/
def LedgerEntry.row (entry : LedgerEntry) : Dict PyStr Json :=
  Json.orderFields .canonical (Json.orderedFields .canonical entry.fields)

/-- The ledger holds these entries, and the audit file is a text. -/
structure HoldsEntries (entries : List LedgerEntry) (vault : CollabVault) : Prop where
  ledger : encodeUtf8 (joinRows (entries.map LedgerEntry.line)) = some vault.ledger
  audit : ∃ text, encodeUtf8 text = some vault.audit

namespace HoldsEntries

variable {py : Platform} {entries : List LedgerEntry} {vault : CollabVault}

theorem fresh (root : Path) : HoldsEntries [] (.fresh root) :=
  ⟨encodeUtf8_nil, [], encodeUtf8_nil⟩

theorem of_files {after : CollabVault} (holds : HoldsEntries entries vault)
    (kept : after.files = vault.files) : HoldsEntries entries after := by
  have ledger : after.ledger = vault.ledger := congrArg (fun files => files.2.1) kept
  have audit : after.audit = vault.audit := congrArg (fun files => files.2.2) kept
  constructor
  · rw [ledger]
    exact holds.ledger
  · rw [audit]
    exact holds.audit

/-- `append_event` adds its entry, or none. -/
theorem appendEvent (holds : HoldsEntries entries vault) (moment : Moment) (node op : PyStr)
    (payload : JsonObject) (sig : PyStr) :
    ∃ more, HoldsEntries (entries ++ more)
      ((CollabVault.appendEvent py moment node op payload sig).run vault).2 := by
  cases verified : vault.chainVerified py with
  | false =>
      refine ⟨[], ?_⟩
      rw [run_appendEvent_tampered verified, List.append_nil]
      exact holds.of_files (files_foundTampered vault)
  | true =>
      cases hashed : hashOf py (newEntry moment node op payload sig).toJson with
      | none =>
          refine ⟨[], ?_⟩
          rw [run_appendEvent_unencodable verified hashed, List.append_nil]
          exact holds
      | some entryHash =>
          obtain ⟨_, previous, hash, ledgerBytes, auditBytes, -, -, -, ledgerLine, auditLine, ran⟩ :=
            run_appendEvent_recorded verified hashed
          obtain ⟨text, isText⟩ := holds.audit
          refine ⟨[newEntry moment node op payload sig], ?_⟩
          rw [ran]
          refine of_files ⟨?_, ?_⟩ (within_files_applyAndSave py moment _
            (vault.withLines ledgerBytes auditBytes))
          · rw [List.map_append, joinRows_append]
            have row : joinRows ([newEntry moment node op payload sig].map LedgerEntry.line) =
                (newEntry moment node op payload sig).toJson.dumps .canonical ++ [lineFeed] := by
              rw [List.map_singleton, joinRows_cons, joinRows_nil]
              rfl
            rw [row]
            exact encodeUtf8_append holds.ledger ledgerLine
          · exact ⟨_, encodeUtf8_append isText auditLine⟩

end HoldsEntries

/-! ## What is read back -/

theorem obj_row (entry : LedgerEntry) : .obj entry.row = entry.toJson.ordered .canonical := rfl

theorem objectLines_joinRows (entries : List LedgerEntry) :
    objectLines (joinRows (entries.map LedgerEntry.line)) = entries.map LedgerEntry.row := by
  have unbroken : ∀ line ∈ entries.map LedgerEntry.line, lineFeed ∉ line := by
    intro line member isEnd
    obtain ⟨entry, -, rfl⟩ := List.mem_map.mp member
    have large := Json.uncontrolled_canonical _ _ isEnd
    simp [lineFeed] at large
  rw [objectLines, fileLines_joinRows unbroken, List.map_map, List.filterMap_map]
  have reads : ∀ entry : LedgerEntry,
      (loads (entry.line ++ [lineFeed])).bind asObject = some entry.row := by
    intro entry
    rw [LedgerEntry.line, Json.loads_canonical (distinct_entry entry)
      (fun c member => List.mem_singleton.mp member ▸ by decide), Option.bind_some, ← obj_row]
    rfl
  simp only [Function.comp_def, reads]
  rw [← List.filterMap_eq_map]
  rfl

/-- `read_ledger` gives the last entries, in their order. -/
theorem readLedger_of_holds {entries : List LedgerEntry} {vault : CollabVault}
    (holds : HoldsEntries entries vault) (limit : Int) :
    readLedger limit vault.ledger =
      some (lastN (clampLimit limit).toNat (entries.map LedgerEntry.row)) := by
  have text : readText vault.ledger = some (joinRows (entries.map LedgerEntry.line)) := by
    refine readText_joinRows (fun line member => ?_) holds.ledger
    obtain ⟨entry, -, rfl⟩ := List.mem_map.mp member
    exact Json.uncontrolled_canonical _
  rw [readLedger, text, Option.map_some, objectLines_joinRows]

end HermesMesh.Collab
