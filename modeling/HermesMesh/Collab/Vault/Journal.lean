import HermesMesh.Collab.Vault.Calls
import HermesMesh.Collab.Vault.Reader
import HermesMesh.Foundation.Refinement

/-!
# The vault as a journal

An abstract vault is the list of the entries that it has recorded.  The vault refines it: the
ledger holds these entries, whatever is called and however often the program restarts.  The
messages of the state, also those in `state.json`, are the last ones among them, as long as no
call that has recorded a message fails to save it and no task takes the place of the state.
-/

namespace HermesMesh.Collab

open Python Foundation Foundation.Action CollabVault

variable {py : Platform}

/-! ## The abstract vault -/

/-- The entries that are recorded, oldest first. -/
def journalMachine : Machine (List LedgerEntry) LedgerEntry Unit where
  step entries entry := ((), entries ++ [entry])

theorem run_journalMachine (entries more : List LedgerEntry) :
    journalMachine.run entries more = entries ++ more := by
  induction more generalizing entries with
  | nil => rw [Machine.run_nil, List.append_nil]
  | cons entry rest ih =>
      rw [Machine.run_cons, ih]
      exact List.append_assoc entries [entry] rest

/-- The entry that a call records. -/
def StoreCall.records (py : Platform) (vault : CollabVault) : StoreCall → List LedgerEntry
  | .appendEvent moment node op payload sig =>
      let entry := newEntry moment node op payload sig
      if vault.chainVerified py = true ∧ (canonical entry.toJson).isSome = true then [entry] else []
  | _ => []

/-- The message that an entry is shown as. -/
def LedgerEntry.message? (entry : LedgerEntry) : Option Message :=
  if entry.op = lit "message" ∨ entry.op = lit "broadcast" then
    some entry.toMessage
  else none

/-- The messages that a vault shows of these entries. -/
def shownMessages (entries : List LedgerEntry) : List Message :=
  lastN 200 (entries.filterMap LedgerEntry.message?)

theorem lastN_append_of_le {α : Type} {count : Nat} (front : List α) {values : List α}
    (many : count ≤ values.length) : lastN count (front ++ values) = lastN count values := by
  rw [lastN, lastN, List.length_append, Nat.add_sub_assoc many, List.drop_length_add_append]

/-- What is beyond the last ones stays so when more is added. -/
theorem lastN_lastN_append {α : Type} (count : Nat) (values more : List α) :
    lastN count (lastN count values ++ more) = lastN count (values ++ more) := by
  rcases Nat.le_total values.length count with few | many
  · rw [show lastN count values = values by rw [lastN, Nat.sub_eq_zero_of_le few, List.drop_zero]]
  · have whole : values ++ more =
        values.take (values.length - count) ++ (lastN count values ++ more) := by
      rw [lastN, ← List.append_assoc, List.take_append_drop]
    have enough : count ≤ (lastN count values ++ more).length := by
      rw [List.length_append, lastN, List.length_drop]
      omega
    rw [whole, lastN_append_of_le _ enough]

/-- One more message pushes the oldest one out. -/
theorem shownMessages_concat (entries : List LedgerEntry) (entry : LedgerEntry) :
    shownMessages (entries ++ [entry]) =
      lastN 200 (shownMessages entries ++ entry.message?.toList) := by
  rw [shownMessages, Machine.filterMap_concat, shownMessages, lastN_lastN_append]

/-! ## The messages of the state -/

/-- The messages are these. -/
def HasMessages (messages : List Message) (state : VaultState) : Prop := state.messages = messages

theorem lasting_hasMessages (messages : List Message) : Lasting (HasMessages messages) :=
  ⟨fun _ _ _ _ has => has, fun _ _ _ _ _ has _ => has⟩

/-- A call that records a message returns: it has saved it. -/
def StoreCall.Saves (py : Platform) (vault : CollabVault) (call : StoreCall) : Prop :=
  (∃ entry ∈ call.records py vault, entry.message?.isSome = true) →
    ((storeMachine py).step vault call).1 = .ok ()

/-- The call leaves the messages in `state.json` as they are in the memory. -/
def StoreCall.KeepsMessages (py : Platform) (vault : CollabVault) (call : StoreCall) : Prop :=
  call.Spares py vault ∧ call.Saves py vault

/-- Applying an event adds its message, in the memory and, where it is saved, in `state.json`. -/
theorem hasMessages_applyAndSave {messages : List Message} {vault : CollabVault}
    (has : Both (HasMessages messages) vault) (few : lastN 200 messages = messages)
    {moment : Moment} {entry : LedgerEntry} (spares : storesTask entry.op entry.payload →
      vault.Spares (taskIdText py moment (eventTask entry.payload)))
    (saved : entry.message?.isSome = true →
      ((applyAndSave py moment entry).run vault).1 = .ok entry) :
    Both (HasMessages (lastN 200 (messages ++ entry.message?.toList)))
      ((applyAndSave py moment entry).run vault).2 := by
  by_cases isMessage : entry.op = lit "message" ∨ entry.op = lit "broadcast"
  · have shown : entry.message? = some entry.toMessage := if_pos isMessage
    obtain ⟨middle, applied, memory⟩ : ∃ middle,
        (applyEvent py moment entry).run vault = (.ok (), middle) ∧
          middle.state = vault.state.withMessage entry.toMessage :=
      ⟨setState (VaultState.withMessage entry.toMessage) vault,
        by rw [applyEvent, if_pos isMessage, run_modify], state_setState _ _⟩
    have here : vault.state.messages = messages := has.1
    have listed : middle.state.messages = lastN 200 (vault.state.messages ++ [entry.toMessage]) := by
      rw [memory, VaultState.withMessage]
    have returned : ((applyAndSave py moment entry).run vault).1 = .ok entry :=
      saved (Option.isSome_iff_exists.mpr ⟨_, shown⟩)
    rw [applyAndSave, finish_eq_ok, applied] at returned
    have writable : (setState (VaultState.synced entry) middle).state.Writable := returned.2.1
    rw [applyAndSave, run_bind_ok applied, run_bind_ok (run_modify _ _),
      run_bind_ok (run_saveState writable), run_pure, shown, Option.toList_some, ← here, ← listed]
    exact ⟨rfl, _, rfl, rfl⟩
  · rw [LedgerEntry.message?, if_neg isMessage, Option.toList_none, List.append_nil, few]
    have kept := @keepsBoth_applyAndSave py _ _ (lasting_hasMessages messages) vault rfl moment entry
      spares fun impossible => absurd impossible isMessage
    exact (kept vault ⟨rfl, has⟩).1.2

/-! ## The refinement -/

/-- The vault holds the entries of the journal and shows its messages. -/
structure Journaled (entries : List LedgerEntry) (vault : CollabVault) : Prop where
  holds : HoldsEntries entries vault
  messages : Both (HasMessages (shownMessages entries)) vault

theorem journaled_fresh (root : Path) : Journaled [] (.fresh root) :=
  ⟨.fresh root, rfl, _, rfl, rfl⟩

theorem lastN_shownMessages (entries : List LedgerEntry) :
    lastN 200 (shownMessages entries) = shownMessages entries := by
  have twice := lastN_lastN_append 200 (entries.filterMap LedgerEntry.message?) []
  rwa [List.append_nil, List.append_nil] at twice

section Step

variable {entries : List LedgerEntry} {vault : CollabVault}

/-- An event that is not recorded leaves the files, and where it is recorded, one line is added
to each of them before it is applied. -/
theorem records_appendEvent (vault : CollabVault) (moment : Moment) (node op : PyStr)
    (payload : JsonObject) (sig : PyStr) :
    let call := StoreCall.appendEvent moment node op payload sig
    let entry := newEntry moment node op payload sig
    (call.records py vault = [] ∧
        (((CollabVault.appendEvent py moment node op payload sig).run vault).2 = vault.foundTampered ∨
          ((CollabVault.appendEvent py moment node op payload sig).run vault).2 = vault)) ∨
      (call.records py vault = [entry] ∧ ∃ ledgerBytes auditBytes auditLine,
        encodeUtf8 (entry.toJson.dumps .canonical ++ [lineFeed]) = some ledgerBytes ∧
        encodeUtf8 auditLine = some auditBytes ∧
        (CollabVault.appendEvent py moment node op payload sig).run vault =
          (applyAndSave py moment entry).run (vault.withLines ledgerBytes auditBytes)) := by
  intro call entry
  rw [StoreCall.records]
  cases verified : vault.chainVerified py with
  | false =>
      rw [if_neg (by simp), run_appendEvent_tampered verified]
      exact .inl ⟨rfl, .inl rfl⟩
  | true =>
      cases encodes : canonical (newEntry moment node op payload sig).toJson with
      | none =>
          have unencodable : hashOf py (newEntry moment node op payload sig).toJson = none := by
            rw [hashOf, encodes]
            rfl
          rw [if_neg (by simp), run_appendEvent_unencodable verified unencodable]
          exact .inl ⟨rfl, .inr rfl⟩
      | some bytes =>
          have hashed : hashOf py (newEntry moment node op payload sig).toJson =
              some (py.sha256 bytes).text := by
            rw [hashOf, encodes]
            rfl
          obtain ⟨_, previous, hash, ledgerBytes, auditBytes, -, -, -, ledgerLine, auditLine, ran⟩ :=
            run_appendEvent_recorded verified hashed
          rw [if_pos ⟨rfl, rfl⟩]
          exact .inr ⟨rfl, ledgerBytes, auditBytes, _, ledgerLine, auditLine, ran⟩

/-- The vault's ledger has one line more for an entry that a call records. -/
theorem holds_step (holds : HoldsEntries entries vault) (call : StoreCall) :
    HoldsEntries (entries ++ call.records py vault) ((storeMachine py).step vault call).2 := by
  cases call with
  | appendEvent moment node op payload sig =>
      rw [@step_of_perform py _ _ (CollabVault.appendEvent py moment node op payload sig) rfl]
      rcases @records_appendEvent py vault moment node op payload sig with
        ⟨silent, same | same⟩ | ⟨recorded, ledgerBytes, auditBytes, line, ledgerLine, auditLine, ran⟩
      · rw [silent, List.append_nil, same]
        exact holds.of_files (files_foundTampered vault)
      · rw [silent, List.append_nil, same]
        exact holds
      · obtain ⟨text, isText⟩ := holds.audit
        rw [recorded, ran]
        refine HoldsEntries.of_files ⟨?ledger, ?audit⟩ (within_files_applyAndSave py moment _
          (vault.withLines ledgerBytes auditBytes))
        case ledger =>
          rw [List.map_append, joinRows_append, List.map_singleton, joinRows_cons, joinRows_nil]
          exact encodeUtf8_append holds.ledger ledgerLine
        case audit => exact ⟨_, encodeUtf8_append isText auditLine⟩
  | _ =>
      rw [StoreCall.records, List.append_nil]
      · exact holds.of_files (files_step (by simp) vault)
      · simp

/-- The messages follow the entries where they are saved. -/
theorem messages_step (has : Both (HasMessages (shownMessages entries)) vault) {call : StoreCall}
    (keeps : call.KeepsMessages py vault) :
    Both (HasMessages (shownMessages (entries ++ call.records py vault)))
      ((storeMachine py).step vault call).2 := by
  obtain ⟨spares, saves⟩ := keeps
  cases call with
  | appendEvent moment node op payload sig =>
      have isStep := @step_of_perform py _ (.appendEvent moment node op payload sig)
        (CollabVault.appendEvent py moment node op payload sig) rfl vault
      rcases @records_appendEvent py vault moment node op payload sig with
        ⟨silent, same | same⟩ | ⟨recorded, ledgerBytes, auditBytes, -, -, -, ran⟩
      · rw [silent, List.append_nil, isStep, same]
        exact both_foundTampered (lasting_hasMessages _) has
      · rw [silent, List.append_nil, isStep, same]
        exact has
      · rw [recorded, shownMessages_concat, isStep, ran]
        refine @hasMessages_applyAndSave py _ (vault.withLines ledgerBytes auditBytes) has
          (lastN_shownMessages entries) moment _ spares fun shown => ?_
        have returned := saves ⟨_, by rw [recorded]; exact List.mem_singleton_self _, shown⟩
        obtain ⟨entry, isEntry⟩ := (run_discard _ vault).2.mp returned
        obtain ⟨-, applies, -⟩ := appendEvent_eq_ok.mp isEntry
        have unchanged : (vault.withLines ledgerBytes auditBytes).state = vault.state := rfl
        rw [applyAndSave_eq_ok (encodable_of_plain moment.now.plain), applies_congr unchanged]
        exact ⟨applies, rfl⟩
  | _ =>
      rw [StoreCall.records, List.append_nil]
      · exact both_silent (lasting_hasMessages _) has (by simp) spares
      · simp

end Step

/-- The vault refines the journal of its entries. -/
def journalRefinement (py : Platform) : Refinement (storeMachine py) journalMachine where
  related vault entries := HoldsEntries entries vault
  steps vault call := call.records py vault
  preserved := by
    intro vault entries call holds
    rw [run_journalMachine]
    exact holds_step holds call

/-- The entries that the calls record, from a fresh vault on. -/
def journalOf (py : Platform) (root : Path) (calls : List StoreCall) : List LedgerEntry :=
  (journalRefinement py).inputs (.fresh root) calls

/-- The ledger after a run of calls. -/
theorem holds_run {entries : List LedgerEntry} {vault : CollabVault}
    (holds : HoldsEntries entries vault) (calls : List StoreCall) :
    HoldsEntries (entries ++ (journalRefinement py).inputs vault calls)
      ((storeMachine py).run vault calls) := by
  have related := @Refinement.related_run _ _ _ _ _ _ _ _ (journalRefinement py) _ _ holds calls
  rwa [run_journalMachine] at related

theorem holds_journalOf (root : Path) (calls : List StoreCall) :
    HoldsEntries (journalOf py root calls) ((storeMachine py).run (.fresh root) calls) :=
  holds_run (.fresh root) calls

/-- The messages after a run of calls that keep them. -/
theorem messages_run {entries : List LedgerEntry} {vault : CollabVault}
    (has : Both (HasMessages (shownMessages entries)) vault) {calls : List StoreCall}
    (keeps : (storeMachine py).Allowed (StoreCall.KeepsMessages py) vault calls) :
    Both (HasMessages (shownMessages (entries ++ (journalRefinement py).inputs vault calls)))
      ((storeMachine py).run vault calls) := by
  induction calls generalizing entries vault with
  | nil => rwa [Refinement.inputs, List.append_nil, Machine.run_nil]
  | cons call rest ih =>
      have later := ih (messages_step has keeps.1) keeps.2
      rwa [List.append_assoc] at later

/-- Whatever is called, the ledger is the lines of the entries that were recorded, a page of
it is the last of them, and more calls only add entries.  The messages, in the memory and in
`state.json`, are those of the last 200 messages among them, where the calls keep them. -/
theorem journaled_run (root : Path) (calls more : List StoreCall) :
    let vault := (storeMachine py).run (.fresh root) calls
    let entries := journalOf py root calls
    encodeUtf8 (joinRows (entries.map LedgerEntry.line)) = some vault.ledger ∧
      (∀ limit, readLedger limit vault.ledger =
        some (lastN (clampLimit limit).toNat (entries.map LedgerEntry.row))) ∧
      entries <+: journalOf py root (calls ++ more) ∧
      ((storeMachine py).Allowed (StoreCall.KeepsMessages py) (.fresh root) calls →
        vault.state.messages = shownMessages entries ∧
          ∃ saved, vault.stateFile = .saved saved ∧ saved.messages = shownMessages entries) := by
  intro vault entries
  have holds : HoldsEntries entries vault := holds_journalOf root calls
  refine ⟨holds.ledger, readLedger_of_holds holds, ?_, fun keeps => ?_⟩
  · rw [journalOf, Refinement.inputs_append]
    exact List.prefix_append _ _
  · exact messages_run (journaled_fresh root).messages keeps

end HermesMesh.Collab
