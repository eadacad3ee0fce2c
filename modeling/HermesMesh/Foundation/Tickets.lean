import HermesMesh.Foundation.Machine

/-!
# Tickets

A desk hands out tickets and takes them back; what it knows of a ticket is lost when the
ticket is presented, whatever the desk makes of it then.  Where no ticket is handed out
twice, one that is honoured was handed out before, and none is honoured once it has been
presented.
-/

namespace HermesMesh.Foundation

/-- What is done at a desk. -/
inductive TicketCall (τ δ : Type) where
  | issue (ticket : τ) (data : δ)
  /-- Someone presents a ticket. -/
  | take (ticket : τ)
  | idle

variable {τ δ : Type}

def TicketCall.issued? : TicketCall τ δ → Option τ
  | .issue ticket _ => some ticket
  | .take _ | .idle => none

/-- The tickets that some calls hand out. -/
def issuedTickets (calls : List (TicketCall τ δ)) : List τ := calls.filterMap TicketCall.issued?

theorem issuedTickets_concat (calls : List (TicketCall τ δ)) (call : TicketCall τ δ) :
    issuedTickets (calls ++ [call]) = issuedTickets calls ++ call.issued?.toList :=
  Machine.filterMap_concat _ _ _

variable [DecidableEq τ]

/-- The desk with what it knows of each ticket that is out. -/
def ticketDesk : Machine (τ → Option δ) (TicketCall τ δ) Unit where
  step held
    | .issue ticket data => ((), Function.update held ticket (some data))
    | .take ticket => ((), Function.update held ticket none)
    | .idle => ((), held)

/-- What the desk knows after some calls. -/
def heldAfter (calls : List (TicketCall τ δ)) : τ → Option δ := ticketDesk.run (fun _ => none) calls

theorem heldAfter_concat (calls : List (TicketCall τ δ)) (call : TicketCall τ δ) :
    heldAfter (calls ++ [call]) = (ticketDesk.step (heldAfter calls) call).2 := by
  rw [heldAfter, Machine.run_append, Machine.run_cons, Machine.run_nil]
  rfl

/-- A ticket that is out was handed out. -/
theorem issue_mem_of_held {calls : List (TicketCall τ δ)} {ticket : τ} {data : δ}
    (held : heldAfter calls ticket = some data) : .issue ticket data ∈ calls := by
  induction calls using List.reverseRecOn with
  | nil => cases held
  | append_singleton calls call ih =>
      rw [heldAfter_concat] at held
      cases call with
      | issue other latest =>
          by_cases same : ticket = other
          · cases same
            have latest : some latest = some data := by simpa [ticketDesk] using held
            cases latest
            exact List.mem_append_right _ List.mem_cons_self
          · apply List.mem_append_left
            apply ih
            simpa [ticketDesk, same] using held
      | take other =>
          by_cases same : ticket = other
          · cases same
            simp [ticketDesk] at held
          · apply List.mem_append_left
            apply ih
            simpa [ticketDesk, same] using held
      | idle => exact List.mem_append_left _ (ih held)

/-- Once a ticket has been handed out and presented, it is not out again. -/
theorem not_held_of_taken {past later : List (TicketCall τ δ)} {ticket : τ}
    (issued : ticket ∈ issuedTickets past)
    (once : (issuedTickets (past ++ .take ticket :: later)).Nodup) :
    heldAfter (past ++ .take ticket :: later) ticket = none := by
  induction later using List.reverseRecOn with
  | nil =>
      rw [heldAfter_concat]
      simp [ticketDesk]
  | append_singleton later call ih =>
      rw [← List.cons_append, ← List.append_assoc] at once ⊢
      rw [issuedTickets_concat] at once
      have before := ih (List.Nodup.of_append_left once)
      rw [heldAfter_concat]
      cases call with
      | issue other data =>
          have different : ticket ≠ other := by
            rintro rfl
            apply List.disjoint_of_nodup_append once _ List.mem_cons_self
            rw [issuedTickets, List.filterMap_append]
            exact List.mem_append_left _ issued
          simpa [ticketDesk, different] using before
      | take other =>
          by_cases same : ticket = other
          · simp [ticketDesk, same]
          · simpa [ticketDesk, same] using before
      | idle => exact before

end HermesMesh.Foundation
