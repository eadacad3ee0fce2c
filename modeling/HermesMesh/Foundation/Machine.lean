import Mathlib

/-!
# Machines and their runs

A machine takes one input at a time; whatever the environment decides (a clock
reading, a fresh identifier, the party that moves next) is part of the input, so
a step is a function.  Invariants are proved for one step and carried to every
run by the rules of this module.
-/

namespace HermesMesh.Foundation

/-- A state machine whose step yields an output. -/
structure Machine (σ ι ο : Type) where
  step : σ → ι → ο × σ

/-- One step of a run, with the states around it. -/
structure Event (σ ι ο : Type) where
  before : σ
  input : ι
  output : ο
  after : σ

namespace Machine

variable {σ ι ο : Type} (machine : Machine σ ι ο)

/-- The state after a list of inputs. -/
def run (state : σ) : List ι → σ
  | [] => state
  | input :: rest => run (machine.step state input).2 rest

/-- The steps of a run, first step first. -/
def trace (state : σ) : List ι → List (Event σ ι ο)
  | [] => []
  | input :: rest =>
      ⟨state, input, (machine.step state input).1, (machine.step state input).2⟩ ::
        trace (machine.step state input).2 rest

/-- Every input of the run is allowed in the state in which it is taken. -/
def Allowed (permits : σ → ι → Prop) (state : σ) : List ι → Prop
  | [] => True
  | input :: rest => permits state input ∧ Allowed permits (machine.step state input).2 rest

instance decidableAllowed {permits : σ → ι → Prop} [∀ state input, Decidable (permits state input)] :
    (state : σ) → (inputs : List ι) → Decidable (machine.Allowed permits state inputs)
  | _, [] => isTrue trivial
  | state, input :: rest =>
      haveI : Decidable (machine.Allowed permits (machine.step state input).2 rest) :=
        decidableAllowed _ rest
      inferInstanceAs (Decidable (_ ∧ _))

@[simp] theorem run_nil (state : σ) : machine.run state [] = state := rfl

@[simp] theorem run_cons (state : σ) (input : ι) (rest : List ι) :
    machine.run state (input :: rest) = machine.run (machine.step state input).2 rest := rfl

theorem run_append (state : σ) (left right : List ι) :
    machine.run state (left ++ right) = machine.run (machine.run state left) right := by
  induction left generalizing state with
  | nil => rfl
  | cons input rest ih => exact ih _

theorem trace_append (state : σ) (left right : List ι) :
    machine.trace state (left ++ right) =
      machine.trace state left ++ machine.trace (machine.run state left) right := by
  induction left generalizing state with
  | nil => rfl
  | cons input rest ih => simp only [List.cons_append, trace, ih, run_cons]

/-- Each input of a run has its step in the trace. -/
theorem exists_event (state : σ) (before : List ι) (input : ι) (after : List ι) :
    ∃ past event future, machine.trace state (before ++ input :: after) = past ++ event :: future ∧
      event.input = input ∧ event.output = (machine.step (machine.run state before) input).1 :=
  ⟨_, _, _, machine.trace_append state before (input :: after), rfl, rfl⟩

theorem allowed_append {permits : σ → ι → Prop} {state : σ} {left right : List ι} :
    machine.Allowed permits state (left ++ right) ↔
      machine.Allowed permits state left ∧
        machine.Allowed permits (machine.run state left) right := by
  induction left generalizing state with
  | nil => simp [Allowed]
  | cons input rest ih => simp only [List.cons_append, Allowed, ih, and_assoc, run_cons]

theorem allowed_and {permits also : σ → ι → Prop} {state : σ} {inputs : List ι}
    (left : machine.Allowed permits state inputs) (right : machine.Allowed also state inputs) :
    machine.Allowed (fun state input => permits state input ∧ also state input) state inputs := by
  induction inputs generalizing state with
  | nil => trivial
  | cons input rest ih => exact ⟨⟨left.1, right.1⟩, ih left.2 right.2⟩

theorem allowed_of_forall {permits : σ → ι → Prop} {inputs : List ι}
    (always : ∀ input ∈ inputs, ∀ state, permits state input) (state : σ) :
    machine.Allowed permits state inputs := by
  induction inputs generalizing state with
  | nil => trivial
  | cons input rest ih =>
      exact ⟨always input List.mem_cons_self state,
        ih (fun other member => always other (List.mem_cons_of_mem _ member)) _⟩

/-- What an input permits by itself is asked of each input alone. -/
theorem allowed_const {permits : ι → Prop} {state : σ} {inputs : List ι} :
    machine.Allowed (fun _ input => permits input) state inputs ↔ ∀ input ∈ inputs, permits input := by
  induction inputs generalizing state with
  | nil => exact iff_of_true trivial fun input member => absurd member List.not_mem_nil
  | cons input rest ih => rw [Allowed, ih, List.forall_mem_cons]

/-- What every input permits can be read off the steps of the run. -/
theorem allowed_iff_trace {permits : σ → ι → Prop} {state : σ} {inputs : List ι} :
    machine.Allowed permits state inputs ↔
      ∀ event ∈ machine.trace state inputs, permits event.before event.input := by
  induction inputs generalizing state with
  | nil => exact iff_of_true trivial fun event member => absurd member List.not_mem_nil
  | cons input rest ih => rw [Allowed, ih, trace, List.forall_mem_cons]

variable {machine}

theorem trace_cons_of_step {state after : σ} {input : ι} {output : ο}
    (stepped : machine.step state input = (output, after)) (rest : List ι) :
    machine.trace state (input :: rest) =
      ⟨state, input, output, after⟩ :: machine.trace after rest := by
  rw [trace, stepped]

/-- A property that every allowed step preserves holds at the end of every allowed
run from a state that has it. -/
theorem run_invariant (permits : σ → ι → Prop) (holds : σ → Prop)
    (preserved : ∀ state input, holds state → permits state input →
      holds (machine.step state input).2)
    {state : σ} {inputs : List ι} (start : holds state)
    (allowed : machine.Allowed permits state inputs) : holds (machine.run state inputs) := by
  induction inputs generalizing state with
  | nil => exact start
  | cons input rest ih => exact ih (preserved state input start allowed.1) allowed.2

/-- What an invariant says of one step holds of every step of a run. -/
theorem trace_invariant (permits : σ → ι → Prop) (holds : σ → Prop)
    {good : Event σ ι ο → Prop}
    (preserved : ∀ state input, holds state → permits state input →
      holds (machine.step state input).2)
    (step : ∀ state input, holds state → permits state input →
      good ⟨state, input, (machine.step state input).1, (machine.step state input).2⟩)
    {state : σ} {inputs : List ι} (start : holds state)
    (allowed : machine.Allowed permits state inputs) :
    ∀ event ∈ machine.trace state inputs, good event := by
  induction inputs generalizing state with
  | nil => exact fun event member => absurd member List.not_mem_nil
  | cons input rest ih =>
      intro event member
      rcases List.mem_cons.mp member with rfl | later
      · exact step state input start allowed.1
      · exact ih (preserved state input start allowed.1) allowed.2 event later

theorem filterMap_concat {α β : Type} (show? : α → Option β) (past : List α) (last : α) :
    (past ++ [last]).filterMap show? = past.filterMap show? ++ (show? last).toList := by
  rw [List.filterMap_append]
  cases shown : show? last <;> simp [shown]

/-- What a step preserves of the past and the state holds of the past of a whole run. -/
theorem history_invariant (permits : σ → ι → Prop) (holds : List (Event σ ι ο) → σ → Prop)
    (preserved : ∀ past state input, holds past state → permits state input →
      holds (past ++ [⟨state, input, (machine.step state input).1, (machine.step state input).2⟩])
        (machine.step state input).2)
    {past : List (Event σ ι ο)} {state : σ} {inputs : List ι} (start : holds past state)
    (allowed : machine.Allowed permits state inputs) :
    holds (past ++ machine.trace state inputs) (machine.run state inputs) := by
  induction inputs generalizing past state with
  | nil => rwa [trace, List.append_nil]
  | cons input rest ih =>
      have later := ih (preserved past state input start allowed.1) allowed.2
      rwa [List.append_assoc] at later

/-- Where a property is lost with every step that is not permitted, and kept by the
others, it holds throughout a run exactly when every step is permitted. -/
theorem throughout_iff_allowed_of (assumes permits : σ → ι → Prop) (holds : σ → Prop)
    (preserved : ∀ state input, holds state → assumes state input →
      (holds (machine.step state input).2 ↔ permits state input))
    {state : σ} (start : holds state) {inputs : List ι}
    (assumed : machine.Allowed assumes state inputs) :
    (∀ past rest, inputs = past ++ rest → holds (machine.run state past)) ↔
      machine.Allowed permits state inputs := by
  induction inputs generalizing state with
  | nil =>
      refine ⟨fun _ => trivial, fun _ past rest split => ?_⟩
      rw [(List.append_eq_nil_iff.mp split.symm).1]
      exact start
  | cons input others ih =>
      have onward := preserved state input start assumed.1
      constructor
      · intro throughout
        have after := throughout [input] others rfl
        refine ⟨onward.mp after, (ih after assumed.2).mp fun past rest split => ?_⟩
        exact throughout (input :: past) rest (by rw [split, List.cons_append])
      · rintro ⟨permitted, later⟩ past rest split
        cases past with
        | nil => exact start
        | cons first past =>
            cases split
            exact (ih (onward.mpr permitted) assumed.2).mpr later past rest rfl

/-- Where an invariant shows something, and a step that is not permitted loses what it
shows, that is shown throughout a run exactly when every step is permitted. -/
theorem shown_throughout_iff (assumes permits : σ → ι → Prop) (holds shows : σ → Prop)
    (shown : ∀ state, holds state → shows state)
    (kept : ∀ state input, holds state → assumes state input → permits state input →
      holds (machine.step state input).2)
    (lost : ∀ state input, holds state → assumes state input → ¬permits state input →
      ¬shows (machine.step state input).2)
    {state : σ} (start : holds state) {inputs : List ι}
    (assumed : machine.Allowed assumes state inputs) :
    (∀ past rest, inputs = past ++ rest → shows (machine.run state past)) ↔
      machine.Allowed permits state inputs := by
  induction inputs generalizing state with
  | nil =>
      refine ⟨fun _ => trivial, fun _ past rest split => ?_⟩
      rw [(List.append_eq_nil_iff.mp split.symm).1]
      exact shown _ start
  | cons input others ih =>
      constructor
      · intro throughout
        have permitted : permits state input := by
          by_contra refused
          exact lost state input start assumed.1 refused (throughout [input] others rfl)
        refine ⟨permitted, ?_⟩
        refine (ih (kept state input start assumed.1 permitted) assumed.2).mp fun past rest split => ?_
        exact throughout (input :: past) rest (by rw [split, List.cons_append])
      · rintro ⟨permitted, later⟩ past rest split
        cases past with
        | nil => exact shown _ start
        | cons first past =>
            cases split
            exact (ih (kept state input start assumed.1 permitted) assumed.2).mpr later past rest rfl

theorem throughout_iff_allowed (permits : σ → ι → Prop) (holds : σ → Prop)
    (preserved : ∀ state input, holds state →
      (holds (machine.step state input).2 ↔ permits state input))
    {state : σ} (start : holds state) (inputs : List ι) :
    (∀ past rest, inputs = past ++ rest → holds (machine.run state past)) ↔
      machine.Allowed permits state inputs :=
  throughout_iff_allowed_of (fun _ _ => True) permits holds
    (fun state input holds _ => preserved state input holds) start
    (machine.allowed_of_forall (fun _ _ _ => trivial) state)

theorem inputs_trace (state : σ) (inputs : List ι) :
    (machine.trace state inputs).map Event.input = inputs := by
  induction inputs generalizing state with
  | nil => rfl
  | cons input rest ih => rw [trace, List.map_cons, ih]

/-- A relation holds pairwise when it holds of each element and those that come after it. -/
theorem pairwise_of_splits {α : Type} {related : α → α → Prop} {all : List α}
    (holds : ∀ past first future, all = past ++ first :: future →
      ∀ later ∈ future, related first later) : all.Pairwise related := by
  induction all with
  | nil => exact .nil
  | cons first rest ih =>
      apply List.Pairwise.cons
      · intro later member
        exact holds [] first rest rfl later member
      · apply ih
        intro past other future split
        exact holds (first :: past) other future (by rw [split, List.cons_append])

/-- Around each step of a run are the steps of a run up to it and of one from it. -/
theorem trace_split {state : σ} {inputs : List ι} {past future : List (Event σ ι ο)}
    {event : Event σ ι ο} (split : machine.trace state inputs = past ++ event :: future) :
    ∃ earlier input later, inputs = earlier ++ input :: later ∧ past = machine.trace state earlier ∧
      event = ⟨machine.run state earlier, input, (machine.step (machine.run state earlier) input).1,
        (machine.step (machine.run state earlier) input).2⟩ ∧
      future = machine.trace event.after later := by
  induction past generalizing state inputs with
  | nil =>
      cases inputs with
      | nil => cases split
      | cons input later =>
          cases split
          exact ⟨[], input, later, rfl, rfl, rfl, rfl⟩
  | cons first past ih =>
      cases inputs with
      | nil => cases split
      | cons input rest =>
          obtain ⟨same, split⟩ := List.cons.inj split
          obtain ⟨earlier, next, later, rfl, rfl, isEvent, isFuture⟩ := ih split
          exact ⟨input :: earlier, next, later, rfl, by rw [← same, trace], isEvent, isFuture⟩

/-- The states of a run's steps are states of the machine joined by that step. -/
theorem step_of_mem_trace {state : σ} {inputs : List ι} {event : Event σ ι ο}
    (member : event ∈ machine.trace state inputs) :
    machine.step event.before event.input = (event.output, event.after) := by
  induction inputs generalizing state with
  | nil => cases member
  | cons input rest ih =>
      rcases List.mem_cons.mp member with rfl | later
      · rfl
      · exact ih later

end Machine

end HermesMesh.Foundation
