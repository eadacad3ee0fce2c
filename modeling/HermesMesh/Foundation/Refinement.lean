import HermesMesh.Foundation.Machine

/-!
# Refinement between machines

A step of one machine may stand for some steps of another one that has less in its states.
Then a run of the first is a run of the second, and what is proved of the steps of the second
holds where the first takes them.
-/

namespace HermesMesh.Foundation

variable {σ ι ο τ κ π : Type}

/-- Each step of the concrete machine is a list of steps of the abstract one. -/
structure Refinement (concrete : Machine σ ι ο) (abstract : Machine τ κ π) where
  /-- What the concrete state stands for. -/
  related : σ → τ → Prop
  /-- The abstract inputs of a concrete step. -/
  steps : σ → ι → List κ
  preserved : ∀ state image input, related state image →
    related (concrete.step state input).2 (abstract.run image (steps state input))

namespace Refinement

variable {concrete : Machine σ ι ο} {abstract : Machine τ κ π}
  (refinement : Refinement concrete abstract)

/-- The abstract inputs of a concrete run. -/
def inputs (state : σ) : List ι → List κ
  | [] => []
  | input :: rest => refinement.steps state input ++ inputs (concrete.step state input).2 rest

theorem inputs_append (state : σ) (left right : List ι) :
    refinement.inputs state (left ++ right) =
      refinement.inputs state left ++ refinement.inputs (concrete.run state left) right := by
  induction left generalizing state with
  | nil => rfl
  | cons input rest ih => rw [List.cons_append, inputs, inputs, ih, List.append_assoc, Machine.run_cons]

variable {refinement}

theorem related_run {state : σ} {image : τ} (start : refinement.related state image)
    (inputs : List ι) :
    refinement.related (concrete.run state inputs)
      (abstract.run image (refinement.inputs state inputs)) := by
  induction inputs generalizing state image with
  | nil => exact start
  | cons input rest ih =>
      rw [Refinement.inputs, Machine.run_append]
      exact ih (refinement.preserved state image input start)

/-- The abstract steps of a step are among those of its run. -/
theorem mem_trace_of_mem {state : σ} {image : τ} (start : refinement.related state image)
    {inputs : List ι} {event : Event σ ι ο} (member : event ∈ concrete.trace state inputs) :
    ∃ here, refinement.related event.before here ∧
      ∀ step ∈ abstract.trace here (refinement.steps event.before event.input),
        step ∈ abstract.trace image (refinement.inputs state inputs) := by
  induction inputs generalizing state image with
  | nil => cases member
  | cons input rest ih =>
      rw [Refinement.inputs, Machine.trace_append]
      rcases List.mem_cons.mp member with rfl | later
      · exact ⟨image, start, fun step isStep => List.mem_append_left _ isStep⟩
      · obtain ⟨here, related, within⟩ := ih (refinement.preserved state image input start) later
        exact ⟨here, related, fun step isStep => List.mem_append_right _ (within step isStep)⟩

/-- The steps of a run from one of its steps on are those of an abstract run: the steps of
that one, and after them those of the later ones. -/
theorem trace_split {state : σ} {image : τ} (start : refinement.related state image)
    {inputs : List ι} {past future : List (Event σ ι ο)} {event : Event σ ι ο}
    (split : concrete.trace state inputs = past ++ event :: future) :
    ∃ before here after, refinement.related event.before here ∧
      abstract.trace image (refinement.inputs state inputs) =
        before ++ abstract.trace here (refinement.steps event.before event.input) ++ after ∧
      ∀ later ∈ future, ∃ there, refinement.related later.before there ∧
        ∀ step ∈ abstract.trace there (refinement.steps later.before later.input), step ∈ after := by
  obtain ⟨earlier, input, rest, rfl, rfl, rfl, rfl⟩ := Machine.trace_split split
  have here := related_run start earlier
  have onward := refinement.preserved _ _ input here
  refine ⟨abstract.trace image (refinement.inputs state earlier), _, _, here, ?_,
    fun later member => mem_trace_of_mem onward member⟩
  rw [inputs_append, Machine.trace_append, Refinement.inputs, Machine.trace_append, List.append_assoc]

end Refinement

end HermesMesh.Foundation
