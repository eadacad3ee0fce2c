import HermesMesh.Foundation.Action

/-!
# Two actions side by side

Two bodies over two stores do the same when, from related stores, they end the same way: both
return related values or both raise related exceptions, and the stores they leave are related again.
The rules follow the structure of the bodies, so that programs of one text over two kinds of
stores are compared line by line.

`Ends` is the rule for one body that is told apart by how it ends: what holds of the store when
it returns, and what holds when it raises.
-/

namespace HermesMesh.Foundation

/-- Both are results with related values, or both are related exceptions. -/
def Paired {ε φ α β : Type} (faults : ε → φ → Prop) (values : α → β → Prop) :
    Except ε α → Except φ β → Prop
  | .ok left, .ok right => values left right
  | .error left, .error right => faults left right
  | _, _ => False

/-- Computations on related values are paired where the parts are. -/
theorem Paired.bind {ε φ α β γ δ : Type} {faults : ε → φ → Prop} {values : α → β → Prop}
    {results : γ → δ → Prop} {left : Except ε α} {right : Except φ β} {leftNext : α → Except ε γ}
    {rightNext : β → Except φ δ} (paired : Paired faults values left right)
    (next : ∀ one other, values one other →
      Paired faults results (leftNext one) (rightNext other)) :
    Paired faults results (left >>= leftNext) (right >>= rightNext) := by
  cases left with
  | error fault =>
      cases right with
      | error other => exact paired
      | ok value => exact paired.elim
  | ok one =>
      cases right with
      | error fault => exact paired.elim
      | ok other => exact next one other paired

theorem Paired.eq {ε α : Type} {left right : Except ε α} (paired : Paired Eq Eq left right) :
    left = right := by
  cases left with
  | error fault =>
      cases right with
      | error other => exact congrArg _ paired
      | ok value => exact paired.elim
  | ok one =>
      cases right with
      | error fault => exact paired.elim
      | ok other => exact congrArg _ paired

namespace Action

variable {σ τ ε φ α β γ δ : Type}

/-! ## Two bodies -/

/-- From related stores, the two actions end the same way, in related stores. -/
def Match (faults : ε → φ → Prop) (stores : σ → τ → Prop) (values : α → β → Prop)
    (left : Action σ ε α) (right : Action τ φ β) : Prop :=
  ∀ store other, stores store other →
    stores (left.run store).2 (right.run other).2 ∧
      Paired faults values (left.run store).1 (right.run other).1

section Match

variable {faults : ε → φ → Prop} {stores : σ → τ → Prop} {values : α → β → Prop}

theorem match_pure {left : α} {right : β} (related : values left right) :
    Match faults stores values (pure left : Action σ ε α) (pure right : Action τ φ β) :=
  fun _ _ found => ⟨found, related⟩

theorem match_raise {fault : ε} {other : φ} (related : faults fault other) :
    Match faults stores values (raise fault : Action σ ε α) (raise other : Action τ φ β) :=
  fun _ _ found => ⟨found, related⟩

theorem match_read : Match faults stores stores (read : Action σ ε σ) (read : Action τ φ τ) :=
  fun _ _ found => ⟨found, found⟩

theorem match_modify {update : σ → σ} {upgrade : τ → τ}
    (updates : ∀ store other, stores store other → stores (update store) (upgrade other)) :
    Match faults stores (fun _ _ => True) (modify update : Action σ ε Unit)
      (modify upgrade : Action τ φ Unit) :=
  fun store other found => ⟨updates store other found, trivial⟩

theorem match_ofExcept {left : Except ε α} {right : Except φ β}
    (paired : Paired faults values left right) :
    Match faults stores values (ofExcept left) (ofExcept right) :=
  fun _ _ found => ⟨found, paired⟩

theorem match_ofOption {fault : ε} {other : φ} (related : faults fault other) (result : Option α) :
    Match faults stores Eq (ofOption fault result : Action σ ε α)
      (ofOption other result : Action τ φ α) := by
  cases result with
  | none => exact match_raise related
  | some value => exact match_pure rfl

theorem match_bind {results : γ → δ → Prop} {left : Action σ ε α} {right : Action τ φ β}
    {leftNext : α → Action σ ε γ} {rightNext : β → Action τ φ δ}
    (first : Match faults stores values left right)
    (rest : ∀ one other, values one other →
      Match faults stores results (leftNext one) (rightNext other)) :
    Match faults stores results (left >>= leftNext) (right >>= rightNext) := by
  intro store other found
  obtain ⟨related, paired⟩ := first store other found
  rw [run_bind, run_bind]
  rcases ran : left.run store with ⟨fault | one, after⟩
  · rcases also : right.run other with ⟨same | value, behind⟩
    · rw [ran, also] at related paired
      exact ⟨related, paired⟩
    · rw [ran, also] at paired
      exact paired.elim
  · rcases also : right.run other with ⟨fault | value, behind⟩
    · rw [ran, also] at paired
      exact paired.elim
    · rw [ran, also] at related paired
      exact rest one value paired after behind related

/-- A part of the left body that the right one has nothing for. -/
theorem match_skip {skipped : Action σ ε γ} {next : γ → Action σ ε α} {right : Action τ φ β}
    (skips : ∀ store other, stores store other →
      ∃ value after, skipped.run store = (.ok value, after) ∧ stores after other)
    (rest : ∀ value, Match faults stores values (next value) right) :
    Match faults stores values (skipped >>= next) right := by
  intro store other found
  obtain ⟨value, after, ran, related⟩ := skips store other found
  rw [run_bind_ok ran]
  exact rest value after other related

theorem match_ite {condition : Prop} [Decidable condition] {leftYes leftNo : Action σ ε α}
    {rightYes rightNo : Action τ φ β}
    (onYes : condition → Match faults stores values leftYes rightYes)
    (onNo : ¬condition → Match faults stores values leftNo rightNo) :
    Match faults stores values (if condition then leftYes else leftNo)
      (if condition then rightYes else rightNo) := by
  split
  · next holds => exact onYes holds
  · next fails => exact onNo fails

/-- Less is said of the values. -/
theorem Match.forget {left : Action σ ε α} {right : Action τ φ β}
    (matched : Match faults stores values left right) :
    Match faults stores (fun _ _ => True) left right := by
  intro store other found
  obtain ⟨related, paired⟩ := matched store other found
  refine ⟨related, ?_⟩
  generalize (left.run store).1 = one at paired
  generalize (right.run other).1 = also at paired
  cases one with
  | error fault =>
      cases also with
      | error same => exact paired
      | ok value => exact paired
  | ok value =>
      cases also with
      | error fault => exact paired
      | ok same => trivial

end Match

/-! ## How one body ends -/

/-- From a store with `pre`, the action returns in a store with `post`, or raises with `failed`. -/
def Ends (pre post : σ → Prop) (failed : ε → σ → Prop) (action : Action σ ε α) : Prop :=
  ∀ store, pre store →
    (∀ value after, action.run store = (.ok value, after) → post after) ∧
      ∀ fault after, action.run store = (.error fault, after) → failed fault after

section Ends

variable {pre mid post : σ → Prop} {failed : ε → σ → Prop}

theorem ends_pure (value : α) (holds : ∀ store, pre store → post store) :
    Ends pre post failed (pure value : Action σ ε α) := by
  intro store found
  constructor
  · intro other after same
    cases same
    exact holds store found
  · intro fault after same
    cases same

theorem ends_raise {fault : ε} (holds : ∀ store, pre store → failed fault store) :
    Ends pre post failed (raise fault : Action σ ε α) := by
  intro store found
  constructor
  · intro value after same
    cases same
  · intro other after same
    cases same
    exact holds store found

theorem ends_read (holds : ∀ store, pre store → post store) :
    Ends pre post failed (read : Action σ ε σ) := by
  intro store found
  constructor
  · intro other after same
    cases same
    exact holds store found
  · intro fault after same
    cases same

theorem ends_modify {update : σ → σ} (holds : ∀ store, pre store → post (update store)) :
    Ends pre post failed (modify update : Action σ ε Unit) := by
  intro store found
  constructor
  · intro value after same
    cases same
    exact holds store found
  · intro fault after same
    cases same

theorem ends_ofExcept {result : Except ε α} (returns : ∀ store, pre store → post store)
    (raises : ∀ fault store, result = .error fault → pre store → failed fault store) :
    Ends pre post failed (ofExcept result : Action σ ε α) := by
  intro store found
  constructor
  · intro value after same
    cases same
    exact returns store found
  · intro fault after same
    cases same
    exact raises fault store rfl found

theorem ends_ofOption {fault : ε} (result : Option α) (returns : ∀ store, pre store → post store)
    (raises : ∀ store, pre store → failed fault store) :
    Ends pre post failed (ofOption fault result : Action σ ε α) := by
  cases result with
  | none => exact ends_raise raises
  | some value => exact ends_pure value returns

theorem ends_bind {action : Action σ ε α} {next : α → Action σ ε β}
    (first : Ends pre mid failed action) (rest : ∀ value, Ends mid post failed (next value)) :
    Ends pre post failed (action >>= next) := by
  intro store found
  obtain ⟨returns, raises⟩ := first store found
  rw [run_bind]
  rcases outcome : action.run store with ⟨fault | value, middle⟩
  · constructor
    · intro result after same
      cases same
    · intro other after same
      cases same
      exact raises fault middle outcome
  · exact rest value middle (returns value middle outcome)

theorem ends_ite {condition : Prop} [Decidable condition] {yes no : Action σ ε α}
    (onYes : condition → Ends pre post failed yes) (onNo : ¬condition → Ends pre post failed no) :
    Ends pre post failed (if condition then yes else no) := by
  split
  · next holds => exact onYes holds
  · next fails => exact onNo fails

/-- A body that asks for less and says more. -/
theorem Ends.mono {weaker stronger : σ → Prop} {fails : ε → σ → Prop} {action : Action σ ε α}
    (ends : Ends weaker stronger fails action) (asks : ∀ store, pre store → weaker store)
    (returns : ∀ store, stronger store → post store)
    (raises : ∀ fault store, fails fault store → failed fault store) :
    Ends pre post failed action := by
  intro store found
  obtain ⟨onReturn, onRaise⟩ := ends store (asks store found)
  constructor
  · exact fun value after ran => returns after (onReturn value after ran)
  · exact fun fault after ran => raises fault after (onRaise fault after ran)

end Ends

end Action

end HermesMesh.Foundation
