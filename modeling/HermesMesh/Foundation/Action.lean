import Mathlib

/-!
# Actions on a store that may raise

A method of a Python object reads and writes the object's fields and may raise an
exception; whatever it wrote before raising stays written.  `Action` is that
shape, with `do` blocks for bodies, and `Within` is the rule by which a relation
between the stores before and after is carried through a body.
-/

namespace HermesMesh.Foundation

/-- A method body over a store: its result or exception, and the store it leaves. -/
def Action (σ ε α : Type) := σ → Except ε α × σ

/-- A computation returns when its first part does and the rest does from there. -/
theorem except_bind_eq_ok {ε α β : Type} {first : Except ε α} {next : α → Except ε β} {value : β} :
    first >>= next = .ok value ↔ ∃ middle, first = .ok middle ∧ next middle = .ok value := by
  cases first with
  | error fault => simp [bind, Except.bind]
  | ok middle => simp [bind, Except.bind]

namespace Action

variable {σ τ ε α β : Type}

/-- The outcome of an action on a store. -/
def run (action : Action σ ε α) (store : σ) : Except ε α × σ := action store

instance : Monad (Action σ ε) where
  pure value := fun store => (.ok value, store)
  bind action next := fun store =>
    match action store with
    | (.ok value, after) => next value after
    | (.error fault, after) => (.error fault, after)

/-- `raise fault`. -/
def raise (fault : ε) : Action σ ε α := fun store => (.error fault, store)

/-- The store as it is. -/
def read : Action σ ε σ := fun store => (.ok store, store)

/-- An assignment to the store. -/
def modify (update : σ → σ) : Action σ ε Unit := fun store => (.ok (), update store)

/-- A library call that raises `fault` when it has no result. -/
def ofOption (fault : ε) : Option α → Action σ ε α
  | some value => fun store => (.ok value, store)
  | none => raise fault

/-- A computation that may raise and touches no store. -/
def ofExcept (result : Except ε α) : Action σ ε α := fun store => (result, store)

/-- `try: action except: handler(fault)`. -/
def catching (action : Action σ ε α) (handler : ε → Action σ ε α) : Action σ ε α := fun store =>
  match action store with
  | (.ok value, after) => (.ok value, after)
  | (.error fault, after) => handler fault after

/-- A result with the exceptions that `select` takes for results. -/
def attempted (select : ε → Option β) : Except ε α → Except ε (Except β α)
  | .ok value => .ok (.ok value)
  | .error fault =>
      match select fault with
      | some selected => .ok (.error selected)
      | none => .error fault

/-- `try: action except`, for the exceptions that `select` takes for results. -/
def attempt (select : ε → Option β) (action : Action σ ε α) : Action σ ε (Except β α) := fun store =>
  (attempted select (action store).1, (action store).2)

/-- An action of a component, run on the whole it is part of. -/
def zoom (get : τ → σ) (put : σ → τ → τ) (action : Action σ ε α) : Action τ ε α := fun whole =>
  let (result, part) := action (get whole)
  (result, put part whole)

@[simp] theorem run_pure (value : α) (store : σ) :
    (pure value : Action σ ε α).run store = (.ok value, store) := rfl

theorem run_bind (action : Action σ ε α) (next : α → Action σ ε β) (store : σ) :
    (action >>= next).run store =
      match action.run store with
      | (.ok value, after) => (next value).run after
      | (.error fault, after) => (.error fault, after) := rfl

@[simp] theorem run_raise (fault : ε) (store : σ) :
    (raise fault : Action σ ε α).run store = (.error fault, store) := rfl

@[simp] theorem run_read (store : σ) : (read : Action σ ε σ).run store = (.ok store, store) := rfl

@[simp] theorem run_modify (update : σ → σ) (store : σ) :
    (modify update : Action σ ε Unit).run store = (.ok (), update store) := rfl

@[simp] theorem run_ofOption_some (fault : ε) (value : α) (store : σ) :
    (ofOption fault (some value)).run store = (.ok value, store) := rfl

@[simp] theorem run_ofOption_none (fault : ε) (store : σ) :
    (ofOption fault (none : Option α)).run store = (.error fault, store) := rfl

@[simp] theorem run_ofExcept (result : Except ε α) (store : σ) :
    (ofExcept result).run store = (result, store) := rfl

@[simp] theorem run_zoom (get : τ → σ) (put : σ → τ → τ) (action : Action σ ε α) (whole : τ) :
    (zoom get put action).run whole =
      ((action.run (get whole)).1, put (action.run (get whole)).2 whole) := rfl

theorem ofExcept_ok_bind (value : α) (next : α → Action σ ε β) :
    (ofExcept (.ok value) >>= next) = next value := rfl

/-- What `catching` leaves when the handler raises again. -/
theorem run_catching_raise (action : Action σ ε α) (wrap : ε → ε) (store : σ) :
    (action.catching fun fault => raise (wrap fault)).run store =
      ((action.run store).1.mapError wrap, (action.run store).2) := by
  simp only [run, catching]
  rcases action store with ⟨fault | value, after⟩
  · rfl
  · rfl

@[simp] theorem run_attempt (select : ε → Option β) (action : Action σ ε α) (store : σ) :
    (action.attempt select).run store =
      (attempted select (action.run store).1, (action.run store).2) := rfl

theorem run_bind_ok {action : Action σ ε α} {store after : σ} {value : α}
    (ok : action.run store = (.ok value, after)) (next : α → Action σ ε β) :
    (action >>= next).run store = (next value).run after := by
  rw [run_bind, ok]

theorem run_bind_error {action : Action σ ε α} {store after : σ} {fault : ε}
    (failed : action.run store = (.error fault, after)) (next : α → Action σ ε β) :
    (action >>= next).run store = (.error fault, after) := by
  rw [run_bind, failed]

/-- A body returns exactly when its first part does and the rest returns from there. -/
theorem run_bind_eq_ok {action : Action σ ε α} {next : α → Action σ ε β} {store after : σ}
    {value : β} :
    (action >>= next).run store = (.ok value, after) ↔
      ∃ first middle, action.run store = (.ok first, middle) ∧
        (next first).run middle = (.ok value, after) := by
  rw [run_bind]
  rcases action.run store with ⟨_ | first, middle⟩
  · simp
  · simp

/-- What a body returns, from what its parts return. -/
theorem run_bind_fst_eq_ok {action : Action σ ε α} {next : α → Action σ ε β} {store : σ} {value : β} :
    ((action >>= next).run store).1 = .ok value ↔
      ∃ first, (action.run store).1 = .ok first ∧
        ((next first).run (action.run store).2).1 = .ok value := by
  rw [run_bind]
  rcases action.run store with ⟨_ | first, middle⟩
  · simp
  · simp

/-! ## Relations between the stores before and after -/

/-- However the action ends, the store it leaves is related to the one it found. -/
def Within (related : σ → σ → Prop) (action : Action σ ε α) : Prop :=
  ∀ store, related store (action.run store).2

section Within

variable {related : σ → σ → Prop}

theorem within_pure [Std.Refl related] (value : α) :
    Within related (pure value : Action σ ε α) :=
  fun store => Std.Refl.refl store

theorem within_raise [Std.Refl related] (fault : ε) :
    Within related (raise fault : Action σ ε α) :=
  fun store => Std.Refl.refl store

theorem within_read [Std.Refl related] : Within related (read : Action σ ε σ) :=
  fun store => Std.Refl.refl store

theorem within_modify {update : σ → σ} (updates : ∀ store, related store (update store)) :
    Within related (modify update : Action σ ε Unit) :=
  updates

theorem within_ofOption [Std.Refl related] (fault : ε) (result : Option α) :
    Within related (ofOption fault result : Action σ ε α) := by
  cases result with
  | none => exact within_raise fault
  | some value => exact within_pure value

theorem within_ofExcept [Std.Refl related] (result : Except ε α) :
    Within related (ofExcept result : Action σ ε α) :=
  fun store => Std.Refl.refl store

theorem within_bind [IsTrans σ related] {action : Action σ ε α} {next : α → Action σ ε β}
    (first : Within related action) (rest : ∀ value, Within related (next value)) :
    Within related (action >>= next) := by
  intro store
  have before := first store
  rw [run_bind]
  rcases outcome : action.run store with ⟨_ | value, middle⟩
  · rw [outcome] at before
    exact before
  · rw [outcome] at before
    exact IsTrans.trans _ _ _ before (rest value middle)

theorem within_ite {condition : Prop} [Decidable condition] {yes no : Action σ ε α}
    (onYes : condition → Within related yes) (onNo : ¬condition → Within related no) :
    Within related (if condition then yes else no) := by
  split
  · next holds => exact onYes holds
  · next fails => exact onNo fails

theorem within_zoom {get : τ → σ} {put : σ → τ → τ} {outer : τ → τ → Prop}
    {action : Action σ ε α} (inner : Within related action)
    (lifts : ∀ whole part, related (get whole) part → outer whole (put part whole)) :
    Within outer (zoom get put action) :=
  fun whole => lifts whole _ (inner (get whole))

theorem within_attempt {action : Action σ ε α} (inner : Within related action)
    (select : ε → Option β) : Within related (action.attempt select) :=
  inner

/-- What raises with another exception leaves what it left before. -/
theorem within_catching {action : Action σ ε α} (inner : Within related action) (wrap : ε → ε) :
    Within related (action.catching fun fault => raise (wrap fault)) := by
  intro store
  rw [run_catching_raise]
  exact inner store

end Within

/-! ## Which exceptions an action can raise -/

/-- Every exception of the action is one of `faults`. -/
def Raises (faults : ε → Prop) (action : Action σ ε α) : Prop :=
  ∀ store fault, (action.run store).1 = .error fault → faults fault

section Raises

variable {faults : ε → Prop}

theorem raises_pure (value : α) : Raises faults (pure value : Action σ ε α) :=
  fun _ _ failed => by cases failed

theorem raises_raise {fault : ε} (allowed : faults fault) :
    Raises faults (raise fault : Action σ ε α) := by
  intro store other failed
  cases failed
  exact allowed

theorem raises_read : Raises faults (read : Action σ ε σ) :=
  fun _ _ failed => by cases failed

theorem raises_modify (update : σ → σ) : Raises faults (modify update : Action σ ε Unit) :=
  fun _ _ failed => by cases failed

theorem raises_ofOption {fault : ε} (allowed : faults fault) (result : Option α) :
    Raises faults (ofOption fault result : Action σ ε α) := by
  cases result with
  | none => exact raises_raise allowed
  | some value => exact raises_pure value

theorem raises_bind {action : Action σ ε α} {next : α → Action σ ε β}
    (first : Raises faults action) (rest : ∀ value, Raises faults (next value)) :
    Raises faults (action >>= next) := by
  intro store fault failed
  rw [run_bind] at failed
  rcases outcome : action.run store with ⟨other | value, middle⟩
  · rw [outcome] at failed
    cases failed
    exact first store _ (by rw [outcome])
  · rw [outcome] at failed
    exact rest value middle fault failed

theorem raises_ite {condition : Prop} [Decidable condition] {yes no : Action σ ε α}
    (onYes : condition → Raises faults yes) (onNo : ¬condition → Raises faults no) :
    Raises faults (if condition then yes else no) := by
  split
  · next holds => exact onYes holds
  · next fails => exact onNo fails

end Raises

/-! ## Invariants that an action needs to find -/

/-- From a store with the invariant, the action leaves one, and returns a value with `post`
or raises one of `faults`. -/
def Keeps (inv : σ → Prop) (faults : ε → Prop) (post : α → Prop) (action : Action σ ε α) : Prop :=
  ∀ store, inv store → inv (action.run store).2 ∧
    (∀ value, (action.run store).1 = .ok value → post value) ∧
    ∀ fault, (action.run store).1 = .error fault → faults fault

section Keeps

variable {inv : σ → Prop} {faults : ε → Prop} {post : α → Prop}

theorem keeps_pure {value : α} (holds : post value) :
    Keeps inv faults post (pure value : Action σ ε α) := by
  intro store found
  refine ⟨found, ?_, ?_⟩
  · intro other same
    cases same
    exact holds
  · intro fault failed
    cases failed

theorem keeps_raise {fault : ε} (allowed : faults fault) :
    Keeps inv faults post (raise fault : Action σ ε α) := by
  intro store found
  refine ⟨found, ?_, ?_⟩
  · intro value same
    cases same
  · intro other failed
    cases failed
    exact allowed

theorem keeps_read : Keeps inv faults inv (read : Action σ ε σ) := by
  intro store found
  refine ⟨found, ?_, ?_⟩
  · intro value same
    cases same
    exact found
  · intro fault failed
    cases failed

theorem keeps_modify {update : σ → σ} (updates : ∀ store, inv store → inv (update store)) :
    Keeps inv faults (fun _ => True) (modify update : Action σ ε Unit) := by
  intro store found
  refine ⟨updates store found, ?_, ?_⟩
  · intro value same
    trivial
  · intro fault failed
    cases failed

theorem keeps_ofOption {fault : ε} (allowed : faults fault) (result : Option α) :
    Keeps inv faults (fun _ => True) (ofOption fault result : Action σ ε α) := by
  cases result with
  | none => exact keeps_raise allowed
  | some value => exact keeps_pure trivial

theorem keeps_bind {mid : β → Prop} {action : Action σ ε β} {next : β → Action σ ε α}
    (first : Keeps inv faults mid action) (rest : ∀ value, mid value → Keeps inv faults post (next value)) :
    Keeps inv faults post (action >>= next) := by
  intro store found
  obtain ⟨left, value, fault⟩ := first store found
  rw [run_bind]
  rcases outcome : action.run store with ⟨other | middle, after⟩
  · rw [outcome] at left fault
    refine ⟨left, ?_, ?_⟩
    · intro result same
      cases same
    · intro raised same
      cases same
      exact fault other rfl
  · rw [outcome] at left value
    exact rest middle (value middle rfl) after left

theorem keeps_ite {condition : Prop} [Decidable condition] {yes no : Action σ ε α}
    (onYes : condition → Keeps inv faults post yes) (onNo : ¬condition → Keeps inv faults post no) :
    Keeps inv faults post (if condition then yes else no) := by
  split
  · next holds => exact onYes holds
  · next fails => exact onNo fails

end Keeps

end Action

/-- Two stores agree on what `view` shows of them. -/
def Agree {σ τ : Type} (view : σ → τ) (before after : σ) : Prop := view after = view before

instance {σ τ : Type} (view : σ → τ) : Std.Refl (Agree view) := ⟨fun _ => rfl⟩

instance {σ τ : Type} (view : σ → τ) : IsTrans σ (Agree view) :=
  ⟨fun _ _ _ first second => Eq.trans (b := view _) second first⟩

end HermesMesh.Foundation
