import FederatedLearning.Variable.Store

/-!
# Reading and writing variables

A write is seen through the handles of the written cell and through no other,
and as long as every write has the type of its target, no variable changes its
type.  Computations over variables are opened step by step by the `_apply`
lemmas, so that proofs about them never unfold the monad.
-/

namespace FederatedLearning.Store

section

variable {α β : Type}

theorem Effect.bind_apply (first : Effect α) (next : α → Effect β) (store : Store) :
    (first >>= next) store =
      match first store with
      | (.ok value, middle) => next value middle
      | (.error error, middle) => (.error error, middle) := by
  simp only [bind, ExceptT.bind, ExceptT.mk, StateT.bind]
  rcases first store with ⟨outcome, middle⟩
  cases outcome <;> rfl

@[simp] theorem Effect.get_apply (store : Store) :
    (get : Effect Store) store = (.ok store, store) := rfl

@[simp] theorem Effect.pure_apply (value : α) (store : Store) :
    (pure value : Effect α) store = (.ok value, store) := rfl

@[simp] theorem Effect.ofExcept_apply (outcome : Except LearningError α) (store : Store) :
    (MonadExcept.ofExcept outcome : Effect α) store = (outcome, store) := by
  cases outcome <;> rfl

/-- A computation that only reads. -/
theorem Effect.reading_apply (read : Store → Except LearningError α) (store : Store) :
    (do MonadExcept.ofExcept (read (← get)) : Effect α) store = (read store, store) := by
  simp only [bind_apply, get_apply, ofExcept_apply]

end

variable {store : Store} {handle target : Variable} {contents : Tensor}

/-- The store has a cell for the handle. -/
def Holds (store : Store) (handle : Variable) : Prop :=
  handle.position < store.cells.length

instance : Decidable (store.Holds handle) :=
  inferInstanceAs (Decidable (_ < _))

/-- Every variable has the same type in both stores. -/
def SameTypes (before after : Store) : Prop :=
  ∀ handle, after.type handle = before.type handle

theorem SameTypes.refl (store : Store) : SameTypes store store :=
  fun _ => rfl

theorem SameTypes.trans {first second third : Store}
    (before : SameTypes first second) (after : SameTypes second third) :
    SameTypes first third :=
  fun handle => (after handle).trans (before handle)

@[simp] theorem holds_put : (store.put target contents).Holds handle ↔ store.Holds handle := by
  simp [Holds, put]

theorem read_put_self (held : store.Holds target) :
    (store.put target contents).read target = contents := by
  unfold Holds at held
  simp [read, cell, put, held]

theorem cell_put_of_ne (different : handle ≠ target) :
    (store.put target contents).cell handle = store.cell handle := by
  have apart : target.position ≠ handle.position := by
    intro same
    exact different (congrArg Variable.mk same.symm)
  simp [cell, put, apart]

theorem read_put_of_ne (different : handle ≠ target) :
    (store.put target contents).read handle = store.read handle :=
  congrArg Cell.contents (cell_put_of_ne different)

/-- A write through a handle without a cell changes nothing. -/
theorem put_of_not_holds (absent : ¬store.Holds target) : store.put target contents = store := by
  unfold Holds at absent
  have beyond : store.cells.length ≤ target.position := Nat.le_of_not_lt absent
  simp [put, List.modify_eq_self beyond]

/-- A write is not seen where it would write what is already there. -/
theorem read_put_of_harmless (harmless : handle = target → contents = store.read target) :
    (store.put target contents).read handle = store.read handle := by
  by_cases same : handle = target
  · subst same
    by_cases held : store.Holds handle
    · rw [read_put_self held, harmless rfl]
    · rw [put_of_not_holds held]
  · exact read_put_of_ne same

theorem sameTypes_put (fits : contents.type = store.type target) :
    SameTypes store (store.put target contents) := by
  intro handle
  by_cases held : store.Holds target
  · by_cases same : handle = target
    · subst same
      rw [type, read_put_self held, fits]
    · rw [type, read_put_of_ne same, type]
  · rw [put_of_not_holds held]

theorem update_apply (handle : Variable) (operation : Tensor → Except LearningError Tensor)
    (store : Store) :
    update handle operation store =
      match operation (store.read handle) with
      | .ok contents => (.ok (), store.put handle contents)
      | .error error => (.error error, store) := by
  unfold update
  simp only [Effect.bind_apply, Effect.get_apply]
  cases operation (store.read handle) <;> rfl

theorem assign_apply_of_fits (fits : contents.type = store.type target) :
    assign target contents store = (.ok (), store.put target contents) := by
  have accepted : (store.read target).assign contents = .ok contents := if_pos fits
  rw [assign, update_apply, accepted]
  rfl

end FederatedLearning.Store
