import FederatedLearning.Proofs.ModelFactories
import FederatedLearning.Proofs.VariableChanges

/-!
# What computations do to graphs

`Registers handles` says of a piece of a construction that it has created the variables
of the handles and no others, and that these have joined the graph that was active.
Pieces done one after the other register their variables one after the other.

`KeepsGraphs` says of a computation that it registers nothing, and `FailsCleanly` that it
has done nothing at all where it fails.
-/

namespace FederatedLearning

theorem Store.holds_create_iff {store : Store} {name : String} {initial : Tensor}
    {handle : Variable} :
    (store.create name initial).2.Holds handle ↔
      store.Holds handle ∨ handle = (store.create name initial).1 := by
  have positions : handle = ⟨store.cells.length⟩ ↔ handle.position = store.cells.length :=
    ⟨fun same => same ▸ rfl, fun same => congrArg Variable.mk same⟩
  simp only [Holds, create, List.length_append, List.length_singleton, positions]
  omega

namespace Construction

variable {α β : Type} {construction before middle after inside : Construction}
  {handles later : List Variable}

theorem bind_apply (first : Build α) (next : α → Build β) (construction : Construction) :
    (first >>= next) construction =
      match first construction with
      | (.ok value, middle) => next value middle
      | (.error error, middle) => (.error error, middle) := by
  simp only [bind, ExceptT.bind, ExceptT.mk, StateT.bind]
  rcases first construction with ⟨outcome, middle⟩
  cases outcome <;> rfl

theorem bind_of_ok {first : Build α} {next : α → Build β} {value : α}
    (ran : first construction = (.ok value, middle)) :
    (first >>= next) construction = next value middle := by
  rw [bind_apply, ran]

@[simp] theorem ofExcept_apply (outcome : Except LearningError α) (construction : Construction) :
    (MonadExcept.ofExcept outcome : Build α) construction = (outcome, construction) := by
  cases outcome <;> rfl

theorem onStore_apply {effect : Store.Effect α} {outcome : Except LearningError α} {after : Store}
    (ran : effect construction.store = (outcome, after)) :
    onStore effect construction = (outcome, { construction with store := after }) := by
  rw [onStore, ran]

theorem SameGraphs.refl : construction.SameGraphs construction :=
  ⟨rfl, rfl⟩

theorem SameGraphs.trans (first : before.SameGraphs middle) (second : middle.SameGraphs after) :
    before.SameGraphs after :=
  ⟨second.base.trans first.base, second.scopes.trans first.scopes⟩

theorem SameGraphs.registerAll (same : before.SameGraphs after) (handles : List Variable) :
    (before.registerAll handles).SameGraphs (after.registerAll handles) := by
  induction handles generalizing before after with
  | nil => exact same
  | cons handle handles induction =>
      obtain ⟨sameBase, sameScopes⟩ := register_congr after before handle same.base same.scopes
      exact induction ⟨sameBase, sameScopes⟩

theorem registerAll_append :
    construction.registerAll (handles ++ later) =
      (construction.registerAll handles).registerAll later :=
  List.foldl_append

/-- The handles are those of all variables created in between, each once, and these have
joined the active graph one after the other. -/
structure Registers (handles : List Variable) (before after : Construction) : Prop where
  joined : (before.registerAll handles).SameGraphs after
  once : handles.Nodup
  created : ∀ handle, handle ∈ handles ↔ after.store.Holds handle ∧ ¬before.store.Holds handle
  kept : ∀ {handle}, before.store.Holds handle → after.store.Holds handle

theorem Registers.trans (first : Registers handles before middle)
    (second : Registers later middle after) : Registers (handles ++ later) before after where
  joined := by
    rw [registerAll_append]
    exact (first.joined.registerAll later).trans second.joined
  once := by
    apply first.once.append second.once
    intro handle now then'
    exact ((second.created handle).mp then').2 ((first.created handle).mp now).1
  created handle := by
    rw [List.mem_append, first.created, second.created]
    constructor
    · rintro (⟨held, fresh⟩ | ⟨held, fresh⟩)
      · exact ⟨second.kept held, fresh⟩
      · exact ⟨held, fun old => fresh (first.kept old)⟩
    · rintro ⟨held, fresh⟩
      by_cases early : middle.store.Holds handle
      · exact .inl ⟨early, fresh⟩
      · exact .inr ⟨held, early⟩
  kept held := second.kept (first.kept held)

theorem registers_create (name : String) (initial : Tensor) :
    Registers [(create name initial construction).1] construction
      (create name initial construction).2 where
  joined := by
    obtain ⟨sameBase, sameScopes⟩ := register_congr
      { construction with store := (construction.store.create name initial).2 } construction
      (construction.store.create name initial).1 rfl rfl
    exact ⟨sameBase, sameScopes⟩
  once := List.nodup_singleton _
  created handle := by
    rw [create_apply, store_register, Store.holds_create_iff, List.mem_singleton]
    constructor
    · rintro rfl
      have fresh : ¬construction.store.Holds (construction.store.create name initial).1 :=
        Store.not_holds_create
      exact ⟨.inr rfl, fresh⟩
    · rintro ⟨held | new, fresh⟩
      · exact absurd held fresh
      · exact new
  kept held := by
    rw [create_apply, store_register, Store.holds_create_iff]
    exact .inl held

theorem registers_zeros {name : String} {elementType : ElementType} {sizes : List Nat} :
    Registers [(zeros name elementType sizes construction).1] construction
      (zeros name elementType sizes construction).2 :=
  registers_create name (.zeros elementType sizes)

/-- What is registered stays so whatever is written afterwards. -/
theorem Registers.of_rewrites {targets : List Variable} {store : Store}
    (registers : Registers handles before middle)
    (written : Store.Rewrites targets middle.store store) :
    Registers handles before { middle with store } where
  joined := ⟨registers.joined.base, registers.joined.scopes⟩
  once := registers.once
  created handle := by
    rw [registers.created, written.holds_iff]
  kept held := written.holds_iff.mpr (registers.kept held)

/-- Without scopes, what is registered joins the base graph. -/
theorem Registers.base_eq (registers : Registers handles before after)
    (closed : before.scopes = []) : after.base = before.base ++ handles := by
  rw [registers.joined.base, registerAll_of_closed closed]

/-- Whatever is registered within a scope is gone with it. -/
theorem sameGraphs_leave (joined : ((enter construction).2.registerAll handles).SameGraphs inside) :
    construction.SameGraphs (inside.leave ⟨construction.depth + 1⟩) := by
  have opened : (enter construction).2.scopes = construction.scopes ++ [[]] := rfl
  rw [registerAll_of_open opened] at joined
  constructor
  · exact joined.base
  · change inside.scopes.take construction.scopes.length = construction.scopes
    rw [joined.scopes]
    exact List.take_left' rfl

/-- The computation works on the contents of variables alone. -/
def KeepsGraphs (build : Build α) : Prop :=
  ∀ construction : Construction, construction.SameGraphs (build construction).2

theorem keepsGraphs_onStore (effect : Store.Effect α) : KeepsGraphs (onStore effect) :=
  fun _ => ⟨rfl, rfl⟩

theorem keepsGraphs_get : KeepsGraphs (get : Build Construction) :=
  fun _ => .refl

theorem keepsGraphs_pure (value : α) : KeepsGraphs (pure value) :=
  fun _ => .refl

theorem keepsGraphs_ofExcept (outcome : Except LearningError α) :
    KeepsGraphs (MonadExcept.ofExcept outcome) := by
  intro construction
  rw [ofExcept_apply]
  exact .refl

theorem KeepsGraphs.bind {first : Build α} {next : α → Build β} (keeps : KeepsGraphs first)
    (nextKeeps : ∀ value, KeepsGraphs (next value)) : KeepsGraphs (first >>= next) := by
  intro construction
  have kept := keeps construction
  rw [bind_apply]
  split
  · rename_i value middle passed
    rw [passed] at kept
    exact kept.trans (nextKeeps value middle)
  · rename_i error middle failed
    rw [failed] at kept
    exact kept

/-- Wherever the computation fails, it leaves the construction as it was. -/
def FailsCleanly (build : Build α) : Prop :=
  ∀ {construction after : Construction} {error : LearningError},
    build construction = (.error error, after) → after = construction

theorem failsCleanly_ofExcept (outcome : Except LearningError α) :
    FailsCleanly (MonadExcept.ofExcept outcome) := by
  intro construction after error failed
  rw [ofExcept_apply] at failed
  exact (Prod.mk.inj failed).2.symm

end Construction

end FederatedLearning
