import FederatedLearning.Proofs.FallibleTraversal
import FederatedLearning.Proofs.VariableStore
import FederatedLearning.Proofs.ValueArithmetic

/-!
# What computations do to variables

Once a variable is created, only writes change it, and every write has the type
of what it replaces.  `Rewrites targets` relates a store to those reached by such
writes to the targets, and `Effect.Writes targets` says of a computation that it
does nothing else, whether or not it succeeds.  `Effect.Yields` says that a
computation succeeds, and `Effect.Atomic` that it writes nothing when it fails.

A later store extends an earlier one: it has all variables of the earlier one,
with their types.  A variable therefore keeps the type it was created with, and
with its name all that it was declared as.
-/

namespace FederatedLearning

theorem Tensor.eq_float32_of_singles {what : String} {tensor : Tensor}
    {array : DenseArray Float32} (viewed : tensor.singles what = .ok array) :
    tensor = .float32 array := by
  cases tensor with
  | float32 other =>
      cases viewed
      rfl
  | float64 other => cases viewed
  | int32 other => cases viewed
  | int64 other => cases viewed

/-- What is fixed of a variable when it is created. -/
structure Declaration where
  name : String
  elementType : ElementType
  sizes : List Nat
deriving DecidableEq, Repr

def Cell.declaration (cell : Cell) : Declaration :=
  ⟨cell.name, cell.contents.elementType, cell.contents.sizes⟩

namespace Store

/-- The second store is the first one after writes to the targets, each of the
type of what it replaces. -/
inductive Rewrites (targets : List Variable) (before : Store) : Store → Prop where
  | refl : Rewrites targets before before
  | put {middle : Store} {target : Variable} {contents : Tensor} :
      Rewrites targets before middle →
      target ∈ targets →
      contents.type = middle.type target →
      Rewrites targets before (middle.put target contents)

/-- Every variable of the first store is one of the second, with its type. -/
structure Extends (before after : Store) : Prop where
  holds : ∀ {handle}, before.Holds handle → after.Holds handle
  type_eq : ∀ {handle}, before.Holds handle → after.type handle = before.type handle

/-- The handle is that of a variable of the type. -/
structure HasType (store : Store) (handle : Variable) (type : TensorType) : Prop where
  held : store.Holds handle
  type_eq : store.type handle = type

instance {store : Store} {handle : Variable} {type : TensorType} :
    Decidable (store.HasType handle type) :=
  decidable_of_iff (store.Holds handle ∧ store.type handle = type)
    ⟨fun both => ⟨both.1, both.2⟩, fun typed => ⟨typed.held, typed.type_eq⟩⟩

section

variable {targets : List Variable} {before middle after : Store} {handle : Variable}

theorem Rewrites.trans (first : Rewrites targets before middle)
    (second : Rewrites targets middle after) : Rewrites targets before after := by
  induction second with
  | refl => exact first
  | put _ inside fits induction => exact .put induction inside fits

theorem Rewrites.mono {others : List Variable} (rewrites : Rewrites targets before after)
    (among : ∀ target ∈ targets, target ∈ others) : Rewrites others before after := by
  induction rewrites with
  | refl => exact .refl
  | put _ inside fits induction => exact .put induction (among _ inside) fits

theorem Rewrites.holds_iff (rewrites : Rewrites targets before after) :
    after.Holds handle ↔ before.Holds handle := by
  induction rewrites with
  | refl => rfl
  | put _ _ _ induction => rw [holds_put, induction]

theorem Rewrites.sameTypes (rewrites : Rewrites targets before after) :
    before.SameTypes after := by
  induction rewrites with
  | refl => exact SameTypes.refl before
  | put _ _ fits induction => exact induction.trans (sameTypes_put fits)

theorem Rewrites.cell_eq (rewrites : Rewrites targets before after) (outside : handle ∉ targets) :
    after.cell handle = before.cell handle := by
  induction rewrites with
  | refl => rfl
  | @put middle target contents _ inside _ induction =>
      have different : handle ≠ target := by
        intro same
        exact outside (same ▸ inside)
      exact (cell_put_of_ne different).trans induction

theorem Rewrites.read_eq (rewrites : Rewrites targets before after)
    (outside : handle ∉ targets) : after.read handle = before.read handle :=
  congrArg Cell.contents (rewrites.cell_eq outside)

/-- Without targets nothing is written. -/
theorem Rewrites.eq_of_nil (rewrites : Rewrites [] before after) : after = before := by
  cases rewrites with
  | refl => rfl
  | put _ inside _ => cases inside

theorem Extends.trans (first : Extends before middle) (second : Extends middle after) :
    Extends before after where
  holds held := second.holds (first.holds held)
  type_eq held := (second.type_eq (first.holds held)).trans (first.type_eq held)

theorem Rewrites.extends (rewrites : Rewrites targets before after) : Extends before after where
  holds held := rewrites.holds_iff.mpr held
  type_eq _ := rewrites.sameTypes _

theorem HasType.extends {type : TensorType} (typed : before.HasType handle type)
    (extended : Extends before after) : after.HasType handle type where
  held := extended.holds typed.held
  type_eq := (extended.type_eq typed.held).trans typed.type_eq

end

section

variable {store : Store} {name : String} {initial : Tensor} {handle : Variable}

theorem not_holds_create : ¬store.Holds (store.create name initial).1 := by
  simp [Holds, create]

theorem cell_create_of_holds (held : store.Holds handle) :
    (store.create name initial).2.cell handle = store.cell handle := by
  unfold Holds at held
  simp [cell, create, List.getElem?_append_left held]

theorem extends_create : Extends store (store.create name initial).2 where
  holds held := by
    unfold Holds at held ⊢
    simp only [create, List.length_append, List.length_singleton]
    omega
  type_eq held := by simp only [type, read, cell_create_of_holds held]

theorem hasType_create :
    (store.create name initial).2.HasType (store.create name initial).1 initial.type where
  held := by simp [Holds, create]
  type_eq := by simp [type, read, cell, create]

end

/-- What the variables of the store are declared as, in the order of their creation. -/
def declarations (store : Store) : List Declaration :=
  store.cells.map Cell.declaration

section

variable {targets : List Variable} {before after store : Store} {target : Variable}
  {contents : Tensor}

theorem declarations_create (name : String) (initial : Tensor) :
    (store.create name initial).2.declarations =
      store.declarations ++ [⟨name, initial.elementType, initial.sizes⟩] := by
  simp [declarations, create, Cell.declaration]

theorem declarations_put (fits : contents.type = store.type target) :
    (store.put target contents).declarations = store.declarations := by
  apply List.ext_getElem?
  intro position
  simp only [declarations, put, List.getElem?_map, List.getElem?_modify]
  cases found : store.cells[position]? with
  | none => simp
  | some old =>
      by_cases same : target.position = position
      · subst same
        have here : store.read target = old.contents := by simp [read, cell, found]
        rw [type, here] at fits
        obtain ⟨sameElements, sameSizes⟩ := Tensor.type_eq_iff.mp fits
        simp [Cell.declaration, sameElements, sameSizes]
      · simp [same]

theorem Rewrites.declarations_eq (rewrites : Rewrites targets before after) :
    after.declarations = before.declarations := by
  induction rewrites with
  | refl => rfl
  | put _ _ fits induction => rw [declarations_put fits, induction]

end

namespace Effect

variable {α β : Type} {targets : List Variable}

/-- The computation only writes to the targets, and keeps their types. -/
def Writes (targets : List Variable) (effect : Effect α) : Prop :=
  ∀ store, Rewrites targets store (effect store).2

/-- The computation succeeds, and what it yields with the store afterwards has the
property. -/
def Yields (effect : Effect α) (store : Store) (property : α → Store → Prop) : Prop :=
  ∃ value after, effect store = (.ok value, after) ∧ property value after

theorem writes_pure (value : α) : Writes targets (pure value : Effect α) :=
  fun _ => .refl

theorem writes_get : Writes targets (get : Effect Store) :=
  fun _ => .refl

theorem writes_ofExcept (outcome : Except LearningError α) :
    Writes targets (MonadExcept.ofExcept outcome : Effect α) := by
  intro store
  rw [ofExcept_apply]
  exact .refl

theorem Writes.bind {first : Effect α} {next : α → Effect β} (firstWrites : Writes targets first)
    (nextWrites : ∀ value, Writes targets (next value)) : Writes targets (first >>= next) := by
  intro store
  have reached := firstWrites store
  rw [bind_apply]
  cases outcome : first store with
  | mk result middle =>
      rw [outcome] at reached
      cases result with
      | error error => exact reached
      | ok value => exact reached.trans (nextWrites value middle)

theorem Writes.mono {others : List Variable} {effect : Effect α} (writes : Writes targets effect)
    (among : ∀ target ∈ targets, target ∈ others) : Writes others effect :=
  fun store => (writes store).mono among

theorem Yields.bind {first : Effect α} {next : α → Effect β} {store : Store}
    {property : β → Store → Prop}
    (yields : first.Yields store fun value middle => (next value).Yields middle property) :
    (first >>= next).Yields store property := by
  obtain ⟨value, middle, succeeds, result, after, succeedsNext, holds⟩ := yields
  refine ⟨result, after, ?_, holds⟩
  rw [bind_apply, succeeds]
  exact succeedsNext

theorem Yields.of_ofExcept {outcome : Except LearningError α} {value : α} {store : Store}
    {property : α → Store → Prop} (succeeds : outcome = .ok value) (holds : property value store) :
    (MonadExcept.ofExcept outcome : Effect α).Yields store property :=
  ⟨value, store, by rw [ofExcept_apply, succeeds], holds⟩

/-- What is known of every outcome of a computation need not be shown again where it
succeeds. -/
theorem Yields.and {effect : Effect α} {store : Store} {property known : α → Store → Prop}
    (yields : effect.Yields store property)
    (always : ∀ value after, effect store = (.ok value, after) → known value after) :
    effect.Yields store fun value after => property value after ∧ known value after := by
  obtain ⟨value, after, succeeds, holds⟩ := yields
  exact ⟨value, after, succeeds, holds, always value after succeeds⟩

theorem Yields.and_rewrites {effect : Effect α} {store : Store} {property : α → Store → Prop}
    (yields : effect.Yields store property) (writes : Writes targets effect) :
    effect.Yields store fun value after => property value after ∧ Rewrites targets store after := by
  apply yields.and
  intro value after succeeds
  have reached := writes store
  rwa [succeeds] at reached

theorem Yields.imp {effect : Effect α} {store : Store} {property weaker : α → Store → Prop}
    (yields : effect.Yields store property)
    (implies : ∀ value after, property value after → weaker value after) :
    effect.Yields store weaker := by
  obtain ⟨value, after, succeeds, holds⟩ := yields
  exact ⟨value, after, succeeds, implies value after holds⟩

/-- A failure of the computation leaves the store as it was. -/
def Atomic (effect : Effect α) : Prop :=
  ∀ store error, (effect store).1 = .error error → (effect store).2 = store

theorem atomic_pure (value : α) : Atomic (pure value : Effect α) :=
  fun _ _ _ => rfl

theorem atomic_get_bind {next : Store → Effect β} (nextAtomic : ∀ store, Atomic (next store)) :
    Atomic (get >>= next) :=
  fun store => nextAtomic store store

theorem atomic_ofExcept_bind {outcome : Except LearningError α} {next : α → Effect β}
    (nextAtomic : ∀ value, Atomic (next value)) :
    Atomic (MonadExcept.ofExcept outcome >>= next) := by
  cases outcome with
  | error _ => exact fun _ _ _ => rfl
  | ok value => exact nextAtomic value

/-- What follows without failing does not break atomicity. -/
theorem Atomic.bind_pure {effect : Effect α} (atomic : effect.Atomic) (value : β) :
    Atomic (effect >>= fun _ => pure value) := by
  intro store error failed
  rw [bind_apply] at failed ⊢
  cases performed : effect store with
  | mk outcome middle =>
      rw [performed] at failed
      cases outcome with
      | error _ =>
          have kept := atomic store _ (congrArg Prod.fst performed)
          rwa [performed] at kept
      | ok _ => cases failed

end Effect

section

variable {targets : List Variable} {target : Variable} {store : Store}

theorem writes_update {operation : Tensor → Except LearningError Tensor} (inside : target ∈ targets)
    (keepsType : ∀ contents result, operation contents = .ok result →
      result.type = contents.type) :
    Effect.Writes targets (update target operation) := by
  intro store
  rw [update_apply]
  cases outcome : operation (store.read target) with
  | error error => exact .refl
  | ok contents => exact .put .refl inside (keepsType _ _ outcome)

theorem atomic_update {operation : Tensor → Except LearningError Tensor} :
    Effect.Atomic (update target operation) := by
  intro store error failed
  rw [update_apply] at failed ⊢
  cases outcome : operation (store.read target) with
  | error _ => rfl
  | ok contents =>
      rw [outcome] at failed
      cases failed

theorem writes_assign {source : Tensor} (inside : target ∈ targets) :
    Effect.Writes targets (assign target source) := by
  apply writes_update inside
  intro contents result accepted
  have assigned := ofTensor_eq_ok_iff.mp accepted
  unfold Tensor.assign at assigned
  split at assigned
  · rename_i same
    cases assigned
    exact same
  · cases assigned

theorem writes_assignAdd {addend : Tensor} (inside : target ∈ targets) :
    Effect.Writes targets (assignAdd target addend) := by
  apply writes_update inside
  intro contents result accepted
  exact (Tensor.type_of_add_eq_ok (ofTensor_eq_ok_iff.mp accepted)).2

theorem writes_updateSingles {change : Nat → Float32 → Float32} (inside : target ∈ targets) :
    Effect.Writes targets (updateSingles target change) := by
  apply writes_update inside
  intro contents result changed
  obtain ⟨array, viewed, rebuilt⟩ := exceptBind_eq_ok_iff.mp changed
  rw [Tensor.eq_float32_of_singles viewed, ← exceptPure_eq_ok_iff.mp rebuilt]
  rfl

theorem rewrites_reset (inside : target ∈ targets) : Rewrites targets store (store.reset target) := by
  apply Rewrites.put .refl inside
  unfold type
  cases store.read target <;> rfl

/-- An addend of the type of a variable is added to it. -/
theorem yields_assignAdd {addend : Tensor} {type : TensorType} (typed : store.HasType target type)
    (fits : addend.type = type) :
    (assignAdd target addend).Yields store fun _ after => Rewrites [target] store after := by
  have same : (store.read target).type = addend.type := typed.type_eq.trans fits.symm
  obtain ⟨sum, added⟩ := Tensor.exists_add_of_type_eq same
  have sumType := (Tensor.type_of_add_eq_ok added).2
  refine ⟨(), store.put target sum, ?_, .put .refl (by simp) sumType⟩
  rw [assignAdd, update_apply, added]
  rfl

end

end Store

end FederatedLearning
