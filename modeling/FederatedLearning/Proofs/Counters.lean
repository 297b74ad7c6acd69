import FederatedLearning.Model.Basic
import FederatedLearning.Proofs.ScopeStack
import FederatedLearning.Proofs.VariableChanges

/-!
# Counters

A counter is a variable that holds a single whole number.  A new one counts zero, a
reset one counts zero again, and what is added to it is added to its number, all
modulo the range of the numbers.  Writes to other variables leave it alone.
-/

namespace FederatedLearning

/-- Numbers are added where they are held, and wrap around as they do there. -/
theorem Tensor.add_ofNat (first second : Nat) :
    (Tensor.ofNat first).add (.ofNat second) = .ok (.ofNat (first + second)) := by
  simp [Tensor.ofNat, Tensor.add, DenseArray.scalar, DenseArray.zipWith, Int64.ofNat_add,
    Tensor.sizes]

namespace Store

/-- The handle is that of a variable that holds the number. -/
structure Counts (store : Store) (counter : Variable) (number : Nat) : Prop where
  held : store.Holds counter
  read_eq : store.read counter = .ofNat number

variable {store after : Store} {counter target : Variable} {number : Nat}
  {targets : List Variable}

theorem Counts.hasType (counts : store.Counts counter number) :
    store.HasType counter (.ofSizes .int64 []) where
  held := counts.held
  type_eq := by rw [type, counts.read_eq]; rfl

theorem Counts.of_read_eq (counts : store.Counts counter number)
    (extended : store.Extends after) (kept : after.read counter = store.read counter) :
    after.Counts counter number :=
  ⟨extended.holds counts.held, kept.trans counts.read_eq⟩

theorem Counts.rewrites (counts : store.Counts counter number)
    (written : Rewrites targets store after) (outside : counter ∉ targets) :
    after.Counts counter number :=
  counts.of_read_eq written.extends (written.read_eq outside)

/-- What is added to a counter is added to its number. -/
theorem Counts.yields_assignAdd (counts : store.Counts counter number) (addend : Nat) :
    (assignAdd counter (.ofNat addend)).Yields store fun _ after =>
      after.Counts counter (number + addend) ∧ Rewrites [counter] store after := by
  have added : assignAdd counter (.ofNat addend) store =
      (.ok (), store.put counter (.ofNat (number + addend))) := by
    rw [assignAdd, update_apply, counts.read_eq, Tensor.add_ofNat]
    rfl
  refine ⟨(), _, added, ⟨holds_put.mpr counts.held, read_put_self counts.held⟩, ?_⟩
  exact .put .refl (by simp) counts.hasType.type_eq.symm

theorem counts_reset (typed : store.HasType counter (.ofSizes .int64 [])) :
    (store.reset counter).Counts counter 0 := by
  have sameType : (store.read counter).type = (Tensor.ofNat 0).type := typed.type_eq
  obtain ⟨sameElements, sameSizes⟩ := Tensor.type_eq_iff.mp sameType
  constructor
  · exact holds_put.mpr typed.held
  · rw [Store.reset, sameElements, sameSizes]
    exact read_put_self typed.held

/-- A counter at zero stays there, whatever is reset. -/
theorem Counts.reset (counts : store.Counts counter 0) (target : Variable) :
    (store.reset target).Counts counter 0 := by
  by_cases same : counter = target
  · subst same
    exact counts_reset counts.hasType
  · exact counts.rewrites (rewrites_reset (List.mem_singleton_self target)) (by simpa using same)

theorem Counts.resetAll (counts : store.Counts counter 0) (handles : List Variable) :
    (store.resetAll handles).Counts counter 0 := by
  induction handles generalizing store with
  | nil => exact counts
  | cons handle rest induction => exact induction (counts.reset handle)

theorem rewrites_resetAll (handles : List Variable) :
    Rewrites handles store (store.resetAll handles) := by
  induction handles generalizing store with
  | nil => exact .refl
  | cons handle rest induction =>
      apply Rewrites.trans
      · exact rewrites_reset List.mem_cons_self
      · apply induction.mono
        intro target inside
        exact List.mem_cons_of_mem handle inside

/-- A counter among the variables that are reset counts zero afterwards. -/
theorem counts_resetAll {handles : List Variable} (inside : counter ∈ handles)
    (typed : store.HasType counter (.ofSizes .int64 [])) :
    (store.resetAll handles).Counts counter 0 := by
  induction handles generalizing store with
  | nil => cases inside
  | cons handle rest induction =>
      rcases List.mem_cons.mp inside with rfl | later
      · exact (counts_reset typed).resetAll rest
      · apply induction later
        exact typed.extends (rewrites_reset (List.mem_singleton_self handle)).extends

end Store

namespace Construction

variable {construction : Construction} {name : String} {counter : Variable} {number : Nat}

/-- A counter is created at zero. -/
theorem counts_zeros :
    (zeros name .int64 [] construction).2.store.Counts (zeros name .int64 [] construction).1 0 := by
  simp only [zeros, create, store_register]
  constructor
  · exact Store.hasType_create.held
  · simp [Store.read, Store.cell, Store.create, Tensor.zeros, Tensor.ofNat, DenseArray.fill,
      DenseArray.scalar]

theorem counts_zeros_of_counts {elementType : ElementType} {sizes : List Nat}
    (counts : construction.store.Counts counter number) :
    (zeros name elementType sizes construction).2.store.Counts counter number := by
  simp only [zeros, create, store_register]
  apply counts.of_read_eq Store.extends_create
  exact congrArg Cell.contents (Store.cell_create_of_holds counts.held)

end Construction

end FederatedLearning
