import FederatedLearning.Proofs.Counters
import FederatedLearning.Proofs.FederatedAveraging
import FederatedLearning.Proofs.MetricSums
import Mathlib.Algebra.GroupWithZero.Nat

/-!
# Sums of counts

Values that stand for numbers may be added as their numbers are: a sum of such values
then stands for the sum of the numbers, be it taken from left to right or along a
tree.  A part that a computation sums, and a metric whose finalizer takes the number
out of its value, therefore tell the total of what all participants have counted.
-/

namespace FederatedLearning

/-- The values are added as the numbers that they stand for. -/
def Additive (value : Nat → Value) : Prop :=
  ∀ first second, (value first).add (value second) = .ok (value (first + second))

theorem additive_number : Additive fun number => .tensor (.ofNat number) := by
  intro first second
  simp [Value.add, Value.addTo, Tensor.add_ofNat, Value.Walk.ofStep, Value.Walk.result, Except.map]

/-- An unfinalized count: a tuple of a single number. -/
def countTuple (number : Nat) : Value :=
  .unnamed [.tensor (.ofNat number)]

theorem additive_countTuple : Additive countTuple := by
  intro first second
  simp [countTuple, Value.add, Value.unnamed, Record.unnamed, Value.addTo, Value.addToElements,
    Tensor.add_ofNat, Value.Walk.ofStep, Value.Walk.followedBy, Value.Walk.result, Except.map]

namespace Additive

variable {value : Nat → Value} {numbers : List Nat}

theorem sumOnto_eq (additive : Additive value) (first : Nat) :
    sumOnto (value first) (numbers.map value) = .ok (value (first + numbers.sum)) := by
  induction numbers generalizing first with
  | nil => simp [sumOnto]
  | cons number rest induction =>
      rw [List.map_cons, sumOnto, additive first number, List.sum_cons, ← Nat.add_assoc]
      exact induction (first + number)

theorem sumOf_eq (additive : Additive value) (present : numbers ≠ []) :
    sumOf (numbers.map value) = .ok (value numbers.sum) := by
  cases numbers with
  | nil => exact absurd rfl present
  | cons first rest =>
      rw [List.map_cons, sumOf, additive.sumOnto_eq, List.sum_cons]
      rfl

theorem sum_grouping_eq (additive : Additive value) {grouping : Grouping Value}
    (counted : grouping.items = numbers.map value) :
    grouping.sum = .ok (value numbers.sum) := by
  induction grouping generalizing numbers with
  | single item =>
      obtain ⟨number, rfl, rfl⟩ := List.map_eq_singleton_iff.mp counted.symm
      rw [Grouping.sum, List.sum_singleton]
  | join left right front back =>
      obtain ⟨numbers, numbers', rfl, inFront, inBack⟩ := List.map_eq_append_iff.mp counted.symm
      rw [Grouping.sum, front inFront.symm, back inBack.symm, List.sum_append]
      exact additive numbers.sum numbers'.sum

theorem sumParts_eq (additive : Additive value) (splitter : Splitter (Record Value))
    {part : Record Value → Value} {reports : List (Record Value)} (present : reports ≠ [])
    (counted : reports.map part = numbers.map value) :
    splitter.sumParts part reports = .ok (value numbers.sum) := by
  apply Splitter.sumParts_eq_ok_iff.mpr
  refine ⟨present, additive.sum_grouping_eq ?_⟩
  rw [Splitter.items_map_group, counted]

end Additive

namespace Computation

variable {reductions : List (String × Reduction)} {participants parts : List Value}
  {result : Value} {name : String}

/-- What a computation sums is found under its name in the result. -/
theorem field_of_summed (distinct : (reductions.map Prod.fst).Nodup)
    (summed : (name, .sum) ∈ reductions) (present : participants ≠ [])
    (read : participants.mapM (·.field name) = .ok parts)
    (aggregated : (ofReductions reductions).aggregate participants = .ok result) :
    ∃ total, sumOf parts = .ok total ∧ result.field name = .ok total := by
  rw [aggregate_eq_of_ne_nil present] at aggregated
  obtain ⟨results, walked, rfl⟩ := Plan.aggregate_record_eq_ok_iff.mp aggregated
  have fieldsDistinct : ((ofReductions reductions).plan.elements.map fun field =>
      Record.listedName field.1).Nodup := by
    simpa [ofReductions, Record.named, Record.listedName, Function.comp_def] using distinct
  have listed : (some name, .leaf .sum) ∈ (ofReductions reductions).plan.elements := by
    simpa [ofReductions, Record.named] using summed
  obtain ⟨part, yielded, found⟩ := Plan.field_of_walked fieldsDistinct walked listed
  obtain ⟨_, children, alsoRead, reduced⟩ := Plan.aggregateField_eq_ok_iff.mp yielded
  rw [Record.listedName, Option.getD_some, read] at alsoRead
  cases alsoRead
  exact ⟨part.2, reduced, found⟩

/-- Where all participants report a number under the name of a sum, the result holds
the sum of the numbers. -/
theorem field_of_counted {numbers : List Nat} (distinct : (reductions.map Prod.fst).Nodup)
    (summed : (name, .sum) ∈ reductions) (present : participants ≠ [])
    (read : participants.mapM (·.field name) =
      .ok (numbers.map fun number => .tensor (.ofNat number)))
    (aggregated : (ofReductions reductions).aggregate participants = .ok result) :
    result.field name = .ok (.tensor (.ofNat numbers.sum)) := by
  obtain ⟨total, sums, found⟩ := field_of_summed distinct summed present read aggregated
  have presentNumbers : numbers ≠ [] := by
    have some := ne_nil_of_mapM_eq_ok read present
    simpa using some
  rw [additive_number.sumOf_eq presentNumbers] at sums
  cases sums
  exact found

end Computation

end FederatedLearning
