import FederatedLearning.Proofs.AggregationSignature
import FederatedLearning.Proofs.RegroupedSums

/-!
# The order of the participants

An evaluation adds the parts onto the first one, so that the first participant seems to
play a part of its own.  It does not: a reduction yields a value exactly when all parts are
of one type, fit to be averaged if they are to be, and all participants report their
weights, none of which depends on an order.  The values that two orders yield differ in
floating point tensors at most.
-/

namespace FederatedLearning

open Value (SameWholes)

namespace Value.SameWholes

variable {left right : Value} {entries others : List (String × Value)}

theorem named (same : List.Forall₂
      (fun left right => left.1 = right.1 ∧ SameWholes left.2 right.2) entries others) :
    SameWholes (Value.named entries) (Value.named others) where
  typeOf_eq := by
    rw [typeOf_named, typeOf_named]
    congr 2
    induction same with
    | nil => rfl
    | cons here _ induction =>
        rw [List.map_cons, List.map_cons, here.1, here.2.typeOf_eq, induction]
  wholes position tensor found whole := by
    simp only [Value.named, leaves, Record.named, leavesElements_eq_flatMap,
      List.flatMap_map] at found ⊢
    induction same generalizing position with
    | nil => simp at found
    | @cons entry other entries others here _ induction =>
        simp only [List.flatMap_cons] at found ⊢
        have sameLength := length_leaves_eq here.2.typeOf_eq
        by_cases inside : position < entry.2.leaves.length
        · rw [List.getElem?_append_left inside] at found
          rw [List.getElem?_append_left (sameLength ▸ inside)]
          exact here.2.wholes position tensor found whole
        · have beyond := Nat.le_of_not_lt inside
          rw [List.getElem?_append_right beyond] at found
          rw [List.getElem?_append_right (sameLength ▸ beyond), ← sameLength]
          exact induction _ found

end Value.SameWholes

theorem typeOf_of_mem_of_weightedSumOf_eq_ok {pairs : List (Value × Float)} {total : Value}
    (summed : weightedSumOf pairs = .ok total) :
    ∀ pair ∈ pairs, pair.1.typeOf = total.typeOf := by
  cases pairs with
  | nil => cases summed
  | cons pair rest =>
      obtain ⟨scaled, done, summedScaled⟩ :=
        exceptBind_eq_ok_iff.mp (ofTensor_eq_ok_iff.mp summed)
      have scaledType := Value.typeOf_of_scale_eq_ok done
      have restTypes := exists_weightedSumOnto_iff.mp ⟨total, summedScaled⟩
      rw [typeOf_of_weightedSumOnto_eq_ok summedScaled, List.forall_mem_cons]
      exact ⟨scaledType.symm, fun pair member => (restTypes pair member).1⟩

namespace Reduction

variable {reduction : Reduction} {parts participants otherParts others : List Value}
  {result : Value}

theorem ne_nil_of_reduce_eq_ok (reduced : reduction.reduce parts participants = .ok result) :
    parts ≠ [] := by
  intro absent
  subst absent
  cases reduction with
  | sum => cases reduced
  | mean => cases reduced
  | weightedMean name =>
      rw [reduce_weightedMean] at reduced
      obtain ⟨_, _, reducedWeighted⟩ := exceptBind_eq_ok_iff.mp reduced
      obtain ⟨_, summed, _⟩ := exceptBind_eq_ok_iff.mp reducedWeighted
      cases summed

theorem exists_weightOf_of_reduce_eq_ok
    (reduced : reduction.reduce parts participants = .ok result) :
    ∀ name, reduction = .weightedMean name →
      ∀ participant ∈ participants, ∃ number, weightOf name participant = .ok number := by
  intro name same
  subst same
  rw [reduce_weightedMean] at reduced
  obtain ⟨weights, walked, _⟩ := exceptBind_eq_ok_iff.mp reduced
  exact exists_mapM_eq_ok_iff.mp ⟨weights, walked⟩

/-- All parts are of the type of what they are reduced to. -/
theorem typeOf_of_mem_of_reduce_eq_ok (sameCount : parts.length = participants.length)
    (reduced : reduction.reduce parts participants = .ok result) :
    ∀ part ∈ parts, part.typeOf = result.typeOf := by
  cases reduction with
  | sum => exact typeOf_of_mem_of_sumOf_eq_ok reduced
  | mean =>
      rw [reduce_mean] at reduced
      obtain ⟨total, summed, scaled⟩ := exceptBind_eq_ok_iff.mp reduced
      rw [Value.typeOf_of_scale_eq_ok (ofTensor_eq_ok_iff.mp scaled)]
      exact typeOf_of_mem_of_sumOf_eq_ok summed
  | weightedMean name =>
      rw [reduce_weightedMean] at reduced
      obtain ⟨weights, walked, reducedWeighted⟩ := exceptBind_eq_ok_iff.mp reduced
      obtain ⟨total, summed, scaled⟩ := exceptBind_eq_ok_iff.mp reducedWeighted
      rw [Value.typeOf_of_scale_eq_ok (ofTensor_eq_ok_iff.mp scaled)]
      have weightCount := (mapM_eq_ok_iff.mp walked).length_eq
      intro part inside
      rw [← List.map_fst_zip (Nat.le_of_eq (sameCount.trans weightCount))] at inside
      obtain ⟨pair, listed, rfl⟩ := List.mem_map.mp inside
      exact typeOf_of_mem_of_weightedSumOf_eq_ok summed pair listed

theorem exists_reduce_of_perm (sameCount : parts.length = participants.length)
    (partsReordered : parts.Perm otherParts) (reordered : participants.Perm others)
    (reduced : reduction.reduce parts participants = .ok result) :
    ∃ other, reduction.reduce otherParts others = .ok other ∧ SameWholes result other := by
  have present := ne_nil_of_reduce_eq_ok reduced
  have typed := typeOf_of_mem_of_reduce_eq_ok sameCount reduced
  have weighed := exists_weightOf_of_reduce_eq_ok reduced
  -- a reordering keeps all that a result takes
  have otherPresent : otherParts ≠ [] := by
    intro absent
    subst absent
    exact present partsReordered.eq_nil
  have otherTyped : ∀ part ∈ otherParts, part.typeOf = result.typeOf := by
    intro part inside
    exact typed part (partsReordered.mem_iff.mpr inside)
  have otherWeighed : ∀ name, reduction = .weightedMean name →
      ∀ participant ∈ others, ∃ number, weightOf name participant = .ok number := by
    intro name same participant inside
    exact weighed name same participant (reordered.mem_iff.mpr inside)
  have otherCount : otherParts.length = others.length := by
    rw [← partsReordered.length_eq, sameCount, reordered.length_eq]
  have floating := (exists_reduce_iff present typed sameCount weighed).mp ⟨result, reduced⟩
  by_cases isSum : reduction = .sum
  · subst isSum
    exact exists_sumOf_of_perm partsReordered reduced
  · obtain ⟨other, otherReduced⟩ :=
      (exists_reduce_iff otherPresent otherTyped otherCount otherWeighed).mpr floating
    have otherType := typeOf_of_reduce_eq_ok otherTyped otherReduced
    exact ⟨other, otherReduced, .of_isFloating otherType.symm (floating isSum)⟩

end Reduction

theorem Plan.exists_aggregate_of_perm {plan : Plan}
    {parts participants otherParts others : List Value} {result : Value}
    (sameCount : parts.length = participants.length)
    (partsReordered : parts.Perm otherParts) (reordered : participants.Perm others)
    (aggregated : plan.aggregate parts participants = .ok result) :
    ∃ other, plan.aggregate otherParts others = .ok other ∧ SameWholes result other := by
  induction plan using Plan.induct generalizing parts otherParts result with
  | leafCase reduction =>
      exact Reduction.exists_reduce_of_perm sameCount partsReordered reordered aggregated
  | recordCase fields induction =>
      obtain ⟨results, walked, rfl⟩ := aggregate_record_eq_ok_iff.mp aggregated
      have fieldKept : ∀ field ∈ fields.elements, ∀ result,
          aggregateField parts participants field = .ok result →
          ∃ other, aggregateField otherParts others field = .ok other ∧
            result.1 = other.1 ∧ SameWholes result.2 other.2 := by
        intro field inside result yielded
        obtain ⟨named, children, read, childrenAggregated⟩ := aggregateField_eq_ok_iff.mp yielded
        obtain ⟨otherChildren, otherRead, childrenReordered⟩ :=
          exists_mapM_of_perm partsReordered read
        have childCount := (mapM_eq_ok_iff.mp read).length_eq
        obtain ⟨other, otherAggregated, same⟩ := induction field inside
          (childCount.symm.trans sameCount) childrenReordered childrenAggregated
        refine ⟨(Record.listedName field.1, other), ?_, named, same⟩
        exact aggregateField_eq_ok_iff.mpr ⟨rfl, otherChildren, otherRead, otherAggregated⟩
      obtain ⟨otherResults, otherWalked, same⟩ := exists_mapM_of_steps fieldKept walked
      exact ⟨_, aggregate_record_eq_ok_iff.mpr ⟨otherResults, otherWalked, rfl⟩, .named same⟩

namespace Computation

theorem ne_nil_of_aggregate_eq_ok {computation : Computation} {participants : List Value}
    {result : Value} (aggregated : computation.aggregate participants = .ok result) :
    participants ≠ [] := by
  intro absent
  subst absent
  cases aggregated

theorem exists_aggregate_of_perm {computation : Computation} {participants others : List Value}
    {result : Value} (reordered : participants.Perm others)
    (aggregated : computation.aggregate participants = .ok result) :
    ∃ other, computation.aggregate others = .ok other ∧ SameWholes result other := by
  have present := ne_nil_of_aggregate_eq_ok aggregated
  have otherPresent : others ≠ [] := by
    intro absent
    subst absent
    exact present reordered.eq_nil
  rw [aggregate_eq_of_ne_nil present] at aggregated
  rw [aggregate_eq_of_ne_nil otherPresent]
  exact Plan.exists_aggregate_of_perm rfl reordered reordered aggregated

/-- The participants can report in any order.  Whole numbers are never averaged, so that
the whole number tensors of a result are the ones below its sums. -/
theorem aggregate_independent_of_order (computation : Computation)
    (participants others : List Value) (reordered : participants.Perm others) :
    ((∃ result, computation.aggregate participants = .ok result) ↔
        ∃ other, computation.aggregate others = .ok other) ∧
      ∀ result other, computation.aggregate participants = .ok result →
        computation.aggregate others = .ok other →
        result.typeOf = other.typeOf ∧
          ∀ (position : Nat) (tensor : Tensor), result.leaves[position]? = some tensor →
            tensor.IsWhole → other.leaves[position]? = some tensor := by
  refine ⟨⟨?_, ?_⟩, ?_⟩
  · intro aggregates
    obtain ⟨result, aggregated⟩ := aggregates
    obtain ⟨other, otherAggregated, _⟩ := exists_aggregate_of_perm reordered aggregated
    exact ⟨other, otherAggregated⟩
  · intro aggregates
    obtain ⟨other, aggregated⟩ := aggregates
    obtain ⟨result, resultAggregated, _⟩ := exists_aggregate_of_perm reordered.symm aggregated
    exact ⟨result, resultAggregated⟩
  · intro result other aggregated otherAggregated
    obtain ⟨_, alsoAggregated, same⟩ := exists_aggregate_of_perm reordered aggregated
    rw [otherAggregated] at alsoAggregated
    cases alsoAggregated
    exact ⟨same.typeOf_eq, same.wholes⟩

theorem weightedScore_independent_of_order :
    [report 1 0.5, report 3 0.25].Perm [report 3 0.25, report 1 0.5] ∧
      ∃ result other, weightedScore.aggregate [report 1 0.5, report 3 0.25] = .ok result ∧
        weightedScore.aggregate [report 3 0.25, report 1 0.5] = .ok other ∧
        result.typeOf = other.typeOf ∧
        result.leaves[0]? = some (.int64 (.scalar 4)) ∧
        other.leaves[0]? = some (.int64 (.scalar 4)) := by
  have reordered : [report 1 0.5, report 3 0.25].Perm [report 3 0.25, report 1 0.5] :=
    .swap _ _ []
  obtain ⟨_, same⟩ := aggregate_independent_of_order weightedScore _ _ reordered
  obtain ⟨sameType, wholes⟩ := same _ _ rfl rfl
  exact ⟨reordered, _, _, rfl, rfl, sameType, rfl, wholes 0 _ rfl rfl⟩

end Computation

end FederatedLearning
