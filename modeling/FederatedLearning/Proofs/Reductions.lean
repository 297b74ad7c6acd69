import FederatedLearning.Aggregation.Evaluate
import FederatedLearning.Proofs.FallibleTraversal
import FederatedLearning.Proofs.ValueArithmetic

/-!
# When values can be reduced

Values of one type always have a sum.  A mean of them, weighted or not, exists
exactly when all their tensors hold floating point numbers, since it scales
them.  A reduction yields a value of the type of the parts that it reduces.
-/

namespace FederatedLearning

section

variable {first total : Value}

theorem exists_sumOnto_iff {rest : List Value} :
    (∃ total, sumOnto first rest = .ok total) ↔ ∀ value ∈ rest, value.typeOf = first.typeOf := by
  induction rest generalizing first with
  | nil => simp [sumOnto]
  | cons value rest induction =>
      simp only [sumOnto, exceptBind_eq_ok_iff, List.forall_mem_cons]
      constructor
      · intro sums
        obtain ⟨total, sum, added, summed⟩ := sums
        have sumType := Value.typeOf_of_add_eq_ok added
        have sameType := (Value.add_eq_ok_iff.mp added).1
        exact ⟨sameType.symm, sumType ▸ induction.mp ⟨total, summed⟩⟩
      · intro sameTypes
        obtain ⟨sameType, restTyped⟩ := sameTypes
        have added : first.add value = .ok (first.addTo value).after :=
          Value.add_eq_ok_iff.mpr ⟨sameType.symm, rfl⟩
        obtain ⟨total, summed⟩ := induction.mpr (Value.typeOf_of_add_eq_ok added ▸ restTyped)
        exact ⟨total, _, added, summed⟩

theorem typeOf_of_sumOnto_eq_ok {rest : List Value} (summed : sumOnto first rest = .ok total) :
    total.typeOf = first.typeOf := by
  induction rest generalizing first with
  | nil =>
      cases summed
      rfl
  | cons value rest induction =>
      obtain ⟨sum, added, summedRest⟩ := exceptBind_eq_ok_iff.mp summed
      exact (induction summedRest).trans (Value.typeOf_of_add_eq_ok added)

theorem exists_weightedSumOnto_iff {rest : List (Value × Float)} :
    (∃ total, weightedSumOnto first rest = .ok total) ↔
      ∀ pair ∈ rest, pair.1.typeOf = first.typeOf ∧ pair.1.typeOf.IsFloating := by
  induction rest generalizing first with
  | nil => simp [weightedSumOnto]
  | cons pair rest induction =>
      obtain ⟨value, weight⟩ := pair
      simp only [weightedSumOnto, exceptBind_eq_ok_iff, List.forall_mem_cons]
      constructor
      · intro sums
        obtain ⟨total, scaled, done, sum, added, summed⟩ := sums
        have scaledType := Value.typeOf_of_scale_eq_ok done
        have sumType := Value.typeOf_of_add_eq_ok added
        have sameType := (Value.add_eq_ok_iff.mp added).1
        have floating := (Value.scale_eq_ok_iff.mp done).1
        exact ⟨⟨scaledType.symm.trans sameType.symm, floating⟩,
          sumType ▸ induction.mp ⟨total, summed⟩⟩
      · intro fitting
        obtain ⟨⟨sameType, floating⟩, restTyped⟩ := fitting
        have done : value.scale weight = .ok (value.scaleBy weight).after :=
          Value.scale_eq_ok_iff.mpr ⟨floating, rfl⟩
        have scaledType := Value.typeOf_of_scale_eq_ok done
        have added := Value.add_eq_ok_iff.mpr ⟨sameType.symm.trans scaledType.symm, rfl⟩
        obtain ⟨total, summed⟩ := induction.mpr (Value.typeOf_of_add_eq_ok added ▸ restTyped)
        exact ⟨total, _, done, _, added, summed⟩

theorem typeOf_of_weightedSumOnto_eq_ok {rest : List (Value × Float)}
    (summed : weightedSumOnto first rest = .ok total) : total.typeOf = first.typeOf := by
  induction rest generalizing first with
  | nil =>
      cases summed
      rfl
  | cons pair rest induction =>
      obtain ⟨scaled, _, summedScaled⟩ := exceptBind_eq_ok_iff.mp summed
      obtain ⟨sum, added, summedRest⟩ := exceptBind_eq_ok_iff.mp summedScaled
      exact (induction summedRest).trans (Value.typeOf_of_add_eq_ok added)

end

section

variable {parts : List Value} {pairs : List (Value × Float)} {type : ValueType} {total : Value}

theorem exists_sumOf (present : parts ≠ []) (typed : ∀ part ∈ parts, part.typeOf = type) :
    ∃ total, sumOf parts = .ok total := by
  cases parts with
  | nil => exact absurd rfl present
  | cons first rest =>
      obtain ⟨firstType, restTypes⟩ := List.forall_mem_cons.mp typed
      obtain ⟨total, summed⟩ := exists_sumOnto_iff.mpr (firstType ▸ restTypes)
      exact ⟨total, ofTensor_eq_ok_iff.mpr summed⟩

theorem typeOf_of_sumOf_eq_ok (typed : ∀ part ∈ parts, part.typeOf = type)
    (summed : sumOf parts = .ok total) : total.typeOf = type := by
  cases parts with
  | nil => cases summed
  | cons first rest =>
      have sameType := typeOf_of_sumOnto_eq_ok (ofTensor_eq_ok_iff.mp summed)
      exact sameType.trans (typed first (by simp))

theorem exists_weightedSumOf_iff (present : pairs ≠ [])
    (typed : ∀ pair ∈ pairs, pair.1.typeOf = type) :
    (∃ total, weightedSumOf pairs = .ok total) ↔ type.IsFloating := by
  cases pairs with
  | nil => exact absurd rfl present
  | cons pair rest =>
      obtain ⟨first, weight⟩ := pair
      obtain ⟨firstType, restTypes⟩ := List.forall_mem_cons.mp typed
      simp only [weightedSumOf, ofTensor_eq_ok_iff, exceptBind_eq_ok_iff]
      constructor
      · intro sums
        obtain ⟨total, scaled, done, _⟩ := sums
        exact firstType ▸ (Value.scale_eq_ok_iff.mp done).1
      · intro floating
        have done : first.scale weight = .ok (first.scaleBy weight).after :=
          Value.scale_eq_ok_iff.mpr ⟨firstType ▸ floating, rfl⟩
        have scaledType := (Value.typeOf_of_scale_eq_ok done).trans firstType
        obtain ⟨total, summed⟩ := exists_weightedSumOnto_iff.mpr fun pair member =>
          ⟨(restTypes pair member).trans scaledType.symm, restTypes pair member ▸ floating⟩
        exact ⟨total, _, done, summed⟩

theorem typeOf_of_weightedSumOf_eq_ok (typed : ∀ pair ∈ pairs, pair.1.typeOf = type)
    (summed : weightedSumOf pairs = .ok total) : total.typeOf = type := by
  cases pairs with
  | nil => cases summed
  | cons pair rest =>
      obtain ⟨scaled, done, summedScaled⟩ :=
        exceptBind_eq_ok_iff.mp (ofTensor_eq_ok_iff.mp summed)
      calc
        total.typeOf = scaled.typeOf := typeOf_of_weightedSumOnto_eq_ok summedScaled
        _ = pair.1.typeOf := Value.typeOf_of_scale_eq_ok done
        _ = type := typed pair (by simp)

end

theorem weightOf_eq (name : String) (participant : Value) :
    weightOf name participant =
      (LearningError.ofTensor (participant.field name) >>= fun part =>
        LearningError.ofTensor (part.asTensor "weight") >>= fun tensor =>
          match tensor.scalar? with
          | some weight => .ok weight
          | none => .error (.countMismatch "weight" tensor.size 1)) := rfl

/-- A single number under a name at the top of the outputs is a weight. -/
theorem exists_weightOf {outputs : ValueType} {participant : Value} {name : String}
    {weight : TensorType} (typed : participant.typeOf = outputs)
    (found : outputs.field? name = some (.tensor weight))
    (single : weight.shape.elementCount? = some 1) :
    ∃ number, weightOf name participant = .ok number := by
  rw [← typed, Value.field?_typeOf_eq_some_iff] at found
  obtain ⟨part, read, partType⟩ := found
  cases part with
  | record members => simp [Value.typeOf] at partType
  | tensor leaf =>
      obtain ⟨number, scalar⟩ := Value.exists_scalar?_of_typeOf_eq partType single
      refine ⟨number, ?_⟩
      rw [weightOf_eq, read]
      simp [bind, Except.bind, LearningError.ofTensor, Except.mapError, Value.asTensor, scalar]

namespace Reduction

variable {reduction : Reduction} {parts participants : List Value} {type : ValueType}
  {result : Value}

theorem reduce_mean :
    Reduction.mean.reduce parts participants =
      (sumOf parts >>= fun total =>
        LearningError.ofTensor (total.scale (1 / Float.ofNat parts.length))) := rfl

theorem reduce_weightedMean {name : String} :
    (Reduction.weightedMean name).reduce parts participants =
      (participants.mapM (weightOf name) >>= fun weights =>
        weightedSumOf (parts.zip weights) >>= fun total =>
          LearningError.ofTensor (total.scale (inverseOrZero (weights.foldl (· + ·) 0)))) := rfl

theorem typeOf_of_reduce_eq_ok (typed : ∀ part ∈ parts, part.typeOf = type)
    (reduced : reduction.reduce parts participants = .ok result) : result.typeOf = type := by
  cases reduction with
  | sum => exact typeOf_of_sumOf_eq_ok typed reduced
  | mean =>
      rw [reduce_mean] at reduced
      obtain ⟨total, summed, scaled⟩ := exceptBind_eq_ok_iff.mp reduced
      have kept := Value.typeOf_of_scale_eq_ok (ofTensor_eq_ok_iff.mp scaled)
      exact kept.trans (typeOf_of_sumOf_eq_ok typed summed)
  | weightedMean name =>
      rw [reduce_weightedMean] at reduced
      obtain ⟨weights, _, reducedWeighted⟩ := exceptBind_eq_ok_iff.mp reduced
      obtain ⟨total, summed, scaled⟩ := exceptBind_eq_ok_iff.mp reducedWeighted
      have pairsTyped : ∀ pair ∈ parts.zip weights, pair.1.typeOf = type :=
        fun pair member => typed pair.1 (List.of_mem_zip member).1
      have kept := Value.typeOf_of_scale_eq_ok (ofTensor_eq_ok_iff.mp scaled)
      exact kept.trans (typeOf_of_weightedSumOf_eq_ok pairsTyped summed)

/-- A sum always exists, a mean exactly when it is one of floating point numbers. -/
theorem exists_reduce_iff (present : parts ≠ []) (typed : ∀ part ∈ parts, part.typeOf = type)
    (sameCount : parts.length = participants.length)
    (weighed : ∀ name, reduction = .weightedMean name →
      ∀ participant ∈ participants, ∃ number, weightOf name participant = .ok number) :
    (∃ result, reduction.reduce parts participants = .ok result) ↔
      (reduction ≠ .sum → type.IsFloating) := by
  cases reduction with
  | sum => exact iff_of_true (exists_sumOf present typed) fun notSum => absurd rfl notSum
  | mean =>
      simp only [reduce_mean, exists_exceptBind_eq_ok_iff, ofTensor_eq_ok_iff,
        Value.exists_scale_iff]
      constructor
      · intro means _
        obtain ⟨total, summed, floating⟩ := means
        exact typeOf_of_sumOf_eq_ok typed summed ▸ floating
      · intro floating
        obtain ⟨total, summed⟩ := exists_sumOf present typed
        have totalType := typeOf_of_sumOf_eq_ok typed summed
        exact ⟨total, summed, totalType ▸ floating (by simp)⟩
  | weightedMean name =>
      obtain ⟨weights, walked⟩ := exists_mapM_eq_ok_iff.mpr (weighed name rfl)
      have weightCount := (mapM_eq_ok_iff.mp walked).length_eq
      have pairsPresent : parts.zip weights ≠ [] := by
        rw [← List.length_pos_iff, List.length_zip, ← weightCount, ← sameCount, Nat.min_self]
        exact List.length_pos_iff.mpr present
      have pairsTyped : ∀ pair ∈ parts.zip weights, pair.1.typeOf = type :=
        fun pair member => typed pair.1 (List.of_mem_zip member).1
      have totalIff := exists_weightedSumOf_iff pairsPresent pairsTyped
      simp only [reduce_weightedMean, walked, exists_exceptBind_eq_ok_iff, ofTensor_eq_ok_iff,
        Value.exists_scale_iff, Except.ok.injEq]
      constructor
      · intro means _
        obtain ⟨_, rfl, total, summed, _⟩ := means
        exact totalIff.mp ⟨total, summed⟩
      · intro floating
        obtain ⟨total, summed⟩ := totalIff.mpr (floating (by simp))
        have totalType := typeOf_of_weightedSumOf_eq_ok pairsTyped summed
        exact ⟨weights, rfl, total, summed, totalType ▸ floating (by simp)⟩

end Reduction

end FederatedLearning
