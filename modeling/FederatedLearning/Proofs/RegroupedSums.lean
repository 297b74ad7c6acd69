import FederatedLearning.Proofs.Reductions
import FederatedLearning.Proofs.WholeNumbers

/-!
# Sums regrouped and reordered

Values have a sum exactly when they are of one type.  They can be summed in another
order, or in two groups first, with the same outcome up to floating point tensors.
-/

namespace FederatedLearning

open Value (SameWholes)

variable {first second total : Value} {parts others rest later : List Value}

theorem typeOf_foldl_plus (first : Value) (rest : List Value) :
    (rest.foldl Value.plus first).typeOf = first.typeOf := by
  induction rest generalizing first with
  | nil => rfl
  | cons value rest induction => rw [List.foldl_cons, induction, Value.typeOf_plus]

theorem sumOnto_eq_ok_iff :
    sumOnto first rest = .ok total ↔
      (∀ value ∈ rest, value.typeOf = first.typeOf) ∧ rest.foldl Value.plus first = total := by
  induction rest generalizing first with
  | nil => simp [sumOnto]
  | cons value rest induction =>
      simp only [sumOnto, exceptBind_eq_ok_iff, Value.add_eq_ok_iff_plus, List.forall_mem_cons,
        List.foldl_cons]
      constructor
      · intro summed
        obtain ⟨_, ⟨same, rfl⟩, summedRest⟩ := summed
        obtain ⟨typed, sums⟩ := induction.mp summedRest
        rw [Value.typeOf_plus] at typed
        exact ⟨⟨same.symm, typed⟩, sums⟩
      · intro sums
        obtain ⟨⟨same, typed⟩, sums⟩ := sums
        refine ⟨_, ⟨same.symm, rfl⟩, induction.mpr ⟨?_, sums⟩⟩
        rwa [Value.typeOf_plus]

theorem sumOf_cons_eq_ok_iff :
    sumOf (first :: rest) = .ok total ↔
      (∀ value ∈ rest, value.typeOf = first.typeOf) ∧ rest.foldl Value.plus first = total :=
  ofTensor_eq_ok_iff.trans sumOnto_eq_ok_iff

theorem typeOf_of_mem_of_sumOf_eq_ok (summed : sumOf parts = .ok total) :
    ∀ part ∈ parts, part.typeOf = total.typeOf := by
  cases parts with
  | nil => cases summed
  | cons first rest =>
      obtain ⟨typed, rfl⟩ := sumOf_cons_eq_ok_iff.mp summed
      rw [typeOf_foldl_plus, List.forall_mem_cons]
      exact ⟨rfl, typed⟩

theorem foldl_plus_congr (same : SameWholes first second)
    (typed : ∀ value ∈ rest, value.typeOf = first.typeOf) :
    SameWholes (rest.foldl Value.plus first) (rest.foldl Value.plus second) := by
  induction rest generalizing first second with
  | nil => exact same
  | cons value rest induction =>
      obtain ⟨valueType, restTypes⟩ := List.forall_mem_cons.mp typed
      apply induction
      · exact same.plus_congr (.refl value) valueType.symm
      · simpa using restTypes

/-- The first summand can be added at the end instead. -/
theorem foldl_plus_assoc (same : first.typeOf = second.typeOf)
    (typed : ∀ value ∈ rest, value.typeOf = second.typeOf) :
    SameWholes (rest.foldl Value.plus (first.plus second))
      (first.plus (rest.foldl Value.plus second)) := by
  induction rest generalizing second with
  | nil => exact .refl _
  | cons value rest induction =>
      obtain ⟨valueType, restTypes⟩ := List.forall_mem_cons.mp typed
      have regrouped : SameWholes (rest.foldl Value.plus ((first.plus second).plus value))
          (rest.foldl Value.plus (first.plus (second.plus value))) := by
        apply foldl_plus_congr (.plus_assoc same valueType.symm)
        simpa [same] using restTypes
      apply regrouped.trans
      apply induction
      · simpa using same
      · simpa using restTypes

/-- Two groups of values of one type can be summed apart, and then their sums. -/
theorem exists_sums_of_groups (presentParts : parts ≠ []) (presentOthers : others ≠ [])
    (summed : sumOf (parts ++ others) = .ok total) :
    ∃ front back, sumOf parts = .ok front ∧ sumOf others = .ok back ∧
      front.typeOf = back.typeOf ∧ SameWholes total (front.plus back) := by
  obtain ⟨first, rest, rfl⟩ := List.exists_cons_of_ne_nil presentParts
  obtain ⟨next, later, rfl⟩ := List.exists_cons_of_ne_nil presentOthers
  rw [List.cons_append] at summed
  obtain ⟨typed, rfl⟩ := sumOf_cons_eq_ok_iff.mp summed
  obtain ⟨restTypes, othersTypes⟩ := List.forall_mem_append.mp typed
  obtain ⟨nextType, laterTypes⟩ := List.forall_mem_cons.mp othersTypes
  have laterSame : ∀ value ∈ later, value.typeOf = next.typeOf := by
    rwa [nextType]
  have frontType := typeOf_foldl_plus first rest
  refine ⟨_, _, sumOf_cons_eq_ok_iff.mpr ⟨restTypes, rfl⟩,
    sumOf_cons_eq_ok_iff.mpr ⟨laterSame, rfl⟩, ?_, ?_⟩
  · rw [frontType, typeOf_foldl_plus, nextType]
  · rw [List.foldl_append, List.foldl_cons]
    exact foldl_plus_assoc (frontType.trans nextType.symm) laterSame

theorem sumOf_pair_eq_ok_iff :
    sumOf [first, second] = .ok total ↔
      second.typeOf = first.typeOf ∧ first.plus second = total := by
  simp [sumOf_cons_eq_ok_iff]

/-- Groups of whole numbers can be summed apart. -/
theorem sumOf_append_eq_ok_iff (presentParts : parts ≠ []) (presentOthers : others ≠ [])
    (whole : ∀ part ∈ parts ++ others, part.IsWhole) :
    sumOf (parts ++ others) = .ok total ↔
      ∃ front back, sumOf parts = .ok front ∧ sumOf others = .ok back ∧
        sumOf [front, back] = .ok total := by
  have regrouped : ∀ {sum}, sumOf (parts ++ others) = .ok sum →
      ∃ front back, sumOf parts = .ok front ∧ sumOf others = .ok back ∧
        sumOf [front, back] = .ok sum := by
    intro sum summed
    obtain ⟨front, back, summedParts, summedOthers, sameType, same⟩ :=
      exists_sums_of_groups presentParts presentOthers summed
    obtain ⟨first, inside⟩ := List.exists_mem_of_ne_nil parts presentParts
    have listed : first ∈ parts ++ others := List.mem_append_left others inside
    have sumType := (typeOf_of_mem_of_sumOf_eq_ok summed first listed).symm
    cases same.eq_of_isWhole ((whole first listed).of_typeOf_eq sumType)
    exact ⟨front, back, summedParts, summedOthers, sumOf_pair_eq_ok_iff.mpr ⟨sameType.symm, rfl⟩⟩
  constructor
  · exact regrouped
  · intro summedApart
    obtain ⟨front, back, summedParts, summedOthers, summedBoth⟩ := summedApart
    have sameType := (sumOf_pair_eq_ok_iff.mp summedBoth).1
    have typed : ∀ part ∈ parts ++ others, part.typeOf = front.typeOf := by
      intro part inside
      rcases List.mem_append.mp inside with inParts | inOthers
      · exact typeOf_of_mem_of_sumOf_eq_ok summedParts part inParts
      · exact (typeOf_of_mem_of_sumOf_eq_ok summedOthers part inOthers).trans sameType
    obtain ⟨sum, summed⟩ := exists_sumOf (by simp [presentParts]) typed
    obtain ⟨_, _, alsoParts, alsoOthers, alsoBoth⟩ := regrouped summed
    rw [summedParts] at alsoParts
    rw [summedOthers] at alsoOthers
    cases alsoParts
    cases alsoOthers
    rw [summedBoth] at alsoBoth
    cases alsoBoth
    exact summed

theorem foldl_plus_perm (reordered : rest.Perm later)
    (typed : ∀ value ∈ rest, value.typeOf = first.typeOf) :
    SameWholes (rest.foldl Value.plus first) (later.foldl Value.plus first) := by
  induction reordered generalizing first with
  | nil => exact .refl first
  | cons value _ induction =>
      obtain ⟨_, restTypes⟩ := List.forall_mem_cons.mp typed
      apply induction
      simpa using restTypes
  | swap third second rest =>
      simp only [List.forall_mem_cons] at typed
      obtain ⟨secondType, thirdType, restTypes⟩ := typed
      simp only [List.foldl_cons]
      apply foldl_plus_congr
      · exact .plus_right_comm secondType.symm (secondType.trans thirdType.symm)
      · simpa using restTypes
  | trans front _ induction inductionLater =>
      apply (induction typed).trans
      apply inductionLater
      intro value inside
      exact typed value (front.mem_iff.mpr inside)

/-- The order of the summands matters to floating point tensors only. -/
theorem exists_sumOf_of_perm (reordered : parts.Perm others) (summed : sumOf parts = .ok total) :
    ∃ other, sumOf others = .ok other ∧ SameWholes total other := by
  induction reordered generalizing total with
  | nil => cases summed
  | cons first reordered _ =>
      obtain ⟨typed, rfl⟩ := sumOf_cons_eq_ok_iff.mp summed
      refine ⟨_, sumOf_cons_eq_ok_iff.mpr ⟨?_, rfl⟩, foldl_plus_perm reordered typed⟩
      intro value inside
      exact typed value (reordered.mem_iff.mpr inside)
  | swap second first rest =>
      obtain ⟨typed, rfl⟩ := sumOf_cons_eq_ok_iff.mp summed
      obtain ⟨same, restTypes⟩ := List.forall_mem_cons.mp typed
      refine ⟨_, sumOf_cons_eq_ok_iff.mpr ⟨?_, rfl⟩, ?_⟩
      · rw [List.forall_mem_cons, same]
        exact ⟨rfl, restTypes⟩
      · apply foldl_plus_congr (.plus_comm same.symm)
        simpa [same] using restTypes
  | trans _ _ front back =>
      obtain ⟨middle, summedMiddle, sameMiddle⟩ := front summed
      obtain ⟨other, summedOther, sameOther⟩ := back summedMiddle
      exact ⟨other, summedOther, sameMiddle.trans sameOther⟩

end FederatedLearning
