import FederatedLearning.Metric.Report
import FederatedLearning.Proofs.RegroupedSums

/-!
# Sums along a tree

The reports of the participants are added two by two, along a tree that depends on
the machine.  Whether there is a sum depends on the types of the reports alone, and
the tree matters to floating point tensors only: the whole numbers of the sum are
those of the sum from left to right.
-/

namespace FederatedLearning

open Value (SameWholes)

namespace Grouping

variable {grouping left right : Grouping Value} {total : Value} {type : ValueType}

theorem sum_join_eq_ok_iff :
    (join left right).sum = .ok total ↔
      ∃ front back, left.sum = .ok front ∧ right.sum = .ok back ∧ front.typeOf = back.typeOf ∧
        front.plus back = total := by
  simp only [sum, exceptBind_eq_ok_iff, Value.add_eq_ok_iff_plus]
  constructor
  · rintro ⟨front, summedFront, back, summedBack, same, plus⟩
    exact ⟨front, back, summedFront, summedBack, same, plus⟩
  · rintro ⟨front, back, summedFront, summedBack, same, plus⟩
    exact ⟨front, summedFront, back, summedBack, same, plus⟩

theorem typeOf_of_mem_of_sum_eq_ok (summed : grouping.sum = .ok total) :
    ∀ item ∈ grouping.items, item.typeOf = total.typeOf := by
  induction grouping generalizing total with
  | single value =>
      cases summed
      simp [items]
  | join left right front back =>
      obtain ⟨_, _, summedFront, summedBack, same, rfl⟩ := sum_join_eq_ok_iff.mp summed
      intro item inside
      rw [Value.typeOf_plus]
      rcases List.mem_append.mp inside with inFront | inBack
      · exact front summedFront item inFront
      · exact (back summedBack item inBack).trans same.symm

theorem exists_sum_of_typed (typed : ∀ item ∈ grouping.items, item.typeOf = type) :
    ∃ total, grouping.sum = .ok total ∧ total.typeOf = type := by
  induction grouping with
  | single value => exact ⟨value, rfl, typed value (by simp [items])⟩
  | join left right front back =>
      obtain ⟨frontTyped, backTyped⟩ := List.forall_mem_append.mp typed
      obtain ⟨first, summedFront, frontType⟩ := front frontTyped
      obtain ⟨second, summedBack, backType⟩ := back backTyped
      have same : first.typeOf = second.typeOf := frontType.trans backType.symm
      have summed := sum_join_eq_ok_iff.mpr ⟨first, second, summedFront, summedBack, same, rfl⟩
      exact ⟨_, summed, (Value.typeOf_plus first second).trans frontType⟩

theorem items_ne_nil (grouping : Grouping Value) : grouping.items ≠ [] := by
  induction grouping with
  | single value => simp [items]
  | join left right front back => simp [items, front]

/-- There is a sum exactly when all items are of one type. -/
theorem exists_sum_iff :
    (∃ total, grouping.sum = .ok total) ↔
      ∀ first ∈ grouping.items, ∀ second ∈ grouping.items, first.typeOf = second.typeOf := by
  constructor
  · intro hasSum first firstInside second secondInside
    obtain ⟨total, summed⟩ := hasSum
    have typed := typeOf_of_mem_of_sum_eq_ok summed
    rw [typed first firstInside, typed second secondInside]
  · intro agree
    obtain ⟨first, inside⟩ := List.exists_mem_of_ne_nil _ grouping.items_ne_nil
    obtain ⟨total, summed, _⟩ :=
      exists_sum_of_typed fun item itemInside => agree item itemInside first inside
    exact ⟨total, summed⟩

/-- The sum from left to right has the same whole numbers. -/
theorem exists_sumOf_of_sum_eq_ok (summed : grouping.sum = .ok total) :
    ∃ folded, sumOf grouping.items = .ok folded ∧ SameWholes folded total := by
  induction grouping generalizing total with
  | single value =>
      cases summed
      exact ⟨value, rfl, .refl value⟩
  | join left right front back =>
      have typed := typeOf_of_mem_of_sum_eq_ok summed
      obtain ⟨first, second, summedFront, summedBack, same, rfl⟩ := sum_join_eq_ok_iff.mp summed
      obtain ⟨firstFolded, foldedFront, firstSame⟩ := front summedFront
      obtain ⟨secondFolded, foldedBack, secondSame⟩ := back summedBack
      obtain ⟨folded, summedAll⟩ := exists_sumOf (join left right).items_ne_nil typed
      obtain ⟨firstApart, secondApart, apartFront, apartBack, apartSame, regrouped⟩ :=
        exists_sums_of_groups left.items_ne_nil right.items_ne_nil summedAll
      rw [foldedFront] at apartFront
      rw [foldedBack] at apartBack
      cases apartFront
      cases apartBack
      exact ⟨folded, summedAll, regrouped.trans (firstSame.plus_congr secondSame apartSame)⟩

/-- Whole numbers have one sum, whatever the tree. -/
theorem sum_eq_ok_iff_sumOf (whole : ∀ item ∈ grouping.items, item.IsWhole) :
    grouping.sum = .ok total ↔ sumOf grouping.items = .ok total := by
  have folds : ∀ {sum}, grouping.sum = .ok sum → sumOf grouping.items = .ok sum := by
    intro sum summed
    obtain ⟨folded, summedAll, same⟩ := exists_sumOf_of_sum_eq_ok summed
    obtain ⟨item, inside⟩ := List.exists_mem_of_ne_nil _ grouping.items_ne_nil
    have foldedType := typeOf_of_mem_of_sumOf_eq_ok summedAll item inside
    cases same.eq_of_isWhole ((whole item inside).of_typeOf_eq foldedType.symm)
    exact summedAll
  constructor
  · exact folds
  · intro folded
    obtain ⟨sum, summed, _⟩ := exists_sum_of_typed (typeOf_of_mem_of_sumOf_eq_ok folded)
    have alsoFolded := folds summed
    rw [folded] at alsoFolded
    cases alsoFolded
    exact summed

/-- Reports are summed along every tree exactly when they are of one type, and whole
numbers along every tree to the sum from left to right. -/
theorem sum_of_reports {reports : List (Record Value)}
    (listed : grouping.items = reports.map Value.record) :
    ((∃ total, grouping.sum = .ok total) ↔
      ∀ first ∈ reports, ∀ second ∈ reports,
        (Value.record first).typeOf = (Value.record second).typeOf) ∧
    ((∀ report ∈ reports, (Value.record report).IsWhole) →
      ∀ total, grouping.sum = .ok total ↔ sumOf (reports.map Value.record) = .ok total) := by
  constructor
  · rw [exists_sum_iff, listed]
    simp only [List.forall_mem_map]
  · intro whole total
    rw [← listed]
    apply sum_eq_ok_iff_sumOf
    rw [listed, List.forall_mem_map]
    exact whole

/-- How many images a participant has seen and how many of them it has recognized. -/
def imageCounts (seen recognized : Int64) : Record Value :=
  .named [("seen", .unnamed [.tensor (.int64 (.scalar seen))]),
    ("recognized", .unnamed [.tensor (.int64 (.scalar recognized))])]

theorem isWhole_imageCounts (seen recognized : Int64) :
    (Value.record (imageCounts seen recognized)).IsWhole := by
  have leaves : (Value.record (imageCounts seen recognized)).leaves =
      [.int64 (.scalar seen), .int64 (.scalar recognized)] := rfl
  rw [Value.IsWhole, leaves]
  simp only [List.forall_mem_cons]
  exact ⟨rfl, rfl, by simp⟩

/-- Three participants, the first two of whom are added first. -/
def imageCountsTree : Grouping Value :=
  .join
    (.join (.single (.record (imageCounts 7 3))) (.single (.record (imageCounts 5 5))))
    (.single (.record (imageCounts 8 2)))

theorem imageCountsTree_sum :
    imageCountsTree.items =
        [imageCounts 7 3, imageCounts 5 5, imageCounts 8 2].map Value.record ∧
      (∃ total, imageCountsTree.sum = .ok total) ∧
      (∀ report ∈ [imageCounts 7 3, imageCounts 5 5, imageCounts 8 2],
        (Value.record report).IsWhole) ∧
      imageCountsTree.sum = .ok (.record (imageCounts 20 10)) := by
  have listed : imageCountsTree.items =
      [imageCounts 7 3, imageCounts 5 5, imageCounts 8 2].map Value.record := rfl
  have whole : ∀ report ∈ [imageCounts 7 3, imageCounts 5 5, imageCounts 8 2],
      (Value.record report).IsWhole := by
    simp [isWhole_imageCounts]
  obtain ⟨summable, folds⟩ := sum_of_reports listed
  refine ⟨listed, summable.mpr ?_, whole, (folds whole _).mpr rfl⟩
  simp [imageCounts, Value.typeOf, Value.unnamed, Record.unnamed, Record.named, Tensor.type,
    DenseArray.scalar, Tensor.sizes, Tensor.elementType]

end Grouping

end FederatedLearning
