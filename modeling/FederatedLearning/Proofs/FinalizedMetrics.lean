import FederatedLearning.Proofs.MetricSums
import Mathlib.Data.Finset.Card

/-!
# Metrics of one report

A report and its finalizers are compared as sets of names with their sizes, and each
value then goes to the first finalizer of its name.  The comparison leaves nothing
unnamed and no name twice, so the first finalizer of a name is the only one, and the
order in which the finalizers are listed has no influence.
-/

namespace FederatedLearning

namespace Record

variable {α : Type} {record reordered : Record α} {name : String}

/-- Every element has a name, and no two have the same. -/
structure NamesApart (record : Record α) : Prop where
  named : ∀ element ∈ record.elements, element.1 ≠ none
  distinct : record.names.Nodup

theorem namedApart_eq_true_iff : record.namedApart = true ↔ record.NamesApart := by
  simp only [namedApart, labels, Bool.and_eq_true, List.all_eq_true, List.forall_mem_map,
    Option.isSome_iff_ne_none, decide_eq_true_eq]
  constructor
  · rintro ⟨named, distinct⟩
    exact ⟨named, distinct⟩
  · intro apart
    exact ⟨apart.named, apart.distinct⟩

/-- Names are apart exactly when their set is as large as the record. -/
theorem namesApart_iff_card :
    record.NamesApart ↔ record.names.toFinset.card = record.size := by
  have namesLength : record.names.length = record.size ↔
      ∀ element ∈ record.elements, element.1 ≠ none := by
    simp only [names, size, List.filterMap_length_eq_length, Option.isSome_iff_ne_none]
  constructor
  · rintro ⟨named, distinct⟩
    rw [List.toFinset_card_of_nodup distinct, namesLength.mpr named]
  · intro counted
    have atMost : record.names.toFinset.card ≤ record.names.length :=
      List.toFinset_card_le record.names
    have alsoAtMost : record.names.length ≤ record.size := List.length_filterMap_le _ _
    have allDistinct : record.names.toFinset.card = record.names.length := by omega
    refine ⟨namesLength.mp (by omega), ?_⟩
    exact Multiset.coe_nodup.mp (Multiset.toFinset_card_eq_card_iff_nodup.mp allDistinct)

theorem names_perm (reorders : reordered.elements.Perm record.elements) :
    reordered.names.Perm record.names :=
  reorders.filterMap Prod.fst

theorem NamesApart.of_perm (apart : record.NamesApart)
    (reorders : reordered.elements.Perm record.elements) : reordered.NamesApart where
  named element inside := apart.named element (reorders.mem_iff.mp inside)
  distinct := (names_perm reorders).nodup_iff.mpr apart.distinct

theorem NamesApart.find?_eq_some_iff (apart : record.NamesApart) {item : α} :
    record.find? name = some item ↔ (some name, item) ∈ record.elements :=
  find?_eq_some_iff_of_namedApart (namedApart_eq_true_iff.mpr apart)

/-- Where no name repeats, what is found under a name does not depend on the order. -/
theorem NamesApart.find?_eq_of_perm (apart : record.NamesApart)
    (reorders : reordered.elements.Perm record.elements) (name : String) :
    reordered.find? name = record.find? name := by
  apply Option.ext
  intro item
  rw [(apart.of_perm reorders).find?_eq_some_iff, apart.find?_eq_some_iff, reorders.mem_iff]

end Record

/-- Report and finalizers carry the same names, each of them once. -/
structure SameNamesOnce (report : Record Value) (finalizers : Record Finalizer) : Prop where
  reported : report.NamesApart
  expected : finalizers.NamesApart
  same : ∀ name, name ∈ report.names ↔ name ∈ finalizers.names

/-- The metric stands in the place of an element: it has the element's name, and is what
the finalizer of that name makes of the element. -/
def FinalizedBy (finalizers : Record Finalizer) (element metric : Option String × Value) : Prop :=
  metric.1 = element.1 ∧
    ∃ finalizer, (element.1, finalizer) ∈ finalizers.elements ∧ finalizer element.2 = .ok metric.2

section

variable {report metrics : Record Value} {finalizers reordered : Record Finalizer}

theorem checkMetricNames_eq_ok_iff_sameNamesOnce :
    checkMetricNames report finalizers = .ok () ↔ SameNamesOnce report finalizers := by
  rw [checkMetricNames_eq_ok_iff, Record.namedApart_eq_true_iff, Record.namedApart_eq_true_iff,
    Record.sameNameSet_eq_true_iff]
  constructor
  · rintro ⟨reported, expected, same⟩
    exact ⟨reported, expected, same⟩
  · intro once
    exact ⟨once.reported, once.expected, once.same⟩

/-- The check as a comparison of two sets and of their sizes. -/
theorem checkMetricNames_eq_ok_iff_sets :
    checkMetricNames report finalizers = .ok () ↔
      report.names.toFinset = finalizers.names.toFinset ∧
        report.names.toFinset.card = report.size ∧
        finalizers.names.toFinset.card = finalizers.size := by
  rw [checkMetricNames_eq_ok_iff_sameNamesOnce, ← Record.namesApart_iff_card,
    ← Record.namesApart_iff_card, List.toFinset.ext_iff]
  constructor
  · intro once
    exact ⟨once.same, once.reported, once.expected⟩
  · rintro ⟨same, reported, expected⟩
    exact ⟨reported, expected, same⟩

theorem SameNamesOnce.of_perm (once : SameNamesOnce report finalizers)
    (reorders : reordered.elements.Perm finalizers.elements) : SameNamesOnce report reordered where
  reported := once.reported
  expected := once.expected.of_perm reorders
  same name := by rw [once.same name, (Record.names_perm reorders).mem_iff]

/-- Finalizers that go with a report give the same outcome in every order, be it an error. -/
theorem finalizeMetrics_eq_of_perm (once : SameNamesOnce report finalizers)
    (reorders : reordered.elements.Perm finalizers.elements) :
    finalizeMetrics report reordered = finalizeMetrics report finalizers := by
  have checked := checkMetricNames_eq_ok_iff_sameNamesOnce.mpr once
  have checkedToo := checkMetricNames_eq_ok_iff_sameNamesOnce.mpr (once.of_perm reorders)
  have alike : report.elements.mapM (finalizeElement reordered) =
      report.elements.mapM (finalizeElement finalizers) := by
    apply mapM_congr
    intro element _
    rw [finalizeElement, finalizeElement, once.expected.find?_eq_of_perm reorders]
  rw [finalizeMetrics, finalizeMetrics, checked, checkedToo, alike]

theorem sameNamesOnce_of_finalizeMetrics_eq_ok
    (finalized : finalizeMetrics report finalizers = .ok metrics) :
    SameNamesOnce report finalizers :=
  checkMetricNames_eq_ok_iff_sameNamesOnce.mp (finalizeMetrics_eq_ok_iff.mp finalized).1

theorem finalizeMetrics_eq_ok_iff_of_perm
    (reorders : reordered.elements.Perm finalizers.elements) :
    finalizeMetrics report reordered = .ok metrics ↔
      finalizeMetrics report finalizers = .ok metrics := by
  constructor
  · intro finalized
    have once := (sameNamesOnce_of_finalizeMetrics_eq_ok finalized).of_perm reorders.symm
    rwa [← finalizeMetrics_eq_of_perm once reorders]
  · intro finalized
    have once := sameNamesOnce_of_finalizeMetrics_eq_ok finalized
    rwa [finalizeMetrics_eq_of_perm once reorders]

theorem SameNamesOnce.exists_finalizeMetrics_iff (once : SameNamesOnce report finalizers) :
    (∃ metrics, finalizeMetrics report finalizers = .ok metrics) ↔
      ∀ name value finalizer, (some name, value) ∈ report.elements →
        (some name, finalizer) ∈ finalizers.elements → ∃ metric, finalizer value = .ok metric := by
  rw [FederatedLearning.exists_finalizeMetrics_iff
    (checkMetricNames_eq_ok_iff_sameNamesOnce.mpr once)]
  simp only [once.reported.find?_eq_some_iff, once.expected.find?_eq_some_iff]

theorem forall₂_finalizedBy_of_finalizeMetrics_eq_ok
    (finalized : finalizeMetrics report finalizers = .ok metrics) :
    List.Forall₂ (FinalizedBy finalizers) report.elements metrics.elements := by
  have once := sameNamesOnce_of_finalizeMetrics_eq_ok finalized
  obtain ⟨_, results, walked, rfl⟩ := finalizeMetrics_eq_ok_iff.mp finalized
  obtain ⟨entries, rfl, _⟩ := Record.exists_entries_of_namedApart
    (Record.namedApart_eq_true_iff.mpr once.reported)
  rw [Record.named, List.mapM_map, mapM_eq_ok_iff] at walked
  rw [Record.named, Record.named, List.forall₂_map_left_iff, List.forall₂_map_right_iff]
  apply walked.imp
  intro entry result stepped
  obtain ⟨finalizer, metric, found, yields, rfl⟩ := finalizeElement_eq_ok_iff.mp stepped
  exact ⟨rfl, finalizer, once.expected.find?_eq_some_iff.mp found, yields⟩

end

/-- A report has metrics exactly when it and the finalizers carry the same names, each
once, and every finalizer takes the value of its name; the metrics stand in the report's
order, whatever the order of the finalizers. -/
theorem finalizeMetrics_by_name (report : Record Value) (finalizers : Record Finalizer) :
    ((∃ metrics, finalizeMetrics report finalizers = .ok metrics) ↔
      SameNamesOnce report finalizers ∧
        ∀ name value finalizer, (some name, value) ∈ report.elements →
          (some name, finalizer) ∈ finalizers.elements →
            ∃ metric, finalizer value = .ok metric) ∧
      (∀ metrics, finalizeMetrics report finalizers = .ok metrics →
        List.Forall₂ (FinalizedBy finalizers) report.elements metrics.elements) ∧
      ∀ reordered : Record Finalizer, reordered.elements.Perm finalizers.elements →
        ∀ metrics, finalizeMetrics report reordered = .ok metrics ↔
          finalizeMetrics report finalizers = .ok metrics := by
  refine ⟨?_, fun metrics => forall₂_finalizedBy_of_finalizeMetrics_eq_ok,
    fun reordered reorders metrics => finalizeMetrics_eq_ok_iff_of_perm reorders⟩
  constructor
  · rintro ⟨metrics, finalized⟩
    have once := sameNamesOnce_of_finalizeMetrics_eq_ok finalized
    exact ⟨once, once.exists_finalizeMetrics_iff.mp ⟨metrics, finalized⟩⟩
  · rintro ⟨once, yields⟩
    exact once.exists_finalizeMetrics_iff.mpr yields

/-- The finalizers of images, listed the other way around. -/
def turnedFinalizers : Record Finalizer :=
  .named [("recognized", Finalizer.first), ("seen", Finalizer.first)]

theorem imageCounts_finalized_in_report_order :
    turnedFinalizers.elements.Perm imageFinalizers.elements ∧
      finalizeMetrics (Grouping.imageCounts 7 3) turnedFinalizers = .ok (.named
        [("seen", .tensor (.int64 (.scalar 7))), ("recognized", .tensor (.int64 (.scalar 3)))]) := by
  have swapped : turnedFinalizers.elements.Perm imageFinalizers.elements := List.Perm.swap ..
  obtain ⟨_, _, unordered⟩ := finalizeMetrics_by_name (Grouping.imageCounts 7 3) imageFinalizers
  exact ⟨swapped, (unordered turnedFinalizers swapped _).mpr rfl⟩

end FederatedLearning
