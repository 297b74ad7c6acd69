import FederatedLearning.Proofs.NamedElements
import FederatedLearning.Proofs.ReductionTrees

/-!
# Sums of metrics

Reports are checked, summed and finalized.  The check compares sets of names and the
finalizers are looked up by name, but records are summed element by element: a sum
of checked reports exists only if all of them list the names in one order.  It then
holds, under each name, the sum of what the reports hold under it.  All of this is so
for every tree along which the reports may be summed, and the sums under the names are
taken along the same tree.
-/

namespace FederatedLearning

namespace Grouping

variable {grouping : Grouping (Record Value)} {total : Value} {name : String}

/-- The sum of records that all hold something under a name holds the sum of it. -/
theorem exists_part_of_sum_eq_ok {part : Record Value → Value}
    (found : ∀ report ∈ grouping.items, report.find? name = some (part report))
    (summed : (grouping.map Value.record).sum = .ok total) :
    ∃ members sum, total = .record members ∧ (grouping.map part).sum = .ok sum ∧
      members.find? name = some sum := by
  induction grouping generalizing total with
  | single report =>
      cases summed
      exact ⟨report, part report, rfl, rfl, found report (by simp [items])⟩
  | join left right front back =>
      obtain ⟨foundFront, foundBack⟩ := List.forall_mem_append.mp found
      obtain ⟨_, _, summedFront, summedBack, same, rfl⟩ := sum_join_eq_ok_iff.mp summed
      obtain ⟨first, firstSum, rfl, partFront, foundFirst⟩ := front foundFront summedFront
      obtain ⟨second, secondSum, rfl, partBack, foundSecond⟩ := back foundBack summedBack
      obtain ⟨members, sums, foundSum⟩ := Value.exists_record_plus same
      refine ⟨members, firstSum.plus secondSum, sums, ?_, foundSum foundFirst foundSecond⟩
      have sameType := Value.typeOf_eq_of_find? same foundFirst foundSecond
      exact sum_join_eq_ok_iff.mpr ⟨_, _, partFront, partBack, sameType, rfl⟩

end Grouping

namespace Finalizer

/-- The first of a tuple of one can be taken. -/
theorem exists_first {value : Value} {type : ValueType}
    (typed : value.typeOf = .record (.unnamed [type])) :
    ∃ metric, Finalizer.first value = .ok metric := by
  cases value with
  | tensor leaf => cases typed
  | record members =>
      obtain ⟨elements⟩ := members
      simp only [Value.typeOf_record, ValueType.record.injEq, Record.map, Record.unnamed,
        Record.mk.injEq, List.map_cons, List.map_nil, List.map_eq_singleton_iff] at typed
      obtain ⟨element, rfl, _⟩ := typed
      exact ⟨element.2, rfl⟩

theorem numberAt_eq {members : Record Value} {position : Nat} {leaf : Tensor} {number : Float}
    (found : members.get? position = some (.tensor leaf)) (scalar : leaf.scalar? = some number) :
    numberAt members position = .ok number := by
  have opened : (Value.tensor leaf).asTensor "unfinalized metric" = .ok leaf := rfl
  simp only [numberAt, found, opened, exceptBind_eq_ok_iff]
  exact ⟨leaf, rfl, by rw [scalar]; rfl⟩

/-- A pair of single numbers can be divided. -/
theorem exists_divideOrZero {value : Value} {first second : TensorType}
    (typed : value.typeOf = .record (.unnamed [.tensor first, .tensor second]))
    (firstSingle : first.shape.elementCount? = some 1)
    (secondSingle : second.shape.elementCount? = some 1) :
    ∃ metric, Finalizer.divideOrZero value = .ok metric := by
  cases value with
  | tensor leaf => cases typed
  | record members =>
      obtain ⟨elements⟩ := members
      simp only [Value.typeOf_record, ValueType.record.injEq, Record.map, Record.unnamed,
        Record.mk.injEq, List.map_cons, List.map_nil, List.map_eq_cons_iff, Prod.mk.injEq,
        List.map_eq_nil_iff] at typed
      obtain ⟨⟨_, total⟩, _, rfl, ⟨_, totalTyped⟩, ⟨_, weight⟩, _, rfl, ⟨_, weightTyped⟩, rfl⟩ :=
        typed
      obtain ⟨total, rfl⟩ := Value.exists_leaf_of_typeOf_eq totalTyped
      obtain ⟨weight, rfl⟩ := Value.exists_leaf_of_typeOf_eq weightTyped
      obtain ⟨_, totalScalar⟩ := Value.exists_scalar?_of_typeOf_eq totalTyped firstSingle
      obtain ⟨_, weightScalar⟩ := Value.exists_scalar?_of_typeOf_eq weightTyped secondSingle
      apply exists_exceptBind_eq_ok_iff.mpr
      refine ⟨_, rfl, ?_⟩
      apply exists_exceptBind_eq_ok_iff.mpr
      refine ⟨_, numberAt_eq rfl totalScalar, ?_⟩
      apply exists_exceptBind_eq_ok_iff.mpr
      exact ⟨_, numberAt_eq rfl weightScalar, _, rfl⟩

end Finalizer

/-- What a report holds under a name, or nothing. -/
def valueUnder (name : String) (report : Record Value) : Value :=
  (report.find? name).getD (.record ∅)

/-- The sum of what the reports hold under a name, along the tree by which the reports are
grouped. -/
def sumUnder (splitter : Splitter (Record Value)) (name : String)
    (reports : List (Record Value)) : Except LearningError Value :=
  splitter.sumParts (valueUnder name) reports

section

variable {splitter : Splitter (Record Value)} {part : Record Value → Value}
  {reports : List (Record Value)} {report summed metrics : Record Value}
  {finalizers : Record Finalizer} {total value : Value} {name : String}

theorem Splitter.sumParts_eq_ok_iff :
    splitter.sumParts part reports = .ok total ↔
      ∃ present, ((splitter.group reports present).map part).sum = .ok total := by
  unfold sumParts
  split
  · next present =>
      rw [ofTensor_eq_ok_iff]
      simp [present]
  · next absent => simp [absent]

theorem Splitter.items_map_group (present : reports ≠ []) :
    ((splitter.group reports present).map part).items = reports.map part := by
  rw [Grouping.items_map, splitter.items_group]

theorem Splitter.exists_sumParts_iff (present : reports ≠ []) :
    (∃ total, splitter.sumParts part reports = .ok total) ↔
      ∀ first ∈ reports, ∀ second ∈ reports, (part first).typeOf = (part second).typeOf := by
  simp only [sumParts_eq_ok_iff, exists_prop_of_true present, Grouping.exists_sum_iff,
    items_map_group, List.forall_mem_map]

theorem Splitter.typeOf_of_mem_of_sumParts_eq_ok
    (summed : splitter.sumParts part reports = .ok total) :
    ∀ report ∈ reports, (part report).typeOf = total.typeOf := by
  obtain ⟨present, summed⟩ := sumParts_eq_ok_iff.mp summed
  have typed := Grouping.typeOf_of_mem_of_sum_eq_ok summed
  rwa [items_map_group, List.forall_mem_map] at typed

theorem labels_eq_of_typeOf_record_eq {left right : Record Value}
    (same : (Value.record left).typeOf = (Value.record right).typeOf) :
    left.labels = right.labels :=
  Value.labels_eq_of_types_eq (Value.typeOf_record_eq_iff.mp same)

theorem find?_eq_valueUnder (held : ∃ value, report.find? name = some value) :
    report.find? name = some (valueUnder name report) := by
  obtain ⟨value, found⟩ := held
  rw [valueUnder, found, Option.getD_some]

/-- The sum of reports holds, under a name that all of them list, the sum of what
they hold under it. -/
theorem exists_sumUnder_of_sumParts_eq_ok
    (held : ∀ report ∈ reports, ∃ value, report.find? name = some value)
    (summed : splitter.sumParts .record reports = .ok total) :
    ∃ members sum, total = .record members ∧ sumUnder splitter name reports = .ok sum ∧
      members.find? name = some sum := by
  obtain ⟨present, summed⟩ := Splitter.sumParts_eq_ok_iff.mp summed
  have found : ∀ report ∈ (splitter.group reports present).items,
      report.find? name = some (valueUnder name report) := by
    rw [splitter.items_group]
    exact fun report inside => find?_eq_valueUnder (held report inside)
  obtain ⟨members, sum, same, partSummed, foundSum⟩ :=
    Grouping.exists_part_of_sum_eq_ok found summed
  exact ⟨members, sum, same, Splitter.sumParts_eq_ok_iff.mpr ⟨present, partSummed⟩, foundSum⟩

theorem checkMetricNames_eq_ok_iff :
    checkMetricNames report finalizers = .ok () ↔
      report.namedApart = true ∧ finalizers.namedApart = true ∧
        report.sameNameSet finalizers = true := by
  simp [checkMetricNames, and_assoc]

theorem checkMetricNames_of_labels_eq {other : Record Value}
    (same : report.labels = other.labels) (checked : checkMetricNames report finalizers = .ok ()) :
    checkMetricNames other finalizers = .ok () := by
  rw [checkMetricNames_eq_ok_iff] at checked ⊢
  obtain ⟨apart, finalizersApart, sameNames⟩ := checked
  rw [Record.sameNameSet, Record.names_eq_of_labels_eq same] at sameNames
  rw [← Record.namedApart_eq_of_labels_eq same]
  exact ⟨apart, finalizersApart, sameNames⟩

/-- A checked report holds something under exactly the names of the finalizers. -/
theorem exists_find?_iff_of_checked (checked : checkMetricNames report finalizers = .ok ()) :
    (∃ value, report.find? name = some value) ↔
      ∃ finalizer, finalizers.find? name = some finalizer := by
  obtain ⟨_, _, sameNames⟩ := checkMetricNames_eq_ok_iff.mp checked
  rw [← Record.mem_names_iff, ← Record.mem_names_iff]
  exact Record.sameNameSet_eq_true_iff.mp sameNames name

theorem exists_find?_of_checked {finalizer : Finalizer}
    (checked : ∀ report ∈ reports, checkMetricNames report finalizers = .ok ())
    (found : finalizers.find? name = some finalizer) :
    ∀ report ∈ reports, ∃ value, report.find? name = some value := by
  intro report inside
  exact (exists_find?_iff_of_checked (checked report inside)).mpr ⟨finalizer, found⟩

theorem finalizeElement_eq_ok_iff {result : String × Value} :
    finalizeElement finalizers (some name, value) = .ok result ↔
      ∃ finalizer metric, finalizers.find? name = some finalizer ∧
        finalizer value = .ok metric ∧ (name, metric) = result := by
  simp only [finalizeElement, Record.listedName, Option.getD_some]
  cases finalizers.find? name with
  | none => simp [throw, throwThe, MonadExceptOf.throw]
  | some finalizer =>
      simp only [exceptBind_eq_ok_iff, exceptPure_eq_ok_iff]
      simp

theorem finalizeMetrics_eq_ok_iff :
    finalizeMetrics report finalizers = .ok metrics ↔
      checkMetricNames report finalizers = .ok () ∧
        ∃ results, report.elements.mapM (finalizeElement finalizers) = .ok results ∧
          .named results = metrics := by
  rw [finalizeMetrics, exceptThen_eq_ok_iff]
  simp only [exceptBind_eq_ok_iff, exceptPure_eq_ok_iff]

/-- The metrics of a report carry its names, in its order. -/
theorem labels_of_finalizeMetrics_eq_ok
    (finalized : finalizeMetrics report finalizers = .ok metrics) :
    metrics.labels = report.labels := by
  obtain ⟨checked, results, walked, rfl⟩ := finalizeMetrics_eq_ok_iff.mp finalized
  obtain ⟨apart, _⟩ := checkMetricNames_eq_ok_iff.mp checked
  obtain ⟨entries, rfl, _⟩ := Record.exists_entries_of_namedApart apart
  rw [Record.named, List.mapM_map, mapM_eq_ok_iff] at walked
  have sameNames : List.Forall₂ (fun entry result => entry.1 = result.1) entries results := by
    apply walked.imp
    intro entry result stepped
    obtain ⟨_, _, _, _, rfl⟩ := finalizeElement_eq_ok_iff.mp stepped
    rfl
  have listed : entries.map Prod.fst = results.map Prod.fst := by
    rw [← List.forall₂_eq_eq_eq, List.forall₂_map_left_iff, List.forall₂_map_right_iff]
    exact sameNames
  rw [Record.labels_named, Record.labels_named, listed]

/-- A checked report has metrics exactly when no finalizer fails on what the report
holds under its name. -/
theorem exists_finalizeMetrics_iff (checked : checkMetricNames report finalizers = .ok ()) :
    (∃ metrics, finalizeMetrics report finalizers = .ok metrics) ↔
      ∀ name value finalizer, report.find? name = some value →
        finalizers.find? name = some finalizer → ∃ metric, finalizer value = .ok metric := by
  obtain ⟨apart, _⟩ := checkMetricNames_eq_ok_iff.mp checked
  constructor
  · rintro ⟨metrics, finalized⟩ name value finalizer found foundFinalizer
    obtain ⟨_, results, walked, _⟩ := finalizeMetrics_eq_ok_iff.mp finalized
    have inside := (Record.find?_eq_some_iff_of_namedApart apart).mp found
    obtain ⟨result, _, stepped⟩ := exists_result_of_mem walked inside
    obtain ⟨_, metric, alsoFound, yields, _⟩ := finalizeElement_eq_ok_iff.mp stepped
    rw [foundFinalizer] at alsoFound
    cases alsoFound
    exact ⟨metric, yields⟩
  · intro yields
    have walks : ∃ results, report.elements.mapM (finalizeElement finalizers) = .ok results := by
      apply exists_mapM_eq_ok_iff.mpr
      intro element inside
      obtain ⟨entries, rfl, distinct⟩ := Record.exists_entries_of_namedApart apart
      obtain ⟨entry, listed, rfl⟩ := List.mem_map.mp inside
      have found := Record.find?_named_of_mem distinct listed
      obtain ⟨finalizer, foundFinalizer⟩ := (exists_find?_iff_of_checked checked).mp ⟨_, found⟩
      obtain ⟨metric, yielded⟩ := yields entry.1 entry.2 finalizer found foundFinalizer
      exact ⟨_, finalizeElement_eq_ok_iff.mpr ⟨finalizer, metric, foundFinalizer, yielded, rfl⟩⟩
    obtain ⟨results, walked⟩ := walks
    exact ⟨_, finalizeMetrics_eq_ok_iff.mpr ⟨checked, results, walked, rfl⟩⟩

/-- Under each name of the report, its metrics hold what the finalizer makes of it. -/
theorem find?_of_finalizeMetrics_eq_ok
    (finalized : finalizeMetrics report finalizers = .ok metrics)
    (found : report.find? name = some value) :
    ∃ finalizer metric, finalizers.find? name = some finalizer ∧ finalizer value = .ok metric ∧
      metrics.find? name = some metric := by
  have sameLabels := labels_of_finalizeMetrics_eq_ok finalized
  obtain ⟨checked, results, walked, rfl⟩ := finalizeMetrics_eq_ok_iff.mp finalized
  obtain ⟨apart, _⟩ := checkMetricNames_eq_ok_iff.mp checked
  have inside := (Record.find?_eq_some_iff_of_namedApart apart).mp found
  obtain ⟨result, listed, stepped⟩ := exists_result_of_mem walked inside
  obtain ⟨finalizer, metric, foundFinalizer, yields, rfl⟩ := finalizeElement_eq_ok_iff.mp stepped
  refine ⟨finalizer, metric, foundFinalizer, yields, ?_⟩
  rw [← Record.namedApart_eq_of_labels_eq sameLabels] at apart
  rw [Record.find?_eq_some_iff_of_namedApart apart]
  exact List.mem_map.mpr ⟨_, listed, rfl⟩

theorem sumThenFinalize_eq_ok_iff :
    sumThenFinalize reports finalizers splitter = .ok metrics ↔
      (∀ report ∈ reports, checkMetricNames report finalizers = .ok ()) ∧
        ∃ summed, splitter.sumParts .record reports = .ok (.record summed) ∧
          finalizeMetrics summed finalizers = .ok metrics := by
  rw [sumThenFinalize, exceptThen_eq_ok_iff, forM_eq_ok_iff, exceptBind_eq_ok_iff]
  refine and_congr_right fun _ => ?_
  constructor
  · rintro ⟨total, summed, finalized⟩
    cases total with
    | tensor leaf => cases finalized
    | record members => exact ⟨members, summed, finalized⟩
  · rintro ⟨members, summed, finalized⟩
    exact ⟨.record members, summed, finalized⟩

/-- Under each name of the finalizers stands the finalized sum of what the reports hold
under it. -/
def FinalizesSums (splitter : Splitter (Record Value)) (reports : List (Record Value))
    (finalizers : Record Finalizer) (metrics : Record Value) : Prop :=
  ∀ name finalizer, finalizers.find? name = some finalizer →
    ∃ total metric, sumUnder splitter name reports = .ok total ∧
      finalizer total = .ok metric ∧ metrics.find? name = some metric

theorem finalizesSums_of_sumThenFinalize_eq_ok
    (done : sumThenFinalize reports finalizers splitter = .ok metrics) :
    FinalizesSums splitter reports finalizers metrics := by
  obtain ⟨checked, members, summed, finalized⟩ := sumThenFinalize_eq_ok_iff.mp done
  intro name finalizer found
  obtain ⟨_, total, same, summedUnder, foundTotal⟩ :=
    exists_sumUnder_of_sumParts_eq_ok (exists_find?_of_checked checked found) summed
  cases same
  obtain ⟨finalizer', metric, alsoFound, yields, foundMetric⟩ :=
    find?_of_finalizeMetrics_eq_ok finalized foundTotal
  rw [found] at alsoFound
  cases alsoFound
  exact ⟨total, metric, summedUnder, yields, foundMetric⟩

/-- What is summed under a name has the type of all its parts. -/
theorem typeOf_of_sumUnder_eq_ok (summed : sumUnder splitter name reports = .ok total)
    (inside : report ∈ reports) (found : report.find? name = some value) :
    value.typeOf = total.typeOf := by
  have typed := Splitter.typeOf_of_mem_of_sumParts_eq_ok summed report inside
  rwa [valueUnder, found, Option.getD_some] at typed

/-- Reports of one type have a sum with their names. -/
theorem exists_sum_of_reports (splitter : Splitter (Record Value)) (present : reports ≠ [])
    (sameTypes : ∀ first ∈ reports, ∀ second ∈ reports,
      (Value.record first).typeOf = (Value.record second).typeOf) :
    ∃ summed, splitter.sumParts .record reports = .ok (.record summed) ∧
      ∀ report ∈ reports, report.labels = summed.labels := by
  obtain ⟨total, summed⟩ := (Splitter.exists_sumParts_iff present).mpr sameTypes
  have typed := Splitter.typeOf_of_mem_of_sumParts_eq_ok summed
  obtain ⟨first, inside⟩ := List.exists_mem_of_ne_nil reports present
  cases total with
  | tensor leaf => simpa [Value.typeOf] using typed first inside
  | record members =>
      exact ⟨members, summed, fun report inside =>
        labels_eq_of_typeOf_record_eq (typed report inside)⟩

theorem exists_sumThenFinalize (present : reports ≠ [])
    (checked : ∀ report ∈ reports, checkMetricNames report finalizers = .ok ())
    (sameTypes : ∀ first ∈ reports, ∀ second ∈ reports,
      (Value.record first).typeOf = (Value.record second).typeOf)
    (finalizes : ∀ name finalizer total, finalizers.find? name = some finalizer →
      sumUnder splitter name reports = .ok total → ∃ metric, finalizer total = .ok metric) :
    ∃ metrics, sumThenFinalize reports finalizers splitter = .ok metrics := by
  obtain ⟨members, summed, sameLabels⟩ := exists_sum_of_reports splitter present sameTypes
  obtain ⟨first, inside⟩ := List.exists_mem_of_ne_nil reports present
  have checkedSum :=
    checkMetricNames_of_labels_eq (sameLabels first inside) (checked first inside)
  have yields : ∀ name value finalizer, members.find? name = some value →
      finalizers.find? name = some finalizer → ∃ metric, finalizer value = .ok metric := by
    intro name value finalizer found foundFinalizer
    obtain ⟨_, total, same, summedUnder, foundTotal⟩ :=
      exists_sumUnder_of_sumParts_eq_ok (exists_find?_of_checked checked foundFinalizer) summed
    cases same
    rw [found] at foundTotal
    cases foundTotal
    exact finalizes name finalizer value foundFinalizer summedUnder
  obtain ⟨metrics, finalized⟩ := (exists_finalizeMetrics_iff checkedSum).mpr yields
  exact ⟨metrics, sumThenFinalize_eq_ok_iff.mpr ⟨checked, members, summed, finalized⟩⟩

/-- Reports that can be matched with each other and with the finalizers by name. -/
structure MatchedByName (splitter : Splitter (Record Value)) (reports : List (Record Value))
    (finalizers : Record Finalizer) : Prop where
  present : reports ≠ []
  checked : ∀ report ∈ reports, checkMetricNames report finalizers = .ok ()
  typed : ∀ first ∈ reports, ∀ second ∈ reports, ∀ name value value',
    first.find? name = some value → second.find? name = some value' →
      value.typeOf = value'.typeOf
  finalizes : ∀ name finalizer total, finalizers.find? name = some finalizer →
    sumUnder splitter name reports = .ok total → ∃ metric, finalizer total = .ok metric

theorem MatchedByName.typeOf_eq_iff (matched : MatchedByName splitter reports finalizers)
    {first second : Record Value} (firstInside : first ∈ reports)
    (secondInside : second ∈ reports) :
    (Value.record first).typeOf = (Value.record second).typeOf ↔ first.labels = second.labels := by
  have firstChecked := matched.checked first firstInside
  have secondChecked := matched.checked second secondInside
  obtain ⟨apart, _⟩ := checkMetricNames_eq_ok_iff.mp firstChecked
  rw [Value.typeOf_record_eq_iff_of_namedApart apart]
  apply and_iff_left_of_imp
  intro _ name
  cases found : first.find? name with
  | some value =>
      obtain ⟨finalizer, foundFinalizer⟩ := (exists_find?_iff_of_checked firstChecked).mp ⟨_, found⟩
      obtain ⟨value', found'⟩ := (exists_find?_iff_of_checked secondChecked).mpr ⟨_, foundFinalizer⟩
      have sameType :=
        matched.typed first firstInside second secondInside name value value' found found'
      rw [found', Option.map_some, Option.map_some, sameType]
  | none =>
      cases found' : second.find? name with
      | none => rfl
      | some value' =>
          obtain ⟨finalizer, foundFinalizer⟩ :=
            (exists_find?_iff_of_checked secondChecked).mp ⟨_, found'⟩
          obtain ⟨value, alsoFound⟩ :=
            (exists_find?_iff_of_checked firstChecked).mpr ⟨_, foundFinalizer⟩
          rw [found] at alsoFound
          cases alsoFound

/-- Reports whose sum could be finalized list their names in one order. -/
theorem labels_eq_of_sumThenFinalize_eq_ok
    (done : sumThenFinalize reports finalizers splitter = .ok metrics) :
    ∀ first ∈ reports, ∀ second ∈ reports, first.labels = second.labels := by
  obtain ⟨_, members, summed, _⟩ := sumThenFinalize_eq_ok_iff.mp done
  have typed := Splitter.typeOf_of_mem_of_sumParts_eq_ok summed
  intro first firstInside second secondInside
  apply labels_eq_of_typeOf_record_eq
  rw [typed first firstInside, typed second secondInside]

/-- Along whatever tree they are summed, matching reports have finalized sums exactly when
all of them list the names in one order.  The finalized sums stand under their names. -/
theorem exists_sumThenFinalize_iff_one_order (splitter : Splitter (Record Value))
    (matched : MatchedByName splitter reports finalizers) :
    ((∃ metrics, sumThenFinalize reports finalizers splitter = .ok metrics) ↔
      ∀ first ∈ reports, ∀ second ∈ reports, first.labels = second.labels) ∧
    ∀ metrics, sumThenFinalize reports finalizers splitter = .ok metrics →
      FinalizesSums splitter reports finalizers metrics := by
  refine ⟨?_, fun metrics => finalizesSums_of_sumThenFinalize_eq_ok⟩
  constructor
  · rintro ⟨metrics, done⟩
    exact labels_eq_of_sumThenFinalize_eq_ok done
  · intro oneOrder
    apply exists_sumThenFinalize matched.present matched.checked
    · intro first firstInside second secondInside
      apply (matched.typeOf_eq_iff firstInside secondInside).mpr
      exact oneOrder first firstInside second secondInside
    · exact matched.finalizes

def imageFinalizers : Record Finalizer :=
  .named [("seen", Finalizer.first), ("recognized", Finalizer.first)]

/-- The counts of images in the other order. -/
def turnedCounts (recognized seen : Int64) : Record Value :=
  .named [("recognized", .unnamed [.tensor (.int64 (.scalar recognized))]),
    ("seen", .unnamed [.tensor (.int64 (.scalar seen))])]

/-- The report holds a single number under each of the two names. -/
structure CountsImages (report : Record Value) : Prop where
  checked : checkMetricNames report imageFinalizers = .ok ()
  counts : ∀ element ∈ report.elements,
    element.2.typeOf = .record (.unnamed [.tensor (.ofSizes .int64 [])])

theorem CountsImages.typeOf_eq (counted : CountsImages report)
    (found : report.find? name = some value) :
    value.typeOf = .record (.unnamed [.tensor (.ofSizes .int64 [])]) := by
  obtain ⟨apart, _⟩ := checkMetricNames_eq_ok_iff.mp counted.checked
  exact counted.counts _ ((Record.find?_eq_some_iff_of_namedApart apart).mp found)

theorem CountsImages.matched (present : reports ≠ [])
    (counted : ∀ report ∈ reports, CountsImages report) :
    MatchedByName splitter reports imageFinalizers where
  present := present
  checked report inside := (counted report inside).checked
  typed first firstInside second secondInside name value value' found found' := by
    rw [(counted first firstInside).typeOf_eq found, (counted second secondInside).typeOf_eq found']
  finalizes name finalizer total found summed := by
    have isFirst : finalizer = Finalizer.first := by
      have listed := Record.mem_of_find?_eq_some found
      simp only [imageFinalizers, Record.named, List.map_cons, List.map_nil, List.mem_cons,
        List.not_mem_nil, or_false, Prod.mk.injEq] at listed
      rcases listed with ⟨_, isFirst⟩ | ⟨_, isFirst⟩
      · exact isFirst
      · exact isFirst
    obtain ⟨report, inside⟩ := List.exists_mem_of_ne_nil reports present
    obtain ⟨value, held⟩ :=
      (exists_find?_iff_of_checked (counted report inside).checked).mpr ⟨finalizer, found⟩
    have typed := typeOf_of_sumUnder_eq_ok summed inside held
    rw [(counted report inside).typeOf_eq held] at typed
    rw [isFirst]
    exact Finalizer.exists_first typed.symm

theorem countsImages_imageCounts (seen recognized : Int64) :
    CountsImages (Grouping.imageCounts seen recognized) where
  checked := rfl
  counts := by
    rw [Grouping.imageCounts, Record.named, List.forall_mem_map]
    simp only [List.forall_mem_cons]
    exact ⟨rfl, rfl, by simp⟩

theorem countsImages_turnedCounts (recognized seen : Int64) :
    CountsImages (turnedCounts recognized seen) where
  checked := rfl
  counts := by
    rw [turnedCounts, Record.named, List.forall_mem_map]
    simp only [List.forall_mem_cons]
    exact ⟨rfl, rfl, by simp⟩

theorem imageCounts_finalized :
    MatchedByName .halves [Grouping.imageCounts 7 3, Grouping.imageCounts 5 5]
        imageFinalizers ∧
      ∃ metrics, sumThenFinalize [Grouping.imageCounts 7 3, Grouping.imageCounts 5 5]
          imageFinalizers .halves = .ok metrics ∧
        FinalizesSums .halves [Grouping.imageCounts 7 3, Grouping.imageCounts 5 5]
          imageFinalizers metrics := by
  have matched : MatchedByName .halves [Grouping.imageCounts 7 3, Grouping.imageCounts 5 5]
      imageFinalizers := by
    apply CountsImages.matched (by simp)
    simp [countsImages_imageCounts]
  obtain ⟨hasMetrics, finalizesSums⟩ := exists_sumThenFinalize_iff_one_order .halves matched
  obtain ⟨metrics, done⟩ := hasMetrics.mpr (by simp [Grouping.imageCounts])
  exact ⟨matched, metrics, done, finalizesSums metrics done⟩

/-- Two participants who list the same metrics in different orders have no sum, along
whatever tree. -/
theorem turnedCounts_not_summed :
    ¬ ∀ (reports : List (Record Value)) (finalizers : Record Finalizer),
      (∀ splitter, MatchedByName splitter reports finalizers) →
        ∃ splitter metrics, sumThenFinalize reports finalizers splitter = .ok metrics ∧
          FinalizesSums splitter reports finalizers metrics := by
  intro claimed
  have matched (splitter : Splitter (Record Value)) :
      MatchedByName splitter [Grouping.imageCounts 7 3, turnedCounts 5 5] imageFinalizers := by
    apply CountsImages.matched (by simp)
    simp [countsImages_imageCounts, countsImages_turnedCounts]
  obtain ⟨splitter, metrics, done, _⟩ := claimed _ _ matched
  have sameLabels := labels_eq_of_sumThenFinalize_eq_ok done (Grouping.imageCounts 7 3) (by simp)
    (turnedCounts 5 5) (by simp)
  simp [Grouping.imageCounts, turnedCounts] at sameLabels

end

end FederatedLearning
