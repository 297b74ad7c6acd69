import FederatedLearning.Proofs.AggregationReads
import FederatedLearning.Proofs.RegroupedSums

/-!
# Aggregation in groups

What a computation yields has the fields that its plan looks up, if no record of the plan
lists a name twice, so that it can be a participant of the same computation.  Groups of
participants can then be aggregated first, and their results after them.  For sums of
whole numbers this makes no difference, neither to the result nor to whether there is one.
-/

namespace FederatedLearning

theorem Record.find?_named_of_mem {α : Type} {entries : List (String × α)}
    (distinct : (entries.map Prod.fst).Nodup) {entry : String × α} (inside : entry ∈ entries) :
    (Record.named entries).find? entry.1 = some entry.2 := by
  induction entries with
  | nil => simp at inside
  | cons first rest induction =>
      obtain ⟨fresh, distinctRest⟩ := List.nodup_cons.mp distinct
      rcases List.mem_cons.mp inside with same | later
      · subst same
        simp [Record.find?, Record.named]
      · have different : first.1 ≠ entry.1 := by
          intro same
          rw [same] at fresh
          exact fresh (List.mem_map_of_mem later)
        simpa [Record.find?, Record.named, different] using induction distinctRest later

theorem Value.field_named_of_mem {entries : List (String × Value)}
    (distinct : (entries.map Prod.fst).Nodup) {entry : String × Value}
    (inside : entry ∈ entries) : (Value.named entries).field entry.1 = .ok entry.2 := by
  simp only [Value.field, Value.named, Value.asRecord, bind, Except.bind,
    Record.find?_named_of_mem distinct inside]
  rfl

namespace Plan

/-- All reductions of the plan are sums, and no record of it lists a name twice. -/
inductive Totals : Plan → Prop where
  | leaf : Totals (.leaf .sum)
  | record {fields : Record Plan} :
      (fields.elements.map fun field => Record.listedName field.1).Nodup →
      (∀ field ∈ fields.elements, Totals field.2) →
      Totals (.record fields)

/-- The plan reduces the part of the value. -/
inductive Takes : Plan → Value → Value → Prop where
  | leaf {reduction : Reduction} {part : Value} :
      Takes (.leaf reduction) part part
  | field {fields : Record Plan} {field : Option String × Plan} {value child part : Value} :
      field ∈ fields.elements →
      value.field (Record.listedName field.1) = .ok child →
      Takes field.2 child part →
      Takes (.record fields) value part

@[simp] theorem takes_leaf_iff {reduction : Reduction} {value part : Value} :
    (Plan.leaf reduction).Takes value part ↔ part = value := by
  constructor
  · intro takes
    cases takes
    rfl
  · intro same
    subst same
    exact .leaf

@[simp] theorem takes_record_iff {fields : Record Plan} {value part : Value} :
    (Plan.record fields).Takes value part ↔
      ∃ field ∈ fields.elements, ∃ child,
        value.field (Record.listedName field.1) = .ok child ∧ field.2.Takes child part := by
  constructor
  · intro takes
    cases takes with
    | field inside read inner => exact ⟨_, inside, _, read, inner⟩
  · intro takes
    obtain ⟨field, inside, child, read, inner⟩ := takes
    exact .field inside read inner

section

variable {plan : Plan} {field : Option String × Plan} {fields : Record Plan}
  {parts otherParts participants : List Value} {total : Value}
  {results fronts backs : List (String × Value)} {result : String × Value}

theorem Totals.not_weighs (totals : plan.Totals) (name : String) : ¬plan.Weighs name := by
  induction totals with
  | leaf => simp
  | record _ _ induction =>
      intro weighs
      obtain ⟨field, inside, inner⟩ := weighs_record_iff.mp weighs
      exact induction field inside inner

/-- Without weights the participants are not looked at beyond their parts. -/
theorem Totals.aggregate_eq (totals : plan.Totals) (parts participants others : List Value) :
    plan.aggregate parts participants = plan.aggregate parts others := by
  apply aggregate_eq_of_agree
  · exact List.forall₂_same.mpr fun part _ => .refl plan part
  · intro name weighs
    exact absurd weighs (totals.not_weighs name)

theorem map_fst_of_walked {listed : List (Option String × Plan)}
    (walked : listed.mapM (aggregateField parts participants) = .ok results) :
    results.map Prod.fst = listed.map fun field => Record.listedName field.1 := by
  rw [mapM_eq_ok_iff] at walked
  induction walked with
  | nil => rfl
  | cons yielded _ induction =>
      rw [List.map_cons, List.map_cons, induction, (aggregateField_eq_ok_iff.mp yielded).1]

/-- What a field yields is found under its name in the whole result. -/
theorem field_of_walked
    (distinct : (fields.elements.map fun field => Record.listedName field.1).Nodup)
    (walked : fields.elements.mapM (aggregateField parts participants) = .ok results)
    (inside : field ∈ fields.elements) :
    ∃ result, aggregateField parts participants field = .ok result ∧
      (Value.named results).field (Record.listedName field.1) = .ok result.2 := by
  obtain ⟨result, listed, yielded⟩ := exists_result_of_mem walked inside
  rw [← map_fst_of_walked walked] at distinct
  refine ⟨result, yielded, ?_⟩
  rw [← (aggregateField_eq_ok_iff.mp yielded).1]
  exact Value.field_named_of_mem distinct listed

/-- The field yields the result when two groups are aggregated first. -/
def YieldsInGroups (parts otherParts participants : List Value)
    (field : Option String × Plan) (result : String × Value) : Prop :=
  ∃ front back, aggregateField parts participants field = .ok front ∧
    aggregateField otherParts participants field = .ok back ∧
    result.1 = Record.listedName field.1 ∧
    field.2.aggregate [front.2, back.2] participants = .ok result.2

/-- The results of two groups are aggregated field by field. -/
theorem aggregateField_pair_eq_ok_iff
    (distinct : (fields.elements.map fun field => Record.listedName field.1).Nodup)
    (walkedFronts : fields.elements.mapM (aggregateField parts participants) = .ok fronts)
    (walkedBacks : fields.elements.mapM (aggregateField otherParts participants) = .ok backs)
    (inside : field ∈ fields.elements) :
    aggregateField [.named fronts, .named backs] participants field = .ok result ↔
      YieldsInGroups parts otherParts participants field result := by
  obtain ⟨front, yieldedFront, readFront⟩ := field_of_walked distinct walkedFronts inside
  obtain ⟨back, yieldedBack, readBack⟩ := field_of_walked distinct walkedBacks inside
  have read : [Value.named fronts, Value.named backs].mapM
      (·.field (Record.listedName field.1)) = .ok [front.2, back.2] := by
    rw [List.mapM_cons, List.mapM_cons, readFront, readBack]
    rfl
  constructor
  · intro yielded
    obtain ⟨named, children, alsoRead, aggregated⟩ := aggregateField_eq_ok_iff.mp yielded
    rw [read] at alsoRead
    cases alsoRead
    exact ⟨front, back, yieldedFront, yieldedBack, named, aggregated⟩
  · intro inGroups
    obtain ⟨otherFront, otherBack, alsoFront, alsoBack, named, aggregated⟩ := inGroups
    rw [yieldedFront] at alsoFront
    rw [yieldedBack] at alsoBack
    cases alsoFront
    cases alsoBack
    exact aggregateField_eq_ok_iff.mpr ⟨named, _, read, aggregated⟩

/-- A field can be aggregated in groups if the plan below it can. -/
theorem aggregateField_append_eq_ok_iff
    (below : ∀ children otherChildren,
      parts.mapM (·.field (Record.listedName field.1)) = .ok children →
      otherParts.mapM (·.field (Record.listedName field.1)) = .ok otherChildren →
      ∀ total, field.2.aggregate (children ++ otherChildren) participants = .ok total ↔
        ∃ front back, field.2.aggregate children participants = .ok front ∧
          field.2.aggregate otherChildren participants = .ok back ∧
          field.2.aggregate [front, back] participants = .ok total) :
    aggregateField (parts ++ otherParts) participants field = .ok result ↔
      YieldsInGroups parts otherParts participants field result := by
  constructor
  · intro yielded
    obtain ⟨named, _, read, aggregated⟩ := aggregateField_eq_ok_iff.mp yielded
    obtain ⟨children, otherChildren, readFront, readBack, rfl⟩ := mapM_append_eq_ok_iff.mp read
    obtain ⟨front, back, aggregatedFront, aggregatedBack, aggregatedBoth⟩ :=
      (below children otherChildren readFront readBack result.2).mp aggregated
    refine ⟨(Record.listedName field.1, front), (Record.listedName field.1, back), ?_, ?_,
      named, aggregatedBoth⟩
    · exact aggregateField_eq_ok_iff.mpr ⟨rfl, children, readFront, aggregatedFront⟩
    · exact aggregateField_eq_ok_iff.mpr ⟨rfl, otherChildren, readBack, aggregatedBack⟩
  · intro inGroups
    obtain ⟨front, back, yieldedFront, yieldedBack, named, aggregatedBoth⟩ := inGroups
    obtain ⟨_, children, readFront, aggregatedFront⟩ := aggregateField_eq_ok_iff.mp yieldedFront
    obtain ⟨_, otherChildren, readBack, aggregatedBack⟩ :=
      aggregateField_eq_ok_iff.mp yieldedBack
    have read := mapM_append_eq_ok_iff.mpr ⟨children, otherChildren, readFront, readBack, rfl⟩
    have aggregated := (below children otherChildren readFront readBack result.2).mpr
      ⟨front.2, back.2, aggregatedFront, aggregatedBack, aggregatedBoth⟩
    exact aggregateField_eq_ok_iff.mpr ⟨named, _, read, aggregated⟩

/-- A record can be aggregated in groups if each of its fields can. -/
theorem aggregate_record_append_eq_ok_iff
    (distinct : (fields.elements.map fun field => Record.listedName field.1).Nodup)
    (yields : ∀ field ∈ fields.elements, ∀ result,
      aggregateField (parts ++ otherParts) participants field = .ok result ↔
        YieldsInGroups parts otherParts participants field result) :
    (Plan.record fields).aggregate (parts ++ otherParts) participants = .ok total ↔
      ∃ front back, (Plan.record fields).aggregate parts participants = .ok front ∧
        (Plan.record fields).aggregate otherParts participants = .ok back ∧
        (Plan.record fields).aggregate [front, back] participants = .ok total := by
  simp only [aggregate_record_eq_ok_iff]
  constructor
  · intro aggregates
    obtain ⟨results, walked, rfl⟩ := aggregates
    have inGroups : ∀ field ∈ fields.elements, ∃ result,
        YieldsInGroups parts otherParts participants field result := by
      intro field inside
      obtain ⟨result, _, yielded⟩ := exists_result_of_mem walked inside
      exact ⟨result, (yields field inside result).mp yielded⟩
    obtain ⟨fronts, walkedFronts⟩ :
        ∃ fronts, fields.elements.mapM (aggregateField parts participants) = .ok fronts := by
      apply exists_mapM_eq_ok_iff.mpr
      intro field inside
      obtain ⟨_, front, _, yieldedFront, _⟩ := inGroups field inside
      exact ⟨front, yieldedFront⟩
    obtain ⟨backs, walkedBacks⟩ :
        ∃ backs, fields.elements.mapM (aggregateField otherParts participants) = .ok backs := by
      apply exists_mapM_eq_ok_iff.mpr
      intro field inside
      obtain ⟨_, _, back, _, yieldedBack, _⟩ := inGroups field inside
      exact ⟨back, yieldedBack⟩
    refine ⟨_, _, ⟨fronts, walkedFronts, rfl⟩, ⟨backs, walkedBacks, rfl⟩, results, ?_, rfl⟩
    refine (mapM_eq_ok_congr fun field inside result => ?_).mp walked
    rw [yields field inside, aggregateField_pair_eq_ok_iff distinct walkedFronts walkedBacks inside]
  · intro aggregates
    obtain ⟨_, _, ⟨fronts, walkedFronts, rfl⟩, ⟨backs, walkedBacks, rfl⟩,
      results, walkedBoth, rfl⟩ := aggregates
    refine ⟨results, (mapM_eq_ok_congr fun field inside result => ?_).mpr walkedBoth, rfl⟩
    rw [yields field inside, aggregateField_pair_eq_ok_iff distinct walkedFronts walkedBacks inside]

/-- Groups of parts with whole numbers can be totalled apart. -/
theorem Totals.aggregate_append_eq_ok_iff (totals : plan.Totals) (present : parts ≠ [])
    (otherPresent : otherParts ≠ [])
    (whole : ∀ value ∈ parts ++ otherParts, ∀ part, plan.Takes value part → part.IsWhole) :
    plan.aggregate (parts ++ otherParts) participants = .ok total ↔
      ∃ front back, plan.aggregate parts participants = .ok front ∧
        plan.aggregate otherParts participants = .ok back ∧
        plan.aggregate [front, back] participants = .ok total := by
  induction totals generalizing parts otherParts total with
  | leaf =>
      apply sumOf_append_eq_ok_iff present otherPresent
      intro part inside
      exact whole part inside part .leaf
  | @record fields distinct _ induction =>
      apply aggregate_record_append_eq_ok_iff distinct
      intro field inside result
      apply aggregateField_append_eq_ok_iff
      intro children otherChildren readFront readBack childTotal
      apply induction field inside (ne_nil_of_mapM_eq_ok readFront present)
        (ne_nil_of_mapM_eq_ok readBack otherPresent)
      intro child listed part takes
      have read := mapM_append_eq_ok_iff.mpr ⟨children, otherChildren, readFront, readBack, rfl⟩
      obtain ⟨value, valueInside, found⟩ := exists_of_mem_of_mapM_eq_ok read listed
      exact whole value valueInside part (.field inside found takes)

end

end Plan

namespace Computation

/-- Whole numbers can be summed up in groups: a computation all of whose reductions are
sums aggregates all participants to a value exactly when it aggregates two groups of them,
and then the two results, to that value. -/
theorem aggregate_append_iff_in_groups (computation : Computation)
    (totals : (Plan.record computation.plan).Totals) (participants others : List Value)
    (present : participants ≠ []) (othersPresent : others ≠ [])
    (whole : ∀ participant ∈ participants ++ others, ∀ part,
      (Plan.record computation.plan).Takes participant part → part.IsWhole) (total : Value) :
    computation.aggregate (participants ++ others) = .ok total ↔
      ∃ front back, computation.aggregate participants = .ok front ∧
        computation.aggregate others = .ok back ∧
        computation.aggregate [front, back] = .ok total := by
  have aggregateEq : ∀ {group : List Value}, group ≠ [] →
      computation.aggregate group = (Plan.record computation.plan).aggregate group [] := by
    intro group groupPresent
    rw [aggregate_eq_of_ne_nil groupPresent]
    exact totals.aggregate_eq group group []
  rw [aggregateEq present, aggregateEq othersPresent,
    aggregateEq (List.append_ne_nil_of_left_ne_nil present others),
    totals.aggregate_append_eq_ok_iff present othersPresent whole]
  simp only [aggregateEq (List.cons_ne_nil _ _)]

/-- Totals of visits and, below them, of the pages that were read and liked. -/
def visitTotals : Computation :=
  ⟨.named [("visits", .leaf .sum),
    ("pages", .record (.named [("read", .leaf .sum), ("liked", .leaf .sum)]))]⟩

/-- The visits of one client, with a score that is not totalled. -/
def visit (visits : Int64) (read liked : Int32) : Value :=
  .named [("pages", .named [("liked", .tensor (.int32 (.scalar liked))),
      ("read", .tensor (.int32 (.scalar read)))]),
    ("visits", .tensor (.int64 (.scalar visits))), ("score", .tensor (.float32 (.scalar 0.5)))]

theorem visitTotals_in_groups :
    (Plan.record visitTotals.plan).Totals ∧
      (∀ participant ∈ [visit 1 2 0, visit 4 5 3] ++ [visit 2 7 1], ∀ part,
        (Plan.record visitTotals.plan).Takes participant part → part.IsWhole) ∧
      ∃ total front back, visitTotals.aggregate [visit 1 2 0, visit 4 5 3] = .ok front ∧
        visitTotals.aggregate [visit 2 7 1] = .ok back ∧
        visitTotals.aggregate [front, back] = .ok total ∧
        total.leaves = [.int64 (.scalar 7), .int32 (.scalar 14), .int32 (.scalar 4)] := by
  have totals : (Plan.record visitTotals.plan).Totals := by
    refine .record (by decide) ?_
    simp only [visitTotals, Record.named, List.map_cons, List.map_nil, List.forall_mem_cons]
    refine ⟨.leaf, .record (by decide) ?_, by simp⟩
    simp only [List.forall_mem_cons]
    exact ⟨.leaf, .leaf, by simp⟩
  have whole : ∀ visits read liked part,
      (Plan.record visitTotals.plan).Takes (visit visits read liked) part → part.IsWhole := by
    intro visits read liked part takes
    simp [visitTotals, visit, Record.named, Record.listedName, Record.find?, Value.named,
      Value.field, Value.asRecord, bind, Except.bind, pure, Except.pure] at takes
    rcases takes with rfl | rfl | rfl <;>
      simp [Value.IsWhole, Value.leaves, Tensor.IsWhole, Tensor.elementType,
        ElementType.isFloating]
  have allWhole : ∀ participant ∈ [visit 1 2 0, visit 4 5 3] ++ [visit 2 7 1], ∀ part,
      (Plan.record visitTotals.plan).Takes participant part → part.IsWhole := by
    intro participant inside
    simp only [List.cons_append, List.nil_append, List.mem_cons, List.not_mem_nil,
      or_false] at inside
    rcases inside with rfl | rfl | rfl
    · exact whole 1 2 0
    · exact whole 4 5 3
    · exact whole 2 7 1
  obtain ⟨front, back, aggregatedFront, aggregatedBack, aggregatedBoth⟩ :=
    (aggregate_append_iff_in_groups visitTotals totals _ _ (by simp) (by simp) allWhole _).mp rfl
  exact ⟨totals, allWhole, _, front, back, aggregatedFront, aggregatedBack, aggregatedBoth, rfl⟩

end Computation

end FederatedLearning
