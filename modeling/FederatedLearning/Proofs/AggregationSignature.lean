import FederatedLearning.Proofs.PlanTraversal

/-!
# Signatures and evaluation of aggregations

The signature of a computation is found from types alone, its result from the
values that participants report.  Both walk the plan and look fields up in the
same way, so that a result has the type that the signature says.

An accepted computation may still fail: the signature refuses the mean of a
whole number tensor, but not of a record with such a tensor inside.  Given the
weights that it names, it succeeds exactly when every part that it averages
consists of floating point tensors.
-/

namespace FederatedLearning

theorem Reduction.type_of_resultType_eq_ok {reduction : Reduction} {member type : ValueType}
    (accepted : reduction.resultType member = .ok type) : type = member := by
  unfold resultType at accepted
  split at accepted
  · cases accepted
    rfl
  · split at accepted
    · cases accepted
      rfl
    · cases accepted
  · cases accepted
    rfl

theorem Reduction.resultType_eq_ok_of_isFloating {reduction : Reduction} {member : ValueType}
    (floating : reduction ≠ .sum → member.IsFloating) :
    reduction.resultType member = .ok member := by
  unfold resultType
  split
  · rfl
  · rename_i type notSum
    exact if_pos (floating notSum type (by simp [ValueType.tensors]))
  · rfl

namespace Plan

/-- The plan weights some part by the number under the name. -/
inductive Weighs (name : String) : Plan → Prop where
  | leaf : Weighs name (.leaf (.weightedMean name))
  | field {fields : Record Plan} {label : Option String} {plan : Plan} :
      (label, plan) ∈ fields.elements →
      Weighs name plan →
      Weighs name (.record fields)

/-- The plan takes a mean of a part, found somewhere in outputs of the type. -/
inductive Averages : Plan → ValueType → ValueType → Prop where
  | leaf {reduction : Reduction} {part : ValueType} :
      reduction ≠ .sum →
      Averages (.leaf reduction) part part
  | field {fields : Record Plan} {label : Option String} {plan : Plan}
      {members : Record ValueType} {member part : ValueType} :
      (label, plan) ∈ fields.elements →
      members.find? (Record.listedName label) = some member →
      Averages plan member part →
      Averages (.record fields) (.record members) part

@[simp] theorem weighs_leaf_iff {name : String} {reduction : Reduction} :
    (Plan.leaf reduction).Weighs name ↔ reduction = .weightedMean name := by
  constructor
  · intro weighs
    cases weighs
    rfl
  · intro same
    subst same
    exact .leaf

@[simp] theorem weighs_record_iff {name : String} {fields : Record Plan} :
    (Plan.record fields).Weighs name ↔ ∃ field ∈ fields.elements, field.2.Weighs name := by
  constructor
  · intro weighs
    cases weighs with
    | field listed inner => exact ⟨_, listed, inner⟩
  · intro weighs
    obtain ⟨field, listed, inner⟩ := weighs
    exact .field listed inner

@[simp] theorem averages_leaf_iff {reduction : Reduction} {member part : ValueType} :
    (Plan.leaf reduction).Averages member part ↔ reduction ≠ .sum ∧ part = member := by
  constructor
  · intro averages
    cases averages with
    | leaf notSum => exact ⟨notSum, rfl⟩
  · intro averages
    obtain ⟨notSum, rfl⟩ := averages
    exact .leaf notSum

@[simp] theorem averages_record_iff {fields : Record Plan} {members : Record ValueType}
    {part : ValueType} :
    (Plan.record fields).Averages (.record members) part ↔
      ∃ field ∈ fields.elements, ∃ member,
        members.find? (Record.listedName field.1) = some member ∧
          field.2.Averages member part := by
  constructor
  · intro averages
    cases averages with
    | field listed found inner => exact ⟨_, listed, _, found, inner⟩
  · intro averages
    obtain ⟨field, listed, member, found, inner⟩ := averages
    exact .field listed found inner

theorem typeOf_of_aggregate_eq_ok {plan : Plan} {member type : ValueType}
    {parts participants : List Value} {result : Value}
    (typed : ∀ part ∈ parts, part.typeOf = member)
    (accepted : plan.resultType member = .ok type)
    (aggregated : plan.aggregate parts participants = .ok result) : result.typeOf = type := by
  induction plan using Plan.induct generalizing member type parts result with
  | leafCase reduction =>
      rw [Reduction.type_of_resultType_eq_ok accepted]
      exact Reduction.typeOf_of_reduce_eq_ok typed aggregated
  | recordCase fields induction =>
      obtain ⟨members, types, rfl, typesWalked, rfl⟩ := resultType_record_eq_ok_iff.mp accepted
      obtain ⟨results, resultsWalked, rfl⟩ := aggregate_record_eq_ok_iff.mp aggregated
      have resultTypes : results.map (fun result => (result.1, result.2.typeOf)) = types := by
        refine map_eq_of_mapM_eq_ok ?_ typesWalked resultsWalked
        intro field inside type result fieldAccepted fieldAggregated
        obtain ⟨typeName, member, found, memberAccepted⟩ :=
          fieldType_eq_ok_iff.mp fieldAccepted
        obtain ⟨resultName, children, read, childrenAggregated⟩ :=
          aggregateField_eq_ok_iff.mp fieldAggregated
        have sameType := induction field inside (typeOf_children typed found read)
          memberAccepted childrenAggregated
        exact Prod.ext (resultName.trans typeName.symm) sameType
      rw [Value.typeOf_named, resultTypes]

/-- Given its weights, a plan that accepts the type of the parts aggregates them
exactly when every part that it averages consists of floating point tensors. -/
theorem exists_aggregate_iff {plan : Plan} {member type : ValueType}
    {parts participants : List Value} (present : parts ≠ [])
    (typed : ∀ part ∈ parts, part.typeOf = member)
    (sameCount : parts.length = participants.length)
    (weighed : ∀ name, plan.Weighs name →
      ∀ participant ∈ participants, ∃ number, weightOf name participant = .ok number)
    (accepted : plan.resultType member = .ok type) :
    (∃ result, plan.aggregate parts participants = .ok result) ↔
      ∀ part, plan.Averages member part → part.IsFloating := by
  induction plan using Plan.induct generalizing member type parts with
  | leafCase reduction =>
      have weights : ∀ name, reduction = .weightedMean name →
          ∀ participant ∈ participants, ∃ number, weightOf name participant = .ok number := by
        intro name same
        exact weighed name (weighs_leaf_iff.mpr same)
      simp only [averages_leaf_iff, aggregate,
        Reduction.exists_reduce_iff present typed sameCount weights]
      constructor
      · intro floating part averages
        obtain ⟨notSum, rfl⟩ := averages
        exact floating notSum
      · intro floating notSum
        exact floating member ⟨notSum, rfl⟩
  | recordCase fields induction =>
      obtain ⟨members, types, rfl, typesWalked, rfl⟩ := resultType_record_eq_ok_iff.mp accepted
      have fieldIff : ∀ field ∈ fields.elements, ∃ member,
          members.find? (Record.listedName field.1) = some member ∧
          ((∃ result, aggregateField parts participants field = .ok result) ↔
            ∀ part, field.2.Averages member part → part.IsFloating) := by
        intro field inside
        obtain ⟨member, type, found, memberAccepted⟩ := exists_member_of_walked typesWalked inside
        obtain ⟨children, read⟩ := exists_children typed found
        have childCount := (mapM_eq_ok_iff.mp read).length_eq
        have childrenPresent := ne_nil_of_mapM_eq_ok read present
        refine ⟨member, found, ?_⟩
        rw [exists_aggregateField_iff read]
        apply induction field inside childrenPresent (typeOf_children typed found read)
          (childCount.symm.trans sameCount) _ memberAccepted
        intro name weighs
        exact weighed name (.field inside weighs)
      rw [exists_aggregate_record_iff]
      constructor
      · intro aggregated part averages
        obtain ⟨field, inside, member, found, inner⟩ := averages_record_iff.mp averages
        obtain ⟨other, alsoFound, otherIff⟩ := fieldIff field inside
        rw [found] at alsoFound
        cases alsoFound
        exact otherIff.mp (aggregated field inside) part inner
      · intro floating field inside
        obtain ⟨member, found, memberIff⟩ := fieldIff field inside
        apply memberIff.mpr
        intro part averages
        exact floating part (.field inside found averages)

end Plan

/-- What a placed type holds at each place; another type is left as it is. -/
def ValueType.unplaced : ValueType → ValueType
  | .placed member _ _ => member
  | type => type

namespace Computation

/-- A computation takes its outputs from the clients and yields, at the server,
what the evaluation yields: the same names, order, nesting and tensor types. -/
theorem typeOf_result_eq_signature (computation : Computation) (outputs : ValueType)
    (participants : List Value) (signature : Signature) (result : Value)
    (typed : ∀ participant ∈ participants, participant.typeOf = outputs)
    (accepted : computation.signature outputs = .ok signature)
    (aggregated : computation.aggregate participants = .ok result) :
    signature.parameter = .atClients outputs ∧
      ∃ fields : Record ValueType, signature.result = .record fields ∧
        (∀ field ∈ fields.elements, ∃ member, field.2 = .atServer member) ∧
        result.typeOf = .record (fields.map ValueType.unplaced) := by
  obtain ⟨types, typesAccepted, rfl⟩ := exists_types_of_signature_eq_ok accepted
  have present : participants ≠ [] := by
    intro absent
    subst absent
    cases aggregated
  rw [aggregate_eq_of_ne_nil present] at aggregated
  refine ⟨rfl, _, rfl, ?_, ?_⟩
  · intro field inside
    simp only [Record.named, List.map_map, List.mem_map, Function.comp_apply] at inside
    obtain ⟨type, _, rfl⟩ := inside
    exact ⟨type.2, rfl⟩
  · rw [Plan.typeOf_of_aggregate_eq_ok typed typesAccepted aggregated]
    simp [Record.named, Record.map, ValueType.atServer, ValueType.unplaced]

/-- A count beside a record in which a name repeats. -/
def report (count : Int64) (score : Float32) : Value :=
  .named [("count", .tensor (.int64 (.scalar count))),
    ("scores", .named [("score", .tensor (.float32 (.scalar score))),
      ("score", .tensor (.int32 (.scalar 0)))])]

/-- The type of such reports. -/
def reportType : ValueType :=
  .record (.named [("count", .tensor ⟨.int64, .scalar⟩),
    ("scores", .record (.named [("score", .tensor ⟨.float32, .scalar⟩),
      ("score", .tensor ⟨.int32, .scalar⟩)]))])

/-- Sums the counts and weights the first score by them. -/
def weightedScore : Computation :=
  ⟨.named [("count", .leaf .sum),
    ("scores", .record (.named [("score", .leaf (.weightedMean "count"))]))]⟩

theorem typeOf_report (count : Int64) (score : Float32) :
    (report count score).typeOf = reportType := rfl

theorem weightedScore_result_has_signature :
    (∀ participant ∈ [report 1 0.5, report 3 0.25], participant.typeOf = reportType) ∧
      ∃ signature result, weightedScore.signature reportType = .ok signature ∧
        weightedScore.aggregate [report 1 0.5, report 3 0.25] = .ok result ∧
        signature.parameter = .atClients reportType ∧
        ∃ fields : Record ValueType, signature.result = .record fields ∧
          (∀ field ∈ fields.elements, ∃ member, field.2 = .atServer member) ∧
          result.typeOf = .record (fields.map ValueType.unplaced) := by
  have typed : ∀ participant ∈ [report 1 0.5, report 3 0.25],
      participant.typeOf = reportType := by
    simp [typeOf_report]
  refine ⟨typed, _, _, rfl, rfl, ?_⟩
  exact typeOf_result_eq_signature weightedScore reportType _ _ _ typed rfl rfl

/-- Given its weights, an accepted computation yields a result exactly when every
part that it averages consists of floating point tensors. -/
theorem exists_result_iff_means_floating (computation : Computation) (outputs : ValueType)
    (participants : List Value) (signature : Signature) (present : participants ≠ [])
    (typed : ∀ participant ∈ participants, participant.typeOf = outputs)
    (weighed : ∀ name, (Plan.record computation.plan).Weighs name →
      ∃ weight, outputs.field? name = some (.tensor weight) ∧
        weight.shape.elementCount? = some 1)
    (accepted : computation.signature outputs = .ok signature) :
    (∃ result, computation.aggregate participants = .ok result) ↔
      ∀ part, (Plan.record computation.plan).Averages outputs part → part.IsFloating := by
  obtain ⟨types, typesAccepted, _⟩ := exists_types_of_signature_eq_ok accepted
  have weights : ∀ name, (Plan.record computation.plan).Weighs name →
      ∀ participant ∈ participants, ∃ number, weightOf name participant = .ok number := by
    intro name weighs participant inside
    obtain ⟨weight, found, single⟩ := weighed name weighs
    exact exists_weightOf (typed participant inside) found single
  rw [aggregate_eq_of_ne_nil present]
  exact Plan.exists_aggregate_iff present typed rfl weights typesAccepted

theorem weightedScore_has_result :
    [report 1 0.5] ≠ [] ∧
      (∀ participant ∈ [report 1 0.5], participant.typeOf = reportType) ∧
      (∀ name, (Plan.record weightedScore.plan).Weighs name →
        ∃ weight, reportType.field? name = some (.tensor weight) ∧
          weight.shape.elementCount? = some 1) ∧
      (∃ signature, weightedScore.signature reportType = .ok signature) ∧
      (∀ part, (Plan.record weightedScore.plan).Averages reportType part → part.IsFloating) ∧
      ∃ result, weightedScore.aggregate [report 1 0.5] = .ok result := by
  have typed : ∀ participant ∈ [report 1 0.5], participant.typeOf = reportType := by
    simp [typeOf_report]
  have weighed : ∀ name, (Plan.record weightedScore.plan).Weighs name →
      ∃ weight, reportType.field? name = some (.tensor weight) ∧
        weight.shape.elementCount? = some 1 := by
    intro name weighs
    simp [weightedScore, Record.named] at weighs
    subst weighs
    exact ⟨_, rfl, rfl⟩
  have floating : ∀ part, (Plan.record weightedScore.plan).Averages reportType part →
      part.IsFloating := by
    intro part averages
    simp [weightedScore, reportType, Record.named, Record.find?, Record.listedName] at averages
    subst averages
    simp [ValueType.IsFloating, ValueType.tensors, ElementType.isFloating]
  refine ⟨by simp, typed, weighed, ⟨_, rfl⟩, floating, ?_⟩
  exact (exists_result_iff_means_floating weightedScore reportType _ _ (by simp) typed weighed
    rfl).mpr floating

/-- Averages a record that holds a whole number beside a score. -/
def recordMean : Computation :=
  ⟨.named [("scores", .leaf .mean)]⟩

/-- The mean of a record with a whole number tensor inside is accepted by the
signature, yet it cannot be evaluated. -/
theorem recordMean_is_accepted_without_result :
    ¬∀ (computation : Computation) (outputs : ValueType) (participants : List Value)
      (signature : Signature), participants ≠ [] →
      (∀ participant ∈ participants, participant.typeOf = outputs) →
      (∀ name, (Plan.record computation.plan).Weighs name →
        ∃ weight, outputs.field? name = some (.tensor weight) ∧
          weight.shape.elementCount? = some 1) →
      computation.signature outputs = .ok signature →
      ∃ result, computation.aggregate participants = .ok result := by
  intro always
  have noWeights : ∀ name, ¬(Plan.record recordMean.plan).Weighs name := by
    simp [recordMean, Record.named]
  obtain ⟨result, aggregated⟩ := always recordMean reportType [report 1 0.5] _ (by simp)
    (by simp [typeOf_report]) (fun name weighs => absurd weighs (noWeights name)) rfl
  have failed : recordMean.aggregate [report 1 0.5] =
      .error (.tensor (.unsupported "scale" .int32)) := rfl
  rw [failed] at aggregated
  cases aggregated

end Computation

end FederatedLearning
