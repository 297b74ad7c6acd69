import FederatedLearning.Proofs.ParticipantOrder

/-!
# Parts that an evaluation overlooks

A signature matches a plan against the type of the outputs, while an evaluation looks up
the fields of the plan in the outputs.  A record of the plan that has no fields looks
nothing up, so that the evaluation overlooks a tensor in its place, which the signature
refuses.  In everything else an evaluation that yields a result has followed the plan.
-/

namespace FederatedLearning

namespace Plan

/-- An empty record of the plan stands where outputs of the type hold a tensor. -/
inductive Overlooks : Plan → ValueType → Prop where
  | empty {type : TensorType} : Overlooks (.record ∅) (.tensor type)
  | field {fields : Record Plan} {label : Option String} {plan : Plan}
      {members : Record ValueType} {member : ValueType} :
      (label, plan) ∈ fields.elements →
      members.find? (Record.listedName label) = some member →
      Overlooks plan member →
      Overlooks (.record fields) (.record members)

theorem not_overlooks_leaf {reduction : Reduction} {member : ValueType} :
    ¬(Plan.leaf reduction).Overlooks member := by
  intro overlooks
  cases overlooks

theorem overlooks_tensor_iff {fields : Record Plan} {type : TensorType} :
    (Plan.record fields).Overlooks (.tensor type) ↔ fields.elements = [] := by
  constructor
  · intro overlooks
    cases overlooks
    rfl
  · intro noFields
    obtain ⟨elements⟩ := fields
    cases noFields
    exact .empty

theorem overlooks_record_iff {fields : Record Plan} {members : Record ValueType} :
    (Plan.record fields).Overlooks (.record members) ↔
      ∃ field ∈ fields.elements, ∃ member,
        members.find? (Record.listedName field.1) = some member ∧
          field.2.Overlooks member := by
  constructor
  · intro overlooks
    cases overlooks with
    | field listed found inner => exact ⟨_, listed, _, found, inner⟩
  · rintro ⟨field, listed, member, found, inner⟩
    exact .field listed found inner

variable {plan : Plan} {fields : Record Plan} {member : ValueType}
  {parts participants : List Value} {result : Value}

/-- A reduction that yields a value is accepted by its signature. -/
theorem exists_resultType_of_reduce_eq_ok {reduction : Reduction} (present : parts ≠ [])
    (typed : ∀ part ∈ parts, part.typeOf = member)
    (sameCount : parts.length = participants.length)
    (reduced : reduction.reduce parts participants = .ok result) :
    ∃ type, reduction.resultType member = .ok type := by
  have weighed := Reduction.exists_weightOf_of_reduce_eq_ok reduced
  have floating :=
    (Reduction.exists_reduce_iff present typed sameCount weighed).mp ⟨result, reduced⟩
  exact ⟨member, Reduction.resultType_eq_ok_of_isFloating floating⟩

/-- A field that is evaluated is found in outputs of the type. -/
theorem exists_member_of_aggregateField {field : Option String × Plan} {yielded : String × Value}
    {members : Record ValueType} (present : parts ≠ [])
    (typed : ∀ part ∈ parts, part.typeOf = .record members)
    (aggregated : aggregateField parts participants field = .ok yielded) :
    ∃ member children, members.find? (Record.listedName field.1) = some member ∧
      parts.mapM (·.field (Record.listedName field.1)) = .ok children ∧
      field.2.aggregate children participants = .ok yielded.2 := by
  obtain ⟨_, children, read, childrenAggregated⟩ := aggregateField_eq_ok_iff.mp aggregated
  obtain ⟨part, inside⟩ := List.exists_mem_of_ne_nil parts present
  obtain ⟨child, _, childRead⟩ := exists_result_of_mem read inside
  have found := Value.field?_typeOf_eq_some_iff.mpr ⟨child, childRead, rfl⟩
  rw [typed part inside] at found
  exact ⟨child.typeOf, children, found, read, childrenAggregated⟩

/-- A tensor has no fields to be evaluated. -/
theorem elements_eq_nil_of_aggregate_tensor {type : TensorType} (present : parts ≠ [])
    (typed : ∀ part ∈ parts, part.typeOf = .tensor type)
    (aggregated : (Plan.record fields).aggregate parts participants = .ok result) :
    fields.elements = [] := by
  by_contra hasFields
  obtain ⟨field, listed⟩ := List.exists_mem_of_ne_nil fields.elements hasFields
  obtain ⟨part, inside⟩ := List.exists_mem_of_ne_nil parts present
  obtain ⟨yielded, fieldAggregated⟩ := exists_aggregate_record_iff.mp ⟨result, aggregated⟩ field listed
  obtain ⟨_, children, read, _⟩ := aggregateField_eq_ok_iff.mp fieldAggregated
  obtain ⟨child, _, childRead⟩ := exists_result_of_mem read inside
  obtain ⟨leaf, rfl⟩ := Value.exists_leaf_of_typeOf_eq (typed part inside)
  cases childRead

/-- Where every field is accepted exactly when it overlooks nothing, so is their record. -/
theorem exists_resultType_iff_of_fields {members : Record ValueType}
    (fieldIff : ∀ field ∈ fields.elements, ∃ member,
      members.find? (Record.listedName field.1) = some member ∧
        ((∃ type, field.2.resultType member = .ok type) ↔ ¬field.2.Overlooks member)) :
    (∃ type, (Plan.record fields).resultType (.record members) = .ok type) ↔
      ¬(Plan.record fields).Overlooks (.record members) := by
  rw [exists_resultType_record_iff, overlooks_record_iff]
  constructor
  · rintro accepts ⟨field, listed, member, found, inner⟩
    obtain ⟨_, alsoFound, accepted⟩ := accepts field listed
    obtain ⟨_, foundToo, memberIff⟩ := fieldIff field listed
    rw [found] at alsoFound foundToo
    cases alsoFound
    cases foundToo
    exact memberIff.mp accepted inner
  · intro nothing field listed
    obtain ⟨member, found, memberIff⟩ := fieldIff field listed
    refine ⟨member, found, memberIff.mpr ?_⟩
    exact fun inner => nothing ⟨field, listed, member, found, inner⟩

/-- An evaluation that yields a result was accepted by the signature exactly when it has
overlooked nothing. -/
theorem exists_resultType_iff_of_aggregate_eq_ok (present : parts ≠ [])
    (typed : ∀ part ∈ parts, part.typeOf = member)
    (sameCount : parts.length = participants.length)
    (aggregated : plan.aggregate parts participants = .ok result) :
    (∃ type, plan.resultType member = .ok type) ↔ ¬plan.Overlooks member := by
  induction plan using Plan.induct generalizing member parts result with
  | leafCase reduction =>
      apply iff_of_true _ not_overlooks_leaf
      exact exists_resultType_of_reduce_eq_ok present typed sameCount aggregated
  | recordCase fields induction =>
      obtain ⟨first, inside⟩ := List.exists_mem_of_ne_nil parts present
      cases first with
      | tensor leaf =>
          obtain rfl := typed _ inside
          have noFields := elements_eq_nil_of_aggregate_tensor present typed aggregated
          apply iff_of_false
          · rintro ⟨type, accepted⟩
            obtain ⟨_, _, isRecord, _⟩ := resultType_record_eq_ok_iff.mp accepted
            cases isRecord
          · exact not_not.mpr (overlooks_tensor_iff.mpr noFields)
      | record values =>
          obtain rfl := typed _ inside
          rw [Value.typeOf_record] at typed ⊢
          apply exists_resultType_iff_of_fields
          intro field listed
          obtain ⟨yielded, fieldAggregated⟩ :=
            exists_aggregate_record_iff.mp ⟨result, aggregated⟩ field listed
          obtain ⟨member, children, found, read, childrenAggregated⟩ :=
            exists_member_of_aggregateField present typed fieldAggregated
          have childCount := (mapM_eq_ok_iff.mp read).length_eq
          refine ⟨member, found, ?_⟩
          exact induction field listed (ne_nil_of_mapM_eq_ok read present)
            (typeOf_children typed found read) (childCount.symm.trans sameCount)
            childrenAggregated

end Plan

namespace Computation

/-- When participants with outputs of one type have a result, the type has a signature
exactly when no empty record of the plan stands in the place of a tensor. -/
theorem exists_signature_iff_nothing_overlooked (computation : Computation)
    (outputs : ValueType) (participants : List Value) (result : Value)
    (typed : ∀ participant ∈ participants, participant.typeOf = outputs)
    (aggregated : computation.aggregate participants = .ok result) :
    (∃ signature, computation.signature outputs = .ok signature) ↔
      ¬(Plan.record computation.plan).Overlooks outputs := by
  have present := ne_nil_of_aggregate_eq_ok aggregated
  rw [aggregate_eq_of_ne_nil present] at aggregated
  rw [exists_signature_iff]
  exact Plan.exists_resultType_iff_of_aggregate_eq_ok present typed rfl aggregated

theorem weightedScore_overlooks_nothing :
    (∀ participant ∈ [report 1 0.5, report 3 0.25], participant.typeOf = reportType) ∧
      ∃ result, weightedScore.aggregate [report 1 0.5, report 3 0.25] = .ok result ∧
        ¬(Plan.record weightedScore.plan).Overlooks reportType ∧
        ∃ signature, weightedScore.signature reportType = .ok signature := by
  have typed : ∀ participant ∈ [report 1 0.5, report 3 0.25],
      participant.typeOf = reportType := by
    simp [typeOf_report]
  have nothing : ¬(Plan.record weightedScore.plan).Overlooks reportType := by
    simp [weightedScore, reportType, Record.named, Record.find?, Record.listedName,
      Plan.overlooks_record_iff, Plan.not_overlooks_leaf]
  refine ⟨typed, _, rfl, nothing, ?_⟩
  exact (exists_signature_iff_nothing_overlooked weightedScore reportType _ _ typed rfl).mpr
    nothing

/-- Asks for nothing of what stands under its name. -/
def emptyScores : Computation :=
  ⟨.named [("scores", .record ∅)]⟩

def scoreType : ValueType :=
  .record (.named [("scores", .tensor ⟨.float32, .scalar⟩)])

def singleScore : Value :=
  .named [("scores", .tensor (.float32 (.scalar 1)))]

/-- A tensor in the place of an empty record of the plan is aggregated to an empty record,
although the type of such outputs has no signature. -/
theorem emptyScores_overlooks_tensor :
    ¬∀ (computation : Computation) (outputs : ValueType) (participants : List Value)
      (result : Value), participants ≠ [] →
      (∀ participant ∈ participants, participant.typeOf = outputs) →
      computation.aggregate participants = .ok result →
      ∃ signature, computation.signature outputs = .ok signature := by
  intro always
  obtain ⟨signature, accepted⟩ := always emptyScores scoreType [singleScore]
    (.named [("scores", .record ∅)]) (by simp) (by simp only [List.forall_mem_singleton]; rfl) rfl
  have refused : emptyScores.signature scoreType =
      .error (.typeMismatch "local outputs" "a structure") := rfl
  rw [refused] at accepted
  cases accepted

end Computation

end FederatedLearning
