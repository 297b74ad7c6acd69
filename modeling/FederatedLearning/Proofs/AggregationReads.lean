import FederatedLearning.Proofs.AggregationSignature

/-!
# What an aggregation reads

An evaluation looks at nothing but the parts that its plan reduces, the fields on the way
to them, and the weights at the top of the participants.  Participants that agree on these
cannot be told apart by what the evaluation yields, nor by the error with which it fails.
-/

namespace FederatedLearning

namespace Plan

mutual

/-- Two values agree on what the plan reads of them. -/
inductive Agree : Plan → Value → Value → Prop where
  | leaf {reduction : Reduction} {value : Value} :
      Agree (.leaf reduction) value value
  | record {fields : Record Plan} {first second : Value} :
      (∀ field ∈ fields.elements,
        AgreeAt (Record.listedName field.1) field.2 first second) →
      Agree (.record fields) first second

/-- Two values lack the name in the same way, or agree on what the plan reads below it. -/
inductive AgreeAt : String → Plan → Value → Value → Prop where
  | missing {name : String} {plan : Plan} {first second : Value} {error : TensorError} :
      first.field name = .error error →
      second.field name = .error error →
      AgreeAt name plan first second
  | found {name : String} {plan : Plan} {first second child other : Value} :
      first.field name = .ok child →
      second.field name = .ok other →
      Agree plan child other →
      AgreeAt name plan first second

end

@[simp] theorem agree_leaf_iff {reduction : Reduction} {first second : Value} :
    (Plan.leaf reduction).Agree first second ↔ first = second := by
  constructor
  · intro agree
    cases agree
    rfl
  · intro same
    subst same
    exact .leaf

@[simp] theorem agree_record_iff {fields : Record Plan} {first second : Value} :
    (Plan.record fields).Agree first second ↔
      ∀ field ∈ fields.elements,
        AgreeAt (Record.listedName field.1) field.2 first second := by
  constructor
  · intro agree
    cases agree with
    | record agreeAt => exact agreeAt
  · exact .record

theorem Agree.refl (plan : Plan) (value : Value) : plan.Agree value value := by
  induction plan using Plan.induct generalizing value with
  | leafCase reduction => exact .leaf
  | recordCase fields induction =>
      apply Agree.record
      intro field inside
      cases read : value.field (Record.listedName field.1) with
      | error error => exact .missing read read
      | ok child => exact .found read read (induction field inside child)

section

variable {plan : Plan} {name : String} {parts otherParts participants others : List Value}

/-- Either both lists lack the name at the same place, or their children agree. -/
theorem exists_children_of_agreeAt (agree : List.Forall₂ (AgreeAt name plan) parts otherParts) :
    (∃ error, parts.mapM (·.field name) = .error error ∧
        otherParts.mapM (·.field name) = .error error) ∨
      ∃ children otherChildren, parts.mapM (·.field name) = .ok children ∧
        otherParts.mapM (·.field name) = .ok otherChildren ∧
        List.Forall₂ plan.Agree children otherChildren := by
  induction agree with
  | nil => exact .inr ⟨[], [], rfl, rfl, .nil⟩
  | cons here _ induction =>
      simp only [List.mapM_cons]
      cases here with
      | missing read otherRead =>
          rw [read, otherRead]
          exact .inl ⟨_, rfl, rfl⟩
      | found read otherRead agreeChild =>
          rw [read, otherRead]
          rcases induction with missing | found
          · obtain ⟨error, walked, otherWalked⟩ := missing
            rw [walked, otherWalked]
            exact .inl ⟨error, rfl, rfl⟩
          · obtain ⟨children, otherChildren, walked, otherWalked, agreeRest⟩ := found
            rw [walked, otherWalked]
            exact .inr ⟨_, _, rfl, rfl, .cons agreeChild agreeRest⟩

theorem reduce_eq_of_weights_eq {reduction : Reduction}
    (weights : ∀ name, reduction = .weightedMean name →
      participants.mapM (weightOf name) = others.mapM (weightOf name)) :
    reduction.reduce parts participants = reduction.reduce parts others := by
  cases reduction with
  | sum => rfl
  | mean => rfl
  | weightedMean name =>
      rw [Reduction.reduce_weightedMean, Reduction.reduce_weightedMean, weights name rfl]

theorem aggregateField_eq_of_agreeAt {field : Option String × Plan}
    (agree : List.Forall₂ (AgreeAt (Record.listedName field.1) field.2) parts otherParts)
    (below : ∀ children otherChildren, List.Forall₂ field.2.Agree children otherChildren →
      field.2.aggregate children participants = field.2.aggregate otherChildren others) :
    aggregateField parts participants field = aggregateField otherParts others field := by
  simp only [aggregateField]
  rcases exists_children_of_agreeAt agree with missing | found
  · obtain ⟨error, read, otherRead⟩ := missing
    rw [read, otherRead]
    rfl
  · obtain ⟨children, otherChildren, read, otherRead, agreeChildren⟩ := found
    rw [read, otherRead]
    simp only [LearningError.ofTensor, Except.mapError, bind, Except.bind,
      below children otherChildren agreeChildren]

/-- An evaluation is determined by what its plan reads of the parts, and by the weights. -/
theorem aggregate_eq_of_agree (agree : List.Forall₂ plan.Agree parts otherParts)
    (weights : ∀ name, plan.Weighs name →
      participants.mapM (weightOf name) = others.mapM (weightOf name)) :
    plan.aggregate parts participants = plan.aggregate otherParts others := by
  induction plan using Plan.induct generalizing parts otherParts with
  | leafCase reduction =>
      have sameParts : parts = otherParts := by
        rw [← List.forall₂_eq_eq_eq]
        exact agree.imp fun _ _ => agree_leaf_iff.mp
      subst sameParts
      apply reduce_eq_of_weights_eq
      intro name same
      exact weights name (weighs_leaf_iff.mpr same)
  | recordCase fields induction =>
      have fieldSame : ∀ field ∈ fields.elements,
          aggregateField parts participants field = aggregateField otherParts others field := by
        intro field inside
        apply aggregateField_eq_of_agreeAt
        · exact agree.imp fun _ _ both => agree_record_iff.mp both field inside
        · intro children otherChildren agreeChildren
          apply induction field inside agreeChildren
          intro name weighs
          exact weights name (.field inside weighs)
      obtain ⟨fields⟩ := fields
      simp only [aggregate, aggregateFields_eq_mapM, mapM_congr fieldSame]

end

end Plan

theorem weightOf_eq_of_field_eq {name : String} {first second : Value}
    (same : first.field name = second.field name) : weightOf name first = weightOf name second := by
  rw [weightOf_eq, weightOf_eq, same]

theorem mapM_weightOf_eq {name : String} {firsts seconds : List Value}
    (same : List.Forall₂ (fun first second => first.field name = second.field name)
      firsts seconds) :
    firsts.mapM (weightOf name) = seconds.mapM (weightOf name) := by
  induction same with
  | nil => rfl
  | cons here _ induction =>
      rw [List.mapM_cons, List.mapM_cons, weightOf_eq_of_field_eq here, induction]

namespace Computation

/-- Participants that agree on what the plan reads, and whose weights are found in the
same way, are aggregated with the same outcome, be it a value or an error. -/
theorem aggregate_reads_only_plan (computation : Computation) (firsts seconds : List Value)
    (agree : List.Forall₂ (fun first second =>
      (Plan.record computation.plan).Agree first second ∧
        ∀ name, (Plan.record computation.plan).Weighs name →
          first.field name = second.field name) firsts seconds) :
    computation.aggregate firsts = computation.aggregate seconds := by
  by_cases absent : firsts = []
  · subst absent
    cases agree
    rfl
  · have otherPresent : seconds ≠ [] := by
      apply List.ne_nil_of_length_pos
      rw [← agree.length_eq]
      exact List.length_pos_iff.mpr absent
    rw [aggregate_eq_of_ne_nil absent, aggregate_eq_of_ne_nil otherPresent]
    apply Plan.aggregate_eq_of_agree
    · exact agree.imp fun _ _ both => both.1
    · intro name weighs
      apply mapM_weightOf_eq
      exact agree.imp fun _ _ both => both.2 name weighs

/-- A report in which other numbers stand where `weightedScore` does not look. -/
def renumbered (count : Int64) (score : Float32) : Value :=
  .named [("scores", .named [("score", .tensor (.float32 (.scalar score))),
      ("score", .tensor (.int32 (.scalar 7)))]),
    ("count", .tensor (.int64 (.scalar count))), ("client", .tensor (.int32 (.scalar 12)))]

theorem weightedScore_reads_only_plan :
    List.Forall₂ (fun first second =>
        (Plan.record weightedScore.plan).Agree first second ∧
          ∀ name, (Plan.record weightedScore.plan).Weighs name →
            first.field name = second.field name)
      [report 1 0.5, report 3 0.25] [renumbered 1 0.5, renumbered 3 0.25] ∧
      weightedScore.aggregate [report 1 0.5, report 3 0.25] =
        weightedScore.aggregate [renumbered 1 0.5, renumbered 3 0.25] := by
  have agree : ∀ count score,
      (Plan.record weightedScore.plan).Agree (report count score) (renumbered count score) := by
    intro count score
    simp only [weightedScore, Record.named, Plan.agree_record_iff, List.map_cons, List.map_nil,
      List.forall_mem_cons]
    refine ⟨.found rfl rfl .leaf, .found rfl rfl ?_, by simp⟩
    simp only [Plan.agree_record_iff, List.forall_mem_cons]
    exact ⟨.found rfl rfl .leaf, by simp⟩
  have weights : ∀ count score name, (Plan.record weightedScore.plan).Weighs name →
      (report count score).field name = (renumbered count score).field name := by
    intro count score name weighs
    simp [weightedScore, Record.named] at weighs
    subst weighs
    rfl
  have alike : List.Forall₂ (fun first second =>
        (Plan.record weightedScore.plan).Agree first second ∧
          ∀ name, (Plan.record weightedScore.plan).Weighs name →
            first.field name = second.field name)
      [report 1 0.5, report 3 0.25] [renumbered 1 0.5, renumbered 3 0.25] :=
    .cons ⟨agree 1 0.5, weights 1 0.5⟩ (.cons ⟨agree 3 0.25, weights 3 0.25⟩ .nil)
  exact ⟨alike, aggregate_reads_only_plan weightedScore _ _ alike⟩

end Computation

end FederatedLearning
