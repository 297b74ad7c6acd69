import FederatedLearning.Aggregation.Signature
import FederatedLearning.Proofs.Reductions

/-!
# Walking plans

Signatures and evaluations walk the records of a plan in the same way: each field
looks up its name, in the type or in all parts, and goes on below it.  The
lemmas here say what one field contributes and how the fields are put together,
so that a statement about plans needs one case for a reduction and one for a
field.
-/

namespace FederatedLearning

theorem Value.typeOf_named (entries : List (String × Value)) :
    (Value.named entries).typeOf =
      .record (.named (entries.map fun entry => (entry.1, entry.2.typeOf))) := by
  simp [Value.named, Value.typeOf_record, Record.named, Record.map]

namespace Plan

mutual

/-- Induction over plans, with the hypothesis for every field of a record. -/
theorem induct {motive : Plan → Prop}
    (leafCase : ∀ reduction, motive (.leaf reduction))
    (recordCase : ∀ fields : Record Plan,
      (∀ element ∈ fields.elements, motive element.2) → motive (.record fields)) :
    ∀ plan, motive plan
  | .leaf reduction => leafCase reduction
  | .record ⟨fields⟩ => recordCase ⟨fields⟩ (inductFields leafCase recordCase fields)

private theorem inductFields {motive : Plan → Prop}
    (leafCase : ∀ reduction, motive (.leaf reduction))
    (recordCase : ∀ fields : Record Plan,
      (∀ element ∈ fields.elements, motive element.2) → motive (.record fields)) :
    ∀ fields : List (Option String × Plan), ∀ element ∈ fields, motive element.2
  | [] => by simp
  | (label, plan) :: rest => by
      intro element member
      rcases List.mem_cons.mp member with same | later
      · exact same ▸ induct leafCase recordCase plan
      · exact inductFields leafCase recordCase rest element later

end

/-- The type that a field of a plan yields under its name. -/
def fieldType (members : Record ValueType) (field : Option String × Plan) :
    Except LearningError (String × ValueType) := do
  let name := Record.listedName field.1
  let member ← memberOf members name
  return (name, ← field.2.resultType member)

/-- What a field of a plan yields under its name. -/
def aggregateField (parts participants : List Value) (field : Option String × Plan) :
    Except LearningError (String × Value) := do
  let name := Record.listedName field.1
  let children ← LearningError.ofTensor (parts.mapM (·.field name))
  return (name, ← field.2.aggregate children participants)

theorem fieldTypes_eq_mapM (fields : List (Option String × Plan)) (members : Record ValueType) :
    fieldTypes fields members = fields.mapM (fieldType members) := by
  induction fields with
  | nil => rfl
  | cons field fields induction =>
      rw [List.mapM_cons, ← induction]
      simp [fieldTypes, fieldType]

theorem aggregateFields_eq_mapM (fields : List (Option String × Plan))
    (parts participants : List Value) :
    aggregateFields fields parts participants =
      fields.mapM (aggregateField parts participants) := by
  induction fields with
  | nil => rfl
  | cons field fields induction =>
      rw [List.mapM_cons, ← induction]
      simp [aggregateFields, aggregateField]

section

variable {members : Record ValueType} {field : Option String × Plan}
  {parts participants children : List Value}

theorem fieldType_eq_ok_iff {type : String × ValueType} :
    fieldType members field = .ok type ↔
      type.1 = Record.listedName field.1 ∧
        ∃ member, members.find? (Record.listedName field.1) = some member ∧
          field.2.resultType member = .ok type.2 := by
  obtain ⟨name, type⟩ := type
  simp only [fieldType, exceptBind_eq_ok_iff, exceptPure_eq_ok_iff, Prod.mk.injEq, memberOf]
  cases members.find? (Record.listedName field.1) with
  | none => simp
  | some member => simp [eq_comm, and_comm]

theorem aggregateField_eq_ok_iff {result : String × Value} :
    aggregateField parts participants field = .ok result ↔
      result.1 = Record.listedName field.1 ∧
        ∃ children, parts.mapM (·.field (Record.listedName field.1)) = .ok children ∧
          field.2.aggregate children participants = .ok result.2 := by
  obtain ⟨name, result⟩ := result
  simp only [aggregateField, exceptBind_eq_ok_iff, exceptPure_eq_ok_iff, ofTensor_eq_ok_iff,
    Prod.mk.injEq]
  constructor
  · intro yielded
    obtain ⟨children, read, _, aggregated, rfl, rfl⟩ := yielded
    exact ⟨rfl, children, read, aggregated⟩
  · intro yielded
    obtain ⟨rfl, children, read, aggregated⟩ := yielded
    exact ⟨children, read, result, aggregated, rfl, rfl⟩

theorem exists_aggregateField_iff
    (read : parts.mapM (·.field (Record.listedName field.1)) = .ok children) :
    (∃ result, aggregateField parts participants field = .ok result) ↔
      ∃ result, field.2.aggregate children participants = .ok result := by
  constructor
  · intro yields
    obtain ⟨result, yielded⟩ := yields
    obtain ⟨_, others, alsoRead, aggregated⟩ := aggregateField_eq_ok_iff.mp yielded
    rw [read] at alsoRead
    cases alsoRead
    exact ⟨result.2, aggregated⟩
  · intro aggregates
    obtain ⟨result, aggregated⟩ := aggregates
    refine ⟨(Record.listedName field.1, result), ?_⟩
    exact aggregateField_eq_ok_iff.mpr ⟨rfl, children, read, aggregated⟩

end

section

variable {members : Record ValueType} {name : String} {member : ValueType}
  {parts children : List Value}

theorem exists_field_of_typed {part : Value} (typed : part.typeOf = .record members)
    (found : members.find? name = some member) :
    ∃ child, part.field name = .ok child ∧ child.typeOf = member := by
  apply Value.field?_typeOf_eq_some_iff.mp
  rw [typed]
  exact found

theorem exists_children (typed : ∀ part ∈ parts, part.typeOf = .record members)
    (found : members.find? name = some member) :
    ∃ children, parts.mapM (·.field name) = .ok children := by
  apply exists_mapM_eq_ok_iff.mpr
  intro part inside
  obtain ⟨child, read, _⟩ := exists_field_of_typed (typed part inside) found
  exact ⟨child, read⟩

theorem typeOf_children (typed : ∀ part ∈ parts, part.typeOf = .record members)
    (found : members.find? name = some member)
    (read : parts.mapM (·.field name) = .ok children) :
    ∀ child ∈ children, child.typeOf = member := by
  intro child inside
  obtain ⟨part, partInside, partRead⟩ := exists_of_mem_of_mapM_eq_ok read inside
  obtain ⟨other, otherRead, otherType⟩ := exists_field_of_typed (typed part partInside) found
  rw [partRead] at otherRead
  cases otherRead
  exact otherType

end

theorem resultType_record_eq_ok_iff {fields : Record Plan} {member type : ValueType} :
    (Plan.record fields).resultType member = .ok type ↔
      ∃ members types, member = .record members ∧
        fields.elements.mapM (fieldType members) = .ok types ∧
        .record (.named types) = type := by
  obtain ⟨fields⟩ := fields
  cases member with
  | tensor type => simp [resultType, throw, throwThe, MonadExceptOf.throw]
  | placed member placement allEqual =>
      simp [resultType, throw, throwThe, MonadExceptOf.throw]
  | record members =>
      simp only [resultType, fieldTypes_eq_mapM, exceptBind_eq_ok_iff, exceptPure_eq_ok_iff,
        ValueType.record.injEq]
      constructor
      · intro accepted
        obtain ⟨types, walked, placed⟩ := accepted
        exact ⟨members, types, rfl, walked, placed⟩
      · intro accepted
        obtain ⟨_, types, rfl, walked, placed⟩ := accepted
        exact ⟨types, walked, placed⟩

/-- A field of an accepted plan stands for a member of the type and accepts it. -/
theorem exists_member_of_walked {fields : Record Plan} {members : Record ValueType}
    {types : List (String × ValueType)}
    (walked : fields.elements.mapM (fieldType members) = .ok types)
    {field : Option String × Plan} (inside : field ∈ fields.elements) :
    ∃ member type, members.find? (Record.listedName field.1) = some member ∧
      field.2.resultType member = .ok type := by
  obtain ⟨type, yielded⟩ := exists_mapM_eq_ok_iff.mp ⟨types, walked⟩ field inside
  obtain ⟨_, member, found, accepted⟩ := fieldType_eq_ok_iff.mp yielded
  exact ⟨member, type.2, found, accepted⟩

theorem exists_resultType_record_iff {fields : Record Plan} {members : Record ValueType} :
    (∃ type, (Plan.record fields).resultType (.record members) = .ok type) ↔
      ∀ field ∈ fields.elements, ∃ member,
        members.find? (Record.listedName field.1) = some member ∧
          ∃ type, field.2.resultType member = .ok type := by
  constructor
  · rintro ⟨type, accepted⟩ field inside
    obtain ⟨_, types, same, walked, _⟩ := resultType_record_eq_ok_iff.mp accepted
    cases same
    obtain ⟨member, type, found, memberAccepted⟩ := exists_member_of_walked walked inside
    exact ⟨member, found, type, memberAccepted⟩
  · intro accepts
    have walks : ∃ types, fields.elements.mapM (fieldType members) = .ok types := by
      apply exists_mapM_eq_ok_iff.mpr
      intro field inside
      obtain ⟨member, found, type, accepted⟩ := accepts field inside
      refine ⟨(Record.listedName field.1, type), ?_⟩
      exact fieldType_eq_ok_iff.mpr ⟨rfl, member, found, accepted⟩
    obtain ⟨types, walked⟩ := walks
    exact ⟨_, resultType_record_eq_ok_iff.mpr ⟨members, types, rfl, walked, rfl⟩⟩

theorem aggregate_record_eq_ok_iff {fields : Record Plan} {parts participants : List Value}
    {result : Value} :
    (Plan.record fields).aggregate parts participants = .ok result ↔
      ∃ results, fields.elements.mapM (aggregateField parts participants) = .ok results ∧
        .named results = result := by
  obtain ⟨fields⟩ := fields
  simp only [aggregate, aggregateFields_eq_mapM, exceptBind_eq_ok_iff, exceptPure_eq_ok_iff]

theorem exists_aggregate_record_iff {fields : Record Plan} {parts participants : List Value} :
    (∃ result, (Plan.record fields).aggregate parts participants = .ok result) ↔
      ∀ field ∈ fields.elements,
        ∃ result, aggregateField parts participants field = .ok result := by
  rw [← exists_mapM_eq_ok_iff]
  simp only [aggregate_record_eq_ok_iff]
  constructor
  · intro aggregates
    obtain ⟨_, results, walked, _⟩ := aggregates
    exact ⟨results, walked⟩
  · intro walks
    obtain ⟨results, walked⟩ := walks
    exact ⟨_, results, walked, rfl⟩

end Plan

namespace Computation

theorem exists_types_of_signature_eq_ok {computation : Computation} {outputs : ValueType}
    {signature : Signature} (accepted : computation.signature outputs = .ok signature) :
    ∃ types, (Plan.record computation.plan).resultType outputs = .ok (.record (.named types)) ∧
      signature = ⟨.atClients outputs,
        .record (.named (types.map fun type => (type.1, .atServer type.2)))⟩ := by
  cases outputs with
  | tensor type => cases accepted
  | placed member placement allEqual => cases accepted
  | record members =>
      rw [Computation.signature] at accepted
      obtain ⟨types, walked, placed⟩ := exceptBind_eq_ok_iff.mp accepted
      rw [Plan.fieldTypes_eq_mapM] at walked
      refine ⟨types, ?_, (exceptPure_eq_ok_iff.mp placed).symm⟩
      exact Plan.resultType_record_eq_ok_iff.mpr ⟨members, types, rfl, walked, rfl⟩

/-- A signature exists exactly where the plan accepts the outputs. -/
theorem exists_signature_iff {computation : Computation} {outputs : ValueType} :
    (∃ signature, computation.signature outputs = .ok signature) ↔
      ∃ type, (Plan.record computation.plan).resultType outputs = .ok type := by
  constructor
  · rintro ⟨signature, accepted⟩
    obtain ⟨types, typesAccepted, _⟩ := exists_types_of_signature_eq_ok accepted
    exact ⟨_, typesAccepted⟩
  · rintro ⟨type, accepted⟩
    obtain ⟨members, types, rfl, walked, _⟩ := Plan.resultType_record_eq_ok_iff.mp accepted
    rw [← Plan.fieldTypes_eq_mapM] at walked
    exact ⟨_, exceptBind_eq_ok_iff.mpr ⟨types, walked, rfl⟩⟩

theorem aggregate_eq_of_ne_nil {computation : Computation} {participants : List Value}
    (present : participants ≠ []) :
    computation.aggregate participants =
      (Plan.record computation.plan).aggregate participants participants := by
  obtain ⟨⟨fields⟩⟩ := computation
  simp [aggregate, Plan.aggregate, present]

end Computation

end FederatedLearning
