import FederatedLearning.Proofs.BatchSlots

/-!
# Types of batch specs

A type is taken for a spec when it is a record of two slots, unnamed ones in their order or
named ones in either order, and nothing in it is placed or lacks a leading dimension.  The
type of a spec that has been declared is taken for that very spec.  Conversely, the type
that a spec was taken from is the type of the spec again, except that named slots may have
changed places.
-/

namespace FederatedLearning

namespace BatchSpec

variable {spec : BatchSpec} {type : ValueType} {members : Record ValueType}

/-- The records of types that a spec describes: those of its slots, unnamed in their order
or under the two names in either order. -/
inductive Describes : BatchSpec → Record ValueType → Prop where
  | ordered (features labels : ValueType) :
      Describes ⟨.ordered, features, labels⟩ (.unnamed [features, labels])
  | named {features labels : ValueType} {members : Record ValueType} :
      members.NamesSlots features labels → Describes ⟨.named, features, labels⟩ members

/-- A record of types has the leading dimensions when both slots have them. -/
theorem Describes.batched_iff (describes : spec.Describes members) :
    (ValueType.record members).Batched ↔ spec.features.Batched ∧ spec.labels.Batched := by
  rw [ValueType.batched_record_iff]
  cases describes with
  | ordered features labels => simp [Record.unnamed]
  | named names =>
      rcases names.elements_eq with same | same
      · simp [same]
      · simp [same, and_comm]

theorem Describes.ofType_eq (describes : spec.Describes members) :
    ofType (.record members) = make spec.layout spec.features spec.labels := by
  cases describes with
  | ordered features labels => rfl
  | named names =>
      obtain ⟨elements⟩ := members
      rcases names.elements_eq with rfl | rfl
      · simp [ofType, Record.find?, featuresName, labelsName, BatchSpec.named]
      · simp [ofType, Record.find?, featuresName, labelsName, BatchSpec.named]

/-- A type that is taken for a spec is a record that the spec describes. -/
theorem exists_describes_of_ofType_eq_ok (taken : ofType type = .ok spec) :
    ∃ members, type = .record members ∧ spec.Describes members := by
  unfold ofType at taken
  split at taken
  · rename_i members
    refine ⟨members, rfl, ?_⟩
    split at taken
    · rename_i features labels same
      obtain ⟨_, _, rfl⟩ := make_eq_ok_iff.mp taken
      obtain ⟨elements⟩ := members
      cases same
      exact .ordered features labels
    · rename_i first second _ same
      split at taken
      · rename_i features labels featuresFound labelsFound
        obtain ⟨_, _, rfl⟩ := make_eq_ok_iff.mp taken
        have two : members.size = 2 := by simp [Record.size, same]
        exact .named (Record.namesSlots_of_mem two
          (Record.mem_of_find?_eq_some featuresFound) (Record.mem_of_find?_eq_some labelsFound))
      · cases taken
    · cases taken
  · cases taken

theorem ofType_eq_ok_iff :
    ofType type = .ok spec ↔
      ∃ members, type = .record members ∧ spec.Describes members ∧ type.Batched := by
  constructor
  · intro taken
    obtain ⟨members, rfl, describes⟩ := exists_describes_of_ofType_eq_ok taken
    rw [describes.ofType_eq] at taken
    obtain ⟨featuresBatched, labelsBatched, _⟩ := make_eq_ok_iff.mp taken
    exact ⟨members, rfl, describes, describes.batched_iff.mpr ⟨featuresBatched, labelsBatched⟩⟩
  · rintro ⟨members, rfl, describes, batched⟩
    obtain ⟨featuresBatched, labelsBatched⟩ := describes.batched_iff.mp batched
    rw [describes.ofType_eq]
    exact make_eq_ok_iff.mpr ⟨featuresBatched, labelsBatched, rfl⟩

/-- A record of types is described by a spec when its two elements are unnamed, or named as
the two slots. -/
theorem exists_describes_iff :
    (∃ spec : BatchSpec, spec.Describes members) ↔
      members.labels = [none, none] ∨
        members.labels = [some featuresName, some labelsName] ∨
          members.labels = [some labelsName, some featuresName] := by
  obtain ⟨elements⟩ := members
  constructor
  · rintro ⟨spec, describes⟩
    cases describes with
    | ordered features labels => exact .inl rfl
    | named names =>
        rcases names.elements_eq with rfl | rfl
        · exact .inr (.inl rfl)
        · exact .inr (.inr rfl)
  · intro labelled
    have two : elements.length = 2 := by
      have sameLength : elements.length = (Record.labels ⟨elements⟩).length := by
        simp [Record.labels]
      rcases labelled with same | same | same <;> simp [sameLength, same]
    obtain ⟨⟨label, first⟩, ⟨label', second⟩, rfl⟩ := List.length_eq_two.mp two
    rcases labelled with same | same | same
    · cases same
      exact ⟨_, .ordered first second⟩
    · cases same
      exact ⟨_, .named (.refl _)⟩
    · cases same
      exact ⟨_, .named (.swap _ _ [])⟩

theorem exists_describes_toType (spec : BatchSpec) :
    ∃ members, spec.toType = .record members ∧ spec.Describes members := by
  obtain ⟨layout, features, labels⟩ := spec
  cases layout with
  | ordered => exact ⟨_, rfl, .ordered features labels⟩
  | named => exact ⟨_, rfl, .named (.refl _)⟩

theorem Describes.toType_eq (describes : spec.Describes members) :
    spec.toType = .record members ∨ ∃ features labels,
      spec.toType = .record (.named [(featuresName, features), (labelsName, labels)]) ∧
        members = .named [(labelsName, labels), (featuresName, features)] := by
  obtain ⟨elements⟩ := members
  cases describes with
  | ordered features labels => exact .inl rfl
  | @named features labels _ names =>
      rcases names.elements_eq with rfl | rfl
      · exact .inl rfl
      · exact .inr ⟨features, labels, rfl, rfl⟩

theorem ofType_toType_of_declared (declared : spec.Declared) : ofType spec.toType = .ok spec := by
  obtain ⟨featuresChecked, labelsChecked⟩ := declared.checkBatched
  rw [ValueType.checkBatched_eq_ok_iff] at featuresChecked labelsChecked
  obtain ⟨members, same, describes⟩ := spec.exists_describes_toType
  rw [ofType_eq_ok_iff]
  refine ⟨members, same, describes, ?_⟩
  rw [same]
  exact describes.batched_iff.mpr ⟨featuresChecked, labelsChecked⟩

theorem exists_ofType_iff :
    (∃ spec, ofType type = .ok spec) ↔
      (∃ members, type = .record members ∧ ∃ spec : BatchSpec, spec.Describes members) ∧
        type.Batched := by
  simp only [ofType_eq_ok_iff]
  constructor
  · rintro ⟨spec, members, same, describes, batched⟩
    exact ⟨⟨members, same, spec, describes⟩, batched⟩
  · rintro ⟨⟨members, same, spec, describes⟩, batched⟩
    exact ⟨spec, members, same, describes, batched⟩

/-- A type is taken for a spec exactly when it is a record of two elements, unnamed or named
as the slots, without placed parts and with a leading dimension everywhere.  A declared spec
is read back from its own type, and a type is the one of the spec taken from it, up to the
order of the named slots. -/
theorem types_of_specs :
    (∀ type : ValueType,
      (∃ spec, ofType type = .ok spec) ↔
        (∃ members, type = .record members ∧
          (members.labels = [none, none] ∨
            members.labels = [some featuresName, some labelsName] ∨
              members.labels = [some labelsName, some featuresName])) ∧
          type.hasPlacement = false ∧ ∀ tensor ∈ type.tensors, 0 < tensor.shape.rank) ∧
      (∀ spec : BatchSpec, spec.Declared → ofType spec.toType = .ok spec) ∧
        ∀ (type : ValueType) (spec : BatchSpec), ofType type = .ok spec →
          spec.toType = type ∨ ∃ features labels,
            spec.toType = .record (.named [(featuresName, features), (labelsName, labels)]) ∧
              type = .record (.named [(labelsName, labels), (featuresName, features)]) := by
  refine ⟨?_, fun spec => ofType_toType_of_declared, ?_⟩
  · intro type
    simp only [exists_ofType_iff, exists_describes_iff]
    rfl
  · intro type spec taken
    obtain ⟨members, rfl, describes⟩ := exists_describes_of_ofType_eq_ok taken
    rcases describes.toType_eq with same | ⟨features, labels, same, turned⟩
    · exact .inl same
    · exact .inr ⟨features, labels, same, congrArg ValueType.record turned⟩

/-- The type of batches of nested pairs, with the slot of the labels in front. -/
def labelsFirstType : ValueType :=
  .record (.named [(labelsName, nestedPairs.labels), (featuresName, nestedPairs.features)])

theorem labelsFirstType_taken :
    nestedPairs.Declared ∧ ofType nestedPairs.toType = .ok nestedPairs ∧
      ofType labelsFirstType = .ok nestedPairs ∧ labelsFirstType.hasPlacement = false ∧
        ∃ features labels,
          nestedPairs.toType =
              .record (.named [(featuresName, features), (labelsName, labels)]) ∧
            labelsFirstType =
              .record (.named [(labelsName, labels), (featuresName, features)]) := by
  have declared : nestedPairs.Declared := .named nestedPairs.features nestedPairs.labels rfl
  have taken : ofType labelsFirstType = .ok nestedPairs := rfl
  obtain ⟨taken_iff, readBack, sameType⟩ := types_of_specs
  obtain ⟨_, unplaced, _⟩ := (taken_iff labelsFirstType).mp ⟨nestedPairs, taken⟩
  refine ⟨declared, readBack nestedPairs declared, taken, unplaced, ?_⟩
  exact (sameType labelsFirstType nestedPairs taken).resolve_left (by decide)

end BatchSpec

end FederatedLearning
