import FederatedLearning.Proofs.AggregationSignature
import FederatedLearning.Proofs.WeightAssignment

/-!
# Federated averaging

Participants report their weights as values, the values are aggregated, and the
result is read as weights again.  Weights that are written as a value and read back
are what they were, and each step in between keeps to types: a value has the type of
the weights that it was made of, a part that is reduced as a whole keeps its type, and
a result that has the types of weights under both names can be read.  So averaged
weights can be assigned to every model that has weights of their type.
-/

namespace FederatedLearning

namespace Computation

/-- Every entry names a part that is there, to be summed, or to be averaged if its
tensors are floating point. -/
def Reducible (reductions : List (String × Reduction)) (members : Record ValueType) : Prop :=
  ∀ entry ∈ reductions, ∃ part, members.find? entry.1 = some part ∧
    (entry.2 = .sum ∨ entry.2 = .mean ∧ part.IsFloating)

/-- The member under a name, or no members if there is none. -/
def partOf (members : Record ValueType) (name : String) : ValueType :=
  (members.find? name).getD (.record ∅)

variable {reductions : List (String × Reduction)} {members : Record ValueType}

theorem weighs_ofReductions_iff {name : String} :
    (Plan.record (ofReductions reductions).plan).Weighs name ↔
      ∃ entry ∈ reductions, entry.2 = .weightedMean name := by
  simp [ofReductions, Record.named]

theorem averages_ofReductions_iff {averaged : ValueType} :
    (Plan.record (ofReductions reductions).plan).Averages (.record members) averaged ↔
      ∃ entry ∈ reductions, entry.2 ≠ .sum ∧ members.find? entry.1 = some averaged := by
  simp [ofReductions, Record.named, Record.listedName, and_comm]

/-- Every entry names a part that is there, of floating point tensors unless it is
summed, and every weight is a single number at the top of the outputs. -/
structure Supports (reductions : List (String × Reduction)) (members : Record ValueType) :
    Prop where
  parts : ∀ entry ∈ reductions, ∃ part, members.find? entry.1 = some part ∧
    (entry.2 ≠ .sum → part.IsFloating)
  weights : ∀ entry ∈ reductions, ∀ name, entry.2 = .weightedMean name →
    ∃ weight, members.find? name = some (.tensor weight) ∧ weight.shape.elementCount? = some 1

theorem Supports.find?_eq (supports : Supports reductions members)
    {entry : String × Reduction} (inside : entry ∈ reductions) :
    members.find? entry.1 = some (partOf members entry.1) := by
  obtain ⟨part, found, _⟩ := supports.parts entry inside
  simp [partOf, found]

theorem Supports.isFloating_of_averages {averaged : ValueType}
    (supports : Supports reductions members)
    (averages : (Plan.record (ofReductions reductions).plan).Averages (.record members) averaged) :
    averaged.IsFloating := by
  obtain ⟨entry, inside, notSum, found⟩ := averages_ofReductions_iff.mp averages
  obtain ⟨part, foundPart, floating⟩ := supports.parts entry inside
  rw [found] at foundPart
  cases foundPart
  exact floating notSum

theorem Supports.exists_weightOf {participant : Value} {name : String}
    (supports : Supports reductions members) (typed : participant.typeOf = .record members)
    (weighs : (Plan.record (ofReductions reductions).plan).Weighs name) :
    ∃ number, weightOf name participant = .ok number := by
  obtain ⟨entry, inside, weighted⟩ := weighs_ofReductions_iff.mp weighs
  obtain ⟨weight, found, single⟩ := supports.weights entry inside name weighted
  exact FederatedLearning.exists_weightOf typed found single

/-- The reduction of an entry accepts its part, which keeps its type. -/
theorem Supports.resultType_eq (supports : Supports reductions members) :
    (Plan.record (ofReductions reductions).plan).resultType (.record members) =
      .ok (.record (.named (reductions.map fun entry => (entry.1, partOf members entry.1)))) := by
  refine Plan.resultType_record_eq_ok_iff.mpr ⟨members, _, rfl, ?_, rfl⟩
  apply mapM_eq_ok_iff.mpr
  simp only [ofReductions, Record.named, List.map_map, List.forall₂_map_left_iff,
    List.forall₂_map_right_iff, List.forall₂_same]
  intro entry inside
  have found := supports.find?_eq inside
  apply Plan.fieldType_eq_ok_iff.mpr
  refine ⟨rfl, partOf members entry.1, found, ?_⟩
  apply Reduction.resultType_eq_ok_of_isFloating
  intro notSum
  exact supports.isFloating_of_averages
    (averages_ofReductions_iff.mpr ⟨entry, inside, notSum, found⟩)

/-- Outputs that are supported are reduced to parts of the same types. -/
theorem Supports.exists_result (supports : Supports reductions members)
    {participants : List Value} (present : participants ≠ [])
    (typed : ∀ participant ∈ participants, participant.typeOf = .record members) :
    ∃ result, (ofReductions reductions).aggregate participants = .ok result ∧
      ∀ name ∈ reductions.map Prod.fst, result.typeOf.field? name = members.find? name := by
  have accepted := supports.resultType_eq
  obtain ⟨result, aggregated⟩ := (Plan.exists_aggregate_iff present typed rfl
    (fun name weighs participant inside =>
      supports.exists_weightOf (typed participant inside) weighs) accepted).mpr
      fun _ averages => supports.isFloating_of_averages averages
  refine ⟨result, ?_, ?_⟩
  · rwa [aggregate_eq_of_ne_nil present]
  · intro name listed
    obtain ⟨entry, inside, rfl⟩ := List.mem_map.mp listed
    rw [Plan.typeOf_of_aggregate_eq_ok typed accepted aggregated, supports.find?_eq inside]
    exact Record.find?_named_map listed

theorem Reducible.supports (reducible : Reducible reductions members) :
    Supports reductions members where
  parts entry inside := by
    obtain ⟨part, found, sum | ⟨_, floating⟩⟩ := reducible entry inside
    · exact ⟨part, found, fun notSum => absurd sum notSum⟩
    · exact ⟨part, found, fun _ => floating⟩
  weights entry inside name weighted := by
    obtain ⟨_, _, sum | ⟨mean, _⟩⟩ := reducible entry inside
    · simp [sum] at weighted
    · simp [mean] at weighted

end Computation

namespace Weights

section

variable {α : Type} [WeightSource α] {store : Store}

theorem typeOf_valuesOf (items : List α) :
    (valuesOf store items).typeOf = typesOf store items := by
  rw [valuesOf, Value.typeOf_unnamed, List.map_map]
  rfl

theorem exists_part_of_type (weights : Weights α) (store : Store) {name : String}
    (listed : name ∈ [trainableName, nonTrainableName]) :
    ∃ part, (weights.type store).field? name = some part := by
  simp only [List.mem_cons, List.not_mem_nil, or_false] at listed
  rcases listed with rfl | rfl
  · exact ⟨typesOf store weights.trainable, rfl⟩
  · exact ⟨typesOf store weights.nonTrainable, rfl⟩

theorem typeOf_toValue (weights : Weights α) :
    (weights.toValue store).typeOf = weights.type store := by
  simp only [toValue, Value.typeOf_named, List.map_cons, List.map_nil, typeOf_valuesOf]
  rfl

end

section

variable {store : Store} {members : Record Value} {name : String} {leaves : List Tensor}

theorem tensorsOf_eq_ok_of_find?
    (found : members.find? name = some (.unnamed (leaves.map .tensor))) :
    tensorsOf members name = .ok leaves := by
  simp only [tensorsOf, found, Value.unnamed, Record.values, Record.unnamed, List.map_map]
  apply mapM_eq_ok_iff.mpr
  simp [List.forall₂_map_left_iff, List.forall₂_same]

theorem tensorsOf_of_valuesOf {α : Type} [WeightSource α] {items : List α}
    (found : members.find? name = some (valuesOf store items)) :
    tensorsOf members name = .ok (items.map (WeightSource.contents store)) := by
  apply tensorsOf_eq_ok_of_find?
  rw [found, List.map_map]
  rfl

theorem exists_tensorsOf_of_typed {weights : List Tensor}
    (typed : (Value.record members).typeOf.field? name = some (typesOf store weights)) :
    ∃ tensors, tensorsOf members name = .ok tensors ∧
      typesOf store tensors = typesOf store weights := by
  rw [Value.typeOf_record, ValueType.field?, ValueType.record?, Option.bind_some,
    Record.find?_map] at typed
  obtain ⟨part, found, partTyped⟩ := Option.map_eq_some_iff.mp typed
  have tuple : part.typeOf = .record (.unnamed ((weights.map Tensor.type).map .tensor)) := by
    rw [partTyped, List.map_map]
    rfl
  obtain ⟨leaves, rfl⟩ := Value.exists_leaves_of_typeOf_eq tuple
  refine ⟨leaves, tensorsOf_eq_ok_of_find? found, ?_⟩
  exact (typeOf_valuesOf leaves).symm.trans partTyped

/-- A result that has the types of weights under both names is read as weights of
their type. -/
theorem exists_ofResult_of_typed {result : Value} {weights : Weights Tensor}
    (trainableTyped : result.typeOf.field? trainableName =
      some (typesOf store weights.trainable))
    (nonTrainableTyped : result.typeOf.field? nonTrainableName =
      some (typesOf store weights.nonTrainable)) :
    ∃ read, ofResult result = .ok read ∧ read.type store = weights.type store := by
  cases result with
  | tensor leaf => simp [Value.typeOf, ValueType.field?, ValueType.record?] at trainableTyped
  | record members =>
      obtain ⟨trainable, trainableRead, sameTrainable⟩ := exists_tensorsOf_of_typed trainableTyped
      obtain ⟨nonTrainable, nonTrainableRead, sameNonTrainable⟩ :=
        exists_tensorsOf_of_typed nonTrainableTyped
      refine ⟨⟨trainable, nonTrainable⟩, ?_, ?_⟩
      · rw [ofResult, trainableRead, nonTrainableRead]
        rfl
      · simp only [type, sameTrainable, sameNonTrainable]

end

/-- Weights written as a value, from variables or from tensors, are read back in their
order as what they hold at the time, and the value is of their type. -/
theorem ofResult_toValue {α : Type} [WeightSource α] (weights : Weights α) (store : Store) :
    ofResult (weights.toValue store) =
        .ok ⟨weights.trainable.map (WeightSource.contents store),
          weights.nonTrainable.map (WeightSource.contents store)⟩ ∧
      (weights.toValue store).typeOf = weights.type store := by
  let members : Record Value := .named [(trainableName, valuesOf store weights.trainable),
    (nonTrainableName, valuesOf store weights.nonTrainable)]
  have trainableRead : tensorsOf members trainableName =
      .ok (weights.trainable.map (WeightSource.contents store)) := tensorsOf_of_valuesOf rfl
  have nonTrainableRead : tensorsOf members nonTrainableName =
      .ok (weights.nonTrainable.map (WeightSource.contents store)) := tensorsOf_of_valuesOf rfl
  refine ⟨?_, typeOf_toValue weights⟩
  show ofResult (.record members) = _
  rw [ofResult, trainableRead, nonTrainableRead]
  rfl

/-- Federated averaging is closed: when weights of one type are summed, or averaged
where all their tensors are floating point, the result can be read as weights of
that type, and these can be assigned to every model with weights of that type. -/
theorem averaged_weights_are_assignable (participants : List (Weights Tensor))
    (common : ValueType) (reductions : List (String × Reduction)) (store : Store)
    (present : participants ≠ [])
    (typed : ∀ weights ∈ participants, weights.type store = common)
    (named : (reductions.map Prod.fst).Perm [trainableName, nonTrainableName])
    (reducible : ∀ entry ∈ reductions,
      entry.2 = .sum ∨ entry.2 = .mean ∧ common.IsFloating) :
    ∃ result averaged,
      (Computation.ofReductions reductions).aggregate
          (participants.map fun weights => weights.toValue store) = .ok result ∧
        ofResult result = .ok averaged ∧ averaged.type store = common ∧
          ∀ (model : Model) (current : Store), (ofModel model).type current = common →
            ∃ after, averaged.assignTo model current = (.ok (), after) := by
  obtain ⟨first, rest, rfl⟩ := List.exists_cons_of_ne_nil present
  obtain rfl := typed first (by simp)
  have valuesTyped : ∀ value ∈ (first :: rest).map fun weights => weights.toValue store,
      value.typeOf = first.type store := by
    intro value inside
    obtain ⟨weights, member, rfl⟩ := List.mem_map.mp inside
    exact (typeOf_toValue weights).trans (typed weights member)
  have parts : Computation.Reducible reductions (.named
      [(trainableName, typesOf store first.trainable),
        (nonTrainableName, typesOf store first.nonTrainable)]) := by
    intro entry inside
    have listed := named.mem_iff.mp (List.mem_map_of_mem inside)
    obtain ⟨part, found⟩ := exists_part_of_type first store listed
    rcases reducible entry inside with sum | ⟨mean, floating⟩
    · exact ⟨part, found, .inl sum⟩
    · exact ⟨part, found, .inr ⟨mean, floating.of_field? found⟩⟩
  obtain ⟨result, aggregated, keeps⟩ := parts.supports.exists_result (by simp) valuesTyped
  have trainableTyped := keeps trainableName (named.mem_iff.mpr (by simp))
  have nonTrainableTyped := keeps nonTrainableName (named.mem_iff.mpr (by simp))
  obtain ⟨averaged, read, sameType⟩ := exists_ofResult_of_typed trainableTyped nonTrainableTyped
  refine ⟨result, averaged, aggregated, read, sameType, ?_⟩
  intro model current modelType
  have fits : averaged.Fits model current :=
    fits_iff_type_eq.mpr (sameType.trans modelType.symm)
  exact ⟨_, assignTo_of_fits fits⟩

/-- Two numbers as one weight, beside a weight without elements. -/
def slopes (first second : Float32) : Weights Tensor :=
  ⟨[.float32 (.vector [first, second]), .float32 (.vector [])], []⟩

def slopesType : ValueType :=
  .record (.named [
    (trainableName, .record (.unnamed [.tensor (.ofSizes .float32 [2]),
      .tensor (.ofSizes .float32 [0])])),
    (nonTrainableName, .record (.unnamed []))])

/-- A variable for each of the slopes. -/
def slopesStore : Store :=
  ⟨(slopes 0 0).trainable.map fun tensor => ⟨"", tensor⟩⟩

def slopesModel : Model :=
  WeightHolder.toModel ⟨[⟨0⟩, ⟨1⟩], [], []⟩

def means : List (String × Reduction) :=
  [(trainableName, .mean), (nonTrainableName, .mean)]

theorem averaged_slopes_are_assignable :
    [slopes 1 2, slopes 3 5] ≠ [] ∧
      (∀ weights ∈ [slopes 1 2, slopes 3 5], weights.type slopesStore = slopesType) ∧
        (means.map Prod.fst).Perm [trainableName, nonTrainableName] ∧
          (∀ entry ∈ means, entry.2 = .sum ∨ entry.2 = .mean ∧ slopesType.IsFloating) ∧
            (ofModel slopesModel).type slopesStore = slopesType ∧
              ∃ result averaged,
                (Computation.ofReductions means).aggregate
                    ([slopes 1 2, slopes 3 5].map fun weights => weights.toValue slopesStore) =
                      .ok result ∧
                  ofResult result = .ok averaged ∧ averaged.type slopesStore = slopesType ∧
                    ∃ after, averaged.assignTo slopesModel slopesStore = (.ok (), after) := by
  have typed : ∀ weights ∈ [slopes 1 2, slopes 3 5], weights.type slopesStore = slopesType := by
    simp only [List.forall_mem_cons, List.not_mem_nil, false_implies, implies_true, and_true]
    exact ⟨rfl, rfl⟩
  have floating : slopesType.IsFloating := by
    simp [ValueType.IsFloating, slopesType, Record.named, Record.unnamed, ValueType.tensors,
      TensorType.ofSizes, ElementType.isFloating]
  have reducible : ∀ entry ∈ means,
      entry.2 = .sum ∨ entry.2 = .mean ∧ slopesType.IsFloating := by
    simp [means, floating]
  have named : (means.map Prod.fst).Perm [trainableName, nonTrainableName] := .refl _
  have modelType : (ofModel slopesModel).type slopesStore = slopesType := rfl
  obtain ⟨result, averaged, aggregated, read, sameType, assignable⟩ :=
    averaged_weights_are_assignable [slopes 1 2, slopes 3 5] slopesType means slopesStore
      (by simp) typed named reducible
  exact ⟨by simp, typed, named, reducible, modelType, result, averaged, aggregated, read,
    sameType, assignable slopesModel slopesStore modelType⟩

end Weights

end FederatedLearning
