import FederatedLearning.Proofs.AcceptedBatches
import FederatedLearning.Proofs.TypeMembership

/-!
# Rows of a batch

The three ways to declare a spec refuse tensors without a leading dimension, so
every tensor of a batch whose slots are accepted has one.  `BatchSpec.checkBatch`
compares them all with the first tensor of the features.  Where the features hold
no tensor there is nothing to compare with, and tensors of the labels that count
different rows are accepted as well.
-/

namespace FederatedLearning

namespace ValueType

theorem checkBatchedElements_eq_ok_iff {elements : List (Option String × ValueType)} :
    checkBatchedElements elements = .ok () ↔
      ∀ element ∈ elements, element.2.checkBatched = .ok () := by
  induction elements with
  | nil => simp [checkBatchedElements]
  | cons element rest induction =>
      rw [checkBatchedElements, List.forall_mem_cons, ← induction]
      cases element.2.checkBatched with
      | ok done => simp
      | error fault => simp

/-- Nothing in the type is placed, and every tensor has a leading dimension. -/
def Batched (type : ValueType) : Prop :=
  type.hasPlacement = false ∧ ∀ tensor ∈ type.tensors, 0 < tensor.shape.rank

theorem batched_record_iff {members : Record ValueType} :
    (record members).Batched ↔ ∀ element ∈ members.elements, element.2.Batched := by
  obtain ⟨elements⟩ := members
  simp only [Batched, hasPlacement, hasPlacementElements_eq_any, List.any_eq_false,
    Bool.not_eq_true, tensors, tensorsElements_eq_flatMap, List.mem_flatMap]
  constructor
  · rintro ⟨unplaced, ranked⟩ element inside
    exact ⟨unplaced element inside, fun tensor member => ranked tensor ⟨element, inside, member⟩⟩
  · intro batched
    refine ⟨fun element inside => (batched element inside).1, ?_⟩
    rintro tensor ⟨element, inside, member⟩
    exact (batched element inside).2 tensor member

theorem checkBatched_eq_ok_iff {type : ValueType} : type.checkBatched = .ok () ↔ type.Batched := by
  induction type using ValueType.induct with
  | tensorCase type =>
      simp [checkBatched, Batched, hasPlacement, tensors, Nat.pos_iff_ne_zero]
  | recordCase members induction =>
      rw [batched_record_iff]
      obtain ⟨elements⟩ := members
      rw [checkBatched, checkBatchedElements_eq_ok_iff]
      exact forall₂_congr induction
  | placedCase member placement allEqual _ =>
      simp [checkBatched, Batched, hasPlacement]

end ValueType

theorem TensorType.rank_eq_of_accepts {expected got : TensorType}
    (accepted : expected.accepts got = true) : expected.shape.rank = got.shape.rank := by
  simp only [accepts, Shape.accepts, Bool.and_eq_true, beq_iff_eq] at accepted
  exact accepted.2.1

namespace Value

variable {value : Value} {type : ValueType}

/-- Every tensor of the value, at any depth, has the number of rows. -/
def HasRows (value : Value) (rows : Nat) : Prop :=
  ∀ leaf ∈ value.leaves, leaf.sizes.head? = some rows

/-- A value that a checked type accepts has no tensor without rows. -/
theorem exists_rows_of_accepts (checked : type.checkBatched = .ok ())
    (accepted : type.accepts value.typeOf = true) :
    ∀ leaf ∈ value.leaves, ∃ rows, leaf.sizes.head? = some rows := by
  intro leaf member
  have typed : leaf.type ∈ value.typeOf.tensors := by
    rw [tensors_typeOf]
    exact List.mem_map_of_mem member
  obtain ⟨expected, inside, acceptsLeaf⟩ :=
    exists_left_of_mem (ValueType.forall₂_tensors_of_accepts accepted) typed
  have ranked : 0 < expected.shape.rank :=
    (ValueType.checkBatched_eq_ok_iff.mp checked).2 expected inside
  rw [TensorType.rank_eq_of_accepts acceptsLeaf] at ranked
  cases sizes : leaf.sizes with
  | nil => simp [Tensor.type, TensorType.ofSizes, Shape.ofSizes, Shape.rank, sizes] at ranked
  | cons rows rest => exact ⟨rows, rfl⟩

theorem mem_leadingSizes_iff {size : Nat} :
    size ∈ Batch.leadingSizes value ↔ ∃ leaf ∈ value.leaves, leaf.sizes.head? = some size := by
  simp [Batch.leadingSizes]

theorem hasRows_iff_leadingSizes {rows : Nat}
    (sized : ∀ leaf ∈ value.leaves, ∃ rows, leaf.sizes.head? = some rows) :
    value.HasRows rows ↔ ∀ size ∈ Batch.leadingSizes value, size = rows := by
  constructor
  · intro hasRows size counted
    obtain ⟨leaf, member, leads⟩ := mem_leadingSizes_iff.mp counted
    rw [hasRows leaf member] at leads
    exact (Option.some.inj leads).symm
  · intro same leaf member
    obtain ⟨size, leads⟩ := sized leaf member
    rw [leads, same size (mem_leadingSizes_iff.mpr ⟨leaf, member, leads⟩)]

end Value

namespace BatchSpec

variable {spec : BatchSpec} {batch : Batch}

/-- The ways to come by a spec. -/
inductive Declared : BatchSpec → Prop where
  | named (features labels : ValueType) {spec : BatchSpec} :
      named features labels = .ok spec → Declared spec
  | ordered (features labels : ValueType) {spec : BatchSpec} :
      ordered features labels = .ok spec → Declared spec
  | ofType (type : ValueType) {spec : BatchSpec} : ofType type = .ok spec → Declared spec

theorem make_eq_ok_iff {layout : SlotLayout} {features labels : ValueType} :
    make layout features labels = .ok spec ↔
      features.Batched ∧ labels.Batched ∧ spec = ⟨layout, features, labels⟩ := by
  rw [← ValueType.checkBatched_eq_ok_iff, ← ValueType.checkBatched_eq_ok_iff, make]
  cases features.checkBatched with
  | error fault => simp
  | ok done =>
      cases labels.checkBatched with
      | error fault => simp
      | ok done => simp [eq_comm]

theorem checkBatched_of_make {layout : SlotLayout} {features labels : ValueType}
    (made : make layout features labels = .ok spec) :
    spec.features.checkBatched = .ok () ∧ spec.labels.checkBatched = .ok () := by
  obtain ⟨featuresBatched, labelsBatched, rfl⟩ := make_eq_ok_iff.mp made
  exact ⟨ValueType.checkBatched_eq_ok_iff.mpr featuresBatched,
    ValueType.checkBatched_eq_ok_iff.mpr labelsBatched⟩

theorem Declared.checkBatched (declared : spec.Declared) :
    spec.features.checkBatched = .ok () ∧ spec.labels.checkBatched = .ok () := by
  cases declared with
  | named features labels made => exact checkBatched_of_make made
  | ordered features labels made => exact checkBatched_of_make made
  | ofType type taken =>
      unfold BatchSpec.ofType at taken
      split at taken
      · split at taken
        · exact checkBatched_of_make taken
        · split at taken
          · exact checkBatched_of_make taken
          · cases taken
        · cases taken
      · cases taken

/-- A batch has no size exactly when its features hold no tensor. -/
theorem size?_eq_none_iff
    (sized : ∀ leaf ∈ batch.features.leaves, ∃ rows, leaf.sizes.head? = some rows) :
    batch.size? = none ↔ batch.features.leaves = [] := by
  unfold Batch.size?
  cases leaves : batch.features.leaves with
  | nil => simp
  | cons leaf rest =>
      obtain ⟨rows, leads⟩ := sized leaf (by simp [leaves])
      simp [leads]

/-- A number that counts the rows of every tensor of the features is the size of
the batch. -/
theorem size?_eq_of_hasRows {rows : Nat} (present : batch.features.leaves ≠ [])
    (hasRows : batch.features.HasRows rows) : batch.size? = some rows := by
  unfold Batch.size?
  cases leaves : batch.features.leaves with
  | nil => exact absurd leaves present
  | cons leaf rest => simpa using hasRows leaf (by simp [leaves])

/-- The check of a batch accepts it exactly when both slots are accepted and,
unless the features hold no tensor at all, one number counts the rows of every
tensor of both slots. -/
theorem checkBatch_eq_ok_iff_hasRows (declared : spec.Declared) :
    spec.checkBatch batch = .ok () ↔
      spec.features.accepts batch.features.typeOf = true ∧
        spec.labels.accepts batch.labels.typeOf = true ∧
          (batch.features.leaves ≠ [] →
            ∃ rows, batch.features.HasRows rows ∧ batch.labels.HasRows rows) := by
  obtain ⟨featuresChecked, labelsChecked⟩ := declared.checkBatched
  rw [checkBatch_eq_ok_iff]
  refine and_congr_right fun featuresAccepted => and_congr_right fun labelsAccepted => ?_
  have featuresSized := Value.exists_rows_of_accepts featuresChecked featuresAccepted
  have labelsSized := Value.exists_rows_of_accepts labelsChecked labelsAccepted
  simp only [checkRows_eq_ok_iff, ← Value.hasRows_iff_leadingSizes featuresSized,
    ← Value.hasRows_iff_leadingSizes labelsSized]
  constructor
  · intro agree present
    have counted : batch.size? ≠ none :=
      fun none => present ((size?_eq_none_iff featuresSized).mp none)
    obtain ⟨rows, sized⟩ := Option.ne_none_iff_exists'.mp counted
    exact ⟨rows, agree rows sized⟩
  · intro agree rows sized
    have present : batch.features.leaves ≠ [] := by
      intro empty
      rw [(size?_eq_none_iff featuresSized).mpr empty] at sized
      cases sized
    obtain ⟨rows', featuresRows, labelsRows⟩ := agree present
    rw [size?_eq_of_hasRows present featuresRows] at sized
    cases sized
    exact ⟨featuresRows, labelsRows⟩

/-- Features of a pair below an empty record, and a number to learn from each. -/
def nestedPairs : BatchSpec :=
  ⟨.named, .record (.unnamed [.record ∅, .tensor (.batched .float32 [2])]),
    .record (.named [("target", .tensor (.batched .int32 []))])⟩

def threePairs : Batch :=
  ⟨.unnamed [.record ∅, .tensor (.float32 ⟨[3, 2], [1, 2, 3, 4, 5, 6], rfl⟩)],
    .named [("target", .tensor (.int32 ⟨[3], [7, 8, 9], rfl⟩))]⟩

theorem threePairs_checked :
    nestedPairs.Declared ∧ nestedPairs.checkBatch threePairs = .ok () ∧
      ∃ rows, threePairs.features.HasRows rows ∧ threePairs.labels.HasRows rows := by
  have declared : nestedPairs.Declared := .named nestedPairs.features nestedPairs.labels rfl
  have checked : nestedPairs.checkBatch threePairs = .ok () := rfl
  obtain ⟨_, _, counted⟩ := (checkBatch_eq_ok_iff_hasRows declared).mp checked
  exact ⟨declared, checked, counted (by decide)⟩

/-- No features at all, and two columns of labels. -/
def labelPairs : BatchSpec :=
  ⟨.ordered, .record ∅,
    .record (.unnamed [.tensor (.batched .float32 []), .tensor (.batched .float32 [])])⟩

/-- One label in the first column and two in the second. -/
def unevenLabels : Batch :=
  ⟨.record ∅,
    .unnamed [.tensor (.float32 (.vector [1])), .tensor (.float32 (.vector [1, 2]))]⟩

/-- Without features, labels of different row counts are accepted. -/
theorem unevenLabels_checked :
    ¬ ∀ (spec : BatchSpec) (batch : Batch), spec.Declared →
      (spec.checkBatch batch = .ok () ↔
        spec.features.accepts batch.features.typeOf = true ∧
          spec.labels.accepts batch.labels.typeOf = true ∧
            ∃ rows, batch.features.HasRows rows ∧ batch.labels.HasRows rows) := by
  intro claimed
  have declared : labelPairs.Declared := .ordered labelPairs.features labelPairs.labels rfl
  have checked : labelPairs.checkBatch unevenLabels = .ok () := rfl
  obtain ⟨_, _, rows, _, even⟩ := (claimed labelPairs unevenLabels declared).mp checked
  have first : some 1 = some rows :=
    even (.float32 (.vector [1]))
      (by simp [unevenLabels, Value.unnamed, Record.unnamed, Value.leaves])
  have second : some 2 = some rows :=
    even (.float32 (.vector [1, 2]))
      (by simp [unevenLabels, Value.unnamed, Record.unnamed, Value.leaves])
  rw [← first] at second
  cases second

end BatchSpec

end FederatedLearning
