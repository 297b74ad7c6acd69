import FederatedLearning.Proofs.RowCounts
import FederatedLearning.Proofs.TensorCounts

/-!
# Counts of accepted types

A type has as many tensors as the types that it accepts, and they stand at the same places.
An accepted type may define more dimensions, and never fewer: a tensor whose size the
accepting type leaves open may have one in the accepted type, and a tensor whose size is
known has the same one in both.

What holds of two tensors carries over to types because counts are added up along the
tensors, and a filter that looks at element types and ranks takes counterparts together.
-/

namespace FederatedLearning

namespace Shape

/-- Dimensions that are all defined accept no others than themselves. -/
theorem dims_eq_of_forall₂_accepts {dims dims' : List (Option Nat)} {sizes : List Nat}
    (accepted : List.Forall₂ (fun dim dim' => dimAccepts dim dim' = true) dims dims')
    (defined : dims.mapM id = some sizes) : dims = dims' := by
  induction accepted generalizing sizes with
  | nil => rfl
  | @cons dim dim' rest rest' here _ induction =>
      cases dim with
      | none => simp at defined
      | some size =>
          have sameSize : dim' = some size := beq_iff_eq.mp here
          cases restDefined : rest.mapM id with
          | none => simp [restDefined] at defined
          | some restSizes => rw [sameSize, induction restDefined]

theorem eq_of_accepts_of_specified {expected got : Shape} {size : Nat}
    (accepted : expected.accepts got = true) (specified : expected.elementCount? = some size) :
    expected = got := by
  obtain ⟨sizes, defined, _⟩ := Option.map_eq_some_iff.mp specified
  have sameDims : expected.dims = got.dims :=
    dims_eq_of_forall₂_accepts (accepts_iff_forall₂.mp accepted) defined
  exact congrArg Shape.mk sameDims

end Shape

namespace TensorCount

variable {loose settled loose' settled' : TensorCount}

/-- The second count is of the same tensors as the first one, and leaves no more of them
without a size. -/
structure Settles (loose settled : TensorCount) : Prop where
  tensors_eq : loose.tensors = settled.tensors
  parameters_le : loose.parameters ≤ settled.parameters
  unspecified_le : settled.unspecified ≤ loose.unspecified
  eq_of_specified : loose.unspecified = 0 → loose = settled

namespace Settles

theorem refl (count : TensorCount) : count.Settles count where
  tensors_eq := rfl
  parameters_le := Nat.le_refl _
  unspecified_le := Nat.le_refl _
  eq_of_specified _ := rfl

theorem add (here : loose.Settles settled) (later : loose'.Settles settled') :
    (loose + loose').Settles (settled + settled') where
  tensors_eq := by
    rw [add_eq, add_eq, here.tensors_eq, later.tensors_eq]
  parameters_le := Nat.add_le_add here.parameters_le later.parameters_le
  unspecified_le := Nat.add_le_add here.unspecified_le later.unspecified_le
  eq_of_specified specified := by
    obtain ⟨hereSpecified, laterSpecified⟩ := Nat.add_eq_zero_iff.mp specified
    rw [here.eq_of_specified hereSpecified, later.eq_of_specified laterSpecified]

end Settles

theorem settles_ofTensor {expected got : TensorType} (accepted : expected.accepts got = true) :
    (ofTensor expected).Settles (ofTensor got) := by
  obtain ⟨_, shapeAccepted⟩ := Bool.and_eq_true_iff.mp accepted
  cases expectedSize : expected.shape.elementCount? with
  | some size =>
      have sameShape : expected.shape = got.shape :=
        Shape.eq_of_accepts_of_specified shapeAccepted expectedSize
      have sameCount : ofTensor expected = ofTensor got := by
        simp only [ofTensor, sameShape]
      rw [sameCount]
      exact .refl _
  | none =>
      -- Nothing is known about the size in the first type, whatever it is in the second.
      rw [ofTensor, expectedSize, ofTensor]
      cases got.shape.elementCount? with
      | none => exact .refl _
      | some size =>
          refine ⟨rfl, Nat.zero_le size, Nat.zero_le 1, ?_⟩
          intro specified
          cases specified

theorem settles_ofTensors {expected got : List TensorType}
    (accepted : List.Forall₂ (fun left right => left.accepts right = true) expected got) :
    (ofTensors expected).Settles (ofTensors got) := by
  induction accepted with
  | nil => exact .refl _
  | @cons left right lefts rights here _ induction =>
      have front : (ofTensors [left]).Settles (ofTensors [right]) := by
        rw [ofTensors_singleton, ofTensors_singleton]
        exact settles_ofTensor here
      have joined := front.add induction
      rwa [← ofTensors_append, ← ofTensors_append] at joined

end TensorCount

namespace ValueType

/-- A type and one that it accepts have the same number of tensors that a filter on element
types and ranks takes.  The accepted type leaves at most as many of them without a size and
has at least as many numbers in the others; the counts are the same when the accepting type
leaves none without a size. -/
theorem count_of_accepted (expected got : ValueType) (counted : TensorType → Bool)
    (byForm : ∀ left right : TensorType, left.elementType = right.elementType →
      left.shape.rank = right.shape.rank → counted left = counted right)
    (accepted : expected.accepts got = true) :
    (expected.count counted).tensors = (got.count counted).tensors ∧
      (expected.count counted).parameters ≤ (got.count counted).parameters ∧
        (expected.count counted).unspecified ≥ (got.count counted).unspecified ∧
          ((expected.count counted).unspecified = 0 →
            expected.count counted = got.count counted) := by
  have taken : List.Forall₂ (fun left right => left.accepts right = true)
      (expected.tensors.filter counted) (got.tensors.filter counted) := by
    refine List.rel_filter ?_ (forall₂_tensors_of_accepts accepted)
    intro left right acceptedTensor
    obtain ⟨sameElements, _⟩ := accepts_tensor_iff.mp acceptedTensor
    have together : counted left = counted right :=
      byForm left right sameElements (TensorType.rank_eq_of_accepts acceptedTensor)
    exact Bool.eq_iff_iff.mp together
  have settles : (expected.count counted).Settles (got.count counted) := by
    rw [count_eq_ofTensors, count_eq_ofTensors]
    exact TensorCount.settles_ofTensors taken
  exact ⟨settles.tensors_eq, settles.parameters_le, settles.unspecified_le,
    settles.eq_of_specified⟩

/-- Empty rows, weights at the clients and a number of steps. -/
def samplesOf (rows : Option Nat) : ValueType :=
  .record (.named [("empty", .tensor ⟨.float32, ⟨[rows, some 0]⟩⟩),
    ("weights", atClients (.tensor ⟨.float32, ⟨[rows, some 2]⟩⟩)),
    ("steps", .tensor (.ofSizes .int64 []))])

/-- Where any number of rows is left uncounted, three rows are counted. -/
theorem samples_settled :
    (samplesOf none).accepts (samplesOf (some 3)) = true ∧
      (samplesOf none).count (fun type => type.elementType.isFloating) = ⟨2, 0, 2⟩ ∧
        (samplesOf (some 3)).count (fun type => type.elementType.isFloating) = ⟨2, 6, 0⟩ ∧
          ((samplesOf none).count fun type => type.elementType.isFloating).tensors =
              ((samplesOf (some 3)).count fun type => type.elementType.isFloating).tensors ∧
            ((samplesOf none).count fun type => type.elementType.isFloating).parameters ≤
              ((samplesOf (some 3)).count fun type => type.elementType.isFloating).parameters := by
  have byForm : ∀ left right : TensorType, left.elementType = right.elementType →
      left.shape.rank = right.shape.rank →
        left.elementType.isFloating = right.elementType.isFloating :=
    fun _ _ sameElements _ => congrArg ElementType.isFloating sameElements
  have accepted : (samplesOf none).accepts (samplesOf (some 3)) = true := by decide
  obtain ⟨sameTensors, moreParameters, _⟩ :=
    count_of_accepted (samplesOf none) (samplesOf (some 3)) _ byForm accepted
  exact ⟨accepted, by decide, by decide, sameTensors, moreParameters⟩

end ValueType

end FederatedLearning
