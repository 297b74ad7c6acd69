import FederatedLearning.Model.NetworkModel
import FederatedLearning.Proofs.MatrixSizes

/-!
# Batches that fit a spec

Where a slot of a spec is a matrix type, the values that fit it are viewed as
matrices of that width, and the features and the labels of a batch that fits have
equally many rows.
-/

namespace FederatedLearning

/-- The value is a tensor in single precision of the given sizes. -/
def Value.IsMatrix (value : Value) (height width : Nat) : Prop :=
  ∃ array : DenseArray Float32, value = .tensor (.float32 array) ∧ array.sizes = [height, width]

section

variable {value : Value} {type : ValueType} {height width : Nat}

theorem NetworkModel.isMatrixType_iff :
    isMatrixType width type = true ↔
      ∃ rows, type = .tensor ⟨.float32, ⟨[rows, some width]⟩⟩ := by
  constructor
  · intro matrixType
    unfold isMatrixType at matrixType
    split at matrixType
    · rename_i rows columns
      rw [beq_iff_eq] at matrixType
      exact ⟨rows, by rw [matrixType]⟩
    · cases matrixType
  · intro found
    obtain ⟨rows, rfl⟩ := found
    simp [isMatrixType]

theorem Value.isMatrix_of_accepts (matrixType : NetworkModel.isMatrixType width type = true)
    (accepted : type.accepts value.typeOf = true) : ∃ height, value.IsMatrix height width := by
  obtain ⟨rows, rfl⟩ := NetworkModel.isMatrixType_iff.mp matrixType
  cases value with
  | record members => simp [Value.typeOf, ValueType.accepts] at accepted
  | tensor leaf =>
      simp only [Value.typeOf, ValueType.accepts, TensorType.accepts, Tensor.type,
        TensorType.ofSizes, Bool.and_eq_true, beq_iff_eq] at accepted
      obtain ⟨sameElements, shapeAccepted⟩ := accepted
      cases leaf with
      | float64 array => cases sameElements
      | int32 array => cases sameElements
      | int64 array => cases sameElements
      | float32 array =>
          have sizes : ∃ height, array.sizes = [height, width] := by
            rcases shape : array.sizes with _ | ⟨height, _ | ⟨columns, _ | ⟨further, rest⟩⟩⟩ <;>
              simp_all [Shape.accepts, Shape.ofSizes, Tensor.sizes, Shape.dimAccepts]
          obtain ⟨height, sizes⟩ := sizes
          exact ⟨height, array, rfl, sizes⟩

theorem Value.IsMatrix.exists_ofValue (isMatrix : value.IsMatrix height width) (what : String) :
    ∃ matrix, Matrix.ofValue what value = .ok matrix ∧ matrix.height = height ∧
      matrix.width = width := by
  obtain ⟨array, rfl, sizes⟩ := isMatrix
  obtain ⟨matrix, viewed, sized⟩ := Matrix.exists_ofArray? sizes
  refine ⟨matrix, exceptBind_eq_ok_iff.mpr ⟨.float32 array, rfl, ?_⟩, sized⟩
  apply exceptBind_eq_ok_iff.mpr
  refine ⟨array, rfl, ?_⟩
  rw [viewed]
  rfl

theorem Value.IsMatrix.leadingSizes_eq (isMatrix : value.IsMatrix height width) :
    Batch.leadingSizes value = [height] := by
  obtain ⟨array, rfl, sizes⟩ := isMatrix
  simp [Batch.leadingSizes, Value.leaves, Tensor.sizes, sizes]

theorem Value.IsMatrix.size?_eq {batch : Batch} (isMatrix : batch.features.IsMatrix height width) :
    batch.size? = some height := by
  obtain ⟨array, same, sizes⟩ := isMatrix
  simp [Batch.size?, same, Value.leaves, Tensor.sizes, sizes]

end

namespace BatchSpec

variable {spec : BatchSpec} {batch : Batch} {features value : Value} {type : ValueType}
  {inputs outputs rows : Nat}

theorem checkSlot_eq_ok_iff {slot : String} :
    checkSlot slot type value = .ok () ↔ type.accepts value.typeOf = true := by
  simp [checkSlot]

theorem checkRows_eq_ok_iff {what : String} :
    checkRows what rows value = .ok () ↔ ∀ size ∈ Batch.leadingSizes value, size = rows := by
  unfold checkRows
  split
  · rename_i size found
    have differs := List.find?_some found
    have inside := List.mem_of_find?_eq_some found
    constructor
    · intro accepted
      cases accepted
    · intro same
      simp [same size inside] at differs
  · rename_i none
    simpa using none

theorem checkBatch_eq_ok_iff :
    spec.checkBatch batch = .ok () ↔
      spec.features.accepts batch.features.typeOf = true ∧
        spec.labels.accepts batch.labels.typeOf = true ∧
          ∀ rows, batch.size? = some rows →
            checkRows "batch features" rows batch.features = .ok () ∧
              checkRows "batch labels" rows batch.labels = .ok () := by
  unfold checkBatch
  cases batch.size? with
  | none => simp [exceptThen_eq_ok_iff, checkSlot_eq_ok_iff]
  | some rows => simp [exceptThen_eq_ok_iff, checkSlot_eq_ok_iff]

theorem checkFeatures_of_checkBatch (checked : spec.checkBatch batch = .ok ()) :
    spec.checkFeatures batch.features = .ok () :=
  checkSlot_eq_ok_iff.mpr (checkBatch_eq_ok_iff.mp checked).1

theorem isMatrix_of_checkFeatures
    (featuresType : NetworkModel.isMatrixType inputs spec.features = true)
    (checked : spec.checkFeatures features = .ok ()) :
    ∃ height, features.IsMatrix height inputs :=
  Value.isMatrix_of_accepts featuresType (checkSlot_eq_ok_iff.mp checked)

theorem isMatrix_of_checkBatch
    (featuresType : NetworkModel.isMatrixType inputs spec.features = true)
    (labelsType : NetworkModel.isMatrixType outputs spec.labels = true)
    (checked : spec.checkBatch batch = .ok ()) :
    ∃ height, batch.features.IsMatrix height inputs ∧ batch.labels.IsMatrix height outputs := by
  obtain ⟨featuresAccepted, labelsAccepted, rowsChecked⟩ := checkBatch_eq_ok_iff.mp checked
  obtain ⟨height, featuresMatrix⟩ := Value.isMatrix_of_accepts featuresType featuresAccepted
  obtain ⟨height', labelsMatrix⟩ := Value.isMatrix_of_accepts labelsType labelsAccepted
  have labelRows := (rowsChecked height featuresMatrix.size?_eq).2
  rw [checkRows_eq_ok_iff, labelsMatrix.leadingSizes_eq] at labelRows
  have sameHeight : height' = height := labelRows height' (by simp)
  exact ⟨height, featuresMatrix, sameHeight ▸ labelsMatrix⟩

end BatchSpec

end FederatedLearning
