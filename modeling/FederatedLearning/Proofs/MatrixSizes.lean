import FederatedLearning.Model.Basic
import FederatedLearning.Network.Normalization
import FederatedLearning.Proofs.VariableChanges

/-!
# Sizes of matrices

Every operation on matrices has a height and a width that the heights and widths
of its operands fix, and succeeds whenever those fit.  A variable in single
precision is viewed as a vector or as a matrix of the sizes in its type.
-/

namespace FederatedLearning

namespace Matrix

variable {left right matrix : Matrix} {function : Float32 → Float32 → Float32}
  {vector : List Float32}

@[simp] theorem height_times : (left.times right).height = left.height := by
  simp [times, mapRows, height]

@[simp] theorem width_times : (left.times right).width = right.width := rfl

@[simp] theorem height_map (function : Float32 → Float32) :
    (matrix.map function).height = matrix.height := by
  simp [map, mapRows, height]

@[simp] theorem width_map (function : Float32 → Float32) :
    (matrix.map function).width = matrix.width := rfl

@[simp] theorem height_zipRows (fits : vector.length = matrix.width) :
    (matrix.zipRows function vector fits).height = matrix.height := by
  simp [zipRows, mapRows, height]

@[simp] theorem width_zipRows (fits : vector.length = matrix.width) :
    (matrix.zipRows function vector fits).width = matrix.width := rfl

theorem product_eq_ok_iff {result : Matrix} :
    left.product right = .ok result ↔ left.width = right.height ∧ left.times right = result := by
  unfold product
  split
  · rename_i fits
    simp [fits]
  · rename_i apart
    simp [apart]

theorem withRow_eq_ok_iff {result : Matrix} :
    matrix.withRow function vector = .ok result ↔
      ∃ fits, matrix.zipRows function vector fits = result := by
  unfold withRow
  split
  · rename_i fits
    simp [fits]
  · rename_i apart
    simp [apart]

theorem exists_zipWith? (sameHeight : left.height = right.height)
    (sameWidth : left.width = right.width) :
    ∃ result, zipWith? function left right = some result := by
  have common : ∀ size, commonSize? size size = some size := fun size => if_pos rfl
  unfold zipWith?
  split
  · exact ⟨_, rfl⟩
  · rename_i absent
    exact absurd (common right.width) (by
      simpa [sameHeight, sameWidth, common] using absent right.height right.width)

theorem length_columnMeans : matrix.columnMeans.length = matrix.width := by
  have total : ∀ (rows : List (List Float32)) (sums : List Float32),
      (∀ row ∈ rows, row.length = matrix.width) → sums.length = matrix.width →
      (rows.foldl (List.zipWith (· + ·)) sums).length = matrix.width := by
    intro rows
    induction rows with
    | nil => intro sums _ length; exact length
    | cons row rest induction =>
        intro sums lengths length
        apply induction
        · exact fun later member => lengths later (by simp [member])
        · simp [length, lengths row (by simp)]
  rw [columnMeans, List.length_map]
  exact total matrix.rows _ matrix.rectangular (by simp)

theorem length_columnVariances : matrix.columnVariances.length = matrix.width := by
  simp [columnVariances]

theorem exists_ofArray? {array : DenseArray Float32} {height width : Nat}
    (sizes : array.sizes = [height, width]) :
    ∃ matrix, ofArray? array = some matrix ∧ matrix.height = height ∧ matrix.width = width := by
  unfold ofArray?
  split
  · rename_i height' width' sizes'
    rw [sizes] at sizes'
    cases sizes'
    exact ⟨_, rfl, length_cut _ _ _, rfl⟩
  · rename_i otherwise
    exact absurd sizes (otherwise height width)

end Matrix

theorem Loss.exists_meanOfDifferences? {function : Float32 → Float32} {predictions labels : Matrix}
    (sameHeight : predictions.height = labels.height)
    (sameWidth : predictions.width = labels.width) :
    ∃ loss, meanOfDifferences? function predictions labels = some loss := by
  obtain ⟨differences, combined⟩ := Matrix.exists_zipWith? sameHeight sameWidth
  exact ⟨_, by rw [meanOfDifferences?, combined]; rfl⟩

namespace Store

variable {store : Store} {handle : Variable} {sizes : List Nat}

theorem HasType.singles_eq (typed : store.HasType handle (.ofSizes .float32 sizes)) :
    ∃ array, store.singles handle = .ok array ∧ array.sizes = sizes := by
  have shape : Tensor.type (.float32 (.fill sizes 0)) = .ofSizes .float32 sizes := rfl
  have same : (store.read handle).type = Tensor.type (.float32 (.fill sizes 0)) :=
    typed.type_eq.trans shape.symm
  obtain ⟨sameElements, sameSizes⟩ := Tensor.type_eq_iff.mp same
  unfold singles
  cases contents : store.read handle with
  | float32 array =>
      rw [contents] at sameSizes
      exact ⟨array, rfl, sameSizes⟩
  | float64 array => simp [contents, Tensor.elementType] at sameElements
  | int32 array => simp [contents, Tensor.elementType] at sameElements
  | int64 array => simp [contents, Tensor.elementType] at sameElements

theorem exists_vector {size : Nat} (what : String)
    (typed : store.HasType handle (.ofSizes .float32 [size])) :
    ∃ numbers, store.vector what handle = .ok numbers ∧ numbers.length = size := by
  obtain ⟨array, viewed, arraySizes⟩ := typed.singles_eq
  refine ⟨array.elements, exceptBind_eq_ok_iff.mpr ⟨array, viewed, ?_⟩, ?_⟩
  · rw [arraySizes]
    rfl
  · rw [array.complete, arraySizes]
    simp

theorem exists_matrix {height width : Nat} (what : String)
    (typed : store.HasType handle (.ofSizes .float32 [height, width])) :
    ∃ matrix, store.matrix what handle = .ok matrix ∧ matrix.height = height ∧
      matrix.width = width := by
  obtain ⟨array, viewed, arraySizes⟩ := typed.singles_eq
  obtain ⟨matrix, found, sizesEq⟩ := Matrix.exists_ofArray? arraySizes
  refine ⟨matrix, exceptBind_eq_ok_iff.mpr ⟨array, viewed, ?_⟩, sizesEq⟩
  rw [found]
  rfl

theorem exists_sum (typed : store.HasType handle (.ofSizes .float32 sizes)) :
    ∃ total, store.sum handle = .ok total := by
  obtain ⟨array, viewed, _⟩ := typed.singles_eq
  exact ⟨_, exceptBind_eq_ok_iff.mpr ⟨array, viewed, rfl⟩⟩

end Store

end FederatedLearning
