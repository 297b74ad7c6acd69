import FederatedLearning.Proofs.FederatedAveraging
import Mathlib.Algebra.GroupWithZero.Nat

/-!
# Counted tensors

The count of a type is that of the tensors in it that the filter accepts, wherever they
stand.  In the type of a value all sizes are defined, so its count tells how many tensors of
the value are accepted and how many numbers they hold.  The trainable variables of a model
are all counted, with every number in them.
-/

namespace FederatedLearning

namespace TensorCount

/-- What there is to count in some tensor types. -/
def ofTensors (types : List TensorType) : TensorCount where
  tensors := types.length
  parameters := (types.map fun type => type.shape.elementCount?.getD 0).sum
  unspecified := types.countP fun type => type.shape.elementCount?.isNone

theorem ofTensors_singleton (type : TensorType) : ofTensors [type] = ofTensor type := by
  rw [ofTensor, ofTensors]
  cases size : type.shape.elementCount? <;> simp [size]

theorem ofTensors_append (front back : List TensorType) :
    ofTensors (front ++ back) = ofTensors front + ofTensors back := by
  simp [ofTensors, add_eq]

/-- The types of tensors that exist leave no size undefined. -/
theorem ofTensors_map_type (leaves : List Tensor) :
    ofTensors (leaves.map Tensor.type) = ⟨leaves.length, (leaves.map Tensor.size).sum, 0⟩ := by
  simp [ofTensors, List.countP_map, Function.comp_def, Tensor.elementCount?_type]

end TensorCount

namespace ValueType

variable {counted : TensorType → Bool}

theorem countElements_eq_ofTensors {elements : List (Option String × ValueType)}
    (each : ∀ element ∈ elements,
      element.2.count counted = .ofTensors (element.2.tensors.filter counted)) :
    countElements counted elements =
      .ofTensors ((tensorsElements elements).filter counted) := by
  induction elements with
  | nil => rfl
  | cons element rest induction =>
      obtain ⟨here, later⟩ := List.forall_mem_cons.mp each
      rw [countElements, tensorsElements, List.filter_append, TensorCount.ofTensors_append,
        here, induction later]

/-- A type counts the tensors in it that the filter accepts. -/
theorem count_eq_ofTensors (type : ValueType) :
    type.count counted = .ofTensors (type.tensors.filter counted) := by
  induction type using ValueType.induct with
  | tensorCase type =>
      rw [count, tensors]
      split
      · rename_i accepted
        rw [List.filter_cons_of_pos accepted, List.filter_nil, TensorCount.ofTensors_singleton]
      · rename_i refused
        rw [List.filter_cons_of_neg refused, List.filter_nil]
        rfl
  | recordCase members induction =>
      obtain ⟨elements⟩ := members
      rw [count, tensors]
      exact countElements_eq_ofTensors induction
  | placedCase member placement allEqual induction =>
      rw [count, tensors]
      exact induction

end ValueType

theorem Value.count_typeOf (value : Value) (counted : TensorType → Bool) :
    value.typeOf.count counted =
      ⟨(value.leaves.filter fun leaf => counted leaf.type).length,
        ((value.leaves.filter fun leaf => counted leaf.type).map Tensor.size).sum, 0⟩ := by
  rw [ValueType.count_eq_ofTensors, tensors_typeOf, List.filter_map,
    TensorCount.ofTensors_map_type]
  rfl

theorem Weights.leaves_valuesOf {α : Type} [WeightSource α] (store : Store) (weights : List α) :
    (valuesOf store weights).leaves = weights.map (WeightSource.contents store) := by
  simp only [valuesOf, Value.unnamed, Record.unnamed, Value.leaves,
    Value.leavesElements_eq_flatMap, List.flatMap_map]
  rw [List.map_eq_flatMap]

/-- The type of a value counts the tensors of the value that the filter accepts, and the
numbers in them, and a model counts its trainable variables with all numbers in them; no
tensor is left without a size. -/
theorem counts_of_values_and_models :
    (∀ (value : Value) (counted : TensorType → Bool),
      value.typeOf.count counted =
        ⟨(value.leaves.filter fun leaf => counted leaf.type).length,
          ((value.leaves.filter fun leaf => counted leaf.type).map Tensor.size).sum, 0⟩) ∧
      ∀ (model : Model) (store : Store),
        model.parameterCount store =
          .ok ⟨model.trainable.length,
            (model.trainable.map fun handle => (store.read handle).size).sum, 0⟩ := by
  refine ⟨Value.count_typeOf, ?_⟩
  intro model store
  -- The trainable weights of a model are counted in their type, which is that of a value.
  have found : model.parameterCount store =
      .ok ((Weights.typesOf store model.trainable).count fun _ => true) := rfl
  rw [found, ← Weights.typeOf_valuesOf, Value.count_typeOf, Weights.leaves_valuesOf]
  simp [WeightSource.contents, Function.comp_def]

end FederatedLearning
