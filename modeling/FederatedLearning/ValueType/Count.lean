import FederatedLearning.ValueType.Basic

/-!
# Counting tensors

How many tensors a type has, how many numbers they hold together, and how many
of them have no fixed size.  Placed types are looked through.
-/

namespace FederatedLearning

structure TensorCount where
  tensors : Nat
  /-- The numbers held by the counted tensors of fully defined shape. -/
  parameters : Nat
  /-- The counted tensors with an undefined dimension. -/
  unspecified : Nat
deriving DecidableEq, Repr

namespace TensorCount

def zero : TensorCount := ⟨0, 0, 0⟩

def add (left right : TensorCount) : TensorCount :=
  ⟨left.tensors + right.tensors, left.parameters + right.parameters,
    left.unspecified + right.unspecified⟩

instance : Add TensorCount := ⟨add⟩

theorem add_eq (left right : TensorCount) :
    left + right = ⟨left.tensors + right.tensors, left.parameters + right.parameters,
      left.unspecified + right.unspecified⟩ := rfl

def ofTensor (type : TensorType) : TensorCount :=
  match type.shape.elementCount? with
  | some size => ⟨1, size, 0⟩
  | none => ⟨1, 0, 1⟩

end TensorCount

namespace ValueType

mutual

/-- Counts the tensors of a type that a filter accepts. -/
def count (counted : TensorType → Bool) : ValueType → TensorCount
  | .tensor type => if counted type then .ofTensor type else .zero
  | .record ⟨elements⟩ => countElements counted elements
  | .placed member _ _ => count counted member
termination_by structural type => type

def countElements (counted : TensorType → Bool) :
    List (Option String × ValueType) → TensorCount
  | [] => .zero
  | (_, type) :: rest => count counted type + countElements counted rest
termination_by structural elements => elements

end

end ValueType

end FederatedLearning
