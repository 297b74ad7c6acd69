import FederatedLearning.Shape

/-!
# Tensors

A tensor holds numbers of one element type in row-major order, as many as its
sizes say.  Its element type and sizes never change under the operations that
write it: assignment, addition and scaling check both first.
-/

namespace FederatedLearning

/-- Numbers in row-major order with the sizes of the dimensions. -/
structure DenseArray (α : Type) where
  sizes : List Nat
  elements : List α
  complete : elements.length = volume sizes
deriving DecidableEq

namespace DenseArray

variable {α β : Type}

/-- Elements are compared one by one, in the way of their own type: a number
that is not a number differs from itself. -/
instance [BEq α] : BEq (DenseArray α) :=
  ⟨fun left right => left.sizes == right.sizes && left.elements == right.elements⟩

def fill (sizes : List Nat) (element : α) : DenseArray α :=
  ⟨sizes, List.replicate (volume sizes) element, List.length_replicate⟩

def ofList? (sizes : List Nat) (elements : List α) : Option (DenseArray α) :=
  if complete : elements.length = volume sizes then some ⟨sizes, elements, complete⟩ else none

def scalar (element : α) : DenseArray α :=
  ⟨[], [element], rfl⟩

def vector (elements : List α) : DenseArray α :=
  ⟨[elements.length], elements, by simp⟩

def size (array : DenseArray α) : Nat :=
  array.elements.length

def map (function : α → β) (array : DenseArray α) : DenseArray β :=
  ⟨array.sizes, array.elements.map function, by simp [array.complete]⟩

def mapIdx (function : Nat → α → β) (array : DenseArray α) : DenseArray β :=
  ⟨array.sizes, array.elements.mapIdx function, by simp [array.complete]⟩

def zipWith (function : α → α → α) (left right : DenseArray α)
    (same : left.sizes = right.sizes) : DenseArray α :=
  ⟨left.sizes, List.zipWith function left.elements right.elements, by
    rw [List.length_zipWith, left.complete, right.complete, same, Nat.min_self]⟩

/-- The element of an array that holds exactly one. -/
def only? (array : DenseArray α) : Option α :=
  match array.elements with
  | [element] => some element
  | _ => none

end DenseArray

/-- Why an operation on tensors or on values made of them failed. -/
inductive TensorError where
  | elementTypeMismatch (what : String) (got expected : ElementType)
  | sizesMismatch (what : String) (got expected : List Nat)
  | notRecord (what : String)
  | notTensor (what : String)
  /-- Two records differ in their names or in their number of elements. -/
  | namesMismatch (what : String)
  | missingField (name : String)
  | unsupported (operation : String) (elementType : ElementType)
deriving DecidableEq, Repr

namespace TensorError

def sizesText (sizes : List Nat) : String :=
  "[" ++ ", ".intercalate (sizes.map Nat.repr) ++ "]"

def message : TensorError → String
  | elementTypeMismatch what got expected =>
      "dtype mismatch for " ++ what ++ ": got " ++ got.text ++ ", expected " ++ expected.text
  | sizesMismatch what got expected =>
      "shape mismatch for " ++ what ++ ": got " ++ sizesText got ++ ", expected " ++
        sizesText expected
  | notRecord what => "expected a structure for " ++ what
  | notTensor what => "expected a tensor for " ++ what
  | namesMismatch what => "structures differ in names or length for " ++ what
  | missingField name => "the structure has no field `" ++ name ++ "`"
  | unsupported operation elementType =>
      "operation `" ++ operation ++ "` is not supported for " ++ elementType.text ++ " tensors"

end TensorError

inductive Tensor where
  | float32 (array : DenseArray Float32)
  | float64 (array : DenseArray Float)
  | int32 (array : DenseArray Int32)
  | int64 (array : DenseArray Int64)
deriving DecidableEq

namespace Tensor

def elementType : Tensor → ElementType
  | .float32 _ => .float32
  | .float64 _ => .float64
  | .int32 _ => .int32
  | .int64 _ => .int64

def sizes : Tensor → List Nat
  | .float32 array => array.sizes
  | .float64 array => array.sizes
  | .int32 array => array.sizes
  | .int64 array => array.sizes

def size : Tensor → Nat
  | .float32 array => array.size
  | .float64 array => array.size
  | .int32 array => array.size
  | .int64 array => array.size

def isEmpty (tensor : Tensor) : Bool :=
  tensor.size == 0

def type (tensor : Tensor) : TensorType :=
  .ofSizes tensor.elementType tensor.sizes

def zeros (elementType : ElementType) (sizes : List Nat) : Tensor :=
  match elementType with
  | .float32 => .float32 (.fill sizes 0)
  | .float64 => .float64 (.fill sizes 0)
  | .int32 => .int32 (.fill sizes 0)
  | .int64 => .int64 (.fill sizes 0)

def ofNat (number : Nat) : Tensor :=
  .int64 (.scalar (Int64.ofNat number))

def ofSingle (number : Float32) : Tensor :=
  .float32 (.scalar number)

def float32? : Tensor → Option (DenseArray Float32)
  | .float32 array => some array
  | _ => none

/-- The element of a tensor that holds exactly one, widened to double precision. -/
def scalar? : Tensor → Option Float
  | .float32 array => array.only?.map Float32.toFloat
  | .float64 array => array.only?
  | .int32 array => array.only?.map Int32.toFloat
  | .int64 array => array.only?.map Int64.toFloat

/-- Elements are compared one by one, numbers in the way of their own type. -/
def equals : Tensor → Tensor → Bool
  | .float32 left, .float32 right => left == right
  | .float64 left, .float64 right => left == right
  | .int32 left, .int32 right => left == right
  | .int64 left, .int64 right => left == right
  | _, _ => false

/-- The error of an operation that needs two tensors of one type; sizes are
looked at before element types. -/
def mismatch (what : String) (target other : Tensor) : TensorError :=
  if target.sizes = other.sizes then
    .elementTypeMismatch what other.elementType target.elementType
  else .sizesMismatch what other.sizes target.sizes

/-- What a tensor holds after another one has been written over it. -/
def assign (target source : Tensor) : Except TensorError Tensor :=
  if source.type = target.type then .ok source
  else .error (mismatch "assign" target source)

def add (left right : Tensor) : Except TensorError Tensor :=
  if same : left.sizes = right.sizes then
    match left, right, same with
    | .float32 left, .float32 right, same => .ok (.float32 (left.zipWith (· + ·) right same))
    | .float64 left, .float64 right, same => .ok (.float64 (left.zipWith (· + ·) right same))
    | .int32 left, .int32 right, same => .ok (.int32 (left.zipWith (· + ·) right same))
    | .int64 left, .int64 right, same => .ok (.int64 (left.zipWith (· + ·) right same))
    | left, right, _ => .error (mismatch "add" left right)
  else .error (mismatch "add" left right)

/-- Every element times a factor; only floating point tensors can be scaled.
Single precision elements are multiplied in single precision. -/
def scale (factor : Float) : Tensor → Except TensorError Tensor
  | .float32 array => .ok (.float32 (array.map (· * factor.toFloat32)))
  | .float64 array => .ok (.float64 (array.map (· * factor)))
  | .int32 _ => .error (.unsupported "scale" .int32)
  | .int64 _ => .error (.unsupported "scale" .int64)

end Tensor

end FederatedLearning
