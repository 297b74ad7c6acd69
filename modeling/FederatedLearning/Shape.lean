import FederatedLearning.ElementType

/-!
# Shapes and tensor types

A shape lists the dimensions of a tensor.  A dimension may be left undefined,
most often the leading one, which counts the examples of a batch.  A shape
describes all concrete sizes that agree with it on the defined dimensions.
-/

namespace FederatedLearning

/-- How many elements fit the given sizes: their product, and one without any. -/
def volume (sizes : List Nat) : Nat :=
  sizes.foldr (· * ·) 1

@[simp] theorem volume_nil : volume [] = 1 := rfl

@[simp] theorem volume_cons (size : Nat) (sizes : List Nat) :
    volume (size :: sizes) = size * volume sizes := rfl

/-- The dimensions of a tensor, each a size or undefined. -/
structure Shape where
  dims : List (Option Nat)
deriving DecidableEq, Repr

namespace Shape

def scalar : Shape := ⟨[]⟩

def ofSizes (sizes : List Nat) : Shape :=
  ⟨sizes.map some⟩

/-- An undefined leading dimension followed by defined ones. -/
def batched (sizes : List Nat) : Shape :=
  ⟨none :: sizes.map some⟩

def rank (shape : Shape) : Nat :=
  shape.dims.length

/-- The number of elements, unknown as soon as one dimension is undefined,
even when another one is zero. -/
def elementCount? (shape : Shape) : Option Nat :=
  (shape.dims.mapM id).map volume

/-- Whether one dimension describes every size that another one describes. -/
def dimAccepts : Option Nat → Option Nat → Bool
  | none, _ => true
  | some size, other => other == some size

def admits (shape : Shape) (sizes : List Nat) : Bool :=
  shape.dims.length == sizes.length &&
    (shape.dims.zip sizes).all fun (dim, size) => dimAccepts dim (some size)

/-- Whether the shape admits all sizes that the other one admits. -/
def accepts (shape other : Shape) : Bool :=
  shape.dims.length == other.dims.length &&
    (shape.dims.zip other.dims).all fun (dim, otherDim) => dimAccepts dim otherDim

def dimChars : Option Nat → List Char
  | none => ['?']
  | some size => Nat.toDigits 10 size

/-- The shape as text: nothing for a single number, otherwise the dimensions
in brackets. -/
def chars (shape : Shape) : List Char :=
  if shape.dims.isEmpty then []
  else '[' :: (List.intercalate [','] (shape.dims.map dimChars) ++ [']'])

def text (shape : Shape) : String :=
  String.ofList shape.chars

end Shape

structure TensorType where
  elementType : ElementType
  shape : Shape
deriving DecidableEq, Repr

namespace TensorType

def ofSizes (elementType : ElementType) (sizes : List Nat) : TensorType :=
  ⟨elementType, .ofSizes sizes⟩

def batched (elementType : ElementType) (sizes : List Nat) : TensorType :=
  ⟨elementType, .batched sizes⟩

def accepts (expected got : TensorType) : Bool :=
  expected.elementType == got.elementType && expected.shape.accepts got.shape

def chars (type : TensorType) : List Char :=
  type.elementType.text.toList ++ type.shape.chars

def text (type : TensorType) : String :=
  String.ofList type.chars

end TensorType

end FederatedLearning
