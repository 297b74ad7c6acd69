/-!
# Element types

The four kinds of number that a tensor can hold.
-/

namespace FederatedLearning

inductive ElementType where
  | float32
  | float64
  | int32
  | int64
deriving DecidableEq, Repr

namespace ElementType

def isFloating : ElementType → Bool
  | .float32 | .float64 => true
  | .int32 | .int64 => false

def text : ElementType → String
  | .float32 => "float32"
  | .float64 => "float64"
  | .int32 => "int32"
  | .int64 => "int64"

/-- The short name used in serialized types. -/
def tag : ElementType → String
  | .float32 => "f32"
  | .float64 => "f64"
  | .int32 => "i32"
  | .int64 => "i64"

def ofTag? : String → Option ElementType
  | "f32" => some .float32
  | "f64" => some .float64
  | "i32" => some .int32
  | "i64" => some .int64
  | _ => none

theorem ofTag?_tag (elementType : ElementType) :
    ofTag? elementType.tag = some elementType := by
  cases elementType <;> rfl

end ElementType

end FederatedLearning
