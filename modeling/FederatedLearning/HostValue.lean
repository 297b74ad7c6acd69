import FederatedLearning.Value.Basic

/-!
# Host values

The result of a computation in the form a host program works with: scalars
become plain numbers, records without names become lists, and records with a
name somewhere keep their names.
-/

namespace FederatedLearning

/-- A result as plain numbers, arrays, lists and named records. -/
inductive HostValue where
  | float32 (number : Float32)
  | float64 (number : Float)
  | int32 (number : Int32)
  | int64 (number : Int64)
  /-- A tensor of at least one dimension. -/
  | array (tensor : Tensor)
  | list (items : List HostValue)
  | record (members : Record HostValue)

namespace HostValue

def float? : HostValue → Option Float
  | .float32 number => some number.toFloat
  | .float64 number => some number
  | .int32 number => some number.toFloat
  | .int64 number => some number.toFloat
  | _ => none

/-- Tensors without dimensions become numbers of the matching kind. -/
def ofTensor : Tensor → HostValue
  | .float32 ⟨[], [number], _⟩ => .float32 number
  | .float64 ⟨[], [number], _⟩ => .float64 number
  | .int32 ⟨[], [number], _⟩ => .int32 number
  | .int64 ⟨[], [number], _⟩ => .int64 number
  | tensor => .array tensor

mutual

def ofValue : Value → HostValue
  | .tensor leaf => ofTensor leaf
  | .record ⟨elements⟩ =>
      let items := ofElements elements
      if (Record.mk elements).hasNames then .record ⟨items⟩
      else .list (items.map Prod.snd)
termination_by structural value => value

def ofElements : List (Option String × Value) → List (Option String × HostValue)
  | [] => []
  | (name, value) :: rest => (name, ofValue value) :: ofElements rest
termination_by structural elements => elements

end

@[simp] theorem ofElements_eq_map (elements : List (Option String × Value)) :
    ofElements elements = elements.map fun element => (element.1, ofValue element.2) := by
  induction elements with
  | nil => rfl
  | cons element rest induction => simp [ofElements, induction]

mutual

/-- Whether two host values are built alike from equal numbers. -/
def equals : HostValue → HostValue → Bool
  | .float32 left, .float32 right => left == right
  | .float64 left, .float64 right => left == right
  | .int32 left, .int32 right => left == right
  | .int64 left, .int64 right => left == right
  | .array left, .array right => left.equals right
  | .list left, .list right => equalsList left right
  | .record ⟨left⟩, .record ⟨right⟩ => equalsElements left right
  | _, _ => false
termination_by structural left => left

def equalsList : List HostValue → List HostValue → Bool
  | [], [] => true
  | left :: rest, right :: rest' => equals left right && equalsList rest rest'
  | _, _ => false
termination_by structural left => left

def equalsElements :
    List (Option String × HostValue) → List (Option String × HostValue) → Bool
  | [], [] => true
  | (name, left) :: rest, (name', right) :: rest' =>
      name == name' && equals left right && equalsElements rest rest'
  | _, _ => false
termination_by structural left => left

end

end HostValue

end FederatedLearning
