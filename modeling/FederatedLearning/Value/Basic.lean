import FederatedLearning.Tensor
import FederatedLearning.ValueType.Basic

/-!
# Values

A value is a tensor or a record of values.  Every value has a type, in which
all dimensions are defined, and its tensors are listed depth first.
-/

namespace FederatedLearning

/-- A nested record of tensors. -/
inductive Value where
  | tensor (leaf : Tensor)
  | record (members : Record Value)

namespace Value

instance : Inhabited Value := ⟨.record ∅⟩

instance : Coe Tensor Value := ⟨.tensor⟩

def named (entries : List (String × Value)) : Value :=
  .record (.named entries)

def unnamed (items : List Value) : Value :=
  .record (.unnamed items)

def tensor? : Value → Option Tensor
  | .tensor leaf => some leaf
  | .record _ => none

def record? : Value → Option (Record Value)
  | .tensor _ => none
  | .record members => some members

/-- The tensor of a value that has to be one; `what` tells for which purpose. -/
def asTensor (what : String) : Value → Except TensorError Tensor
  | .tensor leaf => .ok leaf
  | .record _ => .error (.notTensor what)

def asRecord (what : String) : Value → Except TensorError (Record Value)
  | .tensor _ => .error (.notRecord what)
  | .record members => .ok members

/-- The first element of a record that carries the name. -/
def field (value : Value) (name : String) : Except TensorError Value := do
  let members ← value.asRecord "field access"
  match members.find? name with
  | some item => return item
  | none => throw (.missingField name)

mutual

/-- Induction over values, with the hypothesis for every member of a record. -/
theorem induct {motive : Value → Prop}
    (tensorCase : ∀ leaf, motive (.tensor leaf))
    (recordCase : ∀ members : Record Value,
      (∀ element ∈ members.elements, motive element.2) → motive (.record members)) :
    ∀ value, motive value
  | .tensor leaf => tensorCase leaf
  | .record ⟨elements⟩ =>
      recordCase ⟨elements⟩ (inductElements tensorCase recordCase elements)

private theorem inductElements {motive : Value → Prop}
    (tensorCase : ∀ leaf, motive (.tensor leaf))
    (recordCase : ∀ members : Record Value,
      (∀ element ∈ members.elements, motive element.2) → motive (.record members)) :
    ∀ elements : List (Option String × Value), ∀ element ∈ elements, motive element.2
  | [] => by simp
  | (name, value) :: rest => by
      intro element member
      cases List.mem_cons.mp member with
      | inl same => exact same ▸ induct tensorCase recordCase value
      | inr later => exact inductElements tensorCase recordCase rest element later

end

mutual

/-- The type of a value: names and order are kept, and every tensor has its own
element type and sizes. -/
def typeOf : Value → ValueType
  | .tensor leaf => .tensor leaf.type
  | .record ⟨elements⟩ => .record ⟨typeOfElements elements⟩
termination_by structural value => value

def typeOfElements : List (Option String × Value) → List (Option String × ValueType)
  | [] => []
  | (name, value) :: rest => (name, typeOf value) :: typeOfElements rest
termination_by structural elements => elements

end

@[simp] theorem typeOfElements_eq_map (elements : List (Option String × Value)) :
    typeOfElements elements = elements.map fun element => (element.1, element.2.typeOf) := by
  induction elements with
  | nil => rfl
  | cons element rest induction => simp [typeOfElements, induction]

mutual

/-- All tensors of a value, depth first. -/
def leaves : Value → List Tensor
  | .tensor leaf => [leaf]
  | .record ⟨elements⟩ => leavesElements elements
termination_by structural value => value

def leavesElements : List (Option String × Value) → List Tensor
  | [] => []
  | (_, value) :: rest => leaves value ++ leavesElements rest
termination_by structural elements => elements

end

@[simp] theorem leavesElements_eq_flatMap (elements : List (Option String × Value)) :
    leavesElements elements = elements.flatMap fun element => element.2.leaves := by
  induction elements with
  | nil => rfl
  | cons element rest induction => simp [leavesElements, induction]

mutual

/-- Whether two values have the same names in the same order and equal tensors,
numbers compared in the way of their own type. -/
def equals : Value → Value → Bool
  | .tensor left, .tensor right => left.equals right
  | .record ⟨left⟩, .record ⟨right⟩ => equalsElements left right
  | _, _ => false
termination_by structural left => left

def equalsElements :
    List (Option String × Value) → List (Option String × Value) → Bool
  | [], [] => true
  | (name, left) :: rest, (name', right) :: rest' =>
      name == name' && equals left right && equalsElements rest rest'
  | _, _ => false
termination_by structural left => left

end

end Value

end FederatedLearning
