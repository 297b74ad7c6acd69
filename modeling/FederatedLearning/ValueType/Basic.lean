import FederatedLearning.Record
import FederatedLearning.Shape

/-!
# Types of distributed values

A value type is a tensor type, a record of types, or a type placed at the
clients or at the server.

A type accepts another when every value of the other one is also its own: undefined
dimensions accept all sizes, records are compared element by element with the same
names, and a placed type that allows different values accepts one whose values are
known to agree.

Equality is decided by `ValueType.decEq`, and
`ValueType.induct` is the induction principle in which a record's members are
found by membership.
-/

namespace FederatedLearning

/-- Where the parts of a distributed value live. -/
inductive Placement where
  | clients
  | server
deriving DecidableEq, Repr

namespace Placement

def text : Placement → String
  | .clients => "CLIENTS"
  | .server => "SERVER"

/-- The short name used in serialized types. -/
def tag : Placement → String
  | .clients => "clients"
  | .server => "server"

def ofTag? : String → Option Placement
  | "clients" => some .clients
  | "server" => some .server
  | _ => none

theorem ofTag?_tag (placement : Placement) : ofTag? placement.tag = some placement := by
  cases placement <;> rfl

end Placement

inductive ValueType where
  | tensor (type : TensorType)
  | record (members : Record ValueType)
  /-- One value of the member type per participant of a placement; with
  `allEqual` they are known to agree. -/
  | placed (member : ValueType) (placement : Placement) (allEqual : Bool)

namespace ValueType

mutual

/-- Equality of types can be decided. -/
def decEq : (left right : ValueType) → Decidable (left = right)
  | .tensor left, .tensor right =>
      if same : left = right then isTrue (congrArg tensor same)
      else isFalse fun equal => same (tensor.inj equal)
  | .record ⟨left⟩, .record ⟨right⟩ =>
      match decEqElements left right with
      | isTrue same => isTrue (congrArg (fun elements => record ⟨elements⟩) same)
      | isFalse differ =>
          isFalse fun equal => differ (congrArg Record.elements (record.inj equal))
  | .placed left placement allEqual, .placed right placement' allEqual' =>
      match decEq left right with
      | isTrue same =>
          if agree : placement = placement' ∧ allEqual = allEqual' then
            isTrue (by rw [same, agree.1, agree.2])
          else isFalse fun equal => agree (placed.inj equal).2
      | isFalse differ => isFalse fun equal => differ (placed.inj equal).1
  | .tensor _, .record _ => isFalse (by simp)
  | .tensor _, .placed .. => isFalse (by simp)
  | .record _, .tensor _ => isFalse (by simp)
  | .record _, .placed .. => isFalse (by simp)
  | .placed .., .tensor _ => isFalse (by simp)
  | .placed .., .record _ => isFalse (by simp)
termination_by structural left => left

def decEqElements : (left right : List (Option String × ValueType)) →
    Decidable (left = right)
  | [], [] => isTrue rfl
  | (name, type) :: left, (name', type') :: right =>
      match decEq type type', decEqElements left right with
      | isTrue same, isTrue sameRest =>
          if agree : name = name' then isTrue (by rw [same, sameRest, agree])
          else isFalse (by simp [agree])
      | isFalse differ, _ => isFalse (by simp [differ])
      | _, isFalse differ => isFalse (by simp [differ])
  | [], _ :: _ => isFalse (by simp)
  | _ :: _, [] => isFalse (by simp)
termination_by structural left => left

end

instance : DecidableEq ValueType := decEq

instance : Inhabited ValueType := ⟨.record ∅⟩

mutual

/-- Induction over types, with the hypothesis for every member of a record. -/
theorem induct {motive : ValueType → Prop}
    (tensorCase : ∀ type, motive (.tensor type))
    (recordCase : ∀ members : Record ValueType,
      (∀ element ∈ members.elements, motive element.2) → motive (.record members))
    (placedCase : ∀ member placement allEqual,
      motive member → motive (.placed member placement allEqual)) :
    ∀ type, motive type
  | .tensor type => tensorCase type
  | .record ⟨elements⟩ =>
      recordCase ⟨elements⟩ (inductElements tensorCase recordCase placedCase elements)
  | .placed member placement allEqual =>
      placedCase member placement allEqual
        (induct tensorCase recordCase placedCase member)

private theorem inductElements {motive : ValueType → Prop}
    (tensorCase : ∀ type, motive (.tensor type))
    (recordCase : ∀ members : Record ValueType,
      (∀ element ∈ members.elements, motive element.2) → motive (.record members))
    (placedCase : ∀ member placement allEqual,
      motive member → motive (.placed member placement allEqual)) :
    ∀ elements : List (Option String × ValueType), ∀ element ∈ elements, motive element.2
  | [] => by simp
  | (name, type) :: rest => by
      intro element member
      cases List.mem_cons.mp member with
      | inl same => exact same ▸ induct tensorCase recordCase placedCase type
      | inr later =>
          exact inductElements tensorCase recordCase placedCase rest element later

end

def atClients (member : ValueType) : ValueType :=
  .placed member .clients false

def atServer (member : ValueType) : ValueType :=
  .placed member .server true

def tensor? : ValueType → Option TensorType
  | .tensor type => some type
  | _ => none

def record? : ValueType → Option (Record ValueType)
  | .record members => some members
  | _ => none

/-- The first member of a record type that carries the name. -/
def field? (type : ValueType) (name : String) : Option ValueType :=
  type.record?.bind (·.find? name)

mutual

def hasPlacement : ValueType → Bool
  | .tensor _ => false
  | .record ⟨elements⟩ => hasPlacementElements elements
  | .placed .. => true
termination_by structural type => type

def hasPlacementElements : List (Option String × ValueType) → Bool
  | [] => false
  | (_, type) :: rest => hasPlacement type || hasPlacementElements rest
termination_by structural elements => elements

end

@[simp] theorem hasPlacementElements_eq_any (elements : List (Option String × ValueType)) :
    hasPlacementElements elements = elements.any fun element => element.2.hasPlacement := by
  induction elements with
  | nil => rfl
  | cons element rest induction => simp [hasPlacementElements, induction]

mutual

/-- Whether every value of the second type is also a value of the first. -/
def accepts : ValueType → ValueType → Bool
  | .tensor expected, .tensor got => expected.accepts got
  | .record ⟨expected⟩, .record ⟨got⟩ => acceptsElements expected got
  | .placed expected placement allEqual, .placed got placement' allEqual' =>
      placement == placement' && (allEqual == allEqual' || !allEqual) &&
        accepts expected got
  | _, _ => false
termination_by structural expected => expected

def acceptsElements :
    List (Option String × ValueType) → List (Option String × ValueType) → Bool
  | [], [] => true
  | (name, expected) :: rest, (name', got) :: rest' =>
      name == name' && accepts expected got && acceptsElements rest rest'
  | _, _ => false
termination_by structural expected => expected

end

end ValueType

end FederatedLearning
