import FederatedLearning.Value.Basic
import Mathlib.Data.List.Basic

/-!
# Types of values

The type of a value has the fields of the value, found by the same look-up, and
the tensors of the value, in the same order.  All dimensions being defined, it
tells how many elements each tensor holds.
-/

namespace FederatedLearning

theorem Record.find?_map {α β : Type} (function : α → β) (record : Record α) (name : String) :
    (record.map function).find? name = (record.find? name).map function := by
  obtain ⟨elements⟩ := record
  simp only [Record.find?, Record.map, List.find?_map, Option.map_map]
  rfl

theorem Record.mem_of_find?_eq_some {α : Type} {record : Record α} {name : String} {item : α}
    (found : record.find? name = some item) : (some name, item) ∈ record.elements := by
  obtain ⟨⟨label, item'⟩, isFound, same⟩ := Option.map_eq_some_iff.mp found
  cases same
  have labelled := List.find?_some isFound
  simp only [beq_iff_eq] at labelled
  exact labelled ▸ List.mem_of_find?_eq_some isFound

theorem Record.find?_named_map {α β : Type} {entries : List β} {key : β → String}
    {item : String → α} {name : String} (listed : name ∈ entries.map key) :
    (Record.named (entries.map fun entry => (key entry, item (key entry)))).find? name =
      some (item name) := by
  induction entries with
  | nil => simp at listed
  | cons entry rest induction =>
      by_cases same : key entry = name
      · simp [Record.find?, Record.named, same]
      · have later : name ∈ rest.map key :=
          (List.mem_cons.mp listed).resolve_left (Ne.symm same)
        simpa [Record.find?, Record.named, same] using induction later

namespace Tensor

theorem type_eq_iff {left right : Tensor} :
    left.type = right.type ↔ left.elementType = right.elementType ∧ left.sizes = right.sizes := by
  have someInjective : Function.Injective (some : Nat → Option Nat) :=
    fun _ _ same => Option.some.inj same
  simp [type, TensorType.ofSizes, Shape.ofSizes, List.map_inj_right someInjective]

@[simp] theorem elementType_zeros (elementType : ElementType) (sizes : List Nat) :
    (zeros elementType sizes).elementType = elementType := by
  cases elementType <;> rfl

@[simp] theorem sizes_zeros (elementType : ElementType) (sizes : List Nat) :
    (zeros elementType sizes).sizes = sizes := by
  cases elementType <;> rfl

theorem type_zeros (elementType : ElementType) (sizes : List Nat) :
    (zeros elementType sizes).type = .ofSizes elementType sizes := by
  rw [type, elementType_zeros, sizes_zeros]

theorem size_eq_volume (tensor : Tensor) : tensor.size = volume tensor.sizes := by
  cases tensor with
  | float32 array => exact array.complete
  | float64 array => exact array.complete
  | int32 array => exact array.complete
  | int64 array => exact array.complete

theorem elementCount?_type (tensor : Tensor) :
    tensor.type.shape.elementCount? = some tensor.size := by
  have defined : ∀ sizes : List Nat, (sizes.map some).mapM id = some sizes := by
    intro sizes
    induction sizes with
    | nil => rfl
    | cons size sizes induction => simp [induction]
  rw [size_eq_volume]
  simp [type, TensorType.ofSizes, Shape.ofSizes, Shape.elementCount?, defined]

theorem exists_scalar?_of_size_eq_one {tensor : Tensor} (single : tensor.size = 1) :
    ∃ number, tensor.scalar? = some number := by
  have only : ∀ {α : Type} {array : DenseArray α}, array.size = 1 →
      ∃ element, array.only? = some element := by
    intro α array one
    obtain ⟨element, elements⟩ := List.length_eq_one_iff.mp one
    exact ⟨element, by simp [DenseArray.only?, elements]⟩
  cases tensor with
  | float32 array =>
      obtain ⟨element, found⟩ := only single
      exact ⟨element.toFloat, by simp [scalar?, found]⟩
  | float64 array => exact only single
  | int32 array =>
      obtain ⟨element, found⟩ := only single
      exact ⟨element.toFloat, by simp [scalar?, found]⟩
  | int64 array =>
      obtain ⟨element, found⟩ := only single
      exact ⟨element.toFloat, by simp [scalar?, found]⟩

end Tensor

namespace ValueType

mutual

/-- All tensor types of a type, depth first; placed types are looked through. -/
def tensors : ValueType → List TensorType
  | .tensor type => [type]
  | .record ⟨elements⟩ => tensorsElements elements
  | .placed member _ _ => tensors member
termination_by structural type => type

def tensorsElements : List (Option String × ValueType) → List TensorType
  | [] => []
  | (_, type) :: rest => tensors type ++ tensorsElements rest
termination_by structural elements => elements

end

@[simp] theorem tensorsElements_eq_flatMap (elements : List (Option String × ValueType)) :
    tensorsElements elements = elements.flatMap fun element => element.2.tensors := by
  induction elements with
  | nil => rfl
  | cons element rest induction => simp [tensorsElements, induction]

/-- Every tensor of the type holds floating point numbers. -/
def IsFloating (type : ValueType) : Prop :=
  ∀ tensor ∈ type.tensors, tensor.elementType.isFloating = true

theorem IsFloating.of_field? {type member : ValueType} {name : String}
    (floating : type.IsFloating) (found : type.field? name = some member) :
    member.IsFloating := by
  obtain ⟨members, ofType, foundMember⟩ := Option.bind_eq_some_iff.mp found
  have inside := Record.mem_of_find?_eq_some foundMember
  cases type with
  | tensor type => cases ofType
  | placed member placement allEqual => cases ofType
  | record elements =>
      cases ofType
      intro tensor ofMember
      apply floating
      rw [tensors, tensorsElements_eq_flatMap]
      exact List.mem_flatMap_of_mem inside ofMember

end ValueType

namespace Value

theorem typeOf_record (members : Record Value) :
    (Value.record members).typeOf = .record (members.map typeOf) := by
  obtain ⟨elements⟩ := members
  simp [typeOf, Record.map]

theorem tensors_typeOf (value : Value) : value.typeOf.tensors = value.leaves.map Tensor.type := by
  induction value using Value.induct with
  | tensorCase leaf => rfl
  | recordCase members induction =>
      obtain ⟨elements⟩ := members
      simp only [typeOf, typeOfElements_eq_map, ValueType.tensors,
        ValueType.tensorsElements_eq_flatMap, leaves, leavesElements_eq_flatMap,
        List.flatMap_map, List.map_flatMap]
      exact List.flatMap_congr induction

theorem isFloating_typeOf_iff {value : Value} :
    value.typeOf.IsFloating ↔ ∀ leaf ∈ value.leaves, leaf.elementType.isFloating = true := by
  simp [ValueType.IsFloating, tensors_typeOf, Tensor.type, TensorType.ofSizes]

/-- A field is found in a value exactly when it is found in its type. -/
theorem field?_typeOf_eq_some_iff {value : Value} {name : String} {type : ValueType} :
    value.typeOf.field? name = some type ↔
      ∃ part, value.field name = .ok part ∧ part.typeOf = type := by
  cases value with
  | tensor leaf =>
      simp [typeOf, ValueType.field?, ValueType.record?, field, asRecord, bind, Except.bind]
  | record members =>
      rw [typeOf_record]
      simp only [ValueType.field?, ValueType.record?, Option.bind_some, Record.find?_map,
        field, asRecord, bind, Except.bind]
      cases members.find? name <;> simp [pure, Except.pure, throw, throwThe, MonadExceptOf.throw]

theorem typeOf_unnamed (items : List Value) :
    (Value.unnamed items).typeOf = .record (.unnamed (items.map typeOf)) := by
  simp [Value.unnamed, typeOf_record, Record.unnamed, Record.map]

theorem exists_leaf_of_typeOf_eq {value : Value} {type : TensorType}
    (typed : value.typeOf = .tensor type) : ∃ leaf : Tensor, value = .tensor leaf := by
  cases value with
  | tensor leaf => exact ⟨leaf, rfl⟩
  | record members => simp [typeOf] at typed

/-- A tensor of a type with a single element holds a number. -/
theorem exists_scalar?_of_typeOf_eq {leaf : Tensor} {type : TensorType}
    (typed : (tensor leaf).typeOf = .tensor type)
    (single : type.shape.elementCount? = some 1) : ∃ number, leaf.scalar? = some number := by
  apply Tensor.exists_scalar?_of_size_eq_one
  have leafType : leaf.type = type := by simpa [Value.typeOf] using typed
  rw [← leafType, Tensor.elementCount?_type] at single
  exact Option.some.inj single

/-- A value with the type of a tuple of tensors is a tuple of tensors. -/
theorem exists_leaves_of_typeOf_eq {value : Value} {types : List TensorType}
    (typed : value.typeOf = .record (.unnamed (types.map .tensor))) :
    ∃ leaves : List Tensor, value = .unnamed (leaves.map .tensor) := by
  cases value with
  | tensor leaf => simp [typeOf] at typed
  | record members =>
      obtain ⟨elements⟩ := members
      simp only [typeOf_record, ValueType.record.injEq, Record.map, Record.unnamed,
        Record.mk.injEq] at typed
      induction types generalizing elements with
      | nil =>
          cases elements with
          | nil => exact ⟨[], rfl⟩
          | cons element rest => simp at typed
      | cons type types induction =>
          cases elements with
          | nil => simp at typed
          | cons element rest =>
              obtain ⟨label, item⟩ := element
              simp only [List.map_cons, List.cons.injEq, Prod.mk.injEq] at typed
              obtain ⟨⟨rfl, itemTyped⟩, restTyped⟩ := typed
              obtain ⟨leaf, rfl⟩ := exists_leaf_of_typeOf_eq itemTyped
              obtain ⟨leaves, restTensors⟩ := induction rest restTyped
              cases restTensors
              exact ⟨leaf :: leaves, rfl⟩

end Value

end FederatedLearning
