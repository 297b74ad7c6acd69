import FederatedLearning.HostValue
import FederatedLearning.Proofs.NamedElements
import FederatedLearning.Proofs.TypeMembership

/-!
# What host values keep

Turning a value into a host value loses nothing.  A host value tells which value it comes
from: a number comes from a tensor without dimensions, a list from a record without names.
Tensors with dimensions and records with a name somewhere stay what they are, so an array
without dimensions or a record without a name comes from no value, and no other host value
is left out.

Two values compare as equal exactly when their host values do.  Numbers are compared there
in the way of their own type, so that this says something else than that no two values have
the same host value.
-/

namespace FederatedLearning

namespace Record

variable {α β : Type} {record : Record α}

theorem values_map (function : α → β) (record : Record α) :
    (record.map function).values = record.values.map function := by
  simp [values, map, Function.comp_def]

theorem hasNames_eq_any (record : Record α) :
    record.hasNames = record.labels.any Option.isSome := by
  simp [hasNames, labels, Function.comp_def]

theorem hasNames_eq_of_labels_eq {left right : Record α} (same : left.labels = right.labels) :
    left.hasNames = right.hasNames := by
  rw [hasNames_eq_any, hasNames_eq_any, same]

theorem hasNames_map (function : α → β) (record : Record α) :
    (record.map function).hasNames = record.hasNames := by
  rw [hasNames_eq_any, hasNames_eq_any, labels_map]

theorem hasNames_iff :
    record.hasNames = true ↔ ∃ name item, (some name, item) ∈ record.elements := by
  simp [hasNames, Option.isSome_iff_exists]

theorem label_eq_none_of_mem (unnamed : ¬record.hasNames = true) {element : Option String × α}
    (inside : element ∈ record.elements) : element.1 = none := by
  obtain ⟨label, item⟩ := element
  cases label with
  | none => rfl
  | some name => exact absurd (hasNames_iff.mpr ⟨name, item, inside⟩) unnamed

theorem labels_eq_replicate (unnamed : ¬record.hasNames = true) :
    record.labels = List.replicate record.values.length none := by
  apply List.eq_replicate_iff.mpr
  refine ⟨by simp [labels, values], ?_⟩
  intro label inside
  obtain ⟨element, among, rfl⟩ := List.mem_map.mp inside
  exact label_eq_none_of_mem unnamed among

end Record

/-- Arrays without dimensions hold one element. -/
theorem DenseArray.exists_scalar {α : Type} {array : DenseArray α} (flat : array.sizes = []) :
    ∃ element, array = .scalar element := by
  obtain ⟨sizes, elements, complete⟩ := array
  cases flat
  obtain ⟨element, rfl⟩ := List.length_eq_one_iff.mp complete
  exact ⟨element, rfl⟩

theorem DenseArray.beq_iff {α : Type} [BEq α] {left right : DenseArray α} :
    (left == right) = true ↔
      left.sizes = right.sizes ∧ (left.elements == right.elements) = true := by
  change (left.sizes == right.sizes && left.elements == right.elements) = true ↔ _
  rw [Bool.and_eq_true, beq_iff_eq]

theorem DenseArray.scalar_beq {α : Type} [BEq α] (left right : α) :
    (scalar left == scalar right) = (left == right) := by
  rw [Bool.eq_iff_iff, beq_iff]
  simp [scalar]

namespace Tensor

variable {tensor left right : Tensor}

/-- The tensors that become numbers. -/
inductive IsNumber : Tensor → Prop where
  | float32 (number : Float32) : IsNumber (.float32 (.scalar number))
  | float64 (number : Float) : IsNumber (.float64 (.scalar number))
  | int32 (number : Int32) : IsNumber (.int32 (.scalar number))
  | int64 (number : Int64) : IsNumber (.int64 (.scalar number))

theorem isNumber_of_sizes_eq_nil (flat : tensor.sizes = []) : tensor.IsNumber := by
  cases tensor with
  | float32 array =>
      obtain ⟨number, rfl⟩ := DenseArray.exists_scalar flat
      exact .float32 number
  | float64 array =>
      obtain ⟨number, rfl⟩ := DenseArray.exists_scalar flat
      exact .float64 number
  | int32 array =>
      obtain ⟨number, rfl⟩ := DenseArray.exists_scalar flat
      exact .int32 number
  | int64 array =>
      obtain ⟨number, rfl⟩ := DenseArray.exists_scalar flat
      exact .int64 number

theorem equals_eq_false_of_sizes_ne (differ : left.sizes ≠ right.sizes) :
    left.equals right = false := by
  rw [Bool.eq_false_iff]
  intro equal
  apply differ
  cases left <;> cases right
  all_goals first
    | exact (DenseArray.beq_iff.mp equal).1
    | cases equal

end Tensor

theorem Value.equals_record_iff {left right : Record Value} :
    (Value.record left).equals (.record right) = true ↔
      left.labels = right.labels ∧
        List.Forall₂ (fun item item' => item.equals item' = true) left.values right.values := by
  obtain ⟨left⟩ := left
  obtain ⟨right⟩ := right
  rw [equals, Record.labels, Record.labels, Record.values, Record.values]
  induction left generalizing right with
  | nil => cases right <;> simp [equalsElements]
  | cons element rest induction =>
      cases right with
      | nil => simp [equalsElements]
      | cons element' rest' => simp [equalsElements, induction, and_assoc, and_left_comm]

namespace HostValue

variable {host part : HostValue} {tensor left right : Tensor}

/-- The part is the host value itself or stands somewhere in it. -/
inductive Occurs (part : HostValue) : HostValue → Prop where
  | here : Occurs part part
  | item {items : List HostValue} {item : HostValue} :
      item ∈ items → Occurs part item → Occurs part (.list items)
  | member {members : Record HostValue} {element : Option String × HostValue} :
      element ∈ members.elements → Occurs part element.2 → Occurs part (.record members)

/-- All arrays in the host value have dimensions, and all records in it have a name. -/
structure Unwrapped (host : HostValue) : Prop where
  ranked : ∀ tensor : Tensor, Occurs (.array tensor) host → 1 ≤ tensor.sizes.length
  named : ∀ members : Record HostValue, Occurs (.record members) host →
    ∃ name item, (some name, item) ∈ members.elements

namespace Unwrapped

theorem of_item {items : List HostValue} {item : HostValue} (unwrapped : (list items).Unwrapped)
    (inside : item ∈ items) : item.Unwrapped where
  ranked tensor occurs := unwrapped.ranked tensor (.item inside occurs)
  named members occurs := unwrapped.named members (.item inside occurs)

theorem of_member {members : Record HostValue} {element : Option String × HostValue}
    (unwrapped : (record members).Unwrapped) (inside : element ∈ members.elements) :
    element.2.Unwrapped where
  ranked tensor occurs := unwrapped.ranked tensor (.member inside occurs)
  named members occurs := unwrapped.named members (.member inside occurs)

theorem array (ranked : tensor.sizes ≠ []) : (HostValue.array tensor).Unwrapped where
  ranked other occurs := by
    cases occurs
    exact List.length_pos_iff.mpr ranked
  named members occurs := by cases occurs

theorem list {items : List HostValue} (each : ∀ item ∈ items, item.Unwrapped) :
    (HostValue.list items).Unwrapped where
  ranked tensor occurs := by
    cases occurs with
    | item inside occurs => exact (each _ inside).ranked tensor occurs
  named members occurs := by
    cases occurs with
    | item inside occurs => exact (each _ inside).named members occurs

theorem record {members : Record HostValue} (hasNames : members.hasNames = true)
    (each : ∀ element ∈ members.elements, element.2.Unwrapped) :
    (HostValue.record members).Unwrapped where
  ranked tensor occurs := by
    cases occurs with
    | member inside occurs => exact (each _ inside).ranked tensor occurs
  named others occurs := by
    cases occurs with
    | here => exact Record.hasNames_iff.mp hasNames
    | member inside occurs => exact (each _ inside).named others occurs

end Unwrapped

theorem ofTensor_of_ranked (ranked : tensor.sizes ≠ []) : ofTensor tensor = .array tensor := by
  unfold ofTensor
  split
  · exact absurd rfl ranked
  · exact absurd rfl ranked
  · exact absurd rfl ranked
  · exact absurd rfl ranked
  · rfl

theorem unwrapped_ofTensor (tensor : Tensor) : (ofTensor tensor).Unwrapped := by
  by_cases flat : tensor.sizes = []
  · cases Tensor.isNumber_of_sizes_eq_nil flat
    all_goals
      constructor
      · intro array occurs
        cases occurs
      · intro members occurs
        cases occurs
  · rw [ofTensor_of_ranked flat]
    exact .array flat

mutual

/-- The value that a host value comes from. -/
def toValue : HostValue → Value
  | .float32 number => .tensor (.float32 (.scalar number))
  | .float64 number => .tensor (.float64 (.scalar number))
  | .int32 number => .tensor (.int32 (.scalar number))
  | .int64 number => .tensor (.int64 (.scalar number))
  | .array tensor => .tensor tensor
  | .list items => .record ⟨toValueItems items⟩
  | .record ⟨elements⟩ => .record ⟨toValueElements elements⟩
termination_by structural host => host

def toValueItems : List HostValue → List (Option String × Value)
  | [] => []
  | item :: rest => (none, toValue item) :: toValueItems rest
termination_by structural items => items

def toValueElements : List (Option String × HostValue) → List (Option String × Value)
  | [] => []
  | (name, item) :: rest => (name, toValue item) :: toValueElements rest
termination_by structural elements => elements

end

@[simp] theorem toValueItems_eq_map (items : List HostValue) :
    toValueItems items = items.map fun item => (none, toValue item) := by
  induction items with
  | nil => rfl
  | cons item rest induction => simp [toValueItems, induction]

@[simp] theorem toValueElements_eq_map (elements : List (Option String × HostValue)) :
    toValueElements elements = elements.map fun element => (element.1, toValue element.2) := by
  induction elements with
  | nil => rfl
  | cons element rest induction => simp [toValueElements, induction]

theorem toValue_ofTensor (tensor : Tensor) : toValue (ofTensor tensor) = .tensor tensor := by
  by_cases flat : tensor.sizes = []
  · cases Tensor.isNumber_of_sizes_eq_nil flat
    all_goals rfl
  · rw [ofTensor_of_ranked flat]
    rfl

/-- A record without names becomes a list, any other record keeps its names. -/
theorem ofValue_record (members : Record Value) :
    ofValue (.record members) =
      if members.hasNames then .record (members.map ofValue)
      else .list (members.values.map ofValue) := by
  obtain ⟨elements⟩ := members
  simp [ofValue, Record.map, Record.values, Function.comp_def]

theorem Unwrapped.ofValue (value : Value) : (HostValue.ofValue value).Unwrapped := by
  induction value using Value.induct with
  | tensorCase leaf => exact unwrapped_ofTensor leaf
  | recordCase members induction =>
      rw [ofValue_record]
      split
      · rename_i hasNames
        apply Unwrapped.record
        · rw [Record.hasNames_map, hasNames]
        · intro element inside
          obtain ⟨source, among, rfl⟩ := List.mem_map.mp inside
          exact induction source among
      · apply Unwrapped.list
        intro item inside
        obtain ⟨value, among, rfl⟩ := List.mem_map.mp inside
        obtain ⟨source, here, rfl⟩ := List.mem_map.mp among
        exact induction source here

/-- The value can be told from its host value. -/
theorem toValue_ofValue (value : Value) : toValue (ofValue value) = value := by
  induction value using Value.induct with
  | tensorCase leaf => exact toValue_ofTensor leaf
  | recordCase members induction =>
      rw [ofValue_record]
      split
      · have restored : members.elements.map
            (fun element => (element.1, toValue (HostValue.ofValue element.2))) =
              members.elements.map id := by
          apply List.map_congr_left
          intro element inside
          rw [induction element inside]
          rfl
        simp [toValue, Record.map, Function.comp_def, restored]
      · rename_i unnamed
        have restored : members.elements.map
            (fun element => ((none : Option String), toValue (HostValue.ofValue element.2))) =
              members.elements.map id := by
          apply List.map_congr_left
          intro element inside
          rw [induction element inside, ← Record.label_eq_none_of_mem unnamed inside]
          rfl
        simp [toValue, Record.values, Function.comp_def, restored]

mutual

theorem ofValue_toValue : ∀ {host : HostValue}, host.Unwrapped → ofValue (toValue host) = host
  | .float32 _, _ => rfl
  | .float64 _, _ => rfl
  | .int32 _, _ => rfl
  | .int64 _, _ => rfl
  | .array tensor, unwrapped =>
      ofTensor_of_ranked (List.length_pos_iff.mp (unwrapped.ranked tensor .here))
  | .list items, unwrapped => by
      have restored := ofValue_toValueItems items fun item inside => unwrapped.of_item inside
      have unnamed : ¬(Record.mk (items.map fun item =>
          ((none : Option String), toValue item))).hasNames = true := by
        simp [Record.hasNames]
      rw [toValue, toValueItems_eq_map, ofValue_record, if_neg unnamed]
      simp only [Record.values, List.map_map, Function.comp_def, restored]
  | .record ⟨elements⟩, unwrapped => by
      have restored := ofValue_toValueElements elements fun element inside =>
        unwrapped.of_member inside
      have hasNames : (Record.mk (elements.map fun element =>
          (element.1, toValue element.2))).hasNames = true := by
        have named := Record.hasNames_iff.mpr (unwrapped.named ⟨elements⟩ .here)
        exact (Record.hasNames_map toValue ⟨elements⟩).trans named
      rw [toValue, toValueElements_eq_map, ofValue_record, if_pos hasNames]
      simp only [Record.map, List.map_map, Function.comp_def, restored]

theorem ofValue_toValueItems : ∀ items : List HostValue, (∀ item ∈ items, item.Unwrapped) →
    items.map (fun item => ofValue (toValue item)) = items
  | [], _ => rfl
  | item :: rest, each => by
      have here := ofValue_toValue (each item List.mem_cons_self)
      have later := ofValue_toValueItems rest fun other inside =>
        each other (List.mem_cons_of_mem item inside)
      rw [List.map_cons, here, later]

theorem ofValue_toValueElements : ∀ elements : List (Option String × HostValue),
    (∀ element ∈ elements, element.2.Unwrapped) →
      elements.map (fun element => (element.1, ofValue (toValue element.2))) = elements
  | [], _ => rfl
  | (name, item) :: rest, each => by
      have here := ofValue_toValue (each (name, item) List.mem_cons_self)
      have later := ofValue_toValueElements rest fun other inside =>
        each other (List.mem_cons_of_mem (name, item) inside)
      rw [List.map_cons, here, later]

end

theorem equals_list_iff {left right : List HostValue} :
    (list left).equals (.list right) = true ↔
      List.Forall₂ (fun item item' => item.equals item' = true) left right := by
  rw [equals]
  induction left generalizing right with
  | nil => cases right <;> simp [equalsList]
  | cons item rest induction =>
      cases right with
      | nil => simp [equalsList]
      | cons item' rest' => simp [equalsList, induction]

theorem equals_record_iff {left right : Record HostValue} :
    (record left).equals (.record right) = true ↔
      left.labels = right.labels ∧
        List.Forall₂ (fun item item' => item.equals item' = true) left.values right.values := by
  obtain ⟨left⟩ := left
  obtain ⟨right⟩ := right
  rw [equals, Record.labels, Record.labels, Record.values, Record.values]
  induction left generalizing right with
  | nil => cases right <;> simp [equalsElements]
  | cons element rest induction =>
      cases right with
      | nil => simp [equalsElements]
      | cons element' rest' => simp [equalsElements, induction, and_assoc, and_left_comm]

theorem equals_ofTensor (left right : Tensor) :
    (ofTensor left).equals (ofTensor right) = left.equals right := by
  by_cases flat : left.sizes = []
  · by_cases flat' : right.sizes = []
    · cases Tensor.isNumber_of_sizes_eq_nil flat <;> cases Tensor.isNumber_of_sizes_eq_nil flat'
      all_goals first
        | exact (DenseArray.scalar_beq _ _).symm
        | rfl
    · have differ : left.sizes ≠ right.sizes := fun same => flat' (same.symm.trans flat)
      rw [Tensor.equals_eq_false_of_sizes_ne differ, ofTensor_of_ranked flat']
      cases Tensor.isNumber_of_sizes_eq_nil flat <;> rfl
  · rw [ofTensor_of_ranked flat]
    by_cases flat' : right.sizes = []
    · have differ : left.sizes ≠ right.sizes := fun same => flat (same.trans flat')
      rw [Tensor.equals_eq_false_of_sizes_ne differ]
      cases Tensor.isNumber_of_sizes_eq_nil flat' <;> rfl
    · rw [ofTensor_of_ranked flat']
      rfl

theorem equals_ofTensor_record (tensor : Tensor) (members : Record Value) :
    (ofTensor tensor).equals (ofValue (.record members)) = false ∧
      (ofValue (.record members)).equals (ofTensor tensor) = false := by
  rw [ofValue_record]
  by_cases flat : tensor.sizes = []
  · cases Tensor.isNumber_of_sizes_eq_nil flat <;> split <;> exact ⟨rfl, rfl⟩
  · rw [ofTensor_of_ranked flat]
    split <;> exact ⟨rfl, rfl⟩

theorem forall₂_equals_map_ofValue {items others : List Value}
    (alike : ∀ item ∈ items, ∀ other : Value,
      (ofValue item).equals (ofValue other) = item.equals other) :
    List.Forall₂ (fun item other => item.equals other = true) (items.map ofValue)
        (others.map ofValue) ↔
      List.Forall₂ (fun item other => item.equals other = true) items others := by
  rw [List.forall₂_map_left_iff, List.forall₂_map_right_iff]
  constructor
  · intro related
    apply forall₂_imp_of_mem related
    intro item inside other _ here
    exact (alike item inside other).symm.trans here
  · intro related
    apply forall₂_imp_of_mem related
    intro item inside other _ here
    exact (alike item inside other).trans here

theorem equals_ofValue_record {left right : Record Value}
    (alike : ∀ item ∈ left.values, ∀ other : Value,
      (ofValue item).equals (ofValue other) = item.equals other) :
    (ofValue (.record left)).equals (ofValue (.record right)) = true ↔
      (Value.record left).equals (.record right) = true := by
  rw [Value.equals_record_iff, ofValue_record, ofValue_record]
  by_cases named : left.hasNames = true
  · by_cases named' : right.hasNames = true
    · rw [if_pos named, if_pos named', equals_record_iff, Record.labels_map, Record.labels_map,
        Record.values_map, Record.values_map, forall₂_equals_map_ofValue alike]
    · rw [if_pos named, if_neg named']
      constructor
      · intro equal
        cases equal
      · intro both
        exact absurd ((Record.hasNames_eq_of_labels_eq both.1).symm.trans named) named'
  · by_cases named' : right.hasNames = true
    · rw [if_neg named, if_pos named']
      constructor
      · intro equal
        cases equal
      · intro both
        exact absurd ((Record.hasNames_eq_of_labels_eq both.1).trans named') named
    · rw [if_neg named, if_neg named', equals_list_iff,
        forall₂_equals_map_ofValue alike]
      constructor
      · intro related
        refine ⟨?_, related⟩
        rw [Record.labels_eq_replicate named, Record.labels_eq_replicate named',
          related.length_eq]
      · exact And.right

/-- Values and their host values compare alike. -/
theorem equals_ofValue (left right : Value) :
    (ofValue left).equals (ofValue right) = left.equals right := by
  induction left using Value.induct generalizing right with
  | tensorCase leaf =>
      cases right with
      | tensor leaf' => exact equals_ofTensor leaf leaf'
      | record members => exact (equals_ofTensor_record leaf members).1
  | recordCase members induction =>
      cases right with
      | tensor leaf => exact (equals_ofTensor_record leaf members).2
      | record members' =>
          apply Bool.eq_iff_iff.mpr
          apply equals_ofValue_record
          intro item inside
          obtain ⟨element, among, rfl⟩ := List.mem_map.mp inside
          exact induction element among

/-- No two values have the same host value, and a host value is that of some value exactly
when all arrays in it have a dimension and all records in it a name.  Values compare as
their host values do. -/
theorem ofValue_loses_nothing :
    Function.Injective ofValue ∧
      (∀ host : HostValue, (∃ value, ofValue value = host) ↔ host.Unwrapped) ∧
        ∀ left right : Value, (ofValue left).equals (ofValue right) = left.equals right := by
  refine ⟨?_, ?_, equals_ofValue⟩
  · intro left right same
    have restored : toValue (ofValue left) = toValue (ofValue right) := congrArg toValue same
    rwa [toValue_ofValue, toValue_ofValue] at restored
  · intro host
    constructor
    · rintro ⟨value, rfl⟩
      exact Unwrapped.ofValue value
    · intro unwrapped
      exact ⟨toValue host, ofValue_toValue unwrapped⟩

end HostValue

end FederatedLearning
