import FederatedLearning.Proofs.ValueTypes
import Mathlib.Data.List.Forall2

/-!
# Values of a type

A value belongs to a type when it has the names of the type in their order, and every
tensor has the element type, and sizes that the type admits, at its place.  A value
belongs to a type exactly when the type accepts the type of the value.

A type accepts another one exactly when all values of the other one belong to it.
Acceptance is transitive, so it carries values over.  Conversely, two values tell
whether a type is accepted: the one that sets all undefined dimensions to zero, and
the one that sets them all to one.  A fixed size differs from one of the two wherever
the other type leaves the size undefined.
-/

namespace FederatedLearning

section

variable {α β γ : Type}

theorem forall₂_imp_of_mem {holds holds' : α → β → Prop} {items : List α} {results : List β}
    (related : List.Forall₂ holds items results)
    (implies : ∀ item ∈ items, ∀ result ∈ results, holds item result → holds' item result) :
    List.Forall₂ holds' items results := by
  induction related with
  | nil => exact .nil
  | cons here _ induction =>
      refine .cons (implies _ (by simp) _ (by simp) here) (induction ?_)
      intro item inside result member
      exact implies item (by simp [inside]) result (by simp [member])

theorem forall₂_trans_of_mem {first : α → β → Prop} {second : β → γ → Prop}
    {both : α → γ → Prop} {items : List α} {middles : List β} {results : List γ}
    (ahead : List.Forall₂ first items middles) (behind : List.Forall₂ second middles results)
    (compose : ∀ item ∈ items, ∀ middle result, first item middle → second middle result →
      both item result) :
    List.Forall₂ both items results := by
  induction ahead generalizing results with
  | nil =>
      cases behind
      exact .nil
  | cons here _ induction =>
      cases behind with
      | cons there later =>
          refine .cons (compose _ (by simp) _ _ here there) (induction later ?_)
          intro item inside
          exact compose item (by simp [inside])

theorem forall₂_flatMap {holds : α → β → Prop} {parts : γ → List α} {parts' : γ → List β}
    {items others : List γ}
    (related : List.Forall₂ (fun item other => List.Forall₂ holds (parts item) (parts' other))
      items others) :
    List.Forall₂ holds (items.flatMap parts) (others.flatMap parts') := by
  induction related with
  | nil => exact .nil
  | cons here _ induction => exact List.rel_append here induction

end

namespace Shape

variable {expected got third : Shape} {dim dim' dim'' : Option Nat}

theorem accepts_iff_forall₂ :
    expected.accepts got = true ↔
      List.Forall₂ (fun dim dim' => dimAccepts dim dim' = true) expected.dims got.dims := by
  simp [accepts, List.forall₂_iff_zip]

theorem admits_eq_accepts (shape : Shape) (sizes : List Nat) :
    shape.admits sizes = shape.accepts (.ofSizes sizes) := by
  simp [admits, accepts, ofSizes, List.zip_map_right, List.all_map, Function.comp_def]

theorem dimAccepts_trans (first : dimAccepts dim dim' = true)
    (second : dimAccepts dim' dim'' = true) : dimAccepts dim dim'' = true := by
  cases dim with
  | none => rfl
  | some size =>
      simp only [dimAccepts, beq_iff_eq] at first
      subst first
      exact second

theorem accepts_trans (first : expected.accepts got = true) (second : got.accepts third = true) :
    expected.accepts third = true := by
  rw [accepts_iff_forall₂] at first second ⊢
  apply forall₂_trans_of_mem first second
  intro dim _ dim' dim''
  exact dimAccepts_trans

/-- The sizes of a shape, with one size in place of all undefined dimensions. -/
def filled (size : Nat) (shape : Shape) : List Nat :=
  shape.dims.map (·.getD size)

theorem admits_filled (shape : Shape) (size : Nat) : shape.admits (shape.filled size) = true := by
  rw [admits_eq_accepts, accepts_iff_forall₂]
  simp only [filled, ofSizes, List.forall₂_map_right_iff, List.forall₂_same]
  intro dim _
  cases dim <;> simp [dimAccepts]

/-- A dimension that accepts another one filled in two ways accepts it unfilled. -/
theorem dimAccepts_of_filled (zero : dimAccepts dim (some (dim'.getD 0)) = true)
    (one : dimAccepts dim (some (dim'.getD 1)) = true) : dimAccepts dim dim' = true := by
  cases dim with
  | none => rfl
  | some size =>
      cases dim' with
      | some size' => exact zero
      | none =>
          simp only [dimAccepts, Option.getD_none, beq_iff_eq, Option.some.injEq] at zero one
          omega

theorem accepts_of_filled (zeros : expected.admits (got.filled 0) = true)
    (ones : expected.admits (got.filled 1) = true) : expected.accepts got = true := by
  rw [admits_eq_accepts, accepts_iff_forall₂] at zeros ones
  simp only [filled, ofSizes, List.forall₂_map_right_iff] at zeros ones
  rw [accepts_iff_forall₂]
  exact List.Forall₂.mp (fun _ _ => dimAccepts_of_filled) zeros ones

end Shape

namespace ValueType

variable {expected got third : ValueType}

theorem unplaced_of_mem {members : Record ValueType} {element : Option String × ValueType}
    (unplaced : (record members).hasPlacement = false) (inside : element ∈ members.elements) :
    element.2.hasPlacement = false := by
  rw [hasPlacement, hasPlacementElements_eq_any, List.any_eq_false] at unplaced
  simpa using unplaced element inside

theorem accepts_tensor_iff {expected got : TensorType} :
    accepts (.tensor expected) (.tensor got) = true ↔
      expected.elementType = got.elementType ∧ expected.shape.accepts got.shape = true := by
  simp [accepts, TensorType.accepts]

theorem accepts_record_iff_forall₂ {expected got : Record ValueType} :
    accepts (.record expected) (.record got) = true ↔
      List.Forall₂ (fun left right => left.1 = right.1 ∧ left.2.accepts right.2 = true)
        expected.elements got.elements := by
  obtain ⟨expected⟩ := expected
  obtain ⟨got⟩ := got
  induction expected generalizing got with
  | nil => cases got <;> simp [accepts, acceptsElements]
  | cons element rest induction =>
      cases got with
      | nil => simp [accepts, acceptsElements]
      | cons element' rest' =>
          simp only [accepts] at induction
          simp [accepts, acceptsElements, induction]

theorem accepts_placed_iff {placement placement' : Placement} {allEqual allEqual' : Bool} :
    accepts (.placed expected placement allEqual) (.placed got placement' allEqual') = true ↔
      placement = placement' ∧ (allEqual = true → allEqual' = true) ∧
        expected.accepts got = true := by
  cases allEqual <;> simp [accepts, and_assoc]

/-- What accepts a type accepts every type that this one accepts. -/
theorem accepts_trans (first : expected.accepts got = true) (second : got.accepts third = true) :
    expected.accepts third = true := by
  induction expected using ValueType.induct generalizing got third with
  | tensorCase type =>
      cases got with
      | record members => cases first
      | placed member placement allEqual => cases first
      | tensor type' =>
          cases third with
          | record members => cases second
          | placed member placement allEqual => cases second
          | tensor type'' =>
              rw [accepts_tensor_iff] at first second ⊢
              exact ⟨first.1.trans second.1, Shape.accepts_trans first.2 second.2⟩
  | recordCase members induction =>
      cases got with
      | tensor type => cases first
      | placed member placement allEqual => cases first
      | record members' =>
          cases third with
          | tensor type => cases second
          | placed member placement allEqual => cases second
          | record members'' =>
              rw [accepts_record_iff_forall₂] at first second ⊢
              apply forall₂_trans_of_mem first second
              intro element inside middle last ahead behind
              exact ⟨ahead.1.trans behind.1, induction element inside ahead.2 behind.2⟩
  | placedCase member placement allEqual induction =>
      cases got with
      | tensor type => cases first
      | record members => cases first
      | placed member' placement' allEqual' =>
          cases third with
          | tensor type => cases second
          | record members => cases second
          | placed member'' placement'' allEqual'' =>
              rw [accepts_placed_iff] at first second ⊢
              obtain ⟨samePlacement, agree, ofFirst⟩ := first
              obtain ⟨samePlacement', agree', ofSecond⟩ := second
              exact ⟨samePlacement.trans samePlacement', agree' ∘ agree,
                induction ofFirst ofSecond⟩

/-- The tensors of an accepted type stand where those of the accepting type do, and each
is accepted by its counterpart. -/
theorem forall₂_tensors_of_accepts (accepted : expected.accepts got = true) :
    List.Forall₂ (fun left right => left.accepts right = true) expected.tensors got.tensors := by
  induction expected using ValueType.induct generalizing got with
  | tensorCase type =>
      cases got with
      | record members => cases accepted
      | placed member placement allEqual => cases accepted
      | tensor type' => exact .cons accepted .nil
  | recordCase members induction =>
      cases got with
      | tensor type => cases accepted
      | placed member placement allEqual => cases accepted
      | record members' =>
          rw [accepts_record_iff_forall₂] at accepted
          rw [tensors, tensors, tensorsElements_eq_flatMap, tensorsElements_eq_flatMap]
          apply forall₂_flatMap
          apply forall₂_imp_of_mem accepted
          intro element inside element' _ related
          exact induction element inside related.2
  | placedCase member placement allEqual induction =>
      cases got with
      | tensor type => cases accepted
      | record members => cases accepted
      | placed member' placement' allEqual' =>
          rw [accepts_placed_iff] at accepted
          rw [tensors, tensors]
          exact induction accepted.2.2

mutual

/-- The value of a type that is filled with zeros and has one size in place of all
undefined dimensions; a placed type is taken for its member type. -/
def sample (size : Nat) : ValueType → Value
  | .tensor type => .tensor (.zeros type.elementType (type.shape.filled size))
  | .record ⟨elements⟩ => .record ⟨sampleElements size elements⟩
  | .placed member _ _ => sample size member
termination_by structural type => type

def sampleElements (size : Nat) :
    List (Option String × ValueType) → List (Option String × Value)
  | [] => []
  | (name, type) :: rest => (name, sample size type) :: sampleElements size rest
termination_by structural elements => elements

end

@[simp] theorem sampleElements_eq_map (size : Nat) (elements : List (Option String × ValueType)) :
    sampleElements size elements =
      elements.map fun element => (element.1, element.2.sample size) := by
  induction elements with
  | nil => rfl
  | cons element rest induction => simp [sampleElements, induction]

end ValueType

namespace Value

mutual

/-- Whether the value is one of the type: the names agree in order, and every tensor
has the element type and sizes that are admitted at its place. -/
def Belongs : Value → ValueType → Prop
  | .tensor leaf, .tensor type =>
      leaf.elementType = type.elementType ∧ type.shape.admits leaf.sizes = true
  | .record ⟨elements⟩, .record ⟨members⟩ => BelongElements elements members
  | _, _ => False
termination_by structural value => value

def BelongElements :
    List (Option String × Value) → List (Option String × ValueType) → Prop
  | [], [] => True
  | (name, value) :: rest, (name', type) :: rest' =>
      name = name' ∧ Belongs value type ∧ BelongElements rest rest'
  | _, _ => False
termination_by structural elements => elements

end

variable {value : Value} {type expected got : ValueType}

theorem belongs_record_iff {members : Record Value} {types : Record ValueType} :
    (Value.record members).Belongs (.record types) ↔
      List.Forall₂ (fun type element => type.1 = element.1 ∧ element.2.Belongs type.2)
        types.elements members.elements := by
  obtain ⟨members⟩ := members
  obtain ⟨types⟩ := types
  induction members generalizing types with
  | nil => cases types <;> simp [Belongs, BelongElements]
  | cons element rest induction =>
      cases types with
      | nil => simp [Belongs, BelongElements]
      | cons type rest' =>
          simp only [Belongs] at induction
          simp [Belongs, BelongElements, induction, eq_comm, and_assoc]

/-- A value belongs to the types that accept its own. -/
theorem belongs_iff_accepts_typeOf : value.Belongs type ↔ type.accepts value.typeOf = true := by
  induction value using Value.induct generalizing type with
  | tensorCase leaf =>
      cases type with
      | record members => simp [Belongs, ValueType.accepts, typeOf]
      | placed member placement allEqual => simp [Belongs, ValueType.accepts, typeOf]
      | tensor type =>
          rw [Belongs, typeOf, ValueType.accepts_tensor_iff, Shape.admits_eq_accepts, eq_comm]
          rfl
  | recordCase members induction =>
      cases type with
      | tensor type => simp [Belongs, ValueType.accepts, typeOf_record]
      | placed member placement allEqual => simp [Belongs, ValueType.accepts, typeOf_record]
      | record types =>
          rw [belongs_record_iff, typeOf_record, ValueType.accepts_record_iff_forall₂]
          simp only [Record.map, List.forall₂_map_right_iff]
          constructor
          · intro belong
            apply forall₂_imp_of_mem belong
            intro type _ element inside here
            exact ⟨here.1, (induction element inside).mp here.2⟩
          · intro accepted
            apply forall₂_imp_of_mem accepted
            intro type _ element inside here
            exact ⟨here.1, (induction element inside).mpr here.2⟩

/-- A type without placed parts has a sample of every size. -/
theorem belongs_sample (unplaced : type.hasPlacement = false) (size : Nat) :
    (type.sample size).Belongs type := by
  induction type using ValueType.induct with
  | tensorCase type =>
      simp [ValueType.sample, Belongs, Shape.admits_filled]
  | recordCase members induction =>
      obtain ⟨elements⟩ := members
      rw [ValueType.sample, belongs_record_iff, ValueType.sampleElements_eq_map]
      simp only [List.forall₂_map_right_iff, List.forall₂_same]
      intro element inside
      exact ⟨trivial, induction element inside (ValueType.unplaced_of_mem unplaced inside)⟩
  | placedCase member placement allEqual induction => cases unplaced

/-- Two samples tell whether a type is accepted. -/
theorem accepts_of_samples (unplaced : got.hasPlacement = false)
    (zeros : (got.sample 0).Belongs expected) (ones : (got.sample 1).Belongs expected) :
    expected.accepts got = true := by
  induction got using ValueType.induct generalizing expected with
  | tensorCase type =>
      cases expected with
      | record members => cases zeros
      | placed member placement allEqual => cases zeros
      | tensor type' =>
          simp only [ValueType.sample, Belongs, Tensor.elementType_zeros,
            Tensor.sizes_zeros] at zeros ones
          exact ValueType.accepts_tensor_iff.mpr
            ⟨zeros.1.symm, Shape.accepts_of_filled zeros.2 ones.2⟩
  | recordCase members induction =>
      obtain ⟨elements⟩ := members
      cases expected with
      | tensor type => cases zeros
      | placed member placement allEqual => cases zeros
      | record types =>
          simp only [ValueType.sample, belongs_record_iff, ValueType.sampleElements_eq_map,
            List.forall₂_map_right_iff] at zeros ones
          have both := List.Forall₂.mp (fun _ _ zero one => And.intro zero one) zeros ones
          rw [ValueType.accepts_record_iff_forall₂]
          apply forall₂_imp_of_mem both
          rintro type _ element inside ⟨zero, one⟩
          have member := ValueType.unplaced_of_mem unplaced inside
          exact ⟨zero.1, induction element inside member zero.2 one.2⟩
  | placedCase member placement allEqual induction => cases unplaced

end Value

namespace ValueType

/-- A type accepts one without placed parts exactly when all values of that one belong
to it, and a value belongs to it exactly when it accepts the value's own type. -/
theorem accepts_iff_values_belong (expected got : ValueType)
    (unplaced : got.hasPlacement = false) :
    (expected.accepts got = true ↔
        ∀ value : Value, value.Belongs got → value.Belongs expected) ∧
      ∀ value : Value, value.Belongs expected ↔ expected.accepts value.typeOf = true := by
  refine ⟨⟨?_, ?_⟩, fun value => Value.belongs_iff_accepts_typeOf⟩
  · intro accepted value belongs
    rw [Value.belongs_iff_accepts_typeOf] at belongs ⊢
    exact accepts_trans accepted belongs
  · intro contained
    apply Value.accepts_of_samples unplaced
    · exact contained _ (Value.belongs_sample unplaced 0)
    · exact contained _ (Value.belongs_sample unplaced 1)

/-- Rows of the given width, undefined or not, beside how many of them count. -/
def rowsOf (width : Option Nat) : ValueType :=
  .record (.named [("rows", .tensor ⟨.float32, ⟨[none, width]⟩⟩),
    ("used", .record (.unnamed [.tensor (.ofSizes .int64 [])]))])

/-- Pairs are rows, and not all rows are pairs. -/
theorem pairs_belong_to_rows :
    (rowsOf (some 2)).hasPlacement = false ∧ (rowsOf none).hasPlacement = false ∧
      (∀ value : Value, value.Belongs (rowsOf (some 2)) → value.Belongs (rowsOf none)) ∧
        ¬∀ value : Value, value.Belongs (rowsOf none) → value.Belongs (rowsOf (some 2)) := by
  have pairsUnplaced : (rowsOf (some 2)).hasPlacement = false := rfl
  have rowsUnplaced : (rowsOf none).hasPlacement = false := rfl
  have accepted : (rowsOf none).accepts (rowsOf (some 2)) = true := by decide
  have refused : (rowsOf (some 2)).accepts (rowsOf none) ≠ true := by decide
  refine ⟨pairsUnplaced, rowsUnplaced, ?_, ?_⟩
  · exact (accepts_iff_values_belong (rowsOf none) (rowsOf (some 2)) pairsUnplaced).1.mp accepted
  · rwa [← (accepts_iff_values_belong (rowsOf (some 2)) (rowsOf none) rowsUnplaced).1]

end ValueType

end FederatedLearning
