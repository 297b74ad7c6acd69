import FederatedLearning.Proofs.TypeMembership

/-!
# The order of types

Acceptance is an order on all types, placed ones included.  A type accepts itself and
whatever is accepted by a type that it accepts, and types that accept each other are the
same: an undefined dimension is accepted by an undefined one only, and a type whose values
may differ only by one whose values may differ as well.
-/

namespace FederatedLearning

/-- Lists that are related item by item in both directions are the same when related
items are. -/
theorem eq_of_forall₂_of_forall₂ {α : Type} {holds : α → α → Prop} {left right : List α}
    (ahead : List.Forall₂ holds left right) (back : List.Forall₂ holds right left)
    (same : ∀ item ∈ left, ∀ other, holds item other → holds other item → item = other) :
    left = right := by
  have both := List.Forall₂.mp (fun _ _ first second => And.intro first second) ahead back.flip
  have equal : List.Forall₂ Eq left right :=
    forall₂_imp_of_mem both fun item inside other _ related =>
      same item inside other related.1 related.2
  rwa [List.forall₂_eq_eq_eq] at equal

namespace Shape

variable {left right : Shape} {dim dim' : Option Nat}

theorem dimAccepts_refl (dim : Option Nat) : dimAccepts dim dim = true := by
  cases dim <;> simp [dimAccepts]

theorem dimAccepts_antisymm (first : dimAccepts dim dim' = true)
    (second : dimAccepts dim' dim = true) : dim = dim' := by
  cases dim with
  | some size =>
      rw [dimAccepts, beq_iff_eq] at first
      exact first.symm
  | none =>
      cases dim' with
      | none => rfl
      | some size' => cases second

theorem accepts_refl (shape : Shape) : shape.accepts shape = true := by
  rw [accepts_iff_forall₂, List.forall₂_same]
  intro dim _
  exact dimAccepts_refl dim

theorem accepts_antisymm (first : left.accepts right = true) (second : right.accepts left = true) :
    left = right := by
  rw [accepts_iff_forall₂] at first second
  have sameDims : left.dims = right.dims :=
    eq_of_forall₂_of_forall₂ first second fun _ _ _ => dimAccepts_antisymm
  exact congrArg Shape.mk sameDims

end Shape

namespace ValueType

variable {left right : ValueType}

theorem accepts_refl (type : ValueType) : type.accepts type = true := by
  induction type using ValueType.induct with
  | tensorCase type => exact accepts_tensor_iff.mpr ⟨rfl, type.shape.accepts_refl⟩
  | recordCase members induction =>
      rw [accepts_record_iff_forall₂, List.forall₂_same]
      intro element inside
      exact ⟨rfl, induction element inside⟩
  | placedCase member placement allEqual induction =>
      exact accepts_placed_iff.mpr ⟨rfl, id, induction⟩

theorem accepts_antisymm (first : left.accepts right = true) (second : right.accepts left = true) :
    left = right := by
  induction left using ValueType.induct generalizing right with
  | tensorCase type =>
      cases right with
      | record members => cases first
      | placed member placement allEqual => cases first
      | tensor type' =>
          obtain ⟨elementType, shape⟩ := type
          obtain ⟨elementType', shape'⟩ := type'
          rw [accepts_tensor_iff] at first second
          have sameElements : elementType = elementType' := first.1
          have sameShape : shape = shape' := Shape.accepts_antisymm first.2 second.2
          rw [sameElements, sameShape]
  | recordCase members induction =>
      cases right with
      | tensor type => cases first
      | placed member placement allEqual => cases first
      | record members' =>
          rw [accepts_record_iff_forall₂] at first second
          have sameElements : members.elements = members'.elements := by
            apply eq_of_forall₂_of_forall₂ first second
            intro element inside element' ahead back
            exact Prod.ext ahead.1 (induction element inside ahead.2 back.2)
          exact congrArg (fun elements => ValueType.record ⟨elements⟩) sameElements
  | placedCase member placement allEqual induction =>
      cases right with
      | tensor type => cases first
      | record members => cases first
      | placed member' placement' allEqual' =>
          rw [accepts_placed_iff] at first second
          obtain ⟨samePlacement, agree, ofFirst⟩ := first
          obtain ⟨_, agree', ofSecond⟩ := second
          -- Each direction alone lets one of the two allow different values.
          have sameAgreement : allEqual = allEqual' := Bool.eq_iff_iff.mpr ⟨agree, agree'⟩
          rw [samePlacement, sameAgreement, induction ofFirst ofSecond]

/-- Acceptance is reflexive, transitive and antisymmetric on all types. -/
theorem accepts_orders_types :
    (∀ type : ValueType, type.accepts type = true) ∧
      (∀ first second third : ValueType, first.accepts second = true →
        second.accepts third = true → first.accepts third = true) ∧
        ∀ left right : ValueType, left.accepts right = true → right.accepts left = true →
          left = right := by
  refine ⟨accepts_refl, ?_, ?_⟩
  · intro first second third ahead behind
    exact accepts_trans ahead behind
  · intro left right ahead back
    exact accepts_antisymm ahead back

/-- Pairs that are the same for all clients are accepted as pairs, and pairs as rows. -/
theorem pairs_ordered_at_clients :
    (atClients (rowsOf none)).accepts (atClients (rowsOf (some 2))) = true ∧
      (atClients (rowsOf (some 2))).accepts (.placed (rowsOf (some 2)) .clients true) = true ∧
        (atClients (rowsOf none)).accepts (.placed (rowsOf (some 2)) .clients true) = true ∧
          atClients (rowsOf none) = .placed (rowsOf none) .clients false := by
  have rows : (atClients (rowsOf none)).accepts (atClients (rowsOf (some 2))) = true := by decide
  have alike : (atClients (rowsOf (some 2))).accepts
      (.placed (rowsOf (some 2)) .clients true) = true := by decide
  obtain ⟨reflexive, transitive, antisymmetric⟩ := accepts_orders_types
  refine ⟨rows, alike, transitive _ _ _ rows alike, ?_⟩
  exact antisymmetric _ _ (reflexive (atClients (rowsOf none)))
    (reflexive (.placed (rowsOf none) .clients false))

end ValueType

end FederatedLearning
