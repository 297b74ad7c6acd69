import FederatedLearning.Proofs.ValueTypes
import FederatedLearning.Value.Arithmetic

/-!
# When values can be added and scaled

Two values can be added exactly when they have the same type, and a value can be
scaled exactly when all its tensors hold floating point numbers.  A walk keeps
the type of the value that it changes, also when it ends early.
-/

namespace FederatedLearning

namespace Tensor

variable {left right sum tensor scaled : Tensor} {factor : Float}

theorem type_of_add_eq_ok (added : left.add right = .ok sum) :
    right.type = left.type ∧ sum.type = left.type := by
  unfold add at added
  split at added
  · rename_i same
    cases left <;> cases right <;> simp at added
    all_goals
      subst added
      exact ⟨type_eq_iff.mpr ⟨rfl, same.symm⟩, rfl⟩
  · simp at added

theorem exists_add_of_type_eq (same : left.type = right.type) :
    ∃ sum, left.add right = .ok sum := by
  obtain ⟨sameElements, sameSizes⟩ := type_eq_iff.mp same
  cases left <;> cases right <;> simp only [elementType, reduceCtorEq] at sameElements
  all_goals exact ⟨_, dif_pos sameSizes⟩

theorem type_of_scale_eq_ok (done : tensor.scale factor = .ok scaled) :
    tensor.elementType.isFloating = true ∧ scaled.type = tensor.type := by
  cases tensor <;> simp [scale] at done
  all_goals
    subst done
    exact ⟨rfl, rfl⟩

theorem exists_scale_of_isFloating (floating : tensor.elementType.isFloating = true) :
    ∃ scaled, tensor.scale factor = .ok scaled := by
  cases tensor with
  | float32 array => exact ⟨_, rfl⟩
  | float64 array => exact ⟨_, rfl⟩
  | int32 array => simp [elementType, ElementType.isFloating] at floating
  | int64 array => simp [elementType, ElementType.isFloating] at floating

end Tensor

namespace Value

namespace Walk

variable {name : Option String} {walk : Walk Value} {rest : List (Option String × Value)}
  {onward : Walk (List (Option String × Value))}

theorem outcome_followedBy_iff :
    (walk.followedBy name rest onward).outcome = .ok () ↔
      walk.outcome = .ok () ∧ onward.outcome = .ok () := by
  unfold followedBy
  cases walk.outcome <;> simp

theorem typeOf_followedBy (kept : typeOfElements onward.after = typeOfElements rest) :
    typeOfElements (walk.followedBy name rest onward).after =
      (name, walk.after.typeOf) :: typeOfElements rest := by
  unfold followedBy
  cases walk.outcome with
  | error error => rfl
  | ok reached => rw [typeOfElements, kept]

theorem result_eq_ok_iff {α : Type} {walk : Walk α} {result : α} :
    walk.result = .ok result ↔ walk.outcome = .ok () ∧ walk.after = result := by
  unfold Walk.result
  cases walk.outcome <;> simp [Except.map]

end Walk

theorem typeOf_record_eq_iff {left right : Record Value} :
    (Value.record left).typeOf = (Value.record right).typeOf ↔
      typeOfElements left.elements = typeOfElements right.elements := by
  simp [typeOf]

theorem typeOfElements_cons_eq_iff {name name' : Option String} {left right : Value}
    {rest rest' : List (Option String × Value)} :
    typeOfElements ((name, left) :: rest) = typeOfElements ((name', right) :: rest') ↔
      name = name' ∧ left.typeOf = right.typeOf ∧ typeOfElements rest = typeOfElements rest' := by
  simp [typeOfElements, and_assoc]

/-- The names of equally typed elements are those of their types. -/
theorem labels_eq_of_types_eq {left right : List (Option String × Value)}
    (same : typeOfElements left = typeOfElements right) :
    left.map Prod.fst = right.map Prod.fst := by
  have names := congrArg (List.map Prod.fst) same
  simpa [Function.comp_def] using names

private theorem typeOf_addToElements {targets : List (Option String × Value)}
    (induction : ∀ element ∈ targets, ∀ addend,
      (element.2.addTo addend).after.typeOf = element.2.typeOf)
    (addends : List (Option String × Value)) :
    typeOfElements (addToElements targets addends).after = typeOfElements targets := by
  induction targets generalizing addends with
  | nil => rfl
  | cons target targets inductionRest =>
      cases addends with
      | nil => rfl
      | cons addend addends =>
          have restKept := inductionRest
            (fun element member => induction element (by simp [member])) addends
          rw [addToElements, Walk.typeOf_followedBy restKept, induction target (by simp),
            typeOfElements]

/-- Adding onto a value keeps its type, whether or not the addition succeeds. -/
theorem typeOf_addTo (left right : Value) : (left.addTo right).after.typeOf = left.typeOf := by
  induction left using Value.induct generalizing right with
  | tensorCase leaf =>
      cases right with
      | record members => rfl
      | tensor addend =>
          rw [addTo]
          cases added : leaf.add addend with
          | error error => rfl
          | ok sum =>
              have kept := (Tensor.type_of_add_eq_ok added).2
              simp [Walk.ofStep, typeOf, kept]
  | recordCase members induction =>
      obtain ⟨targets⟩ := members
      cases right with
      | tensor leaf => rfl
      | record others =>
          obtain ⟨addends⟩ := others
          rw [addTo]
          split
          · rw [typeOf_record_eq_iff]
            exact typeOf_addToElements induction addends
          · rfl

private theorem outcome_addToElements_iff {targets : List (Option String × Value)}
    (induction : ∀ element ∈ targets, ∀ addend,
      (element.2.addTo addend).outcome = .ok () ↔ element.2.typeOf = addend.typeOf)
    (addends : List (Option String × Value))
    (sameNames : targets.map Prod.fst = addends.map Prod.fst) :
    (addToElements targets addends).outcome = .ok () ↔
      typeOfElements targets = typeOfElements addends := by
  induction targets generalizing addends with
  | nil =>
      cases addends with
      | nil => simp [addToElements]
      | cons addend addends => simp at sameNames
  | cons target targets inductionRest =>
      cases addends with
      | nil => simp at sameNames
      | cons addend addends =>
          obtain ⟨sameName, sameRest⟩ := List.cons.inj sameNames
          have restIff := inductionRest
            (fun element member => induction element (by simp [member])) addends sameRest
          rw [addToElements, Walk.outcome_followedBy_iff, induction target (by simp), restIff,
            typeOfElements_cons_eq_iff]
          exact (and_iff_right sameName).symm

/-- The walk of an addition reaches the end exactly when the types agree. -/
theorem outcome_addTo_iff (left right : Value) :
    (left.addTo right).outcome = .ok () ↔ left.typeOf = right.typeOf := by
  induction left using Value.induct generalizing right with
  | tensorCase leaf =>
      cases right with
      | record members => simp [addTo, typeOf]
      | tensor addend =>
          rw [addTo]
          cases added : leaf.add addend with
          | ok sum => simp [Walk.ofStep, typeOf, (Tensor.type_of_add_eq_ok added).1]
          | error error =>
              simp only [Walk.ofStep, typeOf, reduceCtorEq, ValueType.tensor.injEq, false_iff]
              intro same
              obtain ⟨sum, success⟩ := Tensor.exists_add_of_type_eq same
              rw [added] at success
              cases success
  | recordCase members induction =>
      obtain ⟨targets⟩ := members
      cases right with
      | tensor leaf => simp [addTo, typeOf]
      | record others =>
          obtain ⟨addends⟩ := others
          rw [addTo, typeOf_record_eq_iff]
          split
          · rename_i sameNames
            exact outcome_addToElements_iff induction addends sameNames
          · rename_i differ
            simp only [reduceCtorEq, false_iff]
            exact fun same => differ (labels_eq_of_types_eq same)

theorem add_eq_ok_iff {left right sum : Value} :
    left.add right = .ok sum ↔ left.typeOf = right.typeOf ∧ (left.addTo right).after = sum := by
  rw [add, Walk.result_eq_ok_iff, outcome_addTo_iff]

theorem typeOf_of_add_eq_ok {left right sum : Value} (added : left.add right = .ok sum) :
    sum.typeOf = left.typeOf := by
  obtain ⟨_, rfl⟩ := add_eq_ok_iff.mp added
  exact typeOf_addTo left right

/-- Scaling a value keeps its type, whether or not it succeeds. -/
theorem typeOf_scaleBy (factor : Float) (value : Value) :
    (value.scaleBy factor).after.typeOf = value.typeOf := by
  induction value using Value.induct with
  | tensorCase leaf =>
      rw [scaleBy]
      cases done : leaf.scale factor with
      | error error => rfl
      | ok scaled => simp [Walk.ofStep, typeOf, (Tensor.type_of_scale_eq_ok done).2]
  | recordCase members induction =>
      obtain ⟨elements⟩ := members
      rw [scaleBy, typeOf_record_eq_iff]
      induction elements with
      | nil => rfl
      | cons element elements inductionRest =>
          have restKept := inductionRest (fun later member => induction later (by simp [member]))
          rw [scaleByElements, Walk.typeOf_followedBy restKept, induction element (by simp),
            typeOfElements]

/-- The walk of a scaling reaches the end exactly when all tensors hold floating
point numbers. -/
theorem outcome_scaleBy_iff (factor : Float) (value : Value) :
    (value.scaleBy factor).outcome = .ok () ↔
      ∀ leaf ∈ value.leaves, leaf.elementType.isFloating = true := by
  induction value using Value.induct with
  | tensorCase leaf =>
      rw [scaleBy, leaves, List.forall_mem_singleton]
      cases done : leaf.scale factor with
      | ok scaled => simp [Walk.ofStep, (Tensor.type_of_scale_eq_ok done).1]
      | error error =>
          simp only [Walk.ofStep, reduceCtorEq, false_iff]
          intro floating
          obtain ⟨scaled, success⟩ := Tensor.exists_scale_of_isFloating floating
          rw [done] at success
          cases success
  | recordCase members induction =>
      obtain ⟨elements⟩ := members
      rw [scaleBy, leaves]
      induction elements with
      | nil => simp [scaleByElements, leavesElements]
      | cons element elements inductionRest =>
          have restIff := inductionRest (fun later member => induction later (by simp [member]))
          rw [scaleByElements, Walk.outcome_followedBy_iff, induction element (by simp), restIff,
            leavesElements, List.forall_mem_append]

theorem scale_eq_ok_iff {value scaled : Value} {factor : Float} :
    value.scale factor = .ok scaled ↔
      value.typeOf.IsFloating ∧ (value.scaleBy factor).after = scaled := by
  rw [scale, Walk.result_eq_ok_iff, outcome_scaleBy_iff, isFloating_typeOf_iff]

theorem exists_scale_iff {value : Value} {factor : Float} :
    (∃ scaled, value.scale factor = .ok scaled) ↔ value.typeOf.IsFloating := by
  simp [scale_eq_ok_iff]

theorem typeOf_of_scale_eq_ok {value scaled : Value} {factor : Float}
    (done : value.scale factor = .ok scaled) : scaled.typeOf = value.typeOf := by
  obtain ⟨_, rfl⟩ := scale_eq_ok_iff.mp done
  exact typeOf_scaleBy factor value

end Value

end FederatedLearning
