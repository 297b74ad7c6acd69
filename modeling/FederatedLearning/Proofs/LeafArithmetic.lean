import FederatedLearning.Proofs.WholeNumbers

/-!
# Sums and multiples, leaf by leaf

What an addition and a scaling do to the elements of a tensor is said here position
by position, apart from the operations: `Sums` and `Multiplies` relate tensors before
and after.  A walk over a value that reaches the end has changed every leaf in this
way and nothing else, and it reaches the end exactly when the types allow it.
-/

namespace FederatedLearning

namespace DenseArray

variable {α : Type} {left right array result : DenseArray α}

/-- All three arrays have the same sizes, and at every position the third one holds the
function of what the others hold there. -/
structure Combines (function : α → α → α) (left right result : DenseArray α) : Prop where
  left_sizes : result.sizes = left.sizes
  right_sizes : result.sizes = right.sizes
  element_eq : ∀ (position : Nat) (first second : α), left.elements[position]? = some first →
    right.elements[position]? = some second →
      result.elements[position]? = some (function first second)

/-- Both arrays have the same sizes, and at every position the second one holds the
function of what the first one holds there. -/
structure Transforms (function : α → α) (array result : DenseArray α) : Prop where
  sizes_eq : result.sizes = array.sizes
  element_eq : ∀ (position : Nat) (element : α), array.elements[position]? = some element →
    result.elements[position]? = some (function element)

/-- Arrays of the same sizes are equal when one holds what the other one holds. -/
theorem eq_of_elements_eq (sameSizes : left.sizes = right.sizes)
    (same : ∀ (position : Nat) (element : α), left.elements[position]? = some element →
      right.elements[position]? = some element) : left = right := by
  have elements : left.elements = right.elements := by
    apply List.ext_getElem?
    intro position
    cases found : left.elements[position]? with
    | some element => exact (same position element found).symm
    | none =>
        have beyond : right.elements.length ≤ position := by
          rw [right.complete, ← sameSizes, ← left.complete]
          exact List.getElem?_eq_none_iff.mp found
        exact (List.getElem?_eq_none beyond).symm
  cases left
  cases right
  cases sameSizes
  cases elements
  rfl

theorem combines_iff {function : α → α → α} :
    left.Combines function right result ↔
      ∃ same, left.zipWith function right same = result := by
  constructor
  · intro combines
    refine ⟨combines.left_sizes.symm.trans combines.right_sizes, ?_⟩
    apply eq_of_elements_eq
    · exact combines.left_sizes.symm
    · intro position element found
      obtain ⟨first, second, inLeft, inRight, rfl⟩ := List.getElem?_zipWith_eq_some.mp found
      exact combines.element_eq position first second inLeft inRight
  · rintro ⟨same, rfl⟩
    refine ⟨rfl, same, ?_⟩
    intro position first second inLeft inRight
    exact List.getElem?_zipWith_eq_some.mpr ⟨first, second, inLeft, inRight, rfl⟩

theorem transforms_iff {function : α → α} :
    array.Transforms function result ↔ array.map function = result := by
  constructor
  · intro transforms
    apply eq_of_elements_eq
    · exact transforms.sizes_eq.symm
    · intro position element found
      rw [map, List.getElem?_map, Option.map_eq_some_iff] at found
      obtain ⟨before, inside, rfl⟩ := found
      exact transforms.element_eq position before inside
  · rintro rfl
    refine ⟨rfl, ?_⟩
    intro position element inside
    rw [map, List.getElem?_map, inside]
    rfl

end DenseArray

namespace Tensor

variable {left right sum tensor scaled : Tensor} {factor : Float}

/-- The third tensor is the sum of the others, element by element. -/
inductive Sums : Tensor → Tensor → Tensor → Prop where
  | float32 {left right sum : DenseArray Float32} :
      left.Combines (· + ·) right sum → Sums (.float32 left) (.float32 right) (.float32 sum)
  | float64 {left right sum : DenseArray Float} :
      left.Combines (· + ·) right sum → Sums (.float64 left) (.float64 right) (.float64 sum)
  | int32 {left right sum : DenseArray Int32} :
      left.Combines (· + ·) right sum → Sums (.int32 left) (.int32 right) (.int32 sum)
  | int64 {left right sum : DenseArray Int64} :
      left.Combines (· + ·) right sum → Sums (.int64 left) (.int64 right) (.int64 sum)

/-- The second tensor is the multiple of the first one, element by element and in the
precision of the elements. -/
inductive Multiplies (factor : Float) : Tensor → Tensor → Prop where
  | float32 {array scaled : DenseArray Float32} :
      array.Transforms (· * factor.toFloat32) scaled →
      Multiplies factor (.float32 array) (.float32 scaled)
  | float64 {array scaled : DenseArray Float} :
      array.Transforms (· * factor) scaled →
      Multiplies factor (.float64 array) (.float64 scaled)

theorem add_eq_ok_iff_sums : left.add right = .ok sum ↔ Sums left right sum := by
  constructor
  · intro added
    unfold add at added
    split at added
    · rename_i same
      cases left <;> cases right <;> simp at added
      all_goals
        subst added
        constructor
        exact DenseArray.combines_iff.mpr ⟨same, rfl⟩
    · simp at added
  · intro sums
    cases sums with
    | float32 combines =>
        obtain ⟨same, rfl⟩ := DenseArray.combines_iff.mp combines
        exact dif_pos same
    | float64 combines =>
        obtain ⟨same, rfl⟩ := DenseArray.combines_iff.mp combines
        exact dif_pos same
    | int32 combines =>
        obtain ⟨same, rfl⟩ := DenseArray.combines_iff.mp combines
        exact dif_pos same
    | int64 combines =>
        obtain ⟨same, rfl⟩ := DenseArray.combines_iff.mp combines
        exact dif_pos same

theorem scale_eq_ok_iff_multiplies :
    tensor.scale factor = .ok scaled ↔ Multiplies factor tensor scaled := by
  constructor
  · intro done
    cases tensor <;> simp [scale] at done
    all_goals
      subst done
      constructor
      exact DenseArray.transforms_iff.mpr rfl
  · intro multiplies
    cases multiplies with
    | float32 transforms =>
        cases DenseArray.transforms_iff.mp transforms
        rfl
    | float64 transforms =>
        cases DenseArray.transforms_iff.mp transforms
        rfl

end Tensor

namespace Value

variable {left right value : Value} {factor : Float} {position : Nat} {leaf : Tensor}

private theorem leaves_scaleByElements {elements : List (Option String × Value)}
    (induction : ∀ element ∈ elements,
      (∀ leaf ∈ element.2.leaves, leaf.elementType.isFloating = true) →
        (element.2.scaleBy factor).after.leaves.map .ok =
          element.2.leaves.map (Tensor.scale factor))
    (floating : ∀ leaf ∈ leavesElements elements, leaf.elementType.isFloating = true) :
    (leavesElements (scaleByElements factor elements).after).map .ok =
      (leavesElements elements).map (Tensor.scale factor) := by
  induction elements with
  | nil => rfl
  | cons element rest inductionRest =>
      rw [leavesElements, List.forall_mem_append] at floating
      obtain ⟨here, later⟩ := floating
      have reached := (outcome_scaleBy_iff factor element.2).mpr here
      have restScaled := inductionRest
        (fun element member => induction element (by simp [member])) later
      rw [scaleByElements, Walk.followedBy, reached]
      simp only [leavesElements, List.map_append, induction element (by simp) here, restScaled]

/-- The tensors of a multiple are the multiples of the tensors. -/
theorem leaves_scaleBy (factor : Float) (value : Value)
    (floating : ∀ leaf ∈ value.leaves, leaf.elementType.isFloating = true) :
    (value.scaleBy factor).after.leaves.map .ok = value.leaves.map (Tensor.scale factor) := by
  induction value using Value.induct with
  | tensorCase leaf =>
      have here : leaf.elementType.isFloating = true := floating leaf (by simp [leaves])
      obtain ⟨scaled, done⟩ := @Tensor.exists_scale_of_isFloating _ factor here
      simp [scaleBy, Walk.ofStep, done, leaves]
  | recordCase members induction =>
      obtain ⟨elements⟩ := members
      exact leaves_scaleByElements induction floating

theorem leaf_of_addTo_iff (same : left.typeOf = right.typeOf) :
    (left.addTo right).after.leaves[position]? = some leaf ↔
      ∃ first second, left.leaves[position]? = some first ∧
        right.leaves[position]? = some second ∧ first.Sums second leaf := by
  simp only [← Tensor.add_eq_ok_iff_sums]
  exact leaf_of_plus_iff same

theorem leaf_of_scaleBy_iff
    (floating : ∀ leaf ∈ value.leaves, leaf.elementType.isFloating = true) :
    (value.scaleBy factor).after.leaves[position]? = some leaf ↔
      ∃ before, value.leaves[position]? = some before ∧ before.Multiplies factor leaf := by
  have mapped : (value.scaleBy factor).after.leaves[position]? = some leaf ↔
      ((value.scaleBy factor).after.leaves.map (Except.ok (ε := TensorError)))[position]? =
        some (.ok leaf) := by
    simp
  rw [mapped, leaves_scaleBy factor value floating, List.getElem?_map, Option.map_eq_some_iff]
  simp only [Tensor.scale_eq_ok_iff_multiplies]

/-- A value is added onto another one exactly when both are of one type.  The sum is of
that type, and its tensors are the sums of those at the same position.  A value is scaled
exactly when all its tensors are floating.  The multiple is of its type, and its tensors
are the multiples of those at the same position. -/
theorem adds_and_scales_every_leaf (left right value : Value) (factor : Float) :
    ((left.addTo right).outcome = .ok () ↔ left.typeOf = right.typeOf) ∧
      (left.typeOf = right.typeOf →
        (left.addTo right).after.typeOf = left.typeOf ∧
          ∀ (position : Nat) leaf, (left.addTo right).after.leaves[position]? = some leaf ↔
            ∃ first second, left.leaves[position]? = some first ∧
              right.leaves[position]? = some second ∧ first.Sums second leaf) ∧
      ((value.scaleBy factor).outcome = .ok () ↔
        ∀ leaf ∈ value.leaves, leaf.elementType.isFloating = true) ∧
      ((∀ leaf ∈ value.leaves, leaf.elementType.isFloating = true) →
        (value.scaleBy factor).after.typeOf = value.typeOf ∧
          ∀ (position : Nat) leaf, (value.scaleBy factor).after.leaves[position]? = some leaf ↔
            ∃ before, value.leaves[position]? = some before ∧
              before.Multiplies factor leaf) := by
  refine ⟨outcome_addTo_iff left right, ?_, outcome_scaleBy_iff factor value, ?_⟩
  · intro same
    exact ⟨typeOf_addTo left right, fun position leaf => leaf_of_addTo_iff same⟩
  · intro floating
    exact ⟨typeOf_scaleBy factor value, fun position leaf => leaf_of_scaleBy_iff floating⟩

end Value

end FederatedLearning
