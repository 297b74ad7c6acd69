import FederatedLearning.Proofs.ValueArithmetic

/-!
# Whole numbers in values

Whole numbers are added in any order and any grouping with the same outcome, which
floating point numbers are not.  A sum of values that hold both is therefore determined
by its summands, whatever their order and grouping, up to its floating point tensors:
`SameWholes` relates two values of one type with the same whole number tensors.  Between
values without floating point tensors it is equality.
-/

namespace FederatedLearning

namespace DenseArray

variable {α : Type} {function : α → α → α} {first second third : DenseArray α}

theorem zipWith_comm (comm : ∀ x y, function x y = function y x)
    (same : first.sizes = second.sizes) :
    first.zipWith function second same = second.zipWith function first same.symm := by
  simp only [zipWith, mk.injEq]
  exact ⟨same, List.zipWith_comm_of_comm comm⟩

theorem zipWith_assoc (assoc : ∀ x y z, function (function x y) z = function x (function y z))
    (front : first.sizes = second.sizes) (back : second.sizes = third.sizes) :
    (first.zipWith function second front).zipWith function third (front.trans back) =
      first.zipWith function (second.zipWith function third back) front := by
  have elements : ∀ xs ys zs : List α,
      List.zipWith function (List.zipWith function xs ys) zs =
        List.zipWith function xs (List.zipWith function ys zs) := by
    intro xs
    induction xs with
    | nil => simp
    | cons x xs induction =>
        intro ys zs
        cases ys with
        | nil => simp
        | cons y ys =>
            cases zs with
            | nil => simp
            | cons z zs => simp [assoc, induction]
  simp only [zipWith, mk.injEq]
  exact ⟨trivial, elements _ _ _⟩

end DenseArray

namespace Tensor

variable {tensor other first second third sum front back total : Tensor}

/-- The tensor holds whole numbers. -/
def IsWhole (tensor : Tensor) : Prop :=
  tensor.elementType.isFloating = false

theorem IsWhole.of_type_eq (whole : tensor.IsWhole) (same : other.type = tensor.type) :
    other.IsWhole := by
  rw [IsWhole, (type_eq_iff.mp same).1]
  exact whole

/-- Whole numbers of one width are added element by element. -/
inductive AddsWhole : Tensor → Tensor → Tensor → Prop where
  | int32 {left right : DenseArray Int32} (same : left.sizes = right.sizes) :
      AddsWhole (.int32 left) (.int32 right) (.int32 (left.zipWith (· + ·) right same))
  | int64 {left right : DenseArray Int64} (same : left.sizes = right.sizes) :
      AddsWhole (.int64 left) (.int64 right) (.int64 (left.zipWith (· + ·) right same))

theorem AddsWhole.add_eq_ok (adds : AddsWhole first second sum) : first.add second = .ok sum := by
  cases adds with
  | int32 same => exact dif_pos same
  | int64 same => exact dif_pos same

theorem addsWhole_of_add_eq_ok (added : first.add second = .ok sum) (whole : sum.IsWhole) :
    AddsWhole first second sum := by
  obtain ⟨secondType, sumType⟩ := type_of_add_eq_ok added
  obtain ⟨sameElements, sameSizes⟩ := type_eq_iff.mp secondType.symm
  have firstWhole := whole.of_type_eq sumType.symm
  cases first with
  | float32 left => cases firstWhole
  | float64 left => cases firstWhole
  | int32 left =>
      cases second <;> simp only [elementType, reduceCtorEq] at sameElements
      have adds := AddsWhole.int32 sameSizes
      rw [adds.add_eq_ok] at added
      cases added
      exact adds
  | int64 left =>
      cases second <;> simp only [elementType, reduceCtorEq] at sameElements
      have adds := AddsWhole.int64 sameSizes
      rw [adds.add_eq_ok] at added
      cases added
      exact adds

theorem add_comm_of_isWhole (added : first.add second = .ok sum) (whole : sum.IsWhole) :
    second.add first = .ok sum := by
  cases addsWhole_of_add_eq_ok added whole with
  | int32 same =>
      rw [DenseArray.zipWith_comm Int32.add_comm same]
      exact (AddsWhole.int32 same.symm).add_eq_ok
  | int64 same =>
      rw [DenseArray.zipWith_comm Int64.add_comm same]
      exact (AddsWhole.int64 same.symm).add_eq_ok

theorem add_assoc_of_isWhole (addedFront : first.add second = .ok front)
    (added : front.add third = .ok total) (whole : total.IsWhole) :
    ∃ back, second.add third = .ok back ∧ first.add back = .ok total := by
  have frontWhole := whole.of_type_eq (type_of_add_eq_ok added).2.symm
  cases addsWhole_of_add_eq_ok addedFront frontWhole with
  | int32 frontSame =>
      cases addsWhole_of_add_eq_ok added whole with
      | int32 same =>
          have backSame := frontSame.symm.trans same
          rw [DenseArray.zipWith_assoc Int32.add_assoc frontSame backSame]
          exact ⟨_, (AddsWhole.int32 backSame).add_eq_ok, (AddsWhole.int32 _).add_eq_ok⟩
  | int64 frontSame =>
      cases addsWhole_of_add_eq_ok added whole with
      | int64 same =>
          have backSame := frontSame.symm.trans same
          rw [DenseArray.zipWith_assoc Int64.add_assoc frontSame backSame]
          exact ⟨_, (AddsWhole.int64 backSame).add_eq_ok, (AddsWhole.int64 _).add_eq_ok⟩

end Tensor

namespace Value

variable {left right sum value other first second third : Value}

/-- All tensors of the value hold whole numbers. -/
def IsWhole (value : Value) : Prop :=
  ∀ leaf ∈ value.leaves, leaf.IsWhole

theorem map_type_leaves_eq (same : left.typeOf = right.typeOf) :
    left.leaves.map Tensor.type = right.leaves.map Tensor.type := by
  rw [← tensors_typeOf, ← tensors_typeOf, same]

theorem length_leaves_eq (same : left.typeOf = right.typeOf) :
    left.leaves.length = right.leaves.length := by
  simpa using congrArg List.length (map_type_leaves_eq same)

theorem IsWhole.of_typeOf_eq (whole : value.IsWhole) (same : other.typeOf = value.typeOf) :
    other.IsWhole := by
  intro leaf inside
  have listed : leaf.type ∈ value.leaves.map Tensor.type := by
    rw [← map_type_leaves_eq same]
    exact List.mem_map_of_mem inside
  obtain ⟨twin, twinInside, sameType⟩ := List.mem_map.mp listed
  exact (whole twin twinInside).of_type_eq sameType.symm

/-- What a value holds once another one was added onto it. -/
def plus (left right : Value) : Value :=
  (left.addTo right).after

@[simp] theorem typeOf_plus (left right : Value) : (left.plus right).typeOf = left.typeOf :=
  typeOf_addTo left right

theorem add_eq_ok_iff_plus :
    left.add right = .ok sum ↔ left.typeOf = right.typeOf ∧ left.plus right = sum :=
  add_eq_ok_iff

private theorem leaves_addToElements {targets : List (Option String × Value)}
    (induction : ∀ element ∈ targets, ∀ addend, element.2.typeOf = addend.typeOf →
      (element.2.addTo addend).after.leaves.map .ok =
        List.zipWith Tensor.add element.2.leaves addend.leaves)
    (addends : List (Option String × Value))
    (same : typeOfElements targets = typeOfElements addends) :
    (leavesElements (addToElements targets addends).after).map .ok =
      List.zipWith Tensor.add (leavesElements targets) (leavesElements addends) := by
  induction targets generalizing addends with
  | nil => simp [addToElements, leavesElements]
  | cons target targets inductionRest =>
      cases addends with
      | nil => simp at same
      | cons addend addends =>
          obtain ⟨_, sameType, sameRest⟩ := typeOfElements_cons_eq_iff.mp same
          have reached := (outcome_addTo_iff target.2 addend.2).mpr sameType
          have added := induction target (by simp) addend.2 sameType
          have restAdded := inductionRest
            (fun element member => induction element (by simp [member])) addends sameRest
          rw [addToElements, Walk.followedBy, reached]
          simp only [leavesElements, List.map_append, added, restAdded]
          exact (List.zipWith_append (length_leaves_eq sameType)).symm

/-- The tensors of a sum are the sums of the tensors. -/
theorem leaves_plus (left right : Value) (same : left.typeOf = right.typeOf) :
    (left.plus right).leaves.map .ok = List.zipWith Tensor.add left.leaves right.leaves := by
  induction left using Value.induct generalizing right with
  | tensorCase leaf =>
      cases right with
      | record members => simp [typeOf] at same
      | tensor addend =>
          have sameType : leaf.type = addend.type := by simpa [typeOf] using same
          obtain ⟨sum, added⟩ := Tensor.exists_add_of_type_eq sameType
          simp [plus, addTo, Walk.ofStep, added, leaves]
  | recordCase members induction =>
      obtain ⟨targets⟩ := members
      cases right with
      | tensor leaf => simp [typeOf] at same
      | record others =>
          obtain ⟨addends⟩ := others
          have sameElements := typeOf_record_eq_iff.mp same
          rw [plus, addTo, if_pos (labels_eq_of_types_eq sameElements)]
          exact leaves_addToElements induction addends sameElements

theorem leaf_of_plus_iff (same : left.typeOf = right.typeOf) {position : Nat} {tensor : Tensor} :
    (left.plus right).leaves[position]? = some tensor ↔
      ∃ first second, left.leaves[position]? = some first ∧
        right.leaves[position]? = some second ∧ first.add second = .ok tensor := by
  rw [← List.getElem?_zipWith_eq_some, ← leaves_plus left right same, List.getElem?_map]
  simp

private theorem eq_of_leavesElements_eq {elements : List (Option String × Value)}
    (induction : ∀ element ∈ elements, ∀ right, element.2.typeOf = right.typeOf →
      element.2.leaves = right.leaves → element.2 = right)
    (others : List (Option String × Value))
    (sameTypes : typeOfElements elements = typeOfElements others)
    (sameLeaves : leavesElements elements = leavesElements others) : elements = others := by
  induction elements generalizing others with
  | nil =>
      cases others with
      | nil => rfl
      | cons other others => simp at sameTypes
  | cons element elements inductionRest =>
      cases others with
      | nil => simp at sameTypes
      | cons other others =>
          obtain ⟨sameName, sameType, sameRest⟩ := typeOfElements_cons_eq_iff.mp sameTypes
          obtain ⟨here, later⟩ := List.append_inj sameLeaves (length_leaves_eq sameType)
          have sameItem := induction element (by simp) other.2 sameType here
          have sameItems := inductionRest
            (fun element member => induction element (by simp [member])) others sameRest later
          rw [sameItems, Prod.ext sameName sameItem]

/-- A value is determined by its type and its tensors. -/
theorem eq_of_leaves_eq (left right : Value) (sameType : left.typeOf = right.typeOf)
    (sameLeaves : left.leaves = right.leaves) : left = right := by
  induction left using Value.induct generalizing right with
  | tensorCase leaf =>
      cases right with
      | record members => simp [typeOf] at sameType
      | tensor other => simpa [leaves] using sameLeaves
  | recordCase members induction =>
      obtain ⟨elements⟩ := members
      cases right with
      | tensor leaf => simp [typeOf] at sameType
      | record others =>
          obtain ⟨others⟩ := others
          have sameTypes := typeOf_record_eq_iff.mp sameType
          have sameElements := eq_of_leavesElements_eq induction others sameTypes sameLeaves
          exact congrArg (fun elements => record ⟨elements⟩) sameElements

/-- Two values of one type, and every whole number tensor of the first one stands at
its place in the second one. -/
structure SameWholes (left right : Value) : Prop where
  typeOf_eq : left.typeOf = right.typeOf
  wholes : ∀ (position : Nat) (tensor : Tensor), left.leaves[position]? = some tensor →
    tensor.IsWhole → right.leaves[position]? = some tensor

namespace SameWholes

theorem refl (value : Value) : SameWholes value value :=
  ⟨rfl, fun _ _ found _ => found⟩

theorem trans (front : SameWholes first second) (back : SameWholes second third) :
    SameWholes first third where
  typeOf_eq := front.typeOf_eq.trans back.typeOf_eq
  wholes position tensor found whole :=
    back.wholes position tensor (front.wholes position tensor found whole) whole

/-- Where one value has a tensor the other one has a tensor of the same type. -/
theorem exists_twin (same : SameWholes left right) {position : Nat} {tensor : Tensor}
    (found : right.leaves[position]? = some tensor) :
    ∃ twin, left.leaves[position]? = some twin ∧ twin.type = tensor.type := by
  have types := map_type_leaves_eq same.typeOf_eq
  have typeFound : (left.leaves.map Tensor.type)[position]? = some tensor.type := by
    rw [types, List.getElem?_map, found]
    rfl
  rw [List.getElem?_map] at typeFound
  exact Option.map_eq_some_iff.mp typeFound

theorem symm (same : SameWholes left right) : SameWholes right left where
  typeOf_eq := same.typeOf_eq.symm
  wholes position tensor found whole := by
    obtain ⟨twin, twinFound, sameType⟩ := same.exists_twin found
    have back := same.wholes position twin twinFound (whole.of_type_eq sameType)
    rw [found] at back
    cases back
    exact twinFound

theorem of_isFloating (same : left.typeOf = right.typeOf) (floating : left.typeOf.IsFloating) :
    SameWholes left right where
  typeOf_eq := same
  wholes position tensor found whole := by
    have holdsFloats := isFloating_typeOf_iff.mp floating tensor (List.mem_of_getElem? found)
    rw [whole] at holdsFloats
    cases holdsFloats

theorem eq_of_isWhole (same : SameWholes left right) (whole : left.IsWhole) : left = right := by
  apply eq_of_leaves_eq left right same.typeOf_eq
  apply List.ext_getElem?
  intro position
  cases found : left.leaves[position]? with
  | some tensor =>
      exact (same.wholes position tensor found (whole tensor (List.mem_of_getElem? found))).symm
  | none =>
      rw [List.getElem?_eq_none_iff, length_leaves_eq same.typeOf_eq] at found
      exact (List.getElem?_eq_none found).symm

/-- The order of two summands matters to floating point tensors only. -/
theorem plus_comm (same : left.typeOf = right.typeOf) :
    SameWholes (left.plus right) (right.plus left) where
  typeOf_eq := by simp [same]
  wholes position tensor found whole := by
    obtain ⟨first, second, foundLeft, foundRight, added⟩ := (leaf_of_plus_iff same).mp found
    have swapped := Tensor.add_comm_of_isWhole added whole
    exact (leaf_of_plus_iff same.symm).mpr ⟨second, first, foundRight, foundLeft, swapped⟩

/-- The grouping of three summands matters to floating point tensors only. -/
theorem plus_assoc (front : first.typeOf = second.typeOf) (back : second.typeOf = third.typeOf) :
    SameWholes ((first.plus second).plus third) (first.plus (second.plus third)) where
  typeOf_eq := by simp
  wholes position tensor found whole := by
    have frontSame : (first.plus second).typeOf = third.typeOf := by simp [front, back]
    have backSame : first.typeOf = (second.plus third).typeOf := by simp [front]
    obtain ⟨sum, last, foundSum, foundLast, added⟩ := (leaf_of_plus_iff frontSame).mp found
    obtain ⟨start, middle, foundStart, foundMiddle, sumAdded⟩ :=
      (leaf_of_plus_iff front).mp foundSum
    obtain ⟨rest, restAdded, regrouped⟩ := Tensor.add_assoc_of_isWhole sumAdded added whole
    have foundRest := (leaf_of_plus_iff back).mpr ⟨middle, last, foundMiddle, foundLast, restAdded⟩
    exact (leaf_of_plus_iff backSame).mpr ⟨start, rest, foundStart, foundRest, regrouped⟩

theorem plus_congr (sameLeft : SameWholes first second) (sameRight : SameWholes left right)
    (same : first.typeOf = left.typeOf) : SameWholes (first.plus left) (second.plus right) where
  typeOf_eq := by simp [sameLeft.typeOf_eq]
  wholes position tensor found whole := by
    have sameOthers : second.typeOf = right.typeOf := by
      rw [← sameLeft.typeOf_eq, same, sameRight.typeOf_eq]
    obtain ⟨start, addend, foundStart, foundAddend, added⟩ := (leaf_of_plus_iff same).mp found
    obtain ⟨addendType, sumType⟩ := Tensor.type_of_add_eq_ok added
    have startWhole := whole.of_type_eq sumType.symm
    have addendWhole := startWhole.of_type_eq addendType
    apply (leaf_of_plus_iff sameOthers).mpr
    exact ⟨start, addend, sameLeft.wholes position start foundStart startWhole,
      sameRight.wholes position addend foundAddend addendWhole, added⟩

/-- The order of what is added onto a value matters to floating point tensors only. -/
theorem plus_right_comm (front : first.typeOf = second.typeOf)
    (back : second.typeOf = third.typeOf) :
    SameWholes ((first.plus second).plus third) ((first.plus third).plus second) := by
  have grouped := plus_assoc front back
  have turned : SameWholes (first.plus (second.plus third)) (first.plus (third.plus second)) :=
    plus_congr (refl first) (plus_comm back) (by simp [front])
  have regrouped := plus_assoc (front.trans back) back.symm
  exact (grouped.trans turned).trans regrouped.symm

end SameWholes

end Value

end FederatedLearning
