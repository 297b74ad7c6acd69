import FederatedLearning.Proofs.LeafArithmetic

/-!
# Walks that end early

An addition or a scaling that fails has already changed some of the leaves.  `StopsAfter`
says how far it came: the first leaves are what their steps yield, all later ones are as
before.  So no leaf is ever left half changed, and what has been changed is always a front
part of the leaves, whichever check stopped the walk and however deep it stood.
-/

namespace FederatedLearning

theorem Tensor.isWhole_of_scale_eq_error {tensor : Tensor} {factor : Float} {error : TensorError}
    (failed : tensor.scale factor = .error error) : tensor.IsWhole := by
  cases tensor with
  | float32 array => cases failed
  | float64 array => cases failed
  | int32 array => rfl
  | int64 array => rfl

namespace Value

/-- A walk along leaves has taken its first steps, `count` of them, and has kept every
leaf behind them. -/
structure StopsAfter (count : Nat) (steps : List (Except TensorError Tensor))
    (before after : List Tensor) : Prop where
  enough_steps : count ≤ steps.length
  enough_leaves : count ≤ before.length
  leaves_eq : after.map .ok = steps.take count ++ (before.drop count).map .ok

namespace StopsAfter

variable {count position : Nat} {steps frontSteps allSteps : List (Except TensorError Tensor)}
  {before after front changed : List Tensor}

theorem at_once (steps : List (Except TensorError Tensor)) (leaves : List Tensor) :
    StopsAfter 0 steps leaves leaves :=
  ⟨Nat.zero_le _, Nat.zero_le _, rfl⟩

/-- A leaf in front of the stop is what its step yields. -/
theorem exists_changed (stops : StopsAfter count steps before after)
    (inFront : position < count) :
    ∃ leaf, steps[position]? = some (.ok leaf) ∧ after[position]? = some leaf := by
  have inSteps : position < (steps.take count).length := by
    rw [List.length_take]
    exact Nat.lt_min.mpr ⟨inFront, Nat.lt_of_lt_of_le inFront stops.enough_steps⟩
  have found : (after[position]?).map .ok = steps[position]? := by
    rw [← List.getElem?_map, stops.leaves_eq, List.getElem?_append_left inSteps,
      List.getElem?_take_of_lt inFront]
  cases reached : after[position]? with
  | some leaf =>
      rw [reached] at found
      exact ⟨leaf, found.symm, rfl⟩
  | none =>
      rw [reached] at found
      have short := List.getElem?_eq_none_iff.mp found.symm
      have enough := stops.enough_steps
      omega

/-- A leaf from the stop on is kept. -/
theorem kept (stops : StopsAfter count steps before after) (behind : count ≤ position) :
    after[position]? = before[position]? := by
  have taken : (steps.take count).length = count :=
    List.length_take_of_le stops.enough_steps
  have found : (after[position]?).map (Except.ok (ε := TensorError)) =
      (before[position]?).map .ok := by
    rw [← List.getElem?_map, stops.leaves_eq,
      List.getElem?_append_right (by rwa [taken]), taken, List.getElem?_map,
      List.getElem?_drop, Nat.add_sub_cancel' behind]
  exact Option.map_injective (fun _ _ => Except.ok.inj) found

/-- Leaves that the walk has not come to are kept. -/
theorem with_rest (stops : StopsAfter count steps before after)
    (enough : count ≤ allSteps.length) (sameSteps : allSteps.take count = steps.take count)
    (rest : List Tensor) : StopsAfter count allSteps (before ++ rest) (after ++ rest) where
  enough_steps := enough
  enough_leaves := by
    rw [List.length_append]
    exact Nat.le_add_right_of_le stops.enough_leaves
  leaves_eq := by
    rw [List.map_append, stops.leaves_eq, sameSteps,
      List.drop_append_of_le_length stops.enough_leaves, List.map_append, List.append_assoc]

/-- A walk that has changed all leaves in front goes on behind them. -/
theorem behind_front (stops : StopsAfter count steps before after)
    (reached : changed.map .ok = frontSteps) (sameLength : frontSteps.length = front.length) :
    StopsAfter (front.length + count) (frontSteps ++ steps) (front ++ before)
      (changed ++ after) where
  enough_steps := by
    rw [List.length_append, sameLength]
    exact Nat.add_le_add_left stops.enough_steps _
  enough_leaves := by
    rw [List.length_append]
    exact Nat.add_le_add_left stops.enough_leaves _
  leaves_eq := by
    rw [List.map_append, reached, stops.leaves_eq, ← sameLength, List.take_length_add_append,
      sameLength, List.drop_length_add_append, List.append_assoc]

end StopsAfter

section

variable {left right value : Value} {factor : Float} {error : TensorError}

/-- The first steps of an addition do not depend on the leaves behind them. -/
private theorem take_zipWith_append {count : Nat} {targets addends : List Tensor}
    (inTargets : count ≤ targets.length) (inAddends : count ≤ addends.length)
    (targets' addends' : List Tensor) :
    (List.zipWith Tensor.add (targets ++ targets') (addends ++ addends')).take count =
      (List.zipWith Tensor.add targets addends).take count := by
  rw [List.take_zipWith, List.take_append_of_le_length inTargets,
    List.take_append_of_le_length inAddends, ← List.take_zipWith]

private theorem exists_stopsAfter_addToElements {targets : List (Option String × Value)}
    (induction : ∀ element ∈ targets, ∀ addend error,
      (element.2.addTo addend).outcome = .error error →
        ∃ count, StopsAfter count (List.zipWith Tensor.add element.2.leaves addend.leaves)
          element.2.leaves (element.2.addTo addend).after.leaves)
    (addends : List (Option String × Value))
    (failed : (addToElements targets addends).outcome = .error error) :
    ∃ count, StopsAfter count
      (List.zipWith Tensor.add (leavesElements targets) (leavesElements addends))
      (leavesElements targets) (leavesElements (addToElements targets addends).after) := by
  induction targets generalizing addends with
  | nil => cases failed
  | cons target targets inductionRest =>
      cases addends with
      | nil => cases failed
      | cons addend addends =>
          rw [addToElements, Walk.followedBy] at failed ⊢
          cases here : (target.2.addTo addend.2).outcome with
          | ok reached =>
              simp only [here] at failed ⊢
              have sameType := (outcome_addTo_iff target.2 addend.2).mp here
              have sameLength := length_leaves_eq sameType
              obtain ⟨count, stops⟩ := inductionRest
                (fun element member => induction element (by simp [member])) addends failed
              refine ⟨target.2.leaves.length + count, ?_⟩
              rw [leavesElements, leavesElements, leavesElements,
                List.zipWith_append sameLength]
              apply stops.behind_front (leaves_plus target.2 addend.2 sameType)
              rw [List.length_zipWith, ← sameLength, Nat.min_self]
          | error stopped =>
              simp only [here] at failed ⊢
              obtain ⟨count, stops⟩ := induction target (by simp) addend.2 stopped here
              refine ⟨count, ?_⟩
              have enough := stops.enough_steps
              rw [List.length_zipWith, Nat.le_min] at enough
              rw [leavesElements, leavesElements, leavesElements]
              apply stops.with_rest
              · simp only [List.length_zipWith, List.length_append]
                omega
              · exact take_zipWith_append enough.1 enough.2 _ _

/-- A failed addition has added the leaves of a front part, and no other. -/
theorem exists_stopsAfter_addTo (left right : Value) (error : TensorError)
    (failed : (left.addTo right).outcome = .error error) :
    ∃ count, StopsAfter count (List.zipWith Tensor.add left.leaves right.leaves) left.leaves
      (left.addTo right).after.leaves := by
  induction left using Value.induct generalizing right error with
  | tensorCase leaf =>
      cases right with
      | record members => exact ⟨0, .at_once _ _⟩
      | tensor addend =>
          rw [addTo] at failed ⊢
          cases added : leaf.add addend with
          | ok sum =>
              rw [added] at failed
              cases failed
          | error error => exact ⟨0, .at_once _ _⟩
  | recordCase members induction =>
      obtain ⟨targets⟩ := members
      cases right with
      | tensor leaf => exact ⟨0, .at_once _ _⟩
      | record others =>
          obtain ⟨addends⟩ := others
          rw [addTo] at failed ⊢
          split at failed
          · rename_i sameNames
            rw [if_pos sameNames]
            exact exists_stopsAfter_addToElements induction addends failed
          · rename_i differ
            rw [if_neg differ]
            exact ⟨0, .at_once _ _⟩

private theorem exists_stopsAfter_scaleByElements {elements : List (Option String × Value)}
    (induction : ∀ element ∈ elements, ∀ error,
      (element.2.scaleBy factor).outcome = .error error →
        ∃ count, StopsAfter count (element.2.leaves.map (Tensor.scale factor))
            element.2.leaves (element.2.scaleBy factor).after.leaves ∧
          (element.2.leaves.map (Tensor.scale factor))[count]? = some (.error error))
    (failed : (scaleByElements factor elements).outcome = .error error) :
    ∃ count, StopsAfter count ((leavesElements elements).map (Tensor.scale factor))
        (leavesElements elements) (leavesElements (scaleByElements factor elements).after) ∧
      ((leavesElements elements).map (Tensor.scale factor))[count]? = some (.error error) := by
  induction elements with
  | nil => cases failed
  | cons element elements inductionRest =>
      rw [scaleByElements, Walk.followedBy] at failed ⊢
      cases here : (element.2.scaleBy factor).outcome with
      | ok reached =>
          simp only [here] at failed ⊢
          have floating := (outcome_scaleBy_iff factor element.2).mp here
          obtain ⟨count, stops, stoppedBy⟩ := inductionRest
            (fun element member => induction element (by simp [member])) failed
          refine ⟨element.2.leaves.length + count, ?_, ?_⟩
          · rw [leavesElements, leavesElements, List.map_append]
            exact stops.behind_front (leaves_scaleBy factor element.2 floating)
              (List.length_map _)
          · rw [leavesElements, List.map_append, List.getElem?_append_right (by simp),
              List.length_map, Nat.add_sub_cancel_left]
            exact stoppedBy
      | error stopped =>
          simp only [here] at failed ⊢
          cases failed
          obtain ⟨count, stops, stoppedBy⟩ := induction element (by simp) error here
          have inFront := (List.getElem?_eq_some_iff.mp stoppedBy).1
          refine ⟨count, ?_, ?_⟩
          · rw [leavesElements, leavesElements]
            apply stops.with_rest
            · rw [List.map_append, List.length_append]
              exact Nat.le_add_right_of_le stops.enough_steps
            · rw [List.map_append, List.take_append_of_le_length stops.enough_steps]
          · rw [leavesElements, List.map_append, List.getElem?_append_left inFront]
            exact stoppedBy

/-- A failed scaling has scaled the leaves in front of the first one that cannot be
scaled, whose failure it reports. -/
theorem exists_stopsAfter_scaleBy (factor : Float) (value : Value) (error : TensorError)
    (failed : (value.scaleBy factor).outcome = .error error) :
    ∃ count, StopsAfter count (value.leaves.map (Tensor.scale factor)) value.leaves
        (value.scaleBy factor).after.leaves ∧
      (value.leaves.map (Tensor.scale factor))[count]? = some (.error error) := by
  induction value using Value.induct generalizing error with
  | tensorCase leaf =>
      rw [scaleBy] at failed ⊢
      cases done : leaf.scale factor with
      | ok scaled =>
          rw [done] at failed
          cases failed
      | error stopped =>
          rw [done] at failed
          cases failed
          refine ⟨0, .at_once _ _, ?_⟩
          simp [leaves, done]
  | recordCase members induction =>
      obtain ⟨elements⟩ := members
      exact exists_stopsAfter_scaleByElements induction failed

/-- The first leaves, `count` of them, are the sums of those at the same positions of two
values, and all later ones are those of the first value. -/
structure SumsFirst (count : Nat) (left right after : Value) : Prop where
  within : count ≤ left.leaves.length
  summed : ∀ position < count, ∃ first second sum, left.leaves[position]? = some first ∧
    right.leaves[position]? = some second ∧ first.Sums second sum ∧
      after.leaves[position]? = some sum
  kept : ∀ position, count ≤ position → after.leaves[position]? = left.leaves[position]?

/-- The leaves in front of the first one that is not floating, `count` of them, are the
multiples of those of a value, and all others are as they were. -/
structure MultipliesFirst (factor : Float) (count : Nat) (value after : Value) : Prop where
  stopped : ∃ leaf, value.leaves[count]? = some leaf ∧ leaf.elementType.isFloating = false
  multiplied : ∀ position < count, ∃ leaf scaled, value.leaves[position]? = some leaf ∧
    leaf.elementType.isFloating = true ∧ leaf.Multiplies factor scaled ∧
      after.leaves[position]? = some scaled
  kept : ∀ position, count ≤ position → after.leaves[position]? = value.leaves[position]?

theorem StopsAfter.sumsFirst {count : Nat}
    (stops : StopsAfter count (List.zipWith Tensor.add left.leaves right.leaves) left.leaves
      (left.addTo right).after.leaves) :
    SumsFirst count left right (left.addTo right).after where
  within := stops.enough_leaves
  summed position inFront := by
    obtain ⟨sum, stepped, changed⟩ := stops.exists_changed inFront
    obtain ⟨first, second, inLeft, inRight, added⟩ := List.getElem?_zipWith_eq_some.mp stepped
    exact ⟨first, second, sum, inLeft, inRight, Tensor.add_eq_ok_iff_sums.mp added, changed⟩
  kept _ behind := stops.kept behind

theorem StopsAfter.multipliesFirst {count : Nat}
    (stops : StopsAfter count (value.leaves.map (Tensor.scale factor)) value.leaves
      (value.scaleBy factor).after.leaves)
    (stoppedBy : (value.leaves.map (Tensor.scale factor))[count]? = some (.error error)) :
    MultipliesFirst factor count value (value.scaleBy factor).after where
  stopped := by
    rw [List.getElem?_map, Option.map_eq_some_iff] at stoppedBy
    obtain ⟨leaf, inside, refused⟩ := stoppedBy
    exact ⟨leaf, inside, Tensor.isWhole_of_scale_eq_error refused⟩
  multiplied position inFront := by
    obtain ⟨scaled, stepped, changed⟩ := stops.exists_changed inFront
    rw [List.getElem?_map, Option.map_eq_some_iff] at stepped
    obtain ⟨leaf, inside, done⟩ := stepped
    exact ⟨leaf, scaled, inside, (Tensor.type_of_scale_eq_ok done).1,
      Tensor.scale_eq_ok_iff_multiplies.mp done, changed⟩
  kept _ behind := stops.kept behind

/-- An addition or a scaling that fails keeps the type of its target, and it has changed
exactly the first leaves.  A scaling comes as far as the first leaf that is not floating. -/
theorem failure_changes_first_leaves (left right value : Value) (factor : Float) :
    (∀ error, (left.addTo right).outcome = .error error →
      (left.addTo right).after.typeOf = left.typeOf ∧
        ∃ count, SumsFirst count left right (left.addTo right).after) ∧
    (∀ error, (value.scaleBy factor).outcome = .error error →
      (value.scaleBy factor).after.typeOf = value.typeOf ∧
        ∃ count, MultipliesFirst factor count value (value.scaleBy factor).after) := by
  constructor
  · intro error failed
    obtain ⟨count, stops⟩ := exists_stopsAfter_addTo left right error failed
    exact ⟨typeOf_addTo left right, count, stops.sumsFirst⟩
  · intro error failed
    obtain ⟨count, stops, stoppedBy⟩ := exists_stopsAfter_scaleBy factor value error failed
    exact ⟨typeOf_scaleBy factor value, count, stops.multipliesFirst stoppedBy⟩

/-- A loss beside a count, and beside another loss. -/
def losses (first : Float32) (count : Int64) (second : Float32) : Value :=
  .unnamed [.named [("loss", .tensor (.float32 (.scalar first))),
      ("count", .tensor (.int64 (.scalar count)))],
    .tensor (.float32 (.scalar second))]

/-- The same names with a rate in place of the count. -/
def rates (first rate second : Float32) : Value :=
  .unnamed [.named [("loss", .tensor (.float32 (.scalar first))),
      ("count", .tensor (.float32 (.scalar rate)))],
    .tensor (.float32 (.scalar second))]

theorem losses_change_in_front_of_count :
    ((losses 1 2 3).addTo (rates 4 5 6)).outcome =
        .error (.elementTypeMismatch "add" .float32 .int64) ∧
      (∃ count, SumsFirst count (losses 1 2 3) (rates 4 5 6)
        ((losses 1 2 3).addTo (rates 4 5 6)).after) ∧
      ((losses 1 2 3).scaleBy 2).outcome = .error (.unsupported "scale" .int64) ∧
      ∃ count, MultipliesFirst 2 count (losses 1 2 3) ((losses 1 2 3).scaleBy 2).after := by
  obtain ⟨added, scaled⟩ :=
    failure_changes_first_leaves (losses 1 2 3) (rates 4 5 6) (losses 1 2 3) 2
  exact ⟨rfl, (added _ rfl).2, rfl, (scaled _ rfl).2⟩

end

end Value

end FederatedLearning
