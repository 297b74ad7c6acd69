import FederatedLearning.Model.Holder
import FederatedLearning.Model.Weights
import FederatedLearning.Proofs.VariableStore

/-!
# Assigning weights to a model

Weights fit a model when there is one for every variable, of its type; this is
so exactly when both have the same type.  Writing fitting weights keeps the
types of all variables, whatever storage the weights share with the model, so
that once the checks have passed no write is refused.

The weights are read one by one, each when its turn comes.  A weight that is
read from a variable of the model may therefore have been overwritten already:
every variable ends with the weight at its position exactly when no weight is
read from a variable that an earlier write has changed.
-/

namespace FederatedLearning.Weights

section

variable {α : Type} [WeightSource α]

/-- The variables of a model with the weights meant for them, in the order in
which they are written. -/
def moves (weights : Weights α) (model : Model) : List (Variable × α) :=
  model.trainable.zip weights.trainable ++ model.nonTrainable.zip weights.nonTrainable

/-- The store in which the weights have been put into the variables paired with
them, one after the other. -/
def overwrite (store : Store) (pairs : List (Variable × α)) : Store :=
  pairs.foldl (fun store pair => store.put pair.1 (WeightSource.contents store pair.2)) store

/-- Every weight has the type of the variable that it is paired with. -/
def TypesFit (store : Store) (pairs : List (Variable × α)) : Prop :=
  ∀ pair ∈ pairs, (WeightSource.contents store pair.2).type = store.type pair.1

/-- There is a weight for every variable of the model, of its type. -/
structure Fits (weights : Weights α) (model : Model) (store : Store) : Prop where
  trainableCount : weights.trainable.length = model.trainable.length
  nonTrainableCount : weights.nonTrainable.length = model.nonTrainable.length
  types : TypesFit store (weights.moves model)

variable {store : Store} {pairs : List (Variable × α)}

theorem TypesFit.of_sameTypes {before after : Store} (fits : TypesFit before pairs)
    (same : before.SameTypes after) : TypesFit after pairs := by
  intro pair member
  rw [WeightSource.type_stable pair.2 same, same pair.1]
  exact fits pair member

/-- Writing fitting weights keeps the types of all variables, also of those that
the weights are read from. -/
theorem sameTypes_overwrite (fits : TypesFit store pairs) :
    store.SameTypes (overwrite store pairs) := by
  induction pairs generalizing store with
  | nil => exact Store.SameTypes.refl store
  | cons pair rest induction =>
      have first : store.SameTypes (store.put pair.1 (WeightSource.contents store pair.2)) :=
        Store.sameTypes_put (fits pair (by simp))
      have restFits : TypesFit store rest :=
        fun later member => fits later (by simp [member])
      exact first.trans (induction (restFits.of_sameTypes first))

theorem writePart_apply {weights : List α} {targets : List Variable}
    (fits : TypesFit store (targets.zip weights)) :
    writePart weights targets store = (.ok (), overwrite store (targets.zip weights)) := by
  induction weights generalizing targets store with
  | nil => simp [writePart, overwrite]
  | cons weight weights induction =>
      cases targets with
      | nil => simp [writePart, overwrite]
      | cons target targets =>
          have accepted := Store.assign_apply_of_fits (fits (target, weight) (by simp))
          have kept := Store.sameTypes_put (fits (target, weight) (by simp))
          have restFits : TypesFit store (targets.zip weights) :=
            fun later member => fits later (by simp [member])
          simp only [writePart, Store.Effect.bind_apply, Store.Effect.get_apply, accepted]
          exact induction (restFits.of_sameTypes kept)

theorem firstMismatch?_eq_none_iff {position : Nat} {weights : List α} {targets : List Variable} :
    firstMismatch? store position weights targets = none ↔
      TypesFit store (targets.zip weights) := by
  induction weights generalizing targets position with
  | nil => simp [firstMismatch?, TypesFit]
  | cons weight weights induction =>
      cases targets with
      | nil => simp [firstMismatch?, TypesFit]
      | cons target targets =>
          by_cases same : (WeightSource.contents store weight).type = store.type target
          · simp [firstMismatch?, same, induction, TypesFit]
          · simp [firstMismatch?, same, TypesFit]

theorem checkPart_eq_ok_iff {what : String} {weights : List α} {targets : List Variable} :
    checkPart store what weights targets = .ok () ↔
      weights.length = targets.length ∧ TypesFit store (targets.zip weights) := by
  by_cases count : weights.length = targets.length
  · have noMismatch := @firstMismatch?_eq_none_iff α _ store 0 weights targets
    rw [← noMismatch]
    cases found : firstMismatch? store 0 weights targets <;> simp [checkPart, count, found]
  · simp [checkPart, count]

theorem fits_iff_checked {weights : Weights α} {model : Model} :
    weights.Fits model store ↔
      checkPart store trainableName weights.trainable model.trainable = .ok () ∧
        checkPart store nonTrainableName weights.nonTrainable model.nonTrainable = .ok () := by
  rw [checkPart_eq_ok_iff, checkPart_eq_ok_iff]
  constructor
  · intro fits
    exact ⟨⟨fits.trainableCount, fun pair member => fits.types pair (by simp [moves, member])⟩,
      fits.nonTrainableCount, fun pair member => fits.types pair (by simp [moves, member])⟩
  · intro checked
    obtain ⟨⟨trainableCount, trainableTypes⟩, nonTrainableCount, nonTrainableTypes⟩ := checked
    refine ⟨trainableCount, nonTrainableCount, ?_⟩
    intro pair member
    rcases List.mem_append.mp member with inTrainable | inNonTrainable
    · exact trainableTypes pair inTrainable
    · exact nonTrainableTypes pair inNonTrainable

theorem typesOf_eq_iff {weights : List α} {targets : List Variable} :
    typesOf store weights = typesOf store targets ↔
      weights.length = targets.length ∧ TypesFit store (targets.zip weights) := by
  induction weights generalizing targets with
  | nil => cases targets <;> simp [typesOf, Record.unnamed, TypesFit]
  | cons weight weights induction =>
      cases targets with
      | nil => simp [typesOf, Record.unnamed]
      | cons target targets =>
          simp only [typesOf, ValueType.record.injEq, Record.unnamed, Record.mk.injEq] at induction
          simp only [typesOf, ValueType.record.injEq, Record.unnamed, Record.mk.injEq,
            List.map_cons, List.cons.injEq, induction]
          simp only [TypesFit, Store.type, WeightSource.contents, ValueType.tensor.injEq,
            true_and, Prod.mk.injEq, List.length_cons, Nat.add_right_cancel_iff,
            List.zip_cons_cons, List.forall_mem_cons]
          exact and_left_comm

theorem fits_iff_type_eq {weights : Weights α} {model : Model} :
    weights.Fits model store ↔ weights.type store = (ofModel model).type store := by
  rw [fits_iff_checked, checkPart_eq_ok_iff, checkPart_eq_ok_iff, ← typesOf_eq_iff,
    ← typesOf_eq_iff]
  simp [type, ofModel, Record.named]

theorem assignTo_of_fits {weights : Weights α} {model : Model}
    (fits : weights.Fits model store) :
    weights.assignTo model store = (.ok (), overwrite store (weights.moves model)) := by
  obtain ⟨trainableChecked, nonTrainableChecked⟩ := fits_iff_checked.mp fits
  obtain ⟨_, trainableFit⟩ := checkPart_eq_ok_iff.mp trainableChecked
  obtain ⟨_, nonTrainableFit⟩ := checkPart_eq_ok_iff.mp nonTrainableChecked
  have kept := sameTypes_overwrite trainableFit
  simp only [assignTo, Store.Effect.bind_apply, Store.Effect.get_apply,
    Store.Effect.ofExcept_apply, trainableChecked, nonTrainableChecked,
    writePart_apply trainableFit, writePart_apply (nonTrainableFit.of_sameTypes kept)]
  simp [overwrite, moves]

theorem assignTo_of_not_fits {weights : Weights α} {model : Model}
    (unfit : ¬weights.Fits model store) :
    ∃ error, weights.assignTo model store = (.error error, store) := by
  rw [fits_iff_checked] at unfit
  simp only [assignTo, Store.Effect.bind_apply, Store.Effect.get_apply,
    Store.Effect.ofExcept_apply]
  cases trainable : checkPart store trainableName weights.trainable model.trainable with
  | error error => exact ⟨error, rfl⟩
  | ok checked =>
      cases nonTrainable :
          checkPart store nonTrainableName weights.nonTrainable model.nonTrainable with
      | error error => exact ⟨error, rfl⟩
      | ok checked => exact absurd ⟨trainable, nonTrainable⟩ unfit

/-- Weights are assigned to a model exactly when both have the same type, and a
refused assignment changes no variable. -/
theorem assignTo_ok_iff_type_eq (weights : Weights α) (model : Model) (store : Store) :
    ((∃ after, weights.assignTo model store = (.ok (), after)) ↔
        weights.type store = (ofModel model).type store) ∧
      ∀ error after, weights.assignTo model store = (.error error, after) → after = store := by
  rw [← fits_iff_type_eq]
  by_cases fits : weights.Fits model store
  · have assigned := assignTo_of_fits fits
    refine ⟨iff_of_true ⟨_, assigned⟩ fits, ?_⟩
    intro error after refused
    rw [assigned] at refused
    cases refused
  · obtain ⟨refusal, refused⟩ := assignTo_of_not_fits fits
    refine ⟨iff_of_false ?_ fits, ?_⟩
    · intro succeeds
      obtain ⟨after, assigned⟩ := succeeds
      rw [refused] at assigned
      cases assigned
    · intro error after outcome
      rw [refused] at outcome
      cases outcome
      rfl

theorem read_overwrite_of_not_mem {handle : Variable} (outside : handle ∉ pairs.map Prod.fst) :
    (overwrite store pairs).read handle = store.read handle := by
  induction pairs generalizing store with
  | nil => rfl
  | cons pair rest induction =>
      simp only [List.map_cons, List.mem_cons, not_or] at outside
      obtain ⟨different, outsideRest⟩ := outside
      let middle := store.put pair.1 (WeightSource.contents store pair.2)
      have unchanged : middle.read handle = store.read handle := Store.read_put_of_ne different
      exact (induction outsideRest).trans unchanged

theorem map_fst_moves {weights : Weights α} {model : Model} (fits : weights.Fits model store) :
    (weights.moves model).map Prod.fst = model.trainable ++ model.nonTrainable := by
  rw [moves, List.map_append, List.map_fst_zip (Nat.le_of_eq fits.trainableCount.symm),
    List.map_fst_zip (Nat.le_of_eq fits.nonTrainableCount.symm)]

theorem fits_of_assigned {weights : Weights α} {model : Model} {after : Store}
    (assigned : weights.assignTo model store = (.ok (), after)) :
    weights.Fits model store ∧ after = overwrite store (weights.moves model) := by
  by_cases fits : weights.Fits model store
  · rw [assignTo_of_fits fits] at assigned
    cases assigned
    exact ⟨fits, rfl⟩
  · obtain ⟨error, refused⟩ := assignTo_of_not_fits fits
    rw [refused] at assigned
    cases assigned

end

section

variable {store : Store} {pairs : List (Variable × Variable)}

/-- No variable is read as a weight after an earlier write has changed it. -/
def Undisturbed (store : Store) (pairs : List (Variable × Variable)) : Prop :=
  pairs.Pairwise fun earlier later =>
    later.2 = earlier.1 → store.read earlier.2 = store.read earlier.1

instance : Decidable (Undisturbed store pairs) :=
  inferInstanceAs (Decidable (List.Pairwise _ _))

/-- The targets have cells of their own in the store. -/
structure Writable (store : Store) (targets : List Variable) : Prop where
  distinct : targets.Nodup
  held : ∀ target ∈ targets, store.Holds target

theorem Writable.first_fresh {first : Variable} {rest : List Variable}
    (writable : Writable store (first :: rest)) : first ∉ rest :=
  (List.nodup_cons.mp writable.distinct).1

theorem Writable.first_held {first : Variable} {rest : List Variable}
    (writable : Writable store (first :: rest)) : store.Holds first :=
  writable.held first (by simp)

/-- A write takes no cell away, so that the targets that follow can be written. -/
theorem Writable.rest_put {first : Variable} {rest : List Variable} {contents : Tensor}
    (writable : Writable store (first :: rest)) : Writable (store.put first contents) rest where
  distinct := (List.nodup_cons.mp writable.distinct).2
  held := fun target inside => Store.holds_put.mpr (writable.held target (by simp [inside]))

/-- A weight that is read from a variable outside the model arrives as it was. -/
theorem read_overwrite_of_source_outside (writable : Writable store (pairs.map Prod.fst))
    {pair : Variable × Variable} (member : pair ∈ pairs)
    (outside : pair.2 ∉ pairs.map Prod.fst) :
    (overwrite store pairs).read pair.1 = store.read pair.2 := by
  induction pairs generalizing store with
  | nil => simp at member
  | cons first rest induction =>
      simp only [List.map_cons, List.mem_cons, not_or] at outside
      rcases List.mem_cons.mp member with same | later
      · subst same
        exact (read_overwrite_of_not_mem writable.first_fresh).trans
          (Store.read_put_self writable.first_held)
      · let middle := store.put first.1 (store.read first.2)
        have writableRest : Writable middle (rest.map Prod.fst) := writable.rest_put
        exact (induction writableRest later outside.2).trans (Store.read_put_of_ne outside.1)

/-- A first write that changes no variable read later leaves the rest undisturbed
or not, as it was. -/
theorem undisturbed_put_iff {first : Variable × Variable} (fresh : first.1 ∉ pairs.map Prod.fst)
    (harmless : ∀ later ∈ pairs, later.2 = first.1 →
      store.read first.2 = store.read first.1) :
    Undisturbed (store.put first.1 (store.read first.2)) pairs ↔ Undisturbed store pairs := by
  refine List.Pairwise.iff_of_mem ?_
  intro earlier later earlierMember _
  have targetKept : (store.put first.1 (store.read first.2)).read earlier.1 =
      store.read earlier.1 := by
    apply Store.read_put_of_ne
    intro same
    exact fresh (same ▸ List.mem_map_of_mem earlierMember)
  have sourceKept : (store.put first.1 (store.read first.2)).read earlier.2 =
      store.read earlier.2 :=
    Store.read_put_of_harmless (harmless earlier earlierMember)
  rw [targetKept, sourceKept]

/-- Every variable ends with the weight paired with it exactly when no weight is
read from a variable that an earlier write has changed. -/
theorem overwrite_arrives_iff (writable : Writable store (pairs.map Prod.fst)) :
    (∀ pair ∈ pairs, (overwrite store pairs).read pair.1 = store.read pair.2) ↔
      Undisturbed store pairs := by
  induction pairs generalizing store with
  | nil => simp [Undisturbed]
  | cons first rest induction =>
      let middle := store.put first.1 (store.read first.2)
      have fresh : first.1 ∉ rest.map Prod.fst := writable.first_fresh
      have written : middle.read first.1 = store.read first.2 :=
        Store.read_put_self writable.first_held
      have writableRest : Writable middle (rest.map Prod.fst) := writable.rest_put
      have restIff := induction writableRest
      have agree : (∀ later ∈ rest, later.2 = first.1 → store.read first.2 = store.read first.1) →
          ∀ pair ∈ rest, middle.read pair.2 = store.read pair.2 :=
        fun harmless pair member => Store.read_put_of_harmless (harmless pair member)
      rw [Undisturbed, List.pairwise_cons, List.forall_mem_cons]
      constructor
      · intro allArrive
        have arrives := allArrive.2
        have harmless : ∀ later ∈ rest, later.2 = first.1 →
            store.read first.2 = store.read first.1 := by
          intro later member same
          -- The variable written first is not written again, so this weight is
          -- read as the first one was.
          have readWritten :=
            read_overwrite_of_source_outside writableRest member (same ▸ fresh)
          calc
            store.read first.2 = middle.read later.2 := by rw [same, written]
            _ = (overwrite middle rest).read later.1 := readWritten.symm
            _ = store.read first.1 := by rw [← same]; exact arrives later member
        refine ⟨harmless, (undisturbed_put_iff fresh harmless).mp (restIff.mp ?_)⟩
        intro pair member
        exact (arrives pair member).trans (agree harmless pair member).symm
      · intro allUndisturbed
        obtain ⟨harmless, undisturbed⟩ := allUndisturbed
        have arrivesMiddle := restIff.mpr ((undisturbed_put_iff fresh harmless).mpr undisturbed)
        refine ⟨(read_overwrite_of_not_mem fresh).trans written, ?_⟩
        intro pair member
        exact (arrivesMiddle pair member).trans (agree harmless pair member)

end

/-- After an assignment every variable outside the model is as it was.  Those of
the model hold the weights at their positions, as they were when the assignment
began, exactly when no weight is read from a variable that an earlier write has
changed. -/
theorem assigned_arrives_iff_undisturbed (weights : Weights Variable) (model : Model)
    (store after : Store) (distinct : (model.trainable ++ model.nonTrainable).Nodup)
    (held : ∀ handle ∈ model.trainable ++ model.nonTrainable, store.Holds handle)
    (assigned : weights.assignTo model store = (.ok (), after)) :
    (∀ handle, handle ∉ model.trainable ++ model.nonTrainable →
        after.read handle = store.read handle) ∧
      ((∀ pair ∈ weights.moves model, after.read pair.1 = store.read pair.2) ↔
        Undisturbed store (weights.moves model)) := by
  obtain ⟨fits, rfl⟩ := fits_of_assigned assigned
  rw [← map_fst_moves fits] at distinct held ⊢
  exact ⟨fun handle outside => read_overwrite_of_not_mem outside,
    overwrite_arrives_iff ⟨distinct, held⟩⟩

/-- Variables that hold one whole number each. -/
def wholeNumbers (numbers : List Int32) : Store :=
  ⟨numbers.map fun number => ⟨"", .int32 (.scalar number)⟩⟩

/-- A model of the first two variables, of which it trains one. -/
def firstTwo : Model :=
  WeightHolder.toModel ⟨[⟨0⟩], [⟨1⟩], []⟩

/-- The weights for the first two variables are the second and the third. -/
def shifted : Weights Variable :=
  ⟨[⟨1⟩], [⟨2⟩]⟩

theorem shifted_weights_arrive :
    (firstTwo.trainable ++ firstTwo.nonTrainable).Nodup ∧
      (∀ handle ∈ firstTwo.trainable ++ firstTwo.nonTrainable,
        (wholeNumbers [1, 2, 3]).Holds handle) ∧
      shifted.assignTo firstTwo (wholeNumbers [1, 2, 3]) = (.ok (), wholeNumbers [2, 3, 3]) ∧
      (∀ handle, handle ∉ firstTwo.trainable ++ firstTwo.nonTrainable →
        (wholeNumbers [2, 3, 3]).read handle = (wholeNumbers [1, 2, 3]).read handle) ∧
      Undisturbed (wholeNumbers [1, 2, 3]) (shifted.moves firstTwo) ∧
      ∀ pair ∈ shifted.moves firstTwo,
        (wholeNumbers [2, 3, 3]).read pair.1 = (wholeNumbers [1, 2, 3]).read pair.2 := by
  have distinct : (firstTwo.trainable ++ firstTwo.nonTrainable).Nodup := by decide
  have held : ∀ handle ∈ firstTwo.trainable ++ firstTwo.nonTrainable,
      (wholeNumbers [1, 2, 3]).Holds handle := by decide
  have undisturbed : Undisturbed (wholeNumbers [1, 2, 3]) (shifted.moves firstTwo) := by decide
  obtain ⟨outside, arrives⟩ := assigned_arrives_iff_undisturbed shifted firstTwo
    (wholeNumbers [1, 2, 3]) (wholeNumbers [2, 3, 3]) distinct held rfl
  exact ⟨distinct, held, rfl, outside, undisturbed, arrives.mpr undisturbed⟩

/-- The weights of a model do not arrive when they are its own variables in the
other order: the second is read after the first has been written over it. -/
theorem swapped_weights_do_not_arrive :
    ¬∀ (weights : Weights Variable) (model : Model) (store after : Store),
      (model.trainable ++ model.nonTrainable).Nodup →
      (∀ handle ∈ model.trainable ++ model.nonTrainable, store.Holds handle) →
      weights.assignTo model store = (.ok (), after) →
      (∀ pair ∈ weights.moves model, after.read pair.1 = store.read pair.2) ∧
        ∀ handle, handle ∉ model.trainable ++ model.nonTrainable →
          after.read handle = store.read handle := by
  intro always
  have arrives := (always ⟨[⟨1⟩], [⟨0⟩]⟩ firstTwo (wholeNumbers [1, 2]) (wholeNumbers [2, 2])
    (by decide) (by decide) rfl).1
  have second := arrives (⟨1⟩, ⟨0⟩) (by decide)
  exact absurd second (by decide)

end FederatedLearning.Weights
