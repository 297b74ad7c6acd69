import FederatedLearning.Proofs.VariableChanges
import FederatedLearning.Proofs.WeightAssignment

/-!
# Models after an assignment

An assignment writes weights of the model only.  Plain tensors are read from no
variable, so that they arrive whatever the model held before: a snapshot taken
afterwards is the weights that were assigned.
-/

namespace FederatedLearning.Weights

section

variable {α : Type} [WeightSource α] {store : Store} {pairs : List (Variable × α)}
  {targets : List Variable}

theorem rewrites_overwrite (fits : TypesFit store pairs)
    (among : ∀ pair ∈ pairs, pair.1 ∈ targets) :
    Store.Rewrites targets store (overwrite store pairs) := by
  induction pairs generalizing store with
  | nil => exact .refl
  | cons pair rest induction =>
      let middle := store.put pair.1 (WeightSource.contents store pair.2)
      have first : Store.Rewrites targets store middle :=
        .put .refl (among pair (by simp)) (fits pair (by simp))
      have restFits : TypesFit store rest := fun later member => fits later (by simp [member])
      apply first.trans
      apply induction (restFits.of_sameTypes first.sameTypes)
      exact fun later member => among later (by simp [member])

theorem writes_assignTo (weights : Weights α) (model : Model) :
    Store.Effect.Writes (model.trainable ++ model.nonTrainable) (weights.assignTo model) := by
  intro store
  by_cases fits : weights.Fits model store
  · rw [assignTo_of_fits fits]
    apply rewrites_overwrite fits.types
    intro pair member
    rw [← map_fst_moves fits]
    exact List.mem_map_of_mem member
  · obtain ⟨error, refused⟩ := assignTo_of_not_fits fits
    rw [refused]
    exact .refl

theorem type_snapshot (weights : Weights α) (store : Store) :
    (weights.snapshot store).type store = weights.type store := by
  simp only [type, typesOf, snapshot, List.map_map]
  rfl

end

variable {left right store after : Store} {weights : Weights Tensor}
  {model first second : Model}

theorem type_ofModel_eq
    (sameTrainable : first.trainable.map left.type = second.trainable.map right.type)
    (sameNonTrainable : first.nonTrainable.map left.type = second.nonTrainable.map right.type) :
    (ofModel first).type left = (ofModel second).type right := by
  have typesOf_eq : ∀ (store : Store) (handles : List Variable),
      typesOf store handles = .record (.unnamed ((handles.map store.type).map .tensor)) := by
    intro store handles
    rw [List.map_map]
    rfl
  simp only [type, ofModel, typesOf_eq, sameTrainable, sameNonTrainable]

/-- Tensors arrive in distinct variables, since no write changes what is still to be
written. -/
theorem read_overwrite_of_tensors {pairs : List (Variable × Tensor)}
    (writable : Writable store (pairs.map Prod.fst)) :
    ∀ pair ∈ pairs, (overwrite store pairs).read pair.1 = pair.2 := by
  induction pairs generalizing store with
  | nil => simp
  | cons first rest induction =>
      have writableRest : Writable (store.put first.1 first.2) (rest.map Prod.fst) :=
        writable.rest_put
      rw [List.forall_mem_cons]
      constructor
      · have arrived : (store.put first.1 first.2).read first.1 = first.2 :=
          Store.read_put_self writable.first_held
        exact (read_overwrite_of_not_mem writable.first_fresh).trans arrived
      · exact induction writableRest

theorem map_eq_of_forall_zip {handles : List Variable} {tensors : List Tensor}
    (sameLength : tensors.length = handles.length)
    (arrived : ∀ pair ∈ handles.zip tensors, after.read pair.1 = pair.2) :
    handles.map after.read = tensors := by
  have read : (handles.zip tensors).map (after.read ∘ Prod.fst) =
      (handles.zip tensors).map Prod.snd :=
    List.map_congr_left arrived
  rwa [← List.map_map, List.map_fst_zip (Nat.le_of_eq sameLength.symm),
    List.map_snd_zip (Nat.le_of_eq sameLength)] at read

theorem snapshot_overwrite (fits : weights.Fits model store)
    (writable : Writable store (model.trainable ++ model.nonTrainable)) :
    (ofModel model).snapshot (overwrite store (weights.moves model)) = weights := by
  rw [← map_fst_moves fits] at writable
  have arrived := read_overwrite_of_tensors writable
  have trainableArrived := map_eq_of_forall_zip fits.trainableCount
    fun pair member => arrived pair (List.mem_append_left _ member)
  have nonTrainableArrived := map_eq_of_forall_zip fits.nonTrainableCount
    fun pair member => arrived pair (List.mem_append_right _ member)
  obtain ⟨trainable, nonTrainable⟩ := weights
  exact congrArg₂ Weights.mk trainableArrived nonTrainableArrived

end FederatedLearning.Weights
