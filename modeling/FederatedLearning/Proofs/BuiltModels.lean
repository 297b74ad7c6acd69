import FederatedLearning.Proofs.VariableCreation
import Mathlib.Data.List.Perm.Basic

/-!
# What every built model keeps to

A model of either kind is sound at a store when its variables are distinct, have the
types that they were created with, and fit its spec.  A sound model answers exactly
the calls whose arguments fit the spec; a refused call changes nothing, a forward
pass changes local variables only, and a prediction changes non-trainable ones only,
and these only while training.
-/

namespace FederatedLearning

/-- A model made by one of the two constructors. -/
inductive BuiltModel where
  | regression (model : LinearRegression)
  | network (model : NetworkModel)

/-- What a model keeps to at a store, whatever it is called with. -/
structure Model.Contract (model : Model) (store : Store) : Prop where
  /-- A forward pass succeeds exactly when the batch fits. -/
  exists_forwardPass_iff : ∀ batch training,
    (∃ output, (model.forwardPass batch training store).1 = .ok output) ↔
      model.spec.checkBatch batch = .ok ()
  /-- A prediction succeeds exactly when the features fit. -/
  exists_predict_iff : ∀ features training,
    (∃ predictions, (model.predict features training store).1 = .ok predictions) ↔
      model.spec.checkFeatures features = .ok ()
  failed_forwardPass : ∀ batch training error,
    (model.forwardPass batch training store).1 = .error error →
      (model.forwardPass batch training store).2 = store
  failed_predict : ∀ features training error,
    (model.predict features training store).1 = .error error →
      (model.predict features training store).2 = store
  forwardPass_keeps : ∀ batch training, ∀ handle ∉ model.locals,
    (model.forwardPass batch training store).2.read handle = store.read handle
  quiet_predict : ∀ features, (model.predict features false store).2 = store
  predict_keeps : ∀ features training, ∀ handle ∉ model.nonTrainable,
    (model.predict features training store).2.read handle = store.read handle
  /-- No variable is of two kinds, so that each of the bounds above leaves out the
  variables of the other kinds. -/
  distinct : (model.trainable ++ model.nonTrainable ++ model.locals).Nodup

theorem Layer.handles_declared (layer : Layer) :
    layer.declared.map Prod.fst = layer.trainable ++ layer.nonTrainable := by
  cases layer <;> rfl

theorem Layer.handles_declared_perm (layers : List Layer) :
    ((layers.flatMap declared).map Prod.fst).Perm
      (layers.flatMap trainable ++ layers.flatMap nonTrainable) := by
  rw [List.map_flatMap]
  simp only [handles_declared]
  exact (List.flatMap_append_perm _ _ _).symm

theorem Network.handles_declared_perm (network : Network) :
    (network.declared.map Prod.fst).Perm (network.trainable ++ network.nonTrainable) :=
  Layer.handles_declared_perm network.layers

namespace BuiltModel

variable {model : BuiltModel} {batch : Batch} {features : Value} {training : Bool} {store : Store}
  {error : LearningError} {loss : Float32} {examples : Nat}

def toModel : BuiltModel → Model
  | .regression model => model.toModel
  | .network model => model.toModel

/-- The variables of a model with the types that they were created with. -/
def declared : BuiltModel → List (Variable × TensorType)
  | .regression model => model.declared
  | .network model => model.declared

def Fitting : BuiltModel → Prop
  | .regression _ => True
  | .network model => model.Fitting

/-- The variables of a model are allotted to it, and it fits its spec. -/
structure Sound (model : BuiltModel) (store : Store) : Prop where
  allots : store.Allots model.declared
  fitting : model.Fitting

theorem handles_declared_perm (model : BuiltModel) :
    (model.declared.map Prod.fst).Perm
      (model.toModel.trainable ++ model.toModel.nonTrainable ++ model.toModel.locals) := by
  cases model with
  | regression model => exact List.Perm.refl _
  | network model =>
      rw [declared, NetworkModel.declared, List.map_append]
      exact model.network.handles_declared_perm.append_right _

theorem Sound.distinct (sound : model.Sound store) :
    (model.toModel.trainable ++ model.toModel.nonTrainable ++ model.toModel.locals).Nodup :=
  model.handles_declared_perm.nodup_iff.mp sound.allots.distinct

theorem Sound.separate (sound : model.Sound store) :
    ∀ target ∈ model.toModel.nonTrainable, target ∉ model.toModel.trainable := by
  have weightsDistinct := sound.distinct.of_append_left
  intro target moved trained
  exact (List.nodup_append.mp weightsDistinct).2.2 target trained target moved rfl

/-- The part of a forward pass that only reads. -/
def assess : BuiltModel → Batch → Bool → Store.Effect (Float32 × Matrix)
  | .regression model, batch, _ => do MonadExcept.ofExcept (model.assess batch (← get))
  | .network model, batch, training => model.assess batch training

/-- The part of a forward pass that writes local variables. -/
def accumulate : BuiltModel → Float32 → Nat → Store.Effect Unit
  | .regression model, loss, examples => model.accumulate loss examples
  | .network model, loss, examples => model.accumulate loss examples

theorem forwardPass_eq :
    model.toModel.forwardPass batch training = (do
      let assessed ← model.assess batch training
      model.accumulate assessed.1 assessed.2.height
      return .assessed assessed.1 assessed.2) := by
  cases model with
  | regression model =>
      simp only [toModel, LinearRegression.toModel, LinearRegression.forwardPass, assess,
        accumulate, bind_assoc]
  | network model => rfl

theorem writes_assess : Store.Effect.Writes [] (model.assess batch training) := by
  cases model with
  | regression model =>
      apply Store.Effect.writes_get.bind
      intro _
      exact Store.Effect.writes_ofExcept _
  | network model => exact NetworkModel.writes_assess

theorem exists_assess (training : Bool) (sound : model.Sound store)
    (checked : model.toModel.spec.checkBatch batch = .ok ()) :
    ∃ loss predicted, model.assess batch training store = (.ok (loss, predicted), store) ∧
      (model.toModel.predict batch.features training store).1 = .ok predicted.toTensor := by
  cases model with
  | regression model =>
      obtain ⟨loss, predicted, assessed, found⟩ :=
        LinearRegression.exists_assess sound.allots.typed checked
      refine ⟨loss, predicted, ?_, ?_⟩
      · rw [assess, Store.Effect.reading_apply, assessed]
      · rw [toModel, LinearRegression.predict_apply, found]
        rfl
  | network model =>
      exact NetworkModel.exists_assess sound.fitting sound.allots.typed sound.separate checked

theorem assess_of_refused (refused : model.toModel.spec.checkBatch batch = .error error) :
    model.assess batch training store = (.error error, store) := by
  cases model with
  | regression model =>
      have failed : model.assess batch store = .error error :=
        LinearRegression.assess_of_refused refused
      rw [assess, Store.Effect.reading_apply, failed]
  | network model => exact NetworkModel.assess_of_refused refused

theorem writes_accumulate :
    Store.Effect.Writes model.toModel.locals (model.accumulate loss examples) := by
  cases model with
  | regression model => exact LinearRegression.writes_accumulate
  | network model => exact NetworkModel.writes_accumulate

theorem yields_accumulate (loss : Float32) (examples : Nat)
    (typed : store.HasTypes model.declared) :
    (model.accumulate loss examples).Yields store fun _ _ => True := by
  cases model with
  | regression model => exact LinearRegression.yields_accumulate typed
  | network model => exact NetworkModel.yields_accumulate typed

theorem writes_forwardPass :
    Store.Effect.Writes model.toModel.locals (model.toModel.forwardPass batch training) := by
  rw [forwardPass_eq]
  apply (writes_assess.mono fun target inside => absurd inside List.not_mem_nil).bind
  intro assessed
  apply writes_accumulate.bind
  intro _
  exact Store.Effect.writes_pure _

/-- A forward pass over a batch that fits yields the predictions that a prediction
for its features yields. -/
theorem forwardPass_of_checked (training : Bool) (sound : model.Sound store)
    (checked : model.toModel.spec.checkBatch batch = .ok ()) :
    ∃ loss predicted after,
      model.toModel.forwardPass batch training store = (.ok (.assessed loss predicted), after) ∧
        (model.toModel.predict batch.features training store).1 = .ok predicted.toTensor := by
  obtain ⟨loss, predicted, assessed, found⟩ := exists_assess training sound checked
  obtain ⟨_, after, accumulated, _⟩ :=
    yields_accumulate loss predicted.height sound.allots.typed
  refine ⟨loss, predicted, after, ?_, found⟩
  simp only [forwardPass_eq, Store.Effect.bind_apply, assessed, accumulated,
    Store.Effect.pure_apply]

theorem forwardPass_of_refused (refused : model.toModel.spec.checkBatch batch = .error error) :
    model.toModel.forwardPass batch training store = (.error error, store) := by
  simp only [forwardPass_eq, Store.Effect.bind_apply, assess_of_refused refused]

theorem exists_predict (training : Bool) (sound : model.Sound store)
    (checked : model.toModel.spec.checkFeatures features = .ok ()) :
    ∃ predictions, (model.toModel.predict features training store).1 = .ok predictions := by
  cases model with
  | regression model =>
      obtain ⟨height, isMatrix⟩ :=
        BatchSpec.isMatrix_of_checkFeatures LinearRegression.isMatrixType_features checked
      obtain ⟨predicted, found, _⟩ :=
        LinearRegression.exists_predictions sound.allots.typed checked isMatrix
      refine ⟨predicted.toTensor, ?_⟩
      rw [toModel, LinearRegression.predict_apply, found]
      rfl
  | network model =>
      exact NetworkModel.exists_predict sound.fitting sound.allots.typed checked

theorem predict_of_refused (refused : model.toModel.spec.checkFeatures features = .error error) :
    model.toModel.predict features training store = (.error error, store) := by
  cases model with
  | regression model =>
      have failed : model.predictions features store = .error error :=
        LinearRegression.predictions_of_refused refused
      rw [toModel, LinearRegression.predict_apply, failed]
      rfl
  | network model => exact NetworkModel.predict_of_refused refused

theorem writes_predict :
    Store.Effect.Writes (if training then model.toModel.nonTrainable else [])
      (model.toModel.predict features training) := by
  cases model with
  | regression model =>
      apply Store.Effect.writes_get.bind
      intro _
      apply (Store.Effect.writes_ofExcept _).bind
      intro _
      exact Store.Effect.writes_pure _
  | network model => exact NetworkModel.writes_predict

theorem Sound.contract (sound : model.Sound store) : model.toModel.Contract store where
  exists_forwardPass_iff batch training := by
    cases checked : model.toModel.spec.checkBatch batch with
    | error error => simp [forwardPass_of_refused checked]
    | ok passed =>
        obtain ⟨loss, predicted, after, succeeds, _⟩ :=
          forwardPass_of_checked training sound checked
        simp [succeeds]
  exists_predict_iff features training := by
    cases checked : model.toModel.spec.checkFeatures features with
    | error error => simp [predict_of_refused checked]
    | ok passed => simp [exists_predict training sound checked]
  failed_forwardPass batch training error failed := by
    cases checked : model.toModel.spec.checkBatch batch with
    | error error => rw [forwardPass_of_refused checked]
    | ok passed =>
        obtain ⟨loss, predicted, after, succeeds, _⟩ :=
          forwardPass_of_checked training sound checked
        rw [succeeds] at failed
        cases failed
  failed_predict features training error failed := by
    cases checked : model.toModel.spec.checkFeatures features with
    | error error => rw [predict_of_refused checked]
    | ok passed =>
        obtain ⟨predictions, succeeds⟩ := exists_predict training sound checked
        rw [succeeds] at failed
        cases failed
  forwardPass_keeps batch training handle outside := by
    have written : Store.Rewrites model.toModel.locals store
        (model.toModel.forwardPass batch training store).2 := writes_forwardPass store
    exact written.read_eq outside
  quiet_predict features := by
    have written : Store.Rewrites (if false then model.toModel.nonTrainable else []) store
        (model.toModel.predict features false store).2 := writes_predict store
    exact Store.Rewrites.eq_of_nil written
  predict_keeps features training handle outside := by
    have written : Store.Rewrites (if training then model.toModel.nonTrainable else []) store
        (model.toModel.predict features training store).2 := writes_predict store
    apply written.read_eq
    cases training with
    | false => exact List.not_mem_nil
    | true => exact outside
  distinct := sound.distinct

end BuiltModel

end FederatedLearning
