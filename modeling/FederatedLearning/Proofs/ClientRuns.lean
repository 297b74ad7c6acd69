import FederatedLearning.Proofs.AlikeModels
import FederatedLearning.Proofs.Counters
import Mathlib.Algebra.GroupWithZero.Nat

/-!
# Runs of clients

A client is a model that makes forward passes and predictions, is assigned weights
and has its local variables reset, in any order and with any arguments.  Beside the
model we keep the batches that it has accepted since its last reset.

What its counters hold is told by these batches alone: the number of their rows, and
for a regression also the number of batches.  One step of a client keeps this, and
so does whatever happens elsewhere to other variables.
-/

namespace FederatedLearning

namespace Batch

/-- The number of examples of a batch, none if it has no size. -/
def rows (batch : Batch) : Nat :=
  batch.size?.getD 0

def totalRows (batches : List Batch) : Nat :=
  (batches.map rows).sum

theorem totalRows_concat (batches : List Batch) (batch : Batch) :
    totalRows (batches ++ [batch]) = totalRows batches + batch.rows := by
  simp [totalRows]

end Batch

/-- An assessed batch has as many rows as there are predictions. -/
theorem LinearRegression.size?_of_assess {model : LinearRegression} {store : Store} {batch : Batch}
    {loss : Float32} {predicted : Matrix} (typed : store.HasTypes model.declared)
    (checked : model.spec.checkBatch batch = .ok ())
    (assessed : model.assess batch store = .ok (loss, predicted)) :
    batch.size? = some predicted.height := by
  obtain ⟨height, featuresMatrix, _⟩ :=
    BatchSpec.isMatrix_of_checkBatch isMatrixType_features isMatrixType_labels checked
  obtain ⟨predictions, found, sameHeight, _⟩ :=
    exists_predictions typed (BatchSpec.checkFeatures_of_checkBatch checked) featuresMatrix
  obtain ⟨_, _, alsoAssessed, alsoFound⟩ := exists_assess typed checked
  rw [assessed] at alsoAssessed
  cases alsoAssessed
  rw [found] at alsoFound
  cases alsoFound
  rw [featuresMatrix.size?_eq, sameHeight]

theorem NetworkModel.size?_of_assess {model : NetworkModel} {store : Store} {batch : Batch}
    {training : Bool} {loss : Float32} {predicted : Matrix} (fitting : model.Fitting)
    (typed : store.HasTypes model.declared) (checked : model.spec.checkBatch batch = .ok ())
    (assessed : (model.assess batch training store).1 = .ok (loss, predicted)) :
    batch.size? = some predicted.height := by
  obtain ⟨height, featuresMatrix, labelsMatrix⟩ :=
    BatchSpec.isMatrix_of_checkBatch fitting.features fitting.labels checked
  obtain ⟨rows, rowsViewed, rowsHeight, rowsWidth⟩ := featuresMatrix.exists_ofValue "features"
  obtain ⟨labels, labelsViewed, _⟩ := labelsMatrix.exists_ofValue "labels"
  obtain ⟨predictions, after, passed, _, sameHeight⟩ :
      (model.network.forward (if training then .frozen else .inference) rows).Yields store
        fun predictions _ => predictions.width = model.network.outputs ∧
          predictions.height = rows.height :=
    Network.yields_forward (hasTypes_network typed) rowsWidth
  simp only [assess, Store.Effect.bind_apply, Store.Effect.ofExcept_apply, checked, rowsViewed,
    labelsViewed, passed] at assessed
  cases reduced : model.loss.value predictions labels with
  | error error =>
      rw [reduced] at assessed
      cases assessed
  | ok value =>
      rw [reduced] at assessed
      cases assessed
      rw [featuresMatrix.size?_eq, sameHeight, rowsHeight]

/-- The metrics of a model bear the name of its loss and the name reserved for the
number of examples, and these differ. -/
structure NetworkModel.Labelled (model : NetworkModel) : Prop where
  loss : model.lossMetric.name = model.loss.name
  examples : model.examples.name = examplesName
  apart : model.loss.name ≠ examplesName

theorem LinearRegression.counts_of_build {features : Nat} {model : LinearRegression}
    {before after : Construction} (built : build features before = (.ok model, after)) :
    after.store.Counts model.examples 0 ∧ after.store.Counts model.batches 0 := by
  cases created_of_build built
  constructor
  · exact Construction.counts_zeros_of_counts
      (Construction.counts_zeros_of_counts Construction.counts_zeros)
  · exact Construction.counts_zeros_of_counts Construction.counts_zeros

section

variable {network : Network} {loss : Loss} {spec : BatchSpec} {model : NetworkModel}
  {before after : Construction}

theorem NetworkModel.counts_of_build
    (built : build network loss spec before = (.ok model, after)) :
    after.store.Counts model.examples.sum 0 := by
  obtain ⟨_, created⟩ := checked_of_build built
  cases created
  exact Construction.counts_zeros

theorem NetworkModel.labelled_of_build
    (built : build network loss spec before = (.ok model, after)) : model.Labelled := by
  obtain ⟨checked, created⟩ := checked_of_build built
  cases created
  simp only [check, exceptThen_eq_ok_iff] at checked
  refine ⟨rfl, rfl, ?_⟩
  intro reserved
  have refused : loss.name = examplesName := reserved
  simp [refused] at checked

end

namespace BuiltModel

variable {model : BuiltModel} {store after : Store} {batch : Batch} {accepted : List Batch}
  {loss : Float32} {predicted : Matrix} {training : Bool} {tally : Variable × Nat}

def Labelled : BuiltModel → Prop
  | .regression _ => True
  | .network model => model.Labelled

/-- Resets the local variables of a model. -/
def reset : BuiltModel → Store → Store
  | .regression model => model.resetLocals
  | .network model => model.resetMetrics

/-- The counters of a model, with what they count once the batches were accepted. -/
def tallies : BuiltModel → List Batch → List (Variable × Nat)
  | .regression model, accepted =>
      [(model.examples, Batch.totalRows accepted), (model.batches, accepted.length)]
  | .network model, accepted => [(model.examples.sum, Batch.totalRows accepted)]

theorem counts_regression_iff {model : LinearRegression} :
    (∀ tally ∈ tallies (.regression model) accepted, store.Counts tally.1 tally.2) ↔
      store.Counts model.examples (Batch.totalRows accepted) ∧
        store.Counts model.batches accepted.length := by
  simp [tallies]

theorem counts_network_iff {model : NetworkModel} :
    (∀ tally ∈ tallies (.network model) accepted, store.Counts tally.1 tally.2) ↔
      store.Counts model.examples.sum (Batch.totalRows accepted) := by
  simp [tallies]

theorem reset_eq_resetAll : model.reset store = store.resetAll model.toModel.locals := by
  cases model <;> rfl

theorem mem_locals_of_mem_tallies (listed : tally ∈ model.tallies accepted) :
    tally.1 ∈ model.toModel.locals := by
  cases model with
  | regression model =>
      simp only [tallies, List.mem_cons, List.not_mem_nil, or_false] at listed
      rcases listed with rfl | rfl
      · simp [toModel, LinearRegression.toModel, LinearRegression.locals]
      · simp [toModel, LinearRegression.toModel, LinearRegression.locals]
  | network model =>
      cases List.mem_singleton.mp listed
      simp [toModel, NetworkModel.toModel, NetworkModel.locals, SumMetric.handles]

theorem hasType_of_mem_tallies (typed : store.HasTypes model.declared)
    (listed : tally ∈ model.tallies accepted) :
    store.HasType tally.1 (.ofSizes .int64 []) := by
  cases model with
  | regression model =>
      obtain ⟨_, _, _, examplesTyped, batchesTyped, _⟩ :=
        LinearRegression.hasTypes_declared_iff.mp typed
      simp only [tallies, List.mem_cons, List.not_mem_nil, or_false] at listed
      rcases listed with rfl | rfl
      · exact examplesTyped
      · exact batchesTyped
  | network model =>
      cases List.mem_singleton.mp listed
      exact (NetworkModel.hasTypes_metrics typed).2.2

theorem eq_zero_of_mem_tallies_nil (listed : tally ∈ model.tallies []) : tally.2 = 0 := by
  cases model with
  | regression model =>
      simp only [tallies, List.mem_cons, List.not_mem_nil, or_false] at listed
      rcases listed with rfl | rfl <;> rfl
  | network model =>
      cases List.mem_singleton.mp listed
      rfl

theorem Sound.size?_of_assess (sound : model.Sound store)
    (checked : model.toModel.spec.checkBatch batch = .ok ())
    (assessed : model.assess batch training store = (.ok (loss, predicted), store)) :
    batch.size? = some predicted.height := by
  cases model with
  | regression model =>
      rw [assess, Store.Effect.reading_apply] at assessed
      exact LinearRegression.size?_of_assess sound.allots.typed checked (Prod.mk.inj assessed).1
  | network model =>
      exact NetworkModel.size?_of_assess sound.fitting sound.allots.typed checked
        (congrArg Prod.fst assessed)

/-- Accumulating the examples of a batch moves every counter as far as it has to. -/
theorem yields_tallies_accumulate (sound : model.Sound store)
    (counts : ∀ tally ∈ model.tallies accepted, store.Counts tally.1 tally.2) (loss : Float32) :
    (model.accumulate loss batch.rows).Yields store fun _ after =>
      ∀ tally ∈ model.tallies (accepted ++ [batch]), after.Counts tally.1 tally.2 := by
  have distinct := sound.distinct.of_append_right
  cases model with
  | regression model =>
      obtain ⟨⟨examplesBatches, examplesLoss⟩, batchesLoss⟩ :
          (model.examples ≠ model.batches ∧ model.examples ≠ model.lossSum) ∧
            model.batches ≠ model.lossSum := by
        simpa [toModel, LinearRegression.toModel, LinearRegression.locals] using distinct
      obtain ⟨examplesCount, batchesCount⟩ := counts_regression_iff.mp counts
      obtain ⟨_, _, _, _, _, lossTyped⟩ :=
        LinearRegression.hasTypes_declared_iff.mp sound.allots.typed
      apply Store.Effect.Yields.bind
      apply (examplesCount.yields_assignAdd batch.rows).imp
      rintro _ second ⟨examplesMoved, written⟩
      apply Store.Effect.Yields.bind
      apply ((batchesCount.rewrites written (by simp [examplesBatches.symm])).yields_assignAdd
        1).imp
      rintro _ third ⟨batchesMoved, writtenNext⟩
      have examplesThere := examplesMoved.rewrites writtenNext (by simp [examplesBatches])
      have lossThere := (lossTyped.extends written.extends).extends writtenNext.extends
      apply (Store.yields_assignAdd lossThere rfl).imp
      intro _ fourth writtenLast
      rw [counts_regression_iff, Batch.totalRows_concat, List.length_append, List.length_singleton]
      constructor
      · exact examplesThere.rewrites writtenLast (by simp [examplesLoss])
      · exact batchesMoved.rewrites writtenLast (by simp [batchesLoss])
  | network model =>
      obtain ⟨⟨_, totalExamples⟩, countExamples⟩ :
          (model.lossMetric.total ≠ model.lossMetric.count ∧
            model.lossMetric.total ≠ model.examples.sum) ∧
              model.lossMetric.count ≠ model.examples.sum := by
        simpa [toModel, NetworkModel.toModel, NetworkModel.locals, MeanMetric.handles,
          SumMetric.handles] using distinct
      have examplesCount := counts_network_iff.mp counts
      obtain ⟨totalTyped, countTyped, _⟩ := NetworkModel.hasTypes_metrics sound.allots.typed
      apply Store.Effect.Yields.bind
      apply Store.Effect.Yields.bind
      apply (Store.yields_assignAdd totalTyped rfl).imp
      intro _ second written
      apply (Store.yields_assignAdd (countTyped.extends written.extends) rfl).imp
      intro _ third writtenNext
      have examplesSecond := examplesCount.rewrites written (by simp [totalExamples.symm])
      have examplesThird := examplesSecond.rewrites writtenNext (by simp [countExamples.symm])
      apply (examplesThird.yields_assignAdd batch.rows).imp
      rintro _ fourth ⟨examplesMoved, _⟩
      rw [counts_network_iff, Batch.totalRows_concat]
      exact examplesMoved

end BuiltModel

/-- A model, the store it works on, and the batches it has accepted since its local
variables were last reset. -/
structure Client where
  model : BuiltModel
  store : Store
  accepted : List Batch

namespace Client

/-- What a client goes through, whatever the arguments. -/
inductive Step (client : Client) : Client → Prop where
  | accept {batch : Batch} {training : Bool} {output : BatchOutput} {after : Store}
      (passed :
        client.model.toModel.forwardPass batch training client.store = (.ok output, after)) :
      Step client { client with store := after, accepted := client.accepted ++ [batch] }
  | refuse {batch : Batch} {training : Bool} {error : LearningError} {after : Store}
      (failed :
        client.model.toModel.forwardPass batch training client.store = (.error error, after)) :
      Step client { client with store := after }
  | predict (features : Value) (training : Bool) :
      Step client
        { client with store := (client.model.toModel.predict features training client.store).2 }
  | assignWeights {α : Type} [WeightSource α] (weights : Weights α) :
      Step client { client with store := (weights.assignTo client.model.toModel client.store).2 }
  | reset :
      Step client { client with store := client.model.reset client.store, accepted := [] }
  /-- Variables are created, or written that are not local ones of the model. -/
  | elsewhere {after : Store} (extended : client.store.Extends after)
      (kept : ∀ handle ∈ client.model.toModel.locals,
        after.read handle = client.store.read handle) :
      Step client { client with store := after }

/-- The clients that begin with a model as it has just been built, in any session. -/
inductive Reachable : Client → Prop where
  | built {before after : Session} {model : BuiltModel} :
      before.Reachable →
      before.Step after →
      after.models = model :: before.models →
      Reachable ⟨model, after.store, []⟩
  | step {before after : Client} : Reachable before → Step before after → Reachable after

/-- The model is sound, and its counters tell of the batches it has accepted. -/
structure Tallied (client : Client) : Prop where
  sound : client.model.Sound client.store
  labelled : client.model.Labelled
  counts : ∀ tally ∈ client.model.tallies client.accepted, client.store.Counts tally.1 tally.2

variable {client before after : Client} {store : Store}

theorem Tallied.of_kept (tallied : client.Tallied) (extended : client.store.Extends store)
    (kept : ∀ handle ∈ client.model.toModel.locals,
      store.read handle = client.store.read handle) :
    Tallied { client with store } where
  sound := ⟨tallied.sound.allots.extends extended, tallied.sound.fitting⟩
  labelled := tallied.labelled
  counts tally listed := by
    apply (tallied.counts tally listed).of_read_eq extended
    exact kept tally.1 (BuiltModel.mem_locals_of_mem_tallies listed)

/-- Writes to weights leave the counters alone. -/
theorem Tallied.of_rewrites (tallied : client.Tallied)
    (written : Store.Rewrites (client.model.toModel.trainable ++ client.model.toModel.nonTrainable)
      client.store store) :
    Tallied { client with store } := by
  apply tallied.of_kept written.extends
  intro handle localOne
  apply written.read_eq
  intro weight
  exact tallied.sound.weights_apart handle weight localOne

theorem Tallied.accept {batch : Batch} {training : Bool} {output : BatchOutput}
    (tallied : client.Tallied)
    (passed : client.model.toModel.forwardPass batch training client.store = (.ok output, store)) :
    Tallied { client with store, accepted := client.accepted ++ [batch] } := by
  have written : Store.Rewrites client.model.toModel.locals client.store
      (client.model.toModel.forwardPass batch training client.store).2 :=
    BuiltModel.writes_forwardPass client.store
  rw [passed] at written
  refine ⟨tallied.sound.rewrites written, tallied.labelled, ?_⟩
  cases checked : client.model.toModel.spec.checkBatch batch with
  | error error =>
      rw [BuiltModel.forwardPass_of_refused checked] at passed
      cases passed
  | ok done =>
      obtain ⟨loss, predicted, assessed, _⟩ :=
        BuiltModel.exists_assess training tallied.sound checked
      have sized : batch.rows = predicted.height := by
        rw [Batch.rows, tallied.sound.size?_of_assess checked assessed, Option.getD_some]
      obtain ⟨_, reached, accumulated, counts⟩ :=
        BuiltModel.yields_tallies_accumulate tallied.sound tallied.counts loss
      rw [sized] at accumulated
      simp only [BuiltModel.forwardPass_eq, Store.Effect.bind_apply, assessed, accumulated,
        Store.Effect.pure_apply] at passed
      cases passed
      exact counts

theorem Tallied.reset (tallied : client.Tallied) :
    Tallied { client with store := client.model.reset client.store, accepted := [] } := by
  rw [BuiltModel.reset_eq_resetAll]
  refine ⟨tallied.sound.rewrites (Store.rewrites_resetAll _), tallied.labelled, ?_⟩
  intro tally listed
  rw [BuiltModel.eq_zero_of_mem_tallies_nil listed]
  apply Store.counts_resetAll (BuiltModel.mem_locals_of_mem_tallies listed)
  exact BuiltModel.hasType_of_mem_tallies tallied.sound.allots.typed listed

theorem Step.tallied (step : before.Step after) (tallied : before.Tallied) : after.Tallied := by
  cases step with
  | accept passed => exact tallied.accept passed
  | @refuse batch training error reached failed =>
      have kept := tallied.sound.contract.failed_forwardPass batch training error
        (congrArg Prod.fst failed)
      rw [failed] at kept
      cases kept
      exact tallied
  | predict features training =>
      have written : Store.Rewrites
          (if training then before.model.toModel.nonTrainable else []) before.store
          (before.model.toModel.predict features training before.store).2 :=
        BuiltModel.writes_predict before.store
      apply tallied.of_rewrites
      apply written.mono
      intro target inside
      cases training with
      | false => cases inside
      | true => exact List.mem_append_right _ inside
  | assignWeights weights => exact tallied.of_rewrites (weights.writes_assignTo _ _)
  | reset => exact tallied.reset
  | elsewhere extended kept => exact tallied.of_kept extended kept

theorem tallied_of_built {before after : Session} {model : BuiltModel}
    (reachable : before.Reachable) (step : before.Step after)
    (listed : after.models = model :: before.models) : Tallied ⟨model, after.store, []⟩ := by
  have inside : model ∈ after.models := by simp [listed]
  have sound := (reachable.step step).sound.of_mem inside
  cases step with
  | regroup sameStore => exact absurd listed.symm (List.cons_ne_self _ _)
  | createVariable name initial => exact absurd listed.symm (List.cons_ne_self _ _)
  | createLayer draw blueprint => exact absurd listed.symm (List.cons_ne_self _ _)
  | change changed => exact absurd listed.symm (List.cons_ne_self _ _)
  | @buildRegression features built after done =>
      cases listed
      refine ⟨sound, trivial, ?_⟩
      exact BuiltModel.counts_regression_iff.mpr (LinearRegression.counts_of_build done)
  | @buildNetwork chosen rest network loss spec built after taken stacked defined done =>
      cases listed
      refine ⟨sound, NetworkModel.labelled_of_build done, ?_⟩
      exact BuiltModel.counts_network_iff.mpr (NetworkModel.counts_of_build done)

/-- At every point of its run, a client's counters tell of the batches it has accepted. -/
theorem Reachable.tallied (reachable : client.Reachable) : client.Tallied := by
  induction reachable with
  | built reachable step listed => exact tallied_of_built reachable step listed
  | step _ step induction => exact step.tallied induction

/-- A batch that fits is accepted at every point of a run. -/
theorem Reachable.accepts {batch : Batch} (reachable : client.Reachable)
    (checked : client.model.toModel.spec.checkBatch batch = .ok ()) (training : Bool) :
    Reachable
      { client with
        store := (client.model.toModel.forwardPass batch training client.store).2
        accepted := client.accepted ++ [batch] } := by
  obtain ⟨loss, predicted, after, passed, _⟩ :=
    BuiltModel.forwardPass_of_checked training reachable.tallied.sound checked
  apply reachable.step
  rw [passed]
  exact .accept passed

end Client

end FederatedLearning
