import FederatedLearning.Model.LinearRegression
import FederatedLearning.Proofs.AcceptedBatches
import FederatedLearning.Proofs.PairedPasses

/-!
# Passes of the two models

A forward pass of either model assesses a batch, which writes nothing, and then
accumulates, which writes local variables only and cannot fail.  Assessing succeeds
on every batch that fits the spec, and finds the predictions that a prediction for
its features finds.  It depends on the weights alone: on mirroring stores two models
of one architecture assess a batch alike.
-/

namespace FederatedLearning

namespace Loss

variable {loss : Loss} {predictions labels : Matrix}

/-- The loss is defined wherever predictions and labels are of the same sizes. -/
def Defined (loss : Loss) : Prop :=
  ∀ predictions labels : Matrix, predictions.height = labels.height →
    predictions.width = labels.width → ∃ value, loss.value? predictions labels = some value

theorem defined_squared (name : String) : (squared name).Defined :=
  fun _ _ => exists_meanOfDifferences?

theorem Defined.exists_value (defined : loss.Defined)
    (sameHeight : predictions.height = labels.height)
    (sameWidth : predictions.width = labels.width) :
    ∃ number, loss.value predictions labels = .ok number := by
  obtain ⟨number, found⟩ := defined predictions labels sameHeight sameWidth
  exact ⟨number, by rw [value, found]⟩

end Loss

theorem Store.Effect.yields_assignAdd_then {α : Type} {store : Store} {target : Variable}
    {addend : Tensor} {type : TensorType} {next : Unit → Store.Effect α}
    {property : α → Store → Prop} (typed : store.HasType target type) (fits : addend.type = type)
    (onward : ∀ middle, store.Extends middle → (next ()).Yields middle property) :
    (Store.assignAdd target addend >>= next).Yields store property := by
  apply Yields.bind
  apply (Store.yields_assignAdd typed fits).imp
  intro _ middle written
  exact onward middle written.extends

namespace LinearRegression

variable {model model' : LinearRegression} {store left right : Store} {features : Value}
  {batch : Batch} {height examples : Nat} {loss : Float32} {error : LearningError}
  {pairs : List (Variable × Variable)}

/-- The variables of a regression with the types that they were created with. -/
def declared (model : LinearRegression) : List (Variable × TensorType) :=
  [(model.slopes, .ofSizes .float32 [model.features, 1]), (model.offset, .ofSizes .float32 [1]),
    (model.fixedOffset, .ofSizes .float32 [1]), (model.examples, .ofSizes .int64 []),
    (model.batches, .ofSizes .int64 []), (model.lossSum, .ofSizes .float32 [])]

theorem hasTypes_declared_iff :
    store.HasTypes model.declared ↔
      store.HasType model.slopes (.ofSizes .float32 [model.features, 1]) ∧
        store.HasType model.offset (.ofSizes .float32 [1]) ∧
          store.HasType model.fixedOffset (.ofSizes .float32 [1]) ∧
            store.HasType model.examples (.ofSizes .int64 []) ∧
              store.HasType model.batches (.ofSizes .int64 []) ∧
                store.HasType model.lossSum (.ofSizes .float32 []) := by
  simp [Store.HasTypes, declared]

theorem isMatrixType_features :
    NetworkModel.isMatrixType model.features model.spec.features = true :=
  NetworkModel.isMatrixType_iff.mpr ⟨none, rfl⟩

theorem isMatrixType_labels : NetworkModel.isMatrixType 1 model.spec.labels = true :=
  NetworkModel.isMatrixType_iff.mpr ⟨none, rfl⟩

theorem predictions_eq_ok_iff {predicted : Matrix} :
    model.predictions features store = .ok predicted ↔
      model.spec.checkFeatures features = .ok () ∧
        ∃ rows, Matrix.ofValue "features" features = .ok rows ∧
          ∃ slopes, store.matrix "a" model.slopes = .ok slopes ∧
            ∃ products, rows.product slopes = .ok products ∧
              ∃ offset, store.sum model.offset = .ok offset ∧
                ∃ fixedOffset, store.sum model.fixedOffset = .ok fixedOffset ∧
                  products.map (· + (offset + fixedOffset)) = predicted := by
  rw [predictions, exceptThen_eq_ok_iff]
  simp only [exceptBind_eq_ok_iff, exceptPure_eq_ok_iff]

theorem exists_predictions (typed : store.HasTypes model.declared)
    (checked : model.spec.checkFeatures features = .ok ())
    (isMatrix : features.IsMatrix height model.features) :
    ∃ predicted, model.predictions features store = .ok predicted ∧
      predicted.height = height ∧ predicted.width = 1 := by
  obtain ⟨slopesTyped, offsetTyped, fixedOffsetTyped, _⟩ := hasTypes_declared_iff.mp typed
  obtain ⟨rows, viewed, rowsHeight, rowsWidth⟩ := isMatrix.exists_ofValue "features"
  obtain ⟨slopes, slopesViewed, slopesHeight, slopesWidth⟩ := Store.exists_matrix "a" slopesTyped
  obtain ⟨offset, offsetSummed⟩ := Store.exists_sum offsetTyped
  obtain ⟨fixedOffset, fixedOffsetSummed⟩ := Store.exists_sum fixedOffsetTyped
  have multiplied : rows.product slopes = .ok (rows.times slopes) :=
    Matrix.product_eq_ok_iff.mpr ⟨rowsWidth.trans slopesHeight.symm, rfl⟩
  refine ⟨(rows.times slopes).map (· + (offset + fixedOffset)), ?_, ?_, ?_⟩
  · apply predictions_eq_ok_iff.mpr
    exact ⟨checked, rows, viewed, slopes, slopesViewed, _, multiplied, offset, offsetSummed,
      fixedOffset, fixedOffsetSummed, rfl⟩
  · simpa using rowsHeight
  · simpa using slopesWidth

theorem predict_apply (features : Value) (training : Bool) (store : Store) :
    model.toModel.predict features training store =
      ((model.predictions features store).map Matrix.toTensor, store) := by
  simp only [toModel, Store.Effect.bind_apply, Store.Effect.get_apply,
    Store.Effect.ofExcept_apply]
  cases model.predictions features store <;> rfl

theorem predictions_of_refused (refused : model.spec.checkFeatures features = .error error) :
    model.predictions features store = .error error := by
  rw [predictions, refused]
  rfl

/-- A batch that fits is assessed, with the predictions for its features. -/
theorem exists_assess (typed : store.HasTypes model.declared)
    (checked : model.spec.checkBatch batch = .ok ()) :
    ∃ loss predicted, model.assess batch store = .ok (loss, predicted) ∧
      model.predictions batch.features store = .ok predicted := by
  obtain ⟨height, featuresMatrix, labelsMatrix⟩ :=
    BatchSpec.isMatrix_of_checkBatch isMatrixType_features isMatrixType_labels checked
  obtain ⟨predicted, found, predictedHeight, predictedWidth⟩ := exists_predictions typed
    (BatchSpec.checkFeatures_of_checkBatch checked) featuresMatrix
  obtain ⟨labels, labelsViewed, labelsHeight, labelsWidth⟩ := labelsMatrix.exists_ofValue "labels"
  have defined : halfSquared.Defined := fun _ _ => Loss.exists_meanOfDifferences?
  obtain ⟨loss, reduced⟩ := defined.exists_value (predictedHeight.trans labelsHeight.symm)
    (predictedWidth.trans labelsWidth.symm)
  refine ⟨loss, predicted, ?_, found⟩
  rw [assess, checked, found, labelsViewed]
  simp only [bind, Except.bind, pure, Except.pure, reduced]

theorem assess_of_refused (refused : model.spec.checkBatch batch = .error error) :
    model.assess batch store = .error error := by
  rw [assess, refused]
  rfl

theorem writes_accumulate :
    Store.Effect.Writes model.locals (model.accumulate loss examples) := by
  apply (Store.writes_assignAdd (by simp [locals])).bind
  intro _
  apply (Store.writes_assignAdd (by simp [locals])).bind
  intro _
  exact Store.writes_assignAdd (by simp [locals])

theorem yields_accumulate (typed : store.HasTypes model.declared) :
    (model.accumulate loss examples).Yields store fun _ _ => True := by
  obtain ⟨_, _, _, examplesTyped, batchesTyped, lossTyped⟩ := hasTypes_declared_iff.mp typed
  apply Store.Effect.yields_assignAdd_then examplesTyped rfl
  intro second grown
  apply Store.Effect.yields_assignAdd_then (batchesTyped.extends grown) rfl
  intro third grownAgain
  apply (Store.yields_assignAdd ((lossTyped.extends grown).extends grownAgain) rfl).imp
  intro _ _ _
  trivial

theorem predictions_congr (sameFeatures : model.features = model'.features)
    (sameSlopes : right.read model'.slopes = left.read model.slopes)
    (sameOffset : right.read model'.offset = left.read model.offset)
    (sameFixedOffset : right.read model'.fixedOffset = left.read model.fixedOffset) :
    model.predictions features left = model'.predictions features right := by
  simp only [predictions, spec, sameFeatures, Store.matrix_congr "a" sameSlopes,
    Store.sum_congr sameOffset, Store.sum_congr sameFixedOffset]

theorem assess_congr (sameFeatures : model.features = model'.features)
    (samePredictions :
      model.predictions batch.features left = model'.predictions batch.features right) :
    model.assess batch left = model'.assess batch right := by
  simp only [assess, spec, sameFeatures, samePredictions]

end LinearRegression

namespace NetworkModel

variable {model model' : NetworkModel} {store : Store} {features : Value} {batch : Batch}
  {training : Bool} {examples : Nat} {loss : Float32} {error : LearningError}
  {pairs : List (Variable × Variable)}

/-- The variables of the metrics of a model with the types that they were created with. -/
def metricsDeclared (model : NetworkModel) : List (Variable × TensorType) :=
  [(model.lossMetric.total, .ofSizes .float32 []), (model.lossMetric.count, .ofSizes .float32 []),
    (model.examples.sum, .ofSizes .int64 [])]

def declared (model : NetworkModel) : List (Variable × TensorType) :=
  model.network.declared ++ model.metricsDeclared

/-- The slots of the spec are matrices that fit the network, and the loss is defined
where it has to be. -/
structure Fitting (model : NetworkModel) : Prop where
  features : isMatrixType model.network.inputs model.spec.features = true
  labels : isMatrixType model.network.outputs model.spec.labels = true
  loss : model.loss.Defined

theorem hasTypes_network (typed : store.HasTypes model.declared) :
    store.HasTypes model.network.declared :=
  fun declaration inside => typed declaration (List.mem_append_left _ inside)

theorem hasTypes_metrics (typed : store.HasTypes model.declared) :
    store.HasType model.lossMetric.total (.ofSizes .float32 []) ∧
      store.HasType model.lossMetric.count (.ofSizes .float32 []) ∧
        store.HasType model.examples.sum (.ofSizes .int64 []) := by
  have metricsTyped : store.HasTypes model.metricsDeclared :=
    fun declaration inside => typed declaration (List.mem_append_right _ inside)
  simpa [Store.HasTypes, metricsDeclared] using metricsTyped

/-- What `predict` does once the features are checked and viewed. -/
theorem predict_apply_of_viewed {rows : Matrix}
    (checked : model.spec.checkFeatures features = .ok ())
    (viewed : Matrix.ofValue "features" features = .ok rows) :
    (model.predict features training store).1 =
      (model.network.forward (if training then .training else .inference) rows store).1.map
        Matrix.toTensor := by
  simp only [predict, Store.Effect.bind_apply, Store.Effect.ofExcept_apply, checked, viewed]
  rcases model.network.forward (if training then .training else .inference) rows store with
    ⟨outcome, after⟩
  cases outcome <;> rfl

theorem predict_of_refused (refused : model.spec.checkFeatures features = .error error) :
    model.predict features training store = (.error error, store) := by
  simp only [predict, Store.Effect.bind_apply, Store.Effect.ofExcept_apply, refused]

theorem exists_predict (fitting : model.Fitting) (typed : store.HasTypes model.declared)
    (checked : model.spec.checkFeatures features = .ok ()) :
    ∃ predictions, (model.predict features training store).1 = .ok predictions := by
  obtain ⟨height, isMatrix⟩ := BatchSpec.isMatrix_of_checkFeatures fitting.features checked
  obtain ⟨rows, viewed, _, rowsWidth⟩ := isMatrix.exists_ofValue "features"
  obtain ⟨predicted, after, passed, _⟩ := Network.yields_forward (hasTypes_network typed) rowsWidth
  exact ⟨predicted.toTensor, by rw [predict_apply_of_viewed checked viewed, passed]; rfl⟩

theorem writes_predict :
    Store.Effect.Writes (if training then model.network.nonTrainable else [])
      (model.predict features training) := by
  apply (Store.Effect.writes_ofExcept _).bind
  intro _
  apply (Store.Effect.writes_ofExcept _).bind
  intro rows
  refine Store.Effect.Writes.bind ?_ fun _ => Store.Effect.writes_pure _
  have written : Store.Effect.Writes
      (model.network.movedBy (if training then .training else .inference))
      (model.network.forward (if training then .training else .inference) rows) :=
    Network.writes_forward
  cases training <;> exact written

/-- Training or not, a pass that moves no statistics yields what a prediction does. -/
theorem outcome_forward_eq (typed : store.HasTypes model.declared)
    (separate : ∀ target ∈ model.network.nonTrainable, target ∉ model.network.trainable)
    {rows : Matrix} :
    (model.network.forward (if training then .training else .inference) rows store).1 =
      (model.network.forward (if training then .frozen else .inference) rows store).1 := by
  cases training with
  | false => rfl
  | true => exact Network.outcome_training_eq_frozen (hasTypes_network typed) separate

theorem writes_assess : Store.Effect.Writes [] (model.assess batch training) := by
  apply (Store.Effect.writes_ofExcept _).bind
  intro _
  apply (Store.Effect.writes_ofExcept _).bind
  intro rows
  apply (Store.Effect.writes_ofExcept _).bind
  intro labels
  refine Store.Effect.Writes.bind ?_ fun predicted => ?_
  · have written : Store.Effect.Writes
        (model.network.movedBy (if training then .frozen else .inference))
        (model.network.forward (if training then .frozen else .inference) rows) :=
      Network.writes_forward
    cases training <;> exact written
  · apply (Store.Effect.writes_ofExcept _).bind
    intro loss
    exact Store.Effect.writes_pure _

/-- A batch that fits is assessed without a change to any variable, with the
predictions for its features. -/
theorem exists_assess (fitting : model.Fitting) (typed : store.HasTypes model.declared)
    (separate : ∀ target ∈ model.network.nonTrainable, target ∉ model.network.trainable)
    (checked : model.spec.checkBatch batch = .ok ()) :
    ∃ loss predicted, model.assess batch training store = (.ok (loss, predicted), store) ∧
      (model.predict batch.features training store).1 = .ok predicted.toTensor := by
  obtain ⟨height, featuresMatrix, labelsMatrix⟩ :=
    BatchSpec.isMatrix_of_checkBatch fitting.features fitting.labels checked
  obtain ⟨rows, rowsViewed, rowsHeight, rowsWidth⟩ := featuresMatrix.exists_ofValue "features"
  obtain ⟨labels, labelsViewed, labelsHeight, labelsWidth⟩ := labelsMatrix.exists_ofValue "labels"
  let mode : Mode := if training then .frozen else .inference
  obtain ⟨predicted, after, passed, predictedWidth, predictedHeight⟩ :
      (model.network.forward mode rows).Yields store fun predicted _ =>
        predicted.width = model.network.outputs ∧ predicted.height = rows.height :=
    Network.yields_forward (hasTypes_network typed) rowsWidth
  obtain ⟨loss, reduced⟩ := fitting.loss.exists_value
    ((predictedHeight.trans rowsHeight).trans labelsHeight.symm)
    (predictedWidth.trans labelsWidth.symm)
  have assessed : model.assess batch training store = (.ok (loss, predicted), after) := by
    simp only [assess, Store.Effect.bind_apply, Store.Effect.ofExcept_apply, checked, rowsViewed,
      labelsViewed, passed, reduced, Store.Effect.pure_apply, mode]
  have kept : after = store := by
    have written : Store.Rewrites [] store (model.assess batch training store).2 :=
      writes_assess store
    rw [assessed] at written
    exact written.eq_of_nil
  refine ⟨loss, predicted, ?_, ?_⟩
  · rw [assessed, kept]
  · rw [predict_apply_of_viewed (BatchSpec.checkFeatures_of_checkBatch checked) rowsViewed,
      outcome_forward_eq typed separate, passed]
    rfl

theorem assess_of_refused (refused : model.spec.checkBatch batch = .error error) :
    model.assess batch training store = (.error error, store) := by
  simp only [assess, Store.Effect.bind_apply, Store.Effect.ofExcept_apply, refused]

theorem writes_accumulate :
    Store.Effect.Writes model.locals (model.accumulate loss examples) := by
  refine Store.Effect.Writes.bind ?_ fun _ => Store.writes_assignAdd
    (by simp [locals, MeanMetric.handles, SumMetric.handles])
  apply (Store.writes_assignAdd (by simp [locals, MeanMetric.handles])).bind
  intro _
  exact Store.writes_assignAdd (by simp [locals, MeanMetric.handles])

theorem yields_accumulate (typed : store.HasTypes model.declared) :
    (model.accumulate loss examples).Yields store fun _ _ => True := by
  obtain ⟨totalTyped, countTyped, sumTyped⟩ := hasTypes_metrics typed
  apply Store.Effect.Yields.bind
  apply Store.Effect.yields_assignAdd_then totalTyped rfl
  intro second grown
  apply (Store.yields_assignAdd (countTyped.extends grown) rfl).imp
  intro _ third written
  apply (Store.yields_assignAdd ((sumTyped.extends grown).extends written.extends) rfl).imp
  intro _ _ _
  trivial

section

variable (sameKinds : model.network.layers.map Layer.kind = model'.network.layers.map Layer.kind)
  (sameSpec : model.spec = model'.spec) (oneToOne : Store.OneToOne pairs)
  (trainablePaired :
    ∀ pair ∈ model.network.trainable.zip model'.network.trainable, pair ∈ pairs)
  (nonTrainablePaired :
    ∀ pair ∈ model.network.nonTrainable.zip model'.network.nonTrainable, pair ∈ pairs)

include sameKinds sameSpec oneToOne trainablePaired nonTrainablePaired

theorem related_predict_of_mirrors :
    Store.Effect.Related (Store.Mirrors pairs) (model.predict features training)
      (model'.predict features training) := by
  rw [predict, predict, sameSpec]
  apply (Store.Effect.related_ofExcept _).bind
  intro _
  apply (Store.Effect.related_ofExcept _).bind
  intro rows
  apply (Network.related_forward_of_mirrors sameKinds oneToOne trainablePaired
    nonTrainablePaired).bind
  intro predicted
  exact Store.Effect.related_pure _

theorem related_assess_of_mirrors (sameLoss : model.loss = model'.loss) :
    Store.Effect.Related (Store.Mirrors pairs) (model.assess batch training)
      (model'.assess batch training) := by
  rw [assess, assess, sameSpec, sameLoss]
  apply (Store.Effect.related_ofExcept _).bind
  intro _
  apply (Store.Effect.related_ofExcept _).bind
  intro rows
  apply (Store.Effect.related_ofExcept _).bind
  intro labels
  apply (Network.related_forward_of_mirrors sameKinds oneToOne trainablePaired
    nonTrainablePaired).bind
  intro predicted
  apply (Store.Effect.related_ofExcept _).bind
  intro loss
  exact Store.Effect.related_pure _

end

end NetworkModel

end FederatedLearning
