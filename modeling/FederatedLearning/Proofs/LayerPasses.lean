import FederatedLearning.Network.Stack
import FederatedLearning.Proofs.MatrixSizes

/-!
# Passes through layers

The kind of a layer fixes the types of its variables.  As long as these have
their types, a layer takes every matrix of its input width and yields one of its
output width, with a row for every row.  A pass writes at most the moving
statistics, and these only while training.
-/

namespace FederatedLearning

/-- What a layer computes, but for the contents of its variables. -/
inductive LayerKind where
  | dense (inputs outputs : Nat) (activation : Option Activation)
  | normalization (width : Nat)
deriving DecidableEq

namespace LayerKind

def trainableTypes : LayerKind → List TensorType
  | .dense inputs outputs _ => [.ofSizes .float32 [inputs, outputs], .ofSizes .float32 [outputs]]
  | .normalization width => [.ofSizes .float32 [width], .ofSizes .float32 [width]]

def nonTrainableTypes : LayerKind → List TensorType
  | .dense .. => []
  | .normalization width => [.ofSizes .float32 [width], .ofSizes .float32 [width]]

end LayerKind

namespace Store

/-- The handles are those of variables of the types beside them. -/
def HasTypes (store : Store) (declared : List (Variable × TensorType)) : Prop :=
  ∀ declaration ∈ declared, store.HasType declaration.1 declaration.2

theorem HasTypes.extends {before after : Store} {declared : List (Variable × TensorType)}
    (typed : before.HasTypes declared) (extended : before.Extends after) :
    after.HasTypes declared :=
  fun declaration inside => (typed declaration inside).extends extended

end Store

namespace Dense

variable {layer : Dense} {input output : Matrix} {store : Store}

@[simp] theorem height_activate (affine : Matrix) :
    (layer.activate affine).height = affine.height := by
  unfold activate
  cases layer.activation <;> simp

@[simp] theorem width_activate (affine : Matrix) :
    (layer.activate affine).width = affine.width := by
  unfold activate
  cases layer.activation <;> simp

theorem forward_eq_ok_iff :
    layer.forward input store = .ok output ↔
      input.width = layer.inputs ∧
        ∃ kernel, store.matrix "dense kernel" layer.kernel = .ok kernel ∧
          ∃ product, input.product kernel = .ok product ∧ product.width = layer.outputs ∧
            ∃ bias, store.vector "dense bias" layer.bias = .ok bias ∧
              ∃ affine, product.withRow (· + ·) bias = .ok affine ∧
                layer.activate affine = output := by
  simp only [forward, exceptGuard_eq_ok_iff, exceptBind_eq_ok_iff, exceptPure_eq_ok_iff,
    not_not, ne_eq]

theorem exists_forward
    (kernelTyped : store.HasType layer.kernel (.ofSizes .float32 [layer.inputs, layer.outputs]))
    (biasTyped : store.HasType layer.bias (.ofSizes .float32 [layer.outputs]))
    (fits : input.width = layer.inputs) :
    ∃ output, layer.forward input store = .ok output ∧ output.width = layer.outputs := by
  obtain ⟨kernel, kernelViewed, kernelHeight, kernelWidth⟩ :=
    Store.exists_matrix "dense kernel" kernelTyped
  obtain ⟨bias, biasViewed, biasLength⟩ := Store.exists_vector "dense bias" biasTyped
  have multiplied : input.product kernel = .ok (input.times kernel) :=
    Matrix.product_eq_ok_iff.mpr ⟨fits.trans kernelHeight.symm, rfl⟩
  have biasFits : bias.length = (input.times kernel).width := biasLength.trans kernelWidth.symm
  refine ⟨layer.activate ((input.times kernel).zipRows (· + ·) bias biasFits), ?_, ?_⟩
  · apply forward_eq_ok_iff.mpr
    exact ⟨fits, kernel, kernelViewed, _, multiplied, kernelWidth, bias, biasViewed, _,
      Matrix.withRow_eq_ok_iff.mpr ⟨biasFits, rfl⟩, rfl⟩
  · rw [width_activate]
    exact kernelWidth

theorem height_of_forward_eq_ok (yielded : layer.forward input store = .ok output) :
    output.height = input.height := by
  obtain ⟨_, kernel, _, product, multiplied, _, bias, _, affine, shifted, rfl⟩ :=
    forward_eq_ok_iff.mp yielded
  obtain ⟨_, rfl⟩ := Matrix.product_eq_ok_iff.mp multiplied
  obtain ⟨_, rfl⟩ := Matrix.withRow_eq_ok_iff.mp shifted
  simp

end Dense

namespace Normalization

variable {layer : Normalization} {mode : Mode} {input output : Matrix} {store : Store}
  {targets : List Variable} {handle : Variable} {means variances batch : List Float32}

theorem length_transforms {gammas betas : List Float32} {width : Nat}
    (gammasLength : gammas.length = width) (betasLength : betas.length = width)
    (meansLength : means.length = width) (variancesLength : variances.length = width) :
    (transforms gammas betas means variances).length = width := by
  simp [transforms, gammasLength, betasLength, meansLength, variancesLength]

theorem rescale_eq_ok_iff :
    layer.rescale input means variances store = .ok output ↔
      ∃ gammas, vector store layer.gamma = .ok gammas ∧
        ∃ betas, vector store layer.beta = .ok betas ∧
          ∃ scaled,
            input.withRow (· * ·) ((transforms gammas betas means variances).map Prod.fst) =
              .ok scaled ∧
            scaled.withRow (· + ·) ((transforms gammas betas means variances).map Prod.snd) =
              .ok output := by
  simp only [rescale, exceptBind_eq_ok_iff]

theorem exists_rescale
    (gammaTyped : store.HasType layer.gamma (.ofSizes .float32 [layer.width]))
    (betaTyped : store.HasType layer.beta (.ofSizes .float32 [layer.width]))
    (fits : input.width = layer.width) (meansLength : means.length = layer.width)
    (variancesLength : variances.length = layer.width) :
    ∃ output, layer.rescale input means variances store = .ok output ∧
      output.width = layer.width := by
  obtain ⟨gammas, gammasViewed, gammasLength⟩ :=
    Store.exists_vector "normalization weight" gammaTyped
  obtain ⟨betas, betasViewed, betasLength⟩ := Store.exists_vector "normalization weight" betaTyped
  have length := length_transforms gammasLength betasLength meansLength variancesLength
  have scalesFit : ((transforms gammas betas means variances).map Prod.fst).length =
      input.width := by
    rw [List.length_map, length, fits]
  have offsetsFit : ((transforms gammas betas means variances).map Prod.snd).length =
      (input.zipRows (· * ·) _ scalesFit).width := by
    rw [List.length_map, length, Matrix.width_zipRows, fits]
  refine ⟨(input.zipRows (· * ·) _ scalesFit).zipRows (· + ·) _ offsetsFit, ?_, fits⟩
  apply rescale_eq_ok_iff.mpr
  exact ⟨gammas, gammasViewed, betas, betasViewed, _,
    Matrix.withRow_eq_ok_iff.mpr ⟨scalesFit, rfl⟩, Matrix.withRow_eq_ok_iff.mpr ⟨offsetsFit, rfl⟩⟩

theorem height_of_rescale_eq_ok
    (yielded : layer.rescale input means variances store = .ok output) :
    output.height = input.height := by
  obtain ⟨gammas, _, betas, _, scaled, scaledBy, shiftedBy⟩ := rescale_eq_ok_iff.mp yielded
  obtain ⟨_, rfl⟩ := Matrix.withRow_eq_ok_iff.mp scaledBy
  obtain ⟨_, rfl⟩ := Matrix.withRow_eq_ok_iff.mp shiftedBy
  simp

theorem writes_updateMoving (inside : handle ∈ targets) :
    Store.Effect.Writes targets (updateMoving handle batch) := by
  apply Store.writes_update inside
  intro contents result updated
  obtain ⟨array, viewed, rebuilt⟩ := exceptBind_eq_ok_iff.mp updated
  split at rebuilt
  · rw [Tensor.eq_float32_of_singles viewed, ← exceptPure_eq_ok_iff.mp rebuilt]
    rfl
  · cases rebuilt

theorem yields_updateMoving (typed : store.HasType handle (.ofSizes .float32 [batch.length])) :
    (updateMoving handle batch).Yields store fun _ after =>
      Store.Rewrites [handle] store after := by
  obtain ⟨array, viewed, sizes⟩ := typed.singles_eq
  have contents : store.read handle = .float32 array := Tensor.eq_float32_of_singles viewed
  let updated := array.mapIdx fun position moving =>
    moving * momentum + batch.getD position 0 * (1 - momentum)
  refine ⟨(), store.put handle (.float32 updated), ?_, .put .refl (by simp) ?_⟩
  · rw [updateMoving, Store.update_apply, contents]
    simp [Tensor.singles, Tensor.float32?, sizes, bind, Except.bind, pure, Except.pure, updated]
  · rw [Store.type, contents]
    rfl

/-- The statistics are those of the batch, unless it is empty or the moving ones are
asked for. -/
def UsesBatch (mode : Mode) (input : Matrix) : Prop :=
  mode ≠ .inference ∧ 0 < input.height

theorem statistics_of_batch (uses : UsesBatch mode input) :
    layer.statistics mode input =
      if mode = .training then do
        updateMoving layer.movingMean input.columnMeans
        updateMoving layer.movingVariance input.columnVariances
        return (input.columnMeans, input.columnVariances)
      else return (input.columnMeans, input.columnVariances) := by
  exact if_pos uses

theorem statistics_of_moving (uses : ¬UsesBatch mode input) :
    layer.statistics mode input store =
      (do return (← vector store layer.movingMean, ← vector store layer.movingVariance),
        store) := by
  unfold UsesBatch at uses
  rw [statistics, if_neg uses]
  simp only [Store.Effect.bind_apply, Store.Effect.get_apply]
  cases vector store layer.movingMean with
  | error error => rfl
  | ok means => cases vector store layer.movingVariance <;> rfl

theorem writes_statistics :
    Store.Effect.Writes (if mode = .training then layer.nonTrainable else [])
      (layer.statistics mode input) := by
  by_cases uses : UsesBatch mode input
  · rw [statistics_of_batch uses]
    split
    · apply Store.Effect.Writes.bind (writes_updateMoving (by simp [nonTrainable]))
      intro _
      apply Store.Effect.Writes.bind (writes_updateMoving (by simp [nonTrainable]))
      intro _
      exact Store.Effect.writes_pure _
    · exact Store.Effect.writes_pure _
  · intro store
    rw [statistics_of_moving uses]
    exact .refl

theorem yields_statistics_of_batch (uses : UsesBatch mode input)
    (meanTyped : store.HasType layer.movingMean (.ofSizes .float32 [layer.width]))
    (varianceTyped : store.HasType layer.movingVariance (.ofSizes .float32 [layer.width]))
    (fits : input.width = layer.width) :
    (layer.statistics mode input).Yields store fun result _ =>
      result = (input.columnMeans, input.columnVariances) := by
  have meansLength : input.columnMeans.length = layer.width := input.length_columnMeans.trans fits
  have variancesLength : input.columnVariances.length = layer.width :=
    input.length_columnVariances.trans fits
  rw [statistics_of_batch uses]
  split
  · apply Store.Effect.Yields.bind
    apply (yields_updateMoving (meansLength.symm ▸ meanTyped)).imp
    intro _ middle meanUpdated
    have varianceKept := varianceTyped.extends meanUpdated.extends
    apply Store.Effect.Yields.bind
    apply (yields_updateMoving (variancesLength.symm ▸ varianceKept)).imp
    intro _ after _
    exact ⟨_, after, rfl, rfl⟩
  · exact ⟨_, store, rfl, rfl⟩

theorem yields_statistics
    (meanTyped : store.HasType layer.movingMean (.ofSizes .float32 [layer.width]))
    (varianceTyped : store.HasType layer.movingVariance (.ofSizes .float32 [layer.width]))
    (fits : input.width = layer.width) :
    (layer.statistics mode input).Yields store fun result _ =>
      result.1.length = layer.width ∧ result.2.length = layer.width := by
  by_cases uses : UsesBatch mode input
  · apply (yields_statistics_of_batch uses meanTyped varianceTyped fits).imp
    intro result _ found
    subst found
    exact ⟨input.length_columnMeans.trans fits, input.length_columnVariances.trans fits⟩
  · obtain ⟨means, meansViewed, meansLength⟩ :=
      Store.exists_vector "normalization weight" meanTyped
    obtain ⟨variances, variancesViewed, variancesLength⟩ :=
      Store.exists_vector "normalization weight" varianceTyped
    refine ⟨(means, variances), store, ?_, meansLength, variancesLength⟩
    rw [statistics_of_moving uses, vector, meansViewed, vector, variancesViewed]
    rfl

theorem forward_of_fits (fits : input.width = layer.width) :
    layer.forward mode input = (do
      let result ← layer.statistics mode input
      MonadExcept.ofExcept (layer.rescale input result.1 result.2 (← get))) := by
  unfold forward
  rw [if_neg (not_not.mpr fits)]

theorem forward_of_not_fits (differ : input.width ≠ layer.width) :
    layer.forward mode input store =
      (.error (.countMismatch "normalization input" input.width layer.width), store) := by
  unfold forward
  rw [if_pos differ]
  rfl

theorem writes_forward :
    Store.Effect.Writes (if mode = .training then layer.nonTrainable else [])
      (layer.forward mode input) := by
  by_cases fits : input.width = layer.width
  · rw [forward_of_fits fits]
    apply writes_statistics.bind
    intro _
    apply Store.Effect.writes_get.bind
    intro _
    exact Store.Effect.writes_ofExcept _
  · intro store
    rw [forward_of_not_fits fits]
    exact .refl

end Normalization

namespace Layer

def kind : Layer → LayerKind
  | .dense layer => .dense layer.inputs layer.outputs layer.activation
  | .normalization layer => .normalization layer.width

/-- The variables of a layer with the types that they were created with. -/
def declared (layer : Layer) : List (Variable × TensorType) :=
  layer.trainable.zip layer.kind.trainableTypes ++
    layer.nonTrainable.zip layer.kind.nonTrainableTypes

/-- The variables that a pass through a layer may write. -/
def movedBy (mode : Mode) (layer : Layer) : List Variable :=
  if mode = .training then layer.nonTrainable else []

variable {layer : Layer} {mode : Mode} {input output : Matrix} {store after : Store}

theorem hasTypes_dense_iff {layer : Dense} :
    store.HasTypes (Layer.dense layer).declared ↔
      store.HasType layer.kernel (.ofSizes .float32 [layer.inputs, layer.outputs]) ∧
        store.HasType layer.bias (.ofSizes .float32 [layer.outputs]) := by
  simp [Store.HasTypes, declared, kind, trainable, nonTrainable, Dense.trainable,
    LayerKind.trainableTypes]

theorem hasTypes_normalization_iff {layer : Normalization} :
    store.HasTypes (Layer.normalization layer).declared ↔
      store.HasType layer.gamma (.ofSizes .float32 [layer.width]) ∧
        store.HasType layer.beta (.ofSizes .float32 [layer.width]) ∧
          store.HasType layer.movingMean (.ofSizes .float32 [layer.width]) ∧
            store.HasType layer.movingVariance (.ofSizes .float32 [layer.width]) := by
  simp [Store.HasTypes, declared, kind, trainable, nonTrainable, Normalization.trainable,
    Normalization.nonTrainable, LayerKind.trainableTypes, LayerKind.nonTrainableTypes]

theorem writes_forward : Store.Effect.Writes (layer.movedBy mode) (layer.forward mode input) := by
  cases layer with
  | dense layer =>
      apply Store.Effect.writes_get.bind
      intro _
      exact Store.Effect.writes_ofExcept _
  | normalization layer => exact Normalization.writes_forward

theorem height_of_forward_eq_ok (yielded : layer.forward mode input store = (.ok output, after)) :
    output.height = input.height := by
  cases layer with
  | dense layer =>
      simp only [forward, Store.Effect.bind_apply, Store.Effect.get_apply,
        Store.Effect.ofExcept_apply] at yielded
      exact Dense.height_of_forward_eq_ok (congrArg Prod.fst yielded)
  | normalization layer =>
      by_cases fits : input.width = layer.width
      · rw [forward, Normalization.forward_of_fits fits, Store.Effect.bind_apply] at yielded
        split at yielded
        · simp only [Store.Effect.bind_apply, Store.Effect.get_apply,
            Store.Effect.ofExcept_apply] at yielded
          exact Normalization.height_of_rescale_eq_ok (congrArg Prod.fst yielded)
        · cases yielded
      · rw [forward, Normalization.forward_of_not_fits fits] at yielded
        cases yielded

/-- A layer whose variables have their types takes every matrix of its input width. -/
theorem yields_forward (typed : store.HasTypes layer.declared) (fits : input.width = layer.inputs) :
    (layer.forward mode input).Yields store fun output _ => output.width = layer.outputs := by
  cases layer with
  | dense layer =>
      obtain ⟨kernelTyped, biasTyped⟩ := hasTypes_dense_iff.mp typed
      obtain ⟨output, yielded, outputWidth⟩ := Dense.exists_forward kernelTyped biasTyped fits
      apply Store.Effect.Yields.bind
      exact ⟨store, store, rfl, .of_ofExcept yielded outputWidth⟩
  | normalization layer =>
      obtain ⟨gammaTyped, betaTyped, meanTyped, varianceTyped⟩ :=
        hasTypes_normalization_iff.mp typed
      rw [forward, Normalization.forward_of_fits fits]
      apply Store.Effect.Yields.bind
      apply ((Normalization.yields_statistics meanTyped varianceTyped fits).and_rewrites
        Normalization.writes_statistics).imp
      intro result middle found
      obtain ⟨⟨meansLength, variancesLength⟩, rewrites⟩ := found
      obtain ⟨output, yielded, outputWidth⟩ := Normalization.exists_rescale
        (gammaTyped.extends rewrites.extends) (betaTyped.extends rewrites.extends) fits
        meansLength variancesLength
      apply Store.Effect.Yields.bind
      exact ⟨middle, middle, rfl, .of_ofExcept yielded outputWidth⟩

end Layer

end FederatedLearning
