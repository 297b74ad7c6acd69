import FederatedLearning.Proofs.NetworkPasses
import FederatedLearning.Proofs.PairedComputations

/-!
# Two passes side by side

Two layers of one kind whose variables are paired do the same on mirroring stores.

Training and frozen passes through one network yield the same: both normalize with
the batch, and the statistics that only the training pass moves are not read again
in it.  On an empty batch every pass reads the moving statistics and writes none, so
that there the modes make no difference at all.
-/

namespace FederatedLearning

section

variable {α β : Type}

/-- Lists of lists that agree in all lengths are zipped list by list. -/
theorem zip_flatMap_of_lengths_eq {parts : α → List β} {lefts rights : List α}
    (sameLengths : List.Forall₂ (fun left right => (parts left).length = (parts right).length)
      lefts rights) :
    (lefts.flatMap parts).zip (rights.flatMap parts) =
      (lefts.zip rights).flatMap fun pair => (parts pair.1).zip (parts pair.2) := by
  induction sameLengths with
  | nil => rfl
  | cons same _ induction =>
      simp only [List.flatMap_cons, List.zip_cons_cons]
      rw [List.zip_append same, induction]

theorem forall₂_of_map_eq {observe : α → β} {lefts rights : List α}
    (same : lefts.map observe = rights.map observe) :
    List.Forall₂ (fun left right => observe left = observe right) lefts rights := by
  have observed : List.Forall₂ Eq (lefts.map observe) (rights.map observe) := by
    rw [List.forall₂_eq_eq_eq]
    exact same
  rw [List.forall₂_map_left_iff, List.forall₂_map_right_iff] at observed
  exact observed

end

theorem Dense.forward_congr {layer layer' : Dense} {left right : Store} {input : Matrix}
    (sameInputs : layer.inputs = layer'.inputs) (sameOutputs : layer.outputs = layer'.outputs)
    (sameActivation : layer.activation = layer'.activation)
    (sameKernel : right.read layer'.kernel = left.read layer.kernel)
    (sameBias : right.read layer'.bias = left.read layer.bias) :
    layer.forward input left = layer'.forward input right := by
  have sameActivate : layer.activate = layer'.activate := by
    funext affine
    simp only [activate, sameActivation]
  simp only [forward, sameInputs, sameOutputs, sameActivate,
    Store.matrix_congr "dense kernel" sameKernel, Store.vector_congr "dense bias" sameBias]

namespace Normalization

variable {layer layer' : Normalization} {mode mode' : Mode} {input : Matrix}
  {left right store : Store} {pairs : List (Variable × Variable)}

theorem rescale_congr {means variances : List Float32}
    (sameGamma : right.read layer'.gamma = left.read layer.gamma)
    (sameBeta : right.read layer'.beta = left.read layer.beta) :
    layer.rescale input means variances left = layer'.rescale input means variances right := by
  simp only [rescale, vector, Store.vector_congr "normalization weight" sameGamma,
    Store.vector_congr "normalization weight" sameBeta]

theorem related_statistics_of_mirrors (oneToOne : Store.OneToOne pairs)
    (meanPaired : (layer.movingMean, layer'.movingMean) ∈ pairs)
    (variancePaired : (layer.movingVariance, layer'.movingVariance) ∈ pairs) :
    Store.Effect.Related (Store.Mirrors pairs) (layer.statistics mode input)
      (layer'.statistics mode input) := by
  by_cases uses : UsesBatch mode input
  · rw [statistics_of_batch uses, statistics_of_batch uses]
    split
    · apply (Store.related_update oneToOne meanPaired _).bind
      intro _
      apply (Store.related_update oneToOne variancePaired _).bind
      intro _
      exact Store.Effect.related_pure _
    · exact Store.Effect.related_pure _
  · intro left right mirrors
    rw [statistics_of_moving uses, statistics_of_moving uses]
    refine ⟨?_, mirrors⟩
    simp only [vector, Store.vector_congr "normalization weight" (mirrors.read_eq _ meanPaired),
      Store.vector_congr "normalization weight" (mirrors.read_eq _ variancePaired)]

theorem related_forward_of_mirrors (sameWidth : layer.width = layer'.width)
    (oneToOne : Store.OneToOne pairs)
    (gammaPaired : (layer.gamma, layer'.gamma) ∈ pairs)
    (betaPaired : (layer.beta, layer'.beta) ∈ pairs)
    (meanPaired : (layer.movingMean, layer'.movingMean) ∈ pairs)
    (variancePaired : (layer.movingVariance, layer'.movingVariance) ∈ pairs) :
    Store.Effect.Related (Store.Mirrors pairs) (layer.forward mode input)
      (layer'.forward mode input) := by
  by_cases fits : input.width = layer.width
  · rw [forward_of_fits fits, forward_of_fits (fits.trans sameWidth)]
    apply (related_statistics_of_mirrors oneToOne meanPaired variancePaired).bind
    intro result
    apply Store.Effect.related_of_reading
    intro left right mirrors
    exact rescale_congr (mirrors.read_eq _ gammaPaired) (mirrors.read_eq _ betaPaired)
  · have fits' : input.width ≠ layer'.width := sameWidth ▸ fits
    intro left right mirrors
    rw [forward_of_not_fits fits, forward_of_not_fits fits', sameWidth]
    exact ⟨rfl, mirrors⟩

/-- Without rows the mode makes no difference. -/
theorem forward_eq_of_no_rows (empty : input.height = 0) :
    layer.forward mode input store = layer.forward mode' input store := by
  have unused : ∀ mode, ¬UsesBatch mode input := by
    intro mode uses
    have rows := uses.2
    omega
  by_cases fits : input.width = layer.width
  · rw [forward_of_fits fits, forward_of_fits fits, Store.Effect.bind_apply,
      Store.Effect.bind_apply, statistics_of_moving (unused mode),
      statistics_of_moving (unused mode')]
  · rw [forward_of_not_fits fits, forward_of_not_fits fits]

end Normalization

/-- Two stores in which a frozen and a training pass through the layers yield the
same: the variables that both passes read hold the same. -/
structure Layer.SameTrainable (layers : List Layer) (frozen training : Store) : Prop where
  read_eq : ∀ handle ∈ layers.flatMap Layer.trainable, training.read handle = frozen.read handle
  typed : ∀ layer ∈ layers, training.HasTypes layer.declared

namespace Layer

variable {layer layer' : Layer} {layers layers' : List Layer} {mode mode' : Mode}
  {input : Matrix} {left right store frozen training : Store}
  {pairs : List (Variable × Variable)} {relation : Store → Store → Prop}

theorem length_trainable_of_kind_eq (sameKind : layer.kind = layer'.kind) :
    layer.trainable.length = layer'.trainable.length := by
  cases layer <;> cases layer' <;>
    simp_all [kind, trainable, Dense.trainable, Normalization.trainable]

theorem length_nonTrainable_of_kind_eq (sameKind : layer.kind = layer'.kind) :
    layer.nonTrainable.length = layer'.nonTrainable.length := by
  cases layer <;> cases layer' <;>
    simp_all [kind, nonTrainable, Normalization.nonTrainable]

theorem related_forward_of_mirrors (sameKind : layer.kind = layer'.kind)
    (oneToOne : Store.OneToOne pairs)
    (trainablePaired : ∀ pair ∈ layer.trainable.zip layer'.trainable, pair ∈ pairs)
    (nonTrainablePaired : ∀ pair ∈ layer.nonTrainable.zip layer'.nonTrainable, pair ∈ pairs) :
    Store.Effect.Related (Store.Mirrors pairs) (layer.forward mode input)
      (layer'.forward mode input) := by
  cases layer with
  | dense layer =>
      cases layer' with
      | dense layer' =>
          injection sameKind with sameInputs sameOutputs sameActivation
          have kernelPaired := trainablePaired (layer.kernel, layer'.kernel)
            (by simp [trainable, Dense.trainable])
          have biasPaired := trainablePaired (layer.bias, layer'.bias)
            (by simp [trainable, Dense.trainable])
          apply Store.Effect.related_of_reading
          intro left right mirrors
          exact Dense.forward_congr sameInputs sameOutputs sameActivation
            (mirrors.read_eq _ kernelPaired) (mirrors.read_eq _ biasPaired)
      | normalization layer' => cases sameKind
  | normalization layer =>
      cases layer' with
      | dense layer' => cases sameKind
      | normalization layer' =>
          injection sameKind with sameWidth
          apply Normalization.related_forward_of_mirrors sameWidth oneToOne
          · exact trainablePaired _ (by simp [trainable, Normalization.trainable])
          · exact trainablePaired _ (by simp [trainable, Normalization.trainable])
          · exact nonTrainablePaired _ (by simp [nonTrainable, Normalization.nonTrainable])
          · exact nonTrainablePaired _ (by simp [nonTrainable, Normalization.nonTrainable])

theorem forward_eq_of_no_rows (empty : input.height = 0) :
    layer.forward mode input store = layer.forward mode' input store := by
  cases layer with
  | dense layer => rfl
  | normalization layer => exact Normalization.forward_eq_of_no_rows empty

theorem forwardAll_eq_of_no_rows (empty : input.height = 0) :
    forwardAll mode layers input store = forwardAll mode' layers input store := by
  induction layers generalizing input store with
  | nil => rfl
  | cons layer layers induction =>
      rw [forwardAll_cons, forwardAll_cons, Store.Effect.bind_apply, Store.Effect.bind_apply,
        forward_eq_of_no_rows empty]
      cases passed : layer.forward mode' input store with
      | mk outcome middle =>
          cases outcome with
          | error error => rfl
          | ok rows => exact induction ((height_of_forward_eq_ok passed).trans empty)

theorem related_forwardAll {height : Nat}
    (steps : List.Forall₂ (fun layer layer' => ∀ rows : Matrix, rows.height = height →
      Store.Effect.Related relation (layer.forward mode rows) (layer'.forward mode' rows))
      layers layers')
    (sized : input.height = height) :
    Store.Effect.Related relation (forwardAll mode layers input)
      (forwardAll mode' layers' input) := by
  induction steps generalizing input with
  | nil => exact Store.Effect.related_pure input
  | cons step _ induction =>
      rw [forwardAll_cons, forwardAll_cons]
      apply (step input sized).bind_of_yielded
      intro rows left middle passed
      exact induction ((height_of_forward_eq_ok passed).trans sized)

theorem SameTrainable.rewrites {targets : List Variable} {training' : Store}
    (same : SameTrainable layers frozen training)
    (written : Store.Rewrites targets training training')
    (outside : ∀ target ∈ targets, target ∉ layers.flatMap trainable) :
    SameTrainable layers frozen training' where
  read_eq handle inside := by
    have unwritten : handle ∉ targets := fun among => outside handle among inside
    exact (written.read_eq unwritten).trans (same.read_eq handle inside)
  typed layer inside := (same.typed layer inside).extends written.extends

theorem related_statistics_of_sameTrainable {layer : Normalization}
    (inside : Layer.normalization layer ∈ layers)
    (separate : ∀ target ∈ layers.flatMap nonTrainable, target ∉ layers.flatMap trainable)
    (rows : 0 < input.height) (fits : input.width = layer.width) :
    Store.Effect.Related (SameTrainable layers) (layer.statistics .frozen input)
      (layer.statistics .training input) := by
  intro frozen training same
  obtain ⟨_, _, meanTyped, varianceTyped⟩ :=
    hasTypes_normalization_iff.mp (same.typed _ inside)
  have frozenUses : Normalization.UsesBatch .frozen input := ⟨by decide, rows⟩
  have trainingUses : Normalization.UsesBatch .training input := ⟨by decide, rows⟩
  have frozenRun : layer.statistics .frozen input frozen =
      (.ok (input.columnMeans, input.columnVariances), frozen) := by
    rw [Normalization.statistics_of_batch frozenUses]
    rfl
  obtain ⟨result, after, trainingRun, rfl, written⟩ :=
    (Normalization.yields_statistics_of_batch trainingUses meanTyped varianceTyped
      fits).and_rewrites Normalization.writes_statistics
  rw [frozenRun, trainingRun]
  refine ⟨rfl, same.rewrites written ?_⟩
  intro target moved
  exact separate target (List.mem_flatMap.mpr ⟨_, inside, moved⟩)

theorem related_forward_of_sameTrainable (inside : layer ∈ layers)
    (separate : ∀ target ∈ layers.flatMap nonTrainable, target ∉ layers.flatMap trainable)
    (rows : 0 < input.height) :
    Store.Effect.Related (SameTrainable layers) (layer.forward .frozen input)
      (layer.forward .training input) := by
  have trained : ∀ handle ∈ layer.trainable, handle ∈ layers.flatMap trainable :=
    fun handle among => List.mem_flatMap.mpr ⟨layer, inside, among⟩
  cases layer with
  | dense layer =>
      apply Store.Effect.related_of_reading
      intro frozen training same
      apply Dense.forward_congr rfl rfl rfl
      · exact same.read_eq _ (trained _ (by simp [trainable, Dense.trainable]))
      · exact same.read_eq _ (trained _ (by simp [trainable, Dense.trainable]))
  | normalization layer =>
      rw [forward, forward]
      by_cases fits : input.width = layer.width
      · rw [Normalization.forward_of_fits fits, Normalization.forward_of_fits fits]
        apply (related_statistics_of_sameTrainable inside separate rows fits).bind
        intro result
        apply Store.Effect.related_of_reading
        intro frozen training same
        apply Normalization.rescale_congr
        · exact same.read_eq _ (trained _ (by simp [trainable, Normalization.trainable]))
        · exact same.read_eq _ (trained _ (by simp [trainable, Normalization.trainable]))
      · intro frozen training same
        rw [Normalization.forward_of_not_fits fits, Normalization.forward_of_not_fits fits]
        exact ⟨rfl, same⟩

end Layer

namespace Network

variable {network network' : Network} {mode : Mode} {input : Matrix} {store : Store}
  {pairs : List (Variable × Variable)}

/-- Two networks of layers of the same kinds do the same on mirroring stores. -/
theorem related_forward_of_mirrors
    (sameKinds : network.layers.map Layer.kind = network'.layers.map Layer.kind)
    (oneToOne : Store.OneToOne pairs)
    (trainablePaired : ∀ pair ∈ network.trainable.zip network'.trainable, pair ∈ pairs)
    (nonTrainablePaired : ∀ pair ∈ network.nonTrainable.zip network'.nonTrainable, pair ∈ pairs) :
    Store.Effect.Related (Store.Mirrors pairs) (network.forward mode input)
      (network'.forward mode input) := by
  have kinds := forall₂_of_map_eq sameKinds
  have trainableZip := zip_flatMap_of_lengths_eq
    (kinds.imp fun _ _ => Layer.length_trainable_of_kind_eq)
  have nonTrainableZip := zip_flatMap_of_lengths_eq
    (kinds.imp fun _ _ => Layer.length_nonTrainable_of_kind_eq)
  obtain ⟨sameLength, kindEq⟩ := List.forall₂_iff_zip.mp kinds
  apply Layer.related_forwardAll _ rfl
  apply List.forall₂_iff_zip.mpr
  refine ⟨sameLength, ?_⟩
  intro layer layer' paired rows _
  apply Layer.related_forward_of_mirrors (kindEq paired) oneToOne
  · intro pair inside
    apply trainablePaired pair
    rw [trainable, trainable, trainableZip]
    exact List.mem_flatMap.mpr ⟨(layer, layer'), paired, inside⟩
  · intro pair inside
    apply nonTrainablePaired pair
    rw [nonTrainable, nonTrainable, nonTrainableZip]
    exact List.mem_flatMap.mpr ⟨(layer, layer'), paired, inside⟩

/-- A training pass yields what a frozen one does from a store where the variables that
both read hold the same. -/
theorem outcome_training_eq_of_sameTrainable {frozen training : Store}
    (same : Layer.SameTrainable network.layers frozen training)
    (separate : ∀ target ∈ network.nonTrainable, target ∉ network.trainable)
    (rows : 0 < input.height) :
    (network.forward .training input training).1 = (network.forward .frozen input frozen).1 := by
  have related : Store.Effect.Related (Layer.SameTrainable network.layers)
      (network.forward .frozen input) (network.forward .training input) := by
    apply Layer.related_forwardAll _ rfl
    apply List.forall₂_same.mpr
    intro layer inside passed sized
    exact Layer.related_forward_of_sameTrainable inside separate (sized ▸ rows)
  exact (related frozen training same).1.symm

/-- A training pass yields what a frozen one does. -/
theorem outcome_training_eq_frozen (typed : store.HasTypes network.declared)
    (separate : ∀ target ∈ network.nonTrainable, target ∉ network.trainable) :
    (network.forward .training input store).1 = (network.forward .frozen input store).1 := by
  by_cases rows : 0 < input.height
  · have same : Layer.SameTrainable network.layers store store := by
      refine ⟨fun _ _ => rfl, ?_⟩
      intro layer inside declaration declared
      exact typed declaration (List.mem_flatMap.mpr ⟨layer, inside, declared⟩)
    exact outcome_training_eq_of_sameTrainable same separate rows
  · have empty : input.height = 0 := by omega
    exact congrArg Prod.fst (Layer.forwardAll_eq_of_no_rows empty)

end Network

end FederatedLearning
