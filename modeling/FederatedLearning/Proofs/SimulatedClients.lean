import FederatedLearning.Proofs.BatchSplits
import FederatedLearning.Proofs.ClientReports
import FederatedLearning.Proofs.RegisteredVariables

/-!
# Simulated clients

The weights and the batches that are drawn for a round fit every regression of its
width, whatever the draws.  A simulated client therefore accepts all batches that its
examples are split into, and what it returns is what such a client reports.  It works in
a scope of its own, and leaves the graphs of its thread as they were even when it fails.
-/

namespace FederatedLearning

theorem LinearRegression.exists_build {features : Nat} (positive : 0 < features)
    (construction : Construction) :
    ∃ model after, build features construction = (.ok model, after) := by
  refine ⟨(create features construction).1, (create features construction).2, ?_⟩
  simp only [build, if_neg (Nat.ne_of_gt positive)]
  rfl

/-- A matrix fits the slot for rows of its width. -/
theorem Value.IsMatrix.accepted {value : Value} {height width : Nat}
    (isMatrix : value.IsMatrix height width) :
    (ValueType.tensor (.batched .float32 [width])).accepts value.typeOf = true := by
  obtain ⟨array, rfl, sizes⟩ := isMatrix
  simp [ValueType.accepts, Value.typeOf, Tensor.type, Tensor.elementType, Tensor.sizes, sizes,
    TensorType.accepts, TensorType.batched, TensorType.ofSizes, Shape.accepts, Shape.batched,
    Shape.ofSizes, Shape.dimAccepts]

namespace Round

variable {config : RoundConfig} {features rows : Nat} {draw source : Nat → Float32} {store : Store}
  {construction : Construction} {weights : Weights Tensor} {model : LinearRegression}

theorem isMatrix_features_drawBatch :
    (drawBatch features rows draw).features.IsMatrix rows features :=
  ⟨_, rfl, rfl⟩

theorem isMatrix_labels_drawBatch : (drawBatch features rows draw).labels.IsMatrix rows 1 :=
  ⟨_, rfl, rfl⟩

theorem checkBatch_drawBatch :
    (LinearRegression.specOf features).checkBatch (drawBatch features rows draw) = .ok () := by
  have featuresMatrix : (drawBatch features rows draw).features.IsMatrix rows features :=
    isMatrix_features_drawBatch
  have labelsMatrix : (drawBatch features rows draw).labels.IsMatrix rows 1 :=
    isMatrix_labels_drawBatch
  apply BatchSpec.checkBatch_eq_ok_iff.mpr
  refine ⟨featuresMatrix.accepted, labelsMatrix.accepted, ?_⟩
  intro height sized
  rw [featuresMatrix.size?_eq] at sized
  cases sized
  rw [BatchSpec.checkRows_eq_ok_iff, BatchSpec.checkRows_eq_ok_iff, featuresMatrix.leadingSizes_eq,
    labelsMatrix.leadingSizes_eq]
  simp

theorem fits_drawWeights (typed : store.HasTypes model.declared) :
    (drawWeights model.features source).Fits model.toModel store := by
  obtain ⟨slopesTyped, offsetTyped, fixedOffsetTyped, _⟩ :=
    LinearRegression.hasTypes_declared_iff.mp typed
  refine ⟨rfl, rfl, ?_⟩
  simp only [Weights.TypesFit, Weights.moves, LinearRegression.toModel, drawWeights,
    List.zip_cons_cons, List.zip_nil_right, List.cons_append, List.nil_append,
    List.forall_mem_cons]
  exact ⟨slopesTyped.type_eq.symm, offsetTyped.type_eq.symm, fixedOffsetTyped.type_eq.symm, by simp⟩

theorem fits_of_build {built : Construction}
    (builds : LinearRegression.build features construction = (.ok model, built)) :
    (drawWeights features source).Fits model.toModel built.store := by
  have sameFeatures : model.features = features := by
    cases LinearRegression.created_of_build builds
    rfl
  rw [← sameFeatures]
  exact fits_drawWeights (LinearRegression.creates_of_build builds).allots.typed

theorem runBatches_cons {start : Nat} {rest : List Nat} :
    runBatches model draw start (rows :: rest) = (do
      let _ ← model.forwardPass (drawBatch model.features rows fun position =>
        draw (start + position))
      runBatches model draw (start + rows * (model.features + 1)) rest) := by
  simp only [runBatches, discard, Functor.discard, map_const, Function.comp_apply, bind_map_left]

/-- A client takes all batches that are drawn for it. -/
theorem exists_runBatches {client : Client} (reachable : client.Reachable)
    (isRegression : client.model = .regression model) (draw : Nat → Float32) (start : Nat)
    (sizes : List Nat) :
    ∃ batches after, runBatches model draw start sizes client.store = (.ok (), after) ∧
      Client.Reachable { client with store := after, accepted := client.accepted ++ batches } ∧
        batches.map Batch.rows = sizes := by
  induction sizes generalizing client start with
  | nil => exact ⟨[], client.store, rfl, by rwa [List.append_nil], rfl⟩
  | cons rows rest induction =>
      let batch := drawBatch model.features rows fun position => draw (start + position)
      have checked : client.model.toModel.spec.checkBatch batch = .ok () := by
        rw [isRegression]
        exact checkBatch_drawBatch
      have accepted := reachable.accepts checked false
      obtain ⟨loss, predicted, middle, passed, _⟩ :=
        BuiltModel.forwardPass_of_checked false reachable.tallied.sound checked
      rw [passed] at accepted
      obtain ⟨batches, after, run, reached, sized⟩ :=
        induction accepted isRegression (start + rows * (model.features + 1))
      refine ⟨batch :: batches, after, ?_, ?_, ?_⟩
      · rw [isRegression] at passed
        have passedDirectly : model.forwardPass batch client.store =
            (.ok (.assessed loss predicted), middle) := passed
        rw [runBatches_cons, Store.Effect.bind_apply, passedDirectly]
        exact run
      · rwa [List.append_assoc] at reached
      · rw [List.map_cons, sized]
        rfl

/-- What a client does with the model that it has built. -/
def work (config : RoundConfig) (weights : Weights Tensor) (draw : Nat → Float32)
    (model : LinearRegression) : Construction.Build ClientReport := do
  Construction.onStore (weights.assignTo model.toModel)
  Construction.onStore
    (runBatches model draw 0 (batchSizes config.batchSize config.examplesPerClient.value))
  let store := (← get).store
  let outputs ← MonadExcept.ofExcept (model.localOutputs store)
  return ⟨outputs, model.unfinalized store⟩

theorem work_apply {middle after : Store} {outputs : Value}
    (assigned : weights.assignTo model.toModel construction.store = (.ok (), middle))
    (run : runBatches model draw 0
      (batchSizes config.batchSize config.examplesPerClient.value) middle = (.ok (), after))
    (reported : model.localOutputs after = .ok outputs) :
    work config weights draw model construction =
      (.ok ⟨outputs, model.unfinalized after⟩, { construction with store := after }) := by
  have assigns := Construction.onStore_apply assigned
  have runs : Construction.onStore (runBatches model draw 0
      (batchSizes config.batchSize config.examplesPerClient.value))
        { construction with store := middle } = (.ok (), { construction with store := after }) :=
    Construction.onStore_apply run
  have reports : (MonadExcept.ofExcept (model.localOutputs after) : Construction.Build Value)
      { construction with store := after } = (.ok outputs, { construction with store := after }) := by
    rw [Construction.ofExcept_apply, reported]
  rw [work, Construction.bind_of_ok assigns, Construction.bind_of_ok runs]
  exact Construction.bind_of_ok reports

theorem keepsGraphs_work (config : RoundConfig) (weights : Weights Tensor) (draw : Nat → Float32)
    (model : LinearRegression) : Construction.KeepsGraphs (work config weights draw model) := by
  apply (Construction.keepsGraphs_onStore _).bind
  intro _
  apply (Construction.keepsGraphs_onStore _).bind
  intro _
  apply Construction.keepsGraphs_get.bind
  intro _
  apply (Construction.keepsGraphs_ofExcept _).bind
  intro _
  exact Construction.keepsGraphs_pure _

theorem runClient_apply {built : Construction}
    (builds : LinearRegression.build config.features.value (Construction.enter construction).2 =
      (.ok model, built)) :
    runClient config weights draw construction =
      ((work config weights draw model built).1,
        (work config weights draw model built).2.leave ⟨construction.depth + 1⟩) := by
  have opened : runClient config weights draw construction =
      Construction.within ((LinearRegression.build config.features.value >>=
        work config weights draw).run) construction := rfl
  have worked : ((LinearRegression.build config.features.value >>= work config weights draw).run
      (Construction.enter construction).2) = work config weights draw model built := by
    exact Construction.bind_of_ok builds
  rw [opened, Construction.within_apply, worked]

/-- However it ends, a client leaves the graphs of its thread as they were. -/
theorem sameGraphs_runClient (config : RoundConfig) (weights : Weights Tensor)
    (draw : Nat → Float32) (construction : Construction) :
    construction.SameGraphs (runClient config weights draw construction).2 := by
  obtain ⟨model, built, builds⟩ :=
    LinearRegression.exists_build config.features.positive (Construction.enter construction).2
  rw [runClient_apply builds]
  have registers := LinearRegression.registers_of_build builds
  exact Construction.sameGraphs_leave
    (registers.joined.trans (keepsGraphs_work config weights draw model built))

/-- The client has evaluated all its examples, and the report is its own. -/
structure Evaluated (config : RoundConfig) (client : Client) (report : ClientReport) : Prop where
  reachable : client.Reachable
  isRegression : ∃ model, client.model = .regression model
  rows : client.rows = config.examplesPerClient.value
  batches : client.accepted.length =
    config.examplesPerClient.value ⌈/⌉ config.batchSize.value
  outputs : client.outputs = .ok report.outputs
  metrics : client.report = .ok report.metrics

theorem exists_evaluated (config : RoundConfig) (source draw : Nat → Float32)
    (construction : Construction) :
    ∃ client report after,
      runClient config (drawWeights config.features.value source) draw construction =
        (.ok report, after) ∧ Evaluated config client report := by
  obtain ⟨model, built, builds⟩ :=
    LinearRegression.exists_build config.features.positive (Construction.enter construction).2
  have newcomer : Client.Reachable ⟨.regression model, built.store, []⟩ :=
    .built (.start (Construction.enter construction).2) (.buildRegression builds) rfl
  have assigned : (drawWeights config.features.value source).assignTo model.toModel built.store =
      _ := Weights.assignTo_of_fits (fits_of_build builds)
  have instructed := newcomer.step (.assignWeights (drawWeights config.features.value source))
  have assignedHere : (drawWeights config.features.value source).assignTo
      (BuiltModel.regression model).toModel built.store = _ := assigned
  rw [assignedHere] at instructed
  obtain ⟨batches, after, run, reached, sized⟩ := exists_runBatches instructed rfl draw 0
    (batchSizes config.batchSize config.examplesPerClient.value)
  have alike : (BuiltModel.regression model).ReportsAlike (.regression model) := .regression
  obtain ⟨outputs, reported, _⟩ := reached.tallied.exists_outputs alike
  have reportedDirectly : model.localOutputs after = .ok outputs := reported
  refine ⟨⟨.regression model, after, batches⟩, ⟨outputs, model.unfinalized after⟩,
    Construction.leave { built with store := after } ⟨construction.depth + 1⟩, ?_, ?_⟩
  · rw [runClient_apply builds, work_apply assigned run reportedDirectly]
  · constructor
    · exact reached
    · exact ⟨model, rfl⟩
    · rw [Client.rows, Batch.totalRows, sized, sum_batchSizes]
    · rw [← length_batchSizes, ← sized, List.length_map]
    · exact reported
    · rfl

end Round

end FederatedLearning
