import FederatedLearning.Proofs.BuiltModels
import FederatedLearning.Proofs.WeightAssignment

/-!
# Architectures

Two models are of one architecture when they compute the same, but for what their
variables hold.  Such models list weights of the same types in the same order, and
on stores in which these hold the same they assess and predict the same.
-/

namespace FederatedLearning

/-- The weights of two models, paired by position. -/
def Model.weightPairs (first second : Model) : List (Variable × Variable) :=
  first.trainable.zip second.trainable ++ first.nonTrainable.zip second.nonTrainable

namespace Layer

variable {layer : Layer} {store : Store}

theorem map_type_trainable (typed : store.HasTypes layer.declared) :
    layer.trainable.map store.type = layer.kind.trainableTypes := by
  cases layer with
  | dense layer =>
      obtain ⟨kernelTyped, biasTyped⟩ := hasTypes_dense_iff.mp typed
      simp [trainable, Dense.trainable, kind, LayerKind.trainableTypes, kernelTyped.type_eq,
        biasTyped.type_eq]
  | normalization layer =>
      obtain ⟨gammaTyped, betaTyped, _⟩ := hasTypes_normalization_iff.mp typed
      simp [trainable, Normalization.trainable, kind, LayerKind.trainableTypes,
        gammaTyped.type_eq, betaTyped.type_eq]

theorem map_type_nonTrainable (typed : store.HasTypes layer.declared) :
    layer.nonTrainable.map store.type = layer.kind.nonTrainableTypes := by
  cases layer with
  | dense layer => rfl
  | normalization layer =>
      obtain ⟨_, _, meanTyped, varianceTyped⟩ := hasTypes_normalization_iff.mp typed
      simp [nonTrainable, Normalization.nonTrainable, kind, LayerKind.nonTrainableTypes,
        meanTyped.type_eq, varianceTyped.type_eq]

end Layer

/-- What the kinds of single layers tell about their weights, the kinds of all layers
tell about those of the network. -/
theorem Network.map_type_flatMap {network : Network} {store : Store}
    {weights : Layer → List Variable} {types : LayerKind → List TensorType}
    (typed : store.HasTypes network.declared)
    (ofLayer : ∀ layer, store.HasTypes layer.declared →
      (weights layer).map store.type = types layer.kind) :
    (network.layers.flatMap weights).map store.type =
      (network.layers.map Layer.kind).flatMap types := by
  rw [List.map_flatMap, List.flatMap_map]
  apply List.flatMap_congr
  intro layer inside
  apply ofLayer
  intro declaration among
  exact typed declaration (List.mem_flatMap.mpr ⟨layer, inside, among⟩)

namespace BuiltModel

variable {model first second : BuiltModel} {left right store : Store} {batch : Batch}
  {features : Value} {training : Bool}

inductive SameArchitecture : BuiltModel → BuiltModel → Prop where
  | regression {first second : LinearRegression}
      (sameFeatures : first.features = second.features) :
      SameArchitecture (.regression first) (.regression second)
  | network {first second : NetworkModel}
      (sameKinds : first.network.layers.map Layer.kind = second.network.layers.map Layer.kind)
      (sameLoss : first.loss = second.loss) (sameSpec : first.spec = second.spec) :
      SameArchitecture (.network first) (.network second)

theorem SameArchitecture.refl (model : BuiltModel) : model.SameArchitecture model := by
  cases model with
  | regression model => exact .regression rfl
  | network model => exact .network rfl rfl rfl

/-- The types of the trainable weights. -/
def trainableTypes : BuiltModel → List TensorType
  | .regression model => [.ofSizes .float32 [model.features, 1], .ofSizes .float32 [1]]
  | .network model => (model.network.layers.map Layer.kind).flatMap LayerKind.trainableTypes

/-- The types of the non-trainable weights. -/
def nonTrainableTypes : BuiltModel → List TensorType
  | .regression _ => [.ofSizes .float32 [1]]
  | .network model => (model.network.layers.map Layer.kind).flatMap LayerKind.nonTrainableTypes

theorem SameArchitecture.trainableTypes_eq (same : first.SameArchitecture second) :
    first.trainableTypes = second.trainableTypes := by
  cases same with
  | regression sameFeatures => simp only [trainableTypes, sameFeatures]
  | network sameKinds sameLoss sameSpec => simp only [trainableTypes, sameKinds]

theorem SameArchitecture.nonTrainableTypes_eq (same : first.SameArchitecture second) :
    first.nonTrainableTypes = second.nonTrainableTypes := by
  cases same with
  | regression sameFeatures => rfl
  | network sameKinds sameLoss sameSpec => simp only [nonTrainableTypes, sameKinds]

theorem map_type_trainable (typed : store.HasTypes model.declared) :
    model.toModel.trainable.map store.type = model.trainableTypes := by
  cases model with
  | regression model =>
      obtain ⟨slopesTyped, offsetTyped, _⟩ := LinearRegression.hasTypes_declared_iff.mp typed
      simp [toModel, LinearRegression.toModel, trainableTypes, slopesTyped.type_eq,
        offsetTyped.type_eq]
  | network model =>
      apply Network.map_type_flatMap (NetworkModel.hasTypes_network typed)
      exact fun layer layerTyped => Layer.map_type_trainable layerTyped

theorem map_type_nonTrainable (typed : store.HasTypes model.declared) :
    model.toModel.nonTrainable.map store.type = model.nonTrainableTypes := by
  cases model with
  | regression model =>
      obtain ⟨_, _, fixedOffsetTyped, _⟩ := LinearRegression.hasTypes_declared_iff.mp typed
      simp [toModel, LinearRegression.toModel, nonTrainableTypes, fixedOffsetTyped.type_eq]
  | network model =>
      apply Network.map_type_flatMap (NetworkModel.hasTypes_network typed)
      exact fun layer layerTyped => Layer.map_type_nonTrainable layerTyped

section

variable (same : first.SameArchitecture second) (firstTyped : left.HasTypes first.declared)
  (secondTyped : right.HasTypes second.declared)

include same firstTyped secondTyped

theorem SameArchitecture.map_type_trainable_eq :
    first.toModel.trainable.map left.type = second.toModel.trainable.map right.type := by
  rw [map_type_trainable firstTyped, map_type_trainable secondTyped, same.trainableTypes_eq]

theorem SameArchitecture.map_type_nonTrainable_eq :
    first.toModel.nonTrainable.map left.type = second.toModel.nonTrainable.map right.type := by
  rw [map_type_nonTrainable firstTyped, map_type_nonTrainable secondTyped,
    same.nonTrainableTypes_eq]

end

/-- On mirroring stores two regressions predict the same. -/
theorem predictions_eq_of_mirrors {first second : LinearRegression} (features : Value)
    (sameFeatures : first.features = second.features)
    (mirrors : Store.Mirrors (first.toModel.weightPairs second.toModel) left right) :
    first.predictions features left = second.predictions features right := by
  apply LinearRegression.predictions_congr sameFeatures
  · exact mirrors.read_eq (first.slopes, second.slopes)
      (by simp [Model.weightPairs, LinearRegression.toModel])
  · exact mirrors.read_eq (first.offset, second.offset)
      (by simp [Model.weightPairs, LinearRegression.toModel])
  · exact mirrors.read_eq (first.fixedOffset, second.fixedOffset)
      (by simp [Model.weightPairs, LinearRegression.toModel])

theorem related_assess_of_mirrors (same : first.SameArchitecture second)
    (oneToOne : Store.OneToOne (first.toModel.weightPairs second.toModel)) :
    Store.Effect.Related (Store.Mirrors (first.toModel.weightPairs second.toModel))
      (first.assess batch training) (second.assess batch training) := by
  cases same with
  | regression sameFeatures =>
      apply Store.Effect.related_of_reading
      intro left right mirrors
      exact LinearRegression.assess_congr sameFeatures
        (predictions_eq_of_mirrors batch.features sameFeatures mirrors)
  | network sameKinds sameLoss sameSpec =>
      apply NetworkModel.related_assess_of_mirrors sameKinds sameSpec oneToOne _ _ sameLoss
      · exact fun pair inside => List.mem_append_left _ inside
      · exact fun pair inside => List.mem_append_right _ inside

theorem related_predict_of_mirrors (features : Value) (training : Bool)
    (same : first.SameArchitecture second)
    (oneToOne : Store.OneToOne (first.toModel.weightPairs second.toModel)) :
    Store.Effect.Related (Store.Mirrors (first.toModel.weightPairs second.toModel))
      (first.toModel.predict features training) (second.toModel.predict features training) := by
  cases same with
  | @regression first second sameFeatures =>
      intro left right mirrors
      rw [toModel, toModel, LinearRegression.predict_apply, LinearRegression.predict_apply,
        predictions_eq_of_mirrors features sameFeatures mirrors]
      exact ⟨rfl, mirrors⟩
  | network sameKinds sameLoss sameSpec =>
      apply NetworkModel.related_predict_of_mirrors sameKinds sameSpec oneToOne
      · exact fun pair inside => List.mem_append_left _ inside
      · exact fun pair inside => List.mem_append_right _ inside

end BuiltModel

end FederatedLearning
