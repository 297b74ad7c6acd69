import FederatedLearning.Metric.Accumulator
import FederatedLearning.Model.Basic
import FederatedLearning.Network.Stack

/-!
# Networks as models

A network with a loss is a model: its batches are matrices as wide as the
network's input and output, the loss is tracked as a mean over examples, and the
examples are counted.  A forward pass never moves the statistics of the network;
a prediction while training does.
-/

namespace FederatedLearning

/-- A network with a loss and the metrics that track them. -/
structure NetworkModel where
  network : Network
  loss : Loss
  spec : BatchSpec
  lossMetric : MeanMetric
  examples : SumMetric

namespace NetworkModel

/-- Whether a type is a matrix in single precision of the given width, with any
number of rows or a fixed one. -/
def isMatrixType (width : Nat) : ValueType → Bool
  | .tensor ⟨.float32, ⟨[_, some columns]⟩⟩ => columns == width
  | _ => false

def checkWidth (slot : String) (type : ValueType) (width : Nat) : Except LearningError Unit :=
  if isMatrixType width type then .ok ()
  else .error (.construction (.slotWidth slot width type))

/-- The slots have to fit the network, and the loss may not bear the name of the
counter of examples. -/
def check (network : Network) (loss : Loss) (spec : BatchSpec) : Except LearningError Unit := do
  checkWidth "features" spec.features network.inputs
  checkWidth "labels" spec.labels network.outputs
  if loss.name = examplesName then throw (.construction (.reservedName examplesName))

/-- Creates the metrics that go with a network. -/
def create (network : Network) (loss : Loss) (spec : BatchSpec) :
    StateM Construction NetworkModel := do
  let lossMetric ← MeanMetric.create loss.name
  let examples ← SumMetric.create examplesName .int64
  return ⟨network, loss, spec, lossMetric, examples⟩

/-- Makes a model of a network. -/
def build (network : Network) (loss : Loss) (spec : BatchSpec) :
    Construction.Build NetworkModel := do
  MonadExcept.ofExcept (check network loss spec)
  create network loss spec

def locals (model : NetworkModel) : List Variable :=
  model.lossMetric.handles ++ model.examples.handles

/-- Checks a batch, and finds the loss of the predictions for it, without moving
statistics. -/
def assess (model : NetworkModel) (batch : Batch) (training : Bool) :
    Store.Effect (Float32 × Matrix) := do
  MonadExcept.ofExcept (model.spec.checkBatch batch)
  let features ← MonadExcept.ofExcept (Matrix.ofValue "features" batch.features)
  let labels ← MonadExcept.ofExcept (Matrix.ofValue "labels" batch.labels)
  let predictions ← model.network.forward (if training then .frozen else .inference) features
  let loss ← MonadExcept.ofExcept (model.loss.value predictions labels)
  return (loss, predictions)

/-- Adds the loss of a number of examples to the metrics. -/
def accumulate (model : NetworkModel) (loss : Float32) (examples : Nat) :
    Store.Effect Unit := do
  model.lossMetric.update loss (Numeric.single examples)
  model.examples.update (.ofNat examples)

/-- Runs a forward pass: assesses the batch and updates the metrics. -/
def forwardPass (model : NetworkModel) (batch : Batch) (training : Bool) :
    Store.Effect BatchOutput := do
  let (loss, predictions) ← model.assess batch training
  model.accumulate loss predictions.height
  return .assessed loss predictions

/-- Predicts for features; while training, the moving statistics are updated. -/
def predict (model : NetworkModel) (features : Value) (training : Bool) :
    Store.Effect Tensor := do
  MonadExcept.ofExcept (model.spec.checkFeatures features)
  let rows ← MonadExcept.ofExcept (Matrix.ofValue "features" features)
  let predictions ← model.network.forward (if training then .training else .inference) rows
  return predictions.toTensor

def localOutputs (model : NetworkModel) (store : Store) : Except LearningError Value := do
  let loss ← model.lossMetric.result store
  return .named [(model.loss.name, Tensor.ofSingle loss),
    (examplesName, model.examples.result store)]

/-- The loss is weighted by the examples, which are summed. -/
def computation (model : NetworkModel) : Computation :=
  .ofReductions [(model.loss.name, .weightedMean examplesName), (examplesName, .sum)]

def unfinalized (model : NetworkModel) (store : Store) : Record Value :=
  .named [(model.lossMetric.name, model.lossMetric.unfinalized store),
    (model.examples.name, model.examples.unfinalized store)]

def finalizers (model : NetworkModel) : Record Finalizer :=
  .named [(model.lossMetric.name, MeanMetric.finalizer),
    (model.examples.name, SumMetric.finalizer)]

def resetMetrics (model : NetworkModel) (store : Store) : Store :=
  store.resetAll model.locals

def toModel (model : NetworkModel) : Model where
  trainable := model.network.trainable
  nonTrainable := model.network.nonTrainable
  locals := model.locals
  spec := model.spec
  forwardPass := model.forwardPass
  predict := model.predict
  localOutputs := model.localOutputs
  computation := some model.computation
  unfinalized store := .ok (model.unfinalized store)
  finalizers := model.finalizers

end NetworkModel

end FederatedLearning
