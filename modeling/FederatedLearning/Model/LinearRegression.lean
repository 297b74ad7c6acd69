import FederatedLearning.Model.Basic

/-!
# Linear regression

The prediction for a row of features is its product with the slopes plus two
offsets, of which only the first is trained.  The local variables count examples
and batches and sum up the loss.
-/

namespace FederatedLearning

structure LinearRegression where
  features : Nat
  slopes : Variable
  offset : Variable
  fixedOffset : Variable
  examples : Variable
  batches : Variable
  /-- The sum of the losses of all examples seen. -/
  lossSum : Variable

namespace LinearRegression

/-- Creates the variables of a regression, all zero. -/
def create (features : Nat) : StateM Construction LinearRegression := do
  let slopes ← Construction.zeros "a" .float32 [features, 1]
  let offset ← Construction.zeros "b" .float32 [1]
  let fixedOffset ← Construction.zeros "c" .float32 [1]
  let examples ← Construction.zeros examplesName .int64 []
  let batches ← Construction.zeros "num_batches" .int64 []
  let lossSum ← Construction.zeros "loss_sum" .float32 []
  return ⟨features, slopes, offset, fixedOffset, examples, batches, lossSum⟩

def build (features : Nat) : Construction.Build LinearRegression := do
  if features = 0 then throw (.construction .noFeatures)
  create features

/-- The batches of a regression: a row of features and a number per example. -/
def specOf (features : Nat) : BatchSpec where
  layout := .named
  features := .tensor (.batched .float32 [features])
  labels := .tensor (.batched .float32 [1])

def spec (model : LinearRegression) : BatchSpec :=
  specOf model.features

def locals (model : LinearRegression) : List Variable :=
  [model.examples, model.batches, model.lossSum]

def predictions (model : LinearRegression) (features : Value) (store : Store) :
    Except LearningError Matrix := do
  model.spec.checkFeatures features
  let rows ← Matrix.ofValue "features" features
  let slopes ← store.matrix "a" model.slopes
  let products ← rows.product slopes
  let offset ← store.sum model.offset
  let fixedOffset ← store.sum model.fixedOffset
  let total := offset + fixedOffset
  return products.map (· + total)

/-- The loss of a single prediction: half the squared difference. -/
def halfSquare (difference : Float32) : Float32 :=
  0.5 * difference * difference

def halfSquared : Loss := ⟨"loss", Loss.meanOfDifferences? halfSquare⟩

/-- Checks a batch, and finds the loss of the predictions for it. -/
def assess (model : LinearRegression) (batch : Batch) (store : Store) :
    Except LearningError (Float32 × Matrix) := do
  model.spec.checkBatch batch
  let predictions ← model.predictions batch.features store
  let labels ← Matrix.ofValue "labels" batch.labels
  let loss ← halfSquared.value predictions labels
  return (loss, predictions)

/-- Adds the loss of a number of examples to what was seen before. -/
def accumulate (model : LinearRegression) (loss : Float32) (examples : Nat) :
    Store.Effect Unit := do
  Store.assignAdd model.examples (.ofNat examples)
  Store.assignAdd model.batches (.ofNat 1)
  Store.assignAdd model.lossSum (.ofSingle (loss * Numeric.single examples))

/-- Runs a forward pass: assesses the batch and accumulates. -/
def forwardPass (model : LinearRegression) (batch : Batch) : Store.Effect BatchOutput := do
  let (loss, predictions) ← MonadExcept.ofExcept (model.assess batch (← get))
  model.accumulate loss predictions.height
  return .assessed loss predictions

/-- The mean loss over all examples seen, zero when there were none. -/
def meanLoss (model : LinearRegression) (store : Store) : Except LearningError Float32 := do
  let examples := (store.read model.examples).scalar?.getD 0
  let total ← store.sum model.lossSum
  return if examples == 0 then 0 else total / examples.toFloat32

def localOutputs (model : LinearRegression) (store : Store) : Except LearningError Value := do
  let loss ← model.meanLoss store
  return .named [(examplesName, store.read model.examples),
    ("num_batches", store.read model.batches), ("loss", Tensor.ofSingle loss)]

/-- Examples and batches are summed; the loss is weighted by the examples. -/
def computation : Computation :=
  .ofReductions [(examplesName, .sum), ("num_batches", .sum),
    ("loss", .weightedMean examplesName)]

/-- The loss as a total with its count, and the number of examples. -/
def unfinalized (model : LinearRegression) (store : Store) : Record Value :=
  .named [("loss", .unnamed [store.read model.lossSum, store.read model.examples]),
    (examplesName, .unnamed [store.read model.examples])]

def finalizers : Record Finalizer :=
  .named [("loss", .divideOrZero), (examplesName, .first)]

def resetLocals (model : LinearRegression) (store : Store) : Store :=
  store.resetAll model.locals

/-- A regression as a model; training makes no difference to its passes. -/
def toModel (model : LinearRegression) : Model where
  trainable := [model.slopes, model.offset]
  nonTrainable := [model.fixedOffset]
  locals := model.locals
  spec := model.spec
  forwardPass batch _ := model.forwardPass batch
  predict features _ := do
    let rows ← MonadExcept.ofExcept (model.predictions features (← get))
    return rows.toTensor
  localOutputs := model.localOutputs
  computation := some computation
  unfinalized store := .ok (model.unfinalized store)
  finalizers := finalizers

end LinearRegression

end FederatedLearning
