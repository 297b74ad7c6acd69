import FederatedLearning.Aggregation.Plan
import FederatedLearning.Batch.Basic
import FederatedLearning.Metric.Report
import FederatedLearning.Variable.Construction

/-!
# Models

A model works on three lists of variables.  The trainable and the non-trainable
ones are its weights and travel between participants; the local ones hold what
a participant accumulates over its forward passes and never leave it.

A loss reduces the predictions of a model and the labels of a batch to one number.
It is undefined when the shapes of the two cannot be combined.
-/

namespace FederatedLearning

structure Loss where
  name : String
  value? : Matrix → Matrix → Option Float32

namespace Loss

/-- The mean over all entries of a function of prediction minus label; zero when
there are no entries. -/
def meanOfDifferences? (function : Float32 → Float32) (predictions labels : Matrix) :
    Option Float32 := do
  let differences ← Matrix.zipWith? (· - ·) predictions labels
  return (Numeric.mean? (differences.map function).entries).getD 0

def squared (name : String) : Loss :=
  ⟨name, meanOfDifferences? fun difference => difference * difference⟩

def meanSquaredError : Loss := squared "loss"

/-- The loss of a batch, for which it has to be defined. -/
def value (loss : Loss) (predictions labels : Matrix) : Except LearningError Float32 :=
  match loss.value? predictions labels with
  | none => .error .shapesDiffer
  | some value => .ok value

end Loss

/-- What a forward pass over a batch yields; every part is optional. -/
structure BatchOutput where
  loss : Option Float32
  predictions : Option Tensor
  examples : Option Nat
deriving DecidableEq

def BatchOutput.empty : BatchOutput := ⟨none, none, none⟩

/-- What a forward pass yields that knows all parts: an example per prediction. -/
def BatchOutput.assessed (loss : Float32) (predictions : Matrix) : BatchOutput :=
  ⟨some loss, some predictions.toTensor, some predictions.height⟩

/-- A model that takes part in federated training and evaluation. -/
structure Model where
  trainable : List Variable
  nonTrainable : List Variable
  locals : List Variable
  spec : BatchSpec
  forwardPass : Batch → Bool → Store.Effect BatchOutput
  predict : Value → Bool → Store.Effect Tensor
  /-- What was accumulated over all passes since the local variables were reset. -/
  localOutputs : Store → Except LearningError Value
  computation : Option Computation
  /-- The metrics as they are reported, before they are finalized. -/
  unfinalized : Store → Except LearningError (Record Value)
  finalizers : Record Finalizer

def examplesName : String := "num_examples"

def Store.resetAll (store : Store) (handles : List Variable) : Store :=
  handles.foldl Store.reset store

end FederatedLearning
