import FederatedLearning.Tensor
import FederatedLearning.Text.Quoted
import FederatedLearning.ValueType.Text

/-!
# Errors of learning

The causes for which an operation on variables, batches, models, weights or
aggregations fails, and the message that tells a reader about each of them.
-/

namespace FederatedLearning

inductive BatchSpecFault where
  | scalarTensor
  | placedType
  | notRecord
  | notTwoElements
  | wrongNames
deriving DecidableEq, Repr

def BatchSpecFault.message : BatchSpecFault → String
  | scalarTensor => "every tensor needs a leading batch dimension"
  | placedType => "federated types cannot describe a batch"
  | notRecord => "expected a two element structure"
  | notTwoElements => "expected exactly two elements"
  | wrongNames => "a named spec must have exactly the `x` and `y` slots"

inductive AggregationFault where
  | noParticipants
  | wholeNumberMean (type : TensorType)
  /-- A reason given by a finalizer. -/
  | stated (reason : String)
deriving DecidableEq, Repr

def AggregationFault.message : AggregationFault → String
  | noParticipants => "there are no participants"
  | wholeNumberMean type => "cannot average " ++ type.text ++ " tensors"
  | stated reason => reason

inductive ConstructionFault where
  | noFeatures
  | noLayers
  | widthGap (layer outputs inputs : Nat)
  /-- A slot of the batch type does not fit the network. -/
  | slotWidth (slot : String) (width : Nat) (type : ValueType)
  /-- The loss bears the name of the counter of examples. -/
  | reservedName (name : String)
deriving DecidableEq

def ConstructionFault.message : ConstructionFault → String
  | noFeatures => "a linear regression needs at least one feature"
  | noLayers => "a sequential network needs at least one layer"
  | widthGap layer outputs inputs =>
      "layer " ++ layer.repr ++ " outputs " ++ outputs.repr ++ " features but layer " ++
        (layer + 1).repr ++ " expects " ++ inputs.repr
  | slotWidth slot width type =>
      "the " ++ slot ++ " must be float32[?," ++ width.repr ++ "], got " ++ type.text
  | reservedName name => "the loss cannot be named `" ++ name ++ "`"

inductive LearningError where
  | tensor (cause : TensorError)
  | typeMismatch (what expected : String)
  | missingField (name : String)
  | countMismatch (what : String) (got expected : Nat)
  /-- A weight has another type than the variable it is meant for. -/
  | weightMismatch (what : String) (position : Nat) (got expected : TensorType)
  | batchSpec (fault : BatchSpecFault)
  | slotMismatch (slot : String) (got expected : ValueType)
  /-- The names of metrics and of finalizers differ. -/
  | metricNames (reported finalizers : List String)
  | aggregation (fault : AggregationFault)
  | construction (fault : ConstructionFault)
  | shapesDiffer
deriving DecidableEq

namespace LearningError

def message : LearningError → String
  | tensor cause => cause.message
  | typeMismatch what expected => "type mismatch for " ++ what ++ ": expected " ++ expected
  | missingField name => "missing field `" ++ name ++ "`"
  | countMismatch what got expected =>
      "size mismatch for " ++ what ++ ": got " ++ got.repr ++ ", expected " ++ expected.repr
  | weightMismatch what position got expected =>
      what ++ " weight " ++ position.repr ++ " has type " ++ got.text ++
        " but the target variable is " ++ expected.text
  | batchSpec fault => "invalid input spec: " ++ fault.message
  | slotMismatch slot got expected =>
      "batch slot `" ++ slot ++ "` has type " ++ got.text ++ ", not compatible with " ++
        expected.text
  | metricNames reported finalizers =>
      "metric names " ++ Text.listed (reported.map Text.quoted) ++
        " differ from finalizer names " ++ Text.listed (finalizers.map Text.quoted)
  | aggregation fault => "aggregation failed: " ++ fault.message
  | construction fault => "failed to construct model: " ++ fault.message
  | shapesDiffer => "matrices of different shapes"

def ofTensor {α : Type} (result : Except TensorError α) : Except LearningError α :=
  result.mapError tensor

/-- The failure of an operation on tensors is a failure of learning. -/
instance : MonadLift (Except TensorError) (Except LearningError) := ⟨ofTensor⟩

end LearningError

/-- The single precision elements of a tensor; `what` names it in the error. -/
def Tensor.singles (what : String) (tensor : Tensor) :
    Except LearningError (DenseArray Float32) :=
  match tensor.float32? with
  | some array => .ok array
  | none => .error (.typeMismatch what "float32 elements")

end FederatedLearning
