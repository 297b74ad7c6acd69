import FederatedLearning.Model.Basic

/-!
# Models that only hold weights

Such a model carries variables of all three kinds and computes nothing: a
forward pass tells nothing and a prediction returns the features.
-/

namespace FederatedLearning

/-- A model that holds variables and computes nothing. -/
structure WeightHolder where
  trainable : List Variable
  nonTrainable : List Variable
  locals : List Variable

namespace WeightHolder

/-- Creates a variable for each tensor, named by its kind and position. -/
def createAll (kind : String) (tensors : List Tensor) : StateM Construction (List Variable) :=
  tensors.zipIdx.mapM fun (tensor, position) =>
    Construction.create (kind ++ "_" ++ position.repr) tensor

def create (trainable nonTrainable locals : List Tensor) :
    StateM Construction WeightHolder := do
  let trainable ← createAll "trainable" trainable
  let nonTrainable ← createAll "non_trainable" nonTrainable
  let locals ← createAll "local" locals
  return ⟨trainable, nonTrainable, locals⟩

def spec : BatchSpec where
  layout := .named
  features := .tensor (.batched .float32 [1])
  labels := .tensor (.batched .float32 [1])

/-- A holder of weights as a model, without outputs, metrics or a computation. -/
def toModel (holder : WeightHolder) : Model where
  trainable := holder.trainable
  nonTrainable := holder.nonTrainable
  locals := holder.locals
  spec := spec
  forwardPass _ _ := return .empty
  predict features _ := MonadExcept.ofExcept (LearningError.ofTensor (features.asTensor "features"))
  localOutputs _ := .ok (.record ∅)
  computation := none
  unfinalized _ := .ok ∅
  finalizers := ∅

end WeightHolder

end FederatedLearning
