import FederatedLearning.Model.Basic
import FederatedLearning.ValueType.Count

/-!
# Model weights

The weights of a model are its trainable and its non-trainable tensors.  They
are held either as the live variables of a model or as plain tensors, and are
assigned to a model by position: counts and types are checked for all of them
before the first is written.
-/

namespace FederatedLearning

/-- Anything that holds the contents of a weight. -/
class WeightSource (α : Type) where
  contents : Store → α → Tensor
  /-- As long as no variable changes its type, the contents keep theirs. -/
  type_stable {before after : Store} (item : α) :
    (∀ handle, after.type handle = before.type handle) →
      (contents after item).type = (contents before item).type

instance : WeightSource Variable where
  contents := Store.read
  type_stable handle same := same handle

instance : WeightSource Tensor where
  contents _ tensor := tensor
  type_stable _ _ := rfl

structure Weights (α : Type) where
  trainable : List α
  nonTrainable : List α
deriving DecidableEq

namespace Weights

def trainableName : String := "trainable"

def nonTrainableName : String := "non_trainable"

def ofModel (model : Model) : Weights Variable :=
  ⟨model.trainable, model.nonTrainable⟩

/-- The part of a result that holds the weights of one kind. -/
def tensorsOf (members : Record Value) (name : String) : Except LearningError (List Tensor) :=
  match members.find? name with
  | none => .error (.missingField name)
  | some (.tensor _) => .error (.typeMismatch name "a structure of tensors")
  | some (.record part) =>
      part.values.mapM fun item =>
        match item with
        | .tensor leaf => .ok leaf
        | .record _ => .error (.typeMismatch name "a structure of tensors")

/-- The weights found in a result with a field for either part. -/
def ofResult : Value → Except LearningError (Weights Tensor)
  | .tensor _ => .error (.typeMismatch "model weights"
      "a structure with `trainable` and `non_trainable` fields")
  | .record members => do
      let trainable ← tensorsOf members trainableName
      let nonTrainable ← tensorsOf members nonTrainableName
      return ⟨trainable, nonTrainable⟩

section

variable {α : Type} [WeightSource α]

def snapshot (weights : Weights α) (store : Store) : Weights Tensor :=
  ⟨weights.trainable.map (WeightSource.contents store),
    weights.nonTrainable.map (WeightSource.contents store)⟩

def typesOf (store : Store) (weights : List α) : ValueType :=
  .record (.unnamed (weights.map fun weight =>
    .tensor (WeightSource.contents store weight).type))

def type (weights : Weights α) (store : Store) : ValueType :=
  .record (.named [(trainableName, typesOf store weights.trainable),
    (nonTrainableName, typesOf store weights.nonTrainable)])

def valuesOf (store : Store) (weights : List α) : Value :=
  .unnamed (weights.map fun weight => .tensor (WeightSource.contents store weight))

def toValue (weights : Weights α) (store : Store) : Value :=
  .named [(trainableName, valuesOf store weights.trainable),
    (nonTrainableName, valuesOf store weights.nonTrainable)]

/-- The first weight whose type is not that of the variable at its position. -/
def firstMismatch? (store : Store) : Nat → List α → List Variable →
    Option (Nat × TensorType × TensorType)
  | position, weight :: weights, target :: targets =>
      let got := (WeightSource.contents store weight).type
      let expected := store.type target
      if got = expected then firstMismatch? store (position + 1) weights targets
      else some (position, got, expected)
  | _, _, _ => none

/-- Checks the number of weights of one part, and then their types. -/
def checkPart (store : Store) (what : String) (weights : List α) (targets : List Variable) :
    Except LearningError Unit :=
  if weights.length ≠ targets.length then
    .error (.countMismatch what weights.length targets.length)
  else
    match firstMismatch? store 0 weights targets with
    | none => .ok ()
    | some (position, got, expected) =>
        .error (.weightMismatch what position got expected)

/-- Writes weights into variables one after the other, each read when its turn
comes. -/
def writePart : List α → List Variable → Store.Effect Unit
  | weight :: weights, target :: targets => do
      Store.assign target (WeightSource.contents (← get) weight)
      writePart weights targets
  | _, _ => return ()

/-- Copies the weights into the variables of a model.  Unless both parts fit,
nothing is written. -/
def assignTo (weights : Weights α) (model : Model) : Store.Effect Unit := do
  let store ← get
  MonadExcept.ofExcept (checkPart store trainableName weights.trainable model.trainable)
  MonadExcept.ofExcept
    (checkPart store nonTrainableName weights.nonTrainable model.nonTrainable)
  writePart weights.trainable model.trainable
  writePart weights.nonTrainable model.nonTrainable

end

/-- Whether two lists of tensors are equal, numbers compared in the way of their
own type. -/
def equalTensors : List Tensor → List Tensor → Bool
  | [], [] => true
  | left :: rest, right :: rest' => left.equals right && equalTensors rest rest'
  | _, _ => false

def equals (left right : Weights Tensor) : Bool :=
  equalTensors left.trainable right.trainable &&
    equalTensors left.nonTrainable right.nonTrainable

end Weights

namespace Model

def weightsType (model : Model) (store : Store) : ValueType :=
  (Weights.ofModel model).type store

def countTrainable (weightsType : ValueType) : Except LearningError TensorCount :=
  match weightsType.field? Weights.trainableName with
  | some trainable => .ok (trainable.count fun _ => true)
  | none => .error (.missingField Weights.trainableName)

def parameterCount (model : Model) (store : Store) : Except LearningError TensorCount :=
  countTrainable (model.weightsType store)

end Model

namespace Construction

/-- The type of the weights of the model that a factory builds.  The factory
runs in a scope of its own, so that its variables are discarded with the model. -/
def weightsTypeOf {ε : Type} (factory : ExceptT ε (StateM Construction) Model) :
    ExceptT ε (StateM Construction) ValueType :=
  ExceptT.mk (within (do
    let model ← factory
    return model.weightsType (← get).store : ExceptT ε (StateM Construction) ValueType).run)

/-- The count of the trainable weights of the model that a factory builds.  A factory
may end early in other ways than by an error, so `refuse` says what an error is there. -/
def parameterCountWith {ε : Type} (refuse : LearningError → ε)
    (factory : ExceptT ε (StateM Construction) Model) :
    ExceptT ε (StateM Construction) TensorCount := do
  MonadExcept.ofExcept ((Model.countTrainable (← weightsTypeOf factory)).mapError refuse)

def parameterCountOf (factory : Build Model) : Build TensorCount :=
  parameterCountWith id factory

end Construction

end FederatedLearning
