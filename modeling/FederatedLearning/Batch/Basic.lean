import FederatedLearning.Batch.Spec

/-!
# Batches

A batch holds the features and the labels of some examples.  It fits a spec when
the types of both slots are accepted and every tensor has as many rows as the
first tensor of the features.
-/

namespace FederatedLearning

structure Batch where
  features : Value
  labels : Value

namespace Batch

/-- The leading dimensions of the tensors that have one. -/
def leadingSizes (value : Value) : List Nat :=
  value.leaves.filterMap fun leaf => leaf.sizes.head?

/-- The number of examples: the leading dimension of the first tensor of the
features. -/
def size? (batch : Batch) : Option Nat :=
  batch.features.leaves.head?.bind fun leaf => leaf.sizes.head?

end Batch

namespace BatchSpec

def checkSlot (slot : String) (expected : ValueType) (value : Value) :
    Except LearningError Unit :=
  let got := value.typeOf
  if expected.accepts got then .ok () else .error (.slotMismatch slot got expected)

/-- Checks that every leading dimension of a slot is the number of examples. -/
def checkRows (what : String) (rows : Nat) (value : Value) : Except LearningError Unit :=
  match (Batch.leadingSizes value).find? (· != rows) with
  | some got => .error (.countMismatch what got rows)
  | none => .ok ()

/-- Checks the features alone, as a prediction needs them. -/
def checkFeatures (spec : BatchSpec) (features : Value) : Except LearningError Unit :=
  checkSlot featuresName spec.features features

def checkBatch (spec : BatchSpec) (batch : Batch) : Except LearningError Unit := do
  checkSlot featuresName spec.features batch.features
  checkSlot labelsName spec.labels batch.labels
  match batch.size? with
  | none => return ()
  | some rows =>
      checkRows "batch features" rows batch.features
      checkRows "batch labels" rows batch.labels

/-- The batch whose slots a record holds, when they are found in it: the elements at
the first two positions, or those taken out under the two names one after the other. -/
def slots? (spec : BatchSpec) (members : Record Value) : Option Batch :=
  match spec.layout with
  | .ordered => do
      return ⟨← members.get? 0, ← members.get? 1⟩
  | .named => do
      let (features, others) ← members.take? featuresName
      let (labels, _) ← others.take? labelsName
      return ⟨features, labels⟩

/-- Splits a record of two elements into a batch that fits the spec. -/
def batchOf (spec : BatchSpec) : Value → Except LearningError Batch
  | .tensor _ => .error (.typeMismatch "batch" "a two element structure")
  | .record members =>
      if members.size = 2 then
        match spec.slots? members with
        | none => .error (.missingField (featuresName ++ "/" ++ labelsName))
        | some batch => do
            spec.checkBatch batch
            return batch
      else .error (.countMismatch "batch elements" members.size 2)

end BatchSpec

end FederatedLearning
