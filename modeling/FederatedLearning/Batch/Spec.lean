import FederatedLearning.LearningError
import FederatedLearning.Value.Basic

/-!
# Batch specs

A batch spec says which batches a model takes: the type of the features, the
type of the labels, and whether the two slots are known by name or by position.
Every tensor of a batch has a leading dimension that counts the examples.
-/

namespace FederatedLearning

def featuresName : String := "x"

def labelsName : String := "y"

inductive SlotLayout where
  | named
  | ordered
deriving DecidableEq, Repr

structure BatchSpec where
  layout : SlotLayout
  features : ValueType
  labels : ValueType
deriving DecidableEq

namespace ValueType

mutual

/-- Checks that every tensor has a leading dimension and nothing is placed. -/
def checkBatched : ValueType → Except BatchSpecFault Unit
  | .tensor type =>
      if type.shape.rank = 0 then .error .scalarTensor else .ok ()
  | .record ⟨elements⟩ => checkBatchedElements elements
  | .placed .. => .error .placedType
termination_by structural type => type

def checkBatchedElements : List (Option String × ValueType) → Except BatchSpecFault Unit
  | [] => .ok ()
  | (_, type) :: rest =>
      match checkBatched type with
      | .ok () => checkBatchedElements rest
      | .error fault => .error fault
termination_by structural elements => elements

end

end ValueType

namespace BatchSpec

def make (layout : SlotLayout) (features labels : ValueType) : Except LearningError BatchSpec :=
  match features.checkBatched, labels.checkBatched with
  | .ok (), .ok () => .ok ⟨layout, features, labels⟩
  | .error fault, _ => .error (.batchSpec fault)
  | .ok (), .error fault => .error (.batchSpec fault)

def named : ValueType → ValueType → Except LearningError BatchSpec :=
  make .named

def ordered : ValueType → ValueType → Except LearningError BatchSpec :=
  make .ordered

/-- Takes a record type of two elements for a spec: unnamed ones are known by
position, otherwise the names have to be those of the slots. -/
def ofType (type : ValueType) : Except LearningError BatchSpec :=
  match type with
  | .record members =>
      match members.elements with
      | [(none, features), (none, labels)] => ordered features labels
      | [_, _] =>
          match members.find? featuresName, members.find? labelsName with
          | some features, some labels => named features labels
          | _, _ => .error (.batchSpec .wrongNames)
      | _ => .error (.batchSpec .notTwoElements)
  | _ => .error (.batchSpec .notRecord)

def toType (spec : BatchSpec) : ValueType :=
  match spec.layout with
  | .named =>
      .record (.named [(featuresName, spec.features), (labelsName, spec.labels)])
  | .ordered => .record (.unnamed [spec.features, spec.labels])

end BatchSpec

end FederatedLearning
