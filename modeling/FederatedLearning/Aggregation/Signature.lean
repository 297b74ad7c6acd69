import FederatedLearning.Aggregation.Plan

/-!
# Signatures of aggregations

From the type of the outputs that one participant reports, the type of the
aggregated result is computed without any values: every field of the result is
held by the server.
-/

namespace FederatedLearning

structure Signature where
  parameter : ValueType
  result : ValueType
deriving DecidableEq

def Signature.text (signature : Signature) : String :=
  "(" ++ signature.parameter.text ++ " -> " ++ signature.result.text ++ ")"

namespace Reduction

/-- The type of a part of the outputs after its reduction.  A mean of a whole
number tensor is refused. -/
def resultType (reduction : Reduction) (member : ValueType) :
    Except LearningError ValueType :=
  match reduction, member with
  | .sum, member => .ok member
  | _, .tensor type =>
      if type.elementType.isFloating then .ok (.tensor type)
      else .error (.aggregation (.wholeNumberMean type))
  | _, member => .ok member

end Reduction

namespace Plan

def memberOf (members : Record ValueType) (name : String) :
    Except LearningError ValueType :=
  match members.find? name with
  | some member => .ok member
  | none => .error (.missingField name)

mutual

def resultType : Plan → ValueType → Except LearningError ValueType
  | .leaf reduction, member => reduction.resultType member
  | .record ⟨fields⟩, .record members => do
      return .record (.named (← fieldTypes fields members))
  | .record _, _ => throw (.typeMismatch "local outputs" "a structure")
termination_by structural plan => plan

def fieldTypes : List (Option String × Plan) → Record ValueType →
    Except LearningError (List (String × ValueType))
  | [], _ => return []
  | (label, plan) :: rest, members => do
      let name := Record.listedName label
      let member ← memberOf members name
      let type ← resultType plan member
      return (name, type) :: (← fieldTypes rest members)
termination_by structural fields => fields

end

end Plan

namespace Computation

def signature (computation : Computation) (outputs : ValueType) :
    Except LearningError Signature :=
  match outputs with
  | .record members => do
      let fields ← Plan.fieldTypes computation.plan.elements members
      return ⟨.atClients outputs,
        .record (.named (fields.map fun (name, type) => (name, .atServer type)))⟩
  | _ => throw (.typeMismatch "local outputs" "a structure")

end Computation

end FederatedLearning
