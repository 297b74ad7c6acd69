import FederatedLearning.Aggregation.Plan
import FederatedLearning.Value.Arithmetic

/-!
# Evaluating aggregations

The outputs of all participants are reduced under a plan.  Sums are taken in the
order of the participants, starting from the first one; a weighted mean scales
every part by its weight before it is added, and the sum by the inverse of the
total weight, or by zero when that total is zero.
-/

namespace FederatedLearning

def sumOnto (first : Value) : List Value → Except TensorError Value
  | [] => .ok first
  | value :: rest => do sumOnto (← first.add value) rest

/-- Adds values, each scaled by its weight first, onto a first one, in order. -/
def weightedSumOnto (first : Value) : List (Value × Float) → Except TensorError Value
  | [] => .ok first
  | (value, weight) :: rest => do
      let scaled ← value.scale weight
      weightedSumOnto (← first.add scaled) rest

def sumOf : List Value → Except LearningError Value
  | [] => .error (.aggregation .noParticipants)
  | first :: rest => LearningError.ofTensor (sumOnto first rest)

def weightedSumOf : List (Value × Float) → Except LearningError Value
  | [] => .error (.aggregation .noParticipants)
  | (first, weight) :: rest => LearningError.ofTensor do
      weightedSumOnto (← first.scale weight) rest

def weightOf (name : String) (participant : Value) : Except LearningError Float := do
  let part ← participant.field name
  let tensor ← part.asTensor "weight"
  match tensor.scalar? with
  | some weight => return weight
  | none => throw (.countMismatch "weight" tensor.size 1)

/-- One divided by a total, or zero of a zero total. -/
def inverseOrZero (total : Float) : Float :=
  if total == 0 then 0 else 1 / total

def Reduction.reduce (reduction : Reduction) (parts participants : List Value) :
    Except LearningError Value :=
  match reduction with
  | .sum => sumOf parts
  | .mean => do
      let total ← sumOf parts
      total.scale (1 / Float.ofNat parts.length)
  | .weightedMean name => do
      let weights ← participants.mapM (weightOf name)
      let total ← weightedSumOf (parts.zip weights)
      total.scale (inverseOrZero (weights.foldl (· + ·) 0))

namespace Plan

mutual

/-- Aggregates the parts that all participants report under a plan. -/
def aggregate : Plan → List Value → List Value → Except LearningError Value
  | .leaf reduction, parts, participants => reduction.reduce parts participants
  | .record ⟨fields⟩, parts, participants => do
      return Value.named (← aggregateFields fields parts participants)
termination_by structural plan => plan

def aggregateFields : List (Option String × Plan) → List Value → List Value →
    Except LearningError (List (String × Value))
  | [], _, _ => return []
  | (label, plan) :: rest, parts, participants => do
      let name := Record.listedName label
      let members ← LearningError.ofTensor (parts.mapM (·.field name))
      let result ← aggregate plan members participants
      return (name, result) :: (← aggregateFields rest parts participants)
termination_by structural fields => fields

end

end Plan

def Computation.aggregate (computation : Computation) (participants : List Value) :
    Except LearningError Value :=
  if participants.isEmpty then .error (.aggregation .noParticipants)
  else do
    return Value.named
      (← Plan.aggregateFields computation.plan.elements participants participants)

end FederatedLearning
