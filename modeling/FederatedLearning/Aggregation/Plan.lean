import FederatedLearning.LearningError

/-!
# Aggregation plans

A plan says how the outputs that participants report are reduced to one result:
every leaf of the plan reduces a whole part of the outputs, and the records of
the plan follow the records of the outputs.
-/

namespace FederatedLearning

inductive Reduction where
  | sum
  | mean
  /-- The mean weighted by a number that every participant reports under the
  given name at the top of its outputs. -/
  | weightedMean (weight : String)
deriving DecidableEq, Repr

/-- A reduction for a part of the outputs, or a plan for each of its fields. -/
inductive Plan where
  | leaf (reduction : Reduction)
  | record (fields : Record Plan)

instance : Inhabited Plan := ⟨.leaf .sum⟩

/-- A computation that aggregates outputs field by field.  A field without a
name counts as one with the empty name. -/
structure Computation where
  plan : Record Plan

def Computation.ofReductions (reductions : List (String × Reduction)) : Computation :=
  ⟨.named (reductions.map fun (name, reduction) => (name, .leaf reduction))⟩

namespace Plan

mutual

def equals : Plan → Plan → Bool
  | .leaf left, .leaf right => left == right
  | .record ⟨left⟩, .record ⟨right⟩ => equalsFields left right
  | _, _ => false
termination_by structural left => left

def equalsFields : List (Option String × Plan) → List (Option String × Plan) → Bool
  | [], [] => true
  | (name, left) :: rest, (name', right) :: rest' =>
      name == name' && equals left right && equalsFields rest rest'
  | _, _ => false
termination_by structural left => left

end

end Plan

end FederatedLearning
