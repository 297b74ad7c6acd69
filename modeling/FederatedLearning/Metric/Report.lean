import FederatedLearning.Aggregation.Grouping
import FederatedLearning.LearningError

/-!
# Metric reports

A metric is reported as the contents of its accumulators, so that the reports
of several participants can be summed.  A finalizer turns such an unfinalized
value into the metric itself.

A report lists unfinalized metrics by name.  It goes with finalizers that carry
exactly the same names, each once.  The reports of several participants are
summed before they are finalized, two by two along a tree that the machine chooses.
-/

namespace FederatedLearning

/-- Turns the accumulated value of a metric into the metric. -/
abbrev Finalizer := Value → Except LearningError Value

namespace Finalizer

def numberAt (members : Record Value) (position : Nat) : Except LearningError Float := do
  match members.get? position with
  | none => throw (.countMismatch "unfinalized metric" members.size (position + 1))
  | some item =>
      let tensor ← item.asTensor "unfinalized metric"
      match tensor.scalar? with
      | some number => return number
      | none => throw (.countMismatch "unfinalized metric element" tensor.size 1)

/-- A quotient that is zero when the divisor is. -/
def quotientOrZero (total count : Float) : Float :=
  if count == 0 then 0 else total / count

def divideOrZero : Finalizer := fun value => do
  let members ← value.asRecord "divide_no_nan"
  let total ← numberAt members 0
  let count ← numberAt members 1
  return .tensor (.ofSingle (quotientOrZero total count).toFloat32)

def first : Finalizer := fun value => do
  let members ← value.asRecord "first"
  match members.get? 0 with
  | some item => return item
  | none => throw (.countMismatch "unfinalized metric" 0 1)

end Finalizer

namespace Record

variable {α β : Type}

/-- Whether every element is named and no name repeats. -/
def namedApart (record : Record α) : Bool :=
  record.labels.all Option.isSome && decide record.names.Nodup

def sameNameSet (left : Record α) (right : Record β) : Bool :=
  left.names.all right.names.contains && right.names.all left.names.contains

end Record

def checkMetricNames (report : Record Value) (finalizers : Record Finalizer) :
    Except LearningError Unit :=
  if report.namedApart && finalizers.namedApart && report.sameNameSet finalizers then .ok ()
  else .error (.metricNames report.names finalizers.names)

def finalizeElement (finalizers : Record Finalizer) (element : Option String × Value) :
    Except LearningError (String × Value) := do
  let name := Record.listedName element.1
  match finalizers.find? name with
  | some finalizer => return (name, ← finalizer element.2)
  | none => throw (.missingField name)

/-- The metrics of a report, in its order. -/
def finalizeMetrics (report : Record Value) (finalizers : Record Finalizer) :
    Except LearningError (Record Value) := do
  checkMetricNames report finalizers
  return .named (← report.elements.mapM (finalizeElement finalizers))

/-- The sum of one part of every report, along the tree by which the reports are grouped. -/
def Splitter.sumParts (splitter : Splitter (Record Value)) (part : Record Value → Value)
    (reports : List (Record Value)) : Except LearningError Value :=
  if present : reports ≠ [] then
    LearningError.ofTensor ((splitter.group reports present).map part).sum
  else .error (.aggregation .noParticipants)

/-- The metrics of all participants together: their reports are summed along any tree,
and the sum is finalized. -/
def sumThenFinalize (reports : List (Record Value)) (finalizers : Record Finalizer)
    (splitter : Splitter (Record Value) := .halves) : Except LearningError (Record Value) := do
  reports.forM (checkMetricNames · finalizers)
  match ← splitter.sumParts .record reports with
  | .record summed => finalizeMetrics summed finalizers
  | .tensor _ => throw (.typeMismatch "summed metrics" "a structure")

end FederatedLearning
