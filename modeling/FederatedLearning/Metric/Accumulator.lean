import FederatedLearning.Metric.Report
import FederatedLearning.Variable.Construction

/-!
# Metric accumulators

A metric keeps its state in local variables: a weighted mean as a total and a
count, a sum as a single number.  Resetting a metric fills them with zeros.
-/

namespace FederatedLearning

/-- A weighted mean, kept as a running total and a running count. -/
structure MeanMetric where
  name : String
  total : Variable
  count : Variable

namespace MeanMetric

def create (name : String) : StateM Construction MeanMetric := do
  let total ← Construction.zeros (name ++ "/total") .float32 []
  let count ← Construction.zeros (name ++ "/count") .float32 []
  return ⟨name, total, count⟩

def update (metric : MeanMetric) (value weight : Float32) : Store.Effect Unit := do
  Store.assignAdd metric.total (.ofSingle (value * weight))
  Store.assignAdd metric.count (.ofSingle weight)

/-- The current mean, zero before anything was taken into account. -/
def result (metric : MeanMetric) (store : Store) : Except LearningError Float32 := do
  let total ← store.sum metric.total
  let count ← store.sum metric.count
  return if count == 0 then 0 else total / count

def handles (metric : MeanMetric) : List Variable :=
  [metric.total, metric.count]

def unfinalized (metric : MeanMetric) (store : Store) : Value :=
  .unnamed [store.read metric.total, store.read metric.count]

def finalizer : Finalizer := .divideOrZero

end MeanMetric

structure SumMetric where
  name : String
  sum : Variable

namespace SumMetric

def create (name : String) (elementType : ElementType) : StateM Construction SumMetric := do
  let sum ← Construction.zeros (name ++ "/sum") elementType []
  return ⟨name, sum⟩

def update (metric : SumMetric) (value : Tensor) : Store.Effect Unit :=
  Store.assignAdd metric.sum value

def result (metric : SumMetric) (store : Store) : Tensor :=
  store.read metric.sum

def handles (metric : SumMetric) : List Variable :=
  [metric.sum]

def unfinalized (metric : SumMetric) (store : Store) : Value :=
  .unnamed [store.read metric.sum]

def finalizer : Finalizer := .first

end SumMetric

end FederatedLearning
