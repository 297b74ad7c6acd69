import FederatedLearning.Aggregation.Evaluate
import FederatedLearning.Failure
import FederatedLearning.HostValue
import FederatedLearning.Metric.Report
import FederatedLearning.Model.LinearRegression
import FederatedLearning.Model.Weights
import FederatedLearning.Round.Config

/-!
# A round of federated evaluation

The server draws the weights of a linear regression and sends them to all
clients.  Every client builds its own model, takes the weights over, and runs it
over its own examples in batches.  What the clients report is aggregated, and
their metrics are summed and finalized.

The random numbers of a round are given by a source: for every seed, a sequence
of numbers between zero and one.  The rules of a round hold for all sources; the
one used here mixes the seed with the position of the draw.
-/

namespace FederatedLearning

/-- For every seed a sequence of draws between zero and one. -/
abbrev Draws := UInt64 → Nat → Float32

namespace Draws

/-- A draw moved to the range from a lower to an upper bound. -/
def between (lower upper draw : Float32) : Float32 :=
  lower + draw * (upper - lower)

def scramble (word : UInt64) : UInt64 :=
  let word := (word ^^^ (word >>> 30)) * 0xbf58476d1ce4e5b9
  let word := (word ^^^ (word >>> 27)) * 0x94d049bb133111eb
  word ^^^ (word >>> 31)

/-- Draws with 24 random bits each. -/
def scrambled : Draws := fun seed position =>
  let word := scramble (seed + 0x9e3779b97f4a7c15 * (position + 1).toUInt64)
  (word >>> 40).toFloat32 / 16777216

end Draws

structure ClientReport where
  outputs : Value
  metrics : Record Value

structure RoundReport where
  participants : Nat
  outputs : HostValue
  metrics : HostValue

inductive RoundError where
  | learning (cause : LearningError)
  | noReports
deriving DecidableEq

def RoundError.message : RoundError → String
  | .learning cause => cause.message
  | .noReports => "no client reported back"

namespace Round

/-- The sizes of the batches that some examples are split into: full batches
and, if need be, a smaller last one. -/
def batchSizes (limit : Count) : Nat → List Nat
  | 0 => []
  | remaining + 1 =>
      let rows := min (remaining + 1) limit.value
      rows :: batchSizes limit (remaining + 1 - rows)
termination_by remaining => remaining
decreasing_by
  have := limit.positive
  omega

def drawWeights (features : Nat) (draw : Nat → Float32) : Weights Tensor where
  trainable :=
    [.float32 ((DenseArray.fill [features, 1] 0).mapIdx fun position _ =>
      Draws.between (-1) 1 (draw position)),
    .float32 ((DenseArray.fill [1] 0).mapIdx fun position _ =>
      Draws.between (-1) 1 (draw (features + position)))]
  nonTrainable := [.zeros .float32 [1]]

/-- A batch of random features whose labels are their sums, with some noise. -/
def drawBatch (features rows : Nat) (draw : Nat → Float32) : Batch where
  features := .tensor (.float32 ((DenseArray.fill [rows, features] 0).mapIdx
    fun position _ => Draws.between (-1) 1 (draw position)))
  labels := .tensor (.float32 ((DenseArray.fill [rows, 1] 0).mapIdx fun row _ =>
    let entries := (List.range features).map fun column =>
      Draws.between (-1) 1 (draw (row * features + column))
    Numeric.laneSum entries + Draws.between (-0.1) 0.1 (draw (rows * features + row))))

/-- Runs a model over batches of the given sizes; the draws of a batch start
where those of the one before it end. -/
def runBatches (model : LinearRegression) (draw : Nat → Float32) :
    Nat → List Nat → Store.Effect Unit
  | _, [] => return ()
  | start, rows :: rest => do
      discard (model.forwardPass (drawBatch model.features rows fun position =>
        draw (start + position)))
      runBatches model draw (start + rows * (model.features + 1)) rest

/-- What a client does, in a scope of its own: it builds a model, takes the
weights over, evaluates its examples and reports. -/
def runClient (config : RoundConfig) (weights : Weights Tensor) (draw : Nat → Float32) :
    Construction.Build ClientReport :=
  ExceptT.mk (Construction.within (do
    let model ← LinearRegression.build config.features.value
    Construction.onStore (weights.assignTo model.toModel)
    Construction.onStore
      (runBatches model draw 0
        (batchSizes config.batchSize config.examplesPerClient.value))
    let store := (← get).store
    let outputs ← MonadExcept.ofExcept (model.localOutputs store)
    return ⟨outputs, model.unfinalized store⟩ : Construction.Build ClientReport).run)

/-- How the task of a client ended: a model that fails will fail again. -/
def clientOutcome (outcome : Except LearningError ClientReport) :
    Except ExecutionError ClientReport :=
  outcome.mapError fun error => .fatal error.message

/-- The reports of the clients that succeeded.  Every client works on variables
of its own and follows a seed of its own. -/
def clientReports (config : RoundConfig) (weights : Weights Tensor) (draws : Draws)
    (seed : UInt64) : List ClientReport :=
  (List.range config.clients.value).filterMap fun client =>
    let draw := draws (seed + (client + 1).toUInt64)
    (clientOutcome ((runClient config weights draw).run .empty).1).toOption

def summarize (reports : List ClientReport) (splitter : Splitter (Record Value)) :
    Except RoundError RoundReport :=
  if reports.isEmpty then .error .noReports
  else Except.mapError .learning do
    let outputs ← LinearRegression.computation.aggregate (reports.map (·.outputs))
    let metrics ←
      sumThenFinalize (reports.map (·.metrics)) LinearRegression.finalizers splitter
    return ⟨reports.length, .ofValue outputs, .ofValue (.record metrics)⟩

/-- The part of a round before any client runs: the server's model is built and
takes over the weights that were drawn. -/
def prepare (config : RoundConfig) (draws : Draws) (seed : UInt64) :
    Construction.Build (Weights Tensor) := do
  let server ← LinearRegression.build config.features.value
  let weights := drawWeights config.features.value (draws seed)
  Construction.onStore (weights.assignTo server.toModel)
  return weights

/-- A whole round.  The splitter groups the reports whose metrics are summed. -/
def evaluate (config : RoundConfig) (draws : Draws) (seed : UInt64)
    (construction : Construction) (splitter : Splitter (Record Value) := .halves) :
    Except RoundError RoundReport × Construction :=
  match (prepare config draws seed).run construction with
  | (.error error, after) => (.error (.learning error), after)
  | (.ok weights, after) =>
      (summarize (clientReports config weights draws seed) splitter, after)

end Round

end FederatedLearning
