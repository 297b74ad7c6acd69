import FederatedLearning.Variable.Construction

/-!
# Normalization layers

A normalization layer shifts and scales every feature by its mean and variance.
While training these are taken from the batch, and folded into moving statistics
that are used afterwards.
-/

namespace FederatedLearning

inductive Mode where
  /-- Normalizes with the moving statistics. -/
  | inference
  /-- Normalizes with the batch and leaves the moving statistics alone. -/
  | frozen
  /-- Normalizes with the batch and updates the moving statistics. -/
  | training
deriving DecidableEq, Repr

namespace Matrix

/-- The mean of every column, its entries added from top to bottom. -/
def columnMeans (matrix : Matrix) : List Float32 :=
  let totals := matrix.rows.foldl (List.zipWith (· + ·)) (List.replicate matrix.width 0)
  totals.map (· / Numeric.single matrix.height)

/-- The mean of the numbers seen so far and the sum of their squared deviations. -/
structure Spread where
  count : Nat
  mean : Float32
  squares : Float32

def Spread.add (spread : Spread) (number : Float32) : Spread :=
  let count := spread.count + 1
  let delta := number - spread.mean
  let mean := spread.mean + delta / Numeric.single count
  ⟨count, mean, Numeric.fusedMultiplyAdd (number - mean) delta spread.squares⟩

/-- The variance of every column, found in one pass from top to bottom. -/
def columnVariances (matrix : Matrix) : List Float32 :=
  (List.range matrix.width).map fun position =>
    ((matrix.column position).foldl Spread.add ⟨0, 0, 0⟩).squares /
      Numeric.single matrix.height

end Matrix

structure Normalization where
  width : Nat
  gamma : Variable
  beta : Variable
  movingMean : Variable
  movingVariance : Variable

namespace Normalization

/-- What keeps a variance away from zero. -/
def epsilon : Float32 := 1e-3

/-- The share of the old value in an updated statistic. -/
def momentum : Float32 := 0.99

def create (name : String) (width : Nat) : StateM Construction Normalization := do
  let gamma ← Construction.create (name ++ "/gamma") (.float32 (.fill [width] 1))
  let beta ← Construction.zeros (name ++ "/beta") .float32 [width]
  let movingMean ← Construction.zeros (name ++ "/moving_mean") .float32 [width]
  let movingVariance ←
    Construction.create (name ++ "/moving_variance") (.float32 (.fill [width] 1))
  return ⟨width, gamma, beta, movingMean, movingVariance⟩

def vector (store : Store) (handle : Variable) : Except LearningError (List Float32) :=
  store.vector "normalization weight" handle

/-- Folds the statistics of a batch into a moving statistic. -/
def updateMoving (handle : Variable) (batch : List Float32) : Store.Effect Unit :=
  Store.update handle fun contents => do
    let array ← contents.singles "variable"
    if array.sizes = [batch.length] then
      return .float32 (array.mapIdx fun position moving =>
        moving * momentum + batch.getD position 0 * (1 - momentum))
    else throw .shapesDiffer

/-- The means and variances that a pass normalizes with. -/
def statistics (layer : Normalization) (mode : Mode) (input : Matrix) :
    Store.Effect (List Float32 × List Float32) := do
  if mode ≠ .inference ∧ 0 < input.height then
    let means := input.columnMeans
    let variances := input.columnVariances
    if mode = .training then
      updateMoving layer.movingMean means
      updateMoving layer.movingVariance variances
    return (means, variances)
  else
    let store ← get
    let means ← vector store layer.movingMean
    let variances ← vector store layer.movingVariance
    return (means, variances)

/-- The scale and the offset applied to a feature. -/
def transform (gamma beta mean variance : Float32) : Float32 × Float32 :=
  let scale := gamma / (variance + epsilon).sqrt
  (scale, beta - mean * scale)

/-- The transforms of all features, each given what its layer and its statistics
hold at its position. -/
def transforms (gammas betas means variances : List Float32) : List (Float32 × Float32) :=
  List.zipWith (fun (gamma, beta) (mean, variance) => transform gamma beta mean variance)
    (gammas.zip betas) (means.zip variances)

/-- Scales and shifts every feature, given its mean and variance. -/
def rescale (layer : Normalization) (input : Matrix) (means variances : List Float32)
    (store : Store) : Except LearningError Matrix := do
  let gammas ← vector store layer.gamma
  let betas ← vector store layer.beta
  let pairs := transforms gammas betas means variances
  let scaled ← input.withRow (· * ·) (pairs.map Prod.fst)
  scaled.withRow (· + ·) (pairs.map Prod.snd)

def forward (layer : Normalization) (mode : Mode) (input : Matrix) : Store.Effect Matrix := do
  if input.width ≠ layer.width then
    throw (.countMismatch "normalization input" input.width layer.width)
  let (means, variances) ← layer.statistics mode input
  MonadExcept.ofExcept (layer.rescale input means variances (← get))

def trainable (layer : Normalization) : List Variable :=
  [layer.gamma, layer.beta]

def nonTrainable (layer : Normalization) : List Variable :=
  [layer.movingMean, layer.movingVariance]

end Normalization

end FederatedLearning
