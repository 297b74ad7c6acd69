import FederatedLearning.Variable.Construction

/-!
# Dense layers

A dense layer multiplies its input by a kernel, adds a bias to every row and
applies an activation to every entry of the result.
-/

namespace FederatedLearning

/-- A function that a layer applies to every entry of its result. -/
inductive Activation where
  | sigmoid (amplitude : Float32)
  /-- One of two values, depending on whether the logistic function reaches a
  threshold. -/
  | step (top bottom threshold : Float32)
  | relu
deriving DecidableEq

namespace Activation

def euler : Float32 := 2.7182818

/-- The value of an activation.  The positive part of what is not a number is
zero. -/
def apply : Activation → Float32 → Float32
  | .sigmoid amplitude, number => amplitude / (1 + (-number).exp)
  | .step top bottom threshold, number =>
      if 1 / (1 + euler.pow (-number)) ≥ threshold then top else bottom
  | .relu, number => if number > 0 then number else 0

end Activation

structure Dense where
  inputs : Nat
  outputs : Nat
  activation : Option Activation
  /-- A row for every input, a column for every output. -/
  kernel : Variable
  bias : Variable

namespace Dense

def kernelLimit (inputs outputs : Nat) : Float32 :=
  (6 / Numeric.single (max (inputs + outputs) 1)).sqrt

/-- The initial kernel: numbers drawn evenly between the bounds, given draws
between zero and one. -/
def initialKernel (inputs outputs : Nat) (draw : Nat → Float32) : Tensor :=
  let limit := kernelLimit inputs outputs
  .float32 ((DenseArray.fill [inputs, outputs] (-limit)).mapIdx fun position lowest =>
    lowest + draw position * (2 * limit))

/-- Creates the variables of a dense layer: a drawn kernel and a bias of zeros. -/
def create (name : String) (inputs outputs : Nat) (activation : Option Activation)
    (draw : Nat → Float32) : StateM Construction Dense := do
  let kernel ← Construction.create (name ++ "/kernel") (initialKernel inputs outputs draw)
  let bias ← Construction.zeros (name ++ "/bias") .float32 [outputs]
  return ⟨inputs, outputs, activation, kernel, bias⟩

/-- Applies the activation, if there is one, to every entry. -/
def activate (layer : Dense) (affine : Matrix) : Matrix :=
  match layer.activation with
  | none => affine
  | some activation => affine.map activation.apply

def forward (layer : Dense) (input : Matrix) (store : Store) : Except LearningError Matrix := do
  if input.width ≠ layer.inputs then
    throw (.countMismatch "dense input" input.width layer.inputs)
  let kernel ← store.matrix "dense kernel" layer.kernel
  let product ← input.product kernel
  if product.width ≠ layer.outputs then throw .shapesDiffer
  let bias ← store.vector "dense bias" layer.bias
  return layer.activate (← product.withRow (· + ·) bias)

def trainable (layer : Dense) : List Variable :=
  [layer.kernel, layer.bias]

end Dense

end FederatedLearning
