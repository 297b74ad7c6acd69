import FederatedLearning.Network.Dense
import FederatedLearning.Network.Normalization

/-!
# Networks

A network is a stack of layers, each of which takes what the one before it
yields.  A blueprint of layers describes an architecture; building it creates
the variables, layer by layer.
-/

namespace FederatedLearning

/-- A layer without its variables. -/
inductive LayerBlueprint where
  | dense (name : String) (inputs outputs : Nat) (activation : Option Activation)
  | normalization (name : String) (width : Nat)
deriving DecidableEq

inductive Layer where
  | dense (layer : Dense)
  | normalization (layer : Normalization)

namespace Layer

def create (draw : Nat → Float32) : LayerBlueprint → StateM Construction Layer
  | .dense name inputs outputs activation => do
      return .dense (← Dense.create name inputs outputs activation draw)
  | .normalization name width => do
      return .normalization (← Normalization.create name width)

def inputs : Layer → Nat
  | .dense layer => layer.inputs
  | .normalization layer => layer.width

def outputs : Layer → Nat
  | .dense layer => layer.outputs
  | .normalization layer => layer.width

def forward (layer : Layer) (mode : Mode) (input : Matrix) : Store.Effect Matrix :=
  match layer with
  | .dense layer => do MonadExcept.ofExcept (layer.forward input (← get))
  | .normalization layer => layer.forward mode input

/-- Runs layers one after the other, each on what the one before it yields. -/
def forwardAll (mode : Mode) (layers : List Layer) (input : Matrix) : Store.Effect Matrix :=
  layers.foldlM (fun rows layer => layer.forward mode rows) input

def trainable : Layer → List Variable
  | .dense layer => layer.trainable
  | .normalization layer => layer.trainable

def nonTrainable : Layer → List Variable
  | .dense _ => []
  | .normalization layer => layer.nonTrainable

/-- Where a layer does not take what the one before it yields: the position of
the earlier layer, what it yields and what the later one takes. -/
def gap? : Nat → List Layer → Option (Nat × Nat × Nat)
  | position, first :: second :: rest =>
      if first.outputs = second.inputs then gap? (position + 1) (second :: rest)
      else some (position, first.outputs, second.inputs)
  | _, _ => none

end Layer

/-- A stack of layers of matching widths. -/
structure Network where
  layers : List Layer
  inhabited : layers ≠ []
  matching : Layer.gap? 0 layers = none

namespace Network

def ofLayers (layers : List Layer) : Except LearningError Network :=
  if inhabited : layers = [] then .error (.construction .noLayers)
  else
    match matching : Layer.gap? 0 layers with
    | none => .ok ⟨layers, inhabited, matching⟩
    | some (position, outputs, inputs) =>
        .error (.construction (.widthGap position outputs inputs))

/-- Builds all layers of a blueprint and puts them together.  The draws for the
entries of a kernel are told apart by the position of its layer. -/
def build (draw : Nat → Nat → Float32) (blueprint : List LayerBlueprint) :
    Construction.Build Network := do
  let layers ← blueprint.zipIdx.mapM fun (layer, position) =>
    (Layer.create (draw position) layer : StateM Construction Layer)
  MonadExcept.ofExcept (ofLayers layers)

def inputs (network : Network) : Nat :=
  (network.layers.head network.inhabited).inputs

def outputs (network : Network) : Nat :=
  (network.layers.getLast network.inhabited).outputs

def forward (network : Network) (mode : Mode) (input : Matrix) : Store.Effect Matrix :=
  Layer.forwardAll mode network.layers input

def trainable (network : Network) : List Variable :=
  network.layers.flatMap Layer.trainable

def nonTrainable (network : Network) : List Variable :=
  network.layers.flatMap Layer.nonTrainable

end Network

end FederatedLearning
