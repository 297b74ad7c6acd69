import FederatedLearning.Matrix
import FederatedLearning.Numeric

/-!
# Variables

A store holds the contents of all variables.  A variable is a handle to one
cell of it, so two equal handles share their contents, whoever holds them.  The
name, the element type and the sizes of a cell are fixed when it is created:
every write is checked against them, and a refused write changes nothing.

A computation that needs a variable as a vector or as a matrix views its contents
as one, and fails when they are not in single precision or of another rank.
-/

namespace FederatedLearning

/-- A handle to a cell of the store. -/
structure Variable where
  position : Nat
deriving DecidableEq, Repr

structure Cell where
  name : String
  contents : Tensor
deriving DecidableEq

structure Store where
  cells : List Cell
deriving DecidableEq

namespace Store

/-- A computation that reads and writes variables and may fail; a failure keeps
what was written before it. -/
abbrev Effect (α : Type) := ExceptT LearningError (StateM Store) α

def empty : Store := ⟨[]⟩

/-- What a handle shows that was never created. -/
def absent : Cell := ⟨"", .zeros .float32 []⟩

def cell (store : Store) (handle : Variable) : Cell :=
  store.cells[handle.position]?.getD absent

def name (store : Store) (handle : Variable) : String :=
  (store.cell handle).name

def read (store : Store) (handle : Variable) : Tensor :=
  (store.cell handle).contents

def type (store : Store) (handle : Variable) : TensorType :=
  (store.read handle).type

def describe (store : Store) (handle : Variable) : String :=
  "Variable \x7b name: " ++ Text.quoted (store.name handle) ++ ", type: " ++
    Text.quoted (store.type handle).text ++ " \x7d"

def create (store : Store) (name : String) (initial : Tensor) : Variable × Store :=
  (⟨store.cells.length⟩, ⟨store.cells ++ [⟨name, initial⟩]⟩)

def put (store : Store) (handle : Variable) (contents : Tensor) : Store :=
  ⟨store.cells.modify handle.position fun cell => { cell with contents }⟩

def update (handle : Variable) (operation : Tensor → Except LearningError Tensor) :
    Effect Unit := do
  let store ← get
  match operation (store.read handle) with
  | .ok contents => set (store.put handle contents)
  | .error error => throw error

def assign (handle : Variable) (source : Tensor) : Effect Unit :=
  update handle fun contents => LearningError.ofTensor (contents.assign source)

def assignAdd (handle : Variable) (addend : Tensor) : Effect Unit :=
  update handle fun contents => LearningError.ofTensor (contents.add addend)

def reset (store : Store) (handle : Variable) : Store :=
  let contents := store.read handle
  store.put handle (.zeros contents.elementType contents.sizes)

def singles (store : Store) (handle : Variable) :
    Except LearningError (DenseArray Float32) :=
  (store.read handle).singles "variable"

def sum (store : Store) (handle : Variable) : Except LearningError Float32 := do
  let array ← store.singles handle
  return Numeric.laneSum array.elements

/-- Changes the single precision elements of a variable one by one, each with
regard to its position. -/
def updateSingles (handle : Variable) (change : Nat → Float32 → Float32) : Effect Unit :=
  update handle fun contents => do
    let array ← contents.singles "variable"
    return .float32 (array.mapIdx change)

/-- The numbers of a variable of one dimension; `what` names it in the error. -/
def vector (store : Store) (what : String) (handle : Variable) :
    Except LearningError (List Float32) := do
  let array ← store.singles handle
  if array.sizes.length = 1 then return array.elements
  else throw (.typeMismatch what "a vector")

/-- The matrix held by a variable of two dimensions; `what` names it in the error. -/
def matrix (store : Store) (what : String) (handle : Variable) :
    Except LearningError Matrix := do
  let array ← store.singles handle
  match Matrix.ofArray? array with
  | some matrix => return matrix
  | none => throw (.typeMismatch what "a matrix")

end Store

end FederatedLearning
