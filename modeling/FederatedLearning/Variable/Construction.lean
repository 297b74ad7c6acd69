import FederatedLearning.Variable.Store

/-!
# Construction graphs

Every variable is registered when it is created: with the innermost open scope,
or with the base graph when no scope is open.  A scope lasts until its guard is
dropped, which discards its graph together with those opened after it, so that
the variables created while it was open never reach the base graph.
-/

namespace FederatedLearning

/-- The variables of a thread with the graphs that they are registered with. -/
structure Construction where
  store : Store
  /-- The variables registered while no scope was open, in order. -/
  base : List Variable
  /-- The graphs of the open scopes, outermost first. -/
  scopes : List (List Variable)
deriving DecidableEq

/-- The guard of a scope: how many scopes were open once it was entered. -/
structure Scope where
  depth : Nat
deriving DecidableEq, Repr

namespace Construction

/-- A computation that may create variables and fail; a failure keeps what was
done before it. -/
abbrev Build (α : Type) := ExceptT LearningError (StateM Construction) α

def empty : Construction := ⟨.empty, [], []⟩

def depth (construction : Construction) : Nat :=
  construction.scopes.length

def baseNames (construction : Construction) : List String :=
  construction.base.map construction.store.name

/-- Registers a variable with the active graph. -/
def register (construction : Construction) (handle : Variable) : Construction :=
  if construction.scopes.isEmpty then
    { construction with base := construction.base ++ [handle] }
  else
    { construction with
      scopes := construction.scopes.modify (construction.depth - 1) (· ++ [handle]) }

def create (name : String) (initial : Tensor) : StateM Construction Variable :=
  fun construction =>
    let (handle, store) := construction.store.create name initial
    (handle, { construction with store }.register handle)

def zeros (name : String) (elementType : ElementType) (sizes : List Nat) :
    StateM Construction Variable :=
  create name (.zeros elementType sizes)

def onStore {α : Type} (effect : Store.Effect α) : Build α := fun construction =>
  let (outcome, store) := effect construction.store
  (outcome, { construction with store })

def clearBase (construction : Construction) : Construction :=
  { construction with base := [] }

def enter : StateM Construction Scope := fun construction =>
  (⟨construction.depth + 1⟩, { construction with scopes := construction.scopes ++ [[]] })

/-- Drops the guard of a scope: its graph and all graphs within it are discarded. -/
def leave (construction : Construction) (scope : Scope) : Construction :=
  { construction with scopes := construction.scopes.take (scope.depth - 1) }

def variableCount (construction : Construction) (scope : Scope) : Nat :=
  (construction.scopes[scope.depth - 1]?.getD []).length

/-- Runs a computation inside a fresh scope, which is left however the
computation ends. -/
def within {α : Type} (body : StateM Construction α) : StateM Construction α := do
  let scope ← enter
  let outcome ← body
  modify (·.leave scope)
  return outcome

end Construction

end FederatedLearning
