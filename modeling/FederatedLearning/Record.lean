/-!
# Records

A record is an ordered sequence of elements, each of which may carry a name.
With every element named it is an ordered dictionary, with none named a tuple,
and any mixture is allowed.  Names may repeat; a look-up by name finds the
first element that carries it.

Types, values, aggregation plans and metric reports are all records of
something, so the operations here fix the order and the look-up rule once.
-/

namespace FederatedLearning

universe u v w

/-- An ordered sequence of optionally named elements. -/
structure Record (α : Type u) where
  elements : List (Option String × α)
deriving DecidableEq, Repr

namespace Record

variable {α : Type u} {β : Type v}

instance : EmptyCollection (Record α) := ⟨⟨[]⟩⟩

instance : Inhabited (Record α) := ⟨∅⟩

def named (entries : List (String × α)) : Record α :=
  ⟨entries.map fun (name, item) => (some name, item)⟩

def unnamed (items : List α) : Record α :=
  ⟨items.map fun item => (none, item)⟩

def size (record : Record α) : Nat :=
  record.elements.length

def isEmpty (record : Record α) : Bool :=
  record.elements.isEmpty

def values (record : Record α) : List α :=
  record.elements.map Prod.snd

def labels (record : Record α) : List (Option String) :=
  record.elements.map Prod.fst

def names (record : Record α) : List String :=
  record.elements.filterMap Prod.fst

def hasNames (record : Record α) : Bool :=
  record.elements.any fun (name, _) => name.isSome

/-- The first element that carries the name. -/
def find? (record : Record α) (name : String) : Option α :=
  (record.elements.find? fun (label, _) => label == some name).map Prod.snd

def get? (record : Record α) (position : Nat) : Option α :=
  record.elements[position]?.map Prod.snd

/-- Takes the first element that carries the name out of the record. -/
def take? (record : Record α) (name : String) : Option (α × Record α) :=
  (record.find? name).map fun item =>
    (item, ⟨record.elements.eraseP fun (label, _) => label == some name⟩)

def map (function : α → β) (record : Record α) : Record β :=
  ⟨record.elements.map fun (name, item) => (name, function item)⟩

/-- Applies a fallible function from left to right and keeps the names; the
first failure ends the walk. -/
def mapExcept {ε : Type w} (function : α → Except ε β) (record : Record α) :
    Except ε (Record β) := do
  let elements ← record.elements.mapM fun element => do
    return (element.1, ← function element.2)
  return ⟨elements⟩

/-- Whether both records carry the same names, and none, in the same places. -/
def sameNames (left : Record α) (right : Record β) : Bool :=
  left.labels == right.labels

/-- The name by which a computed record lists an element: an element without a
name is listed under the empty name. -/
def listedName (label : Option String) : String :=
  label.getD ""

end Record

end FederatedLearning
