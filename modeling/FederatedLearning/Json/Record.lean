import FederatedLearning.Record
import FederatedLearning.Json.Form

/-!
# Records as JSON

A record is written as an object whose field `elements` lists pairs of a name,
or `null`, and an element.
-/

namespace FederatedLearning.Record

open Json

variable {α : Type}

/-- Reads a name or `null`, and then an element. -/
def readElement (depth : Nat) (item : (inner : Nat) → inner < depth → Reader α) :
    Reader (Option String × α) :=
  array depth fun inner smaller => do
    if ← another true then
      let name ← optional string
      if ← another false then
        return (name, ← item inner smaller)
      else throw .unsuited
    else throw .unsuited

/-- The only field of a serialized record. -/
def elementsField (depth : Nat) (item : (inner : Nat) → inner < depth → Reader α) :
    FieldReader (Option (List (Option String × α))) where
  name := "elements"
  read _ := do
    let elements ← array depth fun inner smaller =>
      Json.elements (readElement inner fun deeper below => item deeper (by omega))
    return some elements

/-- Reads a record from its JSON form, given a reader of its elements. -/
def read (depth : Nat) (item : (inner : Nat) → inner < depth → Reader α) :
    Reader (Record α) := do
  let known ← group depth none fun inner smaller =>
    ⟨[elementsField inner fun deeper below => item deeper (by omega)], true⟩
  match known with
  | some elements => return ⟨elements⟩
  | none => throw .unsuited

def labelJson : Option String → List Char
  | none => "null".toList
  | some name => quoted name

def json (record : Record (List Char)) : List Char :=
  "\x7b\"elements\":[".toList ++
    List.intercalate [','] (record.elements.map fun element =>
      '[' :: (labelJson element.1 ++ ',' :: (element.2 ++ [']']))) ++
    "]\x7d".toList

end FederatedLearning.Record
