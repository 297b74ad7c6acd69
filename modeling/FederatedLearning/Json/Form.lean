import FederatedLearning.Json.Numeral
import FederatedLearning.Json.Text

/-!
# Readers for the forms a value can take

Whole numbers, flags, optional values, words of a fixed vocabulary, arrays, and
groups of named fields.  Where the next value is of another form it is still
read as far as a wrong value has to be, so that a text that ends or breaks
inside it is reported as such.
-/

namespace FederatedLearning.Json

/-- Rejects the value that comes next for its form, unless the text ends or
breaks inside it. -/
def mismatch {α : Type} : Reader α := do
  match ← next? with
  | none => throw .ended
  | some 'n' => literal "null".toList
  | some 't' => literal "true".toList
  | some 'f' => literal "false".toList
  | some '"' => do
      advance
      discard stringBody
  | some '[' => pure ()
  | some '\x7b' => pure ()
  | some char =>
      if char == '-' || char.isDigit then discard numeral else throw .malformed
  throw .unsuited

def string : Reader String := do
  match ← next? with
  | some '"' =>
      advance
      stringBody
  | _ => mismatch

def integer : Reader Int := do
  match ← next? with
  | some char =>
      if char == '-' || char.isDigit then
        match (← numeral).integer? with
        | some value => return value
        | none => throw .unsuited
      else mismatch
  | none => throw .ended

def integer64 : Reader Int := do
  let value ← integer
  if Int64.minValue.toInt ≤ value ∧ value ≤ Int64.maxValue.toInt then return value
  else throw .unsuited

def natural64 : Reader Nat := do
  match ← integer with
  | .ofNat value => if value < UInt64.size then return value else throw .unsuited
  | .negSucc _ => throw .unsuited

def flag : Reader Bool := do
  match ← next? with
  | some 't' =>
      literal "true".toList
      return true
  | some 'f' =>
      literal "false".toList
      return false
  | _ => mismatch

/-- Reads `null` as nothing and anything else with the given reader. -/
def optional {α : Type} (reader : Reader α) : Reader (Option α) := do
  match ← next? with
  | some 'n' =>
      literal "null".toList
      return none
  | _ => return some (← reader)

def null : Reader Unit := do
  match ← next? with
  | some 'n' => literal "null".toList
  | _ => mismatch

/-- Whether another element of an array follows; its comma is consumed. -/
def another (first : Bool) : Reader Bool := do
  match ← next? with
  | none => throw .ended
  | some ']' => return false
  | some char =>
      if first then return true
      else if char == ',' then
        advance
        match ← next? with
        | none => throw .ended
        | some ']' => throw .malformed
        | some _ => return true
      else throw .malformed

/-- Whether another key of an object follows; its comma is consumed. -/
def anotherKey (first : Bool) : Reader Bool := do
  match ← next? with
  | none => throw .ended
  | some '\x7d' => return false
  | some char =>
      if first then
        if char == '"' then return true else throw .malformed
      else if char == ',' then
        advance
        match ← next? with
        | none => throw .ended
        | some '"' => return true
        | some _ => throw .malformed
      else throw .malformed

def array {α : Type} (depth : Nat)
    (body : (inner : Nat) → inner < depth → Reader α) : Reader α := do
  match ← next? with
  | some '[' =>
      descend depth fun inner smaller => do
        advance
        let value ← body inner smaller
        token ']'
        return value
  | _ => mismatch

/-- Reads elements until the array ends.  Every element takes a character, so
the length of the text bounds their number. -/
def elementsWithin {α : Type} (item : Reader α) : Nat → Bool → Reader (List α)
  | 0, _ => throw .ended
  | bound + 1, first => do
      if ← another first then
        let head ← item
        return head :: (← elementsWithin item bound false)
      else return []

def elements {α : Type} (item : Reader α) : Reader (List α) := do
  elementsWithin item ((← get).length + 1) true

mutual

/-- Skips a value that nobody reads; only its grammar is checked.  The bound
limits the recursion and is never reached. -/
def skipWithin : Nat → Reader Unit
  | 0 => throw .ended
  | bound + 1 => do
      match ← next? with
      | none => throw .ended
      | some 'n' => literal "null".toList
      | some 't' => literal "true".toList
      | some 'f' => literal "false".toList
      | some '"' =>
          advance
          skipString
      | some '[' =>
          advance
          skipElements bound true
      | some '\x7b' =>
          advance
          skipMembers bound true
      | some char =>
          if char == '-' || char.isDigit then discard (scanNumeral .malformed)
          else throw .malformed

def skipElements : Nat → Bool → Reader Unit
  | 0, _ => throw .ended
  | bound + 1, first => do
      if ← another first then
        skipWithin bound
        skipElements bound false
      else advance

def skipMembers : Nat → Bool → Reader Unit
  | 0, _ => throw .ended
  | bound + 1, first => do
      if ← anotherKey first then
        advance
        skipString
        token ':'
        skipWithin bound
        skipMembers bound false
      else advance

end

/-- Skips one value.  Two steps are taken for every character at most. -/
def skip : Reader Unit := do
  skipWithin (2 * (← get).length + 2)

/-- A field of a group: its name, and how its value is read into what is known
of the group so far. -/
structure FieldReader (σ : Type) where
  name : String
  read : σ → Reader σ

structure Layout (σ : Type) where
  fields : List (FieldReader σ)
  skipsUnknown : Bool

/-- Reads the fields of a group from an array, in order; it may end early. -/
def fieldsInOrder {σ : Type} : List (FieldReader σ) → Bool → σ → Reader σ
  | [], _, known => return known
  | field :: fields, first, known => do
      if ← another first then
        fieldsInOrder fields false (← field.read known)
      else return known

/-- Reads the fields of a group from the members of an object.  A field may not
be given twice, which is noticed at its second key. -/
def fieldsByName {σ : Type} (layout : Layout σ) :
    Nat → Bool → List String → σ → Reader σ
  | 0, _, _, _ => throw .ended
  | bound + 1, first, seen, known => do
      if ← anotherKey first then
        advance
        let key ← stringBody
        match layout.fields.find? (·.name == key) with
        | some field =>
            if seen.contains key then throw .unsuited
            token ':'
            let known ← field.read known
            fieldsByName layout bound false (key :: seen) known
        | none =>
            if layout.skipsUnknown then
              token ':'
              skip
              fieldsByName layout bound false seen known
            else throw .unsuited
      else return known

/-- Reads a group of fields from an object, or from an array in their order. -/
def group {σ : Type} (depth : Nat) (start : σ)
    (layout : (inner : Nat) → inner < depth → Layout σ) : Reader σ := do
  match ← next? with
  | some '[' =>
      descend depth fun inner smaller => do
        advance
        let known ← fieldsInOrder (layout inner smaller).fields true start
        token ']'
        return known
  | some '\x7b' =>
      descend depth fun inner smaller => do
        advance
        let bound := (← get).length + 1
        let known ← fieldsByName (layout inner smaller) bound true [] start
        token '\x7d'
        return known
  | _ => mismatch

/-- Reads a word of a fixed vocabulary: the word itself, or an object whose only
key it is and whose value is `null`. -/
def word {α : Type} (depth : Nat) (meaning? : String → Option α) : Reader α := do
  match ← next? with
  | none => throw .ended
  | some '"' => do
      advance
      match meaning? (← stringBody) with
      | some meaning => return meaning
      | none => throw .unsuited
  | some '\x7b' =>
      descend depth fun _ _ => do
        advance
        match meaning? (← string) with
        | none => throw .unsuited
        | some meaning =>
            token ':'
            null
            token '\x7d'
            return meaning
  | some _ => throw .malformed

/-- Reads an object with exactly one key, which says how its value is read. -/
def variant {α : Type} (depth : Nat)
    (body : (inner : Nat) → inner < depth → String → Option (Reader α)) : Reader α := do
  match ← next? with
  | none => throw .ended
  | some '"' => do
      advance
      discard stringBody
      throw .unsuited
  | some '\x7b' =>
      descend depth fun inner smaller => do
        advance
        match body inner smaller (← string) with
        | none => throw .unsuited
        | some reader =>
            token ':'
            let value ← reader
            token '\x7d'
            return value
  | some _ => throw .malformed

end FederatedLearning.Json
