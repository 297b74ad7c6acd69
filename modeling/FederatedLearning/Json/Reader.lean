/-!
# Reading JSON from left to right

A reader consumes a prefix of a text and yields a value.  The first problem met
from left to right decides which fault is reported: the text may end too early,
fail to be JSON, or be JSON of a form that does not suit the value wanted.

This module holds the faults, the small readers for blanks and fixed words, and
the rule that bounds how deeply the read arrays and objects may nest.
-/

namespace FederatedLearning.Json

inductive Fault where
  | ended
  /-- The text is not JSON, or goes on after the value. -/
  | malformed
  /-- The text is JSON but not of the wanted form. -/
  | unsuited
deriving DecidableEq, Repr

/-- A reader takes the remaining text to a value and what is left of the text. -/
abbrev Reader (α : Type) := StateT (List Char) (Except Fault) α

def isBlank (char : Char) : Bool :=
  char == ' ' || char == '\n' || char == '\t' || char == '\r'

/-- Skips blanks and shows the next character without consuming it. -/
def next? : Reader (Option Char) := fun text =>
  let rest := text.dropWhile isBlank
  .ok (rest.head?, rest)

def advance : Reader Unit := fun text =>
  .ok ((), text.tail)

def literal : List Char → Reader Unit
  | [] => pure ()
  | expected :: word => do
      match ← get with
      | [] => throw .ended
      | char :: rest =>
          if char == expected then
            set rest
            literal word
          else throw .malformed

def token (wanted : Char) : Reader Unit := do
  match ← next? with
  | none => throw .ended
  | some char => if char == wanted then advance else throw .malformed

/-- How many arrays and objects may be open at the same time. -/
def maxDepth : Nat := 127

/-- Enters an array or object, which is refused when no further level is left. -/
def descend {α : Type} (depth : Nat)
    (body : (inner : Nat) → inner < depth → Reader α) : Reader α :=
  match depth with
  | 0 => throw .malformed
  | inner + 1 => body inner (Nat.lt_succ_self inner)

/-- Reads a whole text: after the value only blanks may follow. -/
def readAll {α : Type} (reader : Reader α) (text : String) : Except Fault α :=
  match reader text.toList with
  | .error fault => .error fault
  | .ok (value, rest) =>
      if rest.all isBlank then .ok value else .error .malformed

end FederatedLearning.Json
