import FederatedLearning.Json.Reader

/-!
# JSON numbers

A number is scanned into its sign, its digits, and its optional fraction and
exponent.  Whole numbers are read exactly; a number whose magnitude exceeds all
finite doubles is refused even where no number is wanted.
-/

namespace FederatedLearning.Json

structure Numeral where
  negative : Bool
  whole : List Char
  fraction : Option (List Char)
  exponent : Option (Bool × List Char)
deriving DecidableEq, Repr

def digitValue (digit : Char) : Nat :=
  digit.toNat - '0'.toNat

def digits : Reader (List Char) := fun text =>
  .ok (text.takeWhile Char.isDigit, text.dropWhile Char.isDigit)

/-- Consumes at least one digit; `cut` is the fault when the text ends instead. -/
def someDigits (cut : Fault) : Reader (List Char) := do
  match ← get with
  | [] => throw cut
  | char :: _ => if char.isDigit then digits else throw .malformed

/-- The digits before the point: a leading zero stands alone. -/
def wholeDigits (cut : Fault) : Reader (List Char) := do
  let run ← someDigits cut
  match run with
  | '0' :: _ :: _ => throw .malformed
  | run => return run

def fractionDigits (cut : Fault) : Reader (Option (List Char)) := do
  match ← get with
  | '.' :: rest =>
      set rest
      return some (← someDigits cut)
  | _ => return none

def exponentDigits (cut : Fault) : Reader (Option (Bool × List Char)) := do
  match ← get with
  | 'e' :: rest | 'E' :: rest =>
      match rest with
      | '-' :: rest =>
          set rest
          return some (true, ← someDigits cut)
      | '+' :: rest =>
          set rest
          return some (false, ← someDigits cut)
      | rest =>
          set rest
          return some (false, ← someDigits cut)
  | _ => return none

def scanNumeral (cut : Fault) : Reader Numeral := do
  let negative ← match ← get with
    | '-' :: rest => set rest; pure true
    | _ => pure false
  let whole ← wholeDigits cut
  let fraction ← fractionDigits cut
  let exponent ← exponentDigits cut
  return ⟨negative, whole, fraction, exponent⟩

namespace Numeral

/-- Appends digits to a significand as long as it fits a word of 64 bits, and counts the
digits that no longer do. -/
def extend : Nat → List Char → Nat × Nat
  | significand, [] => (significand, 0)
  | significand, digit :: rest =>
      let longer := significand * 10 + digitValue digit
      if longer < UInt64.size then extend longer rest
      else (significand, rest.length + 1)

def writtenExponent (numeral : Numeral) : Int :=
  match numeral.exponent with
  | none => 0
  | some (false, digits) => Nat.ofDigitChars 10 digits 0
  | some (true, digits) => -(Nat.ofDigitChars 10 digits 0 : Int)

/-- Whether the magnitude exceeds all finite doubles. -/
def isHuge (numeral : Numeral) : Bool :=
  let (significand, dropped) := extend 0 numeral.whole
  let fraction := numeral.fraction.getD []
  let (significand, unread) := extend significand fraction
  let power := dropped - (fraction.length - unread : Nat) + numeral.writtenExponent
  significand != 0 && 0 < power &&
    (308 < power ||
      (Float.ofNat significand * Float.ofScientific 1 false power.toNat).isInf)

/-- The integer a number denotes, if it is written without fraction and
exponent.  A negative zero is not an integer. -/
def integer? (numeral : Numeral) : Option Int :=
  match numeral.fraction, numeral.exponent with
  | none, none =>
      let magnitude := Nat.ofDigitChars 10 numeral.whole 0
      if numeral.negative then
        if magnitude == 0 then none else some (-(magnitude : Int))
      else some magnitude
  | _, _ => none

end Numeral

/-- Reads a number where one is wanted or rejected for its form; the text may
not end inside it and it may not be huge. -/
def numeral : Reader Numeral := do
  let numeral ← scanNumeral .ended
  if numeral.isHuge then throw .malformed else return numeral

end FederatedLearning.Json
