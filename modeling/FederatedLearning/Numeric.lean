/-!
# Single precision arithmetic

Every step in single precision rounds, so that the order of the steps and the places
where they round are fixed.  A long list of numbers is summed in eight lanes that each
take every eighth number; the lanes are then combined in pairs, and the numbers left
over are added at the end.  Fewer than eight numbers are summed from left to right.

`fusedMultiplyAdd x y z` is `x * y + z` with one rounding: the product and the sum of
finite numbers are formed exactly, as an integer times a power of two, and only the
result is rounded.
-/

namespace FederatedLearning.Numeric

/-! ## Sums over eight lanes -/

/-- Eight running sums. -/
structure Lanes where
  lane0 : Float32
  lane1 : Float32
  lane2 : Float32
  lane3 : Float32
  lane4 : Float32
  lane5 : Float32
  lane6 : Float32
  lane7 : Float32

namespace Lanes

def zero : Lanes := ⟨0, 0, 0, 0, 0, 0, 0, 0⟩

/-- Combines the lanes in pairs. -/
def total (lanes : Lanes) : Float32 :=
  0 + (lanes.lane0 + lanes.lane4) + (lanes.lane1 + lanes.lane5) +
    (lanes.lane2 + lanes.lane6) + (lanes.lane3 + lanes.lane7)

/-- Takes groups of eight numbers into the lanes and adds the rest to their
total, one by one. -/
def addAll : Lanes → List Float32 → Float32
  | lanes, x0 :: x1 :: x2 :: x3 :: x4 :: x5 :: x6 :: x7 :: rest =>
      addAll
        ⟨lanes.lane0 + x0, lanes.lane1 + x1, lanes.lane2 + x2, lanes.lane3 + x3,
          lanes.lane4 + x4, lanes.lane5 + x5, lanes.lane6 + x6, lanes.lane7 + x7⟩ rest
  | lanes, rest => rest.foldl (· + ·) lanes.total

end Lanes

def laneSum (numbers : List Float32) : Float32 :=
  Lanes.zero.addAll numbers

def single (number : Nat) : Float32 :=
  number.toUInt64.toFloat32

/-- The mean of single precision numbers; there is none of no numbers. -/
def mean? (numbers : List Float32) : Option Float32 :=
  if numbers.isEmpty then none else some (laneSum numbers / single numbers.length)

/-! ## Fused multiply-add -/

section

open Float.Model (Format UnpackedFloat)
open Float.Model.UnpackedFloat (decreaseExponent normalize)

/-- The value of `x * y + z`, rounded once, where `x` and `y` are finite and not
zero and `z` is a number.  A zero that arises by cancellation is positive, and a
product that is too small for the format keeps its sign beside a zero. -/
def fusedUnpacked : UnpackedFloat → UnpackedFloat → UnpackedFloat → Option UnpackedFloat
  | .finite sign mantissa exponent _, .finite sign' mantissa' exponent' _,
      .finite sign'' mantissa'' exponent'' _ =>
      let common := min (exponent + exponent') exponent''
      let product := (decreaseExponent (mantissa * mantissa') (exponent + exponent') common).1
      let addend := (decreaseExponent mantissa'' exponent'' common).1
      some (normalize .binary32 ((sign * sign').apply product + sign''.apply addend)
        common .positive)
  | x@(.finite ..), y@(.finite ..), .zero _ => some (x.mul .binary32 y)
  | .finite .., .finite .., .infinity sign => some (.infinity sign)
  | _, _, _ => none

/-- The product of the first two numbers plus the third, rounded once.  Where
`fusedUnpacked` is silent, the product is exact or not finite, so that the plain
operations round no more often. -/
def fusedMultiplyAdd (x y z : Float32) : Float32 :=
  match fusedUnpacked x.toModel.unpack y.toModel.unpack z.toModel.unpack with
  | some result => .ofModel (.pack result)
  | none => x * y + z

end

end FederatedLearning.Numeric
