/-!
# Binary64 — stored real numbers, by their bits

A real number of the store is a 64-bit binary floating-point number.  Here it is its bits, and everything asked of it
is exact arithmetic on natural numbers: a finite number is a whole number of units, the unit being the least positive
number, 2^-1074.
-/
namespace Ormap

/-- A binary floating-point number of 64 bits: a sign, eleven exponent bits, fifty-two fraction bits. -/
structure Binary64 where
  bits : UInt64
deriving DecidableEq, Repr, Inhabited

namespace Binary64

/-- The weight of the sign bit, 2^63. -/
def signWeight : Nat := 0x8000000000000000

/-- The number of fractions, 2^52. -/
def fractionCount : Nat := 0x10000000000000

def isNegative (x : Binary64) : Bool := signWeight ≤ x.bits.toNat

/-- The bits without the sign.  On numbers that are not NaN they are ordered as the absolute values. -/
def magnitude (x : Binary64) : Nat := x.bits.toNat % signWeight

/-- The exponent field, from 0 to 2047. -/
def exponent (x : Binary64) : Nat := x.magnitude / fractionCount

def fraction (x : Binary64) : Nat := x.magnitude % fractionCount

/-- Whether the bits stand for a number and no infinity. -/
def isFinite (x : Binary64) : Bool := x.exponent < 2047

def isNaN (x : Binary64) : Bool := x.exponent == 2047 && x.fraction != 0

def isInfinite (x : Binary64) : Bool := x.exponent == 2047 && x.fraction == 0

/-- The one NaN that is handed out, whatever the bits of the one that came in. -/
def nan : Binary64 := ⟨0x7FF8000000000000⟩

/-- The significand of a finite number: the fraction, with a leading one unless the exponent field is zero. -/
def significand (x : Binary64) : Nat := if x.exponent = 0 then x.fraction else fractionCount + x.fraction

/-- The absolute value of a finite number doubles this many times from its significand, counted in units. -/
def shift (x : Binary64) : Nat := x.exponent - 1

/-- The absolute value of a finite number, in units of 2^-1074. -/
def units (x : Binary64) : Nat := x.significand <<< x.shift

/-- A finite number, in units of 2^-1074. -/
def signedUnits (x : Binary64) : Int := if x.isNegative then -(x.units : Int) else x.units

/-- The bits of the largest finite number of the 32-bit format, as a 64-bit number. -/
def maxSingle : Nat := 0x47EFFFFFE0000000

/-- Whether a finite number is too large for the 32-bit format. -/
def exceedsSingle (x : Binary64) : Bool := x.isFinite && maxSingle < x.magnitude

/-- Numbers are equal when they are the same number; the two zeros are, and NaN equals nothing. -/
def equals (x y : Binary64) : Bool :=
  !x.isNaN && !y.isNaN && (x == y || x.magnitude == 0 && y.magnitude == 0)

/-- Differences below this many units round to less than 2^-52, the distance from one to the next number.  The bound
lies halfway between 2^-52 and the number before it, because a difference halfway up rounds to 2^-52. -/
def tolerance : Nat := 1 <<< 1022 - 1 <<< 968

/-- Whether two stored numbers count as one value: both NaN, equal, or finite and closer than the tolerance. -/
def agrees (x y : Binary64) : Bool :=
  x.isNaN && y.isNaN || x.equals y
    || x.isFinite && y.isFinite && (x.signedUnits - y.signedUnits).natAbs < tolerance

end Binary64
end Ormap
