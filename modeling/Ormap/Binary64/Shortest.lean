import Ormap.Binary64
/-!
# Shortest decimals — the fewest digits that read back, always positional

The real numbers that round to a given finite number form an interval around it.  Of the decimals inside it, the one
with the fewest digits is written, of two such the nearer, and of two equally near the larger.  No exponent is ever
written: zeros fill the places up to the point.
-/
namespace Ormap
namespace Binary64

/-- Decimals are counted from this place: `digits * 10 ^ place` stands for that number over `10 ^ origin`.  It lies
below the last place of every finite number, so that all places are natural numbers. -/
def origin : Nat := 1100

/-- A decimal: `digits * 10 ^ place / 10 ^ origin`. -/
structure Decimal where
  digits : Nat
  place : Nat
deriving DecidableEq, Repr

/-- The distance from a number to the upper end of its interval, in quarters of a unit. -/
def quartersAbove (x : Binary64) : Nat := 2 <<< x.shift

/-- The distance to the lower end, in quarters of a unit.  At a power of two the numbers below lie twice as close. -/
def quartersBelow (x : Binary64) : Nat := if x.fraction = 0 ∧ x.shift ≠ 0 then 1 <<< x.shift else 2 <<< x.shift

/-- Four times the number, on the common scale of numbers and decimals. -/
def scaledValue (x : Binary64) : Nat := 4 * x.units * Nat.pow 10 origin

/-- The lower end of the interval, on that scale. -/
def scaledLow (x : Binary64) : Nat := (4 * x.units - x.quartersBelow) * Nat.pow 10 origin

def scaledHigh (x : Binary64) : Nat := (4 * x.units + x.quartersAbove) * Nat.pow 10 origin

/-- One step of the decimal grid at a place, on that scale. -/
def scaledStep (place : Nat) : Nat := (4 <<< 1074) * Nat.pow 10 place

/-- Whether a decimal reads back as the number: it lies in the interval, whose ends belong to it exactly when the
significand is even. -/
def readsBack (x : Binary64) (d : Decimal) : Bool :=
  let t := d.digits * scaledStep d.place
  if x.significand % 2 = 0 then x.scaledLow ≤ t && t ≤ x.scaledHigh else x.scaledLow < t && t < x.scaledHigh

/-- Of the two neighbours of the number on the grid of a place, the one to write, if any reads back. -/
def nearest? (x : Binary64) (place : Nat) : Option Decimal :=
  let below : Decimal := ⟨x.scaledValue / scaledStep place, place⟩
  let above : Decimal := ⟨x.scaledValue / scaledStep place + 1, place⟩
  match x.readsBack below, x.readsBack above with
  | true, true =>
    if 2 * x.scaledValue < (2 * below.digits + 1) * scaledStep place then some below else some above
  | true, false => some below
  | false, true => some above
  | false, false => none

/-- The place just above the leading digit. -/
def topPlace (x : Binary64) : Nat := (Nat.toDigits 10 ((x.units * Nat.pow 10 origin) >>> 1074)).length

/-- The decimal with the fewest digits that reads back; seventeen digits are enough for every number.  The exact value
stands in should none of them do. -/
def shortest (x : Binary64) : Decimal :=
  ((List.range 17).findSome? fun n => x.nearest? (x.topPlace - (n + 1))).getD
    ⟨x.units * Nat.pow 5 1074, origin - 1074⟩

/-- The digits of a decimal without the zeros at their end, with the place of the last of them. -/
def Decimal.stripped (d : Decimal) : List Char × Nat :=
  let cs := Nat.toDigits 10 d.digits
  let kept := (cs.reverse.dropWhile (· == '0')).reverse
  (kept, d.place + (cs.length - kept.length))

/-- Digits laid out around the decimal point, which is left out when nothing follows it. -/
def layout (cs : List Char) (place : Nat) : List Char :=
  if origin ≤ place then cs ++ List.replicate (place - origin) '0'
  else if origin < place + cs.length then
    cs.take (place + cs.length - origin) ++ '.' :: cs.drop (place + cs.length - origin)
  else '0' :: '.' :: List.replicate (origin - (place + cs.length)) '0' ++ cs

/-- The absolute value of a finite number in decimal digits. -/
def magnitudeChars (x : Binary64) : List Char :=
  if x.magnitude = 0 then ['0'] else layout x.shortest.stripped.1 x.shortest.stripped.2

/-- The characters of a finite number: the sign, also of a negative zero, and the digits. -/
def chars (x : Binary64) : List Char := if x.isNegative then '-' :: x.magnitudeChars else x.magnitudeChars

def text (x : Binary64) : String :=
  if x.isNaN then "NaN"
  else if x.isInfinite then (if x.isNegative then "-inf" else "inf")
  else String.ofList x.chars

end Binary64
end Ormap
