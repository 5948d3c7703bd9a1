/-!
# Numerals — decimal digits read as numbers

The digits are the ten ASCII ones.  A sign may stand in front: both signs before an integer, `+` alone before a
natural number.  There are no separators and no blanks, and at least one digit is required.
-/
namespace Ormap
namespace Text

/-- The value of an ASCII digit. -/
def digit? (c : Char) : Option Nat :=
  if '0' ≤ c ∧ c ≤ '9' then some (c.toNat - '0'.toNat) else none

/-- Reads digits from the left onto the number `acc`. -/
def digitsFrom (acc : Nat) : List Char → Option Nat
  | [] => some acc
  | c :: cs => match digit? c with
    | some d => digitsFrom (10 * acc + d) cs
    | none => none

/-- Reads one or more digits. -/
def digits? : List Char → Option Nat
  | [] => none
  | cs => digitsFrom 0 cs

/-- Reads a natural number, with an optional `+` in front. -/
def natural? : List Char → Option Nat
  | '+' :: cs => digits? cs
  | cs => digits? cs

/-- Reads an integer, with an optional sign in front. -/
def integer? : List Char → Option Int
  | '+' :: cs => (digits? cs).map Int.ofNat
  | '-' :: cs => (digits? cs).map fun n => -Int.ofNat n
  | cs => (digits? cs).map Int.ofNat

end Text
end Ormap
