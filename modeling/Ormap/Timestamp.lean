/-!
# Timestamps — instants of universal time, and their texts

An instant is a second counted from the first of January 1970 and a number of nanoseconds.  The nanoseconds reach past
one second inside a leap second, which can only be the last second of a minute.  The calendar is the proleptic Gregorian
one, from the year -262143 to the year 262142.
-/
namespace Ormap

/-- An instant of universal time. -/
structure Timestamp where
  seconds : Int
  nanos : Nat
  seconds_bounds : -8334601228800 ≤ seconds ∧ seconds ≤ 8210266876799
  nanos_bound : nanos < 1000000000 ∨ nanos < 2000000000 ∧ seconds % 60 = 59
deriving DecidableEq, Repr

namespace Timestamp

/-- The instant of a second and its nanoseconds, if there is one. -/
def ofParts? (seconds : Int) (nanos : Nat) : Option Timestamp :=
  if h : (-8334601228800 ≤ seconds ∧ seconds ≤ 8210266876799) ∧
      (nanos < 1000000000 ∨ nanos < 2000000000 ∧ seconds % 60 = 59) then
    some ⟨seconds, nanos, h.1, h.2⟩
  else none

/-- The instant of a number of milliseconds, if there is one.  It never lies in a leap second. -/
def ofMillis? (millis : Int) : Option Timestamp := ofParts? (millis / 1000) ((millis % 1000).toNat * 1000000)

/-- The number of milliseconds, rounded down; a leap second counts on into the next second. -/
def millis (t : Timestamp) : Int := t.seconds * 1000 + (t.nanos / 1000000 : Nat)

/-- Whether the instant is a whole number of milliseconds. -/
def isWholeMillis (t : Timestamp) : Bool := t.nanos % 1000000 == 0

structure Date where
  year : Int
  month : Nat
  day : Nat
deriving DecidableEq, Repr

/-- The date of a day counted from the first of January 1970.  Years are counted from March, so that the leap day is the
last of its year, in cycles of 400 years or 146097 days. -/
def Date.ofDay (n : Int) : Date :=
  let shifted := n + 719468
  let cycle := shifted / 146097
  let dayOfCycle := (shifted % 146097).toNat
  let yearOfCycle := (dayOfCycle - dayOfCycle / 1460 + dayOfCycle / 36524 - dayOfCycle / 146096) / 365
  let dayOfYear := dayOfCycle - (365 * yearOfCycle + yearOfCycle / 4 - yearOfCycle / 100)
  let monthFromMarch := (5 * dayOfYear + 2) / 153
  let month := if monthFromMarch < 10 then monthFromMarch + 3 else monthFromMarch - 9
  { year := cycle * 400 + yearOfCycle + (if month ≤ 2 then 1 else 0)
    month := month
    day := dayOfYear - (153 * monthFromMarch + 2) / 5 + 1 }

/-- A number in at least `width` digits, zeros in front. -/
def padded (width n : Nat) : List Char :=
  let cs := Nat.toDigits 10 n
  List.replicate (width - cs.length) '0' ++ cs

/-- A year in at least four digits, with a sign when it is before 0 or after 9999. -/
def yearChars (y : Int) : List Char :=
  if 0 ≤ y ∧ y ≤ 9999 then padded 4 y.toNat
  else (if y < 0 then '-' else '+') :: padded 4 y.natAbs

/-- Year, month and day with hyphens. -/
def Date.chars (d : Date) : List Char := yearChars d.year ++ '-' :: padded 2 d.month ++ '-' :: padded 2 d.day

/-- The fraction of a second in nanoseconds: nothing, or three, six or nine digits, as few as are exact. -/
def fractionChars (nanos : Nat) : List Char :=
  if nanos = 0 then []
  else if nanos % 1000000 = 0 then '.' :: padded 3 (nanos / 1000000)
  else if nanos % 1000 = 0 then '.' :: padded 6 (nanos / 1000)
  else '.' :: padded 9 nanos

def date (t : Timestamp) : Date := Date.ofDay (t.seconds / 86400)

/-- Hours, minutes and seconds with colons, and the fraction.  A leap second is the second number sixty. -/
def timeChars (t : Timestamp) : List Char :=
  let s := (t.seconds % 86400).toNat
  let leap := t.nanos / 1000000000
  padded 2 (s / 3600) ++ ':' :: padded 2 (s / 60 % 60) ++ ':' :: padded 2 (s % 60 + leap)
    ++ fractionChars (t.nanos % 1000000000)

/-- Date and time with a `T` between them and the offset of universal time. -/
def text (t : Timestamp) : String := String.ofList (t.date.chars ++ 'T' :: t.timeChars) ++ "+00:00"

/-- Date and time with a blank between them and the name of universal time. -/
def prose (t : Timestamp) : String := String.ofList (t.date.chars ++ ' ' :: t.timeChars) ++ " UTC"

end Timestamp
end Ormap
