/-!
# Universally unique identifiers — thirty-two hexadecimal digits

The written form has five groups with hyphens between them, in lower case.  Four spellings are read: the plain digits,
the written form, the written form between braces, and the written form after `urn:uuid:` in letters of either case.
-/
namespace Ormap

/-- An identifier of 128 bits, as its hexadecimal digits. -/
structure Uuid where
  digits : List (Fin 16)
  length_digits : digits.length = 32
deriving DecidableEq, Repr

namespace Uuid

/-- The lower-case character of a hexadecimal digit. -/
def hexChar (d : Fin 16) : Char := "0123456789abcdef".toList.getD d.val '0'

/-- The value of a hexadecimal digit of either case. -/
def hexValue? (c : Char) : Option (Fin 16) :=
  if '0' ≤ c ∧ c ≤ '9' then some (Fin.ofNat 16 (c.toNat - '0'.toNat))
  else if 'a' ≤ c ∧ c ≤ 'f' then some (Fin.ofNat 16 (c.toNat - 'a'.toNat + 10))
  else if 'A' ≤ c ∧ c ≤ 'F' then some (Fin.ofNat 16 (c.toNat - 'A'.toNat + 10))
  else none

/-- The sizes of the groups. -/
def groups : List Nat := [8, 4, 4, 4, 12]

/-- Characters cut into groups of the given sizes, hyphens between them.  What the groups leave over is dropped. -/
def hyphenate : List Nat → List Char → List Char
  | [], _ => []
  | [n], cs => cs.take n
  | n :: ns, cs => cs.take n ++ '-' :: hyphenate ns (cs.drop n)

/-- Takes the hyphens out again; fails unless they stand exactly between the groups. -/
def unhyphenate? : List Nat → List Char → Option (List Char)
  | [], cs => if cs.isEmpty then some [] else none
  | [n], cs => if cs.length = n then some cs else none
  | n :: ns, cs => match cs.drop n with
    | '-' :: rest => (unhyphenate? ns rest).map (cs.take n ++ ·)
    | _ => none

/-- The written form, as characters. -/
def chars (u : Uuid) : List Char := hyphenate groups (u.digits.map hexChar)

def text (u : Uuid) : String := String.ofList u.chars

/-- Reads thirty-two hexadecimal digits. -/
def ofDigits? (cs : List Char) : Option Uuid :=
  match cs.mapM hexValue? with
  | some ds => if h : ds.length = 32 then some ⟨ds, h⟩ else none
  | none => none

/-- Reads digits with the hyphens in place. -/
def ofGroups? (cs : List Char) : Option Uuid := (unhyphenate? groups cs).bind ofDigits?

/-- The name space that the fourth spelling begins with. -/
def nameSpace : List Char := "urn:uuid:".toList

/-- What follows a lower-case beginning, its letters being of either case. -/
def after? : List Char → List Char → Option (List Char)
  | [], cs => some cs
  | p :: ps, c :: cs => if c.toLower = p then after? ps cs else none
  | _ :: _, [] => none

/-- Reads the digits between braces, after the name space, or alone, hyphens being in place. -/
def ofWrapped? (cs : List Char) : Option Uuid :=
  match after? nameSpace cs, cs with
  | some rest, _ => ofGroups? rest
  | none, '\x7b' :: rest => if rest.getLast? = some '\x7d' then ofGroups? rest.dropLast else none
  | none, _ => ofGroups? cs

/-- Reads any of the four spellings. -/
def ofChars? (cs : List Char) : Option Uuid := if cs.length = 32 then ofDigits? cs else ofWrapped? cs

def ofText? (s : String) : Option Uuid := ofChars? s.toList

end Uuid
end Ormap
