import Ormap.Text.Printable
/-!
# Escaped text — a string as a debugging text shows it

The text stands between double quotes.  Quotes and backslashes take a backslash, four control characters have letters
of their own, and every other character that is not shown as itself is written by its code point.
-/
namespace Ormap
namespace Text

/-- A code point in lower-case hexadecimal digits, between braces. -/
def escapeCode (c : Char) : List Char :=
  ['\\', 'u', '\x7b'] ++ Nat.toDigits 16 c.toNat ++ ['\x7d']

/-- How one character stands in an escaped text. -/
def escapeChar (c : Char) : List Char :=
  if c = '\x00' then ['\\', '0']
  else if c = '\t' then ['\\', 't']
  else if c = '\r' then ['\\', 'r']
  else if c = '\n' then ['\\', 'n']
  else if c = '\\' ∨ c = '"' then ['\\', c]
  else if isShown c then [c]
  else escapeCode c

/-- The escaped text between double quotes. -/
def escaped (s : String) : String := String.ofList ('"' :: s.toList.flatMap escapeChar ++ ['"'])

end Text
end Ormap
