import Ormap.Error
import Ormap.Text.Quoted
/-!
# Literals — values as statements write them

NaN and the infinities have no literal.  Every literal of a real number has a point.
-/
namespace Ormap
namespace Literal

/-- An upper-case hexadecimal digit. -/
def hexDigit (n : Nat) : Char := "0123456789ABCDEF".toList.getD n '0'

/-- The two hexadecimal digits of a byte. -/
def hexByte (b : UInt8) : List Char := [hexDigit (b.toNat / 16), hexDigit (b.toNat % 16)]

/-- The digits of a finite real number, with a point. -/
def realChars (x : Binary64) : List Char := if x.chars.contains '.' then x.chars else x.chars ++ ['.', '0']

def quoteText (s : String) : String := Text.quoted '\'' s

def ofValue : Value → Except MarshallingError String
  | .null => .ok "NULL"
  | .integer n => .ok (toString n.toInt)
  | .real x => if x.isFinite then .ok (String.ofList (realChars x)) else .error (.noLiteral x)
  | .text s => .ok (quoteText s)
  | .boolean b => .ok (if b then "1" else "0")
  | .blob bytes => .ok ("X'" ++ String.ofList (bytes.flatMap hexByte) ++ "'")
  | .timestamp t => .ok (toString t.millis)
  | .uuid u => .ok ("'" ++ u.text ++ "'")

/-- The literals of several values, or the error of the first that has none. -/
def ofValues : List Value → Except MarshallingError (List String)
  | [] => .ok []
  | v :: vs => do
    let l ← ofValue v
    let ls ← ofValues vs
    return l :: ls

/-- Literals as statements list them. -/
def list (literals : List String) : String := ", ".intercalate literals

end Literal
end Ormap
