import Ormap.Binary64.Shortest
import Ormap.Timestamp
import Ormap.Uuid
/-!
# Values — what a field or a column holds

Booleans, instants and identifiers occur on the side of the fields only; columns store the first five kinds.
-/
namespace Ormap

/-- A single field or column value. -/
inductive Value where
  | null
  | integer (n : Int64)
  | real (x : Binary64)
  | text (s : String)
  | boolean (b : Bool)
  | blob (bytes : List UInt8)
  | timestamp (t : Timestamp)
  | uuid (u : Uuid)
deriving DecidableEq, Repr

namespace Value

def typeName : Value → String
  | null => "NULL"
  | integer _ => "INTEGER"
  | real _ => "FLOAT"
  | text _ => "TEXT"
  | boolean _ => "BOOLEAN"
  | blob _ => "BLOB"
  | timestamp _ => "TIMESTAMP"
  | uuid _ => "UUID"

def text? : Value → Option String
  | text s => some s
  | _ => none

def isNull : Value → Bool
  | null => true
  | _ => false

/-- Whether two values count as one: equal, or numbers that agree within the tolerance. -/
def agrees : Value → Value → Bool
  | real x, real y => x.agrees y
  | v, w => v == w

/-- A value as messages show it. -/
def display : Value → String
  | null => "NULL"
  | integer n => toString n.toInt
  | real x =>
    if x.isNaN then "NaN"
    else if x.isInfinite then (if x.isNegative then "-Infinity" else "Infinity")
    else x.text
  | text s => s
  | boolean b => if b then "true" else "false"
  | blob bytes => s!"<{bytes.length} bytes>"
  | timestamp t => t.text
  | uuid u => u.text

end Value
end Ormap
