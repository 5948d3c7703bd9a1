/-!
# JSON documents — values, and readers of records and variants

A record is read from an object by the names of its fields, or from an array by their order.  Fields that nothing asks
for are passed over.  A variant is read from its name, or from an object with that name alone and what the variant
carries.
-/
namespace Ormap

/-- A JSON document.  A number is whole, or has a decimal fraction of `scale` places. -/
inductive Json where
  | null
  | bool (b : Bool)
  | int (n : Int)
  | real (mantissa : Int) (scale : Nat)
  | str (s : String)
  | arr (items : List Json)
  | obj (fields : List (String × Json))
deriving Repr, Inhabited

namespace Json

/-- The value of the first member of a name. -/
def member? (name : String) : List (String × Json) → Option Json
  | [] => none
  | (n, j) :: rest => if n = name then some j else member? name rest

def bool? : Json → Option Bool
  | bool b => some b
  | _ => none

def string? : Json → Option String
  | str s => some s
  | _ => none

/-- Reads a whole number of 32 bits without sign. -/
def word32? : Json → Option UInt32
  | int n => if 0 ≤ n ∧ n < UInt32.size then some (UInt32.ofNat n.toNat) else none
  | _ => none

/-- Reads a whole number of 64 bits without sign. -/
def word64? : Json → Option UInt64
  | int n => if 0 ≤ n ∧ n < UInt64.size then some (UInt64.ofNat n.toNat) else none
  | _ => none

/-- Reads every item of a list. -/
def items? (read : Json → Option α) : List Json → Option (List α)
  | [] => some []
  | j :: js => match read j, items? read js with
    | some x, some xs => some (x :: xs)
    | _, _ => none

def list? (read : Json → Option α) : Json → Option (List α)
  | arr js => items? read js
  | _ => none

/-- Reads something that may be null. -/
def nullable? (read : Json → Option α) : Json → Option (Option α)
  | null => some none
  | j => (read j).map some

/-- The named fields of a record: those of an object, or the items of an array in the order of the names. -/
def record? (names : List String) : Json → Option (List (String × Json))
  | obj fields => some fields
  | arr js => if js.length ≤ names.length then some (names.zip js) else none
  | _ => none

/-- Reads a field that has to be there. -/
def required (fields : List (String × Json)) (name : String) (read : Json → Option α) : Option α :=
  (member? name fields).bind read

/-- Reads a field that has a default. -/
def defaulted (fields : List (String × Json)) (name : String) (default : α) (read : Json → Option α) : Option α :=
  match member? name fields with
  | some j => read j
  | none => some default

/-- Reads a field that may be missing or null. -/
def optional (fields : List (String × Json)) (name : String) (read : Json → Option α) : Option (Option α) :=
  defaulted fields name none (nullable? read)

/-- The name of a variant and what it carries. -/
def variant? : Json → Option (String × Option Json)
  | str s => some (s, none)
  | obj [(name, j)] => some (name, some j)
  | _ => none

/-- Reads the name of a variant that carries nothing; null counts as nothing. -/
def unitVariant? (j : Json) : Option String :=
  match variant? j with
  | some (name, none) => some name
  | some (name, some null) => some name
  | _ => none

/-- Reads one of several values, each written as its name. -/
def named? (values : List α) (nameOf : α → String) (j : Json) : Option α :=
  (unitVariant? j).bind fun name => values.find? (nameOf · == name)

/-- Writes something that may be missing. -/
def ofOption (write : α → Json) : Option α → Json
  | some x => write x
  | none => null

def ofList (write : α → Json) (xs : List α) : Json := arr (xs.map write)

end Json
end Ormap
