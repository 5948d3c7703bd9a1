import Ormap.Error
/-!
# Cells — field values lowered to column cells, and lifted back

Nothing is coerced silently: a value that does not fit the declared type is refused.  A missing value fits every type.
-/
namespace Ormap
namespace Attribute

/-- Whether the type holds whole numbers, and this one lies in its range. -/
def holdsInteger (type : Attribute) (n : Int64) : Bool :=
  match type.width? with
  | some width => fits width n.toInt
  | none => false

/-- A whole number for a column of a whole-number type. -/
def integerCell (type : Attribute) (column : String) (n : Int64) : Except MarshallingError Value :=
  if type.holdsInteger n then .ok (.integer n) else .error (.outOfRange column type n)

/-- A text for a column that holds only some texts. -/
def textCell (type : Attribute) (column : String) (accepted : Bool) (s : String) : Except MarshallingError Value :=
  if accepted then .ok (.text s) else .error (.mismatch column type (.text s))

def instantOfMillis (column : String) (millis : Int64) : Except MarshallingError Value :=
  match Timestamp.ofMillis? millis.toInt with
  | some t => .ok (.timestamp t)
  | none => .error (.noInstant column millis)

def uuidOfText (column s : String) : Except MarshallingError Value :=
  match Uuid.ofText? s with
  | some u => .ok (.uuid u)
  | none => .error (.noUuid column)

/-- Lowers a field value to the cell that its column stores. -/
def store (type : Attribute) (column : String) (value : Value) : Except MarshallingError Value :=
  match type, value with
  | _, .null => .ok .null
  | byte, .integer n | short, .integer n | integer, .integer n | long, .integer n => type.integerCell column n
  | float, .real x => if x.exceedsSingle then .error (.mismatch column type value) else .ok value
  | double, .real _ => .ok value
  | boolean, .boolean b => .ok (.integer (if b then 1 else 0))
  | char, .text s => type.textCell column (s.length == 1) s
  | string, .text _ => .ok value
  | bytes, .blob _ => .ok value
  | date, .timestamp t =>
    if t.isWholeMillis then .ok (.integer (Int64.ofInt t.millis)) else .error (.finerThanMillis column t)
  | uuid, .uuid u => .ok (.text u.text)
  | choice variants, .text s => type.textCell column (variants.contains s) s
  | _, _ => .error (.mismatch column type value)

/-- Lifts a stored cell back to the field value. -/
def load (type : Attribute) (column : String) (cell : Value) : Except MarshallingError Value :=
  match type, cell with
  | _, .null => .ok .null
  | byte, .integer n | short, .integer n | integer, .integer n | long, .integer n => type.integerCell column n
  | float, .real _ | double, .real _ => .ok cell
  | boolean, .integer n =>
    if n = 0 then .ok (.boolean false)
    else if n = 1 then .ok (.boolean true)
    else .error (.mismatch column type cell)
  | char, .text s => type.textCell column (s.length == 1) s
  | string, .text _ => .ok cell
  | bytes, .blob _ => .ok cell
  | date, .integer millis => instantOfMillis column millis
  | uuid, .text s => uuidOfText column s
  | choice variants, .text s => type.textCell column (variants.contains s) s
  | _, _ => .error (.mismatch column type cell)

end Attribute
end Ormap
