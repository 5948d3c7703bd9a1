import Ormap.Cells
import Ormap.Error
import Ormap.Naming
/-!
# Rows and records — an object in tables, in a query row, and by its fields

An object has one row for each table that stores a part of it.  A query over its hierarchy joins them into one row, in
which the level of the table is part of every label, so that columns of different tables cannot collide.
-/
namespace Ormap

/-- The cells that go into one table. -/
structure TableRow where
  /-- The entity that owns the table. -/
  entity : String
  table : String
  /-- The alias level of the table in a query over the whole hierarchy. -/
  level : Nat
  cells : Cells Value := []
deriving DecidableEq, Repr

namespace TableRow

/-- Sets a column, in place of an earlier cell of the same column. -/
def set (r : TableRow) (column : String) (v : Value) : TableRow := { r with cells := Cells.set column v r.cells }

def get? (r : TableRow) (column : String) : Option Value := Cells.get? column r.cells

def columns (r : TableRow) : List String := Cells.names r.cells

end TableRow

/-- A row of a query, by label. -/
structure Row where
  cells : Cells Value := []
deriving DecidableEq, Repr

namespace Row

def setLabel (r : Row) (label : String) (v : Value) : Row := { r with cells := Cells.set label v r.cells }

def set (r : Row) (column : String) (level : Nat) (v : Value) : Row := r.setLabel (Naming.columnLabel column level) v

/-- The cell of a column at a level. -/
def get (r : Row) (column : String) (level : Nat) : Except MarshallingError Value :=
  match Cells.get? (Naming.columnLabel column level) r.cells with
  | some v => .ok v
  | none => .error (.noLabel (Naming.columnLabel column level))

/-- The labels, in increasing order. -/
def labels (r : Row) : List String := (Cells.names r.cells).mergeSort fun a b => decide (a ≤ b)

def size (r : Row) : Nat := r.cells.length

/-- Adds the cells of a table row at its level. -/
def addTableRow (r : Row) (t : TableRow) : Row := t.cells.foldl (fun acc p => acc.set p.1 t.level p.2) r

/-- The row of a query that joins the given table rows. -/
def ofTableRows (rows : List TableRow) : Row := rows.foldl addTableRow {}

end Row

/-- A reference from an object to an instance of another entity. -/
structure Reference where
  /-- The type name of the instance. -/
  target : String
  /-- The values of the columns referred to; none while the instance is not stored. -/
  key : Option (Cells Value) := none
deriving DecidableEq, Repr

namespace Reference

/-- Whether two references name the same target and keys that agree. -/
def agrees (a b : Reference) : Bool :=
  a.target == b.target && match a.key, b.key with
    | some x, some y => Cells.agree Value.agrees x y
    | none, none => true
    | _, _ => false

end Reference

/-- An object by its fields, with the name of its most specific type. -/
structure Record where
  typeName : String
  values : Cells Value := []
  references : Cells Reference := []
deriving DecidableEq, Repr

namespace Record

/-- The value of a field; null for a field that the record lacks. -/
def get (r : Record) (field : String) : Value := (Cells.get? field r.values).getD .null

def set (r : Record) (field : String) (v : Value) : Record := { r with values := Cells.set field v r.values }

/-- Takes the value of a field out of the record. -/
def take (r : Record) (field : String) : Value × Record :=
  (r.get field, { r with values := Cells.erase field r.values })

def setReference (r : Record) (field : String) (ref : Reference) : Record :=
  { r with references := Cells.set field ref r.references }

/-- Whether two records name the same type and give the same fields values and references that agree. -/
def agrees (a b : Record) : Bool :=
  a.typeName == b.typeName && Cells.agree Value.agrees a.values b.values
    && Cells.agree Reference.agrees a.references b.references

end Record
end Ormap
