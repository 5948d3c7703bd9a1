import Ormap.Attribute.Cell
import Ormap.Row
/-!
# Columns — plain, foreign-key and discriminator columns of an entity

A column belongs to the entity whose descriptor declares it; descendants may carry copies.  A foreign-key column names
the column it refers to by its entity and its name, and has that column's declared type.
-/
namespace Ormap

/-- What a foreign-key column refers to. -/
structure ForeignKey where
  /-- The entity that the relationship refers to. -/
  entity : String
  /-- The relationship field that produced the column.  Columns of one field form one foreign key. -/
  relationship : String
  /-- The column referred to. -/
  referenced : String
  onUpdate : ReferentialAction
  onDelete : ReferentialAction
deriving DecidableEq, Repr

inductive Role where
  | simple
  | foreignKey (key : ForeignKey)
  | discriminator (kind : DiscriminatorKind)
deriving DecidableEq, Repr

/-- A mapped column. -/
structure Column where
  name : String
  /-- The field behind the column; none behind a discriminator column of its own. -/
  field : Option String
  /-- The entity whose descriptor declares the column. -/
  declaredBy : String
  /-- Whether this is a copy carried by a descendant. -/
  inherited : Bool := false
  type : Attribute
  nullable : Bool
  unique : Bool
  primaryKey : Bool
  /-- The SQL literal used as the default. -/
  defaultValue : Option String := none
  /-- A raw definition in place of the generated one. -/
  definition : Option String := none
  role : Role := .simple
deriving DecidableEq, Repr

namespace Column

/-- The column of a plain field.  A key column is never nullable. -/
def plain (entity field : String) (type : Attribute) (isKey : Bool) (d : ColumnDescriptor) : Column where
  name := d.name.getD field
  field := some field
  declaredBy := entity
  type := type
  nullable := d.nullable && !isKey
  unique := d.unique
  primaryKey := isKey
  defaultValue := d.defaultValue
  definition := d.definition

/-- A foreign-key column, of the declared type of the column it refers to. -/
def reference (entity name : String) (type : Attribute) (nullable unique : Bool) (key : ForeignKey) : Column where
  name := name
  field := some key.relationship
  declaredBy := entity
  type := type
  nullable := nullable
  unique := unique
  primaryKey := false
  role := .foreignKey key

/-- A discriminator column of its own.  It is never nullable and never a key. -/
def ofDiscriminator (entity : String) (d : DiscriminatorDescriptor) : Column where
  name := d.name
  field := none
  declaredBy := entity
  type := d.kind.type
  nullable := false
  unique := false
  primaryKey := false
  definition := d.definition
  role := .discriminator d.kind

/-- A plain column that takes over the role of the discriminator. -/
def asDiscriminator (c : Column) (kind : DiscriminatorKind) : Column :=
  { c with nullable := false, role := .discriminator kind }

/-- The copy that a descendant carries. -/
def inheritedCopy (c : Column) : Column := { c with inherited := true }

/-- Whether the column takes null.  A key column never does. -/
def acceptsNull (c : Column) : Bool := c.nullable && !c.primaryKey

def foreignKey? (c : Column) : Option ForeignKey :=
  match c.role with
  | .foreignKey key => some key
  | _ => none

def isForeignKey (c : Column) : Bool := c.foreignKey?.isSome

def isDiscriminator (c : Column) : Bool :=
  match c.role with
  | .discriminator _ => true
  | _ => false

/-- The field value in a query row, at an alias level. -/
def read (c : Column) (row : Row) (level : Nat) : Except MarshallingError Value := do
  c.type.load c.name (← row.get c.name level)

/-- Writes a field value into a table row. -/
def write (c : Column) (v : Value) (row : TableRow) : Except MarshallingError TableRow := do
  return row.set c.name (← c.type.store c.name v)

/-- The first name that stands in a list a second time. -/
def firstRepeated (names : List String) : Option String := go [] names
where
  /-- Looks for a name that was seen before. -/
  go (seen : List String) : List String → Option String
    | [] => none
    | n :: ns => if n ∈ seen then some n else go (n :: seen) ns

/-- Refuses a column set of an entity in which two columns have one name. -/
def checkDistinct (entity : String) (columns : List Column) : Except ConfigurationError Unit :=
  match firstRepeated (columns.map (·.name)) with
  | some name => .error (.entity entity (.columnTwice name))
  | none => .ok ()

end Column
end Ormap
