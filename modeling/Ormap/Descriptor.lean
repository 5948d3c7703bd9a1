import Ormap.Attribute
/-!
# Descriptors — what is declared about a domain type

Descriptors are plain data: built by hand, or read from their JSON form.  Resolution reads them and never changes them.
The functions named for a declaration return the descriptor with that declaration added.
-/
namespace Ormap

/-- What a plain field declares about its column. -/
structure ColumnDescriptor where
  /-- The column name; the field name when absent. -/
  name : Option String := none
  nullable : Bool := true
  unique : Bool := false
  /-- The SQL literal used as the column default. -/
  defaultValue : Option String := none
  /-- A raw column definition in place of the generated one. -/
  definition : Option String := none
deriving DecidableEq, Repr

/-- One foreign-key column of a relationship or of a join table. -/
structure JoinColumnDescriptor where
  name : Option String := none
  /-- The column referred to; the only key column of the target when absent. -/
  referencedColumn : Option String := none
  nullable : Bool := true
  unique : Bool := false
  onUpdate : Option ReferentialAction := none
  onDelete : Option ReferentialAction := none
deriving DecidableEq, Repr

/-- The join table of a many-to-many relationship. -/
structure JoinTableDescriptor where
  name : Option String := none
  /-- The columns that refer to the owning side. -/
  joinColumns : List JoinColumnDescriptor := []
  /-- The columns that refer to the other side. -/
  inverseJoinColumns : List JoinColumnDescriptor := []
deriving DecidableEq, Repr

/-- What a reference field declares. -/
structure RelationshipDescriptor where
  kind : Cardinality
  /-- The type name of the entity referred to. -/
  target : String
  /-- The field of the target that owns the relationship. -/
  mappedBy : Option String := none
  joinColumns : List JoinColumnDescriptor := []
  joinTable : Option JoinTableDescriptor := none
deriving DecidableEq, Repr

/-- What a field maps to. -/
inductive FieldMapping where
  | column (type : Attribute) (id : Bool) (column : ColumnDescriptor)
  | relationship (relationship : RelationshipDescriptor)
deriving DecidableEq, Repr

/-- One field of a domain type. -/
structure FieldDescriptor where
  name : String
  /-- Transient fields are never mapped. -/
  transient : Bool := false
  mapping : FieldMapping
deriving DecidableEq, Repr

/-- What is declared about the table of an entity. -/
structure TableDescriptor where
  /-- The table name; derived from the type name when absent. -/
  name : Option String := none
  /-- Uniqueness over several columns, by column name. -/
  uniqueConstraints : List (List String) := []
deriving DecidableEq, Repr

/-- What is declared about a discriminator column, on a hierarchy root or below it. -/
structure DiscriminatorDescriptor where
  name : String := "dtype"
  kind : DiscriminatorKind := .string
  /-- The greatest length of textual discriminator values. -/
  length : Option UInt64 := none
  /-- A raw column definition in place of the generated one. -/
  definition : Option String := none
deriving DecidableEq, Repr

/-- What is declared about one domain type. -/
structure EntityDescriptor where
  typeName : String
  /-- The ancestor types, nearest first.  Those that are not registered are passed over. -/
  ancestors : List String := []
  isAbstract : Bool := false
  table : Option TableDescriptor := none
  inheritance : Option Strategy := none
  discriminatorColumn : Option DiscriminatorDescriptor := none
  discriminatorValue : Option String := none
  fields : List FieldDescriptor := []
deriving DecidableEq, Repr

namespace JoinColumnDescriptor

def named (name : String) : JoinColumnDescriptor := { name := some name }

def references (j : JoinColumnDescriptor) (column : String) : JoinColumnDescriptor :=
  { j with referencedColumn := some column }

def referencing (name column : String) : JoinColumnDescriptor := (named name).references column

def notNull (j : JoinColumnDescriptor) : JoinColumnDescriptor := { j with nullable := false }

def withUnique (j : JoinColumnDescriptor) : JoinColumnDescriptor := { j with unique := true }

def withOnUpdate (j : JoinColumnDescriptor) (a : ReferentialAction) : JoinColumnDescriptor :=
  { j with onUpdate := some a }

def withOnDelete (j : JoinColumnDescriptor) (a : ReferentialAction) : JoinColumnDescriptor :=
  { j with onDelete := some a }

end JoinColumnDescriptor

namespace JoinTableDescriptor

def named (name : String) : JoinTableDescriptor := { name := some name }

def addJoinColumn (t : JoinTableDescriptor) (j : JoinColumnDescriptor) : JoinTableDescriptor :=
  { t with joinColumns := t.joinColumns ++ [j] }

def addInverseJoinColumn (t : JoinTableDescriptor) (j : JoinColumnDescriptor) : JoinTableDescriptor :=
  { t with inverseJoinColumns := t.inverseJoinColumns ++ [j] }

end JoinTableDescriptor

namespace RelationshipDescriptor

def manyToOne (target : String) : RelationshipDescriptor := { kind := .manyToOne, target := target }

def oneToOne (target : String) : RelationshipDescriptor := { kind := .oneToOne, target := target }

def manyToMany (target : String) : RelationshipDescriptor := { kind := .manyToMany, target := target }

/-- A one-to-many reference, with the field of the target that owns it. -/
def oneToMany (target mappedBy : String) : RelationshipDescriptor :=
  { kind := .oneToMany, target := target, mappedBy := some mappedBy }

def withMappedBy (r : RelationshipDescriptor) (field : String) : RelationshipDescriptor :=
  { r with mappedBy := some field }

def addJoinColumn (r : RelationshipDescriptor) (j : JoinColumnDescriptor) : RelationshipDescriptor :=
  { r with joinColumns := r.joinColumns ++ [j] }

def withJoinTable (r : RelationshipDescriptor) (t : JoinTableDescriptor) : RelationshipDescriptor :=
  { r with joinTable := some t }

end RelationshipDescriptor

namespace FieldDescriptor

def plain (name : String) (type : Attribute) : FieldDescriptor := { name := name, mapping := .column type false {} }

def reference (name : String) (r : RelationshipDescriptor) : FieldDescriptor :=
  { name := name, mapping := .relationship r }

/-- Makes a plain field part of the primary key. -/
def asId (f : FieldDescriptor) : FieldDescriptor :=
  match f.mapping with
  | .column a _ c => { f with mapping := .column a true c }
  | .relationship _ => f

/-- Leaves the field out of the mapping. -/
def asTransient (f : FieldDescriptor) : FieldDescriptor := { f with transient := true }

/-- Changes what a plain field declares about its column. -/
def withColumn (f : FieldDescriptor) (change : ColumnDescriptor → ColumnDescriptor) : FieldDescriptor :=
  match f.mapping with
  | .column a id c => { f with mapping := .column a id (change c) }
  | .relationship _ => f

def withColumnName (f : FieldDescriptor) (name : String) : FieldDescriptor :=
  f.withColumn ({ · with name := some name })

def notNull (f : FieldDescriptor) : FieldDescriptor := f.withColumn ({ · with nullable := false })

def withUnique (f : FieldDescriptor) : FieldDescriptor := f.withColumn ({ · with unique := true })

def withDefaultValue (f : FieldDescriptor) (literal : String) : FieldDescriptor :=
  f.withColumn ({ · with defaultValue := some literal })

def withDefinition (f : FieldDescriptor) (definition : String) : FieldDescriptor :=
  f.withColumn ({ · with definition := some definition })

/-- The relationship that a reference field declares. -/
def relationship? (f : FieldDescriptor) : Option RelationshipDescriptor :=
  match f.mapping with
  | .relationship r => some r
  | .column _ _ _ => none

end FieldDescriptor

namespace EntityDescriptor

def field? (d : EntityDescriptor) (name : String) : Option FieldDescriptor := d.fields.find? (·.name == name)

/-- Adds the next ancestor, nearest first. -/
def addAncestor (d : EntityDescriptor) (ancestor : String) : EntityDescriptor :=
  { d with ancestors := d.ancestors ++ [ancestor] }

/-- Declares that the entity has no instances of its own. -/
def asAbstract (d : EntityDescriptor) : EntityDescriptor := { d with isAbstract := true }

/-- Changes what is declared about the table, which is declared from then on. -/
def withTable (d : EntityDescriptor) (change : TableDescriptor → TableDescriptor) : EntityDescriptor :=
  { d with table := some (change (d.table.getD {})) }

def withTableName (d : EntityDescriptor) (name : String) : EntityDescriptor :=
  d.withTable ({ · with name := some name })

/-- Declares a table whose name comes from the type name. -/
def withDefaultTable (d : EntityDescriptor) : EntityDescriptor := d.withTable id

def addUniqueConstraint (d : EntityDescriptor) (columns : List String) : EntityDescriptor :=
  d.withTable fun t => { t with uniqueConstraints := t.uniqueConstraints ++ [columns] }

def withInheritance (d : EntityDescriptor) (s : Strategy) : EntityDescriptor := { d with inheritance := some s }

def withDiscriminatorColumn (d : EntityDescriptor) (c : DiscriminatorDescriptor) : EntityDescriptor :=
  { d with discriminatorColumn := some c }

def withDiscriminatorValue (d : EntityDescriptor) (value : String) : EntityDescriptor :=
  { d with discriminatorValue := some value }

def addField (d : EntityDescriptor) (f : FieldDescriptor) : EntityDescriptor := { d with fields := d.fields ++ [f] }

end EntityDescriptor

namespace DiscriminatorDescriptor

def withKind (c : DiscriminatorDescriptor) (kind : DiscriminatorKind) : DiscriminatorDescriptor :=
  { c with kind := kind }

def withLength (c : DiscriminatorDescriptor) (length : UInt64) : DiscriminatorDescriptor :=
  { c with length := some length }

def withDefinition (c : DiscriminatorDescriptor) (definition : String) : DiscriminatorDescriptor :=
  { c with definition := some definition }

end DiscriminatorDescriptor
end Ormap
