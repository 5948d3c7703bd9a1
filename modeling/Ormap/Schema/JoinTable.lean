import Ormap.Resolution
/-!
# Join tables — the tables of many-to-many relationships

A join table has one group of columns for each side of its relationship.  Each group refers to the keys of its side, or
to the columns that are declared.
-/
namespace Ormap

/-- The table of an owning many-to-many relationship. -/
structure JoinTable where
  name : String
  /-- The field of the owning side. -/
  relationship : String
  source : String
  target : String
  /-- The columns that refer to the owning side. -/
  direct : List Column
  /-- The columns that refer to the other side. -/
  inverse : List Column
deriving DecidableEq, Repr

namespace JoinTable

/-- All columns, those that refer to the owning side first. -/
def columns (t : JoinTable) : List Column := t.direct ++ t.inverse

/-- The column of a join column towards `side`.  Rows of a join table go with the rows that they join, unless declared
otherwise. -/
def groupColumn (field side : String) (j : Resolution.JoinColumn) : Column :=
  Column.reference side j.name j.referenced.type false false
    { entity := side
      relationship := field
      referenced := j.referenced.name
      onUpdate := j.onUpdate.getD .cascade
      onDelete := j.onDelete.getD .cascade }

/-- The group of columns that refers to `side`, whose table is `table`. -/
def group (field : String) (declared : List JoinColumnDescriptor) (side : Entity) (table : String) :
    Except FieldFault (List Column) := do
  let js ← Resolution.joinColumns declared side.typeName side.columns (Naming.defaultForeignKeyName table)
  return js.map (groupColumn field side.typeName)

/-- The table of a side, which has to have one. -/
def sideTable (g : Graph) (side : Entity) : Except FieldFault String :=
  match g.tableOf? side with
  | some table => .ok table
  | none => .error (.noTableToJoin side.typeName)

/-- Refuses a join table in which two columns have one name. -/
def checkDistinct (t : JoinTable) : Except FieldFault Unit :=
  match Column.firstRepeated (t.columns.map (·.name)) with
  | some name => .error (.joinTableColumnTwice t.name name)
  | none => .ok ()

/-- The join table of a relationship between two resolved entities. -/
def build (g : Graph) (r : Relationship) (source target : Entity) : Except FieldFault JoinTable := do
  let sourceTable ← sideTable g source
  let targetTable ← sideTable g target
  let declared := r.joinTable.getD {}
  let direct ← group r.field declared.joinColumns source sourceTable
  let inverse ← group r.field declared.inverseJoinColumns target targetTable
  let table : JoinTable := {
    name := declared.name.getD (Naming.defaultJoinTableName sourceTable targetTable)
    relationship := r.field, source := r.source, target := r.target, direct, inverse }
  table.checkDistinct
  return table

end JoinTable

namespace Graph

def joinTable (g : Graph) (r : Relationship) : Except Error JoinTable :=
  if !r.hasJoinTable then .error (.query (.noJoinTable r.field))
  else do
    let source ← (g.requireHeld r.source).mapError .mapping
    let target ← (g.requireHeld r.target).mapError .mapping
    (JoinTable.build g r source target).mapError fun fault => .configuration (.field r.source r.field fault)

end Graph
end Ormap
