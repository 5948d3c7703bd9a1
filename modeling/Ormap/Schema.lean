import Ormap.Schema.JoinTable
import Ormap.Schema.Table
/-!
# Schemas — the tables of a whole database

The tables of the entities come first, in the order of registration, then the join tables.  The layout lists the same
tables with the names of their columns.
-/
namespace Ormap
namespace Graph

def joinColumnDefinition (g : Graph) (c : Column) : ColumnDefinition where
  name := c.name
  shape := .typed (g.sqlType c) true false none

/-- The creation of a join table: all its columns are the key, and each side has one foreign key. -/
def createJoinTable (g : Graph) (t : JoinTable) : Except Error CreateTable := do
  let source ← (g.requireHeld t.source).mapError .mapping
  let foreignKeys ← g.groupClauses source [t.direct, t.inverse]
  return {
    table := t.name
    columns := t.columns.map g.joinColumnDefinition
    primaryKey := t.columns.map (·.name)
    uniques := []
    foreignKeys }

def createJoinTableOf (g : Graph) (r : Relationship) : Except Error CreateTable := do
  g.createJoinTable (← g.joinTable r)

/-- The creation of all tables. -/
def schema (g : Graph) : Except Error (List CreateTable) := do
  let tables ← g.entities.mapM g.createTable
  let joinTables ← g.joinTableRelationships.mapM g.createJoinTableOf
  return tables.filterMap id ++ joinTables

/-- A table by its name and the names of its columns. -/
structure TableLayout where
  table : String
  columns : List String
deriving DecidableEq, Repr

/-- The layout of the table of an entity, if it has one. -/
def entityLayout (g : Graph) (e : Entity) : Except Error (Option TableLayout) :=
  match e.tableName with
  | none => .ok none
  | some table => do
    let stored ← g.tableColumns e
    return some { table, columns := stored.map (·.column.name) }

def joinTableLayout (g : Graph) (r : Relationship) : Except Error TableLayout := do
  let t ← g.joinTable r
  return { table := t.name, columns := t.columns.map (·.name) }

/-- The layout of all tables. -/
def layout (g : Graph) : Except Error (List TableLayout) := do
  let tables ← g.entities.mapM g.entityLayout
  let joinTables ← g.joinTableRelationships.mapM g.joinTableLayout
  return tables.filterMap id ++ joinTables

end Graph
end Ormap
