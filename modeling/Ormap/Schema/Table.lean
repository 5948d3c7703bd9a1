import Ormap.Resolution
import Ormap.Statement
/-!
# Entity tables — the columns that an entity's table stores, and its creation

A table stores the columns of its entity.  The table of a single-table hierarchy also stores the own columns of every
entity below the root; rows of other entities leave them out, so they are optional there.
-/
namespace Ormap

/-- A column as a table stores it. -/
structure StoredColumn where
  /-- The entity in whose column set it is. -/
  holder : String
  column : Column
  /-- Whether rows may leave it out whatever the column declares. -/
  isOptional : Bool
deriving DecidableEq, Repr

/-- Whether every row of the table has to give the column a value. -/
def StoredColumn.requiresValue (s : StoredColumn) : Bool := !s.column.acceptsNull && !s.isOptional

namespace Graph

/-- Adds columns of entities below `e` to those that its table stores; no two may have one name. -/
def mergeColumns (e : Entity) :
    List StoredColumn → List (Entity × Column) → Except ConfigurationError (List StoredColumn)
  | stored, [] => .ok stored
  | stored, (holder, c) :: rest => match stored.find? (·.column.name == c.name) with
    | some existing =>
      .error (.entity holder.typeName (.clashInSingleTable c.name existing.column.declaredBy (e.tableName.getD "")))
    | none => mergeColumns e (stored ++ [⟨holder.typeName, c, true⟩]) rest

/-- The own columns of the entities below an entity that its table stores too. -/
def columnsBelow (g : Graph) (e : Entity) : Except MappingError (List (Entity × Column)) :=
  if e.strategy = .singleTable then do
    return (← g.requireDescendants e).flatMap fun d => d.ownColumns.map (d, ·)
  else .ok []

/-- The columns that the table of an entity stores. -/
def tableColumns (g : Graph) (e : Entity) : Except Error (List StoredColumn) := do
  let below ← (g.columnsBelow e).mapError .mapping
  (mergeColumns e (e.columns.map (⟨e.typeName, ·, false⟩)) below).mapError .configuration

def columnDefinition (g : Graph) (s : StoredColumn) : ColumnDefinition where
  name := s.column.name
  shape := match s.column.definition with
    | some definition => .raw definition
    | none => .typed (g.sqlType s.column) s.requiresValue s.column.unique s.column.defaultValue

/-- The uniqueness constraints of an entity, over columns that its table stores. -/
def uniqueClauses (e : Entity) (stored : List String) : Except ConfigurationError (List (List String)) :=
  ((e.descriptor.table.map (·.uniqueConstraints)).getD []).mapM fun constraint =>
    match constraint.find? (!stored.contains ·) with
    | some missing => .error (.entity e.typeName (.unknownUniqueColumn missing))
    | none => .ok constraint

/-- The table that a foreign key of `source` to an entity refers to. -/
def referencedTable (g : Graph) (source target : Entity) : Except ConfigurationError String :=
  match g.tableOf? target with
  | some table => .ok table
  | none => .error (.entity source.typeName (.referencesNoTable target.typeName))

/-- The foreign key of a joined table to the table of the parent, over the whole primary key. -/
def parentClauses (g : Graph) (e : Entity) : Except Error (List ForeignKeyClause) :=
  match e.strategy, e.parent with
  | .joined, some name => do
    let parent ← (g.requireHeld name).mapError .mapping
    let table ← (g.referencedTable e parent).mapError .configuration
    let keys := e.primaryKeys.map (·.name)
    return [{ columns := keys, table, referenced := keys, onUpdate := .cascade, onDelete := .cascade }]
  | _, _ => return []

/-- What foreign-key columns have to share to form one foreign key: the declaring entity and the field. -/
def groupKey? (c : Column) : Option FieldName := c.foreignKey?.map fun key => ⟨c.declaredBy, key.relationship⟩

/-- The foreign keys among columns, each with its columns in order, in the order of their first columns. -/
def foreignKeyGroups (columns : List Column) : List (List Column) :=
  (columns.filterMap groupKey?).eraseDups.map fun key => columns.filter (groupKey? · == some key)

/-- The clause of a foreign key, whose first column gives target and actions. -/
def groupClause (g : Graph) (source : Entity) (group : List Column) : Except Error (Option ForeignKeyClause) :=
  match (group.head?).bind (·.foreignKey?) with
  | none => .ok none
  | some key => do
    let target ← (g.requireHeld key.entity).mapError .mapping
    let table ← (g.referencedTable source target).mapError .configuration
    return some {
      columns := group.map (·.name)
      table
      referenced := (group.filterMap (·.foreignKey?)).map (·.referenced)
      onUpdate := key.onUpdate
      onDelete := key.onDelete }

def groupClauses (g : Graph) (source : Entity) (groups : List (List Column)) :
    Except Error (List ForeignKeyClause) := do
  return (← groups.mapM (g.groupClause source)).filterMap id

/-- The creation of the table of an entity whose name is `table`. -/
def createTableNamed (g : Graph) (e : Entity) (table : String) : Except Error CreateTable := do
  let stored ← g.tableColumns e
  let uniques ← (uniqueClauses e (stored.map (·.column.name))).mapError .configuration
  let toParent ← g.parentClauses e
  let toTargets ← g.groupClauses e (foreignKeyGroups (stored.map (·.column)))
  return {
    table
    columns := stored.map g.columnDefinition
    primaryKey := e.primaryKeys.map (·.name)
    uniques
    foreignKeys := toParent ++ toTargets }

/-- The creation of the table of an entity, if it has one. -/
def createTable (g : Graph) (e : Entity) : Except Error (Option CreateTable) :=
  match e.tableName with
  | none => .ok none
  | some table => (g.createTableNamed e table).map some

end Graph
end Ormap
