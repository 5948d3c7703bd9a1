import Ormap.Schema
/-!
# Demand — what has been worked out so far

The shape of a column and a join table are worked out when they are first asked for, and kept.  The shape of a
foreign-key column asks for that of the column it refers to.
-/
namespace Ormap

/-- A column of an entity, by the names of both. -/
structure ColumnName where
  entity : String
  column : String
deriving DecidableEq, Repr

/-- The final shape of a column. -/
structure ColumnView where
  type : SqlType
  nullable : Bool
  unique : Bool
  defaultValue : Option String
  definition : Option String
deriving DecidableEq, Repr

/-- The shapes and the join tables that have been worked out. -/
structure Demand where
  columns : List ColumnName := []
  joinTables : List FieldName := []
deriving DecidableEq, Repr

namespace Demand

/-- Two demands together. -/
def union (a b : Demand) : Demand := { columns := a.columns ++ b.columns, joinTables := a.joinTables ++ b.joinTables }

instance : Append Demand := ⟨union⟩

end Demand

namespace Graph

def columnView (g : Graph) (c : Column) : ColumnView where
  type := g.sqlType c
  nullable := c.acceptsNull
  unique := c.unique
  defaultValue := c.defaultValue
  definition := c.definition

/-- The columns that the shape of a column of `holder` asks for, itself first, in at most `steps` references. -/
def reached (g : Graph) : Nat → String → Column → List ColumnName
  | 0, holder, c => [⟨holder, c.name⟩]
  | steps + 1, holder, c => ⟨holder, c.name⟩ :: match c.foreignKey? with
    | none => []
    | some key => match g.referenced? key with
      | none => []
      | some next => g.reached steps key.entity next

/-- What the shape of a column of `holder` asks for. -/
def columnDemand (g : Graph) (holder : String) (c : Column) : Demand := { columns := g.reached g.columnCount holder c }

/-- What the creation of the table of an entity asks for: the shapes of all columns, once these are known. -/
def tableDemand (g : Graph) (e : Entity) : Demand :=
  if e.tableName.isNone then {}
  else match g.tableColumns e with
    | .error _ => {}
    | .ok stored => { columns := stored.flatMap fun s => g.reached g.columnCount s.holder s.column }

def joinTableDemand (g : Graph) (r : Relationship) : Demand :=
  match g.joinTable r with
  | .error _ => {}
  | .ok t => { joinTables := [⟨t.source, t.relationship⟩] }

/-- What the creation of a join table asks for: the table, and the shapes of the columns that it refers to. -/
def joinScriptDemand (g : Graph) (r : Relationship) : Demand :=
  match g.joinTable r with
  | .error _ => {}
  | .ok t => {
      columns := (t.columns.filterMap (·.foreignKey?)).flatMap fun key => match g.referenced? key with
        | none => []
        | some next => g.reached g.columnCount key.entity next
      joinTables := [⟨t.source, t.relationship⟩] }

/-- The items up to the first for which a step fails, that one included. -/
def upToFailure (step : α → Except ε β) : List α → List α
  | [] => []
  | a :: rest => match step a with
    | .ok _ => a :: upToFailure step rest
    | .error _ => [a]

/-- The demands of several items together. -/
def demandOf (demand : α → Demand) (items : List α) : Demand := items.foldr (fun a rest => demand a ++ rest) {}

/-- What the creation of all tables asks for, as far as it comes. -/
def schemaDemand (g : Graph) : Demand :=
  let tables := demandOf g.tableDemand (upToFailure g.createTable g.entities)
  match g.entities.mapM g.createTable with
  | .error _ => tables
  | .ok _ => tables ++ demandOf g.joinScriptDemand (upToFailure g.createJoinTableOf g.joinTableRelationships)

/-- What the layout of all tables asks for, as far as it comes. -/
def layoutDemand (g : Graph) : Demand :=
  match g.entities.mapM g.entityLayout with
  | .error _ => {}
  | .ok _ => demandOf g.joinTableDemand (upToFailure g.joinTableLayout g.joinTableRelationships)

end Graph
end Ormap
