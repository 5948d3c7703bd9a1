import Ormap.Database
import Ormap.Literal
import Ormap.Statement
/-!
# Sessions — one object inserted, updated or removed in a transaction

A change of an object concerns each of its rows.  Updates and removals find a row by the whole primary key, which has to
have a value.  Nothing is sent to the store before all statements are known.
-/
namespace Ormap

/-- What a session does with an object. -/
inductive Change where
  | persist
  | update
  | remove
deriving DecidableEq, Repr

namespace TableRow

def insertion (r : TableRow) : Except MarshallingError Insert := do
  return { table := r.table, columns := r.columns, literals := ← Literal.ofValues (r.cells.map (·.2)) }

/-- A column and the literal of its value. -/
def equation (cell : String × Value) : Except MarshallingError Equation := do
  return { column := cell.1, literal := ← Literal.ofValue cell.2 }

/-- The cells that are no part of a key. -/
def cellsBeside (r : TableRow) (keys : List String) : Cells Value := r.cells.filter (!keys.contains ·.1)

/-- The equation for a key column, which has to have a value. -/
def keyEquation (r : TableRow) (key : String) : Except Error Equation :=
  match r.get? key with
  | none | some .null => .error (.query (.keyWithoutValue key r.table))
  | some v => (equation (key, v)).mapError .marshalling

end TableRow

namespace Graph

/-- The names of the key columns of the table of a row. -/
def keyNames (g : Graph) (r : TableRow) : Except MappingError (List String) := do
  let owner ← g.requireHeld r.entity
  let keys := owner.primaryKeys.map (·.name)
  if keys.isEmpty then throw (.keylessTable r.table) else return keys

/-- The condition that finds a row. -/
def keyCondition (g : Graph) (r : TableRow) : Except Error (List Equation) := do
  let keys ← (g.keyNames r).mapError .mapping
  keys.mapM r.keyEquation

/-- The update of a row; none when all its columns are key columns. -/
def updateOf (g : Graph) (r : TableRow) : Except Error (Option Update) := do
  let keys ← (g.keyNames r).mapError .mapping
  let assignments ← ((r.cellsBeside keys).mapM TableRow.equation).mapError .marshalling
  if assignments.isEmpty then return none
  return some { table := r.table, assignments, condition := ← g.keyCondition r }

def removalOf (g : Graph) (r : TableRow) : Except Error Delete := do
  return { table := r.table, condition := ← g.keyCondition r }

/-- The statements of a change of an object, given its rows.  Removals go from the last row to the first. -/
def statementsOf (g : Graph) (rows : List TableRow) : Change → Except Error (List String)
  | .persist => do
    return (← (rows.mapM TableRow.insertion).mapError .marshalling).map (·.render)
  | .update => do
    return ((← rows.mapM g.updateOf).filterMap id).map (·.render)
  | .remove => do
    return (← rows.reverse.mapM g.removalOf).map (·.render)

def statements (g : Graph) (change : Change) (record : Record) : Except Error (List String) := do
  g.statementsOf (← g.rows record) change

end Graph

namespace Database

/-- Changes an object in the store. -/
def change (db : Database) (c : Connection σ) (change : Change) (record : Record) : Action σ Unit := do
  db.requireMapped
  c.runInTransaction (← db.graph.statements change record)

/-- The change of an object; none as long as its entities are being resolved or a version change is under way, which the
change waits for. -/
def change? (db : Database) (c : Connection σ) (change : Change) (record : Record) : Option (Action σ Unit) :=
  match db.requireMapped? with
  | none => none
  | some (.error _) => some (db.change c change record)
  | some (.ok _) => if db.isReady then some (db.change c change record) else none

end Database
end Ormap
