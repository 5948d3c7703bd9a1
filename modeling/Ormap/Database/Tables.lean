import Ormap.Database
import Ormap.Schema.Demand
/-!
# The tables of a database — those of a mapped one, created and listed

Nothing of the schema is known before the database is mapped.
-/
namespace Ormap
namespace Database

/-- Refuses an entity that is not resolved. -/
def requireOutcome (db : Database) (e : Entity) : Except Error Unit :=
  match e.outcome.content with
  | some result => result.mapError .configuration
  | none => .error db.notMapped

/-- The join table of a relationship, once both of its sides are resolved. -/
def joinTable (db : Database) (r : Relationship) : Except Error JoinTable := do
  if r.hasJoinTable then
    let source ← (db.graph.requireHeld r.source).mapError .mapping
    let target ← (db.graph.requireHeld r.target).mapError .mapping
    db.requireOutcome source
    db.requireOutcome target
  db.graph.joinTable r

def createJoinTable (db : Database) (r : Relationship) : Except Error CreateTable := do
  db.graph.createJoinTable (← db.joinTable r)

/-- The creation of all tables. -/
def schema (db : Database) : Except Error (List CreateTable) := do
  db.requireMapped
  db.graph.schema

def layout (db : Database) : Except Error (List Graph.TableLayout) := do
  db.requireMapped
  db.graph.layout

/-- Creates all tables in one transaction. -/
def createSchema (db : Database) (c : Connection σ) : Action σ Unit := do
  c.runInTransaction ((← db.schema).map (·.render))

/-- What the creation of all tables asks for. -/
def schemaDemand (db : Database) : Demand :=
  match db.requireMapped with
  | .ok _ => db.graph.schemaDemand
  | .error _ => {}

def layoutDemand (db : Database) : Demand :=
  match db.requireMapped with
  | .ok _ => db.graph.layoutDemand
  | .error _ => {}

def joinScriptDemand (db : Database) (r : Relationship) : Demand :=
  match db.joinTable r with
  | .ok _ => db.graph.joinScriptDemand r
  | .error _ => {}

def joinTableDemand (db : Database) (r : Relationship) : Demand :=
  match db.joinTable r with
  | .ok _ => db.graph.joinTableDemand r
  | .error _ => {}

end Database
end Ormap
