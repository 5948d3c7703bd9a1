import Ormap.Connection
import Ormap.Mapping
import Ormap.Object.Loading
/-!
# Databases — the life of a registry of entities

Entities are registered first.  The first call that maps or resolves seals the registry and starts the tasks that
resolve its entities.  A database is mapped when all of them are counted off, and ready when moreover no version change
is under way.
-/
namespace Ormap

/-- The registry of the entities of one logical database. -/
structure Database where
  config : Config
  catalog : Catalog := .empty
  /-- Set once the registry is sealed. -/
  mapping : Option Mapping := none
  /-- The number of entities whose resolution has not completed: one more with each that is registered, one less with
  each that is counted off. -/
  remaining : Nat := 0
  /-- The number of version changes under way. -/
  changes : Nat := 0

/-- What waiters watch. -/
structure Status where
  isSealed : Bool
  remaining : Nat
  changes : Nat
deriving DecidableEq, Repr

namespace Status

/-- Whether the registry is sealed and every entity is resolved. -/
def isMapped (s : Status) : Bool := s.isSealed && s.remaining == 0

/-- Whether the database is mapped and no version change is under way. -/
def isReady (s : Status) : Bool := s.isMapped && s.changes == 0

end Status

/-- Moves a store from one version to another.  It sees the database while the change is under way. -/
structure Migrator (σ : Type) where
  upgrade : Database → UInt32 → UInt32 → Action σ Unit
  downgrade : Database → UInt32 → UInt32 → Action σ Unit

namespace Database

/-! ## Status -/

/-- Whether no more entities can be registered. -/
def isSealed (db : Database) : Bool := db.mapping.isSome

def status (db : Database) : Status where
  isSealed := db.isSealed
  remaining := db.remaining
  changes := db.changes

def isMapped (db : Database) : Bool := db.status.isMapped

def isReady (db : Database) : Bool := db.status.isReady

/-! ## Registration -/

/-- Adds a descriptor, unless the registry is sealed or has the type already. -/
def register (db : Database) (d : EntityDescriptor) : Except ConfigurationError Database :=
  if db.isSealed then .error (.entity d.typeName (.alreadyMapping db.config.name))
  else do
    return { db with catalog := ← db.catalog.register d, remaining := db.remaining + 1 }

def registerAll (db : Database) : List EntityDescriptor → Except ConfigurationError Database
  | [] => .ok db
  | d :: rest => do
    (← db.register d).registerAll rest

/-- A database of a valid configuration with the given entities. -/
def ofEntities (config : Config) (entities : List EntityDescriptor) : Except ConfigurationError Database :=
  match config.validate with
  | .error fault => .error (.config fault)
  | .ok _ => registerAll { config } entities

/-! ## Mapping -/

/-- Seals the registry and starts its tasks, unless that has been done. -/
def startMapping (db : Database) : Database :=
  match db.mapping with
  | some _ => db
  | none => { db with mapping := some (.begun db.config db.catalog) }

/-- What a step of the mapping makes of the database, if it is possible. -/
def step? (db : Database) (step : Mapping.Step) : Option Database := do
  let mapping ← (← db.mapping).step? db.config db.catalog step
  return { db with
    mapping := some mapping
    remaining := if step.counts then db.remaining - 1 else db.remaining }

/-- What steps of the mapping make of the database, one after the other, if all are possible. -/
def steps? (db : Database) (steps : List Mapping.Step) : Option Database := steps.foldlM step? db

/-- Seals the registry and resolves its entities, unless it is sealed: all tasks come to their ends before the driver
looks at any. -/
def map (db : Database) : Database :=
  match db.mapping with
  | some _ => db
  | none => { db with
      mapping := some (.complete db.config db.catalog)
      remaining := db.remaining - (Resolution.graph db.config db.catalog).entities.countP (·.resolved) }

/-- The entities as far as they are resolved. -/
def graph (db : Database) : Graph :=
  match db.mapping with
  | some m => { database := db.config.name, entities := m.tasks.map (·.entity) }
  | none => Resolution.unresolved db.config db.catalog

/-- The refusal of a database that nothing has mapped. -/
def notMapped (db : Database) : Error := .query (.notMapped db.config.name)

/-- The outcome of the mapping, which whoever requires it waits for; a refusal at once when it has not been started. -/
def requireMapped? (db : Database) : Option (Except Error Unit) :=
  match db.mapping with
  | none => some (.error db.notMapped)
  | some m => m.outcome.content.map (·.mapError .configuration)

/-- Refuses a database that is not mapped, or whose mapping failed. -/
def requireMapped (db : Database) : Except Error Unit := db.requireMapped?.getD (.error db.notMapped)

/-- The entity of a type name with the outcome of its own resolution, which whoever asks for it waits for. -/
def resolved? (db : Database) (name : String) : Option (Except Error Entity) :=
  match db.graph.require name with
  | .error fault => some (.error (.query fault))
  | .ok e => e.outcome.content.map fun result => (result.map fun _ => e).mapError .configuration

/-- The entity of a type name, once it is resolved. -/
def resolved (db : Database) (name : String) : Except Error Entity := (db.resolved? name).getD (.error db.notMapped)

/-- The entity at a position of the registry. -/
def entityAt (db : Database) (index : Nat) : Except MappingError Entity :=
  match db.graph.entities[index]? with
  | some e => .ok e
  | none => .error (.unknownEntity index db.config.name)

def index? (db : Database) (name : String) : Option Nat := db.catalog.index? name

/-! ## Version changes -/

/-- Marks the database not ready until the change ends.  Changes nest. -/
def beginChange (db : Database) : Database := { db with changes := db.changes + 1 }

def endChange (db : Database) : Database := { db with changes := db.changes - 1 }

/-- What brings a store from a version to the one of the configuration, given the database that the migrator sees; none
when the store has that version. -/
def migration? (db : Database) (migrator : Option (Migrator σ)) (stored : UInt32) :
    Except Error (Option (Database → Action σ Unit)) :=
  if stored = db.config.version then .ok none
  else match migrator with
    | none => .error (.configuration (.entity db.config.name (.noMigrator stored db.config.version)))
    | some m =>
      if stored < db.config.version then .ok (some fun seen => m.upgrade seen stored db.config.version)
      else .ok (some fun seen => m.downgrade seen stored db.config.version)

/-- Brings a store from a version to the one of the configuration, while the database is not ready. -/
def migrate (db : Database) (migrator : Option (Migrator σ)) (stored : UInt32) : Action σ Unit := do
  match ← db.migration? migrator stored with
  | none => pure ()
  | some act => act db.beginChange

/-- The change of a store from a version; none as long as the database is not mapped, which the change waits for. -/
def applyVersionChange? (db : Database) (migrator : Option (Migrator σ)) (stored : UInt32) : Option (Action σ Unit) :=
  if db.isMapped then some (db.migrate migrator stored) else none

end Database
end Ormap
