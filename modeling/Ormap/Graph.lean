import Ormap.Column
import Ormap.Error
import Ormap.Once
import Ormap.Relationship
/-!
# The entity graph — resolved entities and the ways between them

An entity names its parent and its children; the graph finds them.  Before resolution an entity has neither, nor columns
nor relationships.
-/
namespace Ormap

/-- One mapped domain type, as far as it is resolved. -/
structure Entity where
  descriptor : EntityDescriptor
  parent : Option String := none
  /-- The entities with this one as parent, in the order of registration. -/
  children : List String := []
  strategy : Strategy := .joined
  /-- The name of its own table; none for an entity that lives in another's table or has no table at all. -/
  tableName : Option String := none
  /-- The coerced discriminator value. -/
  discriminatorValue : Option Value := none
  relationships : List Relationship := []
  /-- Own, inherited and discriminator columns. -/
  columns : List Column := []
  /-- What came of its resolution, once it is known. -/
  outcome : Once (Except ConfigurationError Unit) := {}
deriving Repr

namespace Entity

def typeName (e : Entity) : String := e.descriptor.typeName

def isAbstract (e : Entity) : Bool := e.descriptor.isAbstract

/-- Whether every step of its resolution is known to have succeeded. -/
def resolved (e : Entity) : Bool :=
  match e.outcome.content with
  | some (.ok _) => true
  | _ => false

/-- The entity with an outcome, unless it has one. -/
def settle (e : Entity) (result : Except ConfigurationError Unit) : Entity :=
  { e with outcome := e.outcome.fill result }

def hasChildren (e : Entity) : Bool := !e.children.isEmpty

def relationship? (e : Entity) (field : String) : Option Relationship := e.relationships.find? (·.field == field)

def column? (e : Entity) (name : String) : Option Column := e.columns.find? (·.name == name)

/-- The column of a name, which has to be there. -/
def requireColumn (e : Entity) (name : String) : Except QueryError Column :=
  match e.column? name with
  | some c => .ok c
  | none => .error (.unknownColumn name e.typeName)

def primaryKeys (e : Entity) : List Column := e.columns.filter (·.primaryKey)

/-- The columns that are no inherited copies. -/
def ownColumns (e : Entity) : List Column := e.columns.filter (!·.inherited)

/-- The discriminator column that the entity owns, if it owns one. -/
def discriminatorColumn? (e : Entity) : Option Column := e.ownColumns.find? (·.isDiscriminator)

end Entity

/-- The entities of one database. -/
structure Graph where
  /-- The name of the database, for messages. -/
  database : String
  /-- The entities in the order of registration. -/
  entities : List Entity := []
deriving Repr

namespace Graph

def size (g : Graph) : Nat := g.entities.length

def find? (g : Graph) (name : String) : Option Entity := g.entities.find? (·.typeName == name)

/-- The entity of a type name, which has to be there. -/
def require (g : Graph) (name : String) : Except QueryError Entity :=
  match g.find? name with
  | some e => .ok e
  | none => .error (.unknownEntity name g.database)

def parent? (g : Graph) (e : Entity) : Option Entity := e.parent.bind g.find?

/-- The children of an entity, in the order of registration. -/
def children (g : Graph) (e : Entity) : List Entity := e.children.filterMap g.find?

/-- The entities above an entity, its parent first; none when the links loop. -/
def above (g : Graph) (e : Entity) : List Entity := (Forest.ascend g.parent? g.size e).getD []

/-- The entities from the root of the hierarchy down to an entity. -/
def ancestry (g : Graph) (e : Entity) : List Entity := (g.above e).reverse ++ [e]

/-- The root of the hierarchy of an entity. -/
def root (g : Graph) (e : Entity) : Entity := ((g.above e).getLast?).getD e

/-- The distance of an entity from the root of its hierarchy. -/
def depth (g : Graph) (e : Entity) : Nat := (g.above e).length

/-- The entities below an entity, each before those below it, children in their order. -/
def descendants (g : Graph) (e : Entity) : List Entity := Forest.descend g.children g.size e

/-! ## Names that entities hold

An operation that follows a name fails when it is that of no entity. -/

/-- The entity of a name that another one holds, which has to be there. -/
def requireHeld (g : Graph) (name : String) : Except MappingError Entity :=
  match g.find? name with
  | some e => .ok e
  | none => .error (.missingEntity name g.database)

def requireChildren (g : Graph) (e : Entity) : Except MappingError (List Entity) := e.children.mapM g.requireHeld

/-- The entities above an entity, its parent first, in at most `bound` steps. -/
def climb (g : Graph) : Nat → Entity → Except MappingError (List Entity)
  | 0, _ => .ok []
  | bound + 1, e => match e.parent with
    | none => .ok []
    | some name => do
      let parent ← g.requireHeld name
      return parent :: (← g.climb bound parent)

/-- The entities below an entity down to a depth, each before those below it. -/
def dive (g : Graph) : Nat → Entity → Except MappingError (List Entity)
  | 0, _ => .ok []
  | depth + 1, e => do
    let below ← e.children.mapM fun name => do
      let child ← g.requireHeld name
      return child :: (← g.dive depth child)
    return below.flatten

def requireAncestry (g : Graph) (e : Entity) : Except MappingError (List Entity) := do
  return (← g.climb g.size e).reverse ++ [e]

def requireRoot (g : Graph) (e : Entity) : Except MappingError Entity := do
  return ((← g.climb g.size e).getLast?).getD e

def requireDepth (g : Graph) (e : Entity) : Except MappingError Nat := do
  return (← g.climb g.size e).length

def requireDescendants (g : Graph) (e : Entity) : Except MappingError (List Entity) := g.dive g.size e

/-! ## Tables and columns -/

/-- The entity whose table stores the own columns of an entity. -/
def tableOwner (g : Graph) (e : Entity) : Except Error Entity := do
  let owner ← (if e.strategy = .singleTable then g.requireRoot e else .ok e).mapError .mapping
  if owner.tableName.isSome then return owner else throw (.query (.noOwnTable e.typeName))

/-- The table that stores the own columns of an entity. -/
def tableOf? (g : Graph) (e : Entity) : Option String :=
  match g.tableOwner e with
  | .ok owner => owner.tableName
  | .error _ => none

/-- The alias level of the table that holds the own columns of an entity: its depth in a joined hierarchy, and zero
where one table holds each object. -/
def aliasLevel (g : Graph) (e : Entity) : Nat := if e.strategy = .joined then g.depth e else 0

def requireAliasLevel (g : Graph) (e : Entity) : Except MappingError Nat :=
  if e.strategy = .joined then g.requireDepth e else .ok 0

def columnCount (g : Graph) : Nat := (g.entities.flatMap (·.columns)).length

/-- The column that a foreign key refers to. -/
def referenced? (g : Graph) (key : ForeignKey) : Option Column := (g.find? key.entity).bind (·.column? key.referenced)

/-- The column at the end of a chain of references of at most `steps` steps. -/
def origin? (g : Graph) : Nat → Column → Option Column
  | 0, c => if c.isForeignKey then none else some c
  | steps + 1, c => match c.foreignKey? with
    | none => some c
    | some key => (g.referenced? key).bind (g.origin? steps)

/-- The storage family of a column: that of the column at the end of its references. -/
def sqlType (g : Graph) (c : Column) : SqlType := ((g.origin? g.columnCount c).getD c).type.sqlType

/-- The relationships that own a join table, in the order of the entities. -/
def joinTableRelationships (g : Graph) : List Relationship :=
  g.entities.flatMap fun e => e.relationships.filter (·.hasJoinTable)

end Graph
end Ormap
