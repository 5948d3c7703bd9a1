import Ormap.Naming
import Ormap.Relationship
/-!
# Outlines — what an entity settles before its columns

The strategy is that of the root of the hierarchy; an entity that declares another one is refused.  The strategy says
whether the entity needs a table.  In the functions of this folder `d` is an entity and `up` the entities above it, its
parent first.
-/
namespace Ormap
namespace Resolution

/-- The root of the hierarchy of `d`. -/
def rootOf (d : EntityDescriptor) (up : List EntityDescriptor) : EntityDescriptor := (up.getLast?).getD d

/-- The strategy of a hierarchy, by its root. -/
def rootStrategy (cfg : Config) (root : EntityDescriptor) : Strategy := root.inheritance.getD cfg.defaultInheritance

def strategyOf (cfg : Config) (d : EntityDescriptor) (up : List EntityDescriptor) :
    Except ConfigurationError Strategy :=
  let used := rootStrategy cfg (rootOf d up)
  match d.inheritance with
  | none => .ok used
  | some declared =>
    if declared = used then .ok used
    else .error (.entity d.typeName (.otherStrategy declared (rootOf d up).typeName used))

/-- Whether an entity has a table of its own. -/
def needsTable (strategy : Strategy) (d : EntityDescriptor) (up : List EntityDescriptor) : Bool :=
  match strategy with
  | .joined => true
  | .singleTable => up.isEmpty
  | .tablePerClass => !d.isAbstract

/-- The name of the table of an entity, if it needs one. -/
def tableNameOf (strategy : Strategy) (d : EntityDescriptor) (up : List EntityDescriptor) :
    Except ConfigurationError (Option String) :=
  if needsTable strategy d up then
    match d.table with
    | some table => .ok (some (table.name.getD (Naming.defaultTableName d.typeName)))
    | none => .error (.entity d.typeName (.noTableDeclared strategy))
  else .ok none

/-- What an entity settles before its columns. -/
structure Outline where
  strategy : Strategy
  tableName : Option String
  relationships : List Relationship
deriving DecidableEq, Repr

/-- The outline of an entity: strategy, table, relationships, in this order. -/
def outline (cfg : Config) (c : Catalog) (d : EntityDescriptor) (up : List EntityDescriptor) :
    Except ConfigurationError Outline := do
  let strategy ← strategyOf cfg d up
  let tableName ← tableNameOf strategy d up
  let relationships ← Relationship.ofEntity c d
  return { strategy, tableName, relationships }

end Resolution
end Ormap
