import Ormap.Graph
import Ormap.Resolution.Discriminators
/-!
# Resolution — from a catalog of descriptors to the entity graph

Every entity is resolved in fixed steps: its place in the hierarchy, strategy, table, relationships, base columns,
columns, discriminator values.  A step that needs a result of another entity fails with that entity's error when there
is none.  Taken in the order of registration, the first entity that does not resolve gives the error of the whole.
-/
namespace Ormap
namespace Resolution

/-- Runs a step of an entity, given the entities above it. -/
def atPlace (c : Catalog) (d : EntityDescriptor) (step : List EntityDescriptor → Except ConfigurationError α) :
    Except ConfigurationError α := do
  step (← c.above d)

/-- Resolves an entity to its end. -/
def resolve (cfg : Config) (c : Catalog) (d : EntityDescriptor) : Except ConfigurationError Unit :=
  atPlace c d fun up => do
    let _ ← givenBelow cfg c d up
    return ()

/-- The table of an entity, the strategy being settled. -/
def tableStep (cfg : Config) (d : EntityDescriptor) (up : List EntityDescriptor) :
    Except ConfigurationError (Option String) := do
  tableNameOf (← strategyOf cfg d up) d up

/-- An entity with the results of all steps that succeed. -/
def entity (cfg : Config) (c : Catalog) (d : EntityDescriptor) : Entity where
  descriptor := d
  parent := (c.parent? d).map (·.typeName)
  children := (c.children d).map (·.typeName)
  strategy := (atPlace c d (strategyOf cfg d)).toOption.getD .joined
  tableName := (atPlace c d (tableStep cfg d)).toOption.join
  relationships := (atPlace c d (outline cfg c d)).toOption.elim [] (·.relationships)
  columns := (atPlace c d (columns cfg c d)).toOption.getD []
  discriminatorValue := (atPlace c d (discriminatorValue cfg c d)).toOption.join
  outcome := ⟨some (resolve cfg c d)⟩

/-- An entity before it is known whether it resolves. -/
def entityBegun (cfg : Config) (c : Catalog) (d : EntityDescriptor) : Entity := { entity cfg c d with outcome := {} }

/-- The graph of a catalog. -/
def graph (cfg : Config) (c : Catalog) : Graph where
  database := cfg.name
  entities := c.entities.map (entity cfg c)

/-- Whether every entity resolves, or the error of the first that does not. -/
def outcome (cfg : Config) (c : Catalog) : Except ConfigurationError Unit := c.entities.forM (resolve cfg c)

/-- The graph of a catalog before resolution. -/
def unresolved (cfg : Config) (c : Catalog) : Graph where
  database := cfg.name
  entities := c.entities.map ({ descriptor := · })

end Resolution
end Ormap
