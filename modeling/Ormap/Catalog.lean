import Ormap.Error
import Ormap.Forest
/-!
# Catalogs — the registered descriptors, and the hierarchies they declare

The parent of an entity is the first name in its list of ancestors that is registered; the names before it are passed
over.  Nothing keeps such links from running in a loop, so a walk to the root may fail.
-/
namespace Ormap

/-- Registered descriptors in the order of registration; no two have one type name. -/
structure Catalog where
  entities : List EntityDescriptor := []
  distinct : (entities.map (·.typeName)).Nodup := by simp

namespace Catalog

/-- The catalog without descriptors. -/
def empty : Catalog := {}

def size (c : Catalog) : Nat := c.entities.length

def find? (c : Catalog) (name : String) : Option EntityDescriptor := c.entities.find? (·.typeName == name)

/-- The position of a type name in the order of registration. -/
def index? (c : Catalog) (name : String) : Option Nat := c.entities.findIdx? (·.typeName == name)

def contains (c : Catalog) (name : String) : Bool := (c.find? name).isSome

/-- Adds a descriptor, unless its type name is taken. -/
def register (c : Catalog) (d : EntityDescriptor) : Except ConfigurationError Catalog :=
  if h : d.typeName ∈ c.entities.map (·.typeName) then .error (.entity d.typeName .registeredTwice)
  else .ok {
    entities := c.entities ++ [d]
    distinct := by
      rw [List.map_append, List.nodup_append]
      refine ⟨c.distinct, by simp, fun a ha b hb => ?_⟩
      rw [List.map_singleton, List.mem_singleton] at hb
      exact fun hab => h (hb ▸ hab ▸ ha) }

/-- The first ancestor that is registered. -/
def parent? (c : Catalog) (d : EntityDescriptor) : Option EntityDescriptor := d.ancestors.findSome? c.find?

/-- Whether the parent of an entity is another one. -/
def isChildOf (c : Catalog) (d p : EntityDescriptor) : Bool := (c.parent? d).map (·.typeName) == some p.typeName

/-- The entities with a given parent, in the order of registration. -/
def children (c : Catalog) (p : EntityDescriptor) : List EntityDescriptor := c.entities.filter (c.isChildOf · p)

def hasChildren (c : Catalog) (p : EntityDescriptor) : Bool := c.entities.any (c.isChildOf · p)

/-- The entities above an entity, its parent first and the root of its hierarchy last; an error when the links loop. -/
def above (c : Catalog) (d : EntityDescriptor) : Except ConfigurationError (List EntityDescriptor) :=
  match Forest.ascend c.parent? c.size d with
  | some up => .ok up
  | none => .error (.entity d.typeName .cycle)

/-- The entities below an entity, each before those below it. -/
def below (c : Catalog) (d : EntityDescriptor) : List EntityDescriptor := Forest.descend c.children c.size d

end Catalog
end Ormap
