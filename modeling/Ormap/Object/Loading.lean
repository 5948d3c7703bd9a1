import Ormap.Object.Leaf
import Ormap.Object.Storing
/-!
# Loaded objects — a query row lifted back to the object that it describes

The object has a value for every field behind a column on the way from the root to its entity.  References are not
loaded.
-/
namespace Ormap
namespace Graph

/-- The field that a column loads; foreign keys load none. -/
def loadedField? (c : Column) : Option String := if c.isForeignKey then none else c.field

/-- Adds the fields of columns at a level to an object, in order. -/
def loadColumns (row : Row) (level : Nat) : List Column → Record → Except MarshallingError Record
  | [], record => .ok record
  | c :: cs, record => match loadedField? c with
    | none => loadColumns row level cs record
    | some field => do
      let v ← c.read row level
      loadColumns row level cs (record.set field v)

/-- Adds the fields of the own columns of the entities on a path, in order. -/
def loadPath (g : Graph) (row : Row) : List Entity → Record → Except Error Record
  | [], record => .ok record
  | e :: rest, record => do
    let level ← (g.requireAliasLevel e).mapError .mapping
    g.loadPath row rest (← (loadColumns row level e.ownColumns record).mapError .marshalling)

/-- The object that a row of a query over the entity of a type name describes. -/
def record (g : Graph) (name : String) (row : Row) : Except Error Record := do
  let e ← (g.requireResolved name).mapError .query
  let leaf ← g.leaf e row
  if leaf.isAbstract then throw (.marshalling (.abstractRow name leaf.typeName))
  g.loadPath row (← (g.requireAncestry leaf).mapError .mapping) { typeName := leaf.typeName }

end Graph
end Ormap
