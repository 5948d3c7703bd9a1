import Ormap.Graph
/-!
# Leaves — the most specific entity that a query row describes

A query over an entity also finds the objects of the entities below it.  The discriminator columns in the row tell which
entity it is: in a joined hierarchy one column for each step down, otherwise the root's column alone.
-/
namespace Ormap
namespace Graph

/-- Whether an entity has a discriminator value. -/
def answersTo (stored : Value) (e : Entity) : Bool :=
  match e.discriminatorValue with
  | some own => own.agrees stored
  | none => false

/-- Whether a discriminator value leads no further down than the entity itself. -/
def stopsAt (e : Entity) (stored : Value) : Bool := stored.isNull || answersTo stored e

/-- The first of the candidates below `top` that has a discriminator value. -/
def findByValue (top : Entity) (candidates : List Entity) (stored : Value) : Except MarshallingError Entity :=
  match candidates.find? (answersTo stored) with
  | some e => .ok e
  | none => .error (.noLeaf stored top.typeName)

/-- Steps down a joined hierarchy, at most `bound` times.  Each step reads the entity's own discriminator column at the
entity's depth. -/
def joinedLeaf (g : Graph) (row : Row) : Nat → Entity → Except Error Entity
  | 0, e => .ok e
  | bound + 1, e => match e.discriminatorColumn? with
    | none => .ok e
    | some c => do
      let depth ← (g.requireDepth e).mapError .mapping
      let stored ← (c.read row depth).mapError .marshalling
      if stopsAt e stored then return e
      let children ← (g.requireChildren e).mapError .mapping
      g.joinedLeaf row bound (← (findByValue e children stored).mapError .marshalling)

/-- The entity at or below `e` that the discriminator column of the root tells. -/
def leafByRoot (g : Graph) (row : Row) (root e : Entity) : Except Error Entity :=
  match root.discriminatorColumn? with
  | none => .ok e
  | some c => do
    let stored ← (c.read row 0).mapError .marshalling
    if stopsAt e stored then return e
    let below ← (g.requireDescendants e).mapError .mapping
    (findByValue e below stored).mapError .marshalling

/-- The most specific entity that a row describes where the root's column tells all entities apart. -/
def sharedLeaf (g : Graph) (row : Row) (e : Entity) : Except Error Entity :=
  if !e.hasChildren then .ok e
  else do g.leafByRoot row (← (g.requireRoot e).mapError .mapping) e

/-- The most specific entity that a row of a query over `e` describes. -/
def leaf (g : Graph) (e : Entity) (row : Row) : Except Error Entity :=
  match e.strategy with
  | .joined => g.joinedLeaf row g.size e
  | .singleTable | .tablePerClass => g.sharedLeaf row e

end Graph
end Ormap
