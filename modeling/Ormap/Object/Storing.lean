import Ormap.Graph
/-!
# Stored objects — an object lowered to one row for each table that holds a part of it

A joined hierarchy stores one row per entity from the root down to the type of the object, each at its depth.  The other
strategies store one row: in the root's table with the columns of all entities on the way, or in the table of the
object's own entity.  The discriminator columns on the way tell the type of the object.
-/
namespace Ormap
namespace Graph

/-- The entity of a type name, which has to be resolved. -/
def requireResolved (g : Graph) (name : String) : Except QueryError Entity := do
  let e ← g.require name
  if e.resolved then return e else throw (.entityNotMapped name)

/-- The table of an entity, which has to have one. -/
def ownTable (e : Entity) : Except MappingError String :=
  match e.tableName with
  | some table => .ok table
  | none => .error (.noTable e.typeName)

/-- The entity whose value goes into the discriminator column that the entity at the place `owner` of a path owns: the
next one on the path in a joined hierarchy, the owner itself when it is the last, and else the last of the path. -/
def discriminatorSource? (strategy : Strategy) (path : List Entity) (owner : Nat) : Option Entity :=
  match strategy with
  | .joined => match path[owner + 1]? with
    | some next => some next
    | none => path[owner]?
  | .singleTable | .tablePerClass => path.getLast?

def discriminatorCell (strategy : Strategy) (path : List Entity) (owner : Nat) (c : Column) : Except Error Value :=
  match discriminatorSource? strategy path owner with
  | none => .error (.mapping (.noDiscriminatorSource c.name))
  | some e => match e.discriminatorValue with
    | some v => .ok v
    | none => .error (.query (.noDiscriminatorValue e.typeName c.name))

/-- The value that a reference has for a foreign-key column: the instance has to be of the entity referred to or of one
below it, and to be stored, so that its key is known. -/
def referenceValue (g : Graph) (record : Record) (key : ForeignKey) (ref : Reference) : Except Error Value := do
  let referred ← (g.require ref.target).mapError .query
  let path ← (g.requireAncestry referred).mapError .mapping
  if !path.any (·.typeName == key.entity) then
    throw (.query (.referenceMismatch record.typeName key.relationship ref.target))
  match ref.key with
  | none => throw (.query (.notPersisted record.typeName key.relationship ref.target))
  | some cells => match Cells.get? key.referenced cells with
    | some v => return v
    | none => throw (.query (.keyLacksColumn record.typeName key.relationship key.referenced))

/-- The value for a foreign-key column.  A missing reference is null where the column allows it. -/
def referenceCell (g : Graph) (record : Record) (c : Column) (key : ForeignKey) : Except Error Value :=
  match Cells.get? key.relationship record.references with
  | some ref => g.referenceValue record key ref
  | none =>
    if c.nullable then .ok .null
    else .error (.query (.referenceRequired record.typeName key.relationship c.name))

/-- The value for a column in the row of the entity at the place `owner` of the path of an object. -/
def cellValue (g : Graph) (record : Record) (strategy : Strategy) (path : List Entity) (owner : Nat) (c : Column) :
    Except Error Value :=
  match c.role with
  | .discriminator _ => discriminatorCell strategy path owner c
  | .foreignKey key => g.referenceCell record c key
  | .simple => match c.field with
    | some field => .ok (record.get field)
    | none => .ok .null

/-- Adds the cells of columns to a row, in order. -/
def fillRow (g : Graph) (record : Record) (strategy : Strategy) (path : List Entity) (owner : Nat) :
    List Column → TableRow → Except Error TableRow
  | [], row => .ok row
  | c :: cs, row => do
    let v ← g.cellValue record strategy path owner c
    let written ← (c.write v row).mapError .marshalling
    g.fillRow record strategy path owner cs written

/-- The row of an object in the table of an entity, with the cells of the given columns. -/
def rowOf (g : Graph) (record : Record) (strategy : Strategy) (path : List Entity) (owner : Nat) (e : Entity)
    (columns : List Column) : Except Error TableRow := do
  let table ← (ownTable e).mapError .mapping
  g.fillRow record strategy path owner columns { entity := e.typeName, table, level := owner }

/-- The rows of an object in a joined hierarchy, for the rest of its path from the place `owner` on. -/
def joinedRows (g : Graph) (record : Record) (path : List Entity) :
    Nat → List Entity → Except Error (List TableRow)
  | _, [] => .ok []
  | owner, e :: rest => do
    let row ← g.rowOf record .joined path owner e e.columns
    let rows ← g.joinedRows record path (owner + 1) rest
    return row :: rows

/-- The columns that the one row of an object in a single table holds. -/
def singleTableColumns (root : Entity) (rest : List Entity) : List Column := root.columns ++ rest.flatMap (·.ownColumns)

/-- The rows of an object of the entity `e`, which is at the end of a path. -/
def rowsAlong (g : Graph) (record : Record) (e : Entity) (path : List Entity) : Except Error (List TableRow) :=
  match e.strategy, path with
  | .joined, path => g.joinedRows record path 0 path
  | .singleTable, [] => .error (.mapping (.emptyAncestry e.typeName))
  | .singleTable, root :: rest => do
    return [← g.rowOf record .singleTable (root :: rest) 0 root (singleTableColumns root rest)]
  | .tablePerClass, path => do
    return [← g.rowOf record .tablePerClass path 0 e e.columns]

/-- The rows of an object of the entity `e`. -/
def rowsOf (g : Graph) (record : Record) (e : Entity) : Except Error (List TableRow) := do
  g.rowsAlong record e (← (g.requireAncestry e).mapError .mapping)

/-- The rows of an object, root table first. -/
def rows (g : Graph) (record : Record) : Except Error (List TableRow) := do
  let e ← (g.requireResolved record.typeName).mapError .query
  if e.isAbstract then throw (.query (.abstractInstance e.typeName))
  g.rowsOf record e

end Graph
end Ormap
