import Ormap.Column
import Ormap.Resolution.Outline
/-!
# Column sets — base columns down the hierarchy, then foreign keys

Base columns are the plain columns and the discriminator column, with the copies inherited from the parent.  Foreign
keys refer to base columns only, so that entities may refer to themselves and to each other.
-/
namespace Ormap
namespace Resolution

/-- The nearest declaration of a discriminator column, from an entity upwards. -/
def discriminatorInForce (d : EntityDescriptor) (up : List EntityDescriptor) : Option DiscriminatorDescriptor :=
  (d :: up).findSome? (·.discriminatorColumn)

/-- Whether an entity owns a discriminator column: it has children, and is a root or lies in a joined hierarchy. -/
def ownsDiscriminator (c : Catalog) (strategy : Strategy) (d : EntityDescriptor) (up : List EntityDescriptor) : Bool :=
  c.hasChildren d && (strategy == .joined || up.isEmpty)

/-! ## Base columns -/

/-- What a child takes over of its parent's columns. -/
def passedOn (strategy : Strategy) (c : Column) : Bool := strategy == .tablePerClass || c.primaryKey

/-- The column of a plain field.  Only a root can declare keys. -/
def plainColumn (d : EntityDescriptor) (isRoot : Bool) (f : FieldDescriptor) :
    Except ConfigurationError (Option Column) :=
  match f.mapping with
  | .relationship _ => .ok none
  | .column type isKey column =>
    if isKey && !isRoot then .error (.field d.typeName f.name .keyBelowRoot)
    else .ok (some (Column.plain d.typeName f.name type isKey column))

/-- The plain columns of an entity, in the order of its fields.  Transient fields are left out. -/
def plainColumns (d : EntityDescriptor) (isRoot : Bool) : Except ConfigurationError (List Column) := do
  return (← (d.fields.filter (!·.transient)).mapM (plainColumn d isRoot)).filterMap id

/-- Refuses a discriminator column of another kind than the parent's. -/
def checkKind (d : EntityDescriptor) (up : List EntityDescriptor) (disc : DiscriminatorDescriptor) :
    Except ConfigurationError Unit :=
  match up with
  | [] => .ok ()
  | parent :: above => match discriminatorInForce parent above with
    | none => .error (.entity parent.typeName .noDiscriminatorColumn)
    | some used =>
      if used.kind = disc.kind then .ok ()
      else .error (.entity d.typeName (.otherDiscriminatorKind disc.kind used.kind parent.typeName))

/-- Gives the role of the discriminator to the plain column of that name, or adds a column of its own. -/
def placeDiscriminator (d : EntityDescriptor) (disc : DiscriminatorDescriptor) (own : List Column) :
    Except ConfigurationError (List Column) :=
  match own.find? (·.name == disc.name) with
  | none => .ok (own ++ [Column.ofDiscriminator d.typeName disc])
  | some explicit =>
    if explicit.primaryKey then .error (.entity d.typeName (.keyAsDiscriminator disc.name))
    else if explicit.type.sqlType ≠ disc.kind.type.sqlType then
      .error (.entity d.typeName (.unfitDiscriminatorColumn disc.name explicit.type disc.kind))
    else .ok (own.map fun c => if c.name = disc.name then c.asDiscriminator disc.kind else c)

/-- The columns that an entity adds to its base columns: the plain ones and the discriminator that it owns. -/
def ownColumns (c : Catalog) (strategy : Strategy) (d : EntityDescriptor) (up : List EntityDescriptor) :
    Except ConfigurationError (List Column) := do
  let own ← plainColumns d up.isEmpty
  if ownsDiscriminator c strategy d up then
    match discriminatorInForce d up with
    | none => .error (.entity d.typeName .noDiscriminatorColumn)
    | some disc => do
      checkKind d up disc
      placeDiscriminator d disc own
  else return own

/-- Refuses a root without a key. -/
def checkKey (d : EntityDescriptor) (up : List EntityDescriptor) (columns : List Column) :
    Except ConfigurationError Unit :=
  if up.isEmpty && !columns.any (·.primaryKey) then .error (.entity d.typeName .noPrimaryKey) else .ok ()

/-- The base columns of an entity, given those of its parent. -/
def extendBase (c : Catalog) (strategy : Strategy) (d : EntityDescriptor) (up : List EntityDescriptor)
    (parentBase : List Column) : Except ConfigurationError (List Column) := do
  let inherited := (parentBase.filter (passedOn strategy)).map Column.inheritedCopy
  let own ← ownColumns c strategy d up
  checkKey d up (inherited ++ own)
  Column.checkDistinct d.typeName (inherited ++ own)
  return inherited ++ own

/-- The base columns of an entity. -/
def baseColumns (cfg : Config) (c : Catalog) :
    EntityDescriptor → List EntityDescriptor → Except ConfigurationError (List Column)
  | d, [] => do
    let o ← outline cfg c d []
    extendBase c o.strategy d [] []
  | d, parent :: above => do
    let o ← outline cfg c d (parent :: above)
    let parentBase ← baseColumns cfg c parent above
    extendBase c o.strategy d (parent :: above) parentBase

/-- The base columns of an entity of the catalog. -/
def baseColumnsOf (cfg : Config) (c : Catalog) (d : EntityDescriptor) : Except ConfigurationError (List Column) := do
  baseColumns cfg c d (← c.above d)

/-! ## Foreign keys -/

/-- A column to create, with the column that it refers to. -/
structure JoinColumn where
  name : String
  referenced : Column
  nullable : Bool
  unique : Bool
  onUpdate : Option ReferentialAction
  onDelete : Option ReferentialAction
deriving DecidableEq, Repr

/-- The join column for a key column that nothing is declared about. -/
def JoinColumn.ofKey (defaultName : String → String) (key : Column) : JoinColumn where
  name := defaultName key.name
  referenced := key
  nullable := true
  unique := false
  onUpdate := none
  onDelete := none

/-- The join column of a declaration, with the column that it refers to. -/
def JoinColumn.ofDeclared (defaultName : String → String) (j : JoinColumnDescriptor) (referenced : Column) :
    JoinColumn where
  name := j.name.getD (defaultName referenced.name)
  referenced := referenced
  nullable := j.nullable
  unique := j.unique
  onUpdate := j.onUpdate
  onDelete := j.onDelete

/-- The column that a declared join column refers to: the one it names, or the only key column. -/
def referencedColumn (target : String) (columns keys : List Column) (j : JoinColumnDescriptor) :
    Except FieldFault Column :=
  match j.referencedColumn with
  | some name => match columns.find? (·.name == name) with
    | some column => .ok column
    | none => .error (.unknownReferencedColumn target name)
  | none => match keys with
    | [key] => .ok key
    | _ => .error (.compositeKey target)

/-- The join columns towards a target: those declared, or one for each of its key columns. -/
def joinColumns (declared : List JoinColumnDescriptor) (target : String) (columns : List Column)
    (defaultName : String → String) : Except FieldFault (List JoinColumn) :=
  let keys := columns.filter (·.primaryKey)
  if keys.isEmpty then .error (.targetWithoutKey target)
  else if declared.isEmpty then .ok (keys.map (JoinColumn.ofKey defaultName))
  else declared.mapM fun j => do
    return JoinColumn.ofDeclared defaultName j (← referencedColumn target columns keys j)

/-- Reports a fault under the field that it concerns. -/
def underField (entity field : String) : Except FieldFault α → Except ConfigurationError α
  | .ok x => .ok x
  | .error fault => .error (.field entity field fault)

/-- The foreign-key column of a join column.  The only column of a one-to-one relationship is unique. -/
def foreignKeyColumn (cfg : Config) (r : Relationship) (isOnly : Bool) (j : JoinColumn) : Column :=
  Column.reference r.source j.name j.referenced.type j.nullable (j.unique || isOnly && r.kind == .oneToOne)
    { entity := r.target
      relationship := r.field
      referenced := j.referenced.name
      onUpdate := j.onUpdate.getD cfg.defaultOnUpdate
      onDelete := j.onDelete.getD cfg.defaultOnDelete }

/-- The foreign-key columns of a relationship, given the base columns of its target. -/
def relationshipColumns (cfg : Config) (r : Relationship) (targetBase : List Column) :
    Except ConfigurationError (List Column) := do
  let js ← underField r.source r.field
    (joinColumns r.joinColumns r.target targetBase (Naming.defaultForeignKeyName r.field))
  return js.map (foreignKeyColumn cfg r (js.length == 1))

def foreignKeysOf (cfg : Config) (c : Catalog) (r : Relationship) : Except ConfigurationError (List Column) :=
  match c.find? r.target with
  | none => .error (.field r.source r.field (.unknownTarget r.target))
  | some target => do
    relationshipColumns cfg r (← baseColumnsOf cfg c target)

/-- The foreign-key columns that an entity declares, in the order of its relationships. -/
def ownForeignKeys (cfg : Config) (c : Catalog) (rs : List Relationship) : Except ConfigurationError (List Column) := do
  return (← (rs.filter (·.hasForeignKey)).mapM (foreignKeysOf cfg c)).flatten

/-- The whole column set of an entity, given its base columns and the foreign keys that its parent passes on. -/
def extendColumns (cfg : Config) (c : Catalog) (o : Outline) (d : EntityDescriptor) (base : List Column)
    (parentColumns : List Column) : Except ConfigurationError (List Column) := do
  let inherited := (parentColumns.filter (·.isForeignKey)).map Column.inheritedCopy
  let own ← ownForeignKeys cfg c o.relationships
  Column.checkDistinct d.typeName (base ++ inherited ++ own)
  return base ++ inherited ++ own

/-- The whole column set of an entity.  Foreign keys are inherited where each class has a table of its own. -/
def columns (cfg : Config) (c : Catalog) :
    EntityDescriptor → List EntityDescriptor → Except ConfigurationError (List Column)
  | d, [] => do
    let base ← baseColumns cfg c d []
    let o ← outline cfg c d []
    extendColumns cfg c o d base []
  | d, parent :: above => do
    let base ← baseColumns cfg c d (parent :: above)
    let o ← outline cfg c d (parent :: above)
    let parentColumns ← if o.strategy = .tablePerClass then columns cfg c parent above else pure []
    extendColumns cfg c o d base parentColumns

end Resolution
end Ormap
