import Ormap.Catalog
/-!
# Relationships — references between entities, each with one owning side

The owning side carries the foreign key, or the join table of a many-to-many relationship.  The other side names the
owning field.  A relationship is classified by descriptors alone: those of its two entities and of the ancestors of the
entity referred to, where its mirror may be declared.
-/
namespace Ormap

/-- A field of an entity, by name. -/
structure FieldName where
  entity : String
  field : String
deriving DecidableEq, Repr

/-- A resolved reference between entities. -/
structure Relationship where
  field : String
  /-- The entity that declares the field. -/
  source : String
  /-- The entity that the field refers to. -/
  target : String
  kind : Cardinality
  owning : Bool
  /-- The field that declares the same relationship from the other side. -/
  mirror : Option FieldName
  joinColumns : List JoinColumnDescriptor
  joinTable : Option JoinTableDescriptor
deriving DecidableEq, Repr

namespace Relationship

/-- Whether the table of the declaring side carries foreign-key columns. -/
def hasForeignKey (r : Relationship) : Bool := r.owning && (r.kind == .manyToOne || r.kind == .oneToOne)

def hasJoinTable (r : Relationship) : Bool := r.owning && r.kind == .manyToMany

/-- The field whose columns are the foreign key: the field itself, or the mirror of a side that does not own.
Many-to-many relationships keep their keys in the join table. -/
def foreignKeyHolder? (r : Relationship) : Option FieldName :=
  match r.kind with
  | .manyToMany => none
  | _ => if r.owning then some ⟨r.source, r.field⟩ else r.mirror

/-- Whether a reference is to an entity or to one of its declared ancestors. -/
def refersTo (r : RelationshipDescriptor) (d : EntityDescriptor) : Bool :=
  r.target == d.typeName || d.ancestors.contains r.target

/-- Whether the declaring side owns the relationship. -/
def owning? (r : RelationshipDescriptor) : Except FieldFault Bool :=
  match r.kind, r.mappedBy with
  | .manyToOne, some _ => .error .manyToOneMapped
  | .oneToMany, none => .error .oneToManyUnmapped
  | _, mappedBy => .ok mappedBy.isNone

/-- Where a mirror may be declared: the entity referred to, then its registered ancestors in order of declaration. -/
def mirrorScope (c : Catalog) (linked : EntityDescriptor) : List EntityDescriptor :=
  linked :: linked.ancestors.filterMap c.find?

/-- The first entity of a scope that declares a field, with the field. -/
def declaring? (field : String) (scope : List EntityDescriptor) : Option (EntityDescriptor × FieldDescriptor) :=
  scope.findSome? fun d => (d.field? field).map (d, ·)

/-- The owning field that a side that does not own names. -/
def checkMirror (d : EntityDescriptor) (r : RelationshipDescriptor) (scope : List EntityDescriptor)
    (mappedBy : String) : Except MirrorFault FieldName :=
  match declaring? mappedBy scope with
  | none => .error .missing
  | some (holder, field) => match field.relationship? with
    | none => .error .noRelationship
    | some mirror =>
      if mirror.kind ≠ r.kind.reciprocal then .error .notReciprocal
      else if mirror.mappedBy.isSome then .error .notOwning
      else if refersTo mirror d then .ok ⟨holder.typeName, mappedBy⟩
      else .error (.refersTo mirror.target)

/-- Whether a field of the other side names the owning field `field` of `d`. -/
def isInverse (d : EntityDescriptor) (field : String) (candidate : FieldDescriptor) : Bool :=
  match candidate.relationship? with
  | some inverse => inverse.mappedBy == some field && refersTo inverse d
  | none => false

/-- The first field of a scope that names the owning field, with its entity. -/
def inverse? (d : EntityDescriptor) (field : String) (scope : List EntityDescriptor) :
    Option (EntityDescriptor × FieldDescriptor) :=
  scope.findSome? fun linked => (linked.fields.find? (isInverse d field)).map (linked, ·)

/-- The field that names an owning field, if there is one.  It has to have the reciprocal cardinality; a fault in it is
its own. -/
def findInverse (d : EntityDescriptor) (field : String) (r : RelationshipDescriptor) (scope : List EntityDescriptor) :
    Except ConfigurationError (Option FieldName) :=
  match inverse? d field scope with
  | none => .ok none
  | some (linked, candidate) =>
    if candidate.relationship?.map (·.kind) = some r.kind.reciprocal then
      .ok (some ⟨linked.typeName, candidate.name⟩)
    else .error (.field linked.typeName candidate.name (.inverseNotReciprocal d.typeName field))

/-- The mirror of a reference field, checked. -/
def findMirror (d : EntityDescriptor) (field : String) (r : RelationshipDescriptor) (linked : EntityDescriptor)
    (scope : List EntityDescriptor) : Except ConfigurationError (Option FieldName) :=
  match r.mappedBy with
  | some mappedBy => match checkMirror d r scope mappedBy with
    | .ok holder => .ok (some holder)
    | .error fault => .error (.field d.typeName field (.brokenMirror linked.typeName mappedBy fault))
  | none => findInverse d field r scope

/-- Why the declaring side may not declare what it does, if so. -/
def placementFault? (r : RelationshipDescriptor) (owning : Bool) : Option FieldFault :=
  if !owning && !r.joinColumns.isEmpty then some .joinColumnsNotOwning
  else if r.joinTable.isSome && !(owning && r.kind == .manyToMany) then some .joinTableNotOwning
  else none

/-- The reference field `field` of `d` to the entity `linked`, the owning side known. -/
def resolve (c : Catalog) (d : EntityDescriptor) (field : String) (r : RelationshipDescriptor)
    (linked : EntityDescriptor) (owning : Bool) : Except ConfigurationError Relationship := do
  let mirror ← findMirror d field r linked (mirrorScope c linked)
  return { field, source := d.typeName, target := linked.typeName, kind := r.kind, owning, mirror,
           joinColumns := r.joinColumns, joinTable := r.joinTable }

/-- Classifies the reference field `field` of `d`. -/
def classify (c : Catalog) (d : EntityDescriptor) (field : String) (r : RelationshipDescriptor) :
    Except ConfigurationError Relationship :=
  match c.find? r.target, owning? r with
  | none, _ => .error (.field d.typeName field (.unknownTarget r.target))
  | some _, .error fault => .error (.field d.typeName field fault)
  | some linked, .ok owning => match placementFault? r owning with
    | some fault => .error (.field d.typeName field fault)
    | none => resolve c d field r linked owning

/-- The relationships of an entity, in the order of its fields.  Transient fields are left out. -/
def ofEntity (c : Catalog) (d : EntityDescriptor) : Except ConfigurationError (List Relationship) :=
  (d.fields.filter (!·.transient)).filterMap (fun f => f.relationship?.map (f.name, ·))
    |>.mapM fun (field, r) => classify c d field r

end Relationship
end Ormap
