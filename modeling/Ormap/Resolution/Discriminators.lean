import Ormap.Resolution.Columns
/-!
# Discriminator values — given out by the owners of the columns

The owner of a discriminator column gives every entity that the column has to tell apart its value, in order, and
refuses a value that is taken.  In a joined hierarchy every entity with children is an owner and serves its children;
otherwise the root is the only owner and serves all entities below it.  An owner needs its own value first, which its
own owner gives it.
-/
namespace Ormap
namespace Resolution

/-- The value that an entity declares, in the kind and within the length of a discriminator column. -/
def coerceValue (d : EntityDescriptor) (disc : DiscriminatorDescriptor) (raw : String) :
    Except ConfigurationError Value :=
  match disc.kind.coerce raw with
  | .error fault => .error (.entity d.typeName (.badDiscriminatorValue fault))
  | .ok v => match disc.length, v.text? with
    | some length, some text =>
      if length.toNat < text.length then .error (.entity d.typeName (.longDiscriminatorValue text length)) else .ok v
    | _, _ => .ok v

/-- The discriminator column that an entity owns, as it is declared. -/
def ownedDiscriminator? (c : Catalog) (strategy : Strategy) (d : EntityDescriptor) (up : List EntityDescriptor) :
    Option DiscriminatorDescriptor :=
  if ownsDiscriminator c strategy d up then discriminatorInForce d up else none

/-- The value of a root: the one it declares, if it owns a column for it. -/
def rootValue (d : EntityDescriptor) (owned : Option DiscriminatorDescriptor) :
    Except ConfigurationError (Option Value) :=
  match owned, d.discriminatorValue with
  | some disc, some raw => (coerceValue d disc raw).map some
  | _, _ => .ok none

/-- A value together with the entity that has it. -/
structure Holding where
  value : Value
  holder : String
deriving DecidableEq, Repr

/-- The entities that an owner's column tells apart. -/
def served (c : Catalog) (strategy : Strategy) (d : EntityDescriptor) : List EntityDescriptor :=
  match strategy with
  | .joined => c.children d
  | .singleTable | .tablePerClass => c.below d

/-- Gives each entity its value, in order.  A value may not agree with one given out before. -/
def giveOut (owner : String) (disc : DiscriminatorDescriptor) :
    List Holding → List EntityDescriptor → Except ConfigurationError (Cells Value)
  | _, [] => .ok []
  | taken, t :: rest => match t.discriminatorValue with
    | none => .error (.entity t.typeName (.noDiscriminatorValue owner))
    | some raw => do
      let v ← coerceValue t disc raw
      match taken.find? (·.value.agrees v) with
      | some earlier => .error (.entity t.typeName (.takenDiscriminatorValue v earlier.holder))
      | none => do
        let others ← giveOut owner disc (taken ++ [⟨v, t.typeName⟩]) rest
        return (t.typeName, v) :: others

/-- What an owner gives out, its own value being taken. -/
def serve (c : Catalog) (strategy : Strategy) (d : EntityDescriptor) (up : List EntityDescriptor) (own : Option Value) :
    Except ConfigurationError (Cells Value) :=
  match ownedDiscriminator? c strategy d up with
  | none => .ok []
  | some disc => giveOut d.typeName disc ((own.map (⟨·, d.typeName⟩)).toList) (served c strategy d)

/-- The values given out to the entities below an entity by the owner that serves them: the entity itself, or the root
above it.  The owner's columns come first. -/
def givenBelow (cfg : Config) (c : Catalog) :
    EntityDescriptor → List EntityDescriptor → Except ConfigurationError (Cells Value)
  | d, [] => do
    let o ← outline cfg c d []
    let _ ← columns cfg c d []
    let own ← rootValue d (ownedDiscriminator? c o.strategy d [])
    serve c o.strategy d [] own
  | d, parent :: above => do
    let o ← outline cfg c d (parent :: above)
    let _ ← columns cfg c d (parent :: above)
    let given ← givenBelow cfg c parent above
    if o.strategy = .joined then serve c o.strategy d (parent :: above) (Cells.get? d.typeName given)
    else return given

/-- The discriminator value of an entity: what its owner gives it, or a root's own. -/
def discriminatorValue (cfg : Config) (c : Catalog) (d : EntityDescriptor) :
    List EntityDescriptor → Except ConfigurationError (Option Value)
  | [] => do
    let o ← outline cfg c d []
    let _ ← columns cfg c d []
    rootValue d (ownedDiscriminator? c o.strategy d [])
  | parent :: above => do
    return Cells.get? d.typeName (← givenBelow cfg c parent above)

end Resolution
end Ormap
