import Ormap.Config
import Ormap.Discriminator
/-!
# Errors — what can go wrong, by cause

Errors are grouped by what they concern.  A cause names what it is about; the wording is in one function per group.
-/
namespace Ormap

/-- The groups of errors. -/
inductive ErrorKind where
  /-- Descriptors or a configuration are invalid or incomplete. -/
  | configuration
  /-- The resolved graph lacks something that resolution guarantees. -/
  | mapping
  /-- A value does not fit the declared type of its column. -/
  | marshalling
  /-- The caller asks for something that the database does not know or allow. -/
  | query
  /-- The connection failed. -/
  | storage
  /-- A lock could not be taken. -/
  | lock
deriving DecidableEq, Repr

namespace ErrorKind

def name : ErrorKind → String
  | configuration => "Configuration"
  | mapping => "Mapping"
  | marshalling => "Marshalling"
  | query => "Query"
  | storage => "Storage"
  | lock => "Lock"

end ErrorKind

/-- What is wrong with the field that a relationship is mapped by. -/
inductive MirrorFault where
  | missing
  | noRelationship
  | notReciprocal
  | notOwning
  | refersTo (target : String)
deriving DecidableEq, Repr

def MirrorFault.message : MirrorFault → String
  | missing => "does not exist"
  | noRelationship => "is not a relationship"
  | notReciprocal => "has a non-reciprocal cardinality"
  | notOwning => "is itself mapped_by another field"
  | refersTo target => s!"refers to '{target}'"

/-- What is wrong with one field of an entity. -/
inductive FieldFault where
  | manyToOneMapped
  | oneToManyUnmapped
  | joinColumnsNotOwning
  | joinTableNotOwning
  | brokenMirror (linked mappedBy : String) (fault : MirrorFault)
  | inverseNotReciprocal (entity field : String)
  | unknownTarget (target : String)
  | keyBelowRoot
  | targetWithoutKey (target : String)
  | unknownReferencedColumn (target column : String)
  | compositeKey (target : String)
  | joinTableColumnTwice (table column : String)
  | noTableToJoin (entity : String)
deriving DecidableEq, Repr

def FieldFault.message : FieldFault → String
  | manyToOneMapped => "a many-to-one relationship always owns its foreign key and cannot be mapped_by"
  | oneToManyUnmapped => "a one-to-many relationship must be mapped_by its many-to-one mirror"
  | joinColumnsNotOwning => "join columns can only be declared on the owning side"
  | joinTableNotOwning =>
    "a join table can only be declared on the owning side of a many-to-many relationship"
  | brokenMirror linked mappedBy fault => s!"mapped_by '{linked}.{mappedBy}' " ++ fault.message
  | inverseNotReciprocal entity field => s!"mapped_by '{entity}.{field}' " ++ MirrorFault.notReciprocal.message
  | unknownTarget target => s!"target '{target}' is not an entity"
  | keyBelowRoot => "only a hierarchy root can declare primary key columns"
  | targetWithoutKey target => s!"target '{target}' has no primary key to reference"
  | unknownReferencedColumn target column => s!"'{target}' has no column '{column}'"
  | compositeKey target => s!"join column must name its referenced column; '{target}' has a composite key"
  | joinTableColumnTwice table column => s!"join table '{table}' maps column '{column}' more than once"
  | noTableToJoin entity => s!"'{entity}' has no table a join table could reference"

/-- What is wrong with an entity as a whole. -/
inductive EntityFault where
  | registeredTwice
  | alreadyMapping (database : String)
  | cycle
  | otherStrategy (declared : Strategy) (root : String) (used : Strategy)
  | noTableDeclared (strategy : Strategy)
  | noDiscriminatorColumn
  | otherDiscriminatorKind (declared used : DiscriminatorKind) (parent : String)
  | keyAsDiscriminator (column : String)
  | unfitDiscriminatorColumn (column : String) (type : Attribute) (kind : DiscriminatorKind)
  | noPrimaryKey
  | columnTwice (column : String)
  | noDiscriminatorValue (owner : String)
  | badDiscriminatorValue (fault : CoercionFault)
  | longDiscriminatorValue (text : String) (length : UInt64)
  | takenDiscriminatorValue (value : Value) (holder : String)
  | unknownUniqueColumn (column : String)
  | clashInSingleTable (column holder table : String)
  | referencesNoTable (target : String)
  | noMigrator (stored wanted : UInt32)
deriving DecidableEq, Repr

def EntityFault.message : EntityFault → String
  | registeredTwice => "type is registered twice"
  | alreadyMapping database => s!"database '{database}' is already mapping; entities must be registered first"
  | cycle => "ancestor chain contains a cycle"
  | otherStrategy declared root used =>
    "declares " ++ declared.name ++ s!" inheritance but its hierarchy root '{root}' uses " ++ used.name
  | noTableDeclared strategy => strategy.name ++ " inheritance requires table metadata"
  | noDiscriminatorColumn => "has child entities but no discriminator column is declared"
  | otherDiscriminatorKind declared used parent =>
    "discriminator kind " ++ declared.name ++ " differs from the kind " ++ used.name ++ s!" used by '{parent}'"
  | keyAsDiscriminator column => s!"primary key column '{column}' cannot be the discriminator"
  | unfitDiscriminatorColumn column type kind =>
    s!"column '{column}' of type " ++ type.display ++ " cannot hold " ++ kind.name ++ " discriminator values"
  | noPrimaryKey => "hierarchy root declares no primary key"
  | columnTwice column => s!"column '{column}' is mapped more than once"
  | noDiscriminatorValue owner => s!"extends '{owner}' but declares no discriminator value"
  | badDiscriminatorValue fault => "discriminator value " ++ fault.message
  | longDiscriminatorValue text length =>
    s!"discriminator value '{text}' exceeds the column length " ++ toString length.toNat
  | takenDiscriminatorValue value holder =>
    "discriminator value '" ++ value.display ++ s!"' is already used by '{holder}'"
  | unknownUniqueColumn column => s!"unique constraint names unknown column '{column}'"
  | clashInSingleTable column holder table =>
    s!"column '{column}' clashes with the one mapped by '{holder}' in single table '{table}'"
  | referencesNoTable target => s!"references '{target}', which has no table"
  | noMigrator stored wanted =>
    "no migrator to move from version " ++ toString stored.toNat ++ " to " ++ toString wanted.toNat

inductive ConfigurationError where
  | config (fault : Config.Fault)
  | entity (name : String) (fault : EntityFault)
  | field (owner name : String) (fault : FieldFault)
deriving DecidableEq, Repr

def ConfigurationError.message : ConfigurationError → String
  | config fault => fault.message
  | entity name fault => s!"entity '{name}': " ++ fault.message
  | field owner name fault => s!"entity '{owner}', field '{name}': " ++ fault.message

inductive MappingError where
  | unknownEntity (index : Nat) (database : String)
  /-- A name that an entity holds is that of none. -/
  | missingEntity (name database : String)
  | emptyAncestry (entity : String)
  | noTable (entity : String)
  | noDiscriminatorSource (column : String)
  | keylessTable (table : String)
deriving DecidableEq, Repr

def MappingError.message : MappingError → String
  | unknownEntity index database => "entity #" ++ toString index ++ s!" is not part of database '{database}'"
  | missingEntity name database => s!"entity '{name}' is not part of database '{database}'"
  | emptyAncestry entity => s!"Entity '{entity}' has an empty ancestry"
  | noTable entity => s!"Entity '{entity}' has no table"
  | noDiscriminatorSource column => s!"No entity on the path stores discriminator column '{column}'"
  | keylessTable table => s!"Table '{table}' has no primary key"

inductive MarshallingError where
  | outOfRange (column : String) (type : Attribute) (n : Int64)
  | mismatch (column : String) (type : Attribute) (value : Value)
  | finerThanMillis (column : String) (instant : Timestamp)
  | noInstant (column : String) (millis : Int64)
  | noUuid (column : String)
  | noLiteral (x : Binary64)
  | noLabel (label : String)
  | abstractRow (queried leaf : String)
  | noLeaf (value : Value) (top : String)
deriving DecidableEq, Repr

def MarshallingError.message : MarshallingError → String
  | outOfRange column type n =>
    s!"Column '{column}' of type " ++ type.display ++ " cannot hold " ++ toString n.toInt
  | mismatch column type value =>
    s!"Column '{column}' expects " ++ type.display ++ ", got " ++ value.typeName ++ " (" ++ value.display ++ ")"
  | finerThanMillis column instant =>
    s!"Column '{column}' stores milliseconds, " ++ instant.prose ++ " carries sub-millisecond precision"
  | noInstant column millis => s!"Column '{column}' holds an out-of-range epoch value " ++ toString millis.toInt
  | noUuid column => s!"Column '{column}' holds an invalid uuid"
  | noLiteral x => "Real value " ++ x.text ++ " has no SQL literal"
  | noLabel label => s!"Row has no column labelled '{label}'"
  | abstractRow queried leaf => s!"Row of '{queried}' resolves to abstract entity '{leaf}'"
  | noLeaf value top => "Discriminator value '" ++ value.display ++ s!"' matches no entity below '{top}'"

inductive QueryError where
  | unknownColumn (column entity : String)
  | unknownEntity (name database : String)
  | noOwnTable (entity : String)
  | notMapped (database : String)
  | noJoinTable (field : String)
  | abstractInstance (entity : String)
  | entityNotMapped (entity : String)
  | referenceRequired (entity field column : String)
  | referenceMismatch (entity field target : String)
  | notPersisted (entity field target : String)
  | keyLacksColumn (entity field column : String)
  | noDiscriminatorValue (entity column : String)
  | keyWithoutValue (key table : String)
deriving DecidableEq, Repr

def QueryError.message : QueryError → String
  | unknownColumn column entity => s!"Column '{column}' does not belong to entity '{entity}'"
  | unknownEntity name database => s!"'{name}' is not an entity of database '{database}'"
  | noOwnTable entity => s!"entity '{entity}' has no table of its own"
  | notMapped database => s!"database '{database}' is not mapped; call map_entities first"
  | noJoinTable field => s!"relationship '{field}' has no join table"
  | abstractInstance entity => s!"Cannot persist an instance of abstract entity '{entity}'"
  | entityNotMapped entity => s!"Entity '{entity}' is not mapped; map the database first"
  | referenceRequired entity field column => s!"'{entity}.{field}' requires a reference for column '{column}'"
  | referenceMismatch entity field target => s!"'{entity}.{field}' cannot refer to a '{target}'"
  | notPersisted entity field target => s!"'{entity}.{field}' refers to a '{target}' that is not persisted yet"
  | keyLacksColumn entity field column => s!"Reference key for '{entity}.{field}' lacks column '{column}'"
  | noDiscriminatorValue entity column => s!"Entity '{entity}' has no discriminator value for column '{column}'"
  | keyWithoutValue key table => s!"Primary key '{key}' of table '{table}' has no value"

inductive StorageError where
  | rejected (statement : String)
  | alreadyActive
  | notActive
deriving DecidableEq, Repr

def StorageError.message : StorageError → String
  | rejected statement => "statement rejected: " ++ statement
  | alreadyActive => "Transaction already active"
  | notActive => "No active transaction"

/-- What can go wrong in any operation.  Connections, migrators and readers of typed objects raise errors in words of
their own. -/
inductive Error where
  | configuration (e : ConfigurationError)
  | mapping (e : MappingError)
  | marshalling (e : MarshallingError)
  | query (e : QueryError)
  | storage (e : StorageError)
  | raised (kind : ErrorKind) (text : String)
deriving DecidableEq, Repr

namespace Error

def kind : Error → ErrorKind
  | configuration _ => .configuration
  | mapping _ => .mapping
  | marshalling _ => .marshalling
  | query _ => .query
  | storage _ => .storage
  | raised kind _ => kind

/-- The message of an error, without its group. -/
def detail : Error → String
  | configuration e => e.message
  | mapping e => e.message
  | marshalling e => e.message
  | query e => e.message
  | storage e => e.message
  | raised _ text => text

/-- The message of an error, its group in front. -/
def message (e : Error) : String := e.kind.name ++ " error: " ++ e.detail

end Error
end Ormap
