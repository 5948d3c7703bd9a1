/-!
# Attributes — the declared types of fields, and the storage families of columns

A field declares one of thirteen attribute types; a column stores one of four families of values.
-/
namespace Ormap

/-- The storage families of the store. -/
inductive SqlType where
  | integer
  | real
  | text
  | blob
deriving DecidableEq, Repr

def SqlType.keyword : SqlType → String
  | integer => "INTEGER"
  | real => "REAL"
  | text => "TEXT"
  | blob => "BLOB"

/-- The declared type of a mapped field. -/
inductive Attribute where
  | byte
  | short
  | integer
  | long
  | float
  | double
  | boolean
  | char
  | string
  | bytes
  /-- Stored as milliseconds since the first of January 1970. -/
  | date
  /-- Stored as text in groups of hexadecimal digits. -/
  | uuid
  /-- Stored as the name of the variant. -/
  | choice (variants : List String)
deriving DecidableEq, Repr

namespace Attribute

/-- The storage family of a declared type. -/
def sqlType : Attribute → SqlType
  | byte | short | integer | long | boolean | date => .integer
  | float | double => .real
  | char | string | uuid | choice _ => .text
  | bytes => .blob

/-- A declared type as messages show it. -/
def display : Attribute → String
  | byte => "byte"
  | short => "short"
  | integer => "integer"
  | long => "long"
  | float => "float"
  | double => "double"
  | boolean => "boolean"
  | char => "char"
  | string => "string"
  | bytes => "bytes"
  | date => "date"
  | uuid => "uuid"
  | choice variants => "enum(" ++ "|".intercalate variants ++ ")"

/-- The number of bits of the whole-number types. -/
def width? : Attribute → Option Nat
  | byte => some 8
  | short => some 16
  | integer => some 32
  | long => some 64
  | _ => none

/-- Whether a whole number lies in the range of a signed type of that many bits. -/
def fits (width : Nat) (n : Int) : Bool :=
  -(Nat.pow 2 (width - 1) : Int) ≤ n && n < (Nat.pow 2 (width - 1) : Int)

end Attribute

/-- The declared type of a discriminator column. -/
inductive DiscriminatorKind where
  | char
  | string
  | integer
deriving DecidableEq, Repr

namespace DiscriminatorKind

def type : DiscriminatorKind → Attribute
  | char => .char
  | string => .string
  | integer => .long

def name : DiscriminatorKind → String
  | char => "Char"
  | string => "String"
  | integer => "Integer"

end DiscriminatorKind

/-- What a foreign key does when the row it refers to changes or goes. -/
inductive ReferentialAction where
  | noAction
  | restrict
  | setNull
  | setDefault
  | cascade
deriving DecidableEq, Repr

namespace ReferentialAction

def keyword : ReferentialAction → String
  | noAction => "NO ACTION"
  | restrict => "RESTRICT"
  | setNull => "SET NULL"
  | setDefault => "SET DEFAULT"
  | cascade => "CASCADE"

def name : ReferentialAction → String
  | noAction => "NoAction"
  | restrict => "Restrict"
  | setNull => "SetNull"
  | setDefault => "SetDefault"
  | cascade => "Cascade"

end ReferentialAction

/-- How a class hierarchy is laid out over tables.  The root of the hierarchy chooses. -/
inductive Strategy where
  /-- One table per entity: its own columns and the inherited key, which refers to the parent's table. -/
  | joined
  /-- One table for the whole hierarchy, owned by the root. -/
  | singleTable
  /-- One table per concrete entity, with every inherited column. -/
  | tablePerClass
deriving DecidableEq, Repr

def Strategy.name : Strategy → String
  | joined => "Joined"
  | singleTable => "SingleTable"
  | tablePerClass => "TablePerClass"

/-- The cardinality of a reference between entities. -/
inductive Cardinality where
  | oneToOne
  | oneToMany
  | manyToOne
  | manyToMany
deriving DecidableEq, Repr

namespace Cardinality

def name : Cardinality → String
  | oneToOne => "OneToOne"
  | oneToMany => "OneToMany"
  | manyToOne => "ManyToOne"
  | manyToMany => "ManyToMany"

/-- The same reference seen from the other side. -/
def reciprocal : Cardinality → Cardinality
  | oneToMany => manyToOne
  | manyToOne => oneToMany
  | c => c

end Cardinality
end Ormap
