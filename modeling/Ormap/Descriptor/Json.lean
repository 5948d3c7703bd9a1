import Ormap.Descriptor
import Ormap.Json
/-!
# The JSON form of descriptors — one writer and one reader for each kind

Every field is written, a missing one as null.  In what is read, fields with a default may be missing.
-/
namespace Ormap

open Json (required defaulted optional ofOption string? bool? list? named?)

/-! ## Names of variants -/

namespace Strategy

def toJson (s : Strategy) : Json := .str s.name

def ofJson? : Json → Option Strategy := named? [joined, singleTable, tablePerClass] name

end Strategy

namespace ReferentialAction

def toJson (a : ReferentialAction) : Json := .str a.name

def ofJson? : Json → Option ReferentialAction := named? [noAction, restrict, setNull, setDefault, cascade] name

end ReferentialAction

namespace DiscriminatorKind

def toJson (k : DiscriminatorKind) : Json := .str k.name

def ofJson? : Json → Option DiscriminatorKind := named? [char, string, integer] name

end DiscriminatorKind

namespace Cardinality

def toJson (c : Cardinality) : Json := .str c.name

def ofJson? : Json → Option Cardinality := named? [oneToOne, oneToMany, manyToOne, manyToMany] name

end Cardinality

namespace Attribute

/-- The name of a type; that of a choice does without its variants. -/
def name : Attribute → String
  | byte => "Byte"
  | short => "Short"
  | integer => "Integer"
  | long => "Long"
  | float => "Float"
  | double => "Double"
  | boolean => "Boolean"
  | char => "Char"
  | string => "String"
  | bytes => "Bytes"
  | date => "Date"
  | uuid => "Uuid"
  | choice _ => "Enum"

/-- The types that carry nothing. -/
def plain : List Attribute :=
  [byte, short, integer, long, float, double, boolean, char, string, bytes, date, uuid]

def toJson : Attribute → Json
  | choice variants => .obj [("Enum", Json.ofList .str variants)]
  | a => .str a.name

def ofJson? (j : Json) : Option Attribute :=
  match Json.variant? j with
  | some ("Enum", some variants) => (list? string? variants).map choice
  | _ => named? plain name j

end Attribute

/-! ## Records -/

namespace ColumnDescriptor

def fieldNames : List String := ["name", "nullable", "unique", "default_value", "definition"]

def toJson (c : ColumnDescriptor) : Json :=
  .obj [("name", ofOption .str c.name), ("nullable", .bool c.nullable), ("unique", .bool c.unique),
    ("default_value", ofOption .str c.defaultValue), ("definition", ofOption .str c.definition)]

def ofJson? (j : Json) : Option ColumnDescriptor := do
  let fields ← j.record? fieldNames
  let name ← optional fields "name" string?
  let nullable ← defaulted fields "nullable" true bool?
  let unique ← defaulted fields "unique" false bool?
  let defaultValue ← optional fields "default_value" string?
  let definition ← optional fields "definition" string?
  return { name, nullable, unique, defaultValue, definition }

end ColumnDescriptor

namespace JoinColumnDescriptor

def fieldNames : List String := ["name", "referenced_column", "nullable", "unique", "on_update", "on_delete"]

def toJson (c : JoinColumnDescriptor) : Json :=
  .obj [("name", ofOption .str c.name), ("referenced_column", ofOption .str c.referencedColumn),
    ("nullable", .bool c.nullable), ("unique", .bool c.unique),
    ("on_update", ofOption ReferentialAction.toJson c.onUpdate),
    ("on_delete", ofOption ReferentialAction.toJson c.onDelete)]

def ofJson? (j : Json) : Option JoinColumnDescriptor := do
  let fields ← j.record? fieldNames
  let name ← optional fields "name" string?
  let referencedColumn ← optional fields "referenced_column" string?
  let nullable ← defaulted fields "nullable" true bool?
  let unique ← defaulted fields "unique" false bool?
  let onUpdate ← optional fields "on_update" ReferentialAction.ofJson?
  let onDelete ← optional fields "on_delete" ReferentialAction.ofJson?
  return { name, referencedColumn, nullable, unique, onUpdate, onDelete }

end JoinColumnDescriptor

namespace JoinTableDescriptor

def fieldNames : List String := ["name", "join_columns", "inverse_join_columns"]

def toJson (t : JoinTableDescriptor) : Json :=
  .obj [("name", ofOption .str t.name), ("join_columns", Json.ofList JoinColumnDescriptor.toJson t.joinColumns),
    ("inverse_join_columns", Json.ofList JoinColumnDescriptor.toJson t.inverseJoinColumns)]

def ofJson? (j : Json) : Option JoinTableDescriptor := do
  let fields ← j.record? fieldNames
  let name ← optional fields "name" string?
  let joinColumns ← defaulted fields "join_columns" [] (list? JoinColumnDescriptor.ofJson?)
  let inverseJoinColumns ← defaulted fields "inverse_join_columns" [] (list? JoinColumnDescriptor.ofJson?)
  return { name, joinColumns, inverseJoinColumns }

end JoinTableDescriptor

namespace RelationshipDescriptor

def fieldNames : List String := ["kind", "target", "mapped_by", "join_columns", "join_table"]

def toJson (r : RelationshipDescriptor) : Json :=
  .obj [("kind", r.kind.toJson), ("target", .str r.target), ("mapped_by", ofOption .str r.mappedBy),
    ("join_columns", Json.ofList JoinColumnDescriptor.toJson r.joinColumns),
    ("join_table", ofOption JoinTableDescriptor.toJson r.joinTable)]

def ofJson? (j : Json) : Option RelationshipDescriptor := do
  let fields ← j.record? fieldNames
  let kind ← required fields "kind" Cardinality.ofJson?
  let target ← required fields "target" string?
  let mappedBy ← optional fields "mapped_by" string?
  let joinColumns ← defaulted fields "join_columns" [] (list? JoinColumnDescriptor.ofJson?)
  let joinTable ← optional fields "join_table" JoinTableDescriptor.ofJson?
  return { kind, target, mappedBy, joinColumns, joinTable }

end RelationshipDescriptor

namespace FieldMapping

/-- The fields of a plain mapping in their order. -/
def columnFieldNames : List String := ["attribute", "id", "column"]

def toJson : FieldMapping → Json
  | column type id c =>
    .obj [("Column", .obj [("attribute", type.toJson), ("id", .bool id), ("column", c.toJson)])]
  | relationship r => .obj [("Relationship", r.toJson)]

/-- Reads what a plain mapping carries. -/
def columnOfJson? (j : Json) : Option FieldMapping := do
  let fields ← j.record? columnFieldNames
  let type ← required fields "attribute" Attribute.ofJson?
  let id ← defaulted fields "id" false bool?
  let c ← defaulted fields "column" {} ColumnDescriptor.ofJson?
  return .column type id c

def ofJson? (j : Json) : Option FieldMapping :=
  match Json.variant? j with
  | some ("Column", some carried) => columnOfJson? carried
  | some ("Relationship", some carried) => (RelationshipDescriptor.ofJson? carried).map relationship
  | _ => none

end FieldMapping

namespace FieldDescriptor

def fieldNames : List String := ["name", "transient", "mapping"]

def toJson (f : FieldDescriptor) : Json :=
  .obj [("name", .str f.name), ("transient", .bool f.transient), ("mapping", f.mapping.toJson)]

def ofJson? (j : Json) : Option FieldDescriptor := do
  let fields ← j.record? fieldNames
  let name ← required fields "name" string?
  let transient ← defaulted fields "transient" false bool?
  let mapping ← required fields "mapping" FieldMapping.ofJson?
  return { name, transient, mapping }

end FieldDescriptor

namespace TableDescriptor

def fieldNames : List String := ["name", "unique_constraints"]

def toJson (t : TableDescriptor) : Json :=
  .obj [("name", ofOption .str t.name), ("unique_constraints", Json.ofList (Json.ofList .str) t.uniqueConstraints)]

def ofJson? (j : Json) : Option TableDescriptor := do
  let fields ← j.record? fieldNames
  let name ← optional fields "name" string?
  let uniqueConstraints ← defaulted fields "unique_constraints" [] (list? (list? string?))
  return { name, uniqueConstraints }

end TableDescriptor

namespace DiscriminatorDescriptor

def fieldNames : List String := ["name", "kind", "length", "definition"]

def toJson (c : DiscriminatorDescriptor) : Json :=
  .obj [("name", .str c.name), ("kind", c.kind.toJson), ("length", ofOption (fun n => .int n.toNat) c.length),
    ("definition", ofOption .str c.definition)]

def ofJson? (j : Json) : Option DiscriminatorDescriptor := do
  let fields ← j.record? fieldNames
  let name ← defaulted fields "name" "dtype" string?
  let kind ← defaulted fields "kind" .string DiscriminatorKind.ofJson?
  let length ← optional fields "length" Json.word64?
  let definition ← optional fields "definition" string?
  return { name, kind, length, definition }

end DiscriminatorDescriptor

namespace EntityDescriptor

def fieldNames : List String :=
  ["type_name", "ancestors", "is_abstract", "table", "inheritance", "discriminator_column", "discriminator_value",
    "fields"]

def toJson (d : EntityDescriptor) : Json :=
  .obj [("type_name", .str d.typeName), ("ancestors", Json.ofList .str d.ancestors),
    ("is_abstract", .bool d.isAbstract), ("table", ofOption TableDescriptor.toJson d.table),
    ("inheritance", ofOption Strategy.toJson d.inheritance),
    ("discriminator_column", ofOption DiscriminatorDescriptor.toJson d.discriminatorColumn),
    ("discriminator_value", ofOption .str d.discriminatorValue),
    ("fields", Json.ofList FieldDescriptor.toJson d.fields)]

def ofJson? (j : Json) : Option EntityDescriptor := do
  let fields ← j.record? fieldNames
  let typeName ← required fields "type_name" string?
  let ancestors ← defaulted fields "ancestors" [] (list? string?)
  let isAbstract ← defaulted fields "is_abstract" false bool?
  let table ← optional fields "table" TableDescriptor.ofJson?
  let inheritance ← optional fields "inheritance" Strategy.ofJson?
  let discriminatorColumn ← optional fields "discriminator_column" DiscriminatorDescriptor.ofJson?
  let discriminatorValue ← optional fields "discriminator_value" string?
  let entityFields ← defaulted fields "fields" [] (list? FieldDescriptor.ofJson?)
  return { typeName, ancestors, isAbstract, table, inheritance, discriminatorColumn, discriminatorValue,
           fields := entityFields }

end EntityDescriptor
end Ormap
