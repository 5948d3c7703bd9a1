import Ormap.Config
import Ormap.Descriptor.Json
/-!
# The JSON form of configurations
-/
namespace Ormap
namespace Config

open Json (required defaulted string?)

def fieldNames : List String := ["name", "version", "default_inheritance", "default_on_update", "default_on_delete"]

def toJson (c : Config) : Json :=
  .obj [("name", .str c.name), ("version", .int c.version.toNat),
    ("default_inheritance", c.defaultInheritance.toJson), ("default_on_update", c.defaultOnUpdate.toJson),
    ("default_on_delete", c.defaultOnDelete.toJson)]

def ofJson? (j : Json) : Option Config := do
  let fields ← j.record? fieldNames
  let name ← required fields "name" string?
  let version ← required fields "version" Json.word32?
  let defaultInheritance ← defaulted fields "default_inheritance" .joined Strategy.ofJson?
  let defaultOnUpdate ← defaulted fields "default_on_update" .noAction ReferentialAction.ofJson?
  let defaultOnDelete ← defaulted fields "default_on_delete" .noAction ReferentialAction.ofJson?
  return { name, version, defaultInheritance, defaultOnUpdate, defaultOnDelete }

end Config
end Ormap
