import Ormap.Attribute
import Ormap.Text.Escaped
import Ormap.Text.Numeral
/-!
# Configurations — the name and version of a database, and defaults for what descriptors leave open

A configuration can be written as a URL with the name and the version.  The name stands in it as it is.
-/
namespace Ormap

/-- The configuration of a database. -/
structure Config where
  name : String
  /-- The schema version that the entities describe. -/
  version : UInt32 := 1
  /-- The strategy of hierarchy roots that declare none. -/
  defaultInheritance : Strategy := .joined
  /-- The action on an update of relationship foreign keys that declare none. -/
  defaultOnUpdate : ReferentialAction := .noAction
  /-- The action on a removal of relationship foreign keys that declare none. -/
  defaultOnDelete : ReferentialAction := .noAction
deriving DecidableEq, Repr

namespace Config

/-- What is wrong with a configuration or its URL. -/
inductive Fault where
  | emptyName
  | zeroVersion
  | noScheme
  | badVersion (text : String)
deriving DecidableEq, Repr

def Fault.message : Fault → String
  | emptyName => "Database name cannot be empty"
  | zeroVersion => "Database version must be > 0"
  | noScheme => "URL must start with 'entitymap://'"
  | badVersion text => s!"Invalid version '{text}'"

/-- The configuration that stands in when none is given. -/
def main : Config := { name := "main" }

def withVersion (c : Config) (version : UInt32) : Config := { c with version := version }

def withDefaultInheritance (c : Config) (s : Strategy) : Config := { c with defaultInheritance := s }

def withDefaultActions (c : Config) (onUpdate onDelete : ReferentialAction) : Config :=
  { c with defaultOnUpdate := onUpdate, defaultOnDelete := onDelete }

/-- Refuses an empty name and the version zero. -/
def validate (c : Config) : Except Fault Unit :=
  if c.name = "" then .error .emptyName
  else if c.version = 0 then .error .zeroVersion
  else .ok ()

def scheme : List Char := "entitymap://".toList

/-- The URL with the name and the version. -/
def toUrl (c : Config) : String := String.ofList scheme ++ c.name ++ "/" ++ toString c.version.toNat

/-- What follows a leading text. -/
def after? : List Char → List Char → Option (List Char)
  | [], cs => some cs
  | p :: ps, c :: cs => if p = c then after? ps cs else none
  | _ :: _, [] => none

/-- What stands before and after the first slash. -/
def splitSlash? : List Char → Option (List Char × List Char)
  | [] => none
  | c :: cs => if c = '/' then some ([], cs) else (splitSlash? cs).map fun p => (c :: p.1, p.2)

/-- Reads a version of 32 bits. -/
def version? (cs : List Char) : Option UInt32 :=
  (Text.natural? cs).bind fun n => if n < UInt32.size then some (UInt32.ofNat n) else none

/-- Reads a URL: a name, and the version after the first slash, which is 1 when there is no slash. -/
def ofUrl (url : String) : Except Fault Config := do
  match after? scheme url.toList with
  | none => throw .noScheme
  | some rest =>
    let c ← match splitSlash? rest with
      | some (name, version) => match version? version with
        | some v => pure ({ name := String.ofList name, version := v } : Config)
        | none => throw (.badVersion (String.ofList version))
      | none => pure { name := String.ofList rest }
    c.validate
    return c

/-- A configuration as a debugging text shows it. -/
def debugText (c : Config) (hasMigrator : Bool) : String :=
  "DatabaseConfig \x7b name: " ++ Text.escaped c.name ++ ", version: " ++ toString c.version.toNat
    ++ ", default_inheritance: " ++ c.defaultInheritance.name ++ ", default_on_update: " ++ c.defaultOnUpdate.name
    ++ ", default_on_delete: " ++ c.defaultOnDelete.name ++ ", migrator: " ++ (if hasMigrator then "true" else "false")
    ++ " \x7d"

end Config
end Ormap
