import Ormap.Text.Letters
import Ormap.Text.Quoted
/-!
# Names — how tables, columns and labels are named when nothing is declared

A default table name is the last part of the type name in lower case, an underscore before every upper-case letter but
the first.  The names of foreign-key columns, of join tables and of labels join two parts with an underscore.
-/
namespace Ormap
namespace Naming

/-- Whether a character parts a type name: paths are written with colons or with dots. -/
def partsPath (c : Char) : Bool := c == ':' || c == '.'

/-- What follows the last parting character. -/
def lastPart (cs : List Char) : List Char := (cs.reverse.takeWhile fun c => !partsPath c).reverse

/-- The type name without its path. -/
def simpleTypeName (name : String) : String := String.ofList (lastPart name.toList)

/-- Lower case throughout, an underscore before every upper-case letter. -/
def underscored : List Char → List Char
  | [] => []
  | c :: cs => if Text.isUpper c then '_' :: Text.lower c ++ underscored cs else c :: underscored cs

/-- The table name for a simple type name: no underscore before its first letter. -/
def tableChars : List Char → List Char
  | [] => []
  | c :: cs => (if Text.isUpper c then Text.lower c else [c]) ++ underscored cs

def defaultTableName (name : String) : String := String.ofList (tableChars (lastPart name.toList))

/-- The column name for a field that refers to a column. -/
def defaultForeignKeyName (field referenced : String) : String := field ++ "_" ++ referenced

/-- The name of the join table between two tables. -/
def defaultJoinTableName (ownTable targetTable : String) : String := ownTable ++ "_" ++ targetTable

/-- The label of a column in a query row, read at an alias level. -/
def columnLabel (column : String) (level : Nat) : String := column ++ "_" ++ toString level

/-- A name as statements write it. -/
def quoteIdentifier (name : String) : String := Text.quoted '"' name

/-- Names as statements list them. -/
def quoteIdentifiers (names : List String) : String := ", ".intercalate (names.map quoteIdentifier)

end Naming
end Ormap
