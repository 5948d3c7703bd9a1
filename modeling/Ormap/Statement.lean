import Ormap.Attribute
import Ormap.Naming
/-!
# Statements — what is sent to the store, as data and as text

A statement is built from its parts and written at the end, so that what it says about tables and columns can be read
off without its text.  The parts of `INSERT`, `UPDATE` and `DELETE` hold literals, the written form of values.
-/
namespace Ormap

/-- What follows the name in a column definition. -/
inductive ColumnShape where
  /-- A definition taken over as declared. -/
  | raw (definition : String)
  | typed (type : SqlType) (notNull unique : Bool) (defaultValue : Option String)
deriving DecidableEq, Repr

namespace ColumnShape

def render : ColumnShape → String
  | raw definition => definition
  | typed type notNull unique defaultValue =>
    type.keyword ++ (if notNull then " NOT NULL" else "") ++ (if unique then " UNIQUE" else "")
      ++ (match defaultValue with
        | some literal => " DEFAULT " ++ literal
        | none => "")

end ColumnShape

/-- A column definition. -/
structure ColumnDefinition where
  name : String
  shape : ColumnShape
deriving DecidableEq, Repr

def ColumnDefinition.render (d : ColumnDefinition) : String := Naming.quoteIdentifier d.name ++ " " ++ d.shape.render

/-- A foreign-key clause. -/
structure ForeignKeyClause where
  columns : List String
  table : String
  referenced : List String
  onUpdate : ReferentialAction
  onDelete : ReferentialAction
deriving DecidableEq, Repr

/-- The text of a foreign-key clause.  It is checked at the end of a transaction, so that the rows of one object can
come in any order. -/
def ForeignKeyClause.render (k : ForeignKeyClause) : String :=
  "FOREIGN KEY (" ++ Naming.quoteIdentifiers k.columns ++ ") REFERENCES " ++ Naming.quoteIdentifier k.table
    ++ " (" ++ Naming.quoteIdentifiers k.referenced ++ ") ON UPDATE " ++ k.onUpdate.keyword
    ++ " ON DELETE " ++ k.onDelete.keyword ++ " DEFERRABLE INITIALLY DEFERRED"

/-- The creation of a table. -/
structure CreateTable where
  table : String
  columns : List ColumnDefinition
  primaryKey : List String
  uniques : List (List String)
  foreignKeys : List ForeignKeyClause
deriving DecidableEq, Repr

namespace CreateTable

def columnNames (t : CreateTable) : List String := t.columns.map (·.name)

/-- The clauses in their fixed order: columns, primary key, uniqueness, foreign keys. -/
def clauses (t : CreateTable) : List String :=
  t.columns.map (·.render)
    ++ (if t.primaryKey.isEmpty then [] else ["PRIMARY KEY (" ++ Naming.quoteIdentifiers t.primaryKey ++ ")"])
    ++ t.uniques.map (fun names => "UNIQUE (" ++ Naming.quoteIdentifiers names ++ ")")
    ++ t.foreignKeys.map (·.render)

def render (t : CreateTable) : String :=
  "CREATE TABLE " ++ Naming.quoteIdentifier t.table ++ " (" ++ ", ".intercalate t.clauses ++ ")"

end CreateTable

/-- The insertion of one row. -/
structure Insert where
  table : String
  columns : List String
  literals : List String
deriving DecidableEq, Repr

def Insert.render (i : Insert) : String :=
  "INSERT INTO " ++ Naming.quoteIdentifier i.table ++ " (" ++ Naming.quoteIdentifiers i.columns ++ ") VALUES ("
    ++ ", ".intercalate i.literals ++ ")"

/-- A column and the literal that it is set or compared to. -/
structure Equation where
  column : String
  literal : String
deriving DecidableEq, Repr

def Equation.render (e : Equation) : String := Naming.quoteIdentifier e.column ++ " = " ++ e.literal

def Equation.renderAll (es : List Equation) : String := " AND ".intercalate (es.map (·.render))

/-- The change of the rows that meet a condition. -/
structure Update where
  table : String
  assignments : List Equation
  condition : List Equation
deriving DecidableEq, Repr

def Update.render (u : Update) : String :=
  "UPDATE " ++ Naming.quoteIdentifier u.table ++ " SET " ++ ", ".intercalate (u.assignments.map (·.render))
    ++ " WHERE " ++ Equation.renderAll u.condition

/-- The removal of the rows that meet a condition. -/
structure Delete where
  table : String
  condition : List Equation
deriving DecidableEq, Repr

def Delete.render (d : Delete) : String :=
  "DELETE FROM " ++ Naming.quoteIdentifier d.table ++ " WHERE " ++ Equation.renderAll d.condition

/-- The reading of columns of a table. -/
structure Select where
  table : String
  columns : List String
deriving DecidableEq, Repr

def Select.render (s : Select) : String :=
  "SELECT " ++ Naming.quoteIdentifiers s.columns ++ " FROM " ++ Naming.quoteIdentifier s.table

end Ormap
