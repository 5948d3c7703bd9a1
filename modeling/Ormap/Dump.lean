import Ormap.Database.Tables
import Ormap.Literal
/-!
# Dumps — the rows of all tables, read out and written as statements

A dump keeps the rows of every table over a change of the schema: it is taken before the tables go, and its insertions
are carried out when they are there again.
-/
namespace Ormap

/-- The rows of one table, their values in the order of the columns. -/
structure TableDump where
  table : String
  columns : List String
  rows : List (List Value)
deriving DecidableEq, Repr

namespace TableDump

/-- The query that reads the table. -/
def selection (t : TableDump) : Select := { table := t.table, columns := t.columns }

def insertion (t : TableDump) (row : List Value) : Except MarshallingError Insert := do
  return { table := t.table, columns := t.columns, literals := ← Literal.ofValues row }

def insertions (t : TableDump) : Except MarshallingError (List Insert) := t.rows.mapM t.insertion

end TableDump

/-- The rows of all tables of a database, at a version of its schema. -/
structure Dump where
  database : String
  version : UInt32
  tables : List TableDump
deriving DecidableEq, Repr

namespace Dump

def rowCount (d : Dump) : Nat := (d.tables.flatMap (·.rows)).length

def tableCount (d : Dump) : Nat := d.tables.length

def find? (d : Dump) (table : String) : Option TableDump := d.tables.find? (·.table == table)

/-- The insertions of all rows, table by table. -/
def restoration (d : Dump) : Except MarshallingError (List Insert) := do
  return (← d.tables.mapM (·.insertions)).flatten

end Dump

namespace Database

/-- Reads the rows of a table. -/
def dumpTable (c : Connection σ) (t : Graph.TableLayout) : Action σ TableDump := do
  let selection : Select := { table := t.table, columns := t.columns }
  return { table := t.table, columns := t.columns, rows := ← c.query selection.render }

def dumpTables (c : Connection σ) : List Graph.TableLayout → Action σ (List TableDump)
  | [] => pure []
  | t :: rest => do
    let read ← dumpTable c t
    return read :: (← dumpTables c rest)

/-- Reads the rows of all tables. -/
def dump (db : Database) (c : Connection σ) : Action σ Dump := do
  let tables ← dumpTables c (← db.layout)
  return { database := db.config.name, version := db.config.version, tables }

end Database
end Ormap
