import Ormap.Cells
import Ormap.Connection
/-!
# Recordings — a store that writes down what it is asked

A recording carries nothing out.  Queries are answered from prepared rows by the name of the table, and statements that
hold a given fragment are rejected.
-/
namespace Ormap

structure Recording where
  inTransaction : Bool := false
  /-- Every statement so far, those that bound transactions included. -/
  log : List String := []
  /-- The rows prepared for a table. -/
  rows : Cells (List (List Value)) := []
  /-- Statements that hold this fragment are rejected. -/
  rejected : Option String := none
deriving DecidableEq, Repr

namespace Recording

/-- Whether a list of characters holds another one. -/
def occursIn (fragment : List Char) : List Char → Bool
  | [] => fragment.isEmpty
  | c :: cs => fragment.isPrefixOf (c :: cs) || occursIn fragment cs

def holds (text fragment : String) : Bool := occursIn fragment.toList text.toList

def rejects (r : Recording) (statement : String) : Bool :=
  match r.rejected with
  | some fragment => holds statement fragment
  | none => false

/-- The rows prepared for the table that a query names. -/
def answer (r : Recording) (query : String) : List (List Value) :=
  match r.rows.find? fun p => holds query ("FROM \"" ++ p.1 ++ "\"") with
  | some (_, rows) => rows
  | none => []

def append (r : Recording) (statement : String) : Recording := { r with log := r.log ++ [statement] }

/-- The statements that open and close transactions. -/
def controls : List String := ["BEGIN", "COMMIT", "ROLLBACK"]

/-- The statements so far, without those that open and close transactions. -/
def statements (r : Recording) : List String := r.log.filter (!controls.contains ·)

/-- Writes a statement down unless it is rejected, and answers with what `reply` makes of the state before it. -/
def accept (reply : Recording → α) (statement : String) : Action Recording α := do
  let r ← get
  if r.rejects statement then throw (.storage (.rejected statement))
  set (r.append statement)
  return reply r

/-- Opens a transaction. -/
def start : Action Recording Unit := do
  let r ← get
  if r.inTransaction then throw (.storage .alreadyActive)
  set { r.append "BEGIN" with inTransaction := true }

/-- Closes the transaction with a statement. -/
def finish (statement : String) : Action Recording Unit := do
  let r ← get
  if !r.inTransaction then throw (.storage .notActive)
  set { r.append statement with inTransaction := false }

def connection : Connection Recording where
  execute := accept fun _ => 1
  query sql := accept (·.answer sql) sql
  start := start
  commit := finish "COMMIT"
  rollback := finish "ROLLBACK"

end Recording
end Ormap
