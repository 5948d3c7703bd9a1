import Ormap.Error
/-!
# Connections — what a store is asked, and transactions over it

A connection is four kinds of request on a state of its own.  Each may fail, and a failure may change the state too.
-/
namespace Ormap

/-- A request to a store with states `σ`.  What it does to the state stays done when it fails. -/
abbrev Action (σ α : Type) := ExceptT Error (StateM σ) α

/-- The requests that a store answers. -/
structure Connection (σ : Type) where
  /-- Carries a statement out and returns the number of rows that it concerned. -/
  execute : String → Action σ Nat
  /-- Reads rows, their values in the order of the query. -/
  query : String → Action σ (List (List Value))
  start : Action σ Unit
  commit : Action σ Unit
  rollback : Action σ Unit

namespace Connection

/-- Carries statements out in order, up to the first that fails. -/
def executeAll (c : Connection σ) : List String → Action σ Unit
  | [] => pure ()
  | s :: rest => do
    let _ ← c.execute s
    c.executeAll rest

/-- Gives a transaction up.  Whether that succeeds makes no difference to the caller. -/
def abandon (c : Connection σ) : Action σ Unit := tryCatch c.rollback fun _ => pure ()

/-- Carries statements out in one transaction, which is given up at the first statement that fails. -/
def runInTransaction (c : Connection σ) (statements : List String) : Action σ Unit := do
  c.start
  tryCatch (c.executeAll statements) fun e => do
    c.abandon
    throw e
  c.commit

end Connection
end Ormap
