import Ormap.Database
/-!
# Waiting — questions to a database that are answered when it gets there

A waiter is answered the first time it is looked at in a state that settles its question, and keeps its answer.  One in
the background reads the status of the database and then looks its question up; the two are steps of their own, and
anything may happen between them.  Without an answer it sleeps until the status has changed since it read it.
-/
namespace Ormap

/-- What a waiter waits for. -/
inductive Request where
  /-- A type to be registered, or the registry to be sealed without it. -/
  | recognized (type : String)
  | mapped
  | ready
deriving DecidableEq, Repr

/-- What a waiter is told. -/
inductive Answer where
  /-- The position of the type in the registry; none when the registry was sealed without it. -/
  | recognized (index : Option Nat)
  | mapped
  | ready
deriving DecidableEq, Repr

namespace Database

/-- The answer to a request, if the database is as far. -/
def answer? (db : Database) : Request → Option Answer
  | .recognized type => match db.index? type with
    | some index => some (.recognized (some index))
    | none => if db.isSealed then some (.recognized none) else none
  | .mapped => if db.isMapped then some .mapped else none
  | .ready => if db.isReady then some .ready else none

end Database

/-- A request in the background, with its answer once it is given. -/
structure Waiter where
  request : Request
  answer : Option Answer := none
deriving DecidableEq, Repr

namespace Waiter

/-- Lets a waiter look at the database. -/
def look (db : Database) (w : Waiter) : Waiter :=
  match w.answer with
  | some _ => w
  | none => { w with answer := db.answer? w.request }

def lookAll (db : Database) (ws : List Waiter) : List Waiter := ws.map (look db)

end Waiter

/-! ## Waiters that sleep -/

/-- The answer that a status read before and the catalog now give. -/
def Database.decide? (status : Status) (db : Database) : Request → Option Answer
  | .recognized type => match db.index? type with
    | some index => some (.recognized (some index))
    | none => if status.isSealed then some (.recognized none) else none
  | .mapped => if status.isMapped then some .mapped else none
  | .ready => if status.isReady then some .ready else none

inductive Event where
  | register (d : EntityDescriptor)
  | map
  | resolve (type : String)
  /-- A task that resolves an entity, or their driver, takes a step. -/
  | advance (step : Mapping.Step)
  | beginChange
  | endChange
  /-- A waiter is started. -/
  | watch (request : Request)
  /-- A waiter reads the status, by its number. -/
  | read (n : Nat)
  /-- A waiter that has read the status looks its question up. -/
  | look (n : Nat)

namespace Event

/-- Whether an event asks for entities to be resolved. -/
def maps : Event → Bool
  | map | resolve _ => true
  | _ => false

/-- Whether an event, if it does anything to the database, is one that watchers of its status are told of. -/
def signals : Event → Bool
  | advance step => step.counts
  | _ => true

end Event

/-- How far a waiter is with looking. -/
inductive Phase where
  /-- It is going to read the status. -/
  | awake
  /-- It has read the status, which had changed so often, and is going to look its question up. -/
  | reading (signal : Nat) (status : Status)
  /-- It waits for the status to have changed more often. -/
  | asleep (signal : Nat)

/-- A waiter in the background. -/
structure Watcher extends Waiter where
  phase : Phase := .awake

/-- A database with its waiters. -/
structure Scene where
  db : Database
  /-- How often the status has changed. -/
  signal : Nat := 0
  watchers : List Watcher := []

/-- The database after an event that does anything to it. -/
def Database.after? (db : Database) : Event → Option Database
  | .register d => (db.register d).toOption
  | .map | .resolve _ => if db.isSealed then none else some db.startMapping
  | .advance step => db.step? step
  | .beginChange => some db.beginChange
  | .endChange => some db.endChange
  | .watch _ | .read _ | .look _ => none

namespace Watcher

def read (now : Nat) (db : Database) (x : Watcher) : Watcher :=
  match x.answer, x.phase with
  | none, .awake => { x with phase := .reading now db.status }
  | none, .asleep signal => if signal = now then x else { x with phase := .reading now db.status }
  | _, _ => x

def look (db : Database) (x : Watcher) : Watcher :=
  match x.answer, x.phase with
  | none, .reading signal status => { x with answer := db.decide? status x.request, phase := .asleep signal }
  | _, _ => x

end Watcher

namespace Scene

/-- The waiters after an event that concerns them. -/
def attend (w : Scene) : Event → List Watcher
  | .watch request => w.watchers ++ [{ request }]
  | .read n => w.watchers.modify n (·.read w.signal w.db)
  | .look n => w.watchers.modify n (·.look w.db)
  | _ => w.watchers

def step (w : Scene) (e : Event) : Scene :=
  match w.db.after? e with
  | some db => { w with db, signal := if e.signals then w.signal + 1 else w.signal }
  | none => { w with watchers := w.attend e }

/-- The scene after a run of events that starts from an empty registry. -/
def run (config : Config) (events : List Event) : Scene := events.foldl step { db := { config } }

end Scene
end Ormap
