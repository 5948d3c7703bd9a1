import Ormap.Dump
import Ormap.Session
/-!
# Lives — a database in use, by calls that may have to wait

A call is answered when it is made, or waits until the database is as far.  A version change has its migrator at work in
between, and the database is not ready as long.  Any number of calls may be under way, and each may be given up.
Meanwhile the tasks that resolve the entities take their steps.
-/
namespace Ormap

/-! ## Calls -/

inductive Call (σ : Type) where
  | register (d : EntityDescriptor)
  | map
  | resolve (type : String)
  | requireMapped
  | beginChange
  /-- The end of the life of a guard, by its number. -/
  | drop (guard : Nat)
  | applyChange (migrator : Option (Migrator σ)) (stored : UInt32)
  | change (change : Change) (record : Record)
  | schema
  | layout
  | createSchema
  | dump

/-- Whether a call asks for entities to be resolved. -/
def Call.maps : Call σ → Bool
  | map | resolve _ => true
  | _ => false

inductive Reply where
  /-- The position of the new entity. -/
  | registered (result : Except ConfigurationError (Option Nat))
  | mapped (result : Except Error Unit)
  | resolved (result : Except Error Entity)
  | required (result : Except Error Unit)
  /-- The number of the guard. -/
  | begun (guard : Nat)
  | dropped
  | done (result : Except Error Unit)
  | created (result : Except Error (List CreateTable))
  | listed (result : Except Error (List Graph.TableLayout))
  | dumped (result : Except Error Dump)

/-- How a call stands. -/
inductive Standing (σ : Type) where
  /-- It waits for the database to get as far. -/
  | waiting
  /-- Its migrator is at work, to this effect. -/
  | migrating (act : Action σ Unit)
  /-- It has been answered, or given up. -/
  | closed

def Standing.isMigrating : Standing σ → Bool
  | migrating _ => true
  | _ => false

/-- A call of a migrator: the version change that makes it, by its number, the database that it sees, the direction and
the versions. -/
structure Migration where
  call : Nat
  seen : Database
  upwards : Bool
  stored : UInt32
  wanted : UInt32

/-- A database in use. -/
structure Life (σ : Type) where
  db : Database
  store : σ
  /-- The guards that are alive, but for those of migrators at work. -/
  guards : List Nat := []
  /-- The number of the next guard. -/
  next : Nat := 0
  /-- All calls so far, in the order in which they were made. -/
  calls : List (Call σ × Standing σ) := []
  migrations : List Migration := []
  /-- The answers so far, with their calls. -/
  history : List (Call σ × Reply) := []

/-- What comes of a look at a call. -/
inductive Turn (σ : Type) where
  | waits
  | migrates (act : Action σ Unit)
  | answers (reply : Reply)

namespace Life

/-! ## Looking at a call -/

def act (w : Life σ) (reply : Except Error α → Reply) (action : Action σ α) : Turn σ × Life σ :=
  let (result, store) := action.run w.store
  (.answers (reply result), { w with store })

/-- Waits as long as there is no answer. -/
def await (w : Life σ) : Option Reply → Turn σ × Life σ
  | some reply => (.answers reply, w)
  | none => (.waits, w)

/-- Waits as long as the mapping is under way. -/
def afterMapping (w : Life σ) (turn : Turn σ × Life σ) : Turn σ × Life σ :=
  if w.db.requireMapped?.isSome then turn else (.waits, w)

def startMapping (w : Life σ) : Life σ := { w with db := w.db.startMapping }

def register (w : Life σ) (d : EntityDescriptor) : Turn σ × Life σ :=
  match w.db.register d with
  | .error fault => (.answers (.registered (.error fault)), w)
  | .ok db => (.answers (.registered (.ok (db.index? d.typeName))), { w with db })

def beginChange (w : Life σ) : Turn σ × Life σ :=
  (.answers (.begun w.next), { w with db := w.db.beginChange, guards := w.next :: w.guards, next := w.next + 1 })

def drop (w : Life σ) (guard : Nat) : Turn σ × Life σ :=
  if guard ∈ w.guards then (.answers .dropped, { w with db := w.db.endChange, guards := w.guards.erase guard })
  else (.answers .dropped, w)

/-- The version change with the number `n`, which waits for the mapping to succeed and then has the migrator at work. -/
def applyChange (w : Life σ) (n : Nat) (migrator : Option (Migrator σ)) (stored : UInt32) : Turn σ × Life σ :=
  if w.db.isMapped then
    match w.db.migration? migrator stored with
    | .error fault => (.answers (.done (.error fault)), w)
    | .ok none => (.answers (.done (.ok ())), w)
    | .ok (some act) =>
      let wanted := w.db.config.version
      let migration : Migration := { call := n, seen := w.db.beginChange, upwards := stored < wanted, stored, wanted }
      (.migrates (act w.db.beginChange), { w with
        db := w.db.beginChange, migrations := w.migrations ++ [migration] })
  else (.waits, w)

def change (c : Connection σ) (w : Life σ) (change : Change) (record : Record) : Turn σ × Life σ :=
  match w.db.change? c change record with
  | none => (.waits, w)
  | some action => w.act .done action

/-- What comes of a look at the call with the number `n`, and what it leaves. -/
def look (c : Connection σ) (w : Life σ) (n : Nat) : Call σ → Turn σ × Life σ
  | .register d => w.register d
  | .map => w.startMapping.await (w.startMapping.db.requireMapped?.map .mapped)
  | .resolve type => w.startMapping.await ((w.startMapping.db.resolved? type).map .resolved)
  | .requireMapped => w.await (w.db.requireMapped?.map .required)
  | .beginChange => w.beginChange
  | .drop guard => w.drop guard
  | .applyChange migrator stored => w.applyChange n migrator stored
  | .change change record => Life.change c w change record
  | .schema => w.afterMapping (.answers (.created w.db.schema), w)
  | .layout => w.afterMapping (.answers (.listed w.db.layout), w)
  | .createSchema => w.afterMapping (w.act .done (w.db.createSchema c))
  | .dump => w.afterMapping (w.act .dumped (w.db.dump c))

/-! ## Moves -/

/-- What happens to a database in use. -/
inductive Move (σ : Type) where
  /-- A call is made, and looked at for the first time. -/
  | call (call : Call σ)
  /-- A call that waits is looked at again, or a migrator comes to its end. -/
  | resume (n : Nat)
  /-- A call is given up, its migrator having made the store what it is by then. -/
  | abandon (n : Nat) (store : σ)
  /-- A task that resolves an entity, or their driver, takes a step. -/
  | advance (step : Mapping.Step)

/-- A call is made, and gets the next number. -/
def asked (w : Life σ) (call : Call σ) : Life σ := { w with calls := w.calls ++ [(call, .waiting)] }

/-- What comes of a look, written down. -/
def noting (n : Nat) (call : Call σ) : Turn σ × Life σ → Life σ
  | (.waits, w) => { w with calls := w.calls.set n (call, .waiting) }
  | (.migrates act, w) => { w with calls := w.calls.set n (call, .migrating act) }
  | (.answers reply, w) => { w with calls := w.calls.set n (call, .closed), history := w.history ++ [(call, reply)] }

/-- Ends a version change whose migrator has come to its end. -/
def finish (w : Life σ) (n : Nat) (call : Call σ) (act : Action σ Unit) : Life σ :=
  let (result, store) := act.run w.store
  { w with
    db := w.db.endChange
    store
    calls := w.calls.set n (call, .closed)
    history := w.history ++ [(call, .done result)] }

/-- Gives a call up, which ends a version change whose migrator is at work. -/
def giveUp (w : Life σ) (n : Nat) (call : Call σ) (store : σ) : Standing σ → Life σ
  | .waiting => { w with calls := w.calls.set n (call, .closed) }
  | .migrating _ => { w with db := w.db.endChange, store, calls := w.calls.set n (call, .closed) }
  | .closed => w

def step (c : Connection σ) (w : Life σ) : Move σ → Life σ
  | .call call => noting w.calls.length call ((w.asked call).look c w.calls.length call)
  | .resume n => match w.calls[n]? with
    | some (call, .waiting) => noting n call (w.look c n call)
    | some (call, .migrating act) => w.finish n call act
    | some (_, .closed) | none => w
  | .abandon n store => match w.calls[n]? with
    | some (call, standing) => w.giveUp n call store standing
    | none => w
  | .advance step => match w.db.step? step with
    | some db => { w with db }
    | none => w

/-- The life of a database that starts empty. -/
def run (c : Connection σ) (config : Config) (store : σ) (moves : List (Move σ)) : Life σ :=
  moves.foldl (step c) { db := { config }, store }

end Life
end Ormap
