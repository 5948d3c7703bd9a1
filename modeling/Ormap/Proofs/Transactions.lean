import Ormap.Database.Tables
import Ormap.Proofs.Actions
import Ormap.Proofs.Lifecycle
import Ormap.Session
/-!
# Transactions — what a recording holds of a change is all of it or nothing

All statements of a change are known before the first is sent.  A recording then refuses the change and stays as it was,
or commits every statement, or rolls back at the first statement that it rejects (`Recording.AllOrNothing`).  Where
neither a mapping nor a version change is under way, no change of an object has to wait.
-/
namespace Ormap
namespace Recording

variable {s : Recording} {statements pre post : List String} {st : String}

def appendAll (s : Recording) (statements : List String) : Recording := { s with log := s.log ++ statements }

theorem appendAll_nil (s : Recording) : s.appendAll [] = s := by
  unfold appendAll
  rw [List.append_nil]

theorem appendAll_cons (s : Recording) (st : String) (rest : List String) :
    s.appendAll (st :: rest) = (s.append st).appendAll rest := by
  unfold appendAll append
  rw [List.append_assoc, List.singleton_append]

theorem eq_nil_of_appendAll (h : s.appendAll statements = s) : statements = [] :=
  List.append_right_eq_self.1 (congrArg log h)

theorem rejects_appendAll (s : Recording) (statements : List String) (st : String) :
    (s.appendAll statements).rejects st = s.rejects st := rfl

/-! ## Statements in order -/

theorem run_execute (s : Recording) (st : String) : (connection.execute st).run s =
    if s.rejects st = true then (.error (.storage (.rejected st)), s) else (.ok 1, s.append st) := run_accept _ st s

/-- **Statements that are not rejected are recorded in their order**, before the rest is sent. -/
theorem run_executeAll_append {rest : List String} : ∀ {pre : List String} {s : Recording},
    (∀ p ∈ pre, s.rejects p = false) →
    (connection.executeAll (pre ++ rest)).run s = (connection.executeAll rest).run (s.appendAll pre)
  | [], s, _ => by rw [List.nil_append, appendAll_nil]
  | p :: pre, s, h => by
    have hp : ¬ s.rejects p = true := by simp [h p List.mem_cons_self]
    rw [List.cons_append, Connection.executeAll, Action.run_bind, run_execute, if_neg hp, appendAll_cons]
    exact run_executeAll_append fun q hq => h q (List.mem_cons_of_mem _ hq)

theorem run_executeAll_rejected (hpre : ∀ p ∈ pre, s.rejects p = false) (hst : s.rejects st = true) :
    (connection.executeAll (pre ++ st :: post)).run s = (.error (.storage (.rejected st)), s.appendAll pre) := by
  rw [run_executeAll_append hpre, Connection.executeAll, Action.run_bind, run_execute, rejects_appendAll, if_pos hst]

theorem run_executeAll_accepted (h : ∀ p ∈ statements, s.rejects p = false) :
    (connection.executeAll statements).run s = (.ok (), s.appendAll statements) := by
  have hrun : (connection.executeAll (statements ++ [])).run s = _ := run_executeAll_append h
  rw [List.append_nil] at hrun
  exact hrun

/-! ## One transaction -/

def opened (s : Recording) : Recording := { s.append "BEGIN" with inTransaction := true }

theorem inTransaction_opened (s : Recording) (statements : List String) :
    (s.opened.appendAll statements).inTransaction = true := rfl

theorem ended_eq (h : s.inTransaction = false) (statements : List String) (last : String) :
    { (s.opened.appendAll statements).append last with inTransaction := false } =
      s.appendAll ("BEGIN" :: statements ++ [last]) := by
  cases s
  cases h
  simp [opened, appendAll, append]

theorem run_runInTransaction_active (h : s.inTransaction = true) :
    (connection.runInTransaction statements).run s = (.error (.storage .alreadyActive), s) := by
  unfold Connection.runInTransaction
  rw [Action.run_bind, show connection.start = start from rfl, run_start, if_pos h]

theorem run_runInTransaction_opened (h : s.inTransaction = false) : (connection.runInTransaction statements).run s =
    ((do
      tryCatch (connection.executeAll statements) fun e => do
        connection.abandon
        throw e
      connection.commit) : Action Recording Unit).run s.opened := by
  unfold Connection.runInTransaction
  rw [Action.run_bind, show connection.start = start from rfl, run_start, if_neg (by simp [h])]
  rfl

theorem run_runInTransaction_accepted (hs : s.inTransaction = false) (h : ∀ p ∈ statements, s.rejects p = false) :
    (connection.runInTransaction statements).run s = (.ok (), s.appendAll ("BEGIN" :: statements ++ ["COMMIT"])) := by
  have hrun : (connection.executeAll statements).run s.opened = _ := run_executeAll_accepted h
  rw [run_runInTransaction_opened hs, Action.run_bind, Action.run_tryCatch, hrun]
  show (finish "COMMIT").run (s.opened.appendAll statements) = _
  rw [run_finish, if_pos (inTransaction_opened s statements), ended_eq hs]

/-- **The first statement that is rejected has the transaction rolled back**, and ends it with its own error. -/
theorem run_runInTransaction_rejected (hs : s.inTransaction = false) (hpre : ∀ p ∈ pre, s.rejects p = false)
    (hst : s.rejects st = true) : (connection.runInTransaction (pre ++ st :: post)).run s =
      (.error (.storage (.rejected st)), s.appendAll ("BEGIN" :: pre ++ ["ROLLBACK"])) := by
  have hrun : (connection.executeAll (pre ++ st :: post)).run s.opened = _ := run_executeAll_rejected hpre hst
  have hback : connection.abandon.run (s.opened.appendAll pre) =
      (.ok (), s.appendAll ("BEGIN" :: pre ++ ["ROLLBACK"])) := by
    unfold Connection.abandon
    rw [Action.run_tryCatch, show connection.rollback = finish "ROLLBACK" from rfl, run_finish,
      if_pos (inTransaction_opened s pre), ended_eq hs]
  rw [run_runInTransaction_opened hs, Action.run_bind, Action.run_tryCatch, hrun]
  dsimp only
  rw [Action.run_bind, hback]
  rfl

/-! ## All or nothing -/

abbrev Run : Type := Except Error Unit × Recording

/-- Whether a run committed all statements, in their order. -/
def Commits (s : Recording) (generated : Except Error (List String)) (run : Run) : Prop :=
  ∃ statements, generated = .ok statements ∧ run = (.ok (), s.appendAll ("BEGIN" :: statements ++ ["COMMIT"]))

/-- Whether a run ended before a statement was sent, and left the recording as it was: there are no statements to send,
or another transaction is open. -/
def Refuses (s : Recording) (generated : Except Error (List String)) (run : Run) : Prop :=
  ∃ e, run = (.error e, s) ∧ (generated = .error e ∨
    (∃ statements, generated = .ok statements) ∧ s.inTransaction = true ∧ e = .storage .alreadyActive)

/-- Whether a run ended at the first statement that is rejected, and rolled back those before it. -/
def RollsBack (s : Recording) (generated : Except Error (List String)) (run : Run) : Prop :=
  ∃ pre st post, generated = .ok (pre ++ st :: post) ∧ (∀ p ∈ pre, s.rejects p = false) ∧ s.rejects st = true ∧
    run = (.error (.storage (.rejected st)), s.appendAll ("BEGIN" :: pre ++ ["ROLLBACK"]))

/-- Whether a run from a recording did one of three: commit, refuse, roll back.  It leaves no transaction open. -/
structure AllOrNothing (s : Recording) (generated : Except Error (List String)) (run : Run) : Prop where
  settles : s.Commits generated run ∨ s.Refuses generated run ∨ s.RollsBack generated run
  not_commits_refuses : ¬ (s.Commits generated run ∧ s.Refuses generated run)
  not_commits_rollsBack : ¬ (s.Commits generated run ∧ s.RollsBack generated run)
  not_refuses_rollsBack : ¬ (s.Refuses generated run ∧ s.RollsBack generated run)
  closed : s.inTransaction = false → run.2.inTransaction = false

/-- No two of commit, refusal and rollback come together: an outcome is no error, or the recording tells them apart. -/
theorem AllOrNothing.of_settles {generated : Except Error (List String)} {run : Run}
    (h : s.Commits generated run ∨ s.Refuses generated run ∨ s.RollsBack generated run) :
    s.AllOrNothing generated run := by
  refine ⟨h, ?_, ?_, ?_, fun hs => ?_⟩
  · rintro ⟨⟨sts, -, rfl⟩, e, he, -⟩
    cases congrArg Prod.fst he
  · rintro ⟨⟨sts, -, rfl⟩, pre, st, post, -, -, -, he⟩
    cases congrArg Prod.fst he
  · rintro ⟨⟨e, rfl, -⟩, pre, st, post, -, -, -, he⟩
    cases eq_nil_of_appendAll (congrArg Prod.snd he).symm
  · rcases h with ⟨sts, -, rfl⟩ | ⟨e, rfl, -⟩ | ⟨pre, st, post, -, -, -, rfl⟩
    · exact hs
    · exact hs
    · exact hs

/-- **Statements that are all known before the first is sent are recorded whole or not at all.** -/
theorem allOrNothing_runInTransaction (s : Recording) (generated : Except Error (List String)) :
    s.AllOrNothing generated ((liftM generated >>= connection.runInTransaction : Action Recording Unit).run s) := by
  refine .of_settles ?_
  rw [Action.run_bind, Action.run_lift]
  cases generated with
  | error e => exact Or.inr (Or.inl ⟨e, rfl, Or.inl rfl⟩)
  | ok statements =>
    dsimp only
    cases hs : s.inTransaction with
    | true =>
      rw [run_runInTransaction_active hs]
      exact Or.inr (Or.inl ⟨_, rfl, Or.inr ⟨⟨statements, rfl⟩, hs, rfl⟩⟩)
    | false =>
      cases hf : statements.find? s.rejects with
      | none =>
        have hall : ∀ p ∈ statements, s.rejects p = false := by simpa using List.find?_eq_none.1 hf
        rw [run_runInTransaction_accepted hs hall]
        exact Or.inl ⟨statements, rfl, rfl⟩
      | some st =>
        obtain ⟨hst, pre, post, rfl, hpre⟩ := List.find?_eq_some_iff_append.1 hf
        have hpre : ∀ p ∈ pre, s.rejects p = false := by simpa using hpre
        rw [run_runInTransaction_rejected hs hpre hst]
        exact Or.inr (Or.inr ⟨pre, st, post, rfl, hpre, hst, rfl⟩)

end Recording

namespace Database

variable {db : Database}

/-- **A mapped database without a version change under way is ready.** -/
theorem Mapped.isReady (h : db.Mapped) (hc : db.changes = 0) : db.isReady = true := by
  have hm : db.status.isMapped = true := h.isMapped
  unfold Database.isReady Status.isReady
  rw [hm, show db.status.changes = 0 from hc]
  rfl

/-- A change that is not made to wait is the change. -/
theorem eq_change_of_change? {c : Connection σ} {change : Change} {record : Record} {action : Action σ Unit}
    (h : db.change? c change record = some action) : action = db.change c change record := by
  unfold change? at h
  split at h
  · cases h
  · cases h
    rfl
  · exact (Option.some.inj (Option.ite_none_right_eq_some.1 h).2).symm

/-- No change is made to wait where nothing is under way. -/
theorem isSome_change? (h : db.Reachable) (hc : db.changes = 0) (hs : db.requireMapped?.isSome = true)
    (c : Connection σ) (change : Change) (record : Record) : (db.change? c change record).isSome = true := by
  unfold change?
  split
  · rename_i hm
    rw [hm] at hs
    cases hs
  · rfl
  · rename_i u hm
    have hmapped : db.Mapped := ⟨h, by unfold requireMapped; rw [hm]; rfl⟩
    rw [if_pos (hmapped.isReady hc)]
    rfl

theorem change_eq (db : Database) (c : Connection σ) (change : Change) (record : Record) :
    db.change c change record =
      (liftM (do db.requireMapped; db.graph.statements change record) >>= c.runInTransaction) := by
  unfold Database.change
  cases db.requireMapped with
  | error e => rfl
  | ok u => rfl

theorem createSchema_eq (db : Database) (c : Connection σ) :
    db.createSchema c = (liftM (db.schema.map (·.map (·.render))) >>= c.runInTransaction) := by
  unfold createSchema
  cases db.schema with
  | error e => rfl
  | ok ts => rfl

/-- **Every change of an object and the creation of all tables is recorded whole or not at all**, whether the database
is mapped or not, as long as no version change is under way.  A change waits for nothing but a mapping that is. -/
theorem changes_all_or_nothing (h : db.Reachable) (hc : db.changes = 0) (s : Recording) :
    (∀ change record,
      (db.requireMapped?.isSome = true → (db.change? Recording.connection change record).isSome = true) ∧
      ∀ action, db.change? Recording.connection change record = some action →
        s.AllOrNothing (do db.requireMapped; db.graph.statements change record) (action.run s)) ∧
    s.AllOrNothing (db.schema.map (·.map (·.render))) ((db.createSchema Recording.connection).run s) := by
  refine ⟨fun change record => ⟨fun hs => isSome_change? h hc hs _ change record, fun action ha => ?_⟩, ?_⟩
  · rw [eq_change_of_change? ha, change_eq]
    exact Recording.allOrNothing_runInTransaction s _
  · rw [createSchema_eq]
    exact Recording.allOrNothing_runInTransaction s _

def fleetCar : Record where
  typeName := "Car"
  values := [("id", .integer 5), ("name", .text "A"), ("doors", .integer 3)]

def carless : Recording := { rejected := some "car" }

/-- The row of the vehicle is written and taken back where the row of the car is rejected. -/
theorem changes_all_or_nothing_fleet : fleet.changes = 0 ∧ (∃ action,
      fleet.change? Recording.connection .persist fleetCar = some action ∧
      carless.AllOrNothing (do fleet.requireMapped; fleet.graph.statements .persist fleetCar) (action.run carless)) ∧
    ((fleet.change Recording.connection .persist fleetCar).run carless).2.log =
      ["BEGIN", "INSERT INTO \"vehicle\" (\"id\", \"name\", \"built\", \"kind\") VALUES (5, 'A', NULL, 8)",
        "ROLLBACK"] := by
  have hc : fleet.changes = 0 := by decide +kernel
  obtain ⟨hmade, hall⟩ := (changes_all_or_nothing fleet_mapped.reachable hc carless).1 .persist fleetCar
  obtain ⟨action, ha⟩ := Option.isSome_iff_exists.1 (hmade (by decide +kernel))
  exact ⟨hc, ⟨action, ha, hall action ha⟩, by decide +kernel⟩

end Database
end Ormap
