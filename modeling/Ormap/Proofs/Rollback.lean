import Ormap.Proofs.Actions
/-!
# Rollbacks — what a transaction asks of a store that may fail at any call

The calls of a transaction are written down beside the store, each with its failure if it failed (`Connection.calls`).
They stop at the first failure, which is the transaction's own.  A statement that fails is followed by one rollback; a
commit that fails is followed by nothing, and leaves the transaction open.
-/
namespace Ormap
namespace Connection

/-! ## Observed stores -/

/-- What a store is asked. -/
inductive Ask where
  | execute (statement : String)
  | query (statement : String)
  | start
  | commit
  | rollback
deriving DecidableEq, Repr

/-- A call of a store, with its failure if it failed. -/
structure Made where
  ask : Ask
  failure : Option Error := none
deriving DecidableEq, Repr

def failure? : Except Error α → Option Error
  | .ok _ => none
  | .error e => some e

/-- A request whose call is written down beside the store. -/
def noting (ask : Ask) (act : Action σ α) : Action (σ × List Made) α := fun (s : σ × List Made) =>
  let (result, store) := act.run s.1
  (result, store, s.2 ++ [{ ask, failure := failure? result }])

def observed (c : Connection σ) : Connection (σ × List Made) where
  execute statement := noting (.execute statement) (c.execute statement)
  query statement := noting (.query statement) (c.query statement)
  start := noting .start c.start
  commit := noting .commit c.commit
  rollback := noting .rollback c.rollback

/-- The calls that a transaction makes of a store. -/
def calls (c : Connection σ) (statements : List String) (s : σ) : List Made :=
  ((c.observed.runInTransaction statements).run (s, [])).2.2

/-- Whether an action observed does what it does unobserved, its calls being as a predicate says. -/
def Observes (act : Action σ α) (seen : Action (σ × List Made) α) (Calls : Except Error α → List Made → Prop) : Prop :=
  ∀ s before, ∃ made, seen.run (s, before) = ((act.run s).1, (act.run s).2, before ++ made) ∧ Calls (act.run s).1 made

namespace Observes

variable {act : Action σ α} {seen : Action (σ × List Made) α} {Calls Calls' : Except Error α → List Made → Prop}

theorem noting (ask : Ask) (act : Action σ α) :
    Observes act (noting ask act) fun result made => made = [{ ask, failure := failure? result }] :=
  fun _ _ => ⟨_, rfl, rfl⟩

theorem pure (x : α) : Observes (σ := σ) (pure x) (pure x) fun result made => result = .ok x ∧ made = [] :=
  fun _ before => ⟨[], by rw [List.append_nil]; rfl, rfl, rfl⟩

theorem throw (e : Error) :
    Observes (σ := σ) (α := α) (throw e) (throw e) fun result made => result = .error e ∧ made = [] :=
  fun _ before => ⟨[], by rw [List.append_nil]; rfl, rfl, rfl⟩

theorem imp (h : Observes act seen Calls) (himp : ∀ result made, Calls result made → Calls' result made) :
    Observes act seen Calls' := fun s before => by
  obtain ⟨made, hrun, hmade⟩ := h s before
  exact ⟨made, hrun, himp _ _ hmade⟩

/-- The calls of actions in sequence come one after the other, up to the first that fails. -/
theorem bind {f : α → Action σ β} {f' : α → Action (σ × List Made) β} {Next : α → Except Error β → List Made → Prop}
    (h : Observes act seen Calls) (hf : ∀ x, Observes (f x) (f' x) (Next x)) :
    Observes (act >>= f) (seen >>= f') fun result made => (∃ e, result = .error e ∧ Calls (.error e) made) ∨
      ∃ x first rest, made = first ++ rest ∧ Calls (.ok x) first ∧ Next x result rest := fun s before => by
  obtain ⟨made, hrun, hmade⟩ := h s before
  rw [Action.run_bind, Action.run_bind, hrun]
  rcases hact : act.run s with ⟨result, s'⟩
  rw [hact] at hmade
  cases result with
  | error e => exact ⟨made, rfl, Or.inl ⟨e, rfl, hmade⟩⟩
  | ok x =>
    obtain ⟨rest, hrest, hnext⟩ := hf x s' (before ++ made)
    refine ⟨made ++ rest, ?_, Or.inr ⟨x, made, rest, rfl, hmade, hnext⟩⟩
    rw [← List.append_assoc]
    exact hrest

/-- A handler's calls come after those of the action that failed. -/
theorem tryCatch {f : Error → Action σ α} {f' : Error → Action (σ × List Made) α}
    {Next : Error → Except Error α → List Made → Prop} (h : Observes act seen Calls)
    (hf : ∀ e, Observes (f e) (f' e) (Next e)) :
    Observes (tryCatch act f) (tryCatch seen f') fun result made => (∃ x, result = .ok x ∧ Calls (.ok x) made) ∨
      ∃ e first rest, made = first ++ rest ∧ Calls (.error e) first ∧ Next e result rest := fun s before => by
  obtain ⟨made, hrun, hmade⟩ := h s before
  rw [Action.run_tryCatch, Action.run_tryCatch, hrun]
  rcases hact : act.run s with ⟨result, s'⟩
  rw [hact] at hmade
  cases result with
  | ok x => exact ⟨made, rfl, Or.inl ⟨x, rfl, hmade⟩⟩
  | error e =>
    obtain ⟨rest, hrest, hnext⟩ := hf e s' (before ++ made)
    refine ⟨made ++ rest, ?_, Or.inr ⟨e, made, rest, rfl, hmade, hnext⟩⟩
    rw [← List.append_assoc]
    exact hrest

end Observes

/-! ## Statements in order -/

variable {c : Connection σ} {statements : List String} {s : σ} {e : Error} {made : List Made}

/-- The call of a statement that was carried out. -/
def done (statement : String) : Made := { ask := .execute statement }

/-- The calls of statements in order: all are carried out, or those before the first that fails. -/
inductive Executes : List String → Except Error Unit → List Made → Prop
  | all (statements : List String) : Executes statements (.ok ()) (statements.map done)
  | upTo (pre : List String) (statement : String) (post : List String) (e : Error) :
      Executes (pre ++ statement :: post) (.error e)
        (pre.map done ++ [{ ask := .execute statement, failure := some e }])

theorem observes_executeAll (c : Connection σ) : ∀ statements : List String,
    Observes (c.executeAll statements) (c.observed.executeAll statements) (Executes statements)
  | [] => (Observes.pure ()).imp fun _ _ h => by
    obtain ⟨rfl, rfl⟩ := h
    exact .all []
  | statement :: rest => by
    refine ((Observes.noting (.execute statement) (c.execute statement)).bind
      fun _ => observes_executeAll c rest).imp fun result made h => ?_
    rcases h with ⟨e, rfl, rfl⟩ | ⟨n, first, after, rfl, rfl, hafter⟩
    · exact .upTo [] statement rest e
    · cases hafter with
      | all => exact .all (statement :: rest)
      | upTo pre failing post e => exact .upTo (statement :: pre) failing post e

/-! ## Transactions -/

/-- The calls of a transaction: it is refused; it fails at a statement and is rolled back, whether that succeeds or not;
it fails at its commit; it is committed. -/
inductive Transacts (statements : List String) : Except Error Unit → List Made → Prop
  | refused (e : Error) : Transacts statements (.error e) [{ ask := .start, failure := some e }]
  | failed (pre : List String) (statement : String) (post : List String) (h : statements = pre ++ statement :: post)
      (e : Error) (back : Option Error) : Transacts statements (.error e)
        ({ ask := .start } :: pre.map done ++
          [{ ask := .execute statement, failure := some e }, { ask := .rollback, failure := back }])
  | uncommitted (e : Error) : Transacts statements (.error e)
      ({ ask := .start } :: statements.map done ++ [{ ask := .commit, failure := some e }])
  | committed : Transacts statements (.ok ()) ({ ask := .start } :: statements.map done ++ [{ ask := .commit }])

/-- Giving a transaction up is one call, whose failure is dropped. -/
theorem observes_abandon (c : Connection σ) : Observes c.abandon c.observed.abandon fun result made =>
    result = .ok () ∧ ∃ back, made = [{ ask := .rollback, failure := back }] := by
  refine ((Observes.noting .rollback c.rollback).tryCatch fun _ => Observes.pure ()).imp fun result made h => ?_
  rcases h with ⟨_, rfl, rfl⟩ | ⟨e, first, rest, rfl, rfl, rfl, rfl⟩
  · exact ⟨rfl, none, rfl⟩
  · exact ⟨rfl, some e, rfl⟩

/-- **The calls of a transaction over any store**, which does observed what it does unobserved. -/
theorem observes_runInTransaction (c : Connection σ) (statements : List String) :
    Observes (c.runInTransaction statements) (c.observed.runInTransaction statements) (Transacts statements) := by
  have hguarded := (observes_executeAll c statements).tryCatch fun e =>
    (observes_abandon c).bind fun _ => Observes.throw (α := Unit) e
  refine ((Observes.noting .start c.start).bind fun _ =>
    hguarded.bind fun _ => Observes.noting .commit c.commit).imp fun result made h => ?_
  rcases h with ⟨e, rfl, rfl⟩ | ⟨_, first, rest, rfl, rfl, h⟩
  · exact .refused e
  rcases h with ⟨e, rfl, h⟩ | ⟨_, carried, last, rfl, h, rfl⟩
  · -- the statements failed, so that the transaction was given up
    rcases h with ⟨_, hok, -⟩ | ⟨e', sent, after, rfl, hsent, h⟩
    · cases hok
    rcases h with ⟨_, -, hok, -⟩ | ⟨_, abandoned, rest, rfl, ⟨-, back, rfl⟩, he, rfl⟩
    · cases hok
    cases he
    cases hsent with
    | upTo pre statement post e =>
      rw [List.append_nil, List.append_assoc]
      exact .failed pre statement post rfl e back
  · rcases h with ⟨_, -, hcarried⟩ | ⟨_, _, _, -, -, h⟩
    · cases hcarried
      cases result with
      | ok u => exact .committed
      | error e => exact .uncommitted e
    · rcases h with ⟨_, hok, -⟩ | ⟨_, _, _, -, -, hok, -⟩ <;> cases hok

/-- Whether calls end with the first failure, which is `e`, and then the only rollback. -/
def RolledBack (e : Error) (made : List Made) : Prop :=
  ∃ before failing back,
    made = before ++ [{ ask := failing, failure := some e }, { ask := .rollback, failure := back }] ∧
    (∀ m ∈ before, m.failure = none) ∧ made.countP (·.ask = .rollback) = 1

theorem lastAsk_of_rolledBack (h : RolledBack e made) : (made.getLast?).map (·.ask) = some .rollback := by
  obtain ⟨before, failing, back, rfl, -, -⟩ := h
  simp

theorem rolledBack_of_statement (pre : List String) (statement : String) (e : Error) (back : Option Error) :
    RolledBack e ({ ask := .start } :: pre.map done ++
      [{ ask := .execute statement, failure := some e }, { ask := .rollback, failure := back }]) := by
  have hnone : (pre.map done).countP (·.ask = .rollback) = 0 :=
    List.countP_eq_zero.2 fun m hm => by
      obtain ⟨st, -, rfl⟩ := List.mem_map.1 hm
      simp [done]
  refine ⟨_, _, back, rfl, fun m hm => ?_, by simp [List.countP_append, hnone]⟩
  rcases List.mem_cons.1 hm with rfl | hm
  · rfl
  · obtain ⟨st, -, rfl⟩ := List.mem_map.1 hm
    rfl

/-- **A transaction that fails after it began is rolled back once, right after the call that failed, exactly when that
call is not the commit.**  A commit that fails is the last call.  The error is that of the call that failed, whether the
rollback fails or not. -/
theorem failed_transaction_rolled_back_iff (c : Connection σ) (statements : List String) (s : σ) :
    (c.observed.runInTransaction statements).run (s, []) =
        (((c.runInTransaction statements).run s).1, ((c.runInTransaction statements).run s).2, c.calls statements s) ∧
      ∀ e, ((c.runInTransaction statements).run s).1 = .error e → { ask := .start } ∈ c.calls statements s →
        (RolledBack e (c.calls statements s) ↔ .commit ∉ (c.calls statements s).map (·.ask)) ∧
        (.commit ∈ (c.calls statements s).map (·.ask) →
          c.calls statements s =
            { ask := .start } :: statements.map done ++ [{ ask := .commit, failure := some e }]) := by
  obtain ⟨made, hrun, hmade⟩ := observes_runInTransaction c statements s []
  have hcalls : c.calls statements s = made := congrArg (·.2.2) hrun
  rw [hcalls]
  refine ⟨hrun, fun e he hbegun => ?_⟩
  rw [he] at hmade
  cases hmade with
  | refused => simp at hbegun
  | failed pre statement post h e back =>
    have hcommit : Ask.commit ∉ ({ ask := .start } :: pre.map done ++ [{ ask := .execute statement, failure := some e },
        { ask := .rollback, failure := back }] : List Made).map (·.ask) := by
      simp [done]
    exact ⟨⟨fun _ => hcommit, fun _ => rolledBack_of_statement pre statement e back⟩, fun h => absurd h hcommit⟩
  | uncommitted =>
    refine ⟨⟨fun h => ?_, fun h => absurd ?_ h⟩, fun _ => rfl⟩
    · have hlast := lastAsk_of_rolledBack h
      rw [List.getLast?_concat] at hlast
      cases hlast
    · simp

/-- The third statement is not sent, and the first is rolled back with the second, which the recording rejects. -/
theorem failed_transaction_rolled_back_recording :
    ((Recording.connection.runInTransaction ["A", "B", "C"]).run { rejected := some "B" }).1 =
        .error (.storage (.rejected "B")) ∧
      RolledBack (.storage (.rejected "B")) (Recording.connection.calls ["A", "B", "C"] { rejected := some "B" }) := by
  have hfailed : ((Recording.connection.runInTransaction ["A", "B", "C"]).run { rejected := some "B" }).1 =
      .error (.storage (.rejected "B")) := by decide
  refine ⟨hfailed, ?_⟩
  exact ((failed_transaction_rolled_back_iff Recording.connection ["A", "B", "C"] { rejected := some "B" }).2 _ hfailed
    (by decide)).1.2 (by decide)

/-- A recording that finds a deferred constraint unmet whenever it is asked to commit. -/
def unmet : Connection Recording := { Recording.connection with commit := throw (.raised .storage "constraint unmet") }

/-- **A commit that fails is not followed by a rollback**, and the store is left with the transaction open. -/
theorem failed_commit_not_rolled_back :
    ((unmet.runInTransaction ["A"]).run {}).1 = .error (.raised .storage "constraint unmet") ∧
      { ask := .start } ∈ unmet.calls ["A"] {} ∧
      ¬ RolledBack (.raised .storage "constraint unmet") (unmet.calls ["A"] {}) ∧
      ((unmet.runInTransaction ["A"]).run {}).2.inTransaction = true := by
  refine ⟨by decide, by decide, fun h => ?_, by decide⟩
  have hlast : (unmet.calls ["A"] {}).getLast?.map (·.ask) = some .commit := by decide
  cases hlast.symm.trans (lastAsk_of_rolledBack h)

end Connection
end Ormap
