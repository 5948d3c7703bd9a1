import Ormap.Connection.Recording
import Ormap.Proofs.Outcome
/-!
# Actions — what a request does to a store, step by step

An action run from a state gives an outcome and the state afterwards; a failure ends a sequence of actions and keeps the
state that it left.
-/
namespace Ormap
namespace Action

variable {σ α β : Type}

theorem run_bind (a : Action σ α) (f : α → Action σ β) (s : σ) :
    (a >>= f).run s = match a.run s with
      | (.ok x, s') => (f x).run s'
      | (.error e, s') => (.error e, s') := by
  show StateT.bind a.run (ExceptT.bindCont f) s = _
  unfold StateT.bind
  show (match a.run s with | (x, s') => ExceptT.bindCont f x s') = _
  rcases a.run s with ⟨x | x, s'⟩ <;> rfl

theorem run_tryCatch (a : Action σ α) (f : Error → Action σ α) (s : σ) :
    (tryCatch a f).run s = match a.run s with
      | (.ok x, s') => (.ok x, s')
      | (.error e, s') => (f e).run s' := by
  have h : (tryCatch a f : Action σ α) = ExceptT.tryCatch a f := rfl
  rw [h]
  unfold ExceptT.tryCatch ExceptT.mk
  show (a.run >>= _) s = _
  show StateT.bind a.run _ s = _
  unfold StateT.bind
  rcases a.run s with ⟨x | x, s'⟩ <;> rfl

theorem run_throw (e : Error) (s : σ) : (throw e : Action σ α).run s = (.error e, s) := rfl

theorem run_pure (x : α) (s : σ) : (pure x : Action σ α).run s = (.ok x, s) := rfl

theorem run_lift (x : Except Error α) (s : σ) : (liftM x : Action σ α).run s = (x, s) := rfl

theorem run_get (s : σ) : (get : Action σ σ).run s = (.ok s, s) := rfl

end Action

namespace Recording

/-! ## The requests of a recording -/

theorem run_accept (reply : Recording → α) (statement : String) (s : Recording) :
    (accept reply statement).run s =
      if s.rejects statement = true then (.error (.storage (.rejected statement)), s)
      else (.ok (reply s), s.append statement) := by
  unfold accept
  rw [Action.run_bind, Action.run_get]
  by_cases h : s.rejects statement = true
  · rw [if_pos h]
    dsimp only
    rw [if_pos h]
    rfl
  · rw [if_neg h]
    dsimp only
    rw [if_neg h]
    rfl

theorem run_start (s : Recording) : start.run s =
    if s.inTransaction = true then (.error (.storage .alreadyActive), s)
    else (.ok (), { s.append "BEGIN" with inTransaction := true }) := by
  unfold start
  rw [Action.run_bind, Action.run_get]
  by_cases h : s.inTransaction = true
  · rw [if_pos h]
    dsimp only
    rw [if_pos h]
    rfl
  · rw [if_neg h]
    dsimp only
    rw [if_neg h]
    rfl

theorem run_finish (statement : String) (s : Recording) : (finish statement).run s =
    if s.inTransaction = true then (.ok (), { s.append statement with inTransaction := false })
    else (.error (.storage .notActive), s) := by
  unfold finish
  rw [Action.run_bind, Action.run_get]
  by_cases h : s.inTransaction = true
  · rw [if_pos h]
    dsimp only
    rw [h]
    rfl
  · rw [if_neg h]
    dsimp only
    rw [Bool.not_eq_true] at h
    rw [h]
    rfl

end Recording
end Ormap
