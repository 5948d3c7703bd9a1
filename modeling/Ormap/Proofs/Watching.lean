import Mathlib.Data.List.Induction
import Ormap.Proofs.Persistence
import Ormap.Waiting
/-!
# Watching — waiters in the background, between events in any order

What a waiter has seen is kept by every event (`Scene.watched_run`): a status that it has read is the current one unless
the status has changed since, and it does not go to sleep on an answer.
-/
namespace Ormap

/-! ## What one event does -/

/-- What an event does to the database. -/
inductive Database.Becomes (db : Database) : Event → Database → Prop
  | register {d : EntityDescriptor} {db' : Database} : db.register d = .ok db' → Becomes db (.register d) db'
  | mapping {e : Event} : e.maps = true → e.signals = true → db.isSealed = false → Becomes db e db.startMapping
  | advance {step : Mapping.Step} {db' : Database} : db.step? step = some db' → Becomes db (.advance step) db'
  | beginChange : Becomes db .beginChange db.beginChange
  | endChange : Becomes db .endChange db.endChange

namespace Database

variable {db db' : Database} {e : Event}

theorem decide?_self (db : Database) (request : Request) : db.decide? db.status request = db.answer? request := by
  cases request <;> rfl

/-- An answer depends on the status and the registered types. -/
theorem answer?_congr (hs : db'.status = db.status) (hc : db'.catalog = db.catalog) (request : Request) :
    db'.answer? request = db.answer? request := by
  rw [← decide?_self, ← decide?_self, hs]
  cases request with
  | recognized type => simp only [decide?, index?, hc]
  | mapped | ready => rfl

theorem becomes_of_after? (h : db.after? e = some db') : db.Becomes e db' := by
  cases e with
  | register d =>
    replace h : (db.register d).toOption = some db' := h
    cases hr : db.register d with
    | ok db₁ =>
      rw [hr] at h
      cases h
      exact .register hr
    | error fault =>
      rw [hr] at h
      cases h
  | map | resolve =>
    simp only [after?, Option.ite_none_left_eq_some] at h
    obtain ⟨hs, h⟩ := h
    cases h
    exact .mapping rfl rfl (by simpa using hs)
  | advance step => exact .advance h
  | beginChange => cases h; exact .beginChange
  | endChange => cases h; exact .endChange
  | watch | read | look => cases h

theorem Becomes.later (h : db.Becomes e db') : db.Later db' := by
  cases h with
  | register h => exact later_register h
  | mapping => exact later_startMapping db
  | advance h => exact later_step h
  | beginChange => exact later_beginChange db
  | endChange => exact later_endChange db

theorem Becomes.reachable (h : db.Becomes e db') (hr : db.Reachable) : db'.Reachable := by
  cases h with
  | register h => exact hr.register _ h
  | mapping => exact hr.startMapping
  | advance h => exact hr.step _ h
  | beginChange => exact hr.beginChange
  | endChange => exact hr.endChange

/-- What watchers of the status are not told of leaves it as it is. -/
theorem Becomes.status (h : db.Becomes e db') (hs : e.signals = false) :
    db'.status = db.status ∧ db'.catalog = db.catalog := by
  cases h with
  | @advance step db' h =>
    obtain ⟨m, m', hm, -, rfl⟩ := step?_eq_some.1 h
    refine ⟨?_, rfl⟩
    have hcounts : step.counts = false := hs
    unfold Database.status Database.isSealed
    rw [hm, hcounts]
    rfl
  | mapping _ hsignals =>
    rw [hs] at hsignals
    cases hsignals
  | register | beginChange | endChange => cases hs

theorem Becomes.isSealed (h : db.Becomes e db') : db'.isSealed = (db.isSealed || e.maps) := by
  cases h with
  | register h =>
    obtain ⟨-, catalog, -, rfl⟩ := register_eq_ok h
    exact (Bool.or_false _).symm
  | mapping hm => rw [isSealed_startMapping, hm, Bool.or_true]
  | advance h =>
    obtain ⟨m, m', hm, -, rfl⟩ := step?_eq_some.1 h
    unfold Database.isSealed
    rw [hm]
    rfl
  | beginChange | endChange => exact (Bool.or_false _).symm

/-- The entities after an event are those before it, with the one that it registers. -/
theorem Becomes.entities (h : db.Becomes e db') : db'.catalog.entities = db.catalog.entities ∨
    ∃ d, e = .register d ∧ db.register d = .ok db' ∧ db'.catalog.entities = db.catalog.entities ++ [d] := by
  cases h with
  | register h =>
    obtain ⟨-, catalog, hc, rfl⟩ := register_eq_ok h
    exact Or.inr ⟨_, rfl, h, (Catalog.register_eq_ok.1 hc).2⟩
  | mapping => exact Or.inl (congrArg Catalog.entities (catalog_startMapping db))
  | advance h =>
    obtain ⟨m, m', -, -, rfl⟩ := step?_eq_some.1 h
    exact Or.inl rfl
  | beginChange | endChange => exact Or.inl rfl

/-- A sealed registry stays as it is when it is to be mapped. -/
theorem isSealed_of_after?_eq_none (h : db.after? e = none) (hm : e.maps = true) : db.isSealed = true := by
  cases e with
  | map | resolve =>
    by_contra hs
    rw [after?, if_neg hs] at h
    cases h
  | _ => cases hm

end Database

namespace Scene

variable {config : Config} {w : Scene} {events before mid after : List Event} {e : Event} {n : Nat} {x y : Watcher}
  {a : Answer}

theorem run_append (config : Config) (events more : List Event) :
    run config (events ++ more) = more.foldl step (run config events) := List.foldl_append

theorem run_concat (config : Config) (events : List Event) (e : Event) :
    run config (events ++ [e]) = (run config events).step e := run_append config events [e]

theorem step_of_some {db : Database} (h : w.db.after? e = some db) :
    w.step e = { w with db, signal := if e.signals then w.signal + 1 else w.signal } := by
  unfold step
  rw [h]

theorem step_of_none (h : w.db.after? e = none) : w.step e = { w with watchers := w.attend e } := by
  unfold step
  rw [h]

/-- An event leaves the status and the registered types as they are, or waiters can tell. -/
theorem step_status (w : Scene) (e : Event) : ((w.step e).signal = w.signal ∧ (w.step e).db.status = w.db.status ∧
    (w.step e).db.catalog = w.db.catalog) ∨ (w.step e).signal = w.signal + 1 := by
  cases h : w.db.after? e with
  | some db =>
    rw [step_of_some h]
    cases hs : e.signals with
    | true => exact Or.inr rfl
    | false => exact Or.inl ⟨rfl, (Database.becomes_of_after? h).status hs⟩
  | none => exact Or.inl (by rw [step_of_none h]; exact ⟨rfl, rfl, rfl⟩)

theorem later_step (w : Scene) (e : Event) : w.db.Later (w.step e).db := by
  cases h : w.db.after? e with
  | some db =>
    rw [step_of_some h]
    exact (Database.becomes_of_after? h).later
  | none =>
    rw [step_of_none h]
    exact .refl _

theorem reachable_step (hr : w.db.Reachable) (e : Event) : (w.step e).db.Reachable := by
  cases h : w.db.after? e with
  | some db =>
    rw [step_of_some h]
    exact (Database.becomes_of_after? h).reachable hr
  | none =>
    rw [step_of_none h]
    exact hr

theorem isSealed_step (w : Scene) (e : Event) : (w.step e).db.isSealed = (w.db.isSealed || e.maps) := by
  cases h : w.db.after? e with
  | some db =>
    rw [step_of_some h]
    exact (Database.becomes_of_after? h).isSealed
  | none =>
    rw [step_of_none h]
    cases hm : e.maps with
    | false => exact (Bool.or_false _).symm
    | true =>
      rw [Bool.or_true]
      exact Database.isSealed_of_after?_eq_none h hm

/-- An event leaves a waiter alone, starts it, or lets it do its next step. -/
theorem mem_attend (h : (w.attend e)[n]? = some y) : w.watchers[n]? = some y ∨ (∃ request, y = { request }) ∨
    ∃ x, w.watchers[n]? = some x ∧ (y = x.read w.signal w.db ∨ y = x.look w.db) := by
  have hmodify : ∀ k (f : Watcher → Watcher), (w.watchers.modify k f)[n]? = some y →
      w.watchers[n]? = some y ∨ ∃ x, w.watchers[n]? = some x ∧ y = f x := by
    intro k f h
    rw [List.getElem?_modify, Option.map_eq_map, Option.map_eq_some_iff] at h
    obtain ⟨x, hx, h⟩ := h
    split at h
    · exact Or.inr ⟨x, hx, h.symm⟩
    · exact Or.inl (h ▸ hx)
  cases e with
  | watch request =>
    replace h : (w.watchers ++ [({ request } : Watcher)])[n]? = some y := h
    by_cases hn : n < w.watchers.length
    · rw [List.getElem?_append_left hn] at h
      exact Or.inl h
    · rw [List.getElem?_append_right (Nat.le_of_not_lt hn)] at h
      exact Or.inr (Or.inl ⟨request, List.mem_singleton.1 (List.mem_of_getElem? h)⟩)
  | read k =>
    rcases hmodify k _ h with h | ⟨x, hx, rfl⟩
    · exact Or.inl h
    · exact Or.inr (Or.inr ⟨x, hx, Or.inl rfl⟩)
  | look k =>
    rcases hmodify k _ h with h | ⟨x, hx, rfl⟩
    · exact Or.inl h
    · exact Or.inr (Or.inr ⟨x, hx, Or.inr rfl⟩)
  | _ => exact Or.inl h

theorem later_run (h : before <+: after) : (run config before).db.Later (run config after).db := by
  obtain ⟨more, rfl⟩ := h
  induction more using List.reverseRecOn with
  | nil =>
    rw [List.append_nil]
    exact .refl _
  | append_singleton more e ih =>
    rw [← List.append_assoc, run_concat]
    exact ih.trans (later_step _ e)

theorem reachable_run (config : Config) (events : List Event) : (run config events).db.Reachable := by
  induction events using List.reverseRecOn with
  | nil => exact .fresh config
  | append_singleton events e ih =>
    rw [run_concat]
    exact reachable_step ih e

theorem isSealed_run : (run config events).db.isSealed = true ↔ ∃ e ∈ events, e.maps = true := by
  induction events using List.reverseRecOn with
  | nil => simp [run, Database.isSealed]
  | append_singleton events e ih =>
    rw [run_concat, isSealed_step, Bool.or_eq_true, ih]
    simp [List.mem_append, or_and_right, exists_or]

/-! ## Registrations -/

/-- Whether a run registers a type at a position. -/
def Registers (config : Config) (events : List Event) (type : String) (i : Nat) : Prop :=
  ∃ before d after db, events = before ++ .register d :: after ∧ d.typeName = type ∧
    (run config before).db.register d = .ok db ∧ (run config before).db.catalog.entities.length = i

theorem Registers.append {type : String} {i : Nat} (h : Registers config events type i) (e : Event) :
    Registers config (events ++ [e]) type i := by
  obtain ⟨before, d, after, db, rfl, hrest⟩ := h
  exact ⟨before, d, after ++ [e], db, by rw [List.append_assoc, List.cons_append], hrest⟩

/-- A descriptor that is registered is in the catalog from then on. -/
theorem getElem?_of_register {d : EntityDescriptor} {db : Database} (h : events = before ++ .register d :: after)
    (hr : (run config before).db.register d = .ok db) :
    (run config events).db.catalog.entities[(run config before).db.catalog.entities.length]? = some d := by
  obtain ⟨-, catalog, hc, rfl⟩ := Database.register_eq_ok hr
  have hafter : (run config before).db.after? (.register d) = some _ := congrArg Except.toOption hr
  have hlater : (run config (before ++ [.register d])).db.Later (run config events).db :=
    later_run ⟨after, by rw [h, List.append_assoc]; rfl⟩
  rw [run_concat, step_of_some hafter] at hlater
  obtain ⟨added, hadded⟩ := hlater.entities
  replace hadded : catalog.entities ++ added = (run config events).db.catalog.entities := hadded
  rw [← hadded, (Catalog.register_eq_ok.1 hc).2, List.append_assoc, List.getElem?_append_right (Nat.le_refl _),
    Nat.sub_self]
  rfl

/-- **A type has the position at which the run registers it.** -/
theorem index?_run {type : String} {i : Nat} :
    (run config events).db.index? type = some i ↔ Registers config events type i := by
  constructor
  · intro h
    obtain ⟨d, hd, hname⟩ := Catalog.index?_eq_some_iff.1 h
    clear h
    induction events using List.reverseRecOn with
    | nil => cases hd
    | append_singleton events e ih =>
      rw [run_concat] at hd
      cases ha : (run config events).db.after? e with
      | none =>
        rw [step_of_none ha] at hd
        exact (ih hd).append e
      | some db =>
        rw [step_of_some ha] at hd
        rcases (Database.becomes_of_after? ha).entities with he | ⟨d', rfl, hr, he⟩
        · rw [he] at hd
          exact (ih hd).append e
        · rw [he] at hd
          by_cases hi : i < (run config events).db.catalog.entities.length
          · rw [List.getElem?_append_left hi] at hd
            exact (ih hd).append _
          · -- the position is the last one, that of the new descriptor
            rw [List.getElem?_append_right (Nat.le_of_not_lt hi)] at hd
            obtain ⟨hlt, hget⟩ := List.getElem?_eq_some_iff.1 hd
            have hlast : (run config events).db.catalog.entities.length = i := by
              rw [List.length_singleton] at hlt
              omega
            rw [List.getElem_singleton] at hget
            exact ⟨events, d', [], db, rfl, by rw [hget, hname], hr, hlast⟩
  · rintro ⟨before, d, after, db, h, hname, hr, rfl⟩
    exact Catalog.index?_eq_some_iff.2 ⟨d, getElem?_of_register h hr, hname⟩

theorem index?_run_eq_none {type : String} :
    (run config events).db.index? type = none ↔ ∀ i, ¬ Registers config events type i := by
  rw [Option.eq_none_iff_forall_ne_some]
  exact forall_congr' fun i => not_congr index?_run

/-! ## What a waiter has seen -/

/-- Whether a waiter, by its number, had been started at some point of a run. -/
def Since (config : Config) (before events : List Event) (n : Nat) : Prop :=
  before <+: events ∧ n < (run config before).watchers.length

/-- What holds of a waiter after a run. -/
structure Watched (config : Config) (events : List Event) (n : Nat) (x : Watcher) : Prop where
  /-- The status that it has read is one since it was started, and that of now unless the status has changed since. -/
  reading : ∀ signal status, x.phase = .reading signal status → signal ≤ (run config events).signal ∧
    (signal = (run config events).signal → status = (run config events).db.status) ∧
    ∃ before, Since config before events n ∧ (run config before).db.status = status
  /-- It does not sleep on an answer. -/
  asleep : ∀ signal, x.phase = .asleep signal → x.answer = none → signal ≤ (run config events).signal ∧
    (signal = (run config events).signal → (run config events).db.answer? x.request = none)
  /-- Its answer came from a status and a catalog since it was started. -/
  answered : ∀ a, x.answer = some a → ∃ before mid, Since config before events n ∧ before <+: mid ∧ mid <+: events ∧
    (run config mid).db.decide? (run config before).db.status x.request = some a

theorem Since.append (h : Since config before events n) (e : Event) : Since config before (events ++ [e]) n :=
  ⟨h.1.trans (List.prefix_append _ _), h.2⟩

/-- What a waiter has seen stays as it is, and a status that changes makes it out of date. -/
theorem Watched.append (h : Watched config events n x) (e : Event) : Watched config (events ++ [e]) n x where
  reading := by
    intro signal status hx
    obtain ⟨hle, hnow, before, hsince, hbefore⟩ := h.reading signal status hx
    rw [run_concat]
    rcases step_status (run config events) e with ⟨hs, hstatus, -⟩ | hs
    · rw [hs, hstatus]
      exact ⟨hle, hnow, before, hsince.append e, hbefore⟩
    · rw [hs]
      exact ⟨Nat.le_succ_of_le hle, fun heq => by omega, before, hsince.append e, hbefore⟩
  asleep := by
    intro signal hx hnone
    obtain ⟨hle, hnow⟩ := h.asleep signal hx hnone
    rw [run_concat]
    rcases step_status (run config events) e with ⟨hs, hstatus, hcatalog⟩ | hs
    · rw [hs, Database.answer?_congr hstatus hcatalog]
      exact ⟨hle, hnow⟩
    · rw [hs]
      exact ⟨Nat.le_succ_of_le hle, fun heq => by omega⟩
  answered := by
    intro a ha
    obtain ⟨before, mid, hsince, hbm, hme, hd⟩ := h.answered a ha
    exact ⟨before, mid, hsince.append e, hbm, hme.trans (List.prefix_append _ _), hd⟩

theorem watched_new (request : Request) : Watched config events n { request } where
  reading := fun _ _ h => by cases h
  asleep := fun _ h => by cases h
  answered := fun _ h => by cases h

/-- A waiter that reads the status reads that of now. -/
theorem Watched.read (h : Watched config events n x) (hn : n < (run config events).watchers.length) :
    Watched config events n (x.read (run config events).signal (run config events).db) := by
  have hread : x.answer = none → Watched config events n
      { x with phase := .reading (run config events).signal (run config events).db.status } := fun hnone =>
    { reading := by
        intro signal status hx
        cases hx
        exact ⟨Nat.le_refl _, fun _ => rfl, events, ⟨List.prefix_rfl, hn⟩, rfl⟩
      asleep := fun _ h => by cases h
      answered := fun a ha => by
        rw [show x.answer = some a from ha] at hnone
        cases hnone }
  unfold Watcher.read
  split
  · rename_i hnone _
    exact hread hnone
  · rename_i hnone _
    split
    · exact h
    · exact hread hnone
  · exact h

/-- **A waiter that looks without finding an answer goes to sleep only if there is none**: when the status is still the
one that it has read, it is answered as the database answers. -/
theorem Watched.look (h : Watched config events n x) : Watched config events n (x.look (run config events).db) := by
  unfold Watcher.look
  split
  · rename_i signal status hnone hphase
    obtain ⟨hle, hnow, before, hsince, hbefore⟩ := h.reading signal status hphase
    refine ⟨(fun _ _ h => by cases h), fun signal' hx hd => ?_, fun a ha => ?_⟩
    · cases hx
      refine ⟨hle, fun heq => ?_⟩
      rw [← Database.decide?_self, ← hnow heq]
      exact hd
    · refine ⟨before, events, hsince, hsince.1, List.prefix_rfl, ?_⟩
      rw [hbefore]
      exact ha
  · exact h

/-- **What holds of every waiter after every run.** -/
theorem watched_run :
    ∀ {n : Nat} {x : Watcher}, (run config events).watchers[n]? = some x → Watched config events n x := by
  induction events using List.reverseRecOn with
  | nil => intro n x h; cases h
  | append_singleton events e ih =>
    intro n y h
    rw [run_concat] at h
    cases ha : (run config events).db.after? e with
    | some db =>
      rw [step_of_some ha] at h
      exact (ih h).append e
    | none =>
      rw [step_of_none ha] at h
      rcases mem_attend h with h | ⟨request, rfl⟩ | ⟨x, hx, rfl | rfl⟩
      · exact (ih h).append e
      · exact watched_new request
      · exact ((ih hx).read (List.getElem?_eq_some_iff.1 hx).1).append e
      · exact (ih hx).look.append e

end Scene
end Ormap
