import Ormap.Proofs.Watching
/-!
# Waiting — the answers of waiters, whatever the order of events

What a waiter has been told comes from a status and a catalog since it was started, and holds from then on.  No change
is slept through (`Scene.answer?_of_rested`), so that waiters that have run in the current state have the answers that
it gives (`Scene.waiters_sound`).  Each comes to rest by a turn of its own, which for waiters that are not halfway
through a look is looking at once.
-/
namespace Ormap
namespace Scene

/-! ## Waiters that have run -/

/-- Whether every waiter has its answer or has looked at the database as it is now. -/
def Rested (w : Scene) : Prop := ∀ x ∈ w.watchers, x.answer.isSome = true ∨ x.phase = .asleep w.signal

/-- A turn for each waiter of the first `n`: it ends a look that it has begun, and looks. -/
def turns (n : Nat) : List Event := (List.range n).flatMap fun k => [.look k, .read k, .look k]

end Scene

namespace Watcher

/-- What a turn does to a waiter. -/
def settle (now : Nat) (db : Database) (x : Watcher) : Watcher := ((x.look db).read now db).look db

variable {now signal : Nat} {db : Database} {x : Watcher}

theorem read_of_answer {a : Answer} (h : x.answer = some a) : x.read now db = x := by
  unfold read
  rw [h]

theorem look_of_answer {a : Answer} (h : x.answer = some a) : x.look db = x := by
  unfold look
  rw [h]

theorem settle_of_answer {a : Answer} (h : x.answer = some a) : x.settle now db = x := by
  unfold settle
  rw [look_of_answer h, read_of_answer h, look_of_answer h]

theorem settle_awake (h : x.answer = none) (hp : x.phase = .awake) :
    x.settle now db = { x with answer := db.answer? x.request, phase := .asleep now } := by
  simp only [settle, look, read, h, hp, Database.decide?_self]

theorem settle_asleep (h : x.answer = none) (hp : x.phase = .asleep signal) : x.settle now db =
    if signal = now then x else { x with answer := db.answer? x.request, phase := .asleep now } := by
  by_cases hs : signal = now
  · simp only [settle, look, read, h, hp, if_pos hs]
  · simp only [settle, look, read, h, hp, if_neg hs, Database.decide?_self]

theorem settle_look (now : Nat) (db : Database) (x : Watcher) : (x.look db).settle now db = x.settle now db := by
  have hlook : (x.look db).look db = x.look db := by
    cases ha : x.answer with
    | some a => rw [look_of_answer ha, look_of_answer ha]
    | none => cases hp : x.phase <;> simp [look, ha, hp]
  unfold settle
  rw [hlook]

/-- After a look a waiter is not halfway through one. -/
theorem look_cases (db : Database) (x : Watcher) : (∃ a, (x.look db).answer = some a) ∨
    (x.look db).answer = none ∧ ((x.look db).phase = .awake ∨ ∃ signal, (x.look db).phase = .asleep signal) := by
  cases ha : x.answer with
  | some a => exact Or.inl ⟨a, by rw [look_of_answer ha, ha]⟩
  | none =>
    cases hp : x.phase with
    | awake => exact Or.inr (by simp [look, ha, hp])
    | asleep signal => exact Or.inr (by simp [look, ha, hp])
    | reading signal status =>
      have hlook : x.look db =
          { x with answer := db.decide? status x.request, phase := .asleep signal } := by
        simp only [look, ha, hp]
      rw [hlook]
      cases db.decide? status x.request with
      | some a => exact Or.inl ⟨a, rfl⟩
      | none => exact Or.inr ⟨rfl, Or.inr ⟨signal, rfl⟩⟩

/-- After its turn a waiter has its answer or has looked at the database as it is. -/
theorem rested_settle (now : Nat) (db : Database) (x : Watcher) :
    (x.settle now db).answer.isSome = true ∨ (x.settle now db).phase = .asleep now := by
  rw [← settle_look]
  rcases look_cases db x with ⟨a, ha⟩ | ⟨ha, hp | ⟨signal, hp⟩⟩
  · exact Or.inl (by rw [settle_of_answer ha, ha]; rfl)
  · exact Or.inr (by rw [settle_awake ha hp])
  · rw [settle_asleep ha hp]
    by_cases hs : signal = now
    · rw [if_pos hs, ← hs]
      exact Or.inr hp
    · rw [if_neg hs]
      exact Or.inr rfl

end Watcher

namespace Scene

variable {config : Config} {w : Scene} {events : List Event} {e : Event} {n : Nat} {x y : Watcher} {a : Answer}

/-! ## Answers -/

/-- **What a waiter for a type has been told still holds.** -/
theorem Watched.recognized (h : Watched config events n x) {type : String} (hx : x.request = .recognized type)
    (ha : x.answer = some a) : (∃ i, a = .recognized (some i) ∧ (run config events).db.index? type = some i) ∨
      (a = .recognized none ∧ (run config events).db.isSealed = true ∧ (run config events).db.index? type = none) := by
  obtain ⟨before, mid, -, hbm, hme, hd⟩ := h.answered a ha
  rw [hx] at hd
  unfold Database.decide? at hd
  dsimp only at hd
  cases hi : (run config mid).db.index? type with
  | some i =>
    rw [hi] at hd
    cases hd
    exact Or.inl ⟨i, rfl, (later_run hme).index? hi⟩
  | none =>
    -- the registry was sealed when the status was read, so that the catalog did not change before it was looked at
    simp only [hi, Option.ite_none_right_eq_some] at hd
    obtain ⟨hs, hd⟩ := hd
    cases hd
    have hmid := ((later_run hbm).isSealed hs).1
    exact Or.inr ⟨rfl, ((later_run hme).isSealed hmid).1, (later_run hme).index?_eq_none hmid hi⟩

theorem Watched.mapped (h : Watched config events n x) (hx : x.request = .mapped) (ha : x.answer = some a) :
    a = .mapped ∧ (run config events).db.isMapped = true := by
  obtain ⟨before, mid, -, hbm, hme, hd⟩ := h.answered a ha
  rw [hx] at hd
  simp only [Database.decide?, Option.ite_none_right_eq_some] at hd
  obtain ⟨hm, hd⟩ := hd
  cases hd
  exact ⟨rfl, (later_run (hbm.trans hme)).isMapped hm⟩

/-- A waiter for readiness was told so because the database was ready at some point since it was started. -/
theorem Watched.ready (h : Watched config events n x) (hx : x.request = .ready) (ha : x.answer = some a) :
    a = .ready ∧ ∃ before, Since config before events n ∧ (run config before).db.isReady = true := by
  obtain ⟨before, mid, hsince, -, -, hd⟩ := h.answered a ha
  rw [hx] at hd
  simp only [Database.decide?, Option.ite_none_right_eq_some] at hd
  obtain ⟨hr, hd⟩ := hd
  cases hd
  exact ⟨rfl, before, hsince, hr⟩

/-- **No change is slept through**: a waiter that rests without an answer is not answered by the database as it is. -/
theorem answer?_of_rested (hrest : (run config events).Rested) (hx : (run config events).watchers[n]? = some x)
    (hnone : x.answer = none) : (run config events).db.answer? x.request = none := by
  rcases hrest x (List.mem_of_getElem? hx) with hsome | hphase
  · rw [hnone] at hsome
    cases hsome
  · exact ((watched_run hx).asleep _ hphase hnone).2 rfl

/-- An event leaves a waiter that has its answer as it is. -/
theorem step_of_answer (hx : w.watchers[n]? = some x) (ha : x.answer = some a) (e : Event) :
    (w.step e).watchers[n]? = some x := by
  have hmodify : ∀ k (f : Watcher → Watcher), f x = x → (w.watchers.modify k f)[n]? = some x := by
    intro k f hf
    rw [List.getElem?_modify, hx]
    show some (if k = n then f x else x) = some x
    rw [hf, ite_self]
  cases h : w.db.after? e with
  | some db =>
    rw [step_of_some h]
    exact hx
  | none =>
    rw [step_of_none h]
    cases e with
    | watch request =>
      show (w.watchers ++ [({ request } : Watcher)])[n]? = some x
      rw [List.getElem?_append_left (List.getElem?_eq_some_iff.1 hx).1]
      exact hx
    | read k => exact hmodify k _ (Watcher.read_of_answer ha)
    | look k => exact hmodify k _ (Watcher.look_of_answer ha)
    | _ => exact hx

theorem foldl_step_of_answer (hx : w.watchers[n]? = some x) (ha : x.answer = some a) (more : List Event) :
    (more.foldl step w).watchers[n]? = some x := by
  induction more generalizing w with
  | nil => exact hx
  | cons e more ih => exact ih (step_of_answer hx ha e)

/-! ## Turns -/

theorem step_look (w : Scene) (k : Nat) : w.step (.look k) = { w with watchers := w.watchers.modify k (·.look w.db) } :=
  rfl

theorem step_read (w : Scene) (k : Nat) :
    w.step (.read k) = { w with watchers := w.watchers.modify k (·.read w.signal w.db) } := rfl

/-- Turns let waiters settle, and change nothing else. -/
theorem foldl_turns (w : Scene) : ∀ n, ((turns n).foldl step w).db = w.db ∧ ((turns n).foldl step w).signal = w.signal ∧
    ∀ k : Nat, ((turns n).foldl step w).watchers[k]? =
      if k < n then (w.watchers[k]?).map (·.settle w.signal w.db) else w.watchers[k]?
  | 0 => ⟨rfl, rfl, fun k => by rw [if_neg (Nat.not_lt_zero k)]; rfl⟩
  | n + 1 => by
    obtain ⟨hdb, hsignal, hwatchers⟩ := foldl_turns w n
    have hturns : turns (n + 1) = turns n ++ [.look n, .read n, .look n] := by
      simp [turns, List.range_succ]
    rw [hturns, List.foldl_append]
    generalize (turns n).foldl step w = w' at hdb hsignal hwatchers
    simp only [List.foldl_cons, List.foldl_nil, step_look, step_read]
    refine ⟨hdb, hsignal, fun k => ?_⟩
    simp only [List.getElem?_modify, hwatchers, hdb, hsignal]
    by_cases hk : n = k
    · subst hk
      simp only [if_true, if_neg (Nat.lt_irrefl n), if_pos (Nat.lt_succ_self n), Option.map_eq_map, Option.map_map]
      rfl
    · have hlt : k < n + 1 ↔ k < n := by omega
      simp only [if_neg hk, hlt, Option.map_eq_map, Option.map_id']

theorem run_turns (config : Config) (events : List Event) :
    (run config (events ++ turns (run config events).watchers.length)).db = (run config events).db ∧
    (run config (events ++ turns (run config events).watchers.length)).signal = (run config events).signal ∧
    (run config (events ++ turns (run config events).watchers.length)).watchers =
      (run config events).watchers.map (·.settle (run config events).signal (run config events).db) := by
  rw [run_append]
  obtain ⟨hdb, hsignal, hwatchers⟩ := foldl_turns (run config events) (run config events).watchers.length
  refine ⟨hdb, hsignal, List.ext_getElem? fun k => ?_⟩
  rw [hwatchers, List.getElem?_map]
  by_cases hk : k < (run config events).watchers.length
  · rw [if_pos hk]
  · rw [if_neg hk, List.getElem?_eq_none (Nat.le_of_not_lt hk)]
    rfl

/-- Waiters rest when each of them has had its turn. -/
theorem rested_turns (config : Config) (events : List Event) :
    (run config (events ++ turns (run config events).watchers.length)).Rested := by
  obtain ⟨-, hsignal, hwatchers⟩ := run_turns config events
  intro x hx
  rw [hwatchers] at hx
  obtain ⟨y, -, rfl⟩ := List.mem_map.1 hx
  rw [hsignal]
  exact Watcher.rested_settle _ _ y

/-- **A turn lets waiters that are not halfway through a look see the database at once.** -/
theorem turns_eq_lookAll
    (hphase : ∀ x ∈ (run config events).watchers, ∀ signal status, x.phase ≠ .reading signal status) :
    (run config (events ++ turns (run config events).watchers.length)).watchers.map (·.toWaiter) =
      Waiter.lookAll (run config events).db ((run config events).watchers.map (·.toWaiter)) := by
  rw [(run_turns config events).2.2, List.map_map]
  unfold Waiter.lookAll
  rw [List.map_map]
  refine List.map_congr_left fun x hx => ?_
  obtain ⟨n, hn⟩ := List.mem_iff_getElem?.1 hx
  simp only [Function.comp_apply]
  cases ha : x.answer with
  | some a =>
    rw [Watcher.settle_of_answer ha]
    unfold Waiter.look
    rw [ha]
  | none =>
    have hlook : Waiter.look (run config events).db x.toWaiter =
        { x.toWaiter with answer := (run config events).db.answer? x.request } := by
      unfold Waiter.look
      rw [ha]
    rw [hlook]
    cases hp : x.phase with
    | awake => rw [Watcher.settle_awake ha hp]
    | reading signal status => exact absurd hp (hphase x hx signal status)
    | asleep signal =>
      rw [Watcher.settle_asleep ha hp]
      by_cases hs : signal = (run config events).signal
      · rw [if_pos hs, ((watched_run hn).asleep _ hp ha).2 hs, ← ha]
      · rw [if_neg hs]

/-! ## What waiters are told -/

/-- Whether a run seals the registry without a type. -/
def SealsWithout (config : Config) (events : List Event) (type : String) : Prop :=
  (∃ e ∈ events, e.maps = true) ∧ ∀ i, ¬ Registers config events type i

/-- What holds of registrations and waiters after a run of events. -/
structure Sound (config : Config) (events : List Event) : Prop where
  /-- What has been registered is in the catalog from then on, and is resolved with it. -/
  registered : ∀ before d after db, events = before ++ .register d :: after →
    (run config before).db.register d = .ok db → (run config events).db.catalog.find? d.typeName = some d ∧
      ∃ e ∈ (run config events).db.graph.entities, e.descriptor = d
  isSealed : (run config events).db.isSealed = true ↔ ∃ e ∈ events, e.maps = true
  /-- The database is one that can arise. -/
  reachable : (run config events).db.Reachable
  recognized : ∀ (n : Nat) (x : Watcher) (type : String), (run config events).watchers[n]? = some x →
    x.request = .recognized type →
      x.answer = none ∨ (∃ i, x.answer = some (.recognized (some i)) ∧ Registers config events type i) ∨
        x.answer = some (.recognized none) ∧ SealsWithout config events type
  mapped : ∀ (n : Nat) (x : Watcher), (run config events).watchers[n]? = some x → x.request = .mapped →
    x.answer = none ∨ x.answer = some .mapped ∧ (run config events).db.isMapped = true
  ready : ∀ (n : Nat) (x : Watcher), (run config events).watchers[n]? = some x → x.request = .ready →
    x.answer = none ∨ x.answer = some .ready ∧
      ∃ before, Since config before events n ∧ (run config before).db.isReady = true
  /-- The answers of waiters that have run in the state as it is. -/
  rested : (run config events).Rested → ∀ (n : Nat) (x : Watcher), (run config events).watchers[n]? = some x →
    (∀ type, x.request = .recognized type →
      (∀ i, x.answer = some (.recognized (some i)) ↔ Registers config events type i) ∧
      (x.answer = some (.recognized none) ↔ SealsWithout config events type) ∧
      (x.answer = none ↔ (run config events).db.isSealed = false ∧ ∀ i, ¬ Registers config events type i)) ∧
    (x.request = .mapped → (x.answer = some .mapped ↔ (run config events).db.isMapped = true)) ∧
    (x.request = .ready → (run config events).db.isReady = true → x.answer = some .ready)
  /-- Waiters come to rest when each has its turn, which changes nothing else. -/
  rests : (run config (events ++ turns (run config events).watchers.length)).Rested ∧
    (run config (events ++ turns (run config events).watchers.length)).db = (run config events).db
  /-- To waiters that are not halfway through a look their turns do what looking at once does. -/
  looks : (∀ x ∈ (run config events).watchers, ∀ signal status, x.phase ≠ .reading signal status) →
    (run config (events ++ turns (run config events).watchers.length)).watchers.map (·.toWaiter) =
      Waiter.lookAll (run config events).db ((run config events).watchers.map (·.toWaiter))
  /-- An answer once given never changes. -/
  kept : ∀ (more : List Event) (n : Nat) (x : Watcher) (a : Answer), (run config events).watchers[n]? = some x →
    x.answer = some a → (run config (events ++ more)).watchers[n]? = some x

theorem sealsWithout_iff {type : String} : SealsWithout config events type ↔
    (run config events).db.isSealed = true ∧ (run config events).db.index? type = none := by
  unfold SealsWithout
  rw [isSealed_run, index?_run_eq_none]

theorem recognized_cases {type : String} (hx : (run config events).watchers[n]? = some x)
    (hr : x.request = .recognized type) : x.answer = none ∨
      (∃ i, x.answer = some (.recognized (some i)) ∧ Registers config events type i) ∨
        x.answer = some (.recognized none) ∧ SealsWithout config events type := by
  cases ha : x.answer with
  | none => exact Or.inl rfl
  | some a =>
    rcases (watched_run hx).recognized hr ha with ⟨i, rfl, hi⟩ | ⟨rfl, hs, hi⟩
    · exact Or.inr (Or.inl ⟨i, rfl, index?_run.1 hi⟩)
    · exact Or.inr (Or.inr ⟨rfl, sealsWithout_iff.2 ⟨hs, hi⟩⟩)

/-- A waiter for a type that rests without an answer waits for a type that is not registered yet. -/
theorem unsettled_of_rested {type : String} (hrest : (run config events).Rested)
    (hx : (run config events).watchers[n]? = some x) (hr : x.request = .recognized type) (hnone : x.answer = none) :
    (run config events).db.isSealed = false ∧ ∀ i, ¬ Registers config events type i := by
  have hanswer := answer?_of_rested hrest hx hnone
  rw [hr] at hanswer
  unfold Database.answer? at hanswer
  dsimp only at hanswer
  cases hi : (run config events).db.index? type with
  | some i =>
    rw [hi] at hanswer
    cases hanswer
  | none =>
    refine ⟨?_, index?_run_eq_none.1 hi⟩
    rw [hi] at hanswer
    simpa using hanswer

theorem recognized_of_rested {type : String} (hrest : (run config events).Rested)
    (hx : (run config events).watchers[n]? = some x) (hr : x.request = .recognized type) :
    (∀ i, x.answer = some (.recognized (some i)) ↔ Registers config events type i) ∧
      (x.answer = some (.recognized none) ↔ SealsWithout config events type) ∧
      (x.answer = none ↔ (run config events).db.isSealed = false ∧ ∀ i, ¬ Registers config events type i) := by
  rcases recognized_cases hx hr with ha | ⟨i, ha, hi⟩ | ⟨ha, hseals⟩
  · obtain ⟨hs, hunregistered⟩ := unsettled_of_rested hrest hx hr ha
    have hunsealed : ¬ SealsWithout config events type := fun h => by
      have := (sealsWithout_iff.1 h).1
      rw [hs] at this
      cases this
    simp [ha, hs, hunregistered, hunsealed]
  · have hunique : ∀ j, Registers config events type j → i = j := fun j hj =>
      Option.some.inj ((index?_run.2 hi).symm.trans (index?_run.2 hj))
    have hregistered : ¬ SealsWithout config events type := fun h => h.2 i hi
    refine ⟨fun j => ?_, by simp [ha, hregistered], by simpa [ha] using fun _ => ⟨i, hi⟩⟩
    rw [ha, Option.some.injEq, Answer.recognized.injEq, Option.some.injEq]
    exact ⟨fun h => h ▸ hi, hunique j⟩
  · have hs : (run config events).db.isSealed = true := (sealsWithout_iff.1 hseals).1
    exact ⟨by simpa [ha] using hseals.2, by simp [ha, hseals], by simp [ha, hs]⟩

/-- **The answers of waiters.**  After any run of events, among them the steps of waiters, which come in any order:
- what has been registered is in the sealed catalog;
- a waiter for a type is told its position when the run registers it, nothing when the run seals the registry without
  it, and waits exactly while neither has happened;
- a waiter for mapping is answered exactly when the database is mapped;
- a waiter for readiness is answered when the database is ready, and only if it was ready since the waiter was started;
- an answer stays.

What waiters are told always holds; that they are told holds once they rest, and each comes to rest by its own steps. -/
theorem waiters_sound (config : Config) (events : List Event) : Sound config events where
  registered := by
    intro before d after db h hr
    have hd : d ∈ (run config events).db.catalog.entities := List.mem_of_getElem? (getElem?_of_register h hr)
    refine ⟨Catalog.find?_typeName hd, ?_⟩
    rw [← (reachable_run config events).descriptors] at hd
    exact List.mem_map.1 hd
  isSealed := isSealed_run
  reachable := reachable_run config events
  recognized := fun n x type hx hr => recognized_cases hx hr
  mapped := by
    intro n x hx hr
    cases ha : x.answer with
    | none => exact Or.inl rfl
    | some a =>
      obtain ⟨rfl, hm⟩ := (watched_run hx).mapped hr ha
      exact Or.inr ⟨rfl, hm⟩
  ready := by
    intro n x hx hr
    cases ha : x.answer with
    | none => exact Or.inl rfl
    | some a =>
      obtain ⟨rfl, hready⟩ := (watched_run hx).ready hr ha
      exact Or.inr ⟨rfl, hready⟩
  rested := by
    intro hrest n x hx
    refine ⟨fun type hr => recognized_of_rested hrest hx hr, fun hr => ?_, fun hr hready => ?_⟩
    · cases ha : x.answer with
      | none =>
        have hanswer := answer?_of_rested hrest hx ha
        rw [hr] at hanswer
        simpa [Database.answer?] using hanswer
      | some a =>
        obtain ⟨rfl, hm⟩ := (watched_run hx).mapped hr ha
        simp [hm]
    · cases ha : x.answer with
      | none =>
        have hanswer := answer?_of_rested hrest hx ha
        rw [hr, Database.answer?, if_pos hready] at hanswer
        cases hanswer
      | some a => rw [((watched_run hx).ready hr ha).1]
  rests := ⟨rested_turns config events, (run_turns config events).1⟩
  looks := turns_eq_lookAll
  kept := by
    intro more n x a hx ha
    rw [run_append]
    exact foldl_step_of_answer hx ha more

/-- A waiter reads the status before its type is registered and the registry sealed, and looks it up afterwards. -/
example : (run { name := "port" } [.watch (.recognized "Ship"), .read 0, .register { typeName := "Ship" }, .map,
    .look 0]).watchers.map (·.answer) = [some (.recognized (some 0))] := by decide +kernel

end Scene
end Ormap
