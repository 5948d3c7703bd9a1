import Ormap.Connection.Recording
import Ormap.Life
import Ormap.Proofs.Counting
/-!
# Calls — what holds of a database in use, whatever happens to it

A life starts from an empty registry.  Calls are made in any order, also while others wait or migrators are at work, and
are answered, resumed or given up at any time; tasks take their steps in between.  What a look at a call may do is said
once (`Life.Keeps`).  Every move keeps the account that the calls give of the database (`Life.Inv.step`), and so does
every life (`Life.sound_run`).
-/
namespace Ormap

/-- Whether a look leaves a migrator at work. -/
def Turn.isMigrating : Turn σ → Bool
  | migrates _ => true
  | _ => false

/-- How a call stands after a look. -/
def Turn.standing : Turn σ → Standing σ
  | waits => .waiting
  | migrates act => .migrating act
  | answers _ => .closed

/-- What a look adds to the history. -/
def Turn.answered (call : Call σ) : Turn σ → List (Call σ × Reply)
  | answers reply => [(call, reply)]
  | _ => []

@[simp] theorem Turn.isMigrating_standing (turn : Turn σ) : turn.standing.isMigrating = turn.isMigrating := by
  cases turn <;> rfl

namespace Life

def accepted? : Call σ × Reply → Option EntityDescriptor
  | (.register d, .registered (.ok _)) => some d
  | _ => none

/-- The descriptors in the order of the calls that registered them. -/
def registered (w : Life σ) : List EntityDescriptor := w.history.filterMap accepted?

variable {c : Connection σ} {w w' : Life σ} {n : Nat} {call : Call σ} {turn : Turn σ}

/-! ## What a look may do -/

/-- A call of a migrator by the version change with the number `n`. -/
structure Migrates (w : Life σ) (n : Nat) (call : Call σ) (m : Migration) : Prop where
  number : m.call = n
  isMapped : w.db.isMapped = true
  seen : m.seen = w.db.beginChange
  call : ∃ migrator, call = .applyChange (some migrator) m.stored
  wanted : m.wanted = w.db.config.version
  stored_ne : m.stored ≠ m.wanted
  upwards : m.upwards = decide (m.stored < m.wanted)

/-- What a look at the call with the number `n` leaves as it is, and what it may do. -/
structure Keeps (w : Life σ) (n : Nat) (call : Call σ) (turn : Turn σ) (w' : Life σ) : Prop where
  calls : w'.calls = w.calls
  history : w'.history = w.history
  reachable : w.db.Reachable → w'.db.Reachable
  later : w.db.Later w'.db
  /-- A version change begins with a guard that is alive, or a migrator at work, and ends with it. -/
  changes : ∀ k, w.db.changes = w.guards.length + k → w'.db.changes = w'.guards.length + (k + turn.isMigrating.toNat)
  entities : w'.db.catalog.entities = w.db.catalog.entities ++ (turn.answered call).filterMap accepted?
  isSealed : w'.db.isSealed = (w.db.isSealed || call.maps)
  migrations : turn.isMigrating = false ∧ w'.migrations = w.migrations ∨
    turn.isMigrating = true ∧ ∃ m, w'.migrations = w.migrations ++ [m] ∧ w.Migrates n call m
  results : ∀ r, turn = .answers (.mapped r) → w'.db.isSealed = true ∧ w'.db.requireMapped? = some r
  calm : w.db.Calm → w'.db.Calm

/-- A look that leaves the database, its guards and its migrations as they are. -/
theorem Keeps.of_db (hmaps : call.maps = false) (hturn : turn.isMigrating = false)
    (haccepted : (turn.answered call).filterMap accepted? = []) (hresult : ∀ r, turn ≠ .answers (.mapped r))
    (store : σ) : w.Keeps n call turn { w with store } where
  calls := rfl
  history := rfl
  reachable := fun h => h
  later := .refl _
  changes := fun k hk => by rw [hturn]; exact hk
  entities := by rw [haccepted, List.append_nil]
  isSealed := by rw [hmaps, Bool.or_false]
  migrations := Or.inl ⟨hturn, rfl⟩
  results := fun r hr => absurd hr (hresult r)
  calm := fun h => h

theorem keeps_act (hmaps : call.maps = false) (reply : Except Error α → Reply)
    (haccepted : ∀ r, accepted? (call, reply r) = none) (hresult : ∀ r r', reply r ≠ .mapped r') (action : Action σ α) :
    w.Keeps n call (w.act reply action).1 (w.act reply action).2 := by
  refine .of_db hmaps rfl ?_ (fun r hr => ?_) _
  · exact List.filterMap_cons_none (haccepted _)
  · exact hresult _ r (Turn.answers.inj hr)

theorem keeps_waits (hmaps : call.maps = false) : w.Keeps n call .waits w :=
  .of_db hmaps rfl rfl (fun _ h => by cases h) w.store

theorem keeps_afterMapping (hmaps : call.maps = false) {turn : Turn σ × Life σ} (h : w.Keeps n call turn.1 turn.2) :
    w.Keeps n call (w.afterMapping turn).1 (w.afterMapping turn).2 := by
  unfold afterMapping
  split
  · exact h
  · exact keeps_waits hmaps

/-- A call that asks for entities to be resolved starts the mapping, and waits for what it asks for. -/
theorem keeps_startMapping (hmaps : call.maps = true) {reply? : Option Reply}
    (haccepted : ∀ reply, accepted? (call, reply) = none)
    (hresult : ∀ r, reply? = some (.mapped r) → w.startMapping.db.requireMapped? = some r) :
    w.Keeps n call (w.startMapping.await reply?).1 (w.startMapping.await reply?).2 := by
  have hawait : (w.startMapping.await reply?).2 = w.startMapping ∧ (w.startMapping.await reply?).1.isMigrating = false ∧
      ((w.startMapping.await reply?).1.answered call).filterMap accepted? = [] ∧
      ∀ reply, (w.startMapping.await reply?).1 = .answers reply → reply? = some reply := by
    unfold await
    cases reply? with
    | none => exact ⟨rfl, rfl, rfl, fun _ h => by cases h⟩
    | some reply => exact ⟨rfl, rfl, List.filterMap_cons_none (haccepted reply), fun _ h => by cases h; rfl⟩
  obtain ⟨hlife, hturn, hnone, hreply⟩ := hawait
  rw [hlife]
  exact {
    calls := rfl
    history := rfl
    reachable := .startMapping
    later := Database.later_startMapping w.db
    changes := fun k hk => by rw [hturn]; exact (Database.changes_startMapping w.db).trans hk
    entities := by
      rw [hnone, List.append_nil]
      exact congrArg Catalog.entities (Database.catalog_startMapping w.db)
    isSealed := by
      rw [hmaps, Bool.or_true]
      exact Database.isSealed_startMapping w.db
    migrations := Or.inl ⟨hturn, rfl⟩
    results := fun r hr => ⟨Database.isSealed_startMapping w.db, hresult r (hreply _ hr)⟩
    calm := .startMapping }

theorem keeps_register (d : EntityDescriptor) : w.Keeps n (.register d) (w.register d).1 (w.register d).2 := by
  unfold Life.register
  cases hr : w.db.register d with
  | error fault => exact .of_db rfl rfl rfl (fun _ h => by cases h) w.store
  | ok db =>
    have hlater := Database.later_register hr
    have hreachable : w.db.Reachable → db.Reachable := fun h => h.register d hr
    obtain ⟨hs, catalog, hc, rfl⟩ := Database.register_eq_ok hr
    have hopen := Database.isSealed_eq_false.1 hs
    exact {
      calls := rfl
      history := rfl
      reachable := hreachable
      later := hlater
      changes := fun k hk => hk
      entities := (Catalog.register_eq_ok.1 hc).2
      isSealed := (Bool.or_false _).symm
      migrations := Or.inl ⟨rfl, rfl⟩
      results := fun r hr => by cases hr
      calm := fun _ => Database.calm_of_open hopen }

theorem keeps_beginChange : w.Keeps n .beginChange w.beginChange.1 w.beginChange.2 where
  calls := rfl
  history := rfl
  reachable := .beginChange
  later := Database.later_beginChange w.db
  changes := fun k hk => by
    show w.db.changes + 1 = w.guards.length + 1 + (k + 0)
    omega
  entities := (List.append_nil _).symm
  isSealed := (Bool.or_false _).symm
  migrations := Or.inl ⟨rfl, rfl⟩
  results := fun r hr => by cases hr
  calm := fun h => h

theorem keeps_drop (guard : Nat) : w.Keeps n (.drop guard) (w.drop guard).1 (w.drop guard).2 := by
  unfold Life.drop
  split
  · rename_i hg
    exact {
      calls := rfl
      history := rfl
      reachable := .endChange
      later := Database.later_endChange w.db
      changes := fun k hk => by
        -- the guard was alive, so that there was a change to end
        have hpos := List.length_pos_of_mem hg
        show w.db.changes - 1 = (w.guards.erase guard).length + (k + 0)
        rw [List.length_erase_of_mem hg]
        omega
      entities := (List.append_nil _).symm
      isSealed := (Bool.or_false _).symm
      migrations := Or.inl ⟨rfl, rfl⟩
      results := fun r hr => by cases hr
      calm := fun h => h }
  · exact .of_db rfl rfl rfl (fun _ h => by cases h) w.store

/-- **What a version change makes of a migrator that it needs.** -/
theorem migration?_eq_some {db : Database} {migrator : Option (Migrator σ)} {stored : UInt32}
    {act : Database → Action σ Unit} (h : db.migration? migrator stored = .ok (some act)) :
    stored ≠ db.config.version ∧ ∃ m, migrator = some m ∧ act = fun seen =>
      if stored < db.config.version then m.upgrade seen stored db.config.version
      else m.downgrade seen stored db.config.version := by
  unfold Database.migration? at h
  split at h
  · cases h
  rename_i hv
  cases migrator with
  | none => cases h
  | some m =>
    refine ⟨hv, m, rfl, ?_⟩
    by_cases hup : stored < db.config.version
    · simp only [if_pos hup] at h ⊢
      cases h
      rfl
    · simp only [if_neg hup] at h ⊢
      cases h
      rfl

theorem keeps_applyChange (migrator : Option (Migrator σ)) (stored : UInt32) : w.Keeps n (.applyChange migrator stored)
    (w.applyChange n migrator stored).1 (w.applyChange n migrator stored).2 := by
  unfold Life.applyChange
  split
  · rename_i hm
    split
    · exact .of_db rfl rfl rfl (fun _ h => by cases h) w.store
    · exact .of_db rfl rfl rfl (fun _ h => by cases h) w.store
    · rename_i act hact
      obtain ⟨hv, m, rfl, -⟩ := migration?_eq_some hact
      exact {
        calls := rfl
        history := rfl
        reachable := .beginChange
        later := Database.later_beginChange w.db
        changes := fun k hk => by
          show w.db.changes + 1 = w.guards.length + (k + 1)
          omega
        entities := (List.append_nil _).symm
        isSealed := (Bool.or_false _).symm
        migrations := Or.inr ⟨rfl, _, rfl, rfl, hm, rfl, ⟨m, rfl⟩, rfl, hv, rfl⟩
        results := fun r hr => by cases hr
        calm := fun h => h }
  · exact keeps_waits rfl

theorem keeps_change (change : Change) (record : Record) :
    w.Keeps n (.change change record) (Life.change c w change record).1 (Life.change c w change record).2 := by
  unfold Life.change
  split
  · exact keeps_waits rfl
  · exact keeps_act rfl .done (fun _ => rfl) (fun _ _ h => by cases h) _

/-- **What a look keeps**, whatever the call. -/
theorem keeps_look (c : Connection σ) (w : Life σ) (n : Nat) (call : Call σ) :
    w.Keeps n call (w.look c n call).1 (w.look c n call).2 := by
  cases call with
  | register d => exact keeps_register d
  | map =>
    refine keeps_startMapping rfl (fun _ => rfl) fun r hr => ?_
    obtain ⟨result, hresult, heq⟩ := Option.map_eq_some_iff.1 hr
    cases heq
    exact hresult
  | resolve type =>
    refine keeps_startMapping rfl (fun _ => rfl) fun r hr => ?_
    obtain ⟨result, -, heq⟩ := Option.map_eq_some_iff.1 hr
    cases heq
  | requireMapped =>
    show w.Keeps n .requireMapped (w.await (w.db.requireMapped?.map .required)).1 (w.await _).2
    cases w.db.requireMapped? with
    | none => exact keeps_waits rfl
    | some r => exact .of_db rfl rfl rfl (fun _ h => by cases h) w.store
  | beginChange => exact keeps_beginChange
  | drop guard => exact keeps_drop guard
  | applyChange migrator stored => exact keeps_applyChange migrator stored
  | change change record => exact keeps_change change record
  | schema | layout => exact keeps_afterMapping rfl (.of_db rfl rfl rfl (fun _ h => by cases h) w.store)
  | createSchema | dump => exact keeps_afterMapping rfl (keeps_act rfl _ (fun _ => rfl) (fun _ _ h => by cases h) _)

/-! ## What every move keeps -/

/-- A call of a migrator that a version change of a life made. -/
structure Made (w : Life σ) (m : Migration) : Prop where
  isMapped : m.seen.isMapped = true
  not_isReady : m.seen.isReady = false
  call : ∃ migrator standing, w.calls[m.call]? = some (.applyChange (some migrator) m.stored, standing) ∧
    standing ≠ .waiting
  wanted : m.wanted = w.db.config.version
  stored_ne : m.stored ≠ m.wanted
  upwards : m.upwards = decide (m.stored < m.wanted)

/-- The database is as the calls say. -/
structure Inv (w : Life σ) : Prop where
  reachable : w.db.Reachable
  changes : w.db.changes = w.guards.length + w.calls.countP (·.2.isMigrating)
  entities : w.db.catalog.entities = w.registered
  isMapped : ∀ x ∈ w.calls, x.2.isMigrating = true → w.db.isMapped = true
  migrations : ∀ m ∈ w.migrations, w.Made m
  once : (w.migrations.map (·.call)).Nodup
  results : ∀ x ∈ w.history, ∀ r, x.2 = .mapped r → w.db.isSealed = true ∧ w.db.requireMapped? = some r

/-- What a look comes to, written down. -/
theorem noting_eq (n : Nat) (call : Call σ) (turn : Turn σ) (w : Life σ) : noting n call (turn, w) = { w with
    calls := w.calls.set n (call, turn.standing), history := w.history ++ turn.answered call } := by
  cases turn with
  | answers reply => rfl
  | waits | migrates =>
    unfold Turn.answered
    rw [List.append_nil]
    rfl

theorem standing_ne_waiting (h : turn.isMigrating = true) : turn.standing ≠ .waiting := by
  intro hs
  cases turn <;> cases h
  cases hs

/-- What a version change has made of a migrator stays. -/
theorem Made.later {m : Migration} (h : w.Made m) (hl : w.db.Later w'.db)
    (hcalls : ∀ x, w.calls[m.call]? = some x → x.2 ≠ .waiting →
      ∃ standing, w'.calls[m.call]? = some (x.1, standing) ∧ standing ≠ .waiting) : w'.Made m where
  isMapped := h.isMapped
  not_isReady := h.not_isReady
  call := by
    obtain ⟨migrator, standing, hx, hs⟩ := h.call
    obtain ⟨standing', hx', hs'⟩ := hcalls _ hx hs
    exact ⟨migrator, standing', hx', hs'⟩
  wanted := h.wanted.trans (congrArg Config.version hl.config).symm
  stored_ne := h.stored_ne
  upwards := h.upwards

theorem Migrates.made {m : Migration} (h : w.Migrates n call m) {standing : Standing σ}
    (hx : w'.calls[n]? = some (call, standing)) (hs : standing ≠ .waiting) (hl : w.db.Later w'.db) : w'.Made m where
  isMapped := by
    rw [h.seen]
    exact h.isMapped
  not_isReady := by
    rw [h.seen]
    cases hr : w.db.beginChange.isReady with
    | false => rfl
    | true => cases (Database.isReady_iff.1 hr).2
  call := by
    obtain ⟨migrator, rfl⟩ := h.call
    rw [h.number]
    exact ⟨migrator, standing, hx, hs⟩
  wanted := h.wanted.trans (congrArg Config.version hl.config).symm
  stored_ne := h.stored_ne
  upwards := h.upwards

/-- **Writing down what comes of a look keeps the account of the calls.** -/
theorem Inv.noting (h : w.Inv) (hn : w.calls[n]? = some (call, .waiting)) (hk : w.Keeps n call turn w') :
    (noting n call (turn, w')).Inv := by
  rw [noting_eq]
  have hlt : n < w.calls.length := (List.getElem?_eq_some_iff.1 hn).1
  have hself : (w'.calls.set n (call, turn.standing))[n]? = some (call, turn.standing) := by
    rw [hk.calls]
    exact List.getElem?_set_self hlt
  -- the call has waited, so that it is none of those that have made migrators work
  have hnew : ∀ m ∈ w.migrations, m.call ≠ n := by
    rintro m hm rfl
    obtain ⟨migrator, standing, hx, hs⟩ := (h.migrations m hm).call
    cases hn.symm.trans hx
    exact hs rfl
  have hold : ∀ m ∈ w.migrations, Made { w' with
      calls := w'.calls.set n (call, turn.standing), history := w'.history ++ turn.answered call } m := by
    intro m hm
    refine (h.migrations m hm).later hk.later fun x hx hs => ⟨x.2, ?_, hs⟩
    show (w'.calls.set n _)[m.call]? = _
    rw [List.getElem?_set_ne (Ne.symm (hnew m hm)), hk.calls, hx]
  refine ⟨hk.reachable h.reachable, ?_, ?_, fun x hx hm => ?_, fun m hm => ?_, ?_, fun x hx r hr => ?_⟩
  · have hcount := countP_set hn (call, turn.standing) (·.2.isMigrating)
    show w'.db.changes = w'.guards.length + (w'.calls.set n (call, turn.standing)).countP (·.2.isMigrating)
    rw [hk.changes _ h.changes, hk.calls]
    dsimp only at hcount
    rw [Turn.isMigrating_standing] at hcount
    exact congrArg _ hcount.symm
  · show w'.db.catalog.entities = (w'.history ++ turn.answered call).filterMap accepted?
    rw [List.filterMap_append, hk.entities, hk.history, h.entities]
    rfl
  · rw [hk.calls] at hx
    rcases List.mem_or_eq_of_mem_set hx with hx | rfl
    · exact hk.later.isMapped (h.isMapped x hx hm)
    · rw [Turn.isMigrating_standing] at hm
      rcases hk.migrations with ⟨hno, -⟩ | ⟨-, m, -, hmigrates⟩
      · rw [hm] at hno
        cases hno
      · exact hk.later.isMapped hmigrates.isMapped
  · rcases hk.migrations with ⟨-, heq⟩ | ⟨hturn, m', heq, hmigrates⟩
    · exact hold m (heq ▸ hm)
    · rcases List.mem_append.1 (heq ▸ hm) with hm | hm
      · exact hold m hm
      · cases List.mem_singleton.1 hm
        exact hmigrates.made hself (standing_ne_waiting hturn) hk.later
  · show (w'.migrations.map (·.call)).Nodup
    rcases hk.migrations with ⟨-, heq⟩ | ⟨-, m', heq, hmigrates⟩
    · rw [heq]
      exact h.once
    · rw [heq, List.map_append, List.nodup_append]
      refine ⟨h.once, List.nodup_singleton _, fun a ha b hb hab => ?_⟩
      obtain ⟨m, hm, rfl⟩ := List.mem_map.1 ha
      cases List.mem_singleton.1 hb
      exact hnew m hm (hab.trans hmigrates.number)
  · have hx' : x ∈ w'.history ++ turn.answered call := hx
    rcases List.mem_append.1 hx' with hx | hx
    · -- an outcome that a call was told stays
      rw [hk.history] at hx
      obtain ⟨hs, hreq⟩ := h.results x hx r hr
      exact ⟨(hk.later.isSealed hs).1, hk.later.requireMapped? hs hreq⟩
    · cases turn with
      | waits | migrates => cases hx
      | answers reply =>
        cases List.mem_singleton.1 hx
        exact hk.results r (congrArg Turn.answers hr)

theorem Inv.asked (h : w.Inv) (call : Call σ) : (w.asked call).Inv where
  reachable := h.reachable
  changes := by
    rw [show (w.asked call).calls = w.calls ++ [(call, .waiting)] from rfl, List.countP_append]
    exact h.changes
  entities := h.entities
  isMapped := by
    intro x hx hm
    have hx' : x ∈ w.calls ++ [(call, .waiting)] := hx
    rcases List.mem_append.1 hx' with hx | hx
    · exact h.isMapped x hx hm
    · cases List.mem_singleton.1 hx
      cases hm
  migrations := by
    intro m hm
    refine (h.migrations m hm).later (.refl _) fun x hx hs => ⟨x.2, ?_, hs⟩
    exact (List.getElem?_append_left (List.getElem?_eq_some_iff.1 hx).1).trans hx
  once := h.once
  results := h.results

/-- What is left of a life when a call is over: the version change of a migrator at work has ended. -/
def ending (w : Life σ) (n : Nat) (call : Call σ) (standing : Standing σ) (store : σ) (log : List (Call σ × Reply)) :
    Life σ :=
  { w with
    db := if standing.isMigrating then w.db.endChange else w.db
    store
    calls := w.calls.set n (call, .closed)
    history := w.history ++ log }

theorem later_ending (w : Life σ) (n : Nat) (call : Call σ) (standing : Standing σ) (store : σ)
    (log : List (Call σ × Reply)) : w.db.Later (w.ending n call standing store log).db := by
  unfold ending
  cases standing.isMigrating with
  | true => exact Database.later_endChange w.db
  | false => exact .refl _

theorem Inv.ending {standing : Standing σ} (h : w.Inv) (hn : w.calls[n]? = some (call, standing)) (store : σ)
    {log : List (Call σ × Reply)} (hlog : ∀ x ∈ log, accepted? x = none ∧ ∀ r, x.2 ≠ .mapped r) :
    (w.ending n call standing store log).Inv := by
  have hlater := later_ending w n call standing store log
  refine ⟨?_, ?_, ?_, fun x hx hm => ?_, fun m hm => ?_, h.once, fun x hx r hr => ?_⟩
  · unfold Life.ending
    cases standing.isMigrating with
    | true => exact h.reachable.endChange
    | false => exact h.reachable
  · -- a migrator at work is one of those that the changes count
    have hcount : (w.calls.set n (call, .closed)).countP (·.2.isMigrating) + standing.isMigrating.toNat =
        w.calls.countP (·.2.isMigrating) := countP_set hn (call, .closed) _
    show (if standing.isMigrating then w.db.endChange else w.db).changes =
      w.guards.length + (w.calls.set n (call, .closed)).countP (·.2.isMigrating)
    have hchanges := h.changes
    rw [← hcount] at hchanges
    cases hs : standing.isMigrating with
    | false =>
      rw [hs] at hchanges
      exact hchanges
    | true =>
      rw [hs] at hchanges
      exact congrArg (· - 1) hchanges
  · show (Life.ending w n call standing store log).db.catalog.entities = (w.history ++ log).filterMap accepted?
    have hnone : log.filterMap accepted? = [] := List.filterMap_eq_nil_iff.2 fun x hx => (hlog x hx).1
    rw [List.filterMap_append, hnone, List.append_nil]
    unfold Life.ending
    cases standing.isMigrating <;> exact h.entities
  · rcases List.mem_or_eq_of_mem_set hx with hx | rfl
    · exact hlater.isMapped (h.isMapped x hx hm)
    · cases hm
  · refine (h.migrations m hm).later hlater fun x hx hs => ?_
    show ∃ standing', (w.calls.set n (call, .closed))[m.call]? = some (x.1, standing') ∧ standing' ≠ .waiting
    by_cases hmn : m.call = n
    · rw [hmn] at hx ⊢
      cases hn.symm.trans hx
      exact ⟨.closed, List.getElem?_set_self (List.getElem?_eq_some_iff.1 hn).1, fun h => by cases h⟩
    · exact ⟨x.2, by rw [List.getElem?_set_ne (Ne.symm hmn), hx], hs⟩
  · have hx' : x ∈ w.history ++ log := hx
    rcases List.mem_append.1 hx' with hx | hx
    · obtain ⟨hs, hreq⟩ := h.results x hx r hr
      exact ⟨(hlater.isSealed hs).1, hlater.requireMapped? hs hreq⟩
    · exact absurd hr ((hlog x hx).2 r)

theorem finish_eq (w : Life σ) (n : Nat) (call : Call σ) (act : Action σ Unit) : w.finish n call act =
    w.ending n call (.migrating act) (act.run w.store).2 [(call, .done (act.run w.store).1)] := rfl

theorem giveUp_eq (w : Life σ) (n : Nat) (call : Call σ) (store : σ) {standing : Standing σ} (h : standing ≠ .closed) :
    w.giveUp n call store standing =
      w.ending n call standing (if standing.isMigrating then store else w.store) [] := by
  unfold ending
  rw [List.append_nil]
  cases standing with
  | waiting | migrating => rfl
  | closed => exact absurd rfl h

/-- **What every move keeps.** -/
theorem Inv.step (h : w.Inv) (c : Connection σ) (move : Move σ) : (w.step c move).Inv := by
  cases move with
  | call call => exact (h.asked call).noting List.getElem?_concat_length (keeps_look c _ _ call)
  | resume n =>
    unfold Life.step
    dsimp only
    split
    · rename_i call hn
      exact h.noting hn (keeps_look c w n call)
    · rename_i call act hn
      rw [finish_eq]
      refine h.ending hn _ fun x hx => ?_
      cases List.mem_singleton.1 hx
      exact ⟨by cases call <;> rfl, fun r hr => by cases hr⟩
    · exact h
    · exact h
  | abandon n store =>
    unfold Life.step
    dsimp only
    split
    · rename_i call standing hn
      by_cases hs : standing = .closed
      · rw [hs]
        exact h
      · rw [giveUp_eq w n call store hs]
        exact h.ending hn _ fun x hx => by cases hx
    · exact h
  | advance x =>
    unfold Life.step
    dsimp only
    split
    · rename_i db hx
      have hlater := Database.later_step hx
      obtain ⟨m, m', hm, -, hdb⟩ := Database.step?_eq_some.1 hx
      have hchanges : db.changes = w.db.changes := by rw [hdb]
      have hcatalog : db.catalog = w.db.catalog := by rw [hdb]
      refine ⟨h.reachable.step x hx, hchanges.trans h.changes, ?_, fun y hy hm => ?_, fun m hm => ?_, h.once, ?_⟩
      · exact (congrArg Catalog.entities hcatalog).trans h.entities
      · exact hlater.isMapped (h.isMapped y hy hm)
      · exact (h.migrations m hm).later hlater fun x hx hs => ⟨x.2, hx, hs⟩
      · intro y hy r hr
        obtain ⟨hs, hreq⟩ := h.results y hy r hr
        exact ⟨(hlater.isSealed hs).1, hlater.requireMapped? hs hreq⟩
    · exact h

/-! ## Lives -/

/-- The call that a move makes, if it makes one. -/
def Move.call? : Move σ → Option (Call σ)
  | .call x => some x
  | _ => none

theorem map_fst_set {l : List (Call σ × Standing σ)} {standing : Standing σ} (h : l[n]? = some (call, standing))
    (standing' : Standing σ) : (l.set n (call, standing')).map (·.1) = l.map (·.1) := by
  refine List.ext_getElem? fun k => ?_
  rw [List.getElem?_map, List.getElem?_map, List.getElem?_set]
  split
  · rename_i hk
    subst hk
    rw [h, if_pos (List.getElem?_eq_some_iff.1 h).1]
    rfl
  · rfl

/-- What a look comes to changes neither which calls were made nor, but for what the call asks, the seal. -/
theorem noting_look (hn : w.calls[n]? = some (call, .waiting)) :
    (Life.noting n call (w.look c n call)).calls.map (·.1) = w.calls.map (·.1) ∧
      (Life.noting n call (w.look c n call)).db.isSealed = (w.db.isSealed || call.maps) := by
  have hk := keeps_look c w n call
  rw [show w.look c n call = ((w.look c n call).1, (w.look c n call).2) from rfl, noting_eq]
  refine ⟨?_, hk.isSealed⟩
  show ((w.look c n call).2.calls.set n _).map (·.1) = _
  rw [hk.calls]
  exact map_fst_set hn _

/-- Whether the registry is sealed by the calls that were made, and by nothing else. -/
def Seals (w : Life σ) : Prop := w.db.isSealed = (w.calls.map (·.1)).any (·.maps)

/-- **Calls are kept in the order in which they are made**, and seal the registry. -/
theorem calls_step (h : w.Seals) (c : Connection σ) (move : Move σ) :
    (w.step c move).calls.map (·.1) = w.calls.map (·.1) ++ move.call?.toList ∧ (w.step c move).Seals := by
  have hkept : ∀ w' : Life σ, w'.calls.map (·.1) = w.calls.map (·.1) → w'.db.isSealed = w.db.isSealed →
      w'.calls.map (·.1) = w.calls.map (·.1) ++ [] ∧ w'.Seals := by
    intro w' hcalls hsealed
    refine ⟨by rw [hcalls, List.append_nil], ?_⟩
    unfold Seals
    rw [hcalls, hsealed]
    exact h
  cases move with
  | call call =>
    have hnew : (w.asked call).calls[w.calls.length]? = some (call, .waiting) := List.getElem?_concat_length
    obtain ⟨hcalls, hsealed⟩ := noting_look (c := c) hnew
    have hasked : (w.asked call).calls.map (·.1) = w.calls.map (·.1) ++ [call] := List.map_append
    refine ⟨hcalls.trans hasked, ?_⟩
    have hmaps : (w.db.isSealed || call.maps) = (w.calls.map (·.1) ++ [call]).any (·.maps) := by
      rw [List.any_append, ← show w.db.isSealed = _ from h, List.any_cons, List.any_nil, Bool.or_false]
    exact hsealed.trans (hmaps.trans (congrArg (·.any (·.maps)) (hcalls.trans hasked).symm))
  | resume n =>
    unfold Life.step
    dsimp only
    split
    · rename_i call hn
      obtain ⟨hcalls, hsealed⟩ := noting_look (c := c) hn
      refine hkept _ hcalls (hsealed.trans ?_)
      -- the call has been looked at before, so that the registry is sealed if it asks for that
      cases hm : call.maps with
      | false => exact Bool.or_false _
      | true =>
        have hmem : call ∈ w.calls.map (·.1) := List.mem_map_of_mem (f := (·.1)) (List.mem_of_getElem? hn)
        have hsealed : w.db.isSealed = true := h.trans (List.any_eq_true.2 ⟨call, hmem, hm⟩)
        rw [hsealed, Bool.or_true]
    · rename_i call act hn
      exact hkept _ (map_fst_set hn _) rfl
    · exact hkept w rfl rfl
    · exact hkept w rfl rfl
  | abandon n store =>
    unfold Life.step
    dsimp only
    split
    · rename_i call standing hn
      cases standing with
      | waiting | migrating => exact hkept _ (map_fst_set hn _) rfl
      | closed => exact hkept w rfl rfl
    · exact hkept w rfl rfl
  | advance x =>
    unfold Life.step
    dsimp only
    split
    · rename_i db hx
      obtain ⟨m, m', hm, -, rfl⟩ := Database.step?_eq_some.1 hx
      refine hkept _ rfl ?_
      unfold Database.isSealed
      rw [hm]
      rfl
    · exact hkept w rfl rfl

theorem Inv.foldl (c : Connection σ) : ∀ {moves : List (Move σ)} {w : Life σ}, w.Inv → w.Seals →
    (moves.foldl (Life.step c) w).Inv ∧ (moves.foldl (Life.step c) w).Seals ∧
      (moves.foldl (Life.step c) w).calls.map (·.1) = w.calls.map (·.1) ++ moves.filterMap Move.call?
  | [], w, h, hs => ⟨h, hs, (List.append_nil _).symm⟩
  | move :: moves, w, h, hs => by
    obtain ⟨hcalls, hseals⟩ := calls_step hs c move
    obtain ⟨hinv, hseals, hrest⟩ := Inv.foldl c (h.step c move) hseals
    refine ⟨hinv, hseals, hrest.trans ?_⟩
    rw [hcalls, List.append_assoc]
    cases hm : move.call? <;> simp [hm]

/-! ## One thread -/

/-- Whether moves are those of one thread: a task that ends is counted off before anything else happens, and none ends
once the driver has met a failure. -/
inductive OneThread (c : Connection σ) : Life σ → List (Move σ) → Prop
  | nil (w : Life σ) : OneThread c w []
  | cons {w : Life σ} {move : Move σ} {moves : List (Move σ)} :
      (∀ n, move ≠ .advance (.settle n) ∧ move ≠ .advance (.count n)) → OneThread c (w.step c move) moves →
      OneThread c w (move :: moves)
  | ends {w : Life σ} {n : Nat} {moves : List (Move σ)} : (∀ m, w.db.mapping = some m → m.driver = .waiting) →
      OneThread c ((w.step c (.advance (.settle n))).step c (.advance (.count n))) moves →
      OneThread c w (.advance (.settle n) :: .advance (.count n) :: moves)

theorem step_advance (c : Connection σ) (w : Life σ) (x : Mapping.Step) :
    w.step c (.advance x) = { w with db := (w.db.step? x).getD w.db } := by
  unfold Life.step
  dsimp only
  split
  · rename_i db hs
    rw [hs]
    rfl
  · rename_i hs
    rw [hs]
    rfl

/-- Moves that are no steps of tasks overtake none. -/
theorem calm_step (h : w.db.Calm) {move : Move σ}
    (hx : ∀ n, move ≠ .advance (.settle n) ∧ move ≠ .advance (.count n)) : (w.step c move).db.Calm := by
  have hlook : ∀ {w : Life σ} (n : Nat) (call : Call σ), w.db.Calm →
      (Life.noting n call (w.look c n call)).db.Calm := by
    intro w n call h
    rw [show w.look c n call = ((w.look c n call).1, (w.look c n call).2) from rfl, noting_eq]
    exact (keeps_look c w n call).calm h
  cases move with
  | call call => exact hlook (w := w.asked call) w.calls.length call h
  | resume n =>
    unfold Life.step
    dsimp only
    split
    · exact hlook n _ h
    · exact h
    · exact h
    · exact h
  | abandon n store =>
    unfold Life.step
    dsimp only
    split
    · rename_i call standing hn
      cases standing <;> exact h
    · exact h
  | advance x =>
    rw [step_advance]
    cases hs : w.db.step? x with
    | none => exact h
    | some db => exact h.step (fun n => ⟨fun hn => (hx n).1 (congrArg _ hn), fun hn => (hx n).2 (congrArg _ hn)⟩) hs

/-- **On one thread no task is overtaken.** -/
theorem OneThread.calm {moves : List (Move σ)} (ho : OneThread c w moves) (h : w.Inv) (hc : w.db.Calm) :
    (moves.foldl (step c) w).db.Calm := by
  induction ho with
  | nil => exact hc
  | cons hx _ ih => exact ih (h.step c _) (calm_step hc hx)
  | @ends w n moves hd _ ih =>
    refine ih ((h.step c _).step c _) ?_
    rw [step_advance, step_advance]
    dsimp only
    cases hs : w.db.step? (.settle n) with
    | none =>
      rw [Option.getD_none, hc.step?_count h.reachable hd n]
      exact hc
    | some db =>
      rw [Option.getD_some]
      rcases hc.end h.reachable hd hs with ⟨db', hcount, hcalm⟩ | ⟨hcount, hcalm⟩
      · rw [hcount]
        exact hcalm
      · rw [hcount]
        exact hcalm

/-! ## What the database answers -/

/-- A registration is refused for a reason, and nothing changes, or it takes the next position. -/
def Registers (w : Life σ) (d : EntityDescriptor) (looked : Turn σ × Life σ) : Prop :=
  (∃ fault, looked = (.answers (.registered (.error fault)), w) ∧
    (w.db.isSealed = true ∨ d.typeName ∈ w.registered.map (·.typeName))) ∨
  (∃ db, looked = (.answers (.registered (.ok (some w.registered.length))), { w with db }) ∧
    w.db.isSealed = false ∧ d.typeName ∉ w.registered.map (·.typeName))

/-- What comes of a look at a version change: it waits for the database to be mapped; the store is as it is to be, or
there is no migrator, and nothing changes; or the migrator is called, and sees a database that is mapped and not
ready. -/
inductive ChangesVersion (w : Life σ) (n : Nat) (migrator : Option (Migrator σ)) (stored : UInt32) :
    Turn σ × Life σ → Prop
  | waits : w.db.isMapped = false → ChangesVersion w n migrator stored (.waits, w)
  | needless : w.db.isMapped = true → stored = w.db.config.version →
      ChangesVersion w n migrator stored (.answers (.done (.ok ())), w)
  | refused : w.db.isMapped = true → stored ≠ w.db.config.version → migrator = none →
      ChangesVersion w n migrator stored (.answers (.done (.error
        (.configuration (.entity w.db.config.name (.noMigrator stored w.db.config.version))))), w)
  | migrates {m : Migrator σ} {migration : Migration} : w.db.isMapped = true → stored ≠ w.db.config.version →
      migrator = some m → migration.call = n → migration.seen = w.db.beginChange →
      migration.seen.isMapped = true → migration.seen.isReady = false →
      ChangesVersion w n migrator stored (.migrates
        (if stored < w.db.config.version then m.upgrade w.db.beginChange stored w.db.config.version
          else m.downgrade w.db.beginChange stored w.db.config.version),
        { w with db := w.db.beginChange, migrations := w.migrations ++ [migration] })

/-- A version change whose migrator is at work ends when the migrator does, whatever its result, and when it is given
up: the database is then as it was before, but for what else has happened to it. -/
def EndsChange (c : Connection σ) (w : Life σ) (n : Nat) (call : Call σ) (act : Action σ Unit) : Prop :=
  (w.step c (.resume n)).history = w.history ++ [(call, .done (act.run w.store).1)] ∧
  (w.step c (.resume n)).store = (act.run w.store).2 ∧
  ∀ move, move = .resume n ∨ (∃ store, move = .abandon n store) →
    (w.step c move).db.beginChange = w.db ∧ (w.step c move).guards = w.guards ∧
    (w.step c move).calls[n]? = some (call, .closed)

/-- A version change that nothing comes between does what that of the database does, and leaves the database as it
was. -/
def ChangesAlone (c : Connection σ) (w : Life σ) (migrator : Option (Migrator σ)) (stored : UInt32) : Prop :=
  ∀ action, w.db.applyVersionChange? migrator stored = some action →
    let after := (w.step c (.call (.applyChange migrator stored))).step c (.resume w.calls.length)
    after.db = w.db ∧ after.store = (action.run w.store).2 ∧
      after.history = w.history ++ [(.applyChange migrator stored, .done (action.run w.store).1)]

/-- What holds of a database in use, and what it answers next. -/
structure Sound (c : Connection σ) (w : Life σ) : Prop where
  /-- Positions run in the order of registration. -/
  entityAt : ∀ i, (w.db.entityAt i).toOption.map (·.descriptor) = w.registered[i]?
  index : ∀ name i, w.db.index? name = some i ↔ ∃ e, w.db.entityAt i = .ok e ∧ e.typeName = name
  require : ∀ name e, w.db.graph.require name = .ok e ↔ ∃ i, w.db.index? name = some i ∧ w.db.entityAt i = .ok e
  register : ∀ n d, w.Registers d (w.look c n (.register d))
  isSealed : w.db.isSealed = true ↔ ∃ x ∈ w.calls, x.1.maps = true
  /-- The count is that of the entities that are not counted off as resolved. -/
  counts : w.db.Counts w.registered
  isMapped : w.db.isMapped = true ↔ w.db.isSealed = true ∧ w.db.remaining = 0
  /-- A version change is under way for each guard that is alive, and for each migrator at work. -/
  changes : w.db.changes = w.guards.length + w.calls.countP (·.2.isMigrating)
  isReady : w.db.isReady = true ↔ w.db.isMapped = true ∧ w.guards = [] ∧ ∀ x ∈ w.calls, x.2.isMigrating = false
  applyChange : ∀ n migrator stored, w.ChangesVersion n migrator stored (w.look c n (.applyChange migrator stored))
  /-- As long as a migrator is at work the database is mapped and not ready. -/
  atWork : ∀ x ∈ w.calls, x.2.isMigrating = true → w.db.isMapped = true ∧ w.db.isReady = false
  alone : ∀ migrator stored, w.ChangesAlone c migrator stored
  ends : ∀ n call act, w.calls[n]? = some (call, .migrating act) → w.EndsChange c n call act
  /-- Every call of a migrator was made by a version change that needed it, and saw the database mapped and not
  ready. -/
  migrations : ∀ m ∈ w.migrations, w.Made m
  /-- A version change calls its migrator once at most. -/
  once : (w.migrations.map (·.call)).Nodup
  /-- A result of mapping is that of every later call. -/
  mapped : ∀ x ∈ w.history, ∀ r, x.2 = .mapped r → ∀ n,
    w.look c n .map = (.answers (.mapped r), w) ∧ w.look c n .requireMapped = (.answers (.required r), w)

end Life
end Ormap
