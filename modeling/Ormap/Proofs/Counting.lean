import Ormap.Proofs.Persistence
/-!
# Counting — what the number of entities that remain says of them

The count is that of the entities whose tasks are not counted off.  What is seen of an entity is what came of its task,
unless the failure of another came first.  So the count and the number of entities that are not seen to be resolved
differ by tasks between their end and their count, and by tasks that were overtaken (`Counts.balance`).  Neither occurs
where all tasks take turns on one thread (`Calm`).
-/
namespace Ormap

/-- Two sums of counts agree when they agree item by item. -/
theorem countP_add_countP {p q r s : α → Bool} : ∀ {l : List α},
    (∀ a ∈ l, (p a).toNat + (q a).toNat = (r a).toNat + (s a).toNat) →
    l.countP p + l.countP q = l.countP r + l.countP s
  | [], _ => rfl
  | a :: l, h => by
    have hcons : ∀ p : α → Bool, (a :: l).countP p = l.countP p + (p a).toNat := fun p => by
      rw [List.countP_cons]
      cases p a <;> rfl
    have hrest := countP_add_countP fun b hb => h b (List.mem_cons_of_mem a hb)
    have ha := h a List.mem_cons_self
    rw [hcons, hcons, hcons, hcons]
    omega

namespace Mapping

variable {cfg : Config} {c : Catalog} {m m' : Mapping} {n : Nat} {t : Task} {x : Step}

theorem TaskSound.result_of_resolved {fault? : Option ConfigurationError} (h : TaskSound cfg c fault? t)
    (hr : t.entity.resolved = true) : t.stage.result? = some (.ok ()) := by
  have hcontent := Entity.resolved_iff.1 hr
  rcases h.outcome with ho | ⟨fault, -, ho⟩
  · exact ho.symm.trans hcontent
  · cases ho.symm.trans hcontent

/-- Whether the entities that are seen to be resolved are those counted off. -/
def Calm (m : Mapping) : Prop := ∀ t ∈ m.tasks, t.entity.resolved = (t.stage == .counted)

theorem calm_begun (cfg : Config) (c : Catalog) : (begun cfg c).Calm := by
  intro t ht
  obtain ⟨d, -, rfl⟩ := List.mem_map.1 ht
  rfl

theorem Calm.set (h : m.Calm) (t' : Task) (ht' : t'.entity.resolved = (t'.stage == .counted)) :
    ({ m with tasks := m.tasks.set n t' } : Mapping).Calm := by
  intro t ht
  rcases List.mem_or_eq_of_mem_set ht with ht | rfl
  · exact h t ht
  · exact ht'

theorem resolved_settle_error (e : Entity) (fault : ConfigurationError) :
    (e.settle (.error fault)).resolved = e.resolved := by
  cases ho : e.outcome.content with
  | some r => rw [Entity.settle_eq_self (by unfold Once.isFilled; rw [ho]; rfl)]
  | none =>
    have hfilled := Once.fill_of_none (b := (Except.error fault : Except ConfigurationError Unit)) ho
    unfold Entity.resolved Entity.settle
    dsimp only
    rw [hfilled, ho]

/-- The steps of the driver, and the stopping of a task, resolve nothing and count nothing off. -/
theorem Calm.step (h : m.Calm) (hs : Steps cfg c m x m') (hx : ∀ n, x ≠ .settle n ∧ x ≠ .count n) : m'.Calm := by
  cases hs with
  | @settle n => exact absurd rfl (hx n).1
  | @count n => exact absurd rfl (hx n).2
  | @stop n t ht hrun hd =>
    have hseen : t.entity.resolved = (t.stage == .counted) := h t (List.mem_of_getElem? ht)
    rw [hrun] at hseen
    exact h.set { t with stage := .stopped } hseen
  | @spread n t fault ht hd =>
    have hseen : t.entity.resolved = (t.stage == .counted) := h t (List.mem_of_getElem? ht)
    exact h.set { t with entity := t.entity.settle (.error fault) }
      ((resolved_settle_error t.entity fault).trans hseen)
  | fail | succeed | conclude => exact h

/-- **A task that ends before the driver has met a failure is seen to be resolved when it is counted off.** -/
theorem Calm.end (h : m.Calm) (hm : m.Sound cfg c) (hd : m.driver = .waiting) (hs : Steps cfg c m (.settle n) m') :
    (∃ m'', Steps cfg c m' (.count n) m'' ∧ m''.Calm) ∨ m'.Calm ∧ ∀ m'', ¬ Steps cfg c m' (.count n) m'' := by
  cases hs with
  | @settle n t ht hrun =>
    have hn : n < m.tasks.length := (List.getElem?_eq_some_iff.1 ht).1
    have hnone : t.entity.outcome.content = none := by
      rcases (hm.tasks t (List.mem_of_getElem? ht)).outcome with ho | ⟨fault, hf, -⟩
      · rw [ho, hrun]
        rfl
      · rw [fault?_of_waiting hd] at hf
        cases hf
    have hget : ∀ t' : Task, (m.tasks.set n t')[n]? = some t' := fun t' => List.getElem?_set_self hn
    cases hr : Resolution.resolve cfg c t.entity.descriptor with
    | ok u =>
      refine Or.inl ⟨_, .count (hget _) rfl, ?_⟩
      have hresolved : (t.entity.settle (.ok ())).resolved = true := Entity.resolved_iff.2 (Once.fill_of_none hnone)
      dsimp only
      rw [List.set_set]
      exact h.set _ hresolved
    | error fault =>
      have hseen : t.entity.resolved = (t.stage == .counted) := h t (List.mem_of_getElem? ht)
      rw [hrun] at hseen
      refine Or.inr ⟨h.set (settled t (.error fault)) ((resolved_settle_error t.entity fault).trans hseen), ?_⟩
      intro m'' hs
      cases hs with
      | count ht' hsucceeded =>
        cases (hget _).symm.trans ht'
        cases hsucceeded

/-- While the driver waits, no task is about to be counted off. -/
theorem Calm.not_count (h : m.Calm) (hm : m.Sound cfg c) (hd : m.driver = .waiting) :
    ¬ Steps cfg c m (.count n) m' := by
  intro hs
  cases hs with
  | @count n t ht hsucceeded =>
    have hmem := List.mem_of_getElem? ht
    have hresolved : t.entity.resolved = true := by
      rcases (hm.tasks t hmem).outcome with ho | ⟨fault, hf, -⟩
      · exact Entity.resolved_iff.2 (by rw [ho, hsucceeded]; rfl)
      · rw [fault?_of_waiting hd] at hf
        cases hf
    have hseen := h t hmem
    rw [hresolved, hsucceeded] at hseen
    cases hseen

end Mapping

namespace Database

/-- The entities with how far their tasks are; those of an open registry have not begun. -/
def tasks (db : Database) : List Task :=
  match db.mapping with
  | some m => m.tasks
  | none => db.graph.entities.map fun e => { entity := e }

variable {db db' : Database} {m : Mapping}

theorem tasks_of_mapping (hm : db.mapping = some m) : db.tasks = m.tasks := by
  unfold tasks
  rw [hm]

/-- An open registry has no entity that is seen to be resolved, and no task that has begun. -/
theorem tasks_of_open (hm : db.mapping = none) {t : Task} (ht : t ∈ db.tasks) :
    t.stage = .running ∧ t.entity.outcome.content = none := by
  unfold tasks graph at ht
  rw [hm] at ht
  obtain ⟨e, he, rfl⟩ := List.mem_map.1 ht
  obtain ⟨d, -, rfl⟩ := List.mem_map.1 he
  exact ⟨rfl, rfl⟩

theorem entity_tasks (db : Database) : db.tasks.map (·.entity) = db.graph.entities := by
  cases hm : db.mapping with
  | some m => rw [tasks_of_mapping hm, graph_of_mapping hm]
  | none =>
    unfold tasks
    rw [hm]
    dsimp only
    rw [List.map_map]
    exact List.map_id' _

/-- What the count and the outcomes of the entities of a database say. -/
structure Counts (db : Database) (registered : List EntityDescriptor) : Prop where
  /-- There is a task for each entity, in the order of registration. -/
  entities : db.tasks.map (·.entity.descriptor) = registered
  seen : db.tasks.map (·.entity) = db.graph.entities
  /-- The count is that of the entities whose tasks are not counted off. -/
  remaining : db.remaining = db.tasks.countP (·.stage != .counted)
  /-- A task that has ended well has resolved its entity. -/
  succeeded : ∀ t ∈ db.tasks, t.stage.result? = some (.ok ()) →
    Resolution.resolve db.config db.catalog t.entity.descriptor = .ok ()
  /-- The outcome of an entity is what came of its task, unless the failure of another came first. -/
  outcome : ∀ t ∈ db.tasks, t.entity.outcome.content = t.stage.result? ∨
    ∃ fault, t.entity.outcome.content = some (.error fault) ∧ ∃ other ∈ db.tasks, other.stage = .failed fault
  /-- The count and the number of entities that are not seen to be resolved differ by the tasks that were overtaken, and
  those that are about to be counted off. -/
  balance : db.remaining + db.tasks.countP (fun t => t.stage == .counted && !t.entity.resolved) =
    db.tasks.countP (!·.entity.resolved) + db.tasks.countP (fun t => t.stage == .succeeded && t.entity.resolved)
  /-- Where there are no such tasks, the count is that of the entities that resolving does not give out. -/
  exact : (∀ t ∈ db.tasks, t.entity.resolved = (t.stage == .counted)) →
    db.remaining = (registered.filter fun d => !(db.resolved d.typeName).isOk).length
  /-- When mapping has succeeded, all entities are resolved and counted off. -/
  success : db.requireMapped? = some (.ok ()) → db.remaining = 0 ∧ ∀ t ∈ db.tasks, t.entity.resolved = true

/-- What comes of resolving an entity by its name. -/
theorem Reachable.isOk_resolved (h : db.Reachable) {e : Entity} (he : e ∈ db.graph.entities) :
    (db.resolved e.typeName).isOk = e.resolved := by
  unfold resolved resolved?
  rw [h.require_eq_ok.2 ⟨he, rfl⟩]
  unfold Entity.resolved
  dsimp only
  cases e.outcome.content with
  | none => rfl
  | some r => cases r <;> rfl

/-- What holds of the tasks of a database that can arise. -/
theorem Reachable.task (h : db.Reachable) {t : Task} (ht : t ∈ db.tasks) :
    (∀ r, t.stage.result? = some r → Resolution.resolve db.config db.catalog t.entity.descriptor = r) ∧
    (t.entity.resolved = true → t.stage.result? = some (.ok ())) ∧
    (t.entity.outcome.content = t.stage.result? ∨
      ∃ fault, t.entity.outcome.content = some (.error fault) ∧ ∃ other ∈ db.tasks, other.stage = .failed fault) := by
  cases hm : db.mapping with
  | none =>
    obtain ⟨hs, ho⟩ := tasks_of_open hm ht
    refine ⟨fun r hr => ?_, fun hr => ?_, Or.inl ?_⟩
    · rw [hs] at hr
      cases hr
    · rw [Entity.resolved_iff, ho] at hr
      cases hr
    · rw [ho, hs]
      rfl
  | some m =>
    rw [tasks_of_mapping hm] at ht ⊢
    have hsound := (h.consistent.isSealed m hm).1
    have htask := hsound.tasks t ht
    refine ⟨htask.result, htask.result_of_resolved, htask.outcome.imp id ?_⟩
    rintro ⟨fault, hf, ho⟩
    exact ⟨fault, ho, hsound.met fault hf⟩

theorem Reachable.remaining_eq (h : db.Reachable) : db.remaining = db.tasks.countP (·.stage != .counted) := by
  cases hm : db.mapping with
  | none =>
    have hlength : db.tasks.length = db.catalog.entities.length := by
      rw [← h.descriptors, ← entity_tasks, List.length_map, List.length_map]
    rw [h.consistent.unsealed hm, ← hlength, eq_comm]
    refine List.countP_eq_length.2 fun t ht => ?_
    rw [(tasks_of_open hm ht).1]
    rfl
  | some m => rw [tasks_of_mapping hm, (h.consistent.isSealed m hm).2, Mapping.uncounted]

/-- **What the count says**, of every database that can arise. -/
theorem Reachable.counts (h : db.Reachable) : db.Counts db.catalog.entities where
  entities := by
    rw [← h.descriptors, ← entity_tasks, List.map_map]
    rfl
  seen := entity_tasks db
  remaining := h.remaining_eq
  succeeded t ht := (h.task ht).1 _
  outcome t ht := (h.task ht).2.2
  balance := by
    rw [h.remaining_eq]
    refine countP_add_countP fun t ht => ?_
    have hresult := (h.task ht).2.1
    cases hr : t.entity.resolved with
    | false => cases t.stage <;> rfl
    | true =>
      rw [hr] at hresult
      cases hs : t.stage <;> rw [hs] at hresult <;> cases hresult rfl <;> rfl
  exact hcalm := by
    have hunresolved : db.remaining = db.tasks.countP (!·.entity.resolved) := by
      rw [h.remaining_eq]
      refine List.countP_congr fun t ht => ?_
      rw [hcalm t ht]
      rfl
    have hname : ∀ e ∈ db.graph.entities, (!e.resolved) = true ↔ (!(db.resolved e.typeName).isOk) = true := by
      intro e he
      rw [h.isOk_resolved he]
    rw [hunresolved, ← List.countP_eq_length_filter, ← h.descriptors, ← entity_tasks, List.map_map, List.countP_map]
    refine List.countP_congr fun t ht => hname t.entity ?_
    rw [← entity_tasks]
    exact List.mem_map_of_mem ht
  success hok := by
    have hmapped : db.Mapped := ⟨h, by unfold requireMapped; rw [hok]; rfl⟩
    obtain ⟨m, hm, hcontent⟩ := hmapped.exists_success
    have hcounted : ∀ t ∈ db.tasks, t.stage = .counted := by
      rw [tasks_of_mapping hm]
      exact (h.consistent.isSealed m hm).1.success hcontent
    refine ⟨(isMapped_iff.1 hmapped.isMapped).2, fun t ht => Entity.resolved_iff.2 ?_⟩
    rcases (h.task ht).2.2 with ho | ⟨fault, -, other, hother, hs⟩
    · rw [ho, hcounted t ht]
      rfl
    · cases (hcounted other hother).symm.trans hs

/-! ## One thread -/

/-- Whether the entities that are seen to be resolved are those counted off. -/
def Calm (db : Database) : Prop := ∀ t ∈ db.tasks, t.entity.resolved = (t.stage == .counted)

theorem calm_iff (hm : db.mapping = some m) : db.Calm ↔ m.Calm := by
  unfold Calm Mapping.Calm
  rw [tasks_of_mapping hm]

theorem calm_of_open (hm : db.mapping = none) : db.Calm := by
  intro t ht
  obtain ⟨hs, ho⟩ := tasks_of_open hm ht
  unfold Entity.resolved
  rw [hs, ho]
  rfl

theorem Calm.startMapping (h : db.Calm) : db.startMapping.Calm := by
  cases hm : db.mapping with
  | some m => rwa [startMapping_of_isSealed (by unfold Database.isSealed; rw [hm]; rfl)]
  | none =>
    rw [startMapping_of_none hm]
    exact (calm_iff rfl).2 (Mapping.calm_begun _ _)

/-- Nothing but a task that ends or is counted off makes a difference. -/
theorem Calm.step {x : Mapping.Step} (h : db.Calm) (hx : ∀ n, x ≠ .settle n ∧ x ≠ .count n)
    (hs : db.step? x = some db') : db'.Calm := by
  obtain ⟨m, m', hm, hstep, rfl⟩ := step?_eq_some.1 hs
  exact (calm_iff rfl).2 (((calm_iff hm).1 h).step hstep hx)

/-- While the driver waits, no task is about to be counted off. -/
theorem Calm.step?_count (h : db.Calm) (hr : db.Reachable) (hd : ∀ m, db.mapping = some m → m.driver = .waiting)
    (n : Nat) : db.step? (.count n) = none := by
  refine Option.eq_none_iff_forall_ne_some.2 fun db' hc => ?_
  obtain ⟨m, m', hm, hstep, -⟩ := step?_eq_some.1 hc
  exact ((calm_iff hm).1 h).not_count (hr.consistent.isSealed m hm).1 (hd m hm) hstep

/-- **A task that ends and is counted off without a break makes none**, as long as the driver has met no failure. -/
theorem Calm.end (h : db.Calm) (hr : db.Reachable) (hd : ∀ m, db.mapping = some m → m.driver = .waiting) {n : Nat}
    (hs : db.step? (.settle n) = some db') :
    (∃ db'', db'.step? (.count n) = some db'' ∧ db''.Calm) ∨ db'.step? (.count n) = none ∧ db'.Calm := by
  obtain ⟨m, m', hm, hstep, rfl⟩ := step?_eq_some.1 hs
  have hsound := (hr.consistent.isSealed m hm).1
  rcases ((calm_iff hm).1 h).end hsound (hd m hm) hstep with ⟨m'', hcount, hcalm⟩ | ⟨hcalm, hno⟩
  · exact Or.inl ⟨_, step?_eq_some.2 ⟨m', m'', rfl, hcount, rfl⟩, (calm_iff rfl).2 hcalm⟩
  · refine Or.inr ⟨Option.eq_none_iff_forall_ne_some.2 fun db'' hc => ?_, (calm_iff rfl).2 hcalm⟩
    obtain ⟨m₁, m₂, hm₁, hcount, -⟩ := step?_eq_some.1 hc
    cases hm₁
    exact hno m₂ hcount

end Database
end Ormap
