import Mathlib.Logic.Relation
import Ormap.Mapping
import Ormap.Proofs.Resolution
/-!
# Mapping — what holds while entities are resolved side by side

Tasks and driver take their steps in any order.  What one step can do is said once (`Steps`).  Each keeps the account of
outcomes (`Sound.step`): an entity has what came of its own task, or the failure of the mapping where that came first.
An outcome that is there stays (`Task.Keeps`).  No run of steps is endless (`measure_lt`), and where no step is possible
the mapping has its outcome (`Sound.exists_step`).  One run is that of tasks that end one after the other before the
driver looks (`leads_complete`).
-/
namespace Ormap

/-- What an item counts for goes from the old item at its place to the new one. -/
theorem countP_set {α : Type} {l : List α} {n : Nat} {a : α} (h : l[n]? = some a) (a' : α) (p : α → Bool) :
    (l.set n a').countP p + (p a).toNat = l.countP p + (p a').toNat := by
  obtain ⟨hn, rfl⟩ := List.getElem?_eq_some_iff.1 h
  have hpos : p l[n] = true → 0 < l.countP p := fun hp => List.countP_pos_iff.2 ⟨_, List.getElem_mem hn, hp⟩
  rw [List.countP_set hn]
  cases hp : p l[n] <;> cases hp' : p a' <;> simp
  all_goals have := hpos hp; omega

namespace Once

variable {α : Type} {o : Once α} {a b : α}

/-- **A content stays.** -/
theorem fill_of_content (h : o.content = some a) : (o.fill b).content = some a := by
  unfold fill
  rw [h]
  exact h

theorem fill_of_none (h : o.content = none) : (o.fill b).content = some b := by
  unfold fill
  rw [h]

theorem isFilled_fill (o : Once α) (a : α) : (o.fill a).isFilled = true := by
  unfold isFilled
  cases h : o.content with
  | none => rw [fill_of_none h]; rfl
  | some b => rw [fill_of_content h]; rfl

theorem fill_eq_self (h : o.isFilled = true) : o.fill b = o := by
  obtain ⟨a, ha⟩ := Option.isSome_iff_exists.1 h
  unfold fill
  rw [ha]

end Once

deriving instance DecidableEq for Entity

namespace Entity

/-- The entity without what came of its resolution. -/
def begun (e : Entity) : Entity := { e with outcome := {} }

@[simp] theorem begun_settle (e : Entity) (r : Except ConfigurationError Unit) : (e.settle r).begun = e.begun := rfl

theorem settle_eq_self {e : Entity} {r : Except ConfigurationError Unit} (h : e.outcome.isFilled = true) :
    e.settle r = e := by
  unfold settle
  rw [Once.fill_eq_self h]

theorem resolved_iff {e : Entity} : e.resolved = true ↔ e.outcome.content = some (.ok ()) := by
  unfold resolved
  split
  · rename_i h
    simp [h]
  · rename_i h
    simpa using h ()

end Entity

/-- What came of a task that has come to its end. -/
def Stage.result? : Stage → Option (Except ConfigurationError Unit)
  | running | stopped => none
  | succeeded | counted => some (.ok ())
  | failed fault => some (.error fault)

/-- What stays of a task and its entity. -/
structure Task.Keeps (t t' : Task) : Prop where
  entity : t'.entity.begun = t.entity.begun
  outcome : ∀ r, t.entity.outcome.content = some r → t'.entity.outcome.content = some r
  result : ∀ r, t.stage.result? = some r → t'.stage.result? = some r
  counted : t.stage = .counted → t'.stage = .counted

theorem Task.Keeps.refl (t : Task) : t.Keeps t := ⟨rfl, fun _ h => h, fun _ h => h, fun h => h⟩

namespace Mapping

/-! ## What a step can do -/

/-- What the steps make of a mapping. -/
inductive Steps (cfg : Config) (c : Catalog) (m : Mapping) : Step → Mapping → Prop
  | settle {n : Nat} {t : Task} : m.tasks[n]? = some t → t.stage = .running → Steps cfg c m (.settle n)
      { m with tasks := m.tasks.set n (settled t (Resolution.resolve cfg c t.entity.descriptor)) }
  | count {n : Nat} {t : Task} : m.tasks[n]? = some t → t.stage = .succeeded → Steps cfg c m (.count n)
      { m with tasks := m.tasks.set n { t with stage := .counted } }
  | stop {n : Nat} {t : Task} : m.tasks[n]? = some t → t.stage = .running → m.driver ≠ .waiting →
      Steps cfg c m (.stop n) { m with tasks := m.tasks.set n { t with stage := .stopped } }
  | fail {n : Nat} {t : Task} {fault : ConfigurationError} : m.tasks[n]? = some t → t.stage = .failed fault →
      m.driver = .waiting → Steps cfg c m (.fail n) { m with driver := .failing fault 0 }
  | spread {n : Nat} {t : Task} {fault : ConfigurationError} : m.tasks[n]? = some t → m.driver = .failing fault n →
      Steps cfg c m .spread { m with
        tasks := m.tasks.set n { t with entity := t.entity.settle (.error fault) }, driver := .failing fault (n + 1) }
  | succeed : m.driver = .waiting → (∀ t ∈ m.tasks, t.stage = .counted) →
      Steps cfg c m .answer { m with driver := .done, outcome := m.outcome.fill (.ok ()) }
  | conclude {fault : ConfigurationError} : m.driver = .failing fault m.tasks.length →
      Steps cfg c m .answer { m with driver := .done, outcome := m.outcome.fill (.error fault) }

variable {cfg : Config} {c : Catalog} {m m' : Mapping} {x : Step} {n : Nat} {t t' : Task} {stage : Stage}

theorem at?_eq_some : m.at? n stage = some t ↔ m.tasks[n]? = some t ∧ t.stage = stage := by
  unfold at?
  rw [Option.filter_eq_some_iff]
  simp

/-- **What a step can do.** -/
theorem step?_eq_some : m.step? cfg c x = some m' ↔ Steps cfg c m x m' := by
  constructor
  · intro h
    cases x with
    | settle n =>
      obtain ⟨t, ht, rfl⟩ := Option.map_eq_some_iff.1 h
      obtain ⟨ht, hs⟩ := at?_eq_some.1 ht
      exact .settle ht hs
    | count n =>
      obtain ⟨t, ht, rfl⟩ := Option.map_eq_some_iff.1 h
      obtain ⟨ht, hs⟩ := at?_eq_some.1 ht
      exact .count ht hs
    | stop n =>
      obtain ⟨hd, h⟩ := Option.ite_none_left_eq_some.1 h
      obtain ⟨t, ht, rfl⟩ := Option.map_eq_some_iff.1 h
      obtain ⟨ht, hs⟩ := at?_eq_some.1 ht
      exact .stop ht hs hd
    | fail n =>
      obtain ⟨hd, h⟩ := Option.ite_none_right_eq_some.1 h
      obtain ⟨driver, hb, rfl⟩ := Option.map_eq_some_iff.1 h
      obtain ⟨t, ht, hm⟩ := Option.bind_eq_some_iff.1 hb
      unfold met at hm
      split at hm
      · rename_i fault hs
        cases hm
        exact .fail ht hs hd
      · cases hm
    | spread =>
      simp only [step?] at h
      split at h
      · rename_i fault next hd
        obtain ⟨t, ht, rfl⟩ := Option.map_eq_some_iff.1 h
        exact .spread ht hd
      · cases h
    | answer =>
      simp only [step?] at h
      split at h
      · rename_i hd
        obtain ⟨hall, h⟩ := Option.ite_none_right_eq_some.1 h
        cases h
        exact .succeed hd (by simpa using hall)
      · rename_i fault next hd
        obtain ⟨hnext, h⟩ := Option.ite_none_right_eq_some.1 h
        cases h
        exact .conclude (hnext ▸ hd)
      · cases h
  · intro h
    cases h with
    | settle ht hs => exact Option.map_eq_some_iff.2 ⟨_, at?_eq_some.2 ⟨ht, hs⟩, rfl⟩
    | count ht hs => exact Option.map_eq_some_iff.2 ⟨_, at?_eq_some.2 ⟨ht, hs⟩, rfl⟩
    | stop ht hs hd =>
      refine Option.ite_none_left_eq_some.2 ⟨hd, ?_⟩
      exact Option.map_eq_some_iff.2 ⟨_, at?_eq_some.2 ⟨ht, hs⟩, rfl⟩
    | fail ht hs hd => simp only [step?, if_pos hd, ht, Option.bind_some, met, hs, Option.map_some]
    | spread ht hd => simp only [step?, hd, ht, Option.map_some]
    | succeed hd hall =>
      have hall' : m.tasks.all (·.stage == .counted) = true := by simpa using hall
      simp only [step?, hd, hall', if_true]
    | conclude hd => simp only [step?, hd, if_true]

/-! ## What holds of a mapping -/

/-- The failure in an outcome. -/
def failure? : Option (Except ConfigurationError Unit) → Option ConfigurationError
  | some (.error fault) => some fault
  | _ => none

/-- The failure that the driver has met. -/
def fault? (m : Mapping) : Option ConfigurationError :=
  match m.driver with
  | .waiting => none
  | .failing fault _ => some fault
  | .done => failure? m.outcome.content

/-- What holds of a task, given the failure that the driver has met. -/
structure TaskSound (cfg : Config) (c : Catalog) (fault? : Option ConfigurationError) (t : Task) : Prop where
  /-- Its result is what resolving its entity gives. -/
  result : ∀ r, t.stage.result? = some r → Resolution.resolve cfg c t.entity.descriptor = r
  /-- Its entity has its result, or the failure of the mapping if that came first. -/
  outcome : t.entity.outcome.content = t.stage.result? ∨
    ∃ fault, fault? = some fault ∧ t.entity.outcome.content = some (.error fault)
  stopped : t.stage = .stopped → fault?.isSome = true

/-- What holds of a mapping after any steps. -/
structure Sound (cfg : Config) (c : Catalog) (m : Mapping) : Prop where
  entities : m.tasks.map (·.entity.begun) = c.entities.map (Resolution.entityBegun cfg c)
  tasks : ∀ t ∈ m.tasks, TaskSound cfg c m.fault? t
  /-- The failure of the mapping is that of a task. -/
  met : ∀ fault, m.fault? = some fault → ∃ t ∈ m.tasks, t.stage = .failed fault
  /-- The entities that the driver is past have outcomes. -/
  spread : ∀ fault next, m.driver = .failing fault next → next ≤ m.tasks.length ∧
    ∀ n t, n < next → m.tasks[n]? = some t → t.entity.outcome.isFilled = true
  unanswered : m.driver ≠ .done → m.outcome.content = none
  answered : m.driver = .done → m.outcome.isFilled = true ∧ ∀ t ∈ m.tasks, t.entity.outcome.isFilled = true
  success : m.outcome.content = some (.ok ()) → ∀ t ∈ m.tasks, t.stage = .counted

theorem TaskSound.settled {fault? : Option ConfigurationError} (h : TaskSound cfg c fault? t) (hs : t.stage = .running)
    (r : Except ConfigurationError Unit) (hr : Resolution.resolve cfg c t.entity.descriptor = r) :
    TaskSound cfg c fault? (settled t r) ∧ t.Keeps (settled t r) := by
  have hres : (Mapping.settled t r).stage.result? = some r ∧ (Mapping.settled t r).entity = t.entity.settle r := by
    cases r <;> exact ⟨rfl, rfl⟩
  obtain ⟨hres, hentity⟩ := hres
  have hnone : t.stage.result? = none := by rw [hs]; rfl
  refine ⟨⟨fun r' hr' => ?_, ?_, fun hstop => ?_⟩, ⟨?_, fun r' hr' => ?_, fun r' hr' => ?_, fun hc => ?_⟩⟩
  · rw [hres] at hr'
    cases hr'
    rw [hentity]
    exact hr
  · rw [hres, hentity]
    rcases h.outcome with ho | ⟨fault, hf, ho⟩
    · exact Or.inl (Once.fill_of_none (ho.trans hnone))
    · exact Or.inr ⟨fault, hf, Once.fill_of_content ho⟩
  · cases r <;> cases hstop
  · rw [hentity, Entity.begun_settle]
  · rw [hentity]
    exact Once.fill_of_content hr'
  · rw [hnone] at hr'
    cases hr'
  · rw [hs] at hc
    cases hc

theorem TaskSound.counted {fault? : Option ConfigurationError} (h : TaskSound cfg c fault? t)
    (hs : t.stage = .succeeded) : TaskSound cfg c fault? { t with stage := .counted } ∧
      t.Keeps { t with stage := .counted } := by
  have hres : t.stage.result? = Stage.counted.result? := by rw [hs]; rfl
  refine ⟨⟨fun r hr => h.result r (hres.trans hr), ?_, fun hstop => by cases hstop⟩,
    ⟨rfl, fun _ hr => hr, fun r hr => hres.symm.trans hr, fun _ => rfl⟩⟩
  rw [show ({ t with stage := .counted } : Task).stage.result? = t.stage.result? from hres.symm]
  exact h.outcome

theorem TaskSound.stop {fault : ConfigurationError} (h : TaskSound cfg c (some fault) t) (hs : t.stage = .running) :
    TaskSound cfg c (some fault) { t with stage := .stopped } ∧ t.Keeps { t with stage := .stopped } := by
  have hres : t.stage.result? = Stage.stopped.result? := by rw [hs]; rfl
  refine ⟨⟨fun r hr => ?_, ?_, fun _ => rfl⟩, ⟨rfl, fun _ hr => hr, fun r hr => hres.symm.trans hr, fun hc => ?_⟩⟩
  · cases hr
  · exact hres ▸ h.outcome
  · rw [hs] at hc
    cases hc

theorem TaskSound.spread {fault : ConfigurationError} (h : TaskSound cfg c (some fault) t) :
    TaskSound cfg c (some fault) { t with entity := t.entity.settle (.error fault) } ∧
      t.Keeps { t with entity := t.entity.settle (.error fault) } := by
  refine ⟨⟨h.result, ?_, h.stopped⟩, ⟨rfl, fun _ hr => Once.fill_of_content hr, fun _ hr => hr, fun hc => hc⟩⟩
  cases ho : t.entity.outcome.content with
  | none => exact Or.inr ⟨fault, rfl, Once.fill_of_none ho⟩
  | some r =>
    have hkept : (t.entity.settle (.error fault)).outcome.content = t.entity.outcome.content :=
      (Once.fill_of_content ho).trans ho.symm
    rw [hkept]
    exact h.outcome

/-- **A task may go on by itself**, as long as it keeps what it has. -/
theorem Sound.set (h : m.Sound cfg c) (ht : m.tasks[n]? = some t)
    (ht' : TaskSound cfg c m.fault? t' ∧ t.Keeps t') :
    ({ m with tasks := m.tasks.set n t' } : Mapping).Sound cfg c := by
  obtain ⟨hsound, hkeeps⟩ := ht'
  have hn : n < m.tasks.length := (List.getElem?_eq_some_iff.1 ht).1
  have hmem : ∀ x ∈ m.tasks.set n t', x = t' ∨ x ∈ m.tasks := fun x hx => (List.mem_or_eq_of_mem_set hx).symm
  have hfilled : t.entity.outcome.isFilled = true → t'.entity.outcome.isFilled = true := by
    intro hf
    obtain ⟨r, hr⟩ := Option.isSome_iff_exists.1 hf
    exact Option.isSome_iff_exists.2 ⟨r, hkeeps.outcome r hr⟩
  -- a task that is left as it is keeps what it has
  have hkept : ∀ x ∈ m.tasks, ∃ x' ∈ m.tasks.set n t', x.Keeps x' := by
    intro x hx
    obtain ⟨k, hk⟩ := List.mem_iff_getElem?.1 hx
    by_cases hkn : k = n
    · subst hkn
      cases ht.symm.trans hk
      exact ⟨t', List.mem_set hn _, hkeeps⟩
    · exact ⟨x, List.mem_of_getElem? (by rw [List.getElem?_set_ne (Ne.symm hkn)]; exact hk), .refl x⟩
  refine ⟨?_, fun x hx => ?_, fun fault hf => ?_, fun fault next hd => ?_, h.unanswered, fun hd => ?_, fun ho x hx => ?_⟩
  · rw [List.map_set, hkeeps.entity, ← h.entities]
    refine List.ext_getElem? fun k => ?_
    rw [List.getElem?_set]
    split
    · rename_i hk
      subst hk
      rw [List.getElem?_map, ht, List.length_map, if_pos hn]
      rfl
    · rfl
  · rcases hmem x hx with rfl | hx
    · exact hsound
    · exact h.tasks x hx
  · obtain ⟨x, hx, hs⟩ := h.met fault hf
    obtain ⟨x', hx', hk⟩ := hkept x hx
    refine ⟨x', hx', ?_⟩
    have hres := hk.result _ (show x.stage.result? = some (.error fault) by rw [hs]; rfl)
    cases hstage : x'.stage <;> rw [hstage] at hres <;> cases hres
    rfl
  · obtain ⟨hle, hall⟩ := h.spread fault next hd
    refine ⟨by rw [List.length_set]; exact hle, fun k x hk hx => ?_⟩
    rw [List.getElem?_set] at hx
    split at hx
    · rename_i hkn
      subst hkn
      cases hx
      exact hfilled (hall _ _ hk ht)
    · exact hall k x hk hx
  · refine ⟨(h.answered hd).1, fun x hx => ?_⟩
    rcases hmem x hx with rfl | hx
    · exact hfilled ((h.answered hd).2 t (List.mem_of_getElem? ht))
    · exact (h.answered hd).2 x hx
  · rcases hmem x hx with rfl | hx
    · exact hkeeps.counted (h.success ho t (List.mem_of_getElem? ht))
    · exact h.success ho x hx

theorem fault?_of_failing {fault : ConfigurationError} {next : Nat} (h : m.driver = .failing fault next) :
    m.fault? = some fault := by
  unfold fault?
  rw [h]

theorem fault?_of_waiting (h : m.driver = .waiting) : m.fault? = none := by
  unfold fault?
  rw [h]

theorem fault?_of_done (h : m.driver = .done) : m.fault? = failure? m.outcome.content := by
  unfold fault?
  rw [h]

theorem Sound.settle (h : m.Sound cfg c) (ht : m.tasks[n]? = some t) (hs : t.stage = .running) :
    ({ m with tasks := m.tasks.set n (settled t (Resolution.resolve cfg c t.entity.descriptor)) } : Mapping).Sound
      cfg c :=
  h.set ht ((h.tasks _ (List.mem_of_getElem? ht)).settled hs _ rfl)

theorem Sound.count (h : m.Sound cfg c) (ht : m.tasks[n]? = some t) (hs : t.stage = .succeeded) :
    ({ m with tasks := m.tasks.set n { t with stage := .counted } } : Mapping).Sound cfg c :=
  h.set ht ((h.tasks _ (List.mem_of_getElem? ht)).counted hs)

/-- A driver that no longer waits has met a failure, or all tasks are counted off. -/
theorem Sound.fault?_or_counted (h : m.Sound cfg c) (hd : m.driver ≠ .waiting) :
    (∃ fault, m.fault? = some fault) ∨ ∀ t ∈ m.tasks, t.stage = .counted := by
  cases hdriver : m.driver with
  | waiting => exact absurd hdriver hd
  | failing fault next => exact Or.inl ⟨fault, fault?_of_failing hdriver⟩
  | done =>
    obtain ⟨r, hr⟩ := Option.isSome_iff_exists.1 (h.answered hdriver).1
    cases r with
    | ok u => exact Or.inr (h.success hr)
    | error fault => exact Or.inl ⟨fault, by rw [fault?_of_done hdriver, hr]; rfl⟩

theorem Sound.stop (h : m.Sound cfg c) (ht : m.tasks[n]? = some t) (hs : t.stage = .running)
    (hd : m.driver ≠ .waiting) :
    ({ m with tasks := m.tasks.set n { t with stage := .stopped } } : Mapping).Sound cfg c := by
  have hsound := h.tasks _ (List.mem_of_getElem? ht)
  rcases h.fault?_or_counted hd with ⟨fault, hf⟩ | hall
  · rw [hf] at hsound
    exact h.set ht (hf ▸ hsound.stop hs)
  · rw [hall t (List.mem_of_getElem? ht)] at hs
    cases hs

theorem Sound.fail {fault : ConfigurationError} (h : m.Sound cfg c) (ht : m.tasks[n]? = some t)
    (hs : t.stage = .failed fault) (hd : m.driver = .waiting) :
    ({ m with driver := .failing fault 0 } : Mapping).Sound cfg c where
  entities := h.entities
  tasks := by
    intro x hx
    -- no entity has been given a failure yet
    have hsound := h.tasks x hx
    rw [fault?_of_waiting hd] at hsound
    refine ⟨hsound.result, Or.inl ?_, fun hstop => ?_⟩
    · rcases hsound.outcome with ho | ⟨f, hf, -⟩
      · exact ho
      · cases hf
    · cases hsound.stopped hstop
  met := by
    intro f hf
    cases hf
    exact ⟨t, List.mem_of_getElem? ht, hs⟩
  spread := by
    intro f next hd'
    cases hd'
    exact ⟨Nat.zero_le _, fun _ _ hk => absurd hk (Nat.not_lt_zero _)⟩
  unanswered := fun _ => h.unanswered (by rw [hd]; decide)
  answered := fun hd' => by cases hd'
  success := h.success

theorem Sound.spreads {fault : ConfigurationError} (h : m.Sound cfg c) (ht : m.tasks[n]? = some t)
    (hd : m.driver = .failing fault n) : ({ m with
      tasks := m.tasks.set n { t with entity := t.entity.settle (.error fault) }, driver := .failing fault (n + 1) } :
        Mapping).Sound cfg c := by
  have hf := fault?_of_failing hd
  have hsound := h.tasks _ (List.mem_of_getElem? ht)
  rw [hf] at hsound
  have hset := h.set ht (hf ▸ hsound.spread)
  have hn : n < m.tasks.length := (List.getElem?_eq_some_iff.1 ht).1
  refine ⟨hset.entities, fun x hx => ?_, fun f hf' => ?_, fun f next hd' => ?_, fun _ => ?_, fun hd' => ?_, hset.success⟩
  · have hx' : TaskSound cfg c m.fault? x := hset.tasks x hx
    rwa [hf] at hx'
  · exact hset.met f (hf.trans hf')
  · cases hd'
    refine ⟨by rw [List.length_set]; exact hn, fun k x hk hx => ?_⟩
    by_cases hkn : k = n
    · subst hkn
      rw [List.getElem?_set_self hn] at hx
      cases hx
      exact Once.isFilled_fill _ _
    · exact (hset.spread _ _ hd).2 k x (Nat.lt_of_le_of_ne (Nat.le_of_lt_succ hk) hkn) hx
  · exact h.unanswered (by rw [hd]; exact fun h => by cases h)
  · cases hd'

theorem Sound.succeed (h : m.Sound cfg c) (hd : m.driver = .waiting) (hall : ∀ t ∈ m.tasks, t.stage = .counted) :
    ({ m with driver := .done, outcome := m.outcome.fill (.ok ()) } : Mapping).Sound cfg c := by
  have hcontent := Once.fill_of_none (b := Except.ok ()) (h.unanswered (by rw [hd]; decide))
  have hf : Mapping.fault? { m with driver := .done, outcome := m.outcome.fill (.ok ()) } = none := by
    rw [fault?_of_done rfl, hcontent]
    rfl
  have hsound : ∀ t ∈ m.tasks, TaskSound cfg c none t := fun t ht => fault?_of_waiting hd ▸ h.tasks t ht
  refine ⟨h.entities, fun t ht => hf ▸ hsound t ht, fun f hf' => ?_, fun f next hd' => ?_, fun hne => absurd rfl hne,
    fun _ => ⟨Once.isFilled_fill _ _, fun t ht => ?_⟩, fun _ => hall⟩
  · rw [hf] at hf'
    cases hf'
  · cases hd'
  · rcases (hsound t ht).outcome with ho | ⟨f, hf, -⟩
    · rw [hall t ht] at ho
      exact Option.isSome_iff_exists.2 ⟨_, ho⟩
    · cases hf

theorem Sound.conclude {fault : ConfigurationError} (h : m.Sound cfg c)
    (hd : m.driver = .failing fault m.tasks.length) :
    ({ m with driver := .done, outcome := m.outcome.fill (.error fault) } : Mapping).Sound cfg c := by
  have hcontent := Once.fill_of_none (b := (Except.error fault : Except ConfigurationError Unit))
    (h.unanswered (by rw [hd]; exact fun h => by cases h))
  have hf : Mapping.fault? { m with driver := .done, outcome := m.outcome.fill (.error fault) } = m.fault? := by
    rw [fault?_of_done rfl, hcontent, fault?_of_failing hd]
    rfl
  refine ⟨h.entities, fun t ht => hf ▸ h.tasks t ht, fun f hf' => h.met f (hf ▸ hf'), fun f next hd' => ?_,
    fun hne => absurd rfl hne, fun _ => ⟨Once.isFilled_fill _ _, fun t ht => ?_⟩, fun ho => ?_⟩
  · cases hd'
  · obtain ⟨k, hk⟩ := List.mem_iff_getElem?.1 ht
    exact (h.spread _ _ hd).2 k t (List.getElem?_eq_some_iff.1 hk).1 hk
  · rw [hcontent] at ho
    cases ho

/-- The outcome of a mapping stays. -/
theorem outcome_of_step (hs : Steps cfg c m x m') {r : Except ConfigurationError Unit}
    (hr : m.outcome.content = some r) : m'.outcome.content = some r := by
  cases hs with
  | succeed | conclude => exact Once.fill_of_content hr
  | _ => exact hr

/-- **Every step keeps the account of outcomes.** -/
theorem Sound.step (h : m.Sound cfg c) (hs : Steps cfg c m x m') : m'.Sound cfg c := by
  cases hs with
  | settle ht hrun => exact h.settle ht hrun
  | count ht hsucc => exact h.count ht hsucc
  | stop ht hrun hd => exact h.stop ht hrun hd
  | fail ht hfailed hd => exact h.fail ht hfailed hd
  | spread ht hd => exact h.spreads ht hd
  | succeed hd hall => exact h.succeed hd hall
  | conclude hd => exact h.conclude hd

theorem sound_begun (cfg : Config) (c : Catalog) : (begun cfg c).Sound cfg c := by
  have hrunning : ∀ t ∈ (begun cfg c).tasks, t.stage = .running ∧ t.entity.outcome.content = none := by
    intro t ht
    obtain ⟨d, -, rfl⟩ := List.mem_map.1 ht
    exact ⟨rfl, rfl⟩
  refine ⟨?_, fun t ht => ?_, fun _ hf => ?_, fun _ _ hd => ?_, fun _ => rfl, fun hd => ?_, fun ho => ?_⟩
  · show (c.entities.map _).map _ = _
    rw [List.map_map]
    rfl
  · obtain ⟨hs, ho⟩ := hrunning t ht
    refine ⟨fun r hr => ?_, Or.inl ?_, fun hstop => ?_⟩
    · rw [hs] at hr
      cases hr
    · rw [hs, ho]
      rfl
    · rw [hs] at hstop
      cases hstop
  · cases hf
  · cases hd
  · cases hd
  · cases ho

theorem Sound.driver_eq_done (h : m.Sound cfg c) {r : Except ConfigurationError Unit}
    (hr : m.outcome.content = some r) : m.driver = .done := by
  by_contra hd
  rw [h.unanswered hd] at hr
  cases hr

/-- The tasks are those of the entities of the catalog, in their order. -/
theorem Sound.descriptors (h : m.Sound cfg c) : m.tasks.map (·.entity.descriptor) = c.entities := by
  have heq := congrArg (List.map Entity.descriptor) h.entities
  rw [List.map_map, List.map_map] at heq
  exact heq.trans (List.map_id' _)

theorem Sound.mem_descriptor (h : m.Sound cfg c) (ht : t ∈ m.tasks) : ∃ d ∈ c.entities,
    t.entity.begun = Resolution.entityBegun cfg c d ∧ t.entity.descriptor = d := by
  have hmem : t.entity.begun ∈ c.entities.map (Resolution.entityBegun cfg c) := by
    rw [← h.entities]
    exact List.mem_map_of_mem (f := (·.entity.begun)) ht
  obtain ⟨d, hd, heq⟩ := List.mem_map.1 hmem
  exact ⟨d, hd, heq.symm, (congrArg Entity.descriptor heq).symm⟩

/-- **A mapping that succeeds has resolved every entity**, each as resolving the catalog does. -/
theorem Sound.entities_of_success (h : m.Sound cfg c) (ho : m.outcome.content = some (.ok ())) :
    m.tasks.map (·.entity) = c.entities.map (Resolution.entity cfg c) ∧ Resolution.outcome cfg c = .ok () := by
  have hf : m.fault? = none := by
    rw [fault?_of_done (h.driver_eq_done ho), ho]
    rfl
  have hresult : ∀ t ∈ m.tasks, Resolution.resolve cfg c t.entity.descriptor = .ok () ∧
      t.entity.outcome.content = some (.ok ()) := by
    intro t ht
    have hsound := h.tasks t ht
    have hres : t.stage.result? = some (.ok ()) := by
      rw [h.success ho t ht]
      rfl
    refine ⟨hsound.result _ hres, ?_⟩
    rcases hsound.outcome with hout | ⟨fault, hfault, -⟩
    · exact hout.trans hres
    · rw [hf] at hfault
      cases hfault
  have hentity : ∀ t ∈ m.tasks, t.entity = Resolution.entity cfg c t.entity.descriptor := by
    intro t ht
    obtain ⟨d, hd, hbegun, rfl⟩ := h.mem_descriptor ht
    obtain ⟨hres, hout⟩ := hresult t ht
    have houtcome : t.entity.outcome = ⟨some (Resolution.resolve cfg c t.entity.descriptor)⟩ := by
      rw [hres, ← hout]
    calc t.entity = { t.entity.begun with outcome := t.entity.outcome } := rfl
      _ = { Resolution.entityBegun cfg c t.entity.descriptor with
            outcome := ⟨some (Resolution.resolve cfg c t.entity.descriptor)⟩ } := by rw [hbegun, houtcome]
      _ = Resolution.entity cfg c t.entity.descriptor := rfl
  constructor
  · rw [← h.descriptors, List.map_map]
    exact List.map_congr_left hentity
  · refine Outcome.forM_eq_ok.2 fun d hd => ?_
    rw [← h.descriptors] at hd
    obtain ⟨t, ht, rfl⟩ := List.mem_map.1 hd
    exact (hresult t ht).1

/-- The number of entities that are not counted off. -/
def uncounted (m : Mapping) : Nat := m.tasks.countP (·.stage != .counted)

/-- A step that counts an entity off lowers their number by one, and no other changes it. -/
theorem uncounted_step (hs : Steps cfg c m x m') : m'.uncounted + x.counts.toNat = m.uncounted := by
  have hset : ∀ {n : Nat} {t t' : Task}, m.tasks[n]? = some t → (t.stage != .counted) = true →
      (t'.stage != .counted) = true → (m.tasks.set n t').countP (·.stage != .counted) = m.uncounted := by
    intro n t t' ht hp hp'
    have hcount := countP_set ht t' (·.stage != .counted)
    rw [hp, hp'] at hcount
    exact Nat.add_right_cancel hcount
  cases hs with
  | settle ht hrun =>
    refine hset ht (by rw [hrun]; rfl) ?_
    cases Resolution.resolve cfg c _ <;> rfl
  | @count n t ht hsucc =>
    have hcount := countP_set ht { t with stage := .counted } (·.stage != .counted)
    rw [show (t.stage != .counted) = true by rw [hsucc]; rfl] at hcount
    exact hcount
  | stop ht hrun => exact hset ht (by rw [hrun]; rfl) rfl
  | @spread n t fault ht hd =>
    have hcount := countP_set ht { t with entity := t.entity.settle (.error fault) } (·.stage != .counted)
    exact Nat.add_right_cancel hcount
  | fail | succeed | conclude => rfl

theorem uncounted_begun (cfg : Config) (c : Catalog) : (begun cfg c).uncounted = c.entities.length := by
  unfold uncounted begun
  rw [List.countP_map]
  exact List.countP_eq_length.2 fun _ _ => rfl

theorem uncounted_complete (cfg : Config) (c : Catalog) :
    (complete cfg c).uncounted = c.entities.length - (Resolution.graph cfg c).entities.countP (·.resolved) := by
  have hresolved : ∀ d, (ended (Resolution.resolve cfg c d) != .counted) = !(Resolution.entity cfg c d).resolved := by
    intro d
    rw [Resolution.resolved_entity]
    cases Resolution.resolve cfg c d <;> rfl
  unfold uncounted complete Resolution.graph
  rw [List.countP_map, List.countP_map, List.length_eq_countP_add_countP ((·.resolved) ∘ Resolution.entity cfg c),
    Nat.add_sub_cancel_left]
  exact List.countP_congr fun d _ => by simp [hresolved]

/-! ## Endings -/

/-- Whether some steps lead from one mapping to another. -/
def Leads (cfg : Config) (c : Catalog) : Mapping → Mapping → Prop :=
  Relation.ReflTransGen fun m m' => ∃ x, Steps cfg c m x m'

/-- The task of an entity at its beginning, and at its end. -/
def begunTask (cfg : Config) (c : Catalog) (d : EntityDescriptor) : Task :=
  { entity := Resolution.entityBegun cfg c d }

def endedTask (cfg : Config) (c : Catalog) (d : EntityDescriptor) : Task :=
  { entity := Resolution.entity cfg c d, stage := ended (Resolution.resolve cfg c d) }

theorem leads_endedTask (m : Mapping) (d : EntityDescriptor) (l r : List Task) :
    Leads cfg c { m with tasks := l ++ begunTask cfg c d :: r } { m with tasks := l ++ endedTask cfg c d :: r } := by
  have hget : ∀ t : Task, (l ++ t :: r)[l.length]? = some t := fun t => by simp
  have hset : ∀ t t' : Task, (l ++ t :: r).set l.length t' = l ++ t' :: r := fun t t' => by simp
  have hsettle : Steps cfg c { m with tasks := l ++ begunTask cfg c d :: r } (.settle l.length) _ :=
    .settle (hget (begunTask cfg c d)) rfl
  have hcount : Steps cfg c { m with tasks := l ++ { endedTask cfg c d with stage := .succeeded } :: r }
      (.count l.length) _ := .count (hget _) rfl
  dsimp only at hsettle hcount
  rw [hset] at hsettle hcount
  -- a task that succeeds has its count to take yet
  have hstage : (endedTask cfg c d).stage = ended (Resolution.resolve cfg c d) := rfl
  have hsettled : settled (begunTask cfg c d) (Resolution.resolve cfg c d) =
      { endedTask cfg c d with stage := (settled (begunTask cfg c d) (Resolution.resolve cfg c d)).stage } := rfl
  rw [show (begunTask cfg c d).entity.descriptor = d from rfl, hsettled] at hsettle
  cases hres : Resolution.resolve cfg c d with
  | error fault =>
    rw [hres] at hsettle hstage
    rw [show (settled (begunTask cfg c d) (.error fault)).stage = (endedTask cfg c d).stage from hstage.symm] at hsettle
    exact .single ⟨_, hsettle⟩
  | ok u =>
    rw [hres] at hsettle hstage
    rw [show Stage.counted = (endedTask cfg c d).stage from hstage.symm] at hcount
    exact .tail (.single ⟨_, hsettle⟩) ⟨_, hcount⟩

theorem leads_ended (m : Mapping) : ∀ (todo : List EntityDescriptor) (l : List Task),
    Leads cfg c { m with tasks := l ++ todo.map (begunTask cfg c) } { m with tasks := l ++ todo.map (endedTask cfg c) }
  | [], _ => .refl
  | d :: todo, l => by
    have hrest := leads_ended m todo (l ++ [endedTask cfg c d])
    rw [List.append_assoc, List.append_assoc] at hrest
    exact (leads_endedTask m d l (todo.map (begunTask cfg c))).trans hrest

/-- A failure that is given to entities that all have outcomes changes none of them. -/
theorem leads_spread {fault : ConfigurationError} (hfilled : ∀ t ∈ m.tasks, t.entity.outcome.isFilled = true) :
    ∀ k next, next + k = m.tasks.length →
      Leads cfg c { m with driver := .failing fault next } { m with driver := .failing fault m.tasks.length }
  | 0, next, h => by
    rw [← h]
    exact .refl
  | k + 1, next, h => by
    have hn : next < m.tasks.length := by omega
    have hspread : Steps cfg c { m with driver := .failing fault next } .spread _ :=
      .spread (List.getElem?_eq_getElem hn) rfl
    dsimp only at hspread
    rw [Entity.settle_eq_self (hfilled _ (List.getElem_mem hn)), List.set_getElem_self] at hspread
    exact .head ⟨_, hspread⟩ (leads_spread hfilled k (next + 1) (by omega))

/-- **Tasks that end one after the other before the driver looks at any** bring the mapping to its end. -/
theorem leads_complete (cfg : Config) (c : Catalog) : Leads cfg c (begun cfg c) (complete cfg c) := by
  let all : Mapping := { tasks := c.entities.map (endedTask cfg c) }
  have hall : Leads cfg c (begun cfg c) all := leads_ended (begun cfg c) c.entities []
  have hfilled : ∀ t ∈ all.tasks, t.entity.outcome.isFilled = true := by
    intro t ht
    obtain ⟨d, -, rfl⟩ := List.mem_map.1 ht
    rfl
  have hstage : ∀ d ∈ c.entities, (endedTask cfg c d).stage = ended (Resolution.resolve cfg c d) := fun _ _ => rfl
  refine hall.trans ?_
  unfold complete
  cases ho : Resolution.outcome cfg c with
  | ok u =>
    refine .single ⟨.answer, Steps.succeed (m := all) rfl fun t ht => ?_⟩
    obtain ⟨d, hd, rfl⟩ := List.mem_map.1 ht
    rw [hstage d hd, Outcome.forM_eq_ok.1 ho d hd]
    rfl
  | error fault =>
    obtain ⟨d, hd, hres⟩ := Outcome.exists_of_forM_eq_error ho
    obtain ⟨n, hn⟩ := List.mem_iff_getElem?.1 (List.mem_map_of_mem (f := endedTask cfg c) hd)
    have hfail : Steps cfg c all (.fail n) _ := .fail hn ((hstage d hd).trans (by rw [hres]; rfl)) rfl
    have hconclude : Steps cfg c { all with driver := .failing fault all.tasks.length } .answer _ := .conclude rfl
    exact .head ⟨_, hfail⟩ (.tail (leads_spread hfilled _ 0 (Nat.zero_add _)) ⟨_, hconclude⟩)

end Mapping
end Ormap
