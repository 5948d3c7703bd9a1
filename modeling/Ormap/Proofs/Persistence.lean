import Ormap.Proofs.Lifecycle
/-!
# Persistence — what stays of a database, whatever happens to it

A database never goes back behind what it has been (`Later`): a type keeps its position, a sealed registry stays as it
is, a mapped database stays mapped, and the outcome of a mapping stays.
-/
namespace Ormap
namespace Database

/-- What stays, whatever happens. -/
structure Later (db db' : Database) : Prop where
  config : db'.config = db.config
  entities : db.catalog.entities <+: db'.catalog.entities
  isSealed : db.isSealed = true → db'.isSealed = true ∧ db'.catalog = db.catalog
  isMapped : db.isMapped = true → db'.isMapped = true
  outcome : ∀ m r, db.mapping = some m → m.outcome.content = some r →
    ∃ m', db'.mapping = some m' ∧ m'.outcome.content = some r

variable {db db' db'' : Database} {d : EntityDescriptor} {x : Mapping.Step}

theorem Later.refl (db : Database) : db.Later db :=
  ⟨rfl, List.prefix_rfl, fun hs => ⟨hs, rfl⟩, fun hm => hm, fun m _ hm hr => ⟨m, hm, hr⟩⟩

theorem Later.trans (h : db.Later db') (h' : db'.Later db'') : db.Later db'' where
  config := h'.config.trans h.config
  entities := h.entities.trans h'.entities
  isSealed := fun hs => by
    obtain ⟨hs', hcatalog⟩ := h.isSealed hs
    obtain ⟨hs'', hcatalog'⟩ := h'.isSealed hs'
    exact ⟨hs'', hcatalog'.trans hcatalog⟩
  isMapped := fun hm => h'.isMapped (h.isMapped hm)
  outcome := fun m r hm hr => by
    obtain ⟨m', hm', hr'⟩ := h.outcome m r hm hr
    exact h'.outcome m' r hm' hr'

theorem isMapped_iff : db.isMapped = true ↔ db.isSealed = true ∧ db.remaining = 0 := by
  unfold isMapped Status.isMapped status
  simp

theorem isReady_iff : db.isReady = true ↔ db.isMapped = true ∧ db.changes = 0 := by
  unfold isReady Status.isReady isMapped status
  simp

/-- An open registry has nothing but its entities to keep. -/
theorem Later.of_open (hs : db.isSealed = false) (hc : db'.config = db.config)
    (he : db.catalog.entities <+: db'.catalog.entities) : db.Later db' := by
  have hunsealed : ¬ db.isSealed = true := by simp [hs]
  refine ⟨hc, he, fun h => absurd h hunsealed, fun h => absurd (isMapped_iff.1 h).1 hunsealed, fun m _ hm => ?_⟩
  cases hm.symm.trans (isSealed_eq_false.1 hs)

theorem later_register (h : db.register d = .ok db') : db.Later db' := by
  obtain ⟨hs, catalog, hc, rfl⟩ := register_eq_ok h
  refine .of_open hs rfl ?_
  rw [(Catalog.register_eq_ok.1 hc).2]
  exact List.prefix_append _ _

theorem later_startMapping (db : Database) : db.Later db.startMapping := by
  cases hs : db.isSealed with
  | true =>
    rw [startMapping_of_isSealed hs]
    exact .refl db
  | false =>
    rw [startMapping_of_none (isSealed_eq_false.1 hs)]
    exact .of_open hs rfl List.prefix_rfl

/-- A step leaves the entities as they are, and only one that counts an entity off changes the status. -/
theorem later_step (h : db.step? x = some db') : db.Later db' := by
  obtain ⟨m, m', hm, hstep, rfl⟩ := step?_eq_some.1 h
  refine ⟨rfl, List.prefix_rfl, fun _ => ⟨rfl, rfl⟩, fun hmapped => ?_, fun m₀ r hm₀ hr => ?_⟩
  · obtain ⟨hs, hzero⟩ := isMapped_iff.1 hmapped
    refine isMapped_iff.2 ⟨rfl, ?_⟩
    show (if x.counts then db.remaining - 1 else db.remaining) = 0
    rw [hzero, ite_self]
  · cases hm.symm.trans hm₀
    exact ⟨m', rfl, Mapping.outcome_of_step hstep hr⟩

theorem later_beginChange (db : Database) : db.Later db.beginChange :=
  ⟨rfl, List.prefix_rfl, fun hs => ⟨hs, rfl⟩, fun hm => hm, fun m _ hm hr => ⟨m, hm, hr⟩⟩

theorem later_endChange (db : Database) : db.Later db.endChange :=
  ⟨rfl, List.prefix_rfl, fun hs => ⟨hs, rfl⟩, fun hm => hm, fun m _ hm hr => ⟨m, hm, hr⟩⟩

/-- Whoever requires a mapping that has an outcome is told the same from then on. -/
theorem Later.requireMapped? (h : db.Later db') (hs : db.isSealed = true) {r : Except Error Unit}
    (hr : db.requireMapped? = some r) : db'.requireMapped? = some r := by
  obtain ⟨m, hm⟩ := Option.isSome_iff_exists.1 hs
  rw [requireMapped?_of_mapping hm] at hr
  obtain ⟨result, hresult, rfl⟩ := Option.map_eq_some_iff.1 hr
  obtain ⟨m', hm', hresult'⟩ := h.outcome m result hm hresult
  rw [requireMapped?_of_mapping hm', hresult']
  rfl

/-- A type keeps its position. -/
theorem Later.index? (h : db.Later db') {type : String} {i : Nat} (hi : db.index? type = some i) :
    db'.index? type = some i := by
  obtain ⟨d, hd, hname⟩ := Catalog.index?_eq_some_iff.1 hi
  obtain ⟨added, hadded⟩ := h.entities
  refine Catalog.index?_eq_some_iff.2 ⟨d, ?_, hname⟩
  rw [← hadded, List.getElem?_append_left (List.getElem?_eq_some_iff.1 hd).1]
  exact hd

/-- A sealed registry gets no type that it has not. -/
theorem Later.index?_eq_none (h : db.Later db') (hs : db.isSealed = true) {type : String}
    (hi : db.index? type = none) : db'.index? type = none := by
  unfold Database.index?
  rw [(h.isSealed hs).2]
  exact hi

end Database
end Ormap
