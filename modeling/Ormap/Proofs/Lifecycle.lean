import Ormap.Database.Tables
import Ormap.Proofs.Hierarchy
import Ormap.Proofs.Mapping
/-!
# Life cycle — the databases that registering, mapping and version changes lead to

The tasks that resolve entities take their steps in any order, with anything else between them.  What the tasks of a
sealed database hold comes from its own catalog, and its count is that of the entities that are not counted off
(`Consistent`).  So a database whose mapping succeeded holds the graph of a catalog all of whose entities resolve
(`Mapped.maps`), whatever the order was.  Names and positions find the same entities.
-/
namespace Ormap
namespace Database

/-- The databases that can arise. -/
inductive Reachable : Database → Prop where
  | fresh (config : Config) : Reachable { config }
  | register {db db' : Database} (d : EntityDescriptor) : Reachable db → db.register d = .ok db' → Reachable db'
  | startMapping {db : Database} : Reachable db → Reachable db.startMapping
  | step {db db' : Database} (x : Mapping.Step) : Reachable db → db.step? x = some db' → Reachable db'
  | beginChange {db : Database} : Reachable db → Reachable db.beginChange
  | endChange {db : Database} : Reachable db → Reachable db.endChange

/-- A database that can arise, and whose mapping succeeded. -/
structure Mapped (db : Database) : Prop where
  reachable : db.Reachable
  outcome : db.requireMapped = .ok ()

/-- What a database holds comes from its catalog, and it counts the entities that are not counted off. -/
structure Consistent (db : Database) : Prop where
  unsealed : db.mapping = none → db.remaining = db.catalog.entities.length
  isSealed : ∀ m, db.mapping = some m → m.Sound db.config db.catalog ∧ db.remaining = m.uncounted

section

variable {db db' : Database} {d : EntityDescriptor} {x : Mapping.Step}

theorem register_eq_ok (h : db.register d = .ok db') :
    db.isSealed = false ∧ ∃ catalog, db.catalog.register d = .ok catalog ∧
      db' = { db with catalog, remaining := db.remaining + 1 } := by
  unfold register at h
  split at h
  · cases h
  · rename_i hs
    obtain ⟨catalog, hc, h⟩ := Outcome.bind_eq_ok.1 h
    cases h
    exact ⟨by simpa using hs, catalog, hc, rfl⟩

theorem isSealed_eq_false : db.isSealed = false ↔ db.mapping = none := by
  unfold isSealed
  cases db.mapping <;> simp

/-! ## Starting -/

theorem startMapping_of_none (h : db.mapping = none) :
    db.startMapping = { db with mapping := some (.begun db.config db.catalog) } := by
  unfold startMapping
  rw [h]

theorem startMapping_of_isSealed (h : db.isSealed = true) : db.startMapping = db := by
  obtain ⟨m, hm⟩ := Option.isSome_iff_exists.1 h
  unfold startMapping
  rw [hm]

theorem isSealed_startMapping (db : Database) : db.startMapping.isSealed = true := by
  unfold startMapping isSealed
  cases h : db.mapping with
  | none => rfl
  | some m => exact congrArg Option.isSome h

theorem catalog_startMapping (db : Database) : db.startMapping.catalog = db.catalog := by
  unfold startMapping
  cases db.mapping <;> rfl

theorem changes_startMapping (db : Database) : db.startMapping.changes = db.changes := by
  unfold startMapping
  cases db.mapping <;> rfl

/-! ## Steps -/

/-- **What a step does to a database.** -/
theorem step?_eq_some : db.step? x = some db' ↔ ∃ m m', db.mapping = some m ∧
    Mapping.Steps db.config db.catalog m x m' ∧ db' = { db with
      mapping := some m', remaining := if x.counts then db.remaining - 1 else db.remaining } := by
  unfold step?
  constructor
  · intro h
    obtain ⟨m, hm, h⟩ := Option.bind_eq_some_iff.1 h
    obtain ⟨m', hstep, h⟩ := Option.bind_eq_some_iff.1 h
    cases h
    exact ⟨m, m', hm, Mapping.step?_eq_some.1 hstep, rfl⟩
  · rintro ⟨m, m', hm, hstep, rfl⟩
    refine Option.bind_eq_some_iff.2 ⟨m, hm, Option.bind_eq_some_iff.2 ⟨m', ?_, rfl⟩⟩
    exact Mapping.step?_eq_some.2 hstep

theorem Consistent.register (h : db.Consistent) (hr : db.register d = .ok db') : db'.Consistent := by
  obtain ⟨hs, catalog, hc, rfl⟩ := register_eq_ok hr
  have hm := isSealed_eq_false.1 hs
  refine ⟨fun _ => ?_, fun m hm' => ?_⟩
  · show db.remaining + 1 = catalog.entities.length
    rw [(Catalog.register_eq_ok.1 hc).2, List.length_append, h.unsealed hm]
    rfl
  · cases hm.symm.trans hm'

theorem Consistent.startMapping (h : db.Consistent) : db.startMapping.Consistent := by
  cases hm : db.mapping with
  | some m => rwa [startMapping_of_isSealed (by unfold Database.isSealed; rw [hm]; rfl)]
  | none =>
    rw [startMapping_of_none hm]
    refine ⟨fun hm' => ?_, fun m hm' => ?_⟩
    · cases hm'
    cases hm'
    refine ⟨Mapping.sound_begun _ _, ?_⟩
    show db.remaining = (Mapping.begun db.config db.catalog).uncounted
    rw [h.unsealed hm, Mapping.uncounted_begun]

theorem Consistent.step (h : db.Consistent) (hx : db.step? x = some db') : db'.Consistent := by
  obtain ⟨m, m', hm, hstep, rfl⟩ := step?_eq_some.1 hx
  obtain ⟨hsound, hcount⟩ := h.isSealed m hm
  refine ⟨fun hm' => ?_, fun m'' hm' => ?_⟩
  · cases hm'
  cases hm'
  refine ⟨hsound.step hstep, ?_⟩
  have huncounted := Mapping.uncounted_step hstep
  show (if x.counts then db.remaining - 1 else db.remaining) = m'.uncounted
  rw [hcount, ← huncounted]
  cases x.counts <;> simp

theorem Reachable.consistent (h : db.Reachable) : db.Consistent := by
  induction h with
  | fresh config => exact ⟨fun _ => rfl, fun m hm => by cases hm⟩
  | register d _ hr ih => exact ih.register hr
  | startMapping _ ih => exact ih.startMapping
  | step x _ hx ih => exact ih.step hx
  | beginChange _ ih => exact ⟨ih.unsealed, ih.isSealed⟩
  | endChange _ ih => exact ⟨ih.unsealed, ih.isSealed⟩

theorem Reachable.steps : ∀ {xs : List Mapping.Step} {db : Database}, db.Reachable → db.steps? xs = some db' →
    db'.Reachable
  | [], db, h, hx => by
    cases hx
    exact h
  | x :: xs, db, h, hx => by
    obtain ⟨db₁, h₁, hx⟩ := Option.bind_eq_some_iff.1 (List.foldlM_cons.symm.trans hx)
    exact (h.step x h₁).steps hx

/-- Whatever steps a mapping can take, its database can take. -/
theorem exists_steps {m m' : Mapping} (hl : Mapping.Leads db.config db.catalog m m') (hm : db.mapping = some m)
    (hr : db.remaining = m.uncounted) :
    ∃ xs, db.steps? xs = some { db with mapping := some m', remaining := m'.uncounted } := by
  induction hl with
  | refl =>
    refine ⟨[], ?_⟩
    rw [← hm, ← hr]
    rfl
  | tail _ hs ih =>
    obtain ⟨x, hs⟩ := hs
    obtain ⟨xs, hxs⟩ := ih
    refine ⟨xs ++ [x], (List.foldlM_append).trans (Option.bind_eq_some_iff.2 ⟨_, hxs, ?_⟩)⟩
    refine (List.foldlM_cons).trans (Option.bind_eq_some_iff.2 ⟨_, step?_eq_some.2 ⟨_, _, rfl, hs, rfl⟩, ?_⟩)
    have huncounted := Mapping.uncounted_step hs
    rw [← huncounted]
    cases x.counts <;> simp

/-! ## Mapping at once -/

theorem map_of_none (h : db.mapping = none) : db.map = { db with
    mapping := some (.complete db.config db.catalog)
    remaining := db.remaining - (Resolution.graph db.config db.catalog).entities.countP (·.resolved) } := by
  unfold map
  rw [h]

theorem map_of_isSealed (h : db.isSealed = true) : db.map = db := by
  obtain ⟨m, hm⟩ := Option.isSome_iff_exists.1 h
  unfold map
  rw [hm]

theorem graph_map (h : db.mapping = none) : db.map.graph = Resolution.graph db.config db.catalog := by
  rw [map_of_none h]
  show ({ database := db.config.name, entities := (Mapping.complete db.config db.catalog).tasks.map (·.entity) } : Graph) = _
  unfold Mapping.complete
  rw [List.map_map]
  rfl

/-- Mapping for the first time succeeds when every entity resolves. -/
theorem requireMapped_map (h : db.mapping = none) :
    db.map.requireMapped = .ok () ↔ Resolution.outcome db.config db.catalog = .ok () := by
  rw [map_of_none h]
  exact Outcome.mapError_eq_ok

/-- **Mapping at once is one way of the tasks**, that on which all come to their ends before the driver looks. -/
theorem Reachable.exists_steps_map (h : db.Reachable) (hm : db.mapping = none) :
    ∃ xs, db.startMapping.steps? xs = some db.map := by
  have hcount : db.remaining - (Resolution.graph db.config db.catalog).entities.countP (·.resolved) =
      (Mapping.complete db.config db.catalog).uncounted := by
    rw [h.consistent.unsealed hm, Mapping.uncounted_complete]
  have hbegun : db.remaining = (Mapping.begun db.config db.catalog).uncounted := by
    rw [h.consistent.unsealed hm, Mapping.uncounted_begun]
  rw [startMapping_of_none hm, map_of_none hm, hcount]
  exact exists_steps (Mapping.leads_complete _ _) rfl hbegun

theorem Reachable.map (h : db.Reachable) : db.map.Reachable := by
  cases hm : db.mapping with
  | some m => rwa [map_of_isSealed (by unfold Database.isSealed; rw [hm]; rfl)]
  | none =>
    obtain ⟨xs, hxs⟩ := h.exists_steps_map hm
    exact h.startMapping.steps hxs

theorem requireMapped?_of_mapping {m : Mapping} (hm : db.mapping = some m) :
    db.requireMapped? = m.outcome.content.map (·.mapError .configuration) := by
  unfold requireMapped?
  rw [hm]

theorem graph_of_mapping {m : Mapping} (hm : db.mapping = some m) :
    db.graph = { database := db.config.name, entities := m.tasks.map (·.entity) } := by
  unfold graph
  rw [hm]

/-- A mapped database has a mapping that succeeded. -/
theorem Mapped.exists_success (h : db.Mapped) : ∃ m, db.mapping = some m ∧ m.outcome.content = some (.ok ()) := by
  have ho := h.outcome
  unfold requireMapped requireMapped? at ho
  cases hm : db.mapping with
  | none =>
    rw [hm] at ho
    cases ho
  | some m =>
    refine ⟨m, rfl, ?_⟩
    rw [hm] at ho
    dsimp only at ho
    cases hc : m.outcome.content with
    | none =>
      rw [hc] at ho
      cases ho
    | some r =>
      rw [hc] at ho
      rw [Outcome.mapError_eq_ok.1 ho]

/-- **The graph of a mapped database is that of its catalog**, all of whose entities resolve. -/
theorem Mapped.maps (h : db.Mapped) : Resolution.Maps db.config db.catalog db.graph := by
  obtain ⟨m, hm, hcontent⟩ := h.exists_success
  obtain ⟨hentities, houtcome⟩ := (h.reachable.consistent.isSealed m hm).1.entities_of_success hcontent
  refine ⟨?_, houtcome⟩
  rw [graph_of_mapping hm, hentities]
  rfl

/-- **All entities of a mapped database are counted off.** -/
theorem Mapped.isMapped (h : db.Mapped) : db.isMapped = true := by
  obtain ⟨m, hm, hcontent⟩ := h.exists_success
  obtain ⟨hsound, hcount⟩ := h.reachable.consistent.isSealed m hm
  have hremaining : db.remaining = 0 := by
    rw [hcount, Mapping.uncounted, List.countP_eq_zero]
    intro t ht
    rw [hsound.success hcontent t ht]
    exact Bool.false_ne_true
  unfold Database.isMapped Status.isMapped status Database.isSealed
  rw [hm, hremaining]
  rfl

end

/-- A database of a valid configuration with the given entities can arise. -/
theorem reachable_registerAll : ∀ {entities : List EntityDescriptor} {db db' : Database}, db.Reachable →
    db.registerAll entities = .ok db' → db'.Reachable
  | [], db, db', h, hr => by cases hr; exact h
  | d :: rest, db, db', h, hr => by
    unfold registerAll at hr
    obtain ⟨db₁, h₁, hr⟩ := Outcome.bind_eq_ok.1 hr
    exact reachable_registerAll (h.register d h₁) hr

theorem reachable_ofEntities {config : Config} {entities : List EntityDescriptor} {db : Database}
    (h : ofEntities config entities = .ok db) : db.Reachable := by
  unfold ofEntities at h
  split at h
  · cases h
  · exact reachable_registerAll (.fresh config) h

/-! ## Entities by name and by position -/

section

variable {db : Database} {e : Entity}

/-- The entities of the graph are those of the catalog, in the same order. -/
theorem Reachable.descriptors (h : db.Reachable) : db.graph.entities.map (·.descriptor) = db.catalog.entities := by
  unfold graph
  cases hm : db.mapping with
  | none =>
    show (db.catalog.entities.map _).map _ = _
    rw [List.map_map]
    exact List.map_id' _
  | some m =>
    show (m.tasks.map _).map _ = _
    rw [List.map_map]
    exact (h.consistent.isSealed m hm).1.descriptors

theorem Reachable.typeNames (h : db.Reachable) :
    db.graph.entities.map (·.typeName) = db.catalog.entities.map (·.typeName) := by
  rw [← h.descriptors, List.map_map]
  rfl

theorem Reachable.require_eq_ok (h : db.Reachable) {name : String} :
    db.graph.require name = .ok e ↔ e ∈ db.graph.entities ∧ e.typeName = name := by
  have hnd : (db.graph.entities.map (·.typeName)).Nodup := by
    rw [h.typeNames]
    exact db.catalog.distinct
  rw [← find?_key_eq_some_iff hnd]
  unfold Graph.require Graph.find?
  cases db.graph.entities.find? (·.typeName == name) <;> simp

end

/-! ## A fleet

Vehicles in a joined hierarchy of three levels, whose integers are written in different ways; persons in one table, with
the discriminator in a declared column; places with a table for each concrete class. -/

open FieldDescriptor in
/-- The entities of the fleet. -/
def fleetEntities : List EntityDescriptor := [
  { typeName := "Vehicle", table := some { name := some "vehicle" }, inheritance := some .joined,
    discriminatorColumn := some { name := "kind", kind := .integer }, discriminatorValue := some "7",
    fields := [(plain "id" .long).asId, (plain "name" .string).notNull, plain "built" .date] },
  { typeName := "Car", ancestors := ["Vehicle"], table := some { name := some "car" },
    discriminatorValue := some " +8 ", fields := [plain "doors" .byte, reference "owner" (.manyToOne "Driver")] },
  { typeName := "Van", ancestors := ["Car", "Vehicle"], table := some { name := some "van" },
    discriminatorValue := some "007", fields := [plain "load" .double] },
  { typeName := "Person", table := some { name := some "person" }, inheritance := some .singleTable,
    discriminatorColumn := some {},
    fields := [(plain "id" .uuid).asId, plain "dtype" (.choice ["driver", "boss"])] },
  { typeName := "Driver", ancestors := ["Person"], discriminatorValue := some "driver",
    fields := [plain "licence" .char, reference "places" (.manyToMany "Garage")] },
  { typeName := "Boss", ancestors := ["Driver", "Person"], discriminatorValue := some "boss",
    fields := [reference "office" (.oneToOne "Garage"), plain "since" .date] },
  { typeName := "Place", isAbstract := true, inheritance := some .tablePerClass,
    discriminatorColumn := some { kind := .char }, fields := [(plain "id" .integer).asId, plain "open" .boolean] },
  { typeName := "Garage", ancestors := ["Place"], table := some { name := some "garage" },
    discriminatorValue := some "g", fields := [plain "size" .short] }]

/-- The fleet as it is registered. -/
def fleetEntries : Except ConfigurationError Database := ofEntities { name := "fleet" } fleetEntities

theorem fleetEntries_isSome : fleetEntries.toOption.isSome = true := by decide +kernel

/-- The mapped database of the fleet. -/
def fleet : Database := (fleetEntries.toOption.get fleetEntries_isSome).map

theorem fleet_mapped : fleet.Mapped :=
  ⟨(reachable_ofEntities (Outcome.eq_ok_get fleetEntries_isSome)).map, by decide +kernel⟩

end Database
end Ormap
