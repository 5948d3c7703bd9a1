import Ormap.Proofs.Extension
import Ormap.Proofs.Order
import Ormap.Proofs.Schema
import Ormap.Schema.Demand
/-!
# Scripts — what a new entity adds to them

The statement of a table is made of the columns of its hierarchy, the storage types of these columns and the tables that
its foreign keys refer to.  None of them changes when the catalog grows by an entity that the others do not mention, so
the larger script has every statement of the smaller one, in their order (`Catalog.Extends.sublist_of_schema`).
-/
namespace Ormap

/-- Whether a column, if it is a foreign key, has the type of the column that it refers to. -/
def Graph.KeepsType (g : Graph) (col : Column) : Prop := ∀ key, col.foreignKey? = some key →
  ∃ t ∈ g.entities, t.typeName = key.entity ∧ ∃ rc ∈ t.columns, rc.name = key.referenced ∧ rc.type = col.type

/-- Each column of a side of a join table has the type of a column of that side. -/
theorem JoinTable.keepsType_of_group {g : Graph} {side : Entity} {field table : String} {cols : List Column}
    {declared : List JoinColumnDescriptor} (hside : side ∈ g.entities)
    (h : group field declared side table = .ok cols) : ∀ col ∈ cols, g.KeepsType col := by
  intro col hc key hk
  unfold group at h
  obtain ⟨js, hj, h⟩ := Outcome.bind_eq_ok.1 h
  cases h
  obtain ⟨j, hjm, rfl⟩ := List.mem_map.1 hc
  cases hk
  exact ⟨side, hside, rfl, j.referenced, Resolution.referenced_of_joinColumns hj j hjm, rfl, rfl⟩

namespace Resolution
namespace Maps

variable {cfg : Config} {c : Catalog} {g : Graph} {e : Entity} {col : Column} (m : Maps cfg c g)
include m

theorem exists_above : ∀ a ∈ c.entities, ∃ up, c.above a = .ok up := by
  intro a ha
  obtain ⟨up, _, _, _, _, s⟩ := m.settled ha
  exact ⟨up, s.above⟩

/-- An entity that has no registered ancestor, save perhaps itself, is a root. -/
theorem parent?_eq_none {x : EntityDescriptor} (hx : x ∈ c.entities)
    (h : ∀ d ∈ c.entities, d.typeName ∈ x.ancestors → d = x) : c.parent? x = none := by
  cases hp : c.parent? x with
  | none => rfl
  | some p =>
    obtain ⟨name, hname, hfind⟩ := List.exists_of_findSome?_eq_some hp
    obtain ⟨hpm, rfl⟩ := Catalog.find?_eq_some_iff.1 hfind
    obtain rfl := h p hpm hname
    -- an entity that is its own parent would be met again on its walk up
    obtain ⟨up, hup⟩ := m.exists_above p hx
    rw [Catalog.above_eq_ok] at hup
    exact absurd (Forest.parent_mem_ascend_self hup hp) (Forest.not_mem_ascend hup)

/-! ## Storage types -/

theorem keepsType (he : e ∈ g.entities) (hc : col ∈ e.columns) : g.KeepsType col := by
  intro key hk
  obtain ⟨x, hx, hxc, hxk, -⟩ := m.foreignKey_of_mem he hc hk
  obtain ⟨-, r, -, -, -, hent, t, ht, htn, rc, hrc, -, hname, htype⟩ :=
    m.own_foreignKey (m.mem_of_ancestry he hx) hxc hxk
  exact ⟨t, ht, htn.trans hent.symm, rc, hrc, hname, htype⟩

/-- A column that a foreign key names is found by it. -/
theorem referenced?_eq {t : Entity} {rc : Column} {key : ForeignKey} (ht : t ∈ g.entities)
    (htn : t.typeName = key.entity) (hrc : rc ∈ t.columns) (hname : rc.name = key.referenced) :
    g.referenced? key = some rc := by
  have hfind : g.find? key.entity = some t := m.find?_eq_some_iff.2 ⟨ht, htn⟩
  have hcolumn : t.column? key.referenced = some rc := (find?_key_eq_some_iff (m.columns_nodup ht)).2 ⟨hrc, hname⟩
  unfold Graph.referenced?
  rw [hfind, Option.bind_some, hcolumn]

/-- **Along references the type stays the same.** -/
theorem type_of_origin? : ∀ {steps : Nat} {col o : Column}, g.KeepsType col → g.origin? steps col = some o →
    o.type = col.type
  | 0, col, o, _, ho => by
    unfold Graph.origin? at ho
    split at ho
    · cases ho
    · cases ho
      rfl
  | steps + 1, col, o, hcol, ho => by
    unfold Graph.origin? at ho
    split at ho
    · cases ho
      rfl
    rename_i key hk
    obtain ⟨t, ht, htn, rc, hrc, hname, htype⟩ := hcol key hk
    rw [m.referenced?_eq ht htn hrc hname] at ho
    exact (type_of_origin? (m.keepsType ht hrc) ho).trans htype

theorem sqlType_eq (h : g.KeepsType col) : g.sqlType col = col.type.sqlType := by
  unfold Graph.sqlType
  cases ho : g.origin? g.columnCount col with
  | none => rfl
  | some o =>
    rw [Option.getD_some, m.type_of_origin? h ho]

end Maps
end Resolution

namespace Catalog.Extends

open Resolution

variable {cfg : Config} {c c' : Catalog} {x : EntityDescriptor} {g g' : Graph} {e source target : Entity} {col : Column}
  {r : Relationship} (h : c'.Extends c x) (m : Maps cfg c g) (m' : Maps cfg c' g')
include h m

/-! ## Graphs -/

theorem exists_descriptor (he : e ∈ g.entities) : ∃ d ∈ c.entities, e = entity cfg c d ∧ e = entity cfg c' d := by
  obtain rfl := m.graph_eq
  obtain ⟨d, hd, rfl⟩ := mem_graph.1 he
  exact ⟨d, hd, rfl, (h.entity_eq m.exists_above hd).symm⟩

include m'

theorem graph_entities : g'.entities = g.entities ++ [entity cfg c' x] := by
  rw [m'.graph_eq, m.graph_eq, h.entities_graph m.exists_above]

theorem mem_larger (he : e ∈ g.entities) : e ∈ g'.entities := by
  rw [h.graph_entities m m']
  exact List.mem_append_left _ he

theorem find?_mono {name : String} (he : g.find? name = some e) : g'.find? name = some e := by
  obtain ⟨he, hn⟩ := m.find?_eq_some_iff.1 he
  exact m'.find?_eq_some_iff.2 ⟨h.mem_larger m m' he, hn⟩

theorem keepsType_mono (hcol : g.KeepsType col) : g'.KeepsType col := by
  intro key hk
  obtain ⟨t, ht, hrest⟩ := hcol key hk
  exact ⟨t, h.mem_larger m m' ht, hrest⟩

theorem sqlType_eq (hcol : g.KeepsType col) : g'.sqlType col = g.sqlType col := by
  rw [m.sqlType_eq hcol, m'.sqlType_eq (h.keepsType_mono m m' hcol)]

theorem graph_above_eq (he : e ∈ g.entities) : g'.above e = g.above e := by
  obtain ⟨d, hd, hed, hed'⟩ := h.exists_descriptor m he
  obtain ⟨up, hup⟩ := m.exists_above d hd
  have ha : g'.above e = up.map (entity cfg c') := by rw [m'.graph_eq, hed', graph_above (h.above_eq_ok hd hup)]
  rw [ha, m.graph_eq, hed, graph_above hup]
  exact List.map_congr_left fun a ha => h.entity_eq m.exists_above (mem_of_above hup a ha)

theorem descendants_eq (he : e ∈ g.entities) : g'.descendants e = g.descendants e := by
  obtain ⟨d, hd, hed, hed'⟩ := h.exists_descriptor m he
  have hb : g'.descendants e = (c'.below d).map (entity cfg c') := by rw [m'.graph_eq, hed', graph_descendants]
  rw [hb, m.graph_eq, hed, graph_descendants, h.below_eq m.exists_above hd]
  refine List.map_congr_left fun b hb => h.entity_eq m.exists_above ?_
  exact (Forest.of_mem_descend (fun _ (ha : _ ∈ c.entities) _ => mem_children ha) hd hb).1

theorem tableOf?_eq (he : e ∈ g.entities) : g'.tableOf? e = g.tableOf? e := by
  have hroot : g'.root e = g.root e := by
    unfold Graph.root
    rw [h.graph_above_eq m m' he]
  unfold Graph.tableOf? Graph.tableOwner
  rw [m'.requireRoot (h.mem_larger m m' he), m.requireRoot he, hroot]

/-! ## Tables -/

theorem referencedTable_eq (source : Entity) (ht : target ∈ g.entities) :
    g'.referencedTable source target = g.referencedTable source target := by
  unfold Graph.referencedTable
  rw [h.tableOf?_eq m m' ht]

theorem tableColumns_eq (he : e ∈ g.entities) : g'.tableColumns e = g.tableColumns e := by
  unfold Graph.tableColumns Graph.columnsBelow
  rw [m'.requireDescendants (h.mem_larger m m' he), m.requireDescendants he, h.descendants_eq m m' he]

theorem columnDefinition_eq {s : StoredColumn} (hs : g.KeepsType s.column) :
    g'.columnDefinition s = g.columnDefinition s := by
  unfold Graph.columnDefinition
  rw [h.sqlType_eq m m' hs]

theorem parentClauses_eq (he : e ∈ g.entities) : g'.parentClauses e = g.parentClauses e := by
  unfold Graph.parentClauses
  split
  · rename_i name _ hn
    obtain ⟨p, hp, hf⟩ := m.exists_parent he hn
    rw [Graph.requireHeld_eq_ok.2 hf, Graph.requireHeld_eq_ok.2 (h.find?_mono m m' hf)]
    show ((g'.referencedTable e p).mapError Error.configuration >>= _) = ((g.referencedTable e p).mapError _ >>= _)
    rw [h.referencedTable_eq m m' e hp]
  · rfl

theorem groupClause_mono {group : List Column} {k? : Option ForeignKeyClause}
    (hk : g.groupClause source group = .ok k?) : g'.groupClause source group = .ok k? := by
  unfold Graph.groupClause at hk ⊢
  split at hk
  · exact hk
  obtain ⟨target, ht, hk⟩ := Outcome.bind_eq_ok.1 hk
  have hf := Graph.requireHeld_eq_ok.1 (Outcome.mapError_eq_ok.1 ht)
  have ht' := Graph.requireHeld_eq_ok.2 (h.find?_mono m m' hf)
  refine Outcome.bind_eq_ok.2 ⟨target, Outcome.mapError_eq_ok.2 ht', ?_⟩
  rw [h.referencedTable_eq m m' source (m.find?_eq_some_iff.1 hf).1]
  exact hk

theorem groupClauses_mono {groups : List (List Column)} {clauses : List ForeignKeyClause}
    (hc : g.groupClauses source groups = .ok clauses) : g'.groupClauses source groups = .ok clauses := by
  unfold Graph.groupClauses at hc ⊢
  obtain ⟨ks, hks, hc⟩ := Outcome.bind_eq_ok.1 hc
  refine Outcome.bind_eq_ok.2 ⟨ks, Outcome.mapM_eq_ok.2 ?_, hc⟩
  exact (Outcome.mapM_eq_ok.1 hks).imp fun _ _ => h.groupClause_mono m m'

/-- **The table of an entity is created by the statement that it was created by.** -/
theorem createTable_mono (he : e ∈ g.entities) {t? : Option CreateTable} (ht : g.createTable e = .ok t?) :
    g'.createTable e = .ok t? := by
  unfold Graph.createTable at ht ⊢
  cases htable : e.tableName with
  | none =>
    rw [htable] at ht
    exact ht
  | some table =>
    rw [htable] at ht
    obtain ⟨t, hc, rfl⟩ := Outcome.map_eq_ok.1 ht
    unfold Graph.createTableNamed at hc
    obtain ⟨stored, hs, hc⟩ := Outcome.bind_eq_ok.1 hc
    obtain ⟨uniques, hu, hc⟩ := Outcome.bind_eq_ok.1 hc
    obtain ⟨toParent, hp, hc⟩ := Outcome.bind_eq_ok.1 hc
    obtain ⟨toTargets, hg, hc⟩ := Outcome.bind_eq_ok.1 hc
    cases hc
    have hcolumns : stored.map g'.columnDefinition = stored.map g.columnDefinition := by
      refine List.map_congr_left fun s hsm => h.columnDefinition_eq m m' ?_
      obtain ⟨y, hy, hyc⟩ := m.mem_of_stored he hs hsm
      exact m.keepsType hy hyc
    refine Outcome.map_eq_ok.2 ⟨_, ?_, rfl⟩
    unfold Graph.createTableNamed
    rw [h.tableColumns_eq m m' he, h.parentClauses_eq m m' he, hs, ← hcolumns]
    refine Outcome.bind_eq_ok.2 ⟨stored, rfl, Outcome.bind_eq_ok.2 ⟨uniques, hu, ?_⟩⟩
    refine Outcome.bind_eq_ok.2 ⟨toParent, hp, ?_⟩
    exact Outcome.bind_eq_ok.2 ⟨toTargets, h.groupClauses_mono m m' hg, rfl⟩

/-! ## Join tables -/

theorem joinTable_mono {t : JoinTable} (ht : g.joinTable r = .ok t) : g'.joinTable r = .ok t := by
  obtain ⟨source, target, hs, htarget, -⟩ := Graph.joinTable_eq_ok ht
  have hbuild : JoinTable.build g' r source target = JoinTable.build g r source target := by
    unfold JoinTable.build JoinTable.sideTable
    rw [h.tableOf?_eq m m' (m.find?_eq_some_iff.1 hs).1, h.tableOf?_eq m m' (m.find?_eq_some_iff.1 htarget).1]
  unfold Graph.joinTable at ht ⊢
  rw [Graph.requireHeld_eq_ok.2 hs, Graph.requireHeld_eq_ok.2 htarget] at ht
  rw [Graph.requireHeld_eq_ok.2 (h.find?_mono m m' hs), Graph.requireHeld_eq_ok.2 (h.find?_mono m m' htarget)]
  split
  · rename_i hno
    rw [if_pos hno] at ht
    cases ht
  · rename_i hhas
    rw [if_neg hhas] at ht
    show (JoinTable.build g' r source target).mapError _ = _
    rw [hbuild]
    exact ht

/-- **The join table of a relationship is created by the statement that it was created by.** -/
theorem createJoinTableOf_mono {t : CreateTable} (ht : g.createJoinTableOf r = .ok t) :
    g'.createJoinTableOf r = .ok t := by
  obtain ⟨j, hj, ht⟩ := Outcome.bind_eq_ok.1 ht
  obtain ⟨source, target, hs, htarget, hb⟩ := Graph.joinTable_eq_ok hj
  obtain ⟨_, _, -, -, hdirect, hinverse, -, hsource, -⟩ := JoinTable.build_parts hb
  have hcolumns : j.columns.map g'.joinColumnDefinition = j.columns.map g.joinColumnDefinition := by
    refine List.map_congr_left fun col hcol => ?_
    unfold Graph.joinColumnDefinition
    rw [h.sqlType_eq m m' ?_]
    rcases List.mem_append.1 hcol with hcol | hcol
    · exact JoinTable.keepsType_of_group (m.find?_eq_some_iff.1 hs).1 hdirect col hcol
    · exact JoinTable.keepsType_of_group (m.find?_eq_some_iff.1 htarget).1 hinverse col hcol
  refine Outcome.bind_eq_ok.2 ⟨j, h.joinTable_mono m m' hj, ?_⟩
  unfold Graph.createJoinTable at ht ⊢
  rw [hsource] at ht ⊢
  obtain ⟨s, hsm, ht⟩ := Outcome.bind_eq_ok.1 ht
  obtain ⟨clauses, hc, ht⟩ := Outcome.bind_eq_ok.1 ht
  have hs' := h.find?_mono m m' (Graph.requireHeld_eq_ok.1 (Outcome.mapError_eq_ok.1 hsm))
  refine Outcome.bind_eq_ok.2 ⟨s, Outcome.mapError_eq_ok.2 (Graph.requireHeld_eq_ok.2 hs'), ?_⟩
  rw [hcolumns]
  exact Outcome.bind_eq_ok.2 ⟨clauses, h.groupClauses_mono m m' hc, ht⟩

/-! ## Whole scripts -/

/-- **The script of the larger catalog has the statements of the smaller one's**, in their order. -/
theorem sublist_of_schema {ts ts' : List CreateTable} (hts : g.schema = .ok ts) (hts' : g'.schema = .ok ts') :
    ts.Sublist ts' := by
  obtain ⟨tables, joins, ht, hj, rfl⟩ := Graph.schema_parts hts
  obtain ⟨tables', joins', ht', hj', rfl⟩ := Graph.schema_parts hts'
  have hentities := h.graph_entities m m'
  have hjoins : g'.joinTableRelationships = g.joinTableRelationships ++
      (entity cfg c' x).relationships.filter (·.hasJoinTable) := by
    unfold Graph.joinTableRelationships
    rw [hentities, List.flatMap_append, List.flatMap_singleton]
  rw [hentities] at ht'
  rw [hjoins] at hj'
  have htables : tables <+: tables' :=
    Outcome.prefix_of_forall₂ ht (fun e he _ => h.createTable_mono m m' he) ht'
  have hjoined : joins <+: joins' := Outcome.prefix_of_forall₂ hj (fun r _ _ => h.createJoinTableOf_mono m m') hj'
  exact (htables.sublist.filterMap id).append hjoined.sublist

end Catalog.Extends

namespace Database

/-- **An entity that the others do not mention changes nothing else.**  It has a new name and no registered ancestor; it
may itself refer to the others.  When all entities map with it as well as without, every other entity keeps its place
and all that it has been resolved to, every column of theirs its final shape, and the script without it is, statement by
statement, part of the script with it. -/
theorem unrelated_entity_changes_nothing (config : Config) {entities : List EntityDescriptor} {x : EntityDescriptor}
    (hnd : ((entities ++ [x]).map (·.typeName)).Nodup) (hunmentioned : ∀ d ∈ entities, ¬ d.Mentions x.typeName)
    (hroot : ∀ name ∈ x.ancestors, name ∉ entities.map (·.typeName)) :
    ∃ db db', registerAll { config } entities = .ok db ∧ registerAll { config } (entities ++ [x]) = .ok db' ∧
      (db.map.requireMapped = .ok () → db'.map.requireMapped = .ok () →
        (∃ e, e.descriptor = x ∧ db'.map.graph.entities = db.map.graph.entities ++ [e]) ∧
        (∀ e ∈ db.map.graph.entities, ∀ col ∈ e.columns,
          db'.map.graph.columnView col = db.map.graph.columnView col) ∧
        ∀ ts ts', db.map.schema = .ok ts → db'.map.schema = .ok ts' →
          (ts.map (·.render)).Sublist (ts'.map (·.render))) := by
  have hnd₀ : (entities.map (·.typeName)).Nodup := by
    rw [List.map_append] at hnd
    exact hnd.of_append_left
  obtain ⟨db, hreg, hconfig, hm, hentities⟩ := @registerAll_eq_ok entities { config } rfl hnd₀
  obtain ⟨db', hreg', hconfig', hm', hentities'⟩ := @registerAll_eq_ok (entities ++ [x]) { config } rfl hnd
  refine ⟨db, db', hreg, hreg', fun hmapped hmapped' => ?_⟩
  have m : Resolution.Maps db.config db.catalog db.map.graph := ⟨graph_map hm, (requireMapped_map hm).1 hmapped⟩
  have m' : Resolution.Maps db.config db'.catalog db'.map.graph := by
    rw [hconfig, ← hconfig']
    exact ⟨graph_map hm', (requireMapped_map hm').1 hmapped'⟩
  replace hentities : db.catalog.entities = entities := hentities
  replace hentities' : db'.catalog.entities = entities ++ [x] := hentities'
  have h : db'.catalog.Extends db.catalog x := by
    refine ⟨?_, ?_, m'.parent?_eq_none ?_ fun d hd hname => ?_⟩
    · rw [hentities', hentities]
    · rw [hentities]
      exact hunmentioned
    · rw [hentities']
      exact List.mem_append_right _ List.mem_cons_self
    · rw [hentities'] at hd
      rcases List.mem_append.1 hd with hd | hd
      · exact absurd (List.mem_map_of_mem hd) (hroot _ hname)
      · exact List.mem_singleton.1 hd
  refine ⟨⟨_, rfl, h.graph_entities m m'⟩, fun e he col hcol => ?_, fun ts ts' hts hts' => ?_⟩
  · unfold Graph.columnView
    rw [h.sqlType_eq m m' (m.keepsType he hcol)]
  · obtain ⟨_, -, hts⟩ := Outcome.bind_eq_ok.1 hts
    obtain ⟨_, -, hts'⟩ := Outcome.bind_eq_ok.1 hts'
    exact (h.sublist_of_schema m m' hts hts').map _

open FieldDescriptor in
/-- Someone who inspects a car of the fleet, and its garages. -/
def fleetInspector : EntityDescriptor where
  typeName := "Inspector"
  table := some { name := some "inspector" }
  fields := [(plain "id" .long).asId, reference "car" (.manyToOne "Car"), reference "garages" (.manyToMany "Garage")]

/-- The inspector adds a table and a join table to the script of the fleet. -/
theorem unrelated_entity_changes_nothing_fleet : ∃ db db',
    registerAll { config := { name := "fleet" } } fleetEntities = .ok db ∧
    registerAll { config := { name := "fleet" } } (fleetEntities ++ [fleetInspector]) = .ok db' ∧
    (∃ e, e.descriptor = fleetInspector ∧ db'.map.graph.entities = db.map.graph.entities ++ [e]) ∧
    ∃ ts ts', db.map.schema = .ok ts ∧ db'.map.schema = .ok ts' ∧
      (ts.map (·.render)).Sublist (ts'.map (·.render)) ∧
      ts.map (·.table) = ["vehicle", "car", "van", "person", "garage", "person_garage"] ∧
      ts'.map (·.table) =
        ["vehicle", "car", "van", "person", "garage", "inspector", "person_garage", "inspector_garage"] := by
  have hnd : ((fleetEntities ++ [fleetInspector]).map (·.typeName)).Nodup := by decide +kernel
  have hunmentioned : ∀ d ∈ fleetEntities, ¬ d.Mentions fleetInspector.typeName := by decide +kernel
  have hroot : ∀ name ∈ fleetInspector.ancestors, name ∉ fleetEntities.map (·.typeName) := by decide +kernel
  obtain ⟨db, db', hreg, hreg', h⟩ := unrelated_entity_changes_nothing { name := "fleet" } hnd hunmentioned hroot
  have hok : (registerAll { config := { name := "fleet" } } fleetEntities).toOption.bind
      (·.map.schema.toOption.map (·.map (·.table))) =
      some ["vehicle", "car", "van", "person", "garage", "person_garage"] := by decide +kernel
  have hok' : (registerAll { config := { name := "fleet" } } (fleetEntities ++ [fleetInspector])).toOption.bind
      (·.map.schema.toOption.map (·.map (·.table))) =
      some ["vehicle", "car", "van", "person", "garage", "inspector", "person_garage", "inspector_garage"] := by
    decide +kernel
  rw [hreg] at hok
  rw [hreg'] at hok'
  change db.map.schema.toOption.map (·.map (·.table)) = _ at hok
  change db'.map.schema.toOption.map (·.map (·.table)) = _ at hok'
  cases hts : db.map.schema with
  | error e => rw [hts] at hok; cases hok
  | ok ts =>
    cases hts' : db'.map.schema with
    | error e => rw [hts'] at hok'; cases hok'
    | ok ts' =>
      obtain ⟨_, hmapped, -⟩ := Outcome.bind_eq_ok.1 hts
      obtain ⟨_, hmapped', -⟩ := Outcome.bind_eq_ok.1 hts'
      obtain ⟨hentities, -, hscript⟩ := h hmapped hmapped'
      rw [hts] at hok
      rw [hts'] at hok'
      exact ⟨db, db', hreg, hreg', hentities, ts, ts', hts, hts', hscript ts ts' hts hts', Option.some.inj hok,
        Option.some.inj hok'⟩

end Database
end Ormap
