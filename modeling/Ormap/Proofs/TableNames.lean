import Mathlib.Data.List.Pairwise
import Mathlib.Data.Option.Basic
import Ormap.Proofs.Schema
/-!
# Table names — when a script creates no table twice

The tables of a mapped database are named by their entities and relationships one by one, each name declared or taken
from other names.  Nothing compares the names: a script that is worked out without fault may create one table twice.  It
creates every table once exactly when the names are apart (`Graph.TablesApart`).
-/
namespace Ormap

/-- The name that an entity gives its table: the declared one, or the one for its type name. -/
def Entity.givenTableName (e : Entity) : String :=
  (e.descriptor.table.bind (·.name)).getD (Naming.defaultTableName e.typeName)

namespace Graph

/-- The name of the join table of a relationship between entities with tables: the declared one, or the one for the two
tables. -/
def joinTableName? (g : Graph) (r : Relationship) : Option String :=
  ((g.find? r.source).bind g.tableOf?).bind fun sourceTable =>
    ((g.find? r.target).bind g.tableOf?).map fun targetTable =>
      (r.joinTable.bind (·.name)).getD (Naming.defaultJoinTableName sourceTable targetTable)

/-- Whether no two tables have one name. -/
structure TablesApart (g : Graph) : Prop where
  entities : ∀ e ∈ g.entities, ∀ x ∈ g.entities, e.tableName.isSome = true → e.tableName = x.tableName → e = x
  joinTables : g.joinTableRelationships.Pairwise fun r s => g.joinTableName? r ≠ g.joinTableName? s
  apart : ∀ e ∈ g.entities, e.tableName.isSome = true → ∀ r ∈ g.joinTableRelationships,
    e.tableName ≠ g.joinTableName? r

variable {g : Graph} {e : Entity} {r : Relationship} {ts : List CreateTable}

/-! ## The names in a script -/

theorem table_of_createTable {t? : Option CreateTable} (h : g.createTable e = .ok t?) :
    t?.map (·.table) = e.tableName := by
  cases t? with
  | some t => exact (createTable_eq_ok h).1.symm
  | none =>
    unfold createTable at h
    split at h
    · rename_i hn
      exact hn.symm
    · obtain ⟨t, -, h⟩ := Outcome.map_eq_ok.1 h
      cases h

theorem joinTableName?_eq {t : JoinTable} (h : g.joinTable r = .ok t) : g.joinTableName? r = some t.name := by
  obtain ⟨source, target, hs, ht, hb⟩ := joinTable_eq_ok h
  obtain ⟨sourceTable, targetTable, hst, htt, -, -, hname, -⟩ := JoinTable.build_parts hb
  unfold joinTableName?
  rw [hs, ht, Option.bind_some, Option.bind_some, JoinTable.sideTable_eq_ok hst, JoinTable.sideTable_eq_ok htt, hname]
  cases r.joinTable <;> rfl

/-- The creation of a join table has the name and the columns of the table. -/
theorem createJoinTableOf_eq_ok {t : CreateTable} (h : g.createJoinTableOf r = .ok t) :
    ∃ j, g.joinTable r = .ok j ∧ t.table = j.name ∧ t.columnNames = j.columns.map (·.name) := by
  obtain ⟨j, source, hj, -, htable, hcolumns, -⟩ := createJoinTableOf_parts h
  refine ⟨j, hj, htable, ?_⟩
  unfold CreateTable.columnNames
  rw [hcolumns, List.map_map]
  rfl

/-- **The tables of a script, in order**: those of the entities that have one, then the join tables. -/
theorem table_names (h : g.schema = .ok ts) :
    ts.map (some ·.table) = (g.entities.filterMap (·.tableName)).map some
      ++ g.joinTableRelationships.map g.joinTableName? := by
  obtain ⟨tables, joins, ht, hj, rfl⟩ := schema_parts h
  have hentities : tables.map (Option.map (·.table)) = g.entities.map (·.tableName) :=
    Outcome.map_eq_of_forall₂ (fun _ _ hc => table_of_createTable hc) ht
  have hjoins : joins.map (some ·.table) = g.joinTableRelationships.map g.joinTableName? := by
    refine Outcome.map_eq_of_forall₂ (fun r t hc => ?_) hj
    obtain ⟨j, hjt, hname, -⟩ := createJoinTableOf_eq_ok hc
    rw [joinTableName?_eq hjt, hname]
  have hnames : (tables.filterMap id).map (·.table) = g.entities.filterMap (·.tableName) := by
    have h := congrArg (List.filterMap id) hentities
    rw [List.filterMap_map, List.filterMap_map] at h
    rw [List.map_filterMap]
    exact h
  rw [List.map_append, hjoins, ← hnames, List.map_map]
  rfl

/-- The layout of a table as its creation says it. -/
def layoutOf (t : CreateTable) : TableLayout where
  table := t.table
  columns := t.columnNames

/-- **The layout lists what the script creates.** -/
theorem layout_of_schema (h : g.schema = .ok ts) : g.layout = .ok (ts.map layoutOf) := by
  obtain ⟨tables, joins, ht, hj, rfl⟩ := schema_parts h
  have hentities : g.entities.mapM g.entityLayout = .ok (tables.map (Option.map layoutOf)) := by
    refine Outcome.mapM_eq_ok.2 (List.forall₂_map_right_iff.2 (ht.imp fun e t? hc => ?_))
    cases t? with
    | none =>
      unfold entityLayout
      rw [← table_of_createTable hc]
      rfl
    | some t =>
      obtain ⟨hname, stored, -, -, hs, hcols, -⟩ := createTable_eq_ok hc
      unfold entityLayout
      rw [hname, hs]
      show Except.ok (some _) = Except.ok (some (layoutOf t))
      unfold layoutOf
      rw [hcols]
  have hjoins : g.joinTableRelationships.mapM g.joinTableLayout = .ok (joins.map layoutOf) := by
    refine Outcome.mapM_eq_ok.2 (List.forall₂_map_right_iff.2 (hj.imp fun r t hc => ?_))
    obtain ⟨j, hjt, hname, hcols⟩ := createJoinTableOf_eq_ok hc
    unfold joinTableLayout layoutOf
    rw [hjt, hname, hcols]
    rfl
  unfold layout
  rw [hentities, hjoins, List.map_append, List.map_filterMap, Outcome.bind_eq_ok]
  refine ⟨_, rfl, ?_⟩
  show Except.ok ((tables.map (Option.map layoutOf)).filterMap id ++ joins.map layoutOf) = _
  rw [List.filterMap_map]
  rfl

/-! ## Names apart -/

/-- Of distinct items no two give one name when equal names come from equal items. -/
theorem nodup_filterMap_iff {f : α → Option β} {l : List α} (hl : l.Nodup) :
    (l.filterMap f).Nodup ↔ ∀ a ∈ l, ∀ b ∈ l, (f a).isSome = true → f a = f b → a = b := by
  unfold List.Nodup
  rw [List.pairwise_filterMap]
  constructor
  · intro h a ha b hb hsome hab
    obtain ⟨y, hy⟩ := Option.isSome_iff_exists.1 hsome
    by_contra hne
    have hsymm : Std.Symm fun a b : α => ∀ y, f a = some y → ∀ z, f b = some z → y ≠ z :=
      ⟨fun _ _ h z hz y hy hyz => h y hy z hz hyz.symm⟩
    exact h.forall ha hb hne y hy y (hab.symm.trans hy) rfl
  · intro h
    refine hl.imp_of_mem fun {a b} ha hb hne y hy z hz hyz => ?_
    exact hne (h a ha b hb (by rw [hy]; rfl) (by rw [hy, hz, hyz]))

/-- **A script creates every table once exactly when the names are apart.** -/
theorem nodup_tables_iff (hnd : g.entities.Nodup) (h : g.schema = .ok ts) :
    (ts.map (·.table)).Nodup ↔ g.TablesApart := by
  -- the name of a join table is an option to the graph, so all names are compared as options
  have hinj := Option.some_injective String
  have hsome : (ts.map (·.table)).Nodup ↔ (ts.map (some ·.table)).Nodup := by
    rw [← List.nodup_map_iff hinj, List.map_map]
    rfl
  rw [hsome, table_names h, List.nodup_append, List.nodup_map_iff hinj, nodup_filterMap_iff hnd]
  constructor
  · rintro ⟨hentities, hjoins, hapart⟩
    refine ⟨hentities, List.pairwise_map.1 hjoins, fun e he hsome r hr => ?_⟩
    obtain ⟨table, ht⟩ := Option.isSome_iff_exists.1 hsome
    rw [ht]
    exact hapart _ (List.mem_map_of_mem (List.mem_filterMap.2 ⟨e, he, ht⟩)) _ (List.mem_map_of_mem hr)
  · intro a
    refine ⟨a.entities, List.pairwise_map.2 a.joinTables, ?_⟩
    intro name hname name' hname'
    obtain ⟨table, htable, rfl⟩ := List.mem_map.1 hname
    obtain ⟨e, he, ht⟩ := List.mem_filterMap.1 htable
    obtain ⟨r, hr, rfl⟩ := List.mem_map.1 hname'
    rw [← ht]
    exact a.apart e he (by rw [ht]; rfl) r hr

end Graph

namespace Resolution

variable {cfg : Config} {c : Catalog} {g : Graph} {e : Entity}

/-- **An entity that has a table gives it its name.** -/
theorem Maps.tableName_eq (m : Maps cfg c g) (he : e ∈ g.entities) {table : String} (ht : e.tableName = some table) :
    table = e.givenTableName := by
  obtain rfl := m.graph_eq
  obtain ⟨d, up, o, base, cols, given, rfl, s⟩ := m.exists_settled he
  rw [s.entity_tableName] at ht
  have hname := (outline_eq_ok.1 s.outline).2.1
  rw [ht] at hname
  unfold tableNameOf at hname
  unfold Entity.givenTableName
  split at hname
  · split at hname
    · rename_i declared hd
      rw [entity_descriptor, hd]
      cases hname
      rfl
    · cases hname
  · cases hname

theorem Maps.tableNames_eq (m : Maps cfg c g) :
    g.entities.filterMap (·.tableName) = (g.entities.filter (·.tableName.isSome)).map (·.givenTableName) := by
  rw [← List.filterMap_eq_map, List.filterMap_filter]
  refine List.filterMap_congr fun e he => ?_
  cases ht : e.tableName with
  | none => rfl
  | some table => exact congrArg some (m.tableName_eq he ht)

end Resolution

namespace Database

/-- **When the script of a mapped database creates no table twice.**  The layout lists the tables that the script
creates: those of the entities that have one, under the names that these give, then the join tables.  No name comes
twice exactly when no two entities with a table, no two relationships with a join table and no entity and relationship
name one table. -/
theorem tables_created_once_iff {db : Database} (h : db.Mapped) {ts : List CreateTable} (hs : db.schema = .ok ts) :
    db.layout = .ok (ts.map Graph.layoutOf) ∧
    ts.map (some ·.table) = (db.graph.entities.filter (·.tableName.isSome)).map (some ·.givenTableName)
      ++ db.graph.joinTableRelationships.map db.graph.joinTableName? ∧
    ((ts.map (·.table)).Nodup ↔ db.graph.TablesApart) := by
  have m := h.maps
  obtain ⟨u, -, hts⟩ := Outcome.bind_eq_ok.1 hs
  have hnd : db.graph.entities.Nodup := m.distinct.of_map _
  refine ⟨Outcome.bind_eq_ok.2 ⟨(), h.outcome, Graph.layout_of_schema hts⟩, ?_, Graph.nodup_tables_iff hnd hts⟩
  rw [Graph.table_names hts, m.tableNames_eq, List.map_map]
  rfl

/-- The six tables of the fleet have six names. -/
theorem tables_created_once_fleet : ∃ ts, fleet.schema = .ok ts ∧ fleet.layout = .ok (ts.map Graph.layoutOf) ∧
    ts.map (·.table) = ["vehicle", "car", "van", "person", "garage", "person_garage"] ∧
    ts.map (some ·.table) = (fleet.graph.entities.filter (·.tableName.isSome)).map (some ·.givenTableName)
      ++ fleet.graph.joinTableRelationships.map fleet.graph.joinTableName? ∧ fleet.graph.TablesApart := by
  have hok : fleet.schema.toOption.map (·.map (·.table)) =
      some ["vehicle", "car", "van", "person", "garage", "person_garage"] := by decide +kernel
  cases hs : fleet.schema with
  | error e => rw [hs] at hok; cases hok
  | ok ts =>
    rw [hs] at hok
    have htables : ts.map (·.table) = _ := Option.some.inj hok
    obtain ⟨hlayout, hnames, hiff⟩ := tables_created_once_iff fleet_mapped hs
    exact ⟨ts, rfl, hlayout, htables, hnames, hiff.1 (by rw [htables]; decide)⟩

/-! ## Two join tables of one name

A student takes courses and has favourites among them.  Neither relationship names its join table. -/

open FieldDescriptor in
def schoolEntities : List EntityDescriptor := [
  { typeName := "Student", table := some {},
    fields := [(plain "id" .long).asId, reference "courses" (.manyToMany "Course"),
      reference "favourites" (.manyToMany "Course")] },
  { typeName := "Course", table := some {}, fields := [(plain "id" .long).asId] }]

def schoolEntries : Except ConfigurationError Database := ofEntities { name := "school" } schoolEntities

theorem schoolEntries_isSome : schoolEntries.toOption.isSome = true := by decide +kernel

def school : Database := (schoolEntries.toOption.get schoolEntries_isSome).map

theorem school_mapped : school.Mapped :=
  ⟨(reachable_ofEntities (Outcome.eq_ok_get schoolEntries_isSome)).map, by decide +kernel⟩

/-- **The script of the school creates one table twice**, and the layout lists it twice. -/
theorem join_table_created_twice : school.Mapped ∧ ∃ ts layout, school.schema = .ok ts ∧ school.layout = .ok layout ∧
    ts.map (·.table) = ["student", "course", "student_course", "student_course"] ∧
    layout.map (·.table) = ts.map (·.table) ∧ ¬ (ts.map (·.table)).Nodup := by
  have hschema : school.schema.toOption.map (·.map (·.table)) =
      some ["student", "course", "student_course", "student_course"] := by decide +kernel
  have hlayout : school.layout.toOption.map (·.map (·.table)) =
      some ["student", "course", "student_course", "student_course"] := by decide +kernel
  refine ⟨school_mapped, ?_⟩
  cases hs : school.schema with
  | error e => rw [hs] at hschema; cases hschema
  | ok ts =>
    cases hl : school.layout with
    | error e => rw [hl] at hlayout; cases hlayout
    | ok layout =>
      rw [hs] at hschema
      rw [hl] at hlayout
      have htables : ts.map (·.table) = _ := Option.some.inj hschema
      have hlisted : layout.map (·.table) = _ := Option.some.inj hlayout
      exact ⟨ts, layout, rfl, rfl, htables, hlisted.trans htables.symm, by rw [htables]; decide⟩

end Database
end Ormap
