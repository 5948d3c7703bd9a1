import Ormap.Proofs.Lifecycle
import Ormap.Proofs.Tables
/-!
# Schemas — every clause of a script names columns that exist

The columns that the clauses of a statement name are columns that it defines, and a foreign key refers to a table that
the same script creates, column by column.  The column referred to is one of the target entity, and the table referred
to is the one that the target lives in: they meet because that table stores a column of every name that the target has.
-/
namespace Ormap

/-- Whether a script creates the table that a foreign key refers to, with all columns that the key refers to. -/
structure ForeignKeyClause.Resolves (k : ForeignKeyClause) (script : List CreateTable) : Prop where
  length_eq : k.columns.length = k.referenced.length
  created : ∃ s ∈ script, s.table = k.table ∧ ∀ n ∈ k.referenced, n ∈ s.columnNames

/-- Whether the clauses of a statement name only columns that exist in the tables of a script. -/
structure CreateTable.Closed (t : CreateTable) (script : List CreateTable) : Prop where
  primaryKey : ∀ n ∈ t.primaryKey, n ∈ t.columnNames
  uniques : ∀ u ∈ t.uniques, ∀ n ∈ u, n ∈ t.columnNames
  foreignKeys : ∀ k ∈ t.foreignKeys, ∀ n ∈ k.columns, n ∈ t.columnNames
  resolves : ∀ k ∈ t.foreignKeys, k.Resolves script

namespace Column

/-- Whether a foreign-key column refers to a column of an entity. -/
def RefersTo (c : Column) (target : Entity) : Prop :=
  ∃ key, c.foreignKey? = some key ∧ key.entity = target.typeName ∧ ∃ rc ∈ target.columns, rc.name = key.referenced

theorem RefersTo.isForeignKey {c : Column} {target : Entity} (h : c.RefersTo target) : c.isForeignKey = true := by
  obtain ⟨key, hk, -⟩ := h
  rw [Column.isForeignKey, hk]
  rfl

/-- Foreign-key columns refer to as many columns. -/
theorem length_foreignKeys : ∀ {cols : List Column}, (∀ c ∈ cols, c.isForeignKey = true) →
    (cols.filterMap (·.foreignKey?)).length = cols.length
  | [], _ => rfl
  | c :: cs, h => by
    obtain ⟨key, hk⟩ := Option.isSome_iff_exists.1 (h c List.mem_cons_self)
    have hrest := length_foreignKeys fun b hb => h b (List.mem_cons_of_mem _ hb)
    rw [List.filterMap_cons_some hk, List.length_cons, List.length_cons, hrest]

end Column

namespace Graph

variable {g : Graph} {e source target : Entity}

/-! ## What the steps of a script give -/

theorem createTable_eq_ok {t : CreateTable} (h : g.createTable e = .ok (some t)) :
    e.tableName = some t.table ∧ ∃ stored toParent toTargets, g.tableColumns e = .ok stored ∧
      t.columnNames = stored.map (·.column.name) ∧ t.primaryKey = e.primaryKeys.map (·.name) ∧
      uniqueClauses e (stored.map (·.column.name)) = .ok t.uniques ∧ g.parentClauses e = .ok toParent ∧
      g.groupClauses e (foreignKeyGroups (stored.map (·.column))) = .ok toTargets ∧
      t.foreignKeys = toParent ++ toTargets := by
  unfold createTable at h
  split at h
  · cases h
  rename_i table ht
  obtain ⟨t', hc, h⟩ := Outcome.map_eq_ok.1 h
  cases h
  unfold createTableNamed at hc
  obtain ⟨stored, hs, hc⟩ := Outcome.bind_eq_ok.1 hc
  obtain ⟨uniques, hu, hc⟩ := Outcome.bind_eq_ok.1 hc
  obtain ⟨toParent, hp, hc⟩ := Outcome.bind_eq_ok.1 hc
  obtain ⟨toTargets, hg, hc⟩ := Outcome.bind_eq_ok.1 hc
  cases hc
  refine ⟨ht, stored, toParent, toTargets, hs, ?_, rfl, Outcome.mapError_eq_ok.1 hu, hp, hg, rfl⟩
  unfold CreateTable.columnNames
  rw [List.map_map]
  rfl

/-- A table defines the columns that it stores, in their order. -/
theorem columns_of_createTable {t : CreateTable} (h : g.createTable e = .ok (some t)) {stored : List StoredColumn}
    (hs : g.tableColumns e = .ok stored) : t.columns = stored.map g.columnDefinition := by
  unfold createTable at h
  split at h
  · cases h
  obtain ⟨t', hc, h⟩ := Outcome.map_eq_ok.1 h
  cases h
  unfold createTableNamed at hc
  obtain ⟨stored', hs', hc⟩ := Outcome.bind_eq_ok.1 hc
  obtain ⟨uniques, -, hc⟩ := Outcome.bind_eq_ok.1 hc
  obtain ⟨toParent, -, hc⟩ := Outcome.bind_eq_ok.1 hc
  obtain ⟨toTargets, -, hc⟩ := Outcome.bind_eq_ok.1 hc
  cases hc
  cases hs.symm.trans hs'
  rfl

theorem mem_of_uniqueClauses {stored : List String} {uniques : List (List String)}
    (h : uniqueClauses e stored = .ok uniques) : ∀ u ∈ uniques, ∀ n ∈ u, n ∈ stored := by
  intro u hu n hn
  obtain ⟨u', -, hu'⟩ := Outcome.exists_of_mem_right (Outcome.mapM_eq_ok.1 h) u hu
  split at hu'
  · cases hu'
  · rename_i hf
    cases hu'
    simpa using List.find?_eq_none.1 hf n hn

theorem referencedTable_eq_ok {table : String} (h : g.referencedTable source target = .ok table) :
    g.tableOf? target = some table := by
  unfold referencedTable at h
  split at h
  · cases h
    assumption
  · cases h

/-- The clause of a joined table to that of the parent, where there is one. -/
theorem parentClauses_eq_ok {clauses : List ForeignKeyClause} (h : g.parentClauses e = .ok clauses) :
    clauses = [] ∧ (e.strategy = .joined → g.parent? e = none) ∨
    ∃ p table, e.strategy = .joined ∧ g.parent? e = some p ∧ g.tableOf? p = some table ∧ clauses = [{
      columns := e.primaryKeys.map (·.name)
      table
      referenced := e.primaryKeys.map (·.name)
      onUpdate := .cascade
      onDelete := .cascade }] := by
  unfold parentClauses at h
  split at h
  · rename_i name hs hn
    obtain ⟨p, hp, h⟩ := Outcome.bind_eq_ok.1 h
    obtain ⟨table, htable, h⟩ := Outcome.bind_eq_ok.1 h
    cases h
    have hf : g.parent? e = some p := by
      rw [parent?, hn, Option.bind_some, requireHeld_eq_ok.1 (Outcome.mapError_eq_ok.1 hp)]
    exact Or.inr ⟨p, table, hs, hf, referencedTable_eq_ok (Outcome.mapError_eq_ok.1 htable), rfl⟩
  · rename_i hno
    cases h
    refine Or.inl ⟨rfl, fun hs => ?_⟩
    cases hn : e.parent with
    | none =>
      rw [parent?, hn]
      rfl
    | some name => exact absurd hn (hno name hs)

/-- **The clause of a foreign key** refers to the table that the target of its first column lives in. -/
theorem groupClause_eq_ok {group : List Column} {first : Column} {key : ForeignKey}
    (hfirst : group.head? = some first) (hkey : first.foreignKey? = some key)
    (ht : g.find? key.entity = some target) {k? : Option ForeignKeyClause}
    (h : g.groupClause source group = .ok k?) : ∃ k, k? = some k ∧ g.tableOf? target = some k.table ∧
      k.columns = group.map (·.name) ∧ k.referenced = (group.filterMap (·.foreignKey?)).map (·.referenced) ∧
      k.onUpdate = key.onUpdate ∧ k.onDelete = key.onDelete := by
  unfold groupClause at h
  rw [hfirst, Option.bind_some, hkey] at h
  obtain ⟨target', ht', h⟩ := Outcome.bind_eq_ok.1 h
  cases ht.symm.trans (requireHeld_eq_ok.1 (Outcome.mapError_eq_ok.1 ht'))
  obtain ⟨table, htable, h⟩ := Outcome.bind_eq_ok.1 h
  cases h
  exact ⟨_, rfl, referencedTable_eq_ok (Outcome.mapError_eq_ok.1 htable), rfl, rfl, rfl, rfl⟩

theorem mem_of_groupClauses {groups : List (List Column)} {clauses : List ForeignKeyClause}
    (h : g.groupClauses source groups = .ok clauses) {k : ForeignKeyClause} (hk : k ∈ clauses) :
    ∃ group ∈ groups, g.groupClause source group = .ok (some k) := by
  unfold groupClauses at h
  obtain ⟨ks, hks, h⟩ := Outcome.bind_eq_ok.1 h
  cases h
  obtain ⟨k', hk', hkk⟩ := List.mem_filterMap.1 hk
  cases hkk
  exact Outcome.exists_of_mem_right (Outcome.mapM_eq_ok.1 hks) _ hk'

/-- **The parts of a script**: the statements of the entities with a table, then those of the join tables. -/
theorem schema_parts {ts : List CreateTable} (h : g.schema = .ok ts) : ∃ tables joins,
    List.Forall₂ (fun e t? => g.createTable e = .ok t?) g.entities tables ∧
    List.Forall₂ (fun r t => g.createJoinTableOf r = .ok t) g.joinTableRelationships joins ∧
    ts = tables.filterMap id ++ joins := by
  unfold schema at h
  obtain ⟨tables, ht, h⟩ := Outcome.bind_eq_ok.1 h
  obtain ⟨joins, hj, h⟩ := Outcome.bind_eq_ok.1 h
  cases h
  exact ⟨tables, joins, Outcome.mapM_eq_ok.1 ht, Outcome.mapM_eq_ok.1 hj, rfl⟩

/-- **The statements of a script** are those of the entities with a table and those of the join tables. -/
theorem schema_eq_ok {ts : List CreateTable} (h : g.schema = .ok ts) :
    (∀ t, t ∈ ts ↔ (∃ e ∈ g.entities, g.createTable e = .ok (some t)) ∨
      ∃ r ∈ g.joinTableRelationships, g.createJoinTableOf r = .ok t) ∧
    ∀ e ∈ g.entities, ∃ t?, g.createTable e = .ok t? := by
  obtain ⟨tables, joins, ht, hj, rfl⟩ := schema_parts h
  refine ⟨fun t => ?_, fun e he => ?_⟩
  · rw [List.mem_append]
    refine or_congr ⟨fun hm => ?_, fun ⟨e, he, hc⟩ => ?_⟩ ⟨fun hm => ?_, fun ⟨r, hr, hc⟩ => ?_⟩
    · obtain ⟨t?, hm, rfl⟩ := List.mem_filterMap.1 hm
      exact Outcome.exists_of_mem_right ht _ hm
    · obtain ⟨t?, hm, hc'⟩ := Outcome.exists_of_mem_left ht e he
      cases hc.symm.trans hc'
      exact List.mem_filterMap.2 ⟨_, hm, rfl⟩
    · exact Outcome.exists_of_mem_right hj t hm
    · obtain ⟨t', hm, hc'⟩ := Outcome.exists_of_mem_left hj r hr
      cases hc.symm.trans hc'
      exact hm
  · obtain ⟨t?, -, hc⟩ := Outcome.exists_of_mem_left ht e he
    exact ⟨t?, hc⟩

/-- The script creates the table of every entity that has one. -/
theorem exists_createTable {ts : List CreateTable} (hts : g.schema = .ok ts) (he : e ∈ g.entities)
    (ht : e.tableName.isSome = true) : ∃ t ∈ ts, g.createTable e = .ok (some t) := by
  obtain ⟨hmem, hall⟩ := schema_eq_ok hts
  obtain ⟨t?, hc⟩ := hall e he
  obtain ⟨table, htable⟩ := Option.isSome_iff_exists.1 ht
  cases t? with
  | none =>
    unfold createTable at hc
    rw [htable] at hc
    obtain ⟨t, -, hc⟩ := Outcome.map_eq_ok.1 hc
    cases hc
  | some t => exact ⟨t, (hmem t).2 (Or.inl ⟨e, he, hc⟩), hc⟩

end Graph

namespace JoinTable

theorem group_eq_ok {field : String} {declared : List JoinColumnDescriptor} {side : Entity} {table : String}
    {cols : List Column} (h : group field declared side table = .ok cols) : ∀ col ∈ cols, col.RefersTo side := by
  intro col hc
  unfold group at h
  obtain ⟨js, hj, h⟩ := Outcome.bind_eq_ok.1 h
  cases h
  obtain ⟨j, hjm, rfl⟩ := List.mem_map.1 hc
  exact ⟨_, rfl, rfl, j.referenced, Resolution.referenced_of_joinColumns hj j hjm, rfl⟩

theorem sideTable_eq_ok {g : Graph} {side : Entity} {table : String} (h : sideTable g side = .ok table) :
    g.tableOf? side = some table := by
  unfold sideTable at h
  split at h
  · cases h
    assumption
  · cases h

/-- What a join table is made of. -/
theorem build_parts {g : Graph} {r : Relationship} {source target : Entity} {t : JoinTable}
    (h : build g r source target = .ok t) : ∃ sourceTable targetTable,
      sideTable g source = .ok sourceTable ∧ sideTable g target = .ok targetTable ∧
      group r.field (r.joinTable.getD {}).joinColumns source sourceTable = .ok t.direct ∧
      group r.field (r.joinTable.getD {}).inverseJoinColumns target targetTable = .ok t.inverse ∧
      t.name = (r.joinTable.getD {}).name.getD (Naming.defaultJoinTableName sourceTable targetTable) ∧
      t.source = r.source ∧ t.checkDistinct = .ok () := by
  unfold build at h
  obtain ⟨sourceTable, hs, h⟩ := Outcome.bind_eq_ok.1 h
  obtain ⟨targetTable, ht, h⟩ := Outcome.bind_eq_ok.1 h
  obtain ⟨direct, hd, h⟩ := Outcome.bind_eq_ok.1 h
  obtain ⟨inverse, hi, h⟩ := Outcome.bind_eq_ok.1 h
  obtain ⟨u, hc, h⟩ := Outcome.bind_eq_ok.1 h
  cases h
  exact ⟨sourceTable, targetTable, hs, ht, hd, hi, rfl, rfl, hc⟩

/-- **Each side of a join table refers to columns of its entity.** -/
theorem build_eq_ok {g : Graph} {r : Relationship} {source target : Entity} {t : JoinTable}
    (h : build g r source target = .ok t) : t.source = r.source ∧ (∀ col ∈ t.direct, col.RefersTo source) ∧
      (∀ col ∈ t.inverse, col.RefersTo target) ∧ (t.columns.map (·.name)).Nodup := by
  obtain ⟨sourceTable, targetTable, -, -, hd, hi, -, hsource, hc⟩ := build_parts h
  refine ⟨hsource, group_eq_ok hd, group_eq_ok hi, ?_⟩
  unfold checkDistinct at hc
  split at hc
  · cases hc
  · rename_i hf
    exact Column.firstRepeated_eq_none.1 hf

end JoinTable

namespace Graph

theorem joinTable_eq_ok {g : Graph} {r : Relationship} {t : JoinTable} (h : g.joinTable r = .ok t) :
    ∃ source target, g.find? r.source = some source ∧ g.find? r.target = some target ∧
      JoinTable.build g r source target = .ok t := by
  unfold joinTable at h
  split at h
  · cases h
  obtain ⟨source, hs, h⟩ := Outcome.bind_eq_ok.1 h
  obtain ⟨target, ht, h⟩ := Outcome.bind_eq_ok.1 h
  exact ⟨source, target, requireHeld_eq_ok.1 (Outcome.mapError_eq_ok.1 hs),
    requireHeld_eq_ok.1 (Outcome.mapError_eq_ok.1 ht), Outcome.mapError_eq_ok.1 h⟩

/-- What the creation of a join table is made of. -/
theorem createJoinTableOf_parts {g : Graph} {r : Relationship} {t : CreateTable} (h : g.createJoinTableOf r = .ok t) :
    ∃ j source, g.joinTable r = .ok j ∧ g.find? j.source = some source ∧ t.table = j.name ∧
      t.columns = j.columns.map g.joinColumnDefinition ∧ t.primaryKey = j.columns.map (·.name) ∧ t.uniques = [] ∧
      g.groupClauses source [j.direct, j.inverse] = .ok t.foreignKeys := by
  obtain ⟨j, hj, h⟩ := Outcome.bind_eq_ok.1 h
  obtain ⟨source, hs, h⟩ := Outcome.bind_eq_ok.1 h
  obtain ⟨clauses, hc, h⟩ := Outcome.bind_eq_ok.1 h
  cases h
  exact ⟨j, source, hj, requireHeld_eq_ok.1 (Outcome.mapError_eq_ok.1 hs), rfl, rfl, rfl, rfl, hc⟩

end Graph

namespace Resolution
namespace Maps

variable {cfg : Config} {c : Catalog} {g : Graph} {e source target : Entity} {ts : List CreateTable}
  (m : Maps cfg c g)
include m

/-! ## Where foreign keys lead -/

/-- **The table that an entity lives in is created by the script**, with a column of every name of the entity. -/
theorem exists_statement (hts : g.schema = .ok ts) (ht : target ∈ g.entities) {table : String}
    (h : g.tableOf? target = some table) :
    ∃ s ∈ ts, s.table = table ∧ ∀ col ∈ target.columns, col.name ∈ s.columnNames := by
  obtain ⟨o, ho, hot⟩ := Graph.tableOf?_eq_some.1 h
  obtain ⟨s, hs, hc⟩ := Graph.exists_createTable hts (m.tableOwner_mem ht ho) ((m.tableOwner_eq_ok ht).1 ho).2
  obtain ⟨hst, stored, -, -, hstored, hnames, -⟩ := Graph.createTable_eq_ok hc
  refine ⟨s, hs, Option.some.inj (hst.symm.trans hot), fun col hcol => ?_⟩
  rw [hnames]
  exact m.name_stored ht ho hstored hcol

/-- **A clause over columns that refer to one entity resolves in the script.** -/
theorem groupClause_resolves (hts : g.schema = .ok ts) (ht : target ∈ g.entities) {group : List Column}
    (hg : ∀ col ∈ group, col.RefersTo target) {k : ForeignKeyClause}
    (h : g.groupClause source group = .ok (some k)) : k.columns = group.map (·.name) ∧ k.Resolves ts := by
  cases group with
  | nil => cases h
  | cons first rest =>
  -- the first column gives the target, which is that of all columns
  obtain ⟨key, hkey, hent, -⟩ := hg first List.mem_cons_self
  have hf : g.find? key.entity = some target := by rw [hent, m.find?_typeName ht]
  obtain ⟨k', hk', htable, hcolumns, hreferenced, -⟩ := Graph.groupClause_eq_ok rfl hkey hf h
  cases hk'
  obtain ⟨s, hs, hst, hnames⟩ := m.exists_statement hts ht htable
  refine ⟨hcolumns, ?_, s, hs, hst, ?_⟩
  · rw [hcolumns, hreferenced, List.length_map, List.length_map,
      Column.length_foreignKeys fun col hc => (hg col hc).isForeignKey]
  · rw [hreferenced]
    intro n hn
    obtain ⟨k, hk, rfl⟩ := List.mem_map.1 hn
    obtain ⟨col, hcol, hck⟩ := List.mem_filterMap.1 hk
    obtain ⟨k', hk', -, rc, hrc, hname⟩ := hg col hcol
    cases hck.symm.trans hk'
    rw [← hname]
    exact hnames rc hrc

/-- **The foreign key of a joined table to its parent's resolves**, over keys of one name on both sides. -/
theorem parentClauses_resolves (hts : g.schema = .ok ts) (he : e ∈ g.entities) {clauses : List ForeignKeyClause}
    (h : g.parentClauses e = .ok clauses) {k : ForeignKeyClause} (hk : k ∈ clauses) :
    k.columns = e.primaryKeys.map (·.name) ∧ k.Resolves ts := by
  obtain ⟨rfl, -⟩ | ⟨p, table, -, hp, htable, rfl⟩ := Graph.parentClauses_eq_ok h
  · cases hk
  · cases List.mem_singleton.1 hk
    obtain ⟨s, hs, hst, hnames⟩ := m.exists_statement hts (m.mem_of_parent? hp) htable
    refine ⟨rfl, rfl, s, hs, hst, fun n hn => ?_⟩
    rw [m.keyNames_child he hp] at hn
    obtain ⟨col, hcol, rfl⟩ := List.mem_map.1 hn
    exact hnames col (List.mem_filter.1 hcol).1

/-- **The columns of one foreign key refer to one entity**, where no field name repeats. -/
theorem foreignKeyGroups_refersTo (hf : ∀ d ∈ c.entities, (d.fields.map (·.name)).Nodup) {cols : List Column}
    (hcols : ∀ col ∈ cols, ∃ x ∈ g.entities, col ∈ x.columns) {group : List Column}
    (hg : group ∈ Graph.foreignKeyGroups cols) :
    (∀ col ∈ group, col ∈ cols) ∧ ∃ target ∈ g.entities, ∀ col ∈ group, col.RefersTo target := by
  -- a foreign-key column is known by the entity that declares it and the relationship that produces it
  have hown : ∀ col ∈ cols, ∀ name, Graph.groupKey? col = some name → ∃ y ∈ g.entities, y.typeName = name.entity ∧
      ∃ r ∈ y.relationships, r.field = name.field ∧ ∃ t ∈ g.entities, t.typeName = r.target ∧ col.RefersTo t := by
    intro col hcol name hname
    obtain ⟨key, hkey, rfl⟩ := Option.map_eq_some_iff.1 hname
    obtain ⟨x, hx, hxc⟩ := hcols col hcol
    obtain ⟨y, hy, hyc, hyk, hdecl⟩ := m.foreignKey_of_mem hx hxc hkey
    have hym := m.mem_of_ancestry hx hy
    obtain ⟨-, r, hr, -, hrel, hent, t, ht, htn, rc, hrc, -, hrn, -⟩ := m.own_foreignKey hym hyc hyk
    exact ⟨y, hym, hdecl.symm, r, hr, hrel.symm, t, ht, htn, key, hkey, hent.trans htn.symm, rc, hrc, hrn⟩
  obtain ⟨name, hname, rfl⟩ := List.mem_map.1 hg
  rw [List.mem_eraseDups] at hname
  obtain ⟨first, hfirst, hfn⟩ := List.mem_filterMap.1 hname
  obtain ⟨y, hy, hyn, r, hr, hrf, t, ht, htn, -⟩ := hown first hfirst name hfn
  refine ⟨fun col hcol => (List.mem_filter.1 hcol).1, t, ht, fun col hcol => ?_⟩
  obtain ⟨hcol, hcn⟩ := List.mem_filter.1 hcol
  obtain ⟨y', hy', hyn', r', hr', hrf', t', ht', htn', href⟩ := hown col hcol name (by simpa using hcn)
  cases m.eq_of_typeName hy' hy (hyn'.trans hyn.symm)
  -- of one entity no two relationships have one field
  have hd : y.descriptor ∈ c.entities := by
    obtain rfl := m.graph_eq
    obtain ⟨d, hd, rfl⟩ := mem_graph.1 hy
    exact hd
  have hnd := Relationship.fields_nodup (m.relationships_eq hy) (hf _ hd)
  cases List.inj_on_of_nodup_map hnd hr' hr (hrf'.trans hrf.symm)
  cases m.eq_of_typeName ht' ht (htn'.trans htn.symm)
  exact href

/-! ## Statements -/

theorem createTable_closed (hts : g.schema = .ok ts) (hf : ∀ d ∈ c.entities, (d.fields.map (·.name)).Nodup)
    (he : e ∈ g.entities) {t : CreateTable} (h : g.createTable e = .ok (some t)) : t.Closed ts := by
  obtain ⟨-, stored, toParent, toTargets, hs, hnames, hpk, hu, hp, hg, hk⟩ := Graph.createTable_eq_ok h
  have hkeys : ∀ n ∈ e.primaryKeys.map (·.name), n ∈ t.columnNames := by
    intro n hn
    obtain ⟨col, hcol, rfl⟩ := List.mem_map.1 hn
    rw [hnames]
    refine Graph.name_mem_of_column_mem ?_
    rw [(Graph.tableColumns_eq_ok hs).1]
    exact List.mem_append_left _ (List.mem_filter.1 hcol).1
  have hcols : ∀ col ∈ stored.map (·.column), ∃ x ∈ g.entities, col ∈ x.columns := by
    intro col hcol
    obtain ⟨sc, hsc, rfl⟩ := List.mem_map.1 hcol
    exact m.mem_of_stored he hs hsc
  -- a foreign key is that to the parent's table, or one over columns that refer to one entity
  have hclause : ∀ k ∈ t.foreignKeys, (∀ n ∈ k.columns, n ∈ t.columnNames) ∧ k.Resolves ts := by
    intro k hkm
    rw [hk] at hkm
    rcases List.mem_append.1 hkm with hkm | hkm
    · obtain ⟨hcs, hr⟩ := m.parentClauses_resolves hts he hp hkm
      rw [hcs]
      exact ⟨hkeys, hr⟩
    · obtain ⟨group, hgm, hgc⟩ := Graph.mem_of_groupClauses hg hkm
      obtain ⟨hsub, target, ht, href⟩ := m.foreignKeyGroups_refersTo hf hcols hgm
      obtain ⟨hcs, hr⟩ := m.groupClause_resolves hts ht href hgc
      refine ⟨fun n hn => ?_, hr⟩
      rw [hcs] at hn
      obtain ⟨col, hcol, rfl⟩ := List.mem_map.1 hn
      rw [hnames]
      exact Graph.name_mem_of_column_mem (hsub col hcol)
  refine ⟨?_, ?_, fun k hkm => (hclause k hkm).1, fun k hkm => (hclause k hkm).2⟩
  · rw [hpk]
    exact hkeys
  · rw [hnames]
    exact Graph.mem_of_uniqueClauses hu

theorem createJoinTable_closed (hts : g.schema = .ok ts) {r : Relationship} {t : CreateTable}
    (h : g.createJoinTableOf r = .ok t) : t.Closed ts := by
  obtain ⟨j, _, hj, -, -, hcolumns, hprimary, huniques, hc⟩ := Graph.createJoinTableOf_parts h
  obtain ⟨source, target, hs, ht, hb⟩ := Graph.joinTable_eq_ok hj
  obtain ⟨-, hd, hi, -⟩ := JoinTable.build_eq_ok hb
  have hnames : t.columnNames = j.columns.map (·.name) := by
    unfold CreateTable.columnNames
    rw [hcolumns, List.map_map]
    rfl
  have hclause : ∀ k ∈ t.foreignKeys, (∀ n ∈ k.columns, n ∈ j.columns.map (·.name)) ∧ k.Resolves ts := by
    intro k hk
    obtain ⟨group, hgm, hgc⟩ := Graph.mem_of_groupClauses hc hk
    obtain rfl | hgm := List.mem_cons.1 hgm
    · obtain ⟨hcs, hr⟩ := m.groupClause_resolves hts (m.find?_eq_some_iff.1 hs).1 hd hgc
      refine ⟨fun n hn => ?_, hr⟩
      rw [hcs] at hn
      unfold JoinTable.columns
      rw [List.map_append]
      exact List.mem_append_left _ hn
    · cases List.mem_singleton.1 hgm
      obtain ⟨hcs, hr⟩ := m.groupClause_resolves hts (m.find?_eq_some_iff.1 ht).1 hi hgc
      refine ⟨fun n hn => ?_, hr⟩
      rw [hcs] at hn
      unfold JoinTable.columns
      rw [List.map_append]
      exact List.mem_append_right _ hn
  refine ⟨?_, ?_, fun k hk => ?_, fun k hk => (hclause k hk).2⟩
  · rw [hprimary, hnames]
    exact fun n hn => hn
  · rw [huniques]
    intro u hu
    cases hu
  · rw [hnames]
    exact (hclause k hk).1

end Maps
end Resolution

namespace Database

/-- **The script of a mapped database is closed.**  Where no entity repeats a field name, every column that a clause
names is one that its statement defines, and every foreign key refers, column by column, to columns of a table that the
script creates. -/
theorem schema_closed {db : Database} (h : db.Mapped) (hf : ∀ d ∈ db.catalog.entities, (d.fields.map (·.name)).Nodup)
    {ts : List CreateTable} (hs : db.schema = .ok ts) : ∀ t ∈ ts, t.Closed ts := by
  have m := h.maps
  obtain ⟨u, -, hts⟩ := Outcome.bind_eq_ok.1 hs
  intro t ht
  rcases ((Graph.schema_eq_ok hts).1 t).1 ht with ⟨e, he, hc⟩ | ⟨r, -, hc⟩
  · exact m.createTable_closed hts hf he hc
  · exact m.createJoinTable_closed hts hc

/-- The script of the fleet has a table for each of three vehicles, one for all persons, one for garages and one for
the drivers' places. -/
theorem schema_closed_fleet : ∃ ts, fleet.schema = .ok ts ∧ (∀ t ∈ ts, t.Closed ts) ∧
    ts.map (fun t => (t.table, t.foreignKeys.map (·.table))) = [("vehicle", []), ("car", ["vehicle", "person"]),
      ("van", ["car"]), ("person", ["garage"]), ("garage", []), ("person_garage", ["person", "garage"])] := by
  have hok : fleet.schema.toOption.map (·.map fun t => (t.table, t.foreignKeys.map (·.table))) =
      some [("vehicle", []), ("car", ["vehicle", "person"]), ("van", ["car"]), ("person", ["garage"]), ("garage", []),
        ("person_garage", ["person", "garage"])] := by decide +kernel
  cases hs : fleet.schema with
  | error e => rw [hs] at hok; cases hok
  | ok ts =>
    rw [hs] at hok
    exact ⟨ts, rfl, schema_closed fleet_mapped (by decide +kernel) hs, Option.some.inj hok⟩

end Database
end Ormap
