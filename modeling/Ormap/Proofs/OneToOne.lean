import Ormap.Proofs.Schema
import Ormap.Proofs.Storing
/-!
# One-to-one relationships — when the schema enforces them

The table that stores the foreign-key columns of a one-to-one relationship has a unique column among them when they are
one, or when a join column is declared unique.  No clause is written over several of them, so that a foreign key to a
composite key tells no two rows apart unless a uniqueness constraint is declared over it
(`Database.one_to_one_enforced_iff`).
-/
namespace Ormap

/-- Whether a definition makes its column unique. -/
def ColumnShape.isUnique : ColumnShape → Bool
  | raw _ => false
  | typed _ _ unique _ => unique

/-- Whether a statement lets no two rows agree in all columns of the given names: one of them is unique, or a uniqueness
constraint or the primary key is over nothing but some of them. -/
def CreateTable.MakesUnique (t : CreateTable) (names : List String) : Prop :=
  (∃ d ∈ t.columns, d.name ∈ names ∧ d.shape.isUnique = true) ∨
  (∃ u ∈ t.uniques, u ≠ [] ∧ ∀ n ∈ u, n ∈ names) ∨
  t.primaryKey ≠ [] ∧ ∀ n ∈ t.primaryKey, n ∈ names

instance (t : CreateTable) (names : List String) : Decidable (t.MakesUnique names) :=
  inferInstanceAs (Decidable (_ ∨ _ ∨ _))

/-- The uniqueness constraints that an entity declares for its table. -/
def Entity.uniqueConstraints (e : Entity) : List (List String) := (e.descriptor.table.map (·.uniqueConstraints)).getD []

/-- Whether the table of an entity stores columns, each as it is or as a copy. -/
def Graph.Stores (g : Graph) (o : Entity) (cols : List Column) : Prop :=
  ∃ stored, g.tableColumns o = .ok stored ∧ ∀ col ∈ cols, ∃ s ∈ stored, s.column.original = col

theorem Graph.uniqueClauses_eq {e : Entity} {stored : List String} {uniques : List (List String)}
    (h : uniqueClauses e stored = .ok uniques) : uniques = e.uniqueConstraints := by
  have hall := Outcome.mapM_eq_ok.1 h
  have hsame := Outcome.map_eq_of_forall₂ (f := id) (k := id) (fun declared u hu => ?_) hall
  · rwa [List.map_id, List.map_id] at hsame
  · split at hu
    · cases hu
    · cases hu
      rfl

namespace Resolution

variable {cfg : Config} {c : Catalog} {r : Relationship} {cols : List Column}

/-! ## The columns of a relationship -/

theorem exists_unique_joinColumn {declared : List JoinColumnDescriptor} {target : String} {columns : List Column}
    {defaultName : String → String} {js : List JoinColumn} (h : joinColumns declared target columns defaultName = .ok js) :
    (∃ j ∈ js, j.unique = true) ↔ ∃ jd ∈ declared, jd.unique = true := by
  obtain ⟨-, ⟨rfl, rfl⟩ | ⟨-, hall⟩⟩ := joinColumns_eq_ok h
  · simp [JoinColumn.ofKey]
  constructor
  · rintro ⟨j, hj, hu⟩
    obtain ⟨jd, hjd, col, -, rfl⟩ := Outcome.exists_of_mem_right hall j hj
    exact ⟨jd, hjd, hu⟩
  · rintro ⟨jd, hjd, hu⟩
    obtain ⟨j, hj, col, -, rfl⟩ := Outcome.exists_of_mem_left hall jd hjd
    exact ⟨_, hj, hu⟩

/-- **The columns of a one-to-one relationship have a unique one among them** when they are one, or it is declared. -/
theorem exists_unique_column (h : foreignKeysOf cfg c r = .ok cols) (hkind : r.kind = .oneToOne) :
    (∃ col ∈ cols, col.unique = true) ↔ cols.length = 1 ∨ ∃ j ∈ r.joinColumns, j.unique = true := by
  obtain ⟨target, base, -, -, hcols⟩ := foreignKeysOf_eq_ok h
  obtain ⟨js, hjs, rfl⟩ := relationshipColumns_eq_ok hcols
  have hunique : ∀ j, (foreignKeyColumn cfg r (js.length == 1) j).unique = (j.unique || js.length == 1) := by
    intro j
    show (j.unique || js.length == 1 && r.kind == .oneToOne) = _
    rw [hkind, show (Cardinality.oneToOne == .oneToOne) = true from rfl, Bool.and_true]
  rw [List.length_map, ← exists_unique_joinColumn hjs]
  constructor
  · rintro ⟨col, hc, hu⟩
    obtain ⟨j, hj, rfl⟩ := List.mem_map.1 hc
    rw [hunique, Bool.or_eq_true, beq_iff_eq] at hu
    exact hu.symm.imp_right fun hu => ⟨j, hj, hu⟩
  · rintro (hone | ⟨j, hj, hu⟩)
    · obtain ⟨j, hj⟩ := List.exists_mem_of_ne_nil js (joinColumns_ne_nil hjs)
      exact ⟨_, List.mem_map_of_mem hj, by rw [hunique, hone]; simp⟩
    · exact ⟨_, List.mem_map_of_mem hj, by rw [hunique, hu]; rfl⟩

theorem of_mem_foreignKeysOf (h : foreignKeysOf cfg c r = .ok cols) {col : Column} (hc : col ∈ cols) :
    col.isForeignKey = true ∧ col.definition = none ∧ col.inherited = false := by
  obtain ⟨target, base, -, -, hcols⟩ := foreignKeysOf_eq_ok h
  obtain ⟨js, -, rfl⟩ := relationshipColumns_eq_ok hcols
  obtain ⟨j, -, rfl⟩ := List.mem_map.1 hc
  exact ⟨rfl, rfl, rfl⟩

theorem foreignKeysOf_ne_nil (h : foreignKeysOf cfg c r = .ok cols) : cols ≠ [] := by
  obtain ⟨target, base, -, -, hcols⟩ := foreignKeysOf_eq_ok h
  obtain ⟨js, hjs, rfl⟩ := relationshipColumns_eq_ok hcols
  exact fun hnil => joinColumns_ne_nil hjs (List.map_eq_nil_iff.1 hnil)

namespace Maps

variable {g : Graph} {e o x : Entity} {t : CreateTable} (m : Maps cfg c g)
include m

theorem exists_foreignKeysOf (hx : x ∈ g.entities) (hr : r ∈ x.relationships) (hfk : r.hasForeignKey = true) :
    ∃ cols, foreignKeysOf cfg c r = .ok cols ∧ ∀ col ∈ cols, col ∈ x.ownColumns := by
  obtain ⟨up, own, keys, -, -, hkeys, hown⟩ := m.ownColumns_eq hx
  obtain ⟨groups, hg, rfl⟩ := ownForeignKeys_eq_ok hkeys
  obtain ⟨cols, hmem, hcols⟩ := Outcome.exists_of_mem_left hg r (List.mem_filter.2 ⟨hr, hfk⟩)
  refine ⟨cols, hcols, fun col hc => ?_⟩
  rw [hown]
  exact List.mem_append_right _ (List.mem_flatten.2 ⟨cols, hmem, hc⟩)

/-! ## The tables that store them -/

theorem tableName_cellOwner (he : e ∈ g.entities) (ha : e.isAbstract = false) (hx : x ∈ g.ancestry e) :
    (g.cellOwner e x).tableName.isSome = true := by
  have hs := m.strategy_of_ancestry he x hx
  rw [m.tableName_isSome (m.cellOwner_mem he hx)]
  unfold Graph.cellOwner
  cases he' : e.strategy with
  | joined =>
    dsimp only
    rw [hs, he']
    trivial
  | singleTable =>
    dsimp only
    rw [m.strategy_root he, he']
    exact (m.root_mem he).2
  | tablePerClass =>
    dsimp only
    rw [he']
    exact ha

theorem stores_own (he : e ∈ g.entities) (hx : x ∈ g.ancestry e) (ht : g.createTable (g.cellOwner e x) = .ok (some t))
    {cols : List Column} (hown : ∀ col ∈ cols, col ∈ x.ownColumns) : g.Stores (g.cellOwner e x) cols := by
  obtain ⟨-, stored, -, -, hst, -⟩ := Graph.createTable_eq_ok ht
  obtain ⟨place, hplace, howner, -, hcopies⟩ := m.exists_place he hx
  refine ⟨stored, hst, fun col hc => ?_⟩
  obtain ⟨copy, hcopy, horig⟩ := hcopies col (List.mem_filter.1 (hown col hc)).1
  rw [← howner] at hst
  obtain ⟨s, hs, rfl⟩ := List.mem_map.1 (m.place_stored he hplace hst copy hcopy)
  exact ⟨s, hs, horig.trans (Column.original_of_mem_own (hown col hc))⟩

/-- For each concrete entity from `x` down the script creates a table that stores the own columns of `x`. -/
theorem exists_storing {ts : List CreateTable} (hts : g.schema = .ok ts) (he : e ∈ g.entities)
    (ha : e.isAbstract = false) (hx : x ∈ g.ancestry e) {cols : List Column}
    (hown : ∀ col ∈ cols, col ∈ x.ownColumns) :
    ∃ t ∈ ts, g.createTable (g.cellOwner e x) = .ok (some t) ∧ g.Stores (g.cellOwner e x) cols := by
  obtain ⟨t, htm, ht⟩ := Graph.exists_createTable hts (m.cellOwner_mem he hx) (m.tableName_cellOwner he ha hx)
  exact ⟨t, htm, ht, m.stores_own he hx ht hown⟩

/-- No foreign key that a table stores has the name of a key column. -/
theorem name_not_mem_primaryKeys (ho : o ∈ g.entities) {stored : List StoredColumn}
    (hst : g.tableColumns o = .ok stored) {s : StoredColumn} (hs : s ∈ stored) (hforeign : s.column.isForeignKey = true) :
    s.column.name ∉ o.primaryKeys.map (·.name) := by
  intro hn
  obtain ⟨key, hk, hname⟩ := List.mem_map.1 hn
  obtain ⟨hkc, hkk⟩ := List.mem_filter.1 hk
  have hkstored : key ∈ stored.map (·.column) := by
    rw [(Graph.tableColumns_eq_ok hst).1]
    exact List.mem_append_left _ hkc
  obtain ⟨s', hs', rfl⟩ := List.mem_map.1 hkstored
  have hsame : s' = s := m.eq_of_storedName ho hst hs' hs hname
  rw [← hsame, m.isForeignKey_of_primaryKey ho hkc hkk] at hforeign
  cases hforeign

section
variable (ho : o ∈ g.entities) (ht : g.createTable o = .ok (some t)) (h : foreignKeysOf cfg c r = .ok cols)
  (hstores : g.Stores o cols)
include ho ht h hstores

/-- **A statement defines one of stored columns as unique when it is.** -/
theorem unique_definition_iff : (∃ d ∈ t.columns, d.name ∈ cols.map (·.name) ∧ d.shape.isUnique = true) ↔
    ∃ col ∈ cols, col.unique = true := by
  obtain ⟨stored, hst, hall⟩ := hstores
  have hdefinition : ∀ s ∈ stored, ∀ col ∈ cols, s.column.original = col →
      (g.columnDefinition s).shape.isUnique = col.unique := by
    intro s hs col hc horig
    have hraw : s.column.definition = none := by
      rw [← (of_mem_foreignKeysOf h hc).2.1, ← horig]
      rfl
    unfold Graph.columnDefinition
    rw [hraw, ← horig]
    rfl
  rw [Graph.columns_of_createTable ht hst]
  constructor
  · rintro ⟨d, hd, hname, hu⟩
    obtain ⟨s, hs, rfl⟩ := List.mem_map.1 hd
    obtain ⟨col, hc, hcn⟩ := List.mem_map.1 hname
    obtain ⟨s', hs', horig⟩ := hall col hc
    -- no two stored columns have one name
    have hsame : s' = s := m.eq_of_storedName ho hst hs' hs ((congrArg Column.name horig :).trans hcn)
    exact ⟨col, hc, (hdefinition s hs col hc (hsame ▸ horig)).symm.trans hu⟩
  · rintro ⟨col, hc, hu⟩
    obtain ⟨s, hs, horig⟩ := hall col hc
    have hname : s.column.name = col.name := (congrArg Column.name horig :)
    refine ⟨_, List.mem_map_of_mem hs, ?_, (hdefinition s hs col hc horig).trans hu⟩
    exact List.mem_map.2 ⟨col, hc, hname.symm⟩

theorem primaryKey_not_subset : ¬ (t.primaryKey ≠ [] ∧ ∀ n ∈ t.primaryKey, n ∈ cols.map (·.name)) := by
  rintro ⟨hne, hsub⟩
  obtain ⟨-, stored, -, -, hst, -, hkey, -⟩ := Graph.createTable_eq_ok ht
  obtain ⟨stored', hst', hall⟩ := hstores
  cases hst.symm.trans hst'
  obtain ⟨n, hn⟩ := List.exists_mem_of_ne_nil _ hne
  obtain ⟨col, hc, rfl⟩ := List.mem_map.1 (hsub n hn)
  obtain ⟨s, hs, horig⟩ := hall col hc
  have hforeign : s.column.isForeignKey = true := by
    rw [← (of_mem_foreignKeysOf h hc).1, ← horig]
    rfl
  rw [hkey, ← horig] at hn
  exact m.name_not_mem_primaryKeys ho hst hs hforeign hn

/-- **When a statement makes the columns of a one-to-one relationship unique**: when they are one, a join column is
declared unique, or a uniqueness constraint is declared over nothing but some of them. -/
theorem makesUnique_iff (hkind : r.kind = .oneToOne) : t.MakesUnique (cols.map (·.name)) ↔
    cols.length = 1 ∨ (∃ j ∈ r.joinColumns, j.unique = true) ∨
      ∃ u ∈ o.uniqueConstraints, u ≠ [] ∧ ∀ n ∈ u, n ∈ cols.map (·.name) := by
  obtain ⟨-, stored, -, -, -, -, -, hu, -⟩ := Graph.createTable_eq_ok ht
  unfold CreateTable.MakesUnique
  rw [m.unique_definition_iff ho ht h hstores, exists_unique_column h hkind, Graph.uniqueClauses_eq hu,
    or_iff_left (m.primaryKey_not_subset ho ht h hstores), or_assoc]

end

end Maps
end Resolution

/-- What a script makes of the columns of an owning one-to-one relationship `r` of an entity `x`. -/
structure Graph.OneToOneColumns (g : Graph) (ts : List CreateTable) (x : Entity) (r : Relationship)
    (cols : List Column) : Prop where
  /-- For each concrete entity from `x` down a statement of the script stores the columns. -/
  stored : ∀ e ∈ g.entities, e.isAbstract = false → x ∈ g.ancestry e →
    ∃ t ∈ ts, g.createTable (g.cellOwner e x) = .ok (some t) ∧ g.Stores (g.cellOwner e x) cols
  /-- Each statement that stores them makes them unique when they are one, or when that is declared. -/
  unique_iff : ∀ o ∈ g.entities, ∀ t, g.createTable o = .ok (some t) → g.Stores o cols →
    (t.MakesUnique (cols.map (·.name)) ↔ cols.length = 1 ∨ (∃ j ∈ r.joinColumns, j.unique = true) ∨
      ∃ u ∈ o.uniqueConstraints, u ≠ [] ∧ ∀ n ∈ u, n ∈ cols.map (·.name))

namespace Database

variable {db : Database} {ts : List CreateTable} {x : Entity} {r : Relationship}

/-- **When the schema enforces a one-to-one relationship.**  Every table that stores the foreign-key columns of an
owning one-to-one relationship lets no two rows agree in all of them exactly when there is one such column, a join
column is declared unique, or a uniqueness constraint is declared over nothing but some of them. -/
theorem one_to_one_enforced_iff (h : db.Mapped) (hs : db.schema = .ok ts) (hx : x ∈ db.graph.entities)
    (hr : r ∈ x.relationships) (howns : r.owning = true) (hkind : r.kind = .oneToOne) :
    ∃ cols, Resolution.foreignKeysOf db.config db.catalog r = .ok cols ∧ cols ≠ [] ∧
      db.graph.OneToOneColumns ts x r cols := by
  have m := h.maps
  obtain ⟨u, -, hts⟩ := Outcome.bind_eq_ok.1 hs
  have hfk : r.hasForeignKey = true := by
    unfold Relationship.hasForeignKey
    rw [howns, hkind]
    rfl
  obtain ⟨cols, hcols, hown⟩ := m.exists_foreignKeysOf hx hr hfk
  exact ⟨cols, hcols, Resolution.foreignKeysOf_ne_nil hcols, fun e he ha hxe => m.exists_storing hts he ha hxe hown,
    fun o ho t ht hstores => m.makesUnique_iff ho ht hcols hstores hkind⟩

/-- The table of all persons lets no two bosses have one office. -/
theorem one_to_one_enforced_iff_fleet : ∃ ts x r, fleet.Mapped ∧ fleet.schema = .ok ts ∧ x ∈ fleet.graph.entities ∧
    r ∈ x.relationships ∧ r.owning = true ∧ r.kind = .oneToOne ∧ r.field = "office" ∧
    ∃ cols, Resolution.foreignKeysOf fleet.config fleet.catalog r = .ok cols ∧ cols ≠ [] ∧
      fleet.graph.OneToOneColumns ts x r cols := by
  have hschema : fleet.schema.toOption.isSome = true := by decide +kernel
  have hoffice : (fleet.graph.entities.any fun x => x.relationships.any fun r =>
      r.owning && (r.kind == .oneToOne && r.field == "office")) = true := by decide +kernel
  obtain ⟨x, hx, hoffice⟩ := List.any_eq_true.1 hoffice
  obtain ⟨r, hr, hoffice⟩ := List.any_eq_true.1 hoffice
  rw [Bool.and_eq_true, Bool.and_eq_true, beq_iff_eq, beq_iff_eq] at hoffice
  obtain ⟨howns, hkind, hfield⟩ := hoffice
  have hs := Outcome.eq_ok_get hschema
  exact ⟨_, x, r, fleet_mapped, hs, hx, hr, howns, hkind, hfield,
    one_to_one_enforced_iff fleet_mapped hs hx hr howns hkind⟩

/-! ## A theatre

A seat is known by its row and its number, and a ticket is for one seat. -/

open FieldDescriptor in
def theatreEntries : Except ConfigurationError Database := ofEntities { name := "theatre" } [
  { typeName := "Seat", table := some {}, fields := [(plain "row" .long).asId, (plain "number" .long).asId] },
  { typeName := "Ticket", table := some {},
    fields := [(plain "id" .long).asId, reference "seat" (.oneToOne "Seat")] }]

theorem theatreEntries_isSome : theatreEntries.toOption.isSome = true := by decide +kernel

def theatre : Database := (theatreEntries.toOption.get theatreEntries_isSome).map

theorem theatre_mapped : theatre.Mapped :=
  ⟨(reachable_ofEntities (Outcome.eq_ok_get theatreEntries_isSome)).map, by decide +kernel⟩

/-- The statement that creates the table of the tickets. -/
def ticketTable : String :=
  "CREATE TABLE \"ticket\" (\"id\" INTEGER NOT NULL, \"seat_row\" INTEGER, \"seat_number\" INTEGER, " ++
  "PRIMARY KEY (\"id\"), FOREIGN KEY (\"seat_row\", \"seat_number\") REFERENCES \"seat\" (\"row\", \"number\") " ++
  "ON UPDATE NO ACTION ON DELETE NO ACTION DEFERRABLE INITIALLY DEFERRED)"

/-- The table of the tickets takes two tickets for one seat. -/
theorem composite_one_to_one_not_unique : theatre.Mapped ∧ ∃ ts x r cols t, theatre.schema = .ok ts ∧
    x ∈ theatre.graph.entities ∧ r ∈ x.relationships ∧ r.owning = true ∧ r.kind = .oneToOne ∧
    Resolution.foreignKeysOf theatre.config theatre.catalog r = .ok cols ∧ t ∈ ts ∧
    theatre.graph.createTable x = .ok (some t) ∧ theatre.graph.Stores x cols ∧
    ¬ t.MakesUnique (cols.map (·.name)) ∧ t.render = ticketTable := by
  have hcheck : (theatre.schema.toOption.any fun ts => theatre.graph.entities.any fun x => x.relationships.any fun r =>
      (Resolution.foreignKeysOf theatre.config theatre.catalog r).toOption.any fun cols => ts.any fun t =>
        decide (r.owning = true ∧ r.kind = .oneToOne ∧ theatre.graph.createTable x = .ok (some t) ∧
          theatre.graph.cellOwner x x = x ∧ (∀ col ∈ cols, col ∈ x.ownColumns) ∧ ¬ t.MakesUnique (cols.map (·.name)) ∧
          t.render = ticketTable)) = true := by decide +kernel
  obtain ⟨ts, hs, hcheck⟩ := Outcome.any_toOption.1 hcheck
  obtain ⟨x, hx, hcheck⟩ := List.any_eq_true.1 hcheck
  obtain ⟨r, hr, hcheck⟩ := List.any_eq_true.1 hcheck
  obtain ⟨cols, hcols, hcheck⟩ := Outcome.any_toOption.1 hcheck
  obtain ⟨t, htm, hcheck⟩ := List.any_eq_true.1 hcheck
  obtain ⟨howns, hkind, ht, howner, hown, hnot, htext⟩ := of_decide_eq_true hcheck
  have hstores : theatre.graph.Stores (theatre.graph.cellOwner x x) cols :=
    theatre_mapped.maps.stores_own hx (theatre.graph.self_mem_ancestry x) (by rw [howner]; exact ht) hown
  rw [howner] at hstores
  exact ⟨theatre_mapped, ts, x, r, cols, t, hs, hx, hr, howns, hkind, hcols, htm, ht, hstores, hnot, htext⟩

end Database
end Ormap
