import Ormap.Proofs.RoundTrip
/-!
# References — where the foreign keys of an object's rows lead

An accepted reference is to an object whose entity is the target of the relationship or lies below it.  The foreign key
of the relationship refers to the table that the target lives in.  That the object referred to has its row there is
certain only where a hierarchy shares the tables of its upper entities: where each class has a table of its own, an
object of an entity below the target has its only row in another one (`Database.reference_meets_row_iff`).
-/
namespace Ormap

/-- The foreign-key columns that an entity owns for a relationship field, each with the column that it refers to. -/
def Entity.foreignKeyPairs (e : Entity) (field : String) : List (String × String) :=
  e.ownColumns.filterMap fun c => c.foreignKey?.bind fun key =>
    if key.relationship = field then some (c.name, key.referenced) else none

/-- Whether no other owning relationship of an entity has the field of a relationship. -/
def Entity.NamesOnce (e : Entity) (r : Relationship) : Prop :=
  ∀ r' ∈ e.relationships, r'.hasForeignKey = true → r'.field = r.field → r' = r

theorem Entity.mem_foreignKeyPairs {e : Entity} {field : String} {p : String × String} :
    p ∈ e.foreignKeyPairs field ↔ ∃ col ∈ e.ownColumns, ∃ key, col.foreignKey? = some key ∧
      key.relationship = field ∧ p = (col.name, key.referenced) := by
  unfold foreignKeyPairs
  rw [List.mem_filterMap]
  refine exists_congr fun col => and_congr_right fun _ => ?_
  rw [Option.bind_eq_some_iff]
  refine exists_congr fun key => and_congr_right fun _ => ?_
  by_cases hr : key.relationship = field
  · simp [hr, eq_comm]
  · simp [hr]

/-- In a clause over foreign-key columns each column stands opposite the one that it refers to. -/
theorem Column.mem_zip_foreignKeys {p : String × String} : ∀ {cols : List Column},
    (∀ col ∈ cols, col.isForeignKey = true) →
    (p ∈ (cols.map (·.name)).zip ((cols.filterMap (·.foreignKey?)).map (·.referenced)) ↔
      ∃ col ∈ cols, ∃ key, col.foreignKey? = some key ∧ p = (col.name, key.referenced))
  | [], _ => by simp
  | col :: cols, h => by
    obtain ⟨key, hk⟩ := Option.isSome_iff_exists.1 (h col List.mem_cons_self)
    have hrest := mem_zip_foreignKeys (p := p) fun b hb => h b (List.mem_cons_of_mem _ hb)
    rw [List.filterMap_cons_some hk, List.map_cons, List.map_cons, List.zip_cons_cons, List.mem_cons, hrest]
    simp [hk]

namespace Graph

/-- The stored columns of the foreign key that is known by a field of an entity. -/
def fieldGroup (stored : List StoredColumn) (name : FieldName) : List Column :=
  (stored.map (·.column)).filter (groupKey? · == some name)

/-- Whether an object `x` refers, through an owning relationship `r` of an entity `X` to `T`, to an object `y` of an
entity `R` by a key, which has for the columns that the foreign key refers to only values that `y` has for them. -/
structure Refers (g : Graph) (x y : Record) (X T R : Entity) (r : Relationship) (key : Cells Value) : Prop where
  declared : r ∈ X.relationships
  owning : r.hasForeignKey = true
  target : g.find? r.target = some T
  referred : g.find? y.typeName = some R
  reference : Cells.get? r.field x.references = some { target := y.typeName, key := some key }
  values : ∀ p ∈ X.foreignKeyPairs r.field, ∀ rc ∈ T.columns, rc.name = p.2 → ∀ v, Cells.get? rc.name key = some v →
    g.cellValue y R.strategy (g.ancestry R) (g.aliasLevel T) rc = .ok v

variable {g : Graph} {source target : Entity} {record : Record} {key : ForeignKey} {ref : Reference} {v : Value}

theorem groupKey?_eq_some {col : Column} {name : FieldName} : groupKey? col = some name ↔
    ∃ key, col.foreignKey? = some key ∧ (⟨col.declaredBy, key.relationship⟩ : FieldName) = name :=
  Option.map_eq_some_iff

theorem mem_fieldGroup {stored : List StoredColumn} {name : FieldName} {col : Column} :
    col ∈ fieldGroup stored name ↔ (∃ s ∈ stored, s.column = col) ∧ groupKey? col = some name := by
  unfold fieldGroup
  rw [List.mem_filter, List.mem_map, beq_iff_eq]

/-- The group of a field that has columns is among those of its table. -/
theorem fieldGroup_mem {stored : List StoredColumn} {name : FieldName} {col : Column}
    (h : col ∈ fieldGroup stored name) : fieldGroup stored name ∈ foreignKeyGroups (stored.map (·.column)) := by
  obtain ⟨hc, hname⟩ := mem_fieldGroup.1 h
  exact List.mem_map.2 ⟨_, List.mem_eraseDups.2 (List.mem_filterMap.2 ⟨col, List.mem_map.2 hc, hname⟩), rfl⟩

/-! ## Clauses -/

theorem exists_of_groupClauses {groups : List (List Column)} {clauses : List ForeignKeyClause}
    (h : g.groupClauses source groups = .ok clauses) {group : List Column} (hg : group ∈ groups) :
    ∃ k?, g.groupClause source group = .ok k? ∧ ∀ k, k? = some k → k ∈ clauses := by
  unfold groupClauses at h
  obtain ⟨ks, hks, h⟩ := Outcome.bind_eq_ok.1 h
  cases h
  obtain ⟨k?, hm, hk⟩ := Outcome.exists_of_mem_left (Outcome.mapM_eq_ok.1 hks) group hg
  exact ⟨k?, hk, fun k he => List.mem_filterMap.2 ⟨k?, hm, he⟩⟩

/-! ## Accepted references -/

/-- **An accepted reference** is to an object of the target or of an entity below it, and its key gives the value. -/
theorem referenceValue_eq_ok (h : g.referenceValue record key ref = .ok v) :
    ∃ referred path, g.find? ref.target = some referred ∧ g.requireAncestry referred = .ok path ∧
      (∃ x ∈ path, x.typeName = key.entity) ∧ ∃ cells, ref.key = some cells ∧ Cells.get? key.referenced cells = some v := by
  unfold referenceValue at h
  obtain ⟨referred, hr, h⟩ := Outcome.bind_eq_ok.1 h
  obtain ⟨path, hpath, h⟩ := Outcome.bind_eq_ok.1 h
  have hf := require_eq_ok.1 (Outcome.mapError_eq_ok.1 hr)
  cases hany : path.any (·.typeName == key.entity) with
  | false =>
    rw [hany] at h
    cases h
  | true =>
    rw [hany] at h
    obtain ⟨x, hx, hxn⟩ := List.any_eq_true.1 hany
    refine ⟨referred, path, hf, Outcome.mapError_eq_ok.1 hpath, ⟨x, hx, by simpa using hxn⟩, ?_⟩
    cases hk : ref.key with
    | none =>
      rw [hk] at h
      cases h
    | some cells =>
      rw [hk] at h
      cases hc : Cells.get? key.referenced cells with
      | none =>
        simp only [hc] at h
        cases h
      | some w =>
        simp only [hc] at h
        cases h
        exact ⟨cells, rfl, hc⟩

/-- The cell of a foreign-key column holds the value of the reference. -/
theorem referenceValue_of_cellValue {strategy : Strategy} {path : List Entity} {owner : Nat} {col : Column}
    (hk : col.foreignKey? = some key) (href : Cells.get? key.relationship record.references = some ref)
    (h : g.cellValue record strategy path owner col = .ok v) : g.referenceValue record key ref = .ok v := by
  have hrole : col.role = .foreignKey key := by
    unfold Column.foreignKey? at hk
    split at hk
    · rename_i hr
      cases hk
      exact hr
    · cases hk
  unfold cellValue at h
  rw [hrole] at h
  dsimp only at h
  unfold referenceCell at h
  rw [href] at h
  exact h

end Graph

namespace Resolution
namespace Maps

variable {cfg : Config} {c : Catalog} {g : Graph} {e x R T : Entity} {r : Relationship} {stored : List StoredColumn}
  {ts : List CreateTable} {field : String} {p : String × String} (m : Maps cfg c g)
include m

/-! ## The clause of a relationship -/

theorem exists_foreignKeyPair (hx : x ∈ g.entities) (hr : r ∈ x.relationships) (hfk : r.hasForeignKey = true) :
    ∃ p, p ∈ x.foreignKeyPairs r.field := by
  obtain ⟨up, own, keys, -, -, hkeys, hown⟩ := m.ownColumns_eq hx
  obtain ⟨col, hc, key, hk, hf⟩ := exists_mem_ownForeignKeys hkeys hr hfk
  have hmem : col ∈ x.ownColumns := by
    rw [hown]
    exact List.mem_append_right _ hc
  exact ⟨_, Entity.mem_foreignKeyPairs.2 ⟨col, hmem, key, hk, hf, rfl⟩⟩

/-- The foreign-key columns of a field that is named once refer to the target of its relationship. -/
theorem target_of_field (hx : x ∈ g.entities) (honce : x.NamesOnce r) (hT : g.find? r.target = some T) {col : Column}
    (hc : col ∈ x.ownColumns) {key : ForeignKey} (hk : col.foreignKey? = some key) (hf : key.relationship = r.field) :
    key.entity = r.target ∧ ∃ rc ∈ T.columns, rc.name = key.referenced ∧ rc.type = col.type := by
  obtain ⟨-, r', hr', hfk', hrel, hent, t, ht, htn, rc, hrc, -, hname, htype⟩ := m.own_foreignKey hx hc hk
  obtain rfl := honce r' hr' hfk' (hrel.symm.trans hf)
  obtain ⟨hTm, hTn⟩ := m.find?_eq_some_iff.1 hT
  obtain rfl := m.eq_of_typeName ht hTm (htn.trans hTn.symm)
  exact ⟨hent, rc, hrc, hname, htype⟩

/-- A stored foreign-key column that is known by a field of an entity is that entity's own, or a copy of its own. -/
theorem original_of_fieldGroup {o : Entity} (ho : o ∈ g.entities) (hx : x ∈ g.entities)
    (hst : g.tableColumns o = .ok stored) {col : Column} (hc : col ∈ Graph.fieldGroup stored ⟨x.typeName, field⟩) :
    col.original ∈ x.ownColumns ∧ ∃ key, col.foreignKey? = some key ∧ key.relationship = field := by
  obtain ⟨hc, hgroup⟩ := List.mem_filter.1 hc
  obtain ⟨s, hs, rfl⟩ := List.mem_map.1 hc
  obtain ⟨key, hk, hname⟩ := Graph.groupKey?_eq_some.1 (beq_iff_eq.1 hgroup)
  obtain ⟨z, hz, hzc⟩ := m.mem_of_stored ho hst hs
  obtain ⟨y, hy, hyc, -, hdecl⟩ := m.foreignKey_of_mem hz hzc hk
  have hdeclared : s.column.declaredBy = x.typeName := congrArg FieldName.entity hname
  obtain rfl := m.eq_of_typeName (m.mem_of_ancestry hz hy) hx (hdecl.symm.trans hdeclared)
  exact ⟨hyc, key, hk, congrArg FieldName.field hname⟩

section
variable (he : e ∈ g.entities) (hx : x ∈ g.ancestry e) (hst : g.tableColumns (g.cellOwner e x) = .ok stored)
include he hx hst

/-- The table that holds an entity's cells of an object stores each of the entity's foreign-key columns, or a copy. -/
theorem exists_mem_fieldGroup {col : Column} (hc : col ∈ x.ownColumns) {key : ForeignKey}
    (hk : col.foreignKey? = some key) :
    ∃ copy ∈ Graph.fieldGroup stored ⟨x.typeName, key.relationship⟩, copy.original = col.original := by
  obtain ⟨place, hplace, howner, -, hcopies⟩ := m.exists_place he hx
  rw [← howner] at hst
  obtain ⟨copy, hcopy, horig⟩ := hcopies col (List.mem_filter.1 hc).1
  have hkey : copy.original.foreignKey? = some key := by
    rw [horig]
    exact hk
  have hdecl : copy.original.declaredBy = col.original.declaredBy := congrArg Column.declaredBy horig
  have hgroup : Graph.groupKey? copy = some ⟨x.typeName, key.relationship⟩ := by
    refine Graph.groupKey?_eq_some.2 ⟨key, hkey, ?_⟩
    rw [show copy.declaredBy = col.declaredBy from hdecl, m.declaredBy_of_own (m.mem_of_ancestry he hx) hc]
  exact ⟨copy, List.mem_filter.2 ⟨m.place_stored he hplace hst copy hcopy, beq_iff_eq.2 hgroup⟩, horig⟩

theorem pairs_of_fieldGroup : (∃ col ∈ Graph.fieldGroup stored ⟨x.typeName, field⟩, ∃ key,
    col.foreignKey? = some key ∧ p = (col.name, key.referenced)) ↔ p ∈ x.foreignKeyPairs field := by
  rw [Entity.mem_foreignKeyPairs]
  constructor
  · rintro ⟨col, hc, key, hk, rfl⟩
    obtain ⟨hco, key', hk', hf⟩ := m.original_of_fieldGroup (m.cellOwner_mem he hx) (m.mem_of_ancestry he hx) hst hc
    cases hk.symm.trans hk'
    exact ⟨col.original, hco, key, hk, hf, rfl⟩
  · rintro ⟨col, hc, key, hk, rfl, rfl⟩
    obtain ⟨copy, hcopy, horig⟩ := m.exists_mem_fieldGroup he hx hst hc hk
    have hname : copy.original.name = col.original.name := congrArg Column.name horig
    have hkey : copy.original.foreignKey? = some key := by
      rw [horig]
      exact hk
    exact ⟨copy, hcopy, key, hkey, by rw [show copy.name = col.name from hname]⟩

end

/-- **The table that holds an entity's cells of an object has the clause of each of its owning relationships**, over
just the foreign-key columns of the relationship, and it refers to the table that the target lives in. -/
theorem exists_clause (he : e ∈ g.entities) (hx : x ∈ g.ancestry e) (hr : r ∈ x.relationships)
    (hfk : r.hasForeignKey = true) (honce : x.NamesOnce r) (hT : g.find? r.target = some T) {t : CreateTable}
    (ht : g.createTable (g.cellOwner e x) = .ok (some t)) :
    ∃ k ∈ t.foreignKeys, g.tableOf? T = some k.table ∧ k.columns.length = k.referenced.length ∧
      ∀ p, p ∈ k.columns.zip k.referenced ↔ p ∈ x.foreignKeyPairs r.field := by
  have hxm := m.mem_of_ancestry he hx
  obtain ⟨-, stored, toParent, toTargets, hst, -, -, -, -, hgroups, hkeys⟩ := Graph.createTable_eq_ok ht
  have hown : ∀ col ∈ Graph.fieldGroup stored ⟨x.typeName, r.field⟩, col.original ∈ x.ownColumns ∧
      ∃ key, col.foreignKey? = some key ∧ key.relationship = r.field :=
    fun col hc => m.original_of_fieldGroup (m.cellOwner_mem he hx) hxm hst hc
  have hforeign : ∀ col ∈ Graph.fieldGroup stored ⟨x.typeName, r.field⟩, col.isForeignKey = true := by
    intro col hc
    obtain ⟨-, key, hk, -⟩ := hown col hc
    rw [Column.isForeignKey, hk]
    rfl
  -- the relationship has a column, so that the group of its field is among those of the table
  obtain ⟨p, hp⟩ := m.exists_foreignKeyPair hxm hr hfk
  obtain ⟨copy, hcopy, -⟩ := (m.pairs_of_fieldGroup he hx hst).2 hp
  have hgroup := Graph.fieldGroup_mem hcopy
  obtain ⟨first, hfirst⟩ := Option.isSome_iff_exists.1 (List.isSome_head?.2 (List.ne_nil_of_mem hcopy))
  obtain ⟨hfirsto, key, hkey, hfield⟩ := hown first (List.mem_of_mem_head? hfirst)
  have hfind : g.find? key.entity = some T := by
    rw [(m.target_of_field hxm honce hT hfirsto hkey hfield).1]
    exact hT
  obtain ⟨k?, hclause, hmem⟩ := Graph.exists_of_groupClauses hgroups hgroup
  obtain ⟨k, rfl, htable, hcolumns, hreferenced, -⟩ := Graph.groupClause_eq_ok hfirst hkey hfind hclause
  refine ⟨k, ?_, htable, ?_, fun p => ?_⟩
  · rw [hkeys]
    exact List.mem_append_right _ (hmem k rfl)
  · rw [hcolumns, hreferenced, List.length_map, List.length_map, Column.length_foreignKeys hforeign]
  · rw [hcolumns, hreferenced, Column.mem_zip_foreignKeys hforeign]
    exact m.pairs_of_fieldGroup he hx hst

/-! ## The row that a reference leads to -/

/-- Outside of a hierarchy with a table for each class, the cells of an entity on the way to an object's own stand where
the entity lives. -/
theorem cellOwner_eq (hR : R ∈ g.entities) (hT : T ∈ g.ancestry R) (hs : R.strategy ≠ .tablePerClass) :
    g.cellOwner R T = if T.strategy = .singleTable then g.root T else T := by
  rw [m.strategy_of_ancestry hR T hT]
  unfold Graph.cellOwner
  cases h : R.strategy with
  | joined => rfl
  | singleTable => exact (m.root_of_ancestry hR T hT).symm
  | tablePerClass => exact absurd h hs

/-- **The cells of an entity on the way to an object's own stand in the table that the entity lives in**, unless each
class has a table of its own and the two tables differ. -/
theorem table_eq_iff (hR : R ∈ g.entities) (hT : T ∈ g.ancestry R) {table table' : String}
    (h : (g.cellOwner R T).tableName = some table) (h' : g.tableOf? T = some table') :
    table = table' ↔ (T.strategy = .tablePerClass → R.tableName = T.tableName) := by
  obtain ⟨o, ho, hot⟩ := Graph.tableOf?_eq_some.1 h'
  obtain ⟨rfl, -⟩ := (m.tableOwner_eq_ok (m.mem_of_ancestry hR hT)).1 ho
  have hTs := m.strategy_of_ancestry hR T hT
  by_cases hs : R.strategy = .tablePerClass
  · have hsingle : ¬ T.strategy = .singleTable := by
      rw [hTs, hs]
      exact fun h => by cases h
    rw [if_neg hsingle] at hot
    have hRt : R.tableName = some table := by
      unfold Graph.cellOwner at h
      rw [hs] at h
      exact h
    rw [hRt, hot, hTs, hs]
    simp
  · rw [m.cellOwner_eq hR hT hs] at h
    have htable : table = table' := Option.some.inj (h.symm.trans hot)
    exact ⟨fun _ hT => absurd (hTs.symm.trans hT) hs, fun _ => htable⟩

theorem table_of_row {y : Record} {rows : List TableRow} (hR : R ∈ g.entities) (hs : R.strategy = .tablePerClass)
    (h : g.rowsOf y R = .ok rows) : ∀ row ∈ rows, R.tableName = some row.table := by
  intro row hr
  obtain ⟨place, hplace, hrow⟩ := Outcome.exists_of_mem_right (m.rowsOf_places hR h) row hr
  have htable := (Graph.isRowOf_of_rowOf hrow).table_eq
  unfold Graph.places at hplace
  rw [hs] at hplace
  cases List.mem_singleton.1 hplace
  exact htable

section
variable {x y : Record} {xrows yrows : List TableRow} {X : Entity} {key : Cells Value}
  (href : g.Refers x y X T R r key) (honce : X.NamesOnce r)
include href honce

/-- **An accepted reference** is to an object of the target or of an entity below it, and the key gives the cell. -/
theorem accepted_reference (hX : X ∈ g.entities) {col : Column} (hc : col ∈ X.ownColumns) {fk : ForeignKey}
    (hk : col.foreignKey? = some fk) (hf : fk.relationship = r.field) {strategy : Strategy} {path : List Entity}
    {owner : Nat} {v : Value} (h : g.cellValue x strategy path owner col = .ok v) :
    T ∈ g.ancestry R ∧ Cells.get? fk.referenced key = some v := by
  have hreference := href.reference
  rw [← hf] at hreference
  have haccepted := Graph.referenceValue_of_cellValue hk hreference h
  obtain ⟨referred, path, hreferred, hpath, ⟨z, hz, hzn⟩, cells, hcells, hv⟩ := Graph.referenceValue_eq_ok haccepted
  cases href.referred.symm.trans hreferred
  cases hcells
  obtain ⟨hTm, hTn⟩ := m.find?_eq_some_iff.1 href.target
  have hent := (m.target_of_field hX honce href.target hc hk hf).1
  have hRm := (m.find?_eq_some_iff.1 href.referred).1
  cases (m.requireAncestry hRm).symm.trans hpath
  obtain rfl := m.eq_of_typeName (m.mem_of_ancestry hRm hz) hTm ((hzn.trans hent).trans hTn.symm)
  exact ⟨hz, hv⟩

/-- **Where an accepted reference leads**: the target is on the way to the entity of the object referred to, and that
object has, for the columns of the target, the cells of the foreign key. -/
theorem cells_of_reference (hts : g.schema = .ok ts) (he : e ∈ g.entities) (hX : X ∈ g.ancestry e)
    (hx : g.rowsOf x e = .ok xrows) (hy : g.rowsOf y R = .ok yrows) :
    T ∈ g.ancestry R ∧ ∃ row ∈ xrows, (g.cellOwner e X).tableName = some row.table ∧ ∃ row' ∈ yrows,
      (g.cellOwner R T).tableName = some row'.table ∧
        ∀ p ∈ X.foreignKeyPairs r.field, ∃ w, row.get? p.1 = some w ∧ row'.get? p.2 = some w := by
  have hXm := m.mem_of_ancestry he hX
  have hRm := (m.find?_eq_some_iff.1 href.referred).1
  obtain ⟨row, hrow, htable, -, hcells⟩ := m.exists_row (m.exists_stored_root hts he) he hx hX
  have hTR : T ∈ g.ancestry R := by
    obtain ⟨p, hp⟩ := m.exists_foreignKeyPair hXm href.declared href.owning
    obtain ⟨col, hc, fk, hk, hf, -⟩ := Entity.mem_foreignKeyPairs.1 hp
    obtain ⟨v, w, hv, -⟩ := hcells col (List.mem_filter.1 hc).1
    exact (m.accepted_reference href honce hXm hc hk hf hv).1
  obtain ⟨row', hrow', htable', -, hcells'⟩ := m.exists_row (m.exists_stored_root hts hRm) hRm hy hTR
  refine ⟨hTR, row, hrow, htable, row', hrow', htable', fun p hp => ?_⟩
  obtain ⟨col, hc, fk, hk, hf, rfl⟩ := Entity.mem_foreignKeyPairs.1 hp
  obtain ⟨v, w, hv, hw, hget⟩ := hcells col (List.mem_filter.1 hc).1
  obtain ⟨-, rc, hrc, hname, htype⟩ := m.target_of_field hXm honce href.target hc hk hf
  obtain ⟨v', w', hv', hw', hget'⟩ := hcells' rc hrc
  -- both columns are of one type, and hold one value
  have hkey : Cells.get? rc.name key = some v := by
    rw [hname]
    exact (m.accepted_reference href honce hXm hc hk hf hv).2
  cases (href.values _ hp rc hrc hname v hkey).symm.trans hv'
  rw [htype] at hw'
  cases (Attribute.store_name hw').symm.trans hw
  rw [hname] at hget'
  exact ⟨w, hget, hget'⟩

end

end Maps
end Resolution

/-- Whether one of the rows referred to stands in the table that a foreign key refers to, with the cells that a row has
for the foreign key. -/
def ForeignKeyClause.Meets (k : ForeignKeyClause) (row : TableRow) (referred : List TableRow) : Prop :=
  ∃ row' ∈ referred, row'.table = k.table ∧
    ∀ p ∈ k.columns.zip k.referenced, ∃ v, row.get? p.1 = some v ∧ row'.get? p.2 = some v

namespace Database

/-- **When an accepted reference meets a row.**  Where a stored object refers to another by its key, a row of the first
is in a table with a foreign key over just the columns of the relationship.  The other object has the row that this
foreign key calls for exactly if its entity and the target of the relationship share a table, which is certain unless
each class has a table of its own. -/
theorem reference_meets_row_iff {db : Database} (h : db.Mapped) {ts : List CreateTable} (hs : db.schema = .ok ts)
    {x y : Record} {xrows yrows : List TableRow} (hx : db.graph.rows x = .ok xrows) (hy : db.graph.rows y = .ok yrows)
    {e X T R : Entity} (he : db.graph.find? x.typeName = some e) (hX : X ∈ db.graph.ancestry e) {r : Relationship}
    {key : Cells Value} (href : db.graph.Refers x y X T R r key) (honce : X.NamesOnce r) :
    ∃ row ∈ xrows, ∃ t ∈ ts, t.table = row.table ∧ ∃ k ∈ t.foreignKeys, k.columns ≠ [] ∧
      k.columns.length = k.referenced.length ∧
      (∀ p, p ∈ k.columns.zip k.referenced ↔ p ∈ X.foreignKeyPairs r.field) ∧
      (k.Meets row yrows ↔ (T.strategy = .tablePerClass → R.tableName = T.tableName)) := by
  have m := h.maps
  obtain ⟨u, -, hts⟩ := Outcome.bind_eq_ok.1 hs
  obtain ⟨e', he', -, hx⟩ := m.rows_eq_ok hx
  cases he.symm.trans he'
  obtain ⟨R', hR', -, hy⟩ := m.rows_eq_ok hy
  cases href.referred.symm.trans hR'
  have hem := (m.find?_eq_some_iff.1 he).1
  have hRm := (m.find?_eq_some_iff.1 hR').1
  obtain ⟨hTR, row, hrow, htable, row', hrow', htable', hcells⟩ := m.cells_of_reference href honce hts hem hX hx hy
  have hsome : (db.graph.cellOwner e X).tableName.isSome = true := by rw [htable]; rfl
  obtain ⟨t, ht, hc⟩ := Graph.exists_createTable hts (m.cellOwner_mem hem hX) hsome
  obtain ⟨k, hk, hktable, hlength, hpairs⟩ := m.exists_clause hem hX href.declared href.owning honce href.target hc
  have hcreated : t.table = row.table := Option.some.inj ((Graph.createTable_eq_ok hc).1.symm.trans htable)
  have hiff := m.table_eq_iff hRm hTR htable' hktable
  refine ⟨row, hrow, t, ht, hcreated, k, hk, ?_, hlength, hpairs, ?_, ?_⟩
  · obtain ⟨p, hp⟩ := m.exists_foreignKeyPair (m.mem_of_ancestry hem hX) href.declared href.owning
    intro hn
    have hmem := (hpairs p).2 hp
    rw [hn] at hmem
    cases hmem
  · -- with a table for each class, all rows of the object referred to are in one table
    rintro ⟨met, hmet, hmettable, -⟩ hTs
    have hRs := (m.strategy_of_ancestry hRm T hTR).symm.trans hTs
    have hsame := (m.table_of_row hRm hRs hy row' hrow').symm.trans (m.table_of_row hRm hRs hy met hmet)
    exact hiff.1 ((Option.some.inj hsame).trans hmettable) hTs
  · intro hcond
    exact ⟨row', hrow', hiff.2 hcond, fun p hp => hcells p ((hpairs p).1 hp)⟩

def fleetBoss : Record where
  typeName := "Boss"
  values := ((Cells.get? "owner" fleetVan.references).bind (·.key)).getD []

def fleetEntity (i : Fin 8) : Entity := fleet.graph.entities.get (i.cast (by decide +kernel))

def fleetOwner : Relationship := (fleetEntity 1).relationships.head (by decide +kernel)

theorem fleetVan_refers : fleet.graph.Refers fleetVan fleetBoss (fleetEntity 1) (fleetEntity 4) (fleetEntity 5)
    fleetOwner fleetBoss.values where
  declared := by decide +kernel
  owning := by decide +kernel
  target := by decide +kernel
  referred := by decide +kernel
  reference := by decide +kernel
  values := by
    have hpairs : (fleetEntity 1).foreignKeyPairs fleetOwner.field = [("owner_id", "id")] := by decide +kernel
    have hcell : ∀ rc ∈ (fleetEntity 4).columns, rc.name = "id" →
        fleet.graph.cellValue fleetBoss (fleetEntity 5).strategy (fleet.graph.ancestry (fleetEntity 5))
          (fleet.graph.aliasLevel (fleetEntity 4)) rc = .ok (fleetBoss.get "id") := by decide +kernel
    intro p hp rc hrc hname v hv
    rw [hpairs, List.mem_singleton] at hp
    subst hp
    rw [hname] at hv
    cases hv
    exact hcell rc hrc hname

/-- The owner of the van, a driver by declaration and a boss in fact, has a row in the one table of all persons. -/
theorem reference_meets_row_iff_fleet : ∃ ts xrows yrows, fleet.schema = .ok ts ∧
    fleet.graph.rows fleetVan = .ok xrows ∧ fleet.graph.rows fleetBoss = .ok yrows ∧
    ∃ row ∈ xrows, ∃ t ∈ ts, t.table = row.table ∧ ∃ k ∈ t.foreignKeys, k.columns ≠ [] ∧
      (∀ p ∈ k.columns.zip k.referenced, p ∈ (fleetEntity 1).foreignKeyPairs fleetOwner.field) ∧ k.Meets row yrows := by
  have hschema : fleet.schema.toOption.isSome = true := by decide +kernel
  have hvan : (fleet.graph.rows fleetVan).toOption.isSome = true := by decide +kernel
  have hboss : (fleet.graph.rows fleetBoss).toOption.isSome = true := by decide +kernel
  have he : fleet.graph.find? fleetVan.typeName = some (fleetEntity 2) := by decide +kernel
  have honce : (fleetEntity 1).NamesOnce fleetOwner := by
    unfold Entity.NamesOnce
    decide +kernel
  obtain ⟨row, hrow, t, ht, htable, k, hk, hne, -, hiff, hmeets⟩ := reference_meets_row_iff fleet_mapped
    (Outcome.eq_ok_get hschema) (Outcome.eq_ok_get hvan) (Outcome.eq_ok_get hboss) he (by decide +kernel)
    fleetVan_refers honce
  exact ⟨_, _, _, Outcome.eq_ok_get hschema, Outcome.eq_ok_get hvan, Outcome.eq_ok_get hboss, row, hrow, t, ht, htable,
    k, hk, hne, fun p hp => (hiff p).1 hp, hmeets.2 (by decide +kernel)⟩

/-! ## A table for each class

Accounts have a table for each class.  A payment may refer to a savings account, whose only row is in a table that no
foreign key refers to. -/

open FieldDescriptor in
def ledgerEntities : List EntityDescriptor := [
  { typeName := "Account", table := some { name := some "account" }, inheritance := some .tablePerClass,
    discriminatorColumn := some { name := "kind" }, discriminatorValue := some "account",
    fields := [(plain "id" .long).asId, plain "owner" .string] },
  { typeName := "Savings", ancestors := ["Account"], table := some { name := some "savings" },
    discriminatorValue := some "savings", fields := [plain "rate" .long] },
  { typeName := "Payment", table := some { name := some "payment" },
    fields := [(plain "id" .long).asId, reference "account" (.manyToOne "Account")] }]

def ledgerEntries : Except ConfigurationError Database := ofEntities { name := "ledger" } ledgerEntities

theorem ledgerEntries_isSome : ledgerEntries.toOption.isSome = true := by decide +kernel

def ledger : Database := (ledgerEntries.toOption.get ledgerEntries_isSome).map

theorem ledger_mapped : ledger.Mapped :=
  ⟨(reachable_ofEntities (Outcome.eq_ok_get ledgerEntries_isSome)).map, by decide +kernel⟩

def ledgerSavings : Record where
  typeName := "Savings"
  values := [("id", .integer 7), ("owner", .text "Ann"), ("rate", .integer 2)]

def ledgerPayment : Record where
  typeName := "Payment"
  values := [("id", .integer 1)]
  references := [("account", { target := "Savings", key := some [("id", .integer 7)] })]

/-- **The accepted reference of the payment meets no row**: the savings account has none in the table of accounts. -/
theorem accepted_reference_meets_no_row : ledger.Mapped ∧ ∃ ts xrows yrows, ledger.schema = .ok ts ∧
    ledger.graph.rows ledgerPayment = .ok xrows ∧ ledger.graph.rows ledgerSavings = .ok yrows ∧
    xrows.map (·.cells) = [[("id", .integer 1), ("account_id", .integer 7)]] ∧
    (ts.flatMap (·.foreignKeys)).map (fun k => (k.columns, k.table, k.referenced)) =
      [(["account_id"], "account", ["id"])] ∧
    yrows.map (·.table) = ["savings"] ∧
    ∀ t ∈ ts, ∀ k ∈ t.foreignKeys, ∀ row ∈ xrows, ¬ k.Meets row yrows := by
  have hschema : ledger.schema.toOption.map (fun ts => (ts.flatMap (·.foreignKeys)).map
      fun k => (k.columns, k.table, k.referenced)) = some [(["account_id"], "account", ["id"])] := by decide +kernel
  have hx : (ledger.graph.rows ledgerPayment).toOption.map (·.map (·.cells)) =
      some [[("id", .integer 1), ("account_id", .integer 7)]] := by decide +kernel
  have hy : (ledger.graph.rows ledgerSavings).toOption.map (·.map (·.table)) = some ["savings"] := by decide +kernel
  refine ⟨ledger_mapped, ?_⟩
  cases hts : ledger.schema with
  | error e => rw [hts] at hschema; cases hschema
  | ok ts =>
    cases hxr : ledger.graph.rows ledgerPayment with
    | error e => rw [hxr] at hx; cases hx
    | ok xrows =>
      cases hyr : ledger.graph.rows ledgerSavings with
      | error e => rw [hyr] at hy; cases hy
      | ok yrows =>
        rw [hts] at hschema
        rw [hxr] at hx
        rw [hyr] at hy
        have hkeys := Option.some.inj hschema
        have htables := Option.some.inj hy
        refine ⟨ts, xrows, yrows, rfl, rfl, rfl, Option.some.inj hx, hkeys, htables, ?_⟩
        rintro t ht k hk row - ⟨row', hrow', htable, -⟩
        have hk' : (k.columns, k.table, k.referenced) ∈ [(["account_id"], "account", ["id"])] := by
          rw [← hkeys]
          exact List.mem_map_of_mem (List.mem_flatMap.2 ⟨t, ht, hk⟩)
        have hrow'' : row'.table ∈ ["savings"] := by
          rw [← htables]
          exact List.mem_map_of_mem hrow'
        rw [List.mem_singleton] at hk' hrow''
        rw [hrow'', (Prod.mk.inj (Prod.mk.inj hk').2).1] at htable
        exact absurd htable (by decide)

end Database
end Ormap
