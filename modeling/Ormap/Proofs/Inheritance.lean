import Ormap.Proofs.ForeignKeys
/-!
# Inheritance — the columns of an entity from those of its parent

The columns of an entity of a mapped graph are, in this order, the base columns passed on by its parent, its own base
columns, the foreign keys passed on by its parent, and its own foreign keys (`Maps.columns_eq`).  Every column is an own
column of an entity on the way from the root, or a copy of one (`Maps.exists_own`).
-/
namespace Ormap
namespace Graph

/-- The base columns that an entity takes over from its parent, as copies. -/
def passedBase (g : Graph) (e : Entity) : List Column :=
  ((g.parent? e).elim [] fun p =>
    (p.columns.filter (!·.isForeignKey)).filter (Resolution.passedOn e.strategy)).map Column.inheritedCopy

/-- The foreign keys that an entity takes over from its parent, as copies. -/
def passedKeys (g : Graph) (e : Entity) : List Column :=
  ((g.parent? e).elim [] fun p =>
    if e.strategy = .tablePerClass then p.columns.filter (·.isForeignKey) else []).map Column.inheritedCopy

theorem mem_passedBase {g : Graph} {e : Entity} {col : Column} (h : col ∈ g.passedBase e) :
    ∃ p, g.parent? e = some p ∧ ∃ colP ∈ p.columns, colP.isForeignKey = false ∧ colP.inheritedCopy = col := by
  unfold passedBase at h
  obtain ⟨colP, hc, rfl⟩ := List.mem_map.1 h
  cases hp : g.parent? e with
  | none =>
    rw [hp] at hc
    cases hc
  | some p =>
    rw [hp] at hc
    obtain ⟨hc, hk⟩ := List.mem_filter.1 (List.mem_filter.1 hc).1
    exact ⟨p, rfl, colP, hc, by simpa using hk, rfl⟩

theorem mem_passedKeys {g : Graph} {e : Entity} {col : Column} (h : col ∈ g.passedKeys e) :
    ∃ p, g.parent? e = some p ∧ ∃ colP ∈ p.columns, colP.isForeignKey = true ∧ colP.inheritedCopy = col := by
  unfold passedKeys at h
  obtain ⟨colP, hc, rfl⟩ := List.mem_map.1 h
  cases hp : g.parent? e with
  | none =>
    rw [hp] at hc
    cases hc
  | some p =>
    rw [hp, Option.elim_some] at hc
    split at hc
    · obtain ⟨hc, hk⟩ := List.mem_filter.1 hc
      exact ⟨p, rfl, colP, hc, hk, rfl⟩
    · cases hc

end Graph

namespace Resolution

variable {cfg : Config} {c : Catalog} {g : Graph} {d : EntityDescriptor} {up : List EntityDescriptor} {o : Outline}
  {base cols : List Column} {given : Cells Value} {e p x : Entity}

/-! ## The two steps -/

theorem extendBase_eq_ok {strategy : Strategy} {passed : List Column}
    (h : extendBase c strategy d up passed = .ok base) : ∃ own, ownColumns c strategy d up = .ok own ∧
      base = (passed.filter (passedOn strategy)).map Column.inheritedCopy ++ own ∧
      (up = [] → ∃ col ∈ base, col.primaryKey = true) := by
  unfold extendBase at h
  obtain ⟨own, ho, h⟩ := Outcome.bind_eq_ok.1 h
  obtain ⟨u, hk, h⟩ := Outcome.bind_eq_ok.1 h
  obtain ⟨u', -, h⟩ := Outcome.bind_eq_ok.1 h
  cases h
  refine ⟨own, ho, rfl, fun hup => ?_⟩
  unfold checkKey at hk
  split at hk
  · cases hk
  · rename_i hn
    rw [hup, List.isEmpty_nil, Bool.true_and, Bool.not_eq_true, Bool.not_eq_false'] at hn
    exact List.any_eq_true.1 hn

theorem extendColumns_eq_ok {passed : List Column} (h : extendColumns cfg c o d base passed = .ok cols) :
    ∃ keys, ownForeignKeys cfg c o.relationships = .ok keys ∧
      cols = base ++ (passed.filter (·.isForeignKey)).map Column.inheritedCopy ++ keys ∧
      (cols.map (·.name)).Nodup := by
  unfold extendColumns at h
  obtain ⟨keys, hk, h⟩ := Outcome.bind_eq_ok.1 h
  obtain ⟨u, hd, h⟩ := Outcome.bind_eq_ok.1 h
  cases h
  exact ⟨keys, hk, rfl, Column.checkDistinct_eq_ok.1 hd⟩

/-- **No base column is a foreign key.** -/
theorem isForeignKey_of_mem_base : ∀ {up : List EntityDescriptor} {d : EntityDescriptor} {base : List Column},
    baseColumns cfg c d up = .ok base → ∀ col ∈ base, col.isForeignKey = false
  | [], d, base, h, col, hc => by
    obtain ⟨o, -, h⟩ := baseColumns_root h
    obtain ⟨own, ho, rfl, -⟩ := extendBase_eq_ok h
    exact (of_mem_ownColumns ho hc).2.1
  | p :: up, d, base, h, col, hc => by
    obtain ⟨o, passed, -, hp, h⟩ := baseColumns_child h
    obtain ⟨own, ho, rfl, -⟩ := extendBase_eq_ok h
    rcases List.mem_append.1 hc with hc | hc
    · obtain ⟨colP, hcp, rfl⟩ := List.mem_map.1 hc
      exact isForeignKey_of_mem_base hp colP (List.mem_filter.1 hcp).1
    · exact (of_mem_ownColumns ho hc).2.1

theorem isForeignKey_of_mem_keys {rs : List Relationship} {keys : List Column}
    (h : ownForeignKeys cfg c rs = .ok keys) : ∀ col ∈ keys, col.isForeignKey = true := by
  intro col hc
  obtain ⟨r, -, -, target, tbase, j, isOnly, -, -, -, rfl⟩ := of_mem_ownForeignKeys h hc
  rfl

theorem inherited_of_mem_keys {rs : List Relationship} {keys : List Column}
    (h : ownForeignKeys cfg c rs = .ok keys) : ∀ col ∈ keys, col.inherited = false := by
  intro col hc
  obtain ⟨r, -, -, target, tbase, j, isOnly, -, -, -, rfl⟩ := of_mem_ownForeignKeys h hc
  rfl

theorem Settled.exists_passed (s : Settled cfg c d up o base cols given) :
    ∃ passed, extendColumns cfg c o d base passed = .ok cols := by
  cases up with
  | nil => exact ⟨[], s.root.2.1⟩
  | cons p up =>
    obtain ⟨b, oc, passed, hb, ho, -, h⟩ := columns_child s.columns
    cases s.base.symm.trans hb
    cases s.outline.symm.trans ho
    exact ⟨passed, h⟩

/-- The base columns are the columns that are no foreign keys. -/
theorem Settled.base_eq (s : Settled cfg c d up o base cols given) : cols.filter (!·.isForeignKey) = base := by
  obtain ⟨passed, h⟩ := s.exists_passed
  obtain ⟨keys, hk, rfl, -⟩ := extendColumns_eq_ok h
  have hb := isForeignKey_of_mem_base s.base
  rw [List.filter_append, List.filter_append, List.filter_eq_self.2 fun x hx => by rw [hb x hx]; rfl,
    List.filter_eq_nil_iff.2, List.filter_eq_nil_iff.2, List.append_nil, List.append_nil]
  · intro x hx
    rw [isForeignKey_of_mem_keys hk x hx]
    simp
  · intro x hx
    obtain ⟨y, hy, rfl⟩ := List.mem_map.1 hx
    rw [Column.isForeignKey_inheritedCopy, (List.mem_filter.1 hy).2]
    simp

theorem Settled.baseColumnsOf_eq (s : Settled cfg c d up o base cols given) :
    baseColumnsOf cfg c d = .ok ((entity cfg c d).columns.filter (!·.isForeignKey)) := by
  rw [s.entity_columns, s.base_eq]
  exact Outcome.bind_eq_ok.2 ⟨up, s.above, s.base⟩

namespace Maps

variable (m : Maps cfg c g)
include m

/-! ## The columns of an entity -/

/-- **The columns of an entity, in their order**, from those of its parent and from its own declarations. -/
theorem columns_eq (he : e ∈ g.entities) : ∃ up own keys, c.above e.descriptor = .ok up ∧
    ownColumns c e.strategy e.descriptor up = .ok own ∧ ownForeignKeys cfg c e.relationships = .ok keys ∧
    e.columns = g.passedBase e ++ own ++ g.passedKeys e ++ keys := by
  obtain rfl := m.graph_eq
  obtain ⟨d, up, o, base, cols, given, rfl, s⟩ := m.exists_settled he
  rw [s.entity_columns, s.entity_strategy, s.entity_relationships]
  cases up with
  | nil =>
    obtain ⟨hb, hc, -⟩ := s.root
    obtain ⟨own, ho, hbase, -⟩ := extendBase_eq_ok hb
    obtain ⟨keys, hk, rfl, -⟩ := extendColumns_eq_ok hc
    refine ⟨[], own, keys, s.above, ho, hk, ?_⟩
    unfold Graph.passedBase Graph.passedKeys
    rw [graph_parent?, Catalog.above_nil s.above, hbase]
    rfl
  | cons p up =>
    obtain ⟨op, baseP, colsP, givenP, sp⟩ := m.settled_parent s
    obtain ⟨-, hb, hc, -⟩ := s.child sp
    obtain ⟨own, ho, rfl, -⟩ := extendBase_eq_ok hb
    obtain ⟨keys, hk, rfl, -⟩ := extendColumns_eq_ok hc
    refine ⟨p :: up, own, keys, s.above, ho, hk, ?_⟩
    unfold Graph.passedBase Graph.passedKeys
    rw [graph_parent?, (Catalog.above_cons s.above).1, s.entity_strategy]
    show _ = (((entity cfg c p).columns.filter (!·.isForeignKey)).filter (passedOn o.strategy)).map _ ++ own ++
      (if o.strategy = .tablePerClass then (entity cfg c p).columns.filter (·.isForeignKey) else []).map _ ++ keys
    rw [sp.entity_columns, sp.base_eq]
    congr 3
    split <;> rfl

/-- **No two columns of an entity have one name.** -/
theorem columns_nodup (he : e ∈ g.entities) : (e.columns.map (·.name)).Nodup := by
  obtain rfl := m.graph_eq
  obtain ⟨d, up, o, base, cols, given, rfl, s⟩ := m.exists_settled he
  obtain ⟨passed, h⟩ := s.exists_passed
  obtain ⟨-, -, -, hn⟩ := extendColumns_eq_ok h
  rw [s.entity_columns]
  exact hn

theorem eq_of_columnName {col col' : Column} (he : e ∈ g.entities) (hc : col ∈ e.columns) (hc' : col' ∈ e.columns)
    (h : col.name = col'.name) : col = col' :=
  List.inj_on_of_nodup_map (m.columns_nodup he) hc hc' h

theorem ownNames_nodup (he : e ∈ g.entities) : (e.ownColumns.map (·.name)).Nodup :=
  (m.columns_nodup he).sublist (List.filter_sublist.map _)

theorem ownColumns_eq (he : e ∈ g.entities) : ∃ up own keys, c.above e.descriptor = .ok up ∧
    ownColumns c e.strategy e.descriptor up = .ok own ∧ ownForeignKeys cfg c e.relationships = .ok keys ∧
    e.ownColumns = own ++ keys := by
  obtain ⟨up, own, keys, hup, ho, hk, hc⟩ := m.columns_eq he
  refine ⟨up, own, keys, hup, ho, hk, ?_⟩
  have hcopies : ∀ l : List Column, (l.map Column.inheritedCopy).filter (!·.inherited) = [] := by
    intro l
    refine List.filter_eq_nil_iff.2 fun x hx => ?_
    obtain ⟨y, -, rfl⟩ := List.mem_map.1 hx
    simp
  unfold Entity.ownColumns
  rw [hc, List.filter_append, List.filter_append, List.filter_append, Graph.passedBase, Graph.passedKeys, hcopies,
    hcopies, List.nil_append, List.append_nil, List.filter_eq_self.2, List.filter_eq_self.2]
  · intro x hx
    rw [inherited_of_mem_keys hk x hx]
    rfl
  · intro x hx
    rw [(of_mem_ownColumns ho hx).1]
    rfl

theorem declaredBy_of_own (he : e ∈ g.entities) {col : Column} (hc : col ∈ e.ownColumns) :
    col.declaredBy = e.typeName := by
  obtain ⟨up, own, keys, -, ho, hk, hoc⟩ := m.ownColumns_eq he
  rw [hoc] at hc
  rcases List.mem_append.1 hc with hc | hc
  · exact (of_mem_ownColumns ho hc).2.2.1
  · obtain ⟨r, hr, -, target, tbase, j, isOnly, -, -, -, rfl⟩ := of_mem_ownForeignKeys hk hc
    obtain rfl := m.graph_eq
    obtain ⟨d, up, o, base, cols, given, rfl, s⟩ := m.exists_settled he
    rw [s.entity_relationships] at hr
    obtain ⟨_, -, hcl⟩ := Relationship.of_mem_ofEntity (outline_eq_ok.1 s.outline).2.2 hr
    exact (Relationship.classify_eq_ok hcl).1

/-- **An inherited column is a copy of a column of the parent.** -/
theorem exists_copied (he : e ∈ g.entities) {col : Column} (hc : col ∈ e.columns) (hi : col.inherited = true) :
    ∃ p, g.parent? e = some p ∧ ∃ colP ∈ p.columns, colP.inheritedCopy = col := by
  obtain ⟨up, own, keys, -, ho, hk, hcs⟩ := m.columns_eq he
  rw [hcs, List.mem_append, List.mem_append, List.mem_append] at hc
  rcases hc with ((hc | hc) | hc) | hc
  · obtain ⟨p, hp, colP, hcp, -, rfl⟩ := Graph.mem_passedBase hc
    exact ⟨p, hp, colP, hcp, rfl⟩
  · rw [(of_mem_ownColumns ho hc).1] at hi
    cases hi
  · obtain ⟨p, hp, colP, hcp, -, rfl⟩ := Graph.mem_passedKeys hc
    exact ⟨p, hp, colP, hcp, rfl⟩
  · rw [inherited_of_mem_keys hk col hc] at hi
    cases hi

/-- All columns of a root are its own. -/
theorem ownColumns_root (he : e ∈ g.entities) (hp : g.parent? e = none) : e.ownColumns = e.columns := by
  refine List.filter_eq_self.2 fun col hc => ?_
  cases hi : col.inherited with
  | false => rfl
  | true =>
    obtain ⟨p, hp', -⟩ := m.exists_copied he hc hi
    rw [hp] at hp'
    cases hp'

/-- **Every column of an entity is an own column of an entity on the way to it, or a copy of one.** -/
theorem exists_own (he : e ∈ g.entities) : ∀ col ∈ e.columns, ∃ x ∈ g.ancestry e, col.original ∈ x.ownColumns := by
  have hown : ∀ e : Entity, ∀ col ∈ e.columns, col.inherited = false → col.original ∈ e.ownColumns := by
    intro e col hc hi
    rw [Column.original_of_own hi]
    exact List.mem_filter.2 ⟨hc, by rw [hi]; rfl⟩
  induction e, he using m.induct with
  | root e he hp =>
    intro col hc
    cases hi : col.inherited with
    | false => exact ⟨e, g.self_mem_ancestry e, hown e col hc hi⟩
    | true =>
      obtain ⟨p, hp', -⟩ := m.exists_copied he hc hi
      rw [hp] at hp'
      cases hp'
  | child e he p hpm hp ih =>
    intro col hc
    cases hi : col.inherited with
    | false => exact ⟨e, g.self_mem_ancestry e, hown e col hc hi⟩
    | true =>
      -- the parent's column, and so its copy, is one of an entity on the way to the parent
      obtain ⟨p', hp', colP, hcp, rfl⟩ := m.exists_copied he hc hi
      cases hp.symm.trans hp'
      obtain ⟨x, hx, hxc⟩ := ih colP hcp
      refine ⟨x, ?_, hxc⟩
      rw [m.ancestry_child he hp]
      exact List.mem_append_left _ hx

/-! ## Foreign keys -/

theorem relationships_eq (he : e ∈ g.entities) :
    Relationship.ofEntity c e.descriptor = .ok e.relationships := by
  obtain rfl := m.graph_eq
  obtain ⟨d, up, o, base, cols, given, rfl, s⟩ := m.exists_settled he
  rw [s.entity_relationships]
  exact (outline_eq_ok.1 s.outline).2.2

/-- **An own foreign-key column comes from an owning relationship of its entity**, and refers to a column of the
relationship's target that is no foreign key itself. -/
theorem own_foreignKey (he : e ∈ g.entities) {col : Column} (hc : col ∈ e.ownColumns) {key : ForeignKey}
    (hk : col.foreignKey? = some key) : col.primaryKey = false ∧ ∃ r ∈ e.relationships, r.hasForeignKey = true ∧
      key.relationship = r.field ∧ key.entity = r.target ∧ ∃ t ∈ g.entities, t.typeName = r.target ∧
        ∃ rc ∈ t.columns, rc.isForeignKey = false ∧ rc.name = key.referenced ∧ rc.type = col.type := by
  obtain ⟨up, own, keys, -, ho, hkeys, hoc⟩ := m.ownColumns_eq he
  rw [hoc] at hc
  rcases List.mem_append.1 hc with hc | hc
  · have hn := (of_mem_ownColumns ho hc).2.1
    rw [Column.isForeignKey, hk] at hn
    cases hn
  · obtain ⟨r, hr, hfk, target, tbase, j, isOnly, ht, hb, hj, rfl⟩ := of_mem_ownForeignKeys hkeys hc
    cases hk
    obtain ⟨htm, htn⟩ := Catalog.find?_eq_some_iff.1 ht
    obtain ⟨upT, oT, baseT, colsT, givenT, sT⟩ := m.settled htm
    rw [sT.baseColumnsOf_eq] at hb
    cases hb
    obtain ⟨hj, hjn⟩ := List.mem_filter.1 hj
    obtain rfl := m.graph_eq
    exact ⟨rfl, r, hr, hfk, rfl, rfl, entity cfg c target, mem_graph.2 ⟨target, htm, rfl⟩, htn, j.referenced, hj,
      by simpa using hjn, rfl, rfl⟩

/-- A foreign-key column is one of an entity on the way from the root. -/
theorem foreignKey_of_mem (he : e ∈ g.entities) {col : Column} (hc : col ∈ e.columns) {key : ForeignKey}
    (hk : col.foreignKey? = some key) : ∃ x ∈ g.ancestry e, col.original ∈ x.ownColumns ∧
      col.original.foreignKey? = some key ∧ col.declaredBy = x.typeName := by
  obtain ⟨x, hx, hxc⟩ := m.exists_own he col hc
  have hd := m.declaredBy_of_own (m.mem_of_ancestry he hx) hxc
  exact ⟨x, hx, hxc, hk, hd⟩

/-! ## Keys -/

theorem isForeignKey_of_primaryKey (he : e ∈ g.entities) {col : Column} (hc : col ∈ e.columns)
    (hp : col.primaryKey = true) : col.isForeignKey = false := by
  cases hk : col.foreignKey? with
  | none => rw [Column.isForeignKey, hk]; rfl
  | some key =>
    obtain ⟨x, hx, hxc, hxk, -⟩ := m.foreignKey_of_mem he hc hk
    have := (m.own_foreignKey (m.mem_of_ancestry he hx) hxc hxk).1
    rw [show col.original.primaryKey = col.primaryKey from rfl, hp] at this
    cases this

/-! ## Inherited columns -/

/-- The inherited columns of an entity are those that its parent passes on. -/
theorem inherited_eq_passed (he : e ∈ g.entities) :
    e.columns.filter (·.inherited) = g.passedBase e ++ g.passedKeys e := by
  obtain ⟨up, own, keys, -, ho, hk, hc⟩ := m.columns_eq he
  have hcopies : ∀ l : List Column, (l.map Column.inheritedCopy).filter (·.inherited) = l.map Column.inheritedCopy := by
    intro l
    refine List.filter_eq_self.2 fun x hx => ?_
    obtain ⟨y, -, rfl⟩ := List.mem_map.1 hx
    rfl
  have hown : own.filter (·.inherited) = [] :=
    List.filter_eq_nil_iff.2 fun x hx => by simp [(of_mem_ownColumns ho hx).1]
  have hkeys : keys.filter (·.inherited) = [] :=
    List.filter_eq_nil_iff.2 fun x hx => by simp [inherited_of_mem_keys hk x hx]
  rw [hc, List.filter_append, List.filter_append, List.filter_append, hown, hkeys, Graph.passedBase, Graph.passedKeys,
    hcopies, hcopies, List.append_nil, List.append_nil]

/-- **The base columns of an entity stand before its foreign keys.** -/
theorem columns_split (he : e ∈ g.entities) :
    e.columns = e.columns.filter (!·.isForeignKey) ++ e.columns.filter (·.isForeignKey) := by
  obtain rfl := m.graph_eq
  obtain ⟨d, up, o, base, cols, given, rfl, s⟩ := m.exists_settled he
  obtain ⟨passed, h⟩ := s.exists_passed
  obtain ⟨keys, hk, hcols, -⟩ := extendColumns_eq_ok h
  have hbase : base.filter (·.isForeignKey) = [] :=
    List.filter_eq_nil_iff.2 fun x hx => by simp [isForeignKey_of_mem_base s.base x hx]
  have hpassed : ((passed.filter (·.isForeignKey)).map Column.inheritedCopy).filter (·.isForeignKey) =
      (passed.filter (·.isForeignKey)).map Column.inheritedCopy := by
    refine List.filter_eq_self.2 fun x hx => ?_
    obtain ⟨y, hy, rfl⟩ := List.mem_map.1 hx
    exact (List.mem_filter.1 hy).2
  have hkeys : keys.filter (·.isForeignKey) = keys := List.filter_eq_self.2 (isForeignKey_of_mem_keys hk)
  rw [s.entity_columns, s.base_eq, hcols, List.filter_append, List.filter_append, hbase, hpassed, hkeys,
    List.nil_append, List.append_assoc]

/-- **The inherited columns of a child, in their order, are copies of its parent's**: of all of them where each class
has a table of its own, else of the key columns. -/
theorem inherited_eq (he : e ∈ g.entities) (h : g.parent? e = some p) : e.columns.filter (·.inherited) =
    (if e.strategy = .tablePerClass then p.columns else p.primaryKeys).map Column.inheritedCopy := by
  have hpm := m.mem_of_parent? h
  rw [m.inherited_eq_passed he]
  unfold Graph.passedBase Graph.passedKeys
  rw [h, Option.elim_some, Option.elim_some, ← List.map_append]
  congr 1
  by_cases ht : e.strategy = .tablePerClass
  · have hall : ∀ x : Column, passedOn e.strategy x = true := fun x => by rw [passedOn, ht]; rfl
    rw [if_pos ht, if_pos ht, List.filter_eq_self.2 fun x _ => hall x, ← m.columns_split hpm]
  · -- no key column is a foreign key, so that the first step takes every key column over
    rw [if_neg ht, if_neg ht, List.append_nil, List.filter_filter]
    refine List.filter_congr fun x hx => ?_
    have hs : (e.strategy == .tablePerClass) = false := by simpa using ht
    rw [passedOn, hs, Bool.false_or]
    cases hxk : x.primaryKey with
    | false => rfl
    | true => rw [m.isForeignKey_of_primaryKey hpm hx hxk]; rfl

/-! ## Keys of a child -/

/-- An entity with a parent declares no key. -/
theorem primaryKey_of_own (he : e ∈ g.entities) (h : g.parent? e = some p) {col : Column} (hc : col ∈ e.ownColumns) :
    col.primaryKey = false := by
  obtain ⟨up, own, keys, hup, ho, hk, hoc⟩ := m.ownColumns_eq he
  rw [hoc] at hc
  cases hp : col.primaryKey with
  | false => rfl
  | true =>
    rcases List.mem_append.1 hc with hc | hc
    · -- a declared key stands at a root, above which there is nothing
      rw [(of_mem_ownColumns ho hc).2.2.2 hp] at hup
      obtain rfl := m.graph_eq
      obtain ⟨d, -, rfl⟩ := mem_graph.1 he
      have hroot : c.parent? d = none := Catalog.above_nil hup
      rw [graph_parent?, hroot] at h
      cases h
    · obtain ⟨r, -, -, target, tbase, j, isOnly, -, -, -, rfl⟩ := of_mem_ownForeignKeys hk hc
      cases hp

/-- **The key columns of a child are copies of its parent's**, in their order. -/
theorem primaryKeys_child (he : e ∈ g.entities) (h : g.parent? e = some p) :
    e.primaryKeys = p.primaryKeys.map Column.inheritedCopy := by
  have hinherited : ∀ x ∈ e.columns, x.primaryKey = true → x.inherited = true := by
    intro x hx hk
    by_contra hi
    have hown := m.primaryKey_of_own he h (List.mem_filter.2 ⟨hx, by simpa using hi⟩)
    exact Bool.false_ne_true (hown.symm.trans hk)
  have hkeys : e.primaryKeys = (e.columns.filter (·.inherited)).filter (·.primaryKey) := by
    rw [List.filter_filter]
    refine List.filter_congr fun x hx => ?_
    cases hk : x.primaryKey with
    | false => rfl
    | true => rw [hinherited x hx hk]; rfl
  rw [hkeys, m.inherited_eq he h, List.filter_map]
  congr 1
  split
  · rfl
  · exact List.filter_eq_self.2 fun x hx => (List.mem_filter.1 hx).2

theorem keyNames_child (he : e ∈ g.entities) (h : g.parent? e = some p) :
    e.primaryKeys.map (·.name) = p.primaryKeys.map (·.name) := by
  rw [m.primaryKeys_child he h, List.map_map]
  rfl

/-- **Every entity has a key.** -/
theorem primaryKeys_ne_nil (he : e ∈ g.entities) : e.primaryKeys ≠ [] := by
  induction e, he using m.induct with
  | root e he hp =>
    obtain rfl := m.graph_eq
    obtain ⟨d, up, o, base, cols, given, rfl, s⟩ := m.exists_settled he
    rw [graph_parent?, Option.map_eq_none_iff] at hp
    cases up with
    | cons p up => rw [(Catalog.above_cons s.above).1] at hp; cases hp
    | nil =>
      obtain ⟨hb, hc, -⟩ := s.root
      obtain ⟨own, -, -, hkey⟩ := extendBase_eq_ok hb
      obtain ⟨col, hcol, hpk⟩ := hkey rfl
      rw [← s.base_eq] at hcol
      refine List.ne_nil_of_mem (a := col) (List.mem_filter.2 ⟨?_, hpk⟩)
      rw [s.entity_columns]
      exact (List.mem_filter.1 hcol).1
  | child e he p _ hp ih =>
    rw [m.primaryKeys_child he hp]
    exact fun h => ih (List.map_eq_nil_iff.1 h)

end Maps
end Resolution
end Ormap
