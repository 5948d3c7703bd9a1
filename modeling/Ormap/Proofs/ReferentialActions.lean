import Ormap.Proofs.Clauses
import Ormap.Proofs.Mirrors
/-!
# Referential actions — which of the declared ones a clause carries

A join column may declare what its foreign key does when the row it refers to changes or goes, and the column that it
produces keeps that.  But a clause is over all columns of its relationship, and has the actions of the first one.  So
what a later join column declares is lost, unless the first one says the same
(`Database.declared_actions_kept_iff`).
-/
namespace Ormap

/-- What a foreign key does when the row it refers to changes, and when it goes. -/
structure ReferentialActions where
  onUpdate : ReferentialAction
  onDelete : ReferentialAction
deriving DecidableEq, Repr

def ForeignKey.actions (key : ForeignKey) : ReferentialActions := ⟨key.onUpdate, key.onDelete⟩

def ForeignKeyClause.actions (k : ForeignKeyClause) : ReferentialActions := ⟨k.onUpdate, k.onDelete⟩

/-- The actions of relationships that declare none. -/
def Config.foreignKeyActions (cfg : Config) : ReferentialActions := ⟨cfg.defaultOnUpdate, cfg.defaultOnDelete⟩

namespace JoinColumnDescriptor

/-- The actions of a join column, those of `fallback` where it declares none. -/
def actions (j : JoinColumnDescriptor) (fallback : ReferentialActions) : ReferentialActions :=
  ⟨j.onUpdate.getD fallback.onUpdate, j.onDelete.getD fallback.onDelete⟩

/-- Whether actions are those that a join column declares, as far as it declares any. -/
def KeptBy (j : JoinColumnDescriptor) (a : ReferentialActions) : Prop :=
  (∀ u, j.onUpdate = some u → a.onUpdate = u) ∧ ∀ d, j.onDelete = some d → a.onDelete = d

instance (j : JoinColumnDescriptor) (a : ReferentialActions) : Decidable (j.KeptBy a) :=
  decidable_of_iff (j.onUpdate.all (a.onUpdate = ·) = true ∧ j.onDelete.all (a.onDelete = ·) = true)
    (by simp [KeptBy, Option.all_eq_true])

/-- Whether each clause of a statement over a column carries the actions that a join column declares. -/
def KeptIn (j : JoinColumnDescriptor) (col : Column) (t : CreateTable) : Prop :=
  ∀ k ∈ t.foreignKeys, col.name ∈ k.columns → j.KeptBy k.actions

/-- Whether a column is what a join column produces: a foreign key with the actions and the names that it declares. -/
def Produces (j : JoinColumnDescriptor) (fallback : ReferentialActions) (col : Column) : Prop :=
  (∀ n, j.name = some n → col.name = n) ∧ ∃ key, col.foreignKey? = some key ∧
    (∀ n, j.referencedColumn = some n → key.referenced = n) ∧ key.actions = j.actions fallback

end JoinColumnDescriptor

/-- The actions of the first of some join columns, those of `fallback` where it declares none. -/
def leadingActions (declared : List JoinColumnDescriptor) (fallback : ReferentialActions) : ReferentialActions :=
  (declared.head?.map (·.actions fallback)).getD fallback

/-- Join columns that are declared together, with the columns that are produced for them. -/
structure JoinGroup where
  declared : List JoinColumnDescriptor
  /-- The actions where none is declared. -/
  fallback : ReferentialActions
  columns : List Column

namespace JoinGroup

variable {G : JoinGroup} {t : CreateTable} {a : ReferentialActions}

/-- Whether each join column produces a column, in order, and the first column has the actions of the first one.  Where
no join column is declared there are columns all the same. -/
structure Produced (G : JoinGroup) : Prop where
  each : G.declared ≠ [] → List.Forall₂ (·.Produces G.fallback) G.declared G.columns
  first : ∃ key, G.columns.head?.bind (·.foreignKey?) = some key ∧ key.actions = leadingActions G.declared G.fallback

/-- Whether a statement has one clause over the columns, and no other over any of them, with some actions; so a join
column is kept exactly when these are what it declares. -/
structure StatedIn (G : JoinGroup) (t : CreateTable) (a : ReferentialActions) : Prop where
  clause : ∃ k ∈ t.foreignKeys, k.actions = a ∧ ∀ col ∈ G.columns, ∀ k' ∈ t.foreignKeys, col.name ∈ k'.columns ↔ k' = k
  kept_iff : ∀ p ∈ G.declared.zip G.columns, p.1.KeptIn p.2 t ↔ p.1.KeptBy a

/-- **A join column is kept when the actions of the one clause keep it.** -/
theorem statedIn_of_clause {k : ForeignKeyClause} (hk : k ∈ t.foreignKeys) (ha : k.actions = a)
    (honly : ∀ col ∈ G.columns, ∀ k' ∈ t.foreignKeys, col.name ∈ k'.columns ↔ k' = k) : G.StatedIn t a := by
  refine ⟨⟨k, hk, ha, honly⟩, fun p hp => ?_⟩
  have honly := honly p.2 (List.of_mem_zip hp).2
  constructor
  · intro hkept
    rw [← ha]
    exact hkept k hk ((honly k hk).2 rfl)
  · intro hkept k' hk' hcol
    rwa [(honly k' hk').1 hcol, ha]

end JoinGroup

/-! ## The columns of a group -/

namespace Resolution

variable {cfg : Config} {c : Catalog} {r : Relationship} {cols : List Column}

theorem name_of_referencedColumn {target n : String} {columns keys : List Column} {j : JoinColumnDescriptor}
    {col : Column} (h : referencedColumn target columns keys j = .ok col) (hn : j.referencedColumn = some n) :
    col.name = n := by
  unfold referencedColumn at h
  rw [hn] at h
  dsimp only at h
  split at h
  · rename_i hf
    cases h
    simpa using List.find?_some hf
  · cases h

/-- **Columns are the group of the join columns that they are made of**, when they have their names, references and
actions. -/
theorem produced_of_joinColumns {declared : List JoinColumnDescriptor} {target : String} {columns : List Column}
    {defaultName : String → String} {js : List JoinColumn} {fallback : ReferentialActions}
    {column : JoinColumn → Column} (h : joinColumns declared target columns defaultName = .ok js)
    (hcolumn : ∀ j, (column j).name = j.name ∧ ∃ key, (column j).foreignKey? = some key ∧
      key.referenced = j.referenced.name ∧
      key.actions = ⟨j.onUpdate.getD fallback.onUpdate, j.onDelete.getD fallback.onDelete⟩) :
    JoinGroup.Produced ⟨declared, fallback, js.map column⟩ := by
  obtain ⟨hkeys, ⟨rfl, rfl⟩ | ⟨hne, hall⟩⟩ := joinColumns_eq_ok h
  · obtain ⟨first, rest, hfirst⟩ := List.exists_cons_of_ne_nil hkeys
    obtain ⟨-, key, hkey, -, hactions⟩ := hcolumn (JoinColumn.ofKey defaultName first)
    refine ⟨fun hne => absurd rfl hne, key, ?_, hactions⟩
    rw [hfirst]
    exact hkey
  · have hproduces : ∀ jd j, (∃ col, referencedColumn target columns (columns.filter (·.primaryKey)) jd = .ok col ∧
        j = JoinColumn.ofDeclared defaultName jd col) → jd.Produces fallback (column j) := by
      rintro jd _ ⟨col, hcol, rfl⟩
      obtain ⟨hname, key, hkey, hreferenced, hactions⟩ := hcolumn (JoinColumn.ofDeclared defaultName jd col)
      refine ⟨fun n hn => ?_, key, hkey, fun n hn => ?_, hactions⟩
      · rw [hname]
        show jd.name.getD _ = n
        rw [hn]
        rfl
      · rw [hreferenced]
        exact name_of_referencedColumn hcol hn
    have heach : List.Forall₂ (·.Produces fallback) declared (js.map column) :=
      List.forall₂_map_right_iff.2 (hall.imp fun jd j hj => hproduces jd j hj)
    refine ⟨fun _ => heach, ?_⟩
    obtain ⟨first, rest, rfl⟩ := List.exists_cons_of_ne_nil hne
    obtain ⟨col, more, ⟨-, key, hkey, -, hactions⟩, -, hcols⟩ := List.forall₂_cons_left_iff.1 heach
    refine ⟨key, ?_, hactions⟩
    dsimp only
    rw [hcols]
    exact hkey

/-- **The columns of a relationship to one object** are those of its join columns. -/
theorem produced_of_foreignKeysOf (h : foreignKeysOf cfg c r = .ok cols) :
    JoinGroup.Produced ⟨r.joinColumns, cfg.foreignKeyActions, cols⟩ := by
  obtain ⟨target, base, -, -, hcols⟩ := foreignKeysOf_eq_ok h
  obtain ⟨js, hjs, rfl⟩ := relationshipColumns_eq_ok hcols
  exact produced_of_joinColumns hjs fun j => ⟨rfl, _, rfl, rfl, rfl⟩

end Resolution

namespace JoinTable

/-- Rows of a join table go with the rows that they join. -/
def actions : ReferentialActions := ⟨.cascade, .cascade⟩

/-- The groups of a join table: the columns towards each side of its relationship. -/
def groups (t : JoinTable) (r : Relationship) : List JoinGroup :=
  let declared := r.joinTable.getD {}
  [⟨declared.joinColumns, actions, t.direct⟩, ⟨declared.inverseJoinColumns, actions, t.inverse⟩]

theorem produced_of_group {field table : String} {declared : List JoinColumnDescriptor} {side : Entity}
    {cols : List Column} (h : group field declared side table = .ok cols) :
    JoinGroup.Produced ⟨declared, actions, cols⟩ := by
  unfold group at h
  obtain ⟨js, hjs, h⟩ := Outcome.bind_eq_ok.1 h
  cases h
  exact Resolution.produced_of_joinColumns hjs fun j => ⟨rfl, _, rfl, rfl, rfl⟩

end JoinTable

/-! ## The clause of a group -/

namespace Graph

variable {g : Graph} {source target : Entity} {groups : List (List Column)} {group : List Column}
  {toParent clauses : List ForeignKeyClause}

theorem columns_of_groupClause {k : ForeignKeyClause} (h : g.groupClause source group = .ok (some k)) :
    k.columns = group.map (·.name) := by
  unfold groupClause at h
  split at h
  · cases h
  · obtain ⟨target, -, h⟩ := Outcome.bind_eq_ok.1 h
    obtain ⟨table, -, h⟩ := Outcome.bind_eq_ok.1 h
    cases h
    rfl

/-- **A group has one clause, with the actions of its first column**, and no other clause is over any of its columns,
when neither the clauses before nor the other groups have a column of one name with it. -/
theorem exists_only_clause {key : ForeignKey} (h : g.groupClauses source groups = .ok clauses) (hg : group ∈ groups)
    (hkey : group.head?.bind (·.foreignKey?) = some key) (ht : g.find? key.entity = some target)
    (hparent : ∀ k ∈ toParent, ∀ col ∈ group, col.name ∉ k.columns)
    (hapart : ∀ group' ∈ groups, ∀ col ∈ group, ∀ col' ∈ group', col'.name = col.name → group' = group) :
    ∃ k ∈ toParent ++ clauses, k.actions = key.actions ∧
      ∀ col ∈ group, ∀ k' ∈ toParent ++ clauses, col.name ∈ k'.columns ↔ k' = k := by
  obtain ⟨first, hfirst, hkey⟩ := Option.bind_eq_some_iff.1 hkey
  obtain ⟨k?, hk, hmem⟩ := exists_of_groupClauses h hg
  obtain ⟨k, rfl, -, hcolumns, -, hupdate, hdelete⟩ := groupClause_eq_ok hfirst hkey ht hk
  have hactions : k.actions = key.actions := by
    unfold ForeignKeyClause.actions ForeignKey.actions
    rw [hupdate, hdelete]
  refine ⟨k, List.mem_append_right _ (hmem k rfl), hactions, fun col hc k' hk' => ⟨fun hn => ?_, ?_⟩⟩
  · rcases List.mem_append.1 hk' with hk' | hk'
    · exact absurd hn (hparent k' hk' col hc)
    obtain ⟨group', hg', hk'⟩ := mem_of_groupClauses h hk'
    rw [columns_of_groupClause hk'] at hn
    obtain ⟨col', hc', hname⟩ := List.mem_map.1 hn
    obtain rfl := hapart group' hg' col hc col' hc' hname
    exact Option.some.inj (Except.ok.inj (hk'.symm.trans hk))
  · rintro rfl
    rw [hcolumns]
    exact List.mem_map_of_mem hc

/-- The script creates the join table of every relationship that owns one. -/
theorem exists_createJoinTable {x : Entity} {r : Relationship} {ts : List CreateTable} (hts : g.schema = .ok ts)
    (hx : x ∈ g.entities) (hr : r ∈ x.relationships) (hjoin : r.hasJoinTable = true) :
    ∃ j, g.joinTable r = .ok j ∧ ∃ t ∈ ts, g.createJoinTableOf r = .ok t := by
  obtain ⟨tables, joins, -, hj, rfl⟩ := schema_parts hts
  have hmem : r ∈ g.joinTableRelationships := List.mem_flatMap.2 ⟨x, hx, List.mem_filter.2 ⟨hr, hjoin⟩⟩
  obtain ⟨t, htm, ht⟩ := Outcome.exists_of_mem_left hj r hmem
  obtain ⟨j, _, hjt, -⟩ := createJoinTableOf_parts ht
  exact ⟨j, hjt, t, List.mem_append_right _ htm, ht⟩

end Graph

/-- Where only one item gives anything, a list gives what that item does. -/
theorem flatMap_eq_of_forall_ne {α β : Type} {f : α → List β} {a : α} : ∀ {l : List α}, l.Nodup →
    (∀ b ∈ l, b ≠ a → f b = []) → l.flatMap f ≠ [] → l.flatMap f = f a
  | [], _, _, hne => absurd rfl hne
  | b :: l, hnd, hf, hne => by
    obtain ⟨hnew, hnd⟩ := List.nodup_cons.1 hnd
    have hrest : ∀ x ∈ l, x ≠ a → f x = [] := fun x hx => hf x (List.mem_cons_of_mem _ hx)
    rw [List.flatMap_cons] at hne ⊢
    by_cases hb : b = a
    · subst hb
      rw [List.flatMap_eq_nil_iff.2 fun x hx => hrest x hx fun hxb => hnew (hxb ▸ hx), List.append_nil]
    · rw [hf b List.mem_cons_self hb, List.nil_append] at hne ⊢
      exact flatMap_eq_of_forall_ne hnd hrest hne

/-- The first owning relationship to one object that an entity has under the field of `r`; those of one field share
their clauses. -/
def Entity.firstOf (x : Entity) (r : Relationship) : Relationship :=
  ((x.relationships.filter (·.hasForeignKey)).find? (·.fieldName == r.fieldName)).getD r

theorem Entity.firstOf_eq {x : Entity} {r : Relationship} (h : x.NamesOnce r) : x.firstOf r = r := by
  unfold firstOf
  cases hf : (x.relationships.filter (·.hasForeignKey)).find? (·.fieldName == r.fieldName) with
  | none => rfl
  | some first =>
    obtain ⟨hfirst, hfk⟩ := List.mem_filter.1 (List.mem_of_find?_eq_some hf)
    have hname := List.find?_some hf
    exact h first hfirst hfk (congrArg FieldName.field (beq_iff_eq.1 hname))

namespace Resolution
namespace Maps

variable {cfg : Config} {c : Catalog} {g : Graph} {o x : Entity} {r : Relationship} {ts : List CreateTable}
  {t : CreateTable} {cols : List Column} (m : Maps cfg c g)
include m

/-- **The first relationship that a table stores under a field** is the first one of the entity that declares it. -/
theorem head?_storedRelationships (ho : o ∈ g.entities) (hx : x ∈ g.entities) (hr : r ∈ x.relationships)
    (hne : (g.storedRelationships o).filter (·.fieldName == r.fieldName) ≠ []) :
    ((g.storedRelationships o).filter (·.fieldName == r.fieldName)).head? = some (x.firstOf r) := by
  obtain ⟨hnd, hholders⟩ := m.nodup_holders ho
  have hother : ∀ y ∈ g.holders o, y ≠ x →
      (y.relationships.filter (·.hasForeignKey)).filter (·.fieldName == r.fieldName) = [] := by
    intro y hy hyx
    refine List.filter_eq_nil_iff.2 fun r' hr' hname => hyx (m.eq_of_typeName (hholders y hy) hx ?_)
    rw [← m.source_of_mem (hholders y hy) (List.mem_filter.1 hr').1, ← m.source_of_mem hx hr]
    exact congrArg FieldName.entity (beq_iff_eq.1 hname)
  unfold Graph.storedRelationships at hne ⊢
  rw [List.filter_flatMap] at hne ⊢
  have hsame := flatMap_eq_of_forall_ne hnd hother hne
  rw [hsame] at hne ⊢
  obtain ⟨first, hfirst⟩ := Option.isSome_iff_exists.1 (List.isSome_head?.2 hne)
  rw [hfirst]
  rw [List.head?_filter] at hfirst
  unfold Entity.firstOf
  rw [hfirst]
  rfl

/-- No two groups of a table have columns of one name. -/
theorem group_eq_of_name (ho : o ∈ g.entities) {stored : List StoredColumn} (hst : g.tableColumns o = .ok stored)
    {name : FieldName} : ∀ group ∈ Graph.foreignKeyGroups (stored.map (·.column)),
      ∀ col ∈ Graph.fieldGroup stored name, ∀ col' ∈ group, col'.name = col.name →
        group = Graph.fieldGroup stored name := by
  intro group hg col hc col' hc' hname
  obtain ⟨name', -, rfl⟩ := List.mem_map.1 hg
  obtain ⟨⟨s, hs, rfl⟩, hk⟩ := Graph.mem_fieldGroup.1 hc
  obtain ⟨⟨s', hs', rfl⟩, hk'⟩ := Graph.mem_fieldGroup.1 (hc' : col' ∈ Graph.fieldGroup stored name')
  obtain rfl := m.eq_of_storedName ho hst hs' hs hname
  obtain rfl := Option.some.inj (hk.symm.trans hk')
  rfl

/-- **The first column of the group of a field has the actions of the first join column** of the first relationship of
the field. -/
theorem exists_leading_key (ho : o ∈ g.entities) (htable : o.tableName.isSome = true) {stored : List StoredColumn}
    (hst : g.tableColumns o = .ok stored) (hx : x ∈ g.entities) (hr : r ∈ x.relationships)
    (hne : Graph.fieldGroup stored r.fieldName ≠ []) :
    ∃ key T, (Graph.fieldGroup stored r.fieldName).head?.bind (·.foreignKey?) = some key ∧
      g.find? key.entity = some T ∧ key.actions = leadingActions (x.firstOf r).joinColumns cfg.foreignKeyActions := by
  obtain ⟨links, hrelationships, hcomplete, hlinks⟩ := m.stored_areColumnsOf ho htable hst
  have hlinked : Graph.fieldGroup stored r.fieldName = (Link.named links r.fieldName).flatMap (·.columns) :=
    Link.filter_groupKey hcomplete hlinks r.fieldName
  obtain ⟨l, rest, hnamed⟩ : ∃ l rest, Link.named links r.fieldName = l :: rest := by
    refine List.exists_cons_of_ne_nil fun hnil => hne ?_
    rw [hlinked, hnil, List.flatMap_nil]
  have hl : l.Complete cfg c :=
    hcomplete l (List.mem_filter.1 (hnamed ▸ List.mem_cons_self : l ∈ Link.named links r.fieldName)).1
  have hfilter : (g.storedRelationships o).filter (·.fieldName == r.fieldName) =
      l.relationship :: rest.map (·.relationship) := by
    rw [← List.map_cons (f := Link.relationship), ← hnamed, ← hrelationships, List.filter_map]
    rfl
  have hfirst : l.relationship = x.firstOf r := by
    have hhead := m.head?_storedRelationships ho hx hr (by rw [hfilter]; exact List.cons_ne_nil _ _)
    rw [hfilter] at hhead
    exact Option.some.inj hhead
  obtain ⟨col, more, hcolumns⟩ := List.exists_cons_of_ne_nil hl.columns_ne_nil
  obtain ⟨key, hkey, hentity, -⟩ := hl.foreignKey (hcolumns ▸ List.mem_cons_self)
  obtain ⟨key', hkey', hactions⟩ := (produced_of_foreignKeysOf hl).first
  rw [hcolumns] at hkey'
  cases hkey.symm.trans hkey'
  obtain ⟨T, hT⟩ := m.exists_target hl
  refine ⟨key, T, ?_, hentity ▸ hT, hfirst ▸ hactions⟩
  rw [hlinked, hnamed, List.flatMap_cons, hcolumns]
  exact hkey

/-- **A table that stores the columns of a relationship to one object states their group**, with the actions of the
first join column of the first relationship of the field. -/
theorem statedIn_of_stores (hts : g.schema = .ok ts) (ho : o ∈ g.entities) (ht : g.createTable o = .ok (some t))
    (hx : x ∈ g.entities) (hr : r ∈ x.relationships) (hcols : foreignKeysOf cfg c r = .ok cols)
    (hstores : g.Stores o cols) : JoinGroup.StatedIn ⟨r.joinColumns, cfg.foreignKeyActions, cols⟩ t
      (leadingActions (x.firstOf r).joinColumns cfg.foreignKeyActions) := by
  obtain ⟨htable, stored, toParent, toTargets, hst, -, -, -, hparent, hgroups, hkeys⟩ := Graph.createTable_eq_ok ht
  obtain ⟨stored', hst', hall⟩ := hstores
  cases hst.symm.trans hst'
  have hcopies : ∀ col ∈ cols, ∃ copy ∈ Graph.fieldGroup stored r.fieldName, copy.name = col.name := by
    intro col hc
    obtain ⟨s, hs, rfl⟩ := hall col hc
    have hname : Graph.groupKey? s.column.original = some r.fieldName :=
      (Link.complete_of_foreignKeysOf hcols).groupKey? hc
    exact ⟨s.column, Graph.mem_fieldGroup.2 ⟨⟨s, hs, rfl⟩, hname⟩, rfl⟩
  obtain ⟨col, hc⟩ := List.exists_mem_of_ne_nil _ (foreignKeysOf_ne_nil hcols)
  obtain ⟨copy, hcopy, -⟩ := hcopies col hc
  obtain ⟨key, T, hhead, hT, hactions⟩ :=
    m.exists_leading_key ho (Option.isSome_iff_exists.2 ⟨_, htable⟩) hst hx hr (List.ne_nil_of_mem hcopy)
  have hkey : ∀ k ∈ toParent, ∀ col ∈ Graph.fieldGroup stored r.fieldName, col.name ∉ k.columns := by
    intro k hk col hc
    obtain ⟨⟨s, hs, rfl⟩, hname⟩ := Graph.mem_fieldGroup.1 hc
    rw [(m.parentClauses_resolves hts ho hparent hk).1]
    exact m.name_not_mem_primaryKeys ho hst hs (Link.isForeignKey_of_groupKey hname)
  obtain ⟨k, hk, hka, honly⟩ := Graph.exists_only_clause hgroups (Graph.fieldGroup_mem hcopy) hhead hT hkey
    (m.group_eq_of_name ho hst)
  rw [← hkeys] at hk honly
  refine JoinGroup.statedIn_of_clause hk (hka.trans hactions) fun col hc k' hk' => ?_
  obtain ⟨copy, hcopy, hname⟩ := hcopies col hc
  rw [← hname]
  exact honly copy hcopy k' hk'

/-- The columns towards one side of a join table have their clause. -/
theorem statedIn_of_group {source side : Entity} {field table : String} {declared : List JoinColumnDescriptor}
    {groups : List (List Column)} (h : g.groupClauses source groups = .ok t.foreignKeys) (hside : side ∈ g.entities)
    (hcols : JoinTable.group field declared side table = .ok cols) (hmem : cols ∈ groups)
    (hapart : ∀ group ∈ groups, ∀ col ∈ cols, ∀ col' ∈ group, col'.name = col.name → group = cols) :
    JoinGroup.Produced ⟨declared, JoinTable.actions, cols⟩ ∧
      JoinGroup.StatedIn ⟨declared, JoinTable.actions, cols⟩ t (leadingActions declared JoinTable.actions) := by
  have hproduced := JoinTable.produced_of_group hcols
  obtain ⟨key, hkey, hactions⟩ := hproduced.first
  obtain ⟨first, hfirst, hk⟩ := Option.bind_eq_some_iff.1 hkey
  obtain ⟨key', hk', hentity, -⟩ := JoinTable.group_eq_ok hcols first (List.mem_of_mem_head? hfirst)
  cases hk.symm.trans hk'
  have hfind : g.find? key.entity = some side := m.find?_eq_some_iff.2 ⟨hside, hentity.symm⟩
  have hparent : ∀ k ∈ ([] : List ForeignKeyClause), ∀ col ∈ cols, col.name ∉ k.columns := fun k hk => nomatch hk
  obtain ⟨k, hkm, hka, honly⟩ := Graph.exists_only_clause h hmem hkey hfind hparent hapart
  exact ⟨hproduced, JoinGroup.statedIn_of_clause hkm (hka.trans hactions) honly⟩

/-- **A join table states both of its groups**, each with the actions of its own first join column. -/
theorem statedIn_of_joinTable {j : JoinTable} (hj : g.joinTable r = .ok j) (ht : g.createJoinTableOf r = .ok t) :
    ∀ G ∈ j.groups r, G.Produced ∧ G.StatedIn t (leadingActions G.declared G.fallback) := by
  obtain ⟨j', _, hj', -, -, -, -, -, hgroups⟩ := Graph.createJoinTableOf_parts ht
  cases hj.symm.trans hj'
  obtain ⟨source, target, hs, hT, hb⟩ := Graph.joinTable_eq_ok hj
  obtain ⟨sourceTable, targetTable, -, -, hd, hi, -⟩ := JoinTable.build_parts hb
  -- the two sides have no name in common
  obtain ⟨-, -, -, hnames⟩ := JoinTable.build_eq_ok hb
  unfold JoinTable.columns at hnames
  rw [List.map_append] at hnames
  have hapart : ∀ col ∈ j.direct, ∀ col' ∈ j.inverse, col.name ≠ col'.name := fun col hc col' hc' =>
    (List.nodup_append.1 hnames).2.2 _ (List.mem_map_of_mem hc) _ (List.mem_map_of_mem hc')
  intro G hG
  obtain rfl | hG := List.mem_cons.1 hG
  · refine m.statedIn_of_group hgroups (m.find?_eq_some_iff.1 hs).1 hd List.mem_cons_self ?_
    intro group hg col hc col' hc' hname
    obtain rfl | hg := List.mem_cons.1 hg
    · rfl
    · cases List.mem_singleton.1 hg
      exact absurd hname.symm (hapart col hc col' hc')
  · cases List.mem_singleton.1 hG
    refine m.statedIn_of_group hgroups (m.find?_eq_some_iff.1 hT).1 hi (List.mem_cons_of_mem _ List.mem_cons_self) ?_
    intro group hg col hc col' hc' hname
    obtain rfl | hg := List.mem_cons.1 hg
    · exact absurd hname (hapart col' hc' col hc)
    · exact List.mem_singleton.1 hg

/-- An owning relationship has its foreign key in the table of its entity, or in a join table. -/
theorem hasForeignKey_or_hasJoinTable (hx : x ∈ g.entities) (hr : r ∈ x.relationships) (howns : r.owning = true) :
    r.hasForeignKey = true ∨ r.hasJoinTable = true := by
  have hmany := (m.owning_of_kind hx hr).2
  unfold Relationship.hasForeignKey Relationship.hasJoinTable
  rw [howns] at hmany ⊢
  cases hkind : r.kind with
  | manyToOne => exact Or.inl rfl
  | oneToOne => exact Or.inl rfl
  | oneToMany => cases hmany hkind
  | manyToMany => exact Or.inr rfl

end Maps
end Resolution

/-- How a script states the group of an owning relationship of an entity `x` to one object. -/
structure Graph.StatesGroup (g : Graph) (ts : List CreateTable) (x : Entity) (G : JoinGroup)
    (a : ReferentialActions) : Prop where
  produced : G.Produced
  /-- For each concrete entity from `x` down a statement of the script stores the columns. -/
  stored : ∀ e ∈ g.entities, e.isAbstract = false → x ∈ g.ancestry e →
    ∃ t ∈ ts, g.createTable (g.cellOwner e x) = .ok (some t) ∧ g.Stores (g.cellOwner e x) G.columns
  /-- Each statement that stores them has one clause over them. -/
  stated : ∀ o ∈ g.entities, ∀ t, g.createTable o = .ok (some t) → g.Stores o G.columns → G.StatedIn t a

namespace Database

variable {db : Database} {ts : List CreateTable} {x : Entity} {r : Relationship}

/-- **When the declared actions of a relationship are kept.**  Each join column of an owning relationship produces a
foreign-key column with the actions that it declares.  Each statement that has the columns has one clause over them, and
it carries what a join column declares exactly when the first one has the same, declared or by default.  The first one
is that of the relationship, or of the first relationship under its field where an entity repeats a field name; in a
join table it is that of the side. -/
theorem declared_actions_kept_iff (h : db.Mapped) (hs : db.schema = .ok ts) (hx : x ∈ db.graph.entities)
    (hr : r ∈ x.relationships) (howns : r.owning = true) :
    (r.hasForeignKey = true ∧ (x.NamesOnce r → x.firstOf r = r) ∧
      ∃ cols, Resolution.foreignKeysOf db.config db.catalog r = .ok cols ∧
        db.graph.StatesGroup ts x ⟨r.joinColumns, db.config.foreignKeyActions, cols⟩
          (leadingActions (x.firstOf r).joinColumns db.config.foreignKeyActions)) ∨
    (r.hasJoinTable = true ∧ ∃ j, db.graph.joinTable r = .ok j ∧ ∃ t ∈ ts, db.graph.createJoinTableOf r = .ok t ∧
      ∀ G ∈ j.groups r, G.Produced ∧ G.StatedIn t (leadingActions G.declared G.fallback)) := by
  have m := h.maps
  obtain ⟨u, -, hts⟩ := Outcome.bind_eq_ok.1 hs
  rcases m.hasForeignKey_or_hasJoinTable hx hr howns with hfk | hjoin
  · obtain ⟨cols, hcols, hown⟩ := m.exists_foreignKeysOf hx hr hfk
    exact Or.inl ⟨hfk, Entity.firstOf_eq, cols, hcols, Resolution.produced_of_foreignKeysOf hcols,
      fun e he ha hxe => m.exists_storing hts he ha hxe hown,
      fun o ho t ht hstores => m.statedIn_of_stores hts ho ht hx hr hcols hstores⟩
  · obtain ⟨j, hj, t, htm, ht⟩ := Graph.exists_createJoinTable hts hx hr hjoin
    exact Or.inr ⟨hjoin, j, hj, t, htm, ht, m.statedIn_of_joinTable hj ht⟩

/-! ## A box office

A ticket is for a seat, which is known by its row and its number, and may name a spare one.  One join column of the seat
declares that tickets follow it when it changes, the other that they go with it; both join columns of the spare seat
declare the same. -/

open FieldDescriptor RelationshipDescriptor JoinColumnDescriptor in
def boxOfficeEntities : List EntityDescriptor := [
  { typeName := "Seat", table := some {}, fields := [(plain "row" .long).asId, (plain "number" .long).asId] },
  { typeName := "Ticket", table := some {},
    fields := [(plain "id" .long).asId,
      reference "seat" (((manyToOne "Seat").addJoinColumn ((referencing "seat_row" "row").withOnUpdate .cascade))
        |>.addJoinColumn ((referencing "seat_number" "number").withOnDelete .cascade)),
      reference "spare" (((manyToOne "Seat").addJoinColumn ((referencing "spare_row" "row").withOnDelete .setNull))
        |>.addJoinColumn ((referencing "spare_number" "number").withOnDelete .setNull))] }]

def boxOfficeEntries : Except ConfigurationError Database := ofEntities { name := "box office" } boxOfficeEntities

theorem boxOfficeEntries_isSome : boxOfficeEntries.toOption.isSome = true := by decide +kernel

def boxOffice : Database := (boxOfficeEntries.toOption.get boxOfficeEntries_isSome).map

theorem boxOffice_mapped : boxOffice.Mapped :=
  ⟨(reachable_ofEntities (Outcome.eq_ok_get boxOfficeEntries_isSome)).map, by decide +kernel⟩

/-- The statement that creates the table of the tickets. -/
def boxOfficeTicketTable : String :=
  "CREATE TABLE \"ticket\" (\"id\" INTEGER NOT NULL, \"seat_row\" INTEGER, \"seat_number\" INTEGER, " ++
  "\"spare_row\" INTEGER, \"spare_number\" INTEGER, PRIMARY KEY (\"id\"), " ++
  "FOREIGN KEY (\"seat_row\", \"seat_number\") REFERENCES \"seat\" (\"row\", \"number\") " ++
  "ON UPDATE CASCADE ON DELETE NO ACTION DEFERRABLE INITIALLY DEFERRED, " ++
  "FOREIGN KEY (\"spare_row\", \"spare_number\") REFERENCES \"seat\" (\"row\", \"number\") " ++
  "ON UPDATE NO ACTION ON DELETE SET NULL DEFERRABLE INITIALLY DEFERRED)"

/-- **The clause of a ticket's seat does not carry what is declared for the number of the seat**, that tickets go with
it. -/
theorem later_declared_action_dropped : boxOffice.Mapped ∧ ∃ ts x r cols t j col k, boxOffice.schema = .ok ts ∧
    x ∈ boxOffice.graph.entities ∧ r ∈ x.relationships ∧ r.owning = true ∧
    Resolution.foreignKeysOf boxOffice.config boxOffice.catalog r = .ok cols ∧ (j, col) ∈ r.joinColumns.zip cols ∧
    t ∈ ts ∧ k ∈ t.foreignKeys ∧ col.name ∈ k.columns ∧ j.onDelete = some .cascade ∧ k.onDelete = .noAction ∧
    t.render = boxOfficeTicketTable := by
  have hcheck : (boxOffice.schema.toOption.any fun ts => boxOffice.graph.entities.any fun x =>
      x.relationships.any fun r =>
        (Resolution.foreignKeysOf boxOffice.config boxOffice.catalog r).toOption.any fun cols =>
          (r.joinColumns.zip cols).any fun p => ts.any fun t => t.foreignKeys.any fun k =>
            decide (r.owning = true ∧ p.2.name ∈ k.columns ∧ p.1.onDelete = some .cascade ∧ k.onDelete = .noAction ∧
              t.render = boxOfficeTicketTable)) = true := by decide +kernel
  obtain ⟨ts, hs, hcheck⟩ := Outcome.any_toOption.1 hcheck
  obtain ⟨x, hx, hcheck⟩ := List.any_eq_true.1 hcheck
  obtain ⟨r, hr, hcheck⟩ := List.any_eq_true.1 hcheck
  obtain ⟨cols, hcols, hcheck⟩ := Outcome.any_toOption.1 hcheck
  obtain ⟨⟨j, col⟩, hp, hcheck⟩ := List.any_eq_true.1 hcheck
  obtain ⟨t, htm, hcheck⟩ := List.any_eq_true.1 hcheck
  obtain ⟨k, hk, hcheck⟩ := List.any_eq_true.1 hcheck
  obtain ⟨howns, hname, hdeclared, hcarried, htext⟩ := of_decide_eq_true hcheck
  exact ⟨boxOffice_mapped, ts, x, r, cols, t, j, col, k, hs, hx, hr, howns, hcols, hp, htm, hk, hname, hdeclared,
    hcarried, htext⟩

/-- The clause of a ticket's spare seat carries what both of its join columns declare. -/
theorem declared_actions_kept_iff_spare : ∃ ts x r cols t, boxOffice.schema = .ok ts ∧
    x ∈ boxOffice.graph.entities ∧ r ∈ x.relationships ∧ r.owning = true ∧ r.field = "spare" ∧
    r.joinColumns.length = 2 ∧ t ∈ ts ∧ boxOffice.graph.Stores (boxOffice.graph.cellOwner x x) cols ∧
    ∀ p ∈ r.joinColumns.zip cols, p.1.KeptIn p.2 t := by
  have hschema : boxOffice.schema.toOption.isSome = true := by decide +kernel
  have hspare : (boxOffice.graph.entities.any fun x => x.relationships.any fun r =>
      decide (r.owning = true ∧ r.field = "spare" ∧ r.joinColumns.length = 2 ∧ x.isAbstract = false ∧
        r.hasJoinTable = false ∧ ∀ j ∈ r.joinColumns,
          j.KeptBy (leadingActions (x.firstOf r).joinColumns boxOffice.config.foreignKeyActions))) = true := by
    decide +kernel
  obtain ⟨x, hx, hspare⟩ := List.any_eq_true.1 hspare
  obtain ⟨r, hr, hspare⟩ := List.any_eq_true.1 hspare
  obtain ⟨howns, hfield, htwo, hconcrete, hjoin, hkept⟩ := of_decide_eq_true hspare
  have hs := Outcome.eq_ok_get hschema
  rcases declared_actions_kept_iff boxOffice_mapped hs hx hr howns with ⟨-, -, cols, -, hstates⟩ | ⟨hjoin', -⟩
  · obtain ⟨t, htm, ht, hstores⟩ := hstates.stored x hx hconcrete (boxOffice.graph.self_mem_ancestry x)
    have howner := boxOffice_mapped.maps.cellOwner_mem hx (boxOffice.graph.self_mem_ancestry x)
    have hstated := hstates.stated _ howner t ht hstores
    exact ⟨_, x, r, cols, t, hs, hx, hr, howns, hfield, htwo, htm, hstores,
      fun p hp => (hstated.kept_iff p hp).2 (hkept p.1 (List.of_mem_zip hp).1)⟩
  · rw [hjoin] at hjoin'
    cases hjoin'

end Database
end Ormap
