import Mathlib.Data.List.Induction
import Ormap.Proofs.Navigation
import Ormap.Proofs.OneToOne
import Ormap.Proofs.References
/-!
# Foreign-key clauses — one for the parent, one for each relationship

The clauses of a table are made from its columns alone: those that one entity declares for one field form one clause.
Each relationship has columns of its own, which stand together, so that the clauses are those of the relationships, in
their order, as long as no entity has two of them under one field name.  Where it has, they share a clause, which leads
to the table of the first one's target (`Database.one_clause_per_link_iff`).
-/
namespace Ormap

/-! ## What is distinct in a list, in order -/

section
variable {α β : Type} [BEq β] [LawfulBEq β]

theorem eraseDups_concat (l : List β) (b : β) :
    (l ++ [b]).eraseDups = if b ∈ l then l.eraseDups else l.eraseDups ++ [b] := by
  have hone : [b].removeAll l = if b ∈ l then [] else [b] := by
    by_cases hb : b ∈ l <;> simp [List.removeAll, hb]
  rw [List.eraseDups_append, hone]
  by_cases hb : b ∈ l
  · rw [if_pos hb, if_pos hb, List.eraseDups_nil, List.append_nil]
  · rw [if_neg hb, if_neg hb, List.eraseDups_cons]
    rfl

theorem eraseDups_sublist (l : List β) : l.eraseDups.Sublist l := by
  induction l using List.reverseRecOn with
  | nil => exact List.Sublist.refl _
  | append_singleton l b ih =>
    rw [eraseDups_concat]
    split
    · exact ih.trans (List.sublist_append_left _ _)
    · exact ih.append (List.Sublist.refl _)

theorem nodup_eraseDups (l : List β) : l.eraseDups.Nodup := by
  induction l using List.reverseRecOn with
  | nil => exact List.nodup_nil
  | append_singleton l b ih =>
    rw [eraseDups_concat]
    split
    · exact ih
    · rename_i hb
      refine List.nodup_append.2 ⟨ih, List.nodup_singleton _, fun x hx y hy hxy => hb ?_⟩
      rw [← List.mem_singleton.1 hy, ← hxy]
      exact List.mem_eraseDups.1 hx

theorem eraseDups_eq_self_iff {l : List β} : l.eraseDups = l ↔ l.Nodup := by
  constructor
  · intro h
    rw [← h]
    exact nodup_eraseDups l
  · intro h
    induction l using List.reverseRecOn with
    | nil => rfl
    | append_singleton l b ih =>
      obtain ⟨hl, -, hne⟩ := List.nodup_append.1 h
      have hb : b ∉ l := fun hb => hne b hb b (List.mem_singleton.2 rfl) rfl
      rw [eraseDups_concat, if_neg hb, ih hl]

theorem eraseDups_of_forall_eq {b : β} : ∀ {l : List β}, l ≠ [] → (∀ x ∈ l, x = b) → l.eraseDups = [b]
  | [], hne, _ => absurd rfl hne
  | x :: l, _, hall => by
    have hrest : l.filter (fun y => !y == x) = [] := by
      refine List.filter_eq_nil_iff.2 fun y hy => ?_
      rw [hall y (List.mem_cons_of_mem _ hy), hall x List.mem_cons_self]
      simp
    rw [List.eraseDups_cons, hrest, hall x List.mem_cons_self]
    rfl

/-- Items that come in blocks are told apart as the blocks are. -/
theorem eraseDups_flatMap {f : α → List β} {h : α → β} {l : List α} (hne : ∀ a ∈ l, f a ≠ [])
    (hall : ∀ a ∈ l, ∀ b ∈ f a, b = h a) : (l.flatMap f).eraseDups = (l.map h).eraseDups := by
  -- from the back: the last block is new exactly when its item is
  induction l using List.reverseRecOn with
  | nil => rfl
  | append_singleton l a ih =>
    have hlast : a ∈ l ++ [a] := List.mem_append_right _ (List.mem_singleton.2 rfl)
    have hbefore : ∀ x ∈ l, x ∈ l ++ [a] := fun x hx => List.mem_append_left _ hx
    have hmem : h a ∈ l.flatMap f ↔ h a ∈ l.map h := by
      constructor
      · intro hm
        obtain ⟨x, hx, hxa⟩ := List.mem_flatMap.1 hm
        exact List.mem_map.2 ⟨x, hx, (hall x (hbefore x hx) _ hxa).symm⟩
      · intro hm
        obtain ⟨x, hx, hxa⟩ := List.mem_map.1 hm
        obtain ⟨b, hb⟩ := List.exists_mem_of_ne_nil _ (hne x (hbefore x hx))
        refine List.mem_flatMap.2 ⟨x, hx, ?_⟩
        rwa [← hxa, ← hall x (hbefore x hx) b hb]
    have hnew : (f a).removeAll (l.flatMap f) = if h a ∈ l.map h then [] else f a := by
      unfold List.removeAll
      split
      · rename_i hin
        refine List.filter_eq_nil_iff.2 fun b hb => ?_
        rw [hall a hlast b hb]
        simpa using hmem.2 hin
      · rename_i hout
        refine List.filter_eq_self.2 fun b hb => ?_
        rw [hall a hlast b hb]
        simpa using mt hmem.1 hout
    rw [List.flatMap_append, List.flatMap_singleton, List.map_append, List.map_singleton, eraseDups_concat,
      List.eraseDups_append, hnew, ih (fun x hx => hne x (hbefore x hx)) fun x hx => hall x (hbefore x hx)]
    split
    · exact List.append_nil _
    · rw [eraseDups_of_forall_eq (hne a hlast) (hall a hlast)]

end

/-! ## Links -/

/-- The field that declares a relationship, with its entity. -/
def Relationship.fieldName (r : Relationship) : FieldName := ⟨r.source, r.field⟩

/-- An owning relationship to one object, with the columns that a table stores for it. -/
structure Link where
  relationship : Relationship
  columns : List Column

namespace Link

variable {cfg : Config} {c : Catalog} {l : Link} {col : Column}

/-- What the columns are known by. -/
def name (l : Link) : FieldName := l.relationship.fieldName

/-- Whether the columns are all those of the relationship, in their order, as they are or as copies. -/
def Complete (cfg : Config) (c : Catalog) (l : Link) : Prop :=
  Resolution.foreignKeysOf cfg c l.relationship = .ok (l.columns.map Column.original)

theorem Complete.columns_ne_nil (h : l.Complete cfg c) : l.columns ≠ [] :=
  fun hnil => Resolution.foreignKeysOf_ne_nil h (by rw [hnil]; rfl)

theorem Complete.foreignKey (h : l.Complete cfg c) (hc : col ∈ l.columns) : ∃ key, col.foreignKey? = some key ∧
    key.entity = l.relationship.target ∧ key.relationship = l.relationship.field ∧
    col.declaredBy = l.relationship.source := by
  have hmem := List.mem_map_of_mem (f := Column.original) hc
  obtain ⟨target, base, -, -, hcols⟩ := Resolution.foreignKeysOf_eq_ok h
  obtain ⟨js, -, hjs⟩ := Resolution.relationshipColumns_eq_ok hcols
  rw [hjs] at hmem
  obtain ⟨j, -, hj⟩ := List.mem_map.1 hmem
  have hkey : col.original.foreignKey? = _ := congrArg Column.foreignKey? hj.symm
  have hdeclared : col.original.declaredBy = _ := congrArg Column.declaredBy hj.symm
  exact ⟨_, hkey, rfl, rfl, hdeclared⟩

theorem Complete.groupKey? (h : l.Complete cfg c) (hc : col ∈ l.columns) : Graph.groupKey? col = some l.name := by
  obtain ⟨key, hkey, -, hfield, hdeclared⟩ := h.foreignKey hc
  refine Graph.groupKey?_eq_some.2 ⟨key, hkey, ?_⟩
  rw [hfield, hdeclared]
  rfl

/-- A relationship is linked by its columns as they are produced. -/
theorem complete_of_foreignKeysOf {r : Relationship} {cols : List Column}
    (h : Resolution.foreignKeysOf cfg c r = .ok cols) : Complete cfg c ⟨r, cols⟩ := by
  have hown : ∀ col ∈ cols, col.original = id col :=
    fun col hc => Column.original_of_own (Resolution.of_mem_foreignKeysOf h hc).2.2
  unfold Complete
  rwa [List.map_congr_left hown, List.map_id]

/-- The same link in a table that stores copies. -/
def copied (l : Link) : Link := { l with columns := l.columns.map Column.inheritedCopy }

theorem Complete.copied (h : l.Complete cfg c) : l.copied.Complete cfg c := by
  have horiginals : l.copied.columns.map Column.original = l.columns.map Column.original := by
    show (l.columns.map Column.inheritedCopy).map Column.original = _
    rw [List.map_map]
    rfl
  unfold Complete
  rw [horiginals]
  exact h

end Link

/-- Whether columns are those of relationships, in their order. -/
def AreColumnsOf (cfg : Config) (c : Catalog) (rs : List Relationship) (cols : List Column) : Prop :=
  ∃ links : List Link, links.map (·.relationship) = rs ∧ (∀ l ∈ links, l.Complete cfg c) ∧
    cols = links.flatMap (·.columns)

namespace AreColumnsOf

variable {cfg : Config} {c : Catalog} {rs rs' : List Relationship} {cols cols' : List Column}

theorem nil : AreColumnsOf cfg c [] [] := ⟨[], rfl, fun _ h => (nomatch h), rfl⟩

theorem append (h : AreColumnsOf cfg c rs cols) (h' : AreColumnsOf cfg c rs' cols') :
    AreColumnsOf cfg c (rs ++ rs') (cols ++ cols') := by
  obtain ⟨links, rfl, hl, rfl⟩ := h
  obtain ⟨links', rfl, hl', rfl⟩ := h'
  refine ⟨links ++ links', List.map_append, fun l hm => ?_, List.flatMap_append.symm⟩
  exact (List.mem_append.1 hm).elim (hl l) (hl' l)

theorem copied (h : AreColumnsOf cfg c rs cols) : AreColumnsOf cfg c rs (cols.map Column.inheritedCopy) := by
  obtain ⟨links, rfl, hl, rfl⟩ := h
  refine ⟨links.map Link.copied, ?_, fun l hm => ?_, ?_⟩
  · rw [List.map_map]
    rfl
  · obtain ⟨l', hl', rfl⟩ := List.mem_map.1 hm
    exact (hl l' hl').copied
  · rw [List.map_flatMap, List.flatMap_map]
    rfl

theorem flatMap {α : Type} {links : α → List Relationship} {columns : α → List Column} : ∀ {l : List α},
    (∀ a ∈ l, AreColumnsOf cfg c (links a) (columns a)) → AreColumnsOf cfg c (l.flatMap links) (l.flatMap columns)
  | [], _ => nil
  | a :: l, h => by
    rw [List.flatMap_cons, List.flatMap_cons]
    exact (h a List.mem_cons_self).append (flatMap fun b hb => h b (List.mem_cons_of_mem _ hb))

theorem of_forall₂ {groups : List (List Column)}
    (h : List.Forall₂ (fun r group => Resolution.foreignKeysOf cfg c r = .ok group) rs groups) :
    AreColumnsOf cfg c rs groups.flatten := by
  induction h with
  | nil => exact nil
  | @cons r group rs groups hr _ ih =>
    have hone : AreColumnsOf cfg c [r] group := by
      refine ⟨[⟨r, group⟩], rfl, fun l hl => ?_, ?_⟩
      · cases List.mem_singleton.1 hl
        exact Link.complete_of_foreignKeysOf hr
      · exact (List.flatMap_singleton (fun l : Link => l.columns) ⟨r, group⟩).symm
    rw [List.flatten_cons]
    exact hone.append ih

end AreColumnsOf

/-! ## Groups -/

namespace Link

variable {cfg : Config} {c : Catalog} {links : List Link} {cols : List Column}

/-- The links of one name. -/
def named (links : List Link) (name : FieldName) : List Link := links.filter (·.name == name)

theorem filter_columns (hl : ∀ l ∈ links, l.Complete cfg c) (name : FieldName) :
    (links.flatMap (·.columns)).filter (Graph.groupKey? · == some name) = (named links name).flatMap (·.columns) := by
  induction links with
  | nil => rfl
  | cons l links ih =>
    have hkeys : ∀ col ∈ l.columns, Graph.groupKey? col = some l.name :=
      fun col hc => (hl l List.mem_cons_self).groupKey? hc
    unfold named at ih ⊢
    rw [List.flatMap_cons, List.filter_append, ih fun l' h => hl l' (List.mem_cons_of_mem _ h)]
    by_cases hn : l.name = name
    · rw [List.filter_cons_of_pos (by simpa using hn), List.flatMap_cons, List.filter_eq_self.2]
      exact fun col hc => by simp [hkeys col hc, hn]
    · rw [List.filter_cons_of_neg (by simpa using hn), List.filter_eq_nil_iff.2, List.nil_append]
      exact fun col hc => by simp [hkeys col hc, hn]

theorem named_eq_singleton (hn : (links.map name).Nodup) {l : Link} (hl : l ∈ links) : named links l.name = [l] := by
  obtain ⟨before, after, rfl⟩ := List.append_of_mem hl
  rw [List.map_append, List.map_cons, List.nodup_middle, List.nodup_cons, List.mem_append, not_or] at hn
  have hother : ∀ {ls : List Link}, l.name ∉ ls.map name → named ls l.name = [] := by
    intro ls hls
    refine List.filter_eq_nil_iff.2 fun x hx hxl => hls ?_
    rw [← beq_iff_eq.1 hxl]
    exact List.mem_map_of_mem hx
  unfold named at hother ⊢
  rw [List.filter_append, List.filter_cons_of_pos (by simp), hother hn.1.1, hother hn.1.2, List.nil_append]

theorem isForeignKey_of_groupKey {col : Column} {name : FieldName} (h : Graph.groupKey? col = some name) :
    col.isForeignKey = true := by
  obtain ⟨key, hkey, -⟩ := Graph.groupKey?_eq_some.1 h
  rw [Column.isForeignKey, hkey]
  rfl

section
variable (hl : ∀ l ∈ links, l.Complete cfg c) (hcols : cols.filter (·.isForeignKey) = links.flatMap (·.columns))
include hl hcols

theorem filter_groupKey (name : FieldName) :
    cols.filter (Graph.groupKey? · == some name) = (named links name).flatMap (·.columns) := by
  rw [← filter_columns hl, ← hcols, List.filter_filter]
  refine List.filter_congr fun col _ => ?_
  cases hk : Graph.groupKey? col == some name with
  | false => rfl
  | true => rw [isForeignKey_of_groupKey (by simpa using hk)]; rfl

/-- **The foreign keys among columns are the links of each name**, in the order of their first ones. -/
theorem foreignKeyGroups_eq : Graph.foreignKeyGroups cols =
    (links.map name).eraseDups.map fun n => (named links n).flatMap (·.columns) := by
  have hplain : ∀ col ∈ cols, Graph.groupKey? col =
      if col.isForeignKey = true then Graph.groupKey? col else none := by
    intro col _
    split
    · rfl
    · rename_i hno
      exact Option.eq_none_iff_forall_ne_some.2 fun n hn => hno (isForeignKey_of_groupKey hn)
  have hnames : cols.filterMap Graph.groupKey? = links.flatMap fun l => l.columns.filterMap Graph.groupKey? := by
    rw [List.filterMap_congr hplain, ← List.filterMap_filter, hcols, List.filterMap_flatMap]
  have hdistinct : (links.flatMap fun l => l.columns.filterMap Graph.groupKey?).eraseDups =
      (links.map name).eraseDups := by
    refine eraseDups_flatMap (fun l hlm => ?_) fun l hlm b hb => ?_
    · obtain ⟨col, hc⟩ := List.exists_mem_of_ne_nil _ (hl l hlm).columns_ne_nil
      exact List.ne_nil_of_mem (List.mem_filterMap.2 ⟨col, hc, (hl l hlm).groupKey? hc⟩)
    · obtain ⟨col, hc, hcb⟩ := List.mem_filterMap.1 hb
      exact Option.some.inj (hcb.symm.trans ((hl l hlm).groupKey? hc))
  unfold Graph.foreignKeyGroups
  rw [hnames, hdistinct]
  exact List.map_congr_left fun n _ => filter_groupKey hl hcols n

end

end Link

/-! ## What a table stores -/

namespace Graph

/-- The entities whose foreign keys the table of an entity stores, in their order. -/
def holders (g : Graph) (e : Entity) : List Entity :=
  match e.strategy with
  | .joined => [e]
  | .singleTable => e :: g.descendants e
  | .tablePerClass => g.ancestry e

/-- The owning relationships to one object of the entities whose foreign keys the table of an entity stores. -/
def storedRelationships (g : Graph) (e : Entity) : List Relationship :=
  (g.holders e).flatMap fun x => x.relationships.filter (·.hasForeignKey)

end Graph

namespace Resolution
namespace Maps

variable {cfg : Config} {c : Catalog} {g : Graph} {e x p : Entity} (m : Maps cfg c g)
include m

omit m in
theorem filter_ownColumns {strategy : Strategy} {d : EntityDescriptor} {up : List EntityDescriptor} {own : List Column}
    (h : Resolution.ownColumns c strategy d up = .ok own) : own.filter (·.isForeignKey) = [] :=
  List.filter_eq_nil_iff.2 fun col hc => by simp [(of_mem_ownColumns h hc).2.1]

theorem own_areColumnsOf (hx : x ∈ g.entities) :
    AreColumnsOf cfg c (x.relationships.filter (·.hasForeignKey)) (x.ownColumns.filter (·.isForeignKey)) := by
  obtain ⟨up, own, keys, -, ho, hkeys, hown⟩ := m.ownColumns_eq hx
  have hforeign : keys.filter (·.isForeignKey) = keys := List.filter_eq_self.2 (isForeignKey_of_mem_keys hkeys)
  obtain ⟨groups, hgroups, rfl⟩ := ownForeignKeys_eq_ok hkeys
  rw [hown, List.filter_append, filter_ownColumns ho, hforeign, List.nil_append]
  exact .of_forall₂ hgroups

theorem foreignKeys_eq (he : e ∈ g.entities) :
    e.columns.filter (·.isForeignKey) = g.passedKeys e ++ e.ownColumns.filter (·.isForeignKey) := by
  obtain ⟨up, own, keys, -, ho, hkeys, hcolumns⟩ := m.columns_eq he
  obtain ⟨up', own', keys', -, ho', hkeys', hown⟩ := m.ownColumns_eq he
  cases hkeys.symm.trans hkeys'
  -- what is passed on apart from the foreign keys has none
  have hbase : (g.passedBase e).filter (·.isForeignKey) = [] := by
    refine List.filter_eq_nil_iff.2 fun col hc => ?_
    obtain ⟨q, -, colQ, -, hq, rfl⟩ := Graph.mem_passedBase hc
    simp [hq]
  have hpassed : (g.passedKeys e).filter (·.isForeignKey) = g.passedKeys e := by
    refine List.filter_eq_self.2 fun col hc => ?_
    obtain ⟨q, -, colQ, -, hq, rfl⟩ := Graph.mem_passedKeys hc
    exact hq
  rw [hcolumns, hown, List.filter_append, List.filter_append, List.filter_append, List.filter_append, hbase, hpassed,
    filter_ownColumns ho, filter_ownColumns ho', List.nil_append, List.nil_append, List.nil_append]

theorem areColumnsOf_of_tablePerClass (he : e ∈ g.entities) : e.strategy = .tablePerClass → AreColumnsOf cfg c
    ((g.ancestry e).flatMap fun x => x.relationships.filter (·.hasForeignKey)) (e.columns.filter (·.isForeignKey)) := by
  induction e, he using m.induct with
  | root e he hp =>
    intro _
    rw [m.ancestry_root he hp, List.flatMap_singleton, ← m.ownColumns_root he hp]
    exact m.own_areColumnsOf he
  | child e he p hpm hp ih =>
    intro hs
    have hpassed : g.passedKeys e = (p.columns.filter (·.isForeignKey)).map Column.inheritedCopy := by
      unfold Graph.passedKeys
      rw [hp, Option.elim_some, if_pos hs]
    rw [m.ancestry_child he hp, List.flatMap_append, List.flatMap_singleton, m.foreignKeys_eq he, hpassed]
    exact (ih ((m.strategy_of_parent he hp).symm.trans hs)).copied.append (m.own_areColumnsOf he)

/-- **The foreign-key columns that a table stores are those of the relationships of its entities**, in their order. -/
theorem stored_areColumnsOf (he : e ∈ g.entities) (htable : e.tableName.isSome = true) {stored : List StoredColumn}
    (hst : g.tableColumns e = .ok stored) :
    AreColumnsOf cfg c (g.storedRelationships e) ((stored.map (·.column)).filter (·.isForeignKey)) := by
  have hplace := (m.tableName_isSome he).1 htable
  rw [(Graph.tableColumns_eq_ok hst).1, List.filter_append]
  unfold Graph.storedRelationships Graph.holders
  cases hs : e.strategy with
  | joined =>
    have hpassed : g.passedKeys e = [] := by
      unfold Graph.passedKeys
      cases g.parent? e with
      | none => rfl
      | some p => rw [Option.elim_some, hs]; rfl
    rw [if_neg Strategy.noConfusion, List.filter_nil, List.append_nil, m.foreignKeys_eq he, hpassed, List.nil_append]
    dsimp only
    rw [List.flatMap_singleton]
    exact m.own_areColumnsOf he
  | singleTable =>
    rw [hs] at hplace
    dsimp only
    rw [if_pos rfl, List.filter_flatMap, List.flatMap_cons, ← m.ownColumns_root he hplace]
    exact (m.own_areColumnsOf he).append
      (.flatMap fun x hx => m.own_areColumnsOf (m.mem_of_descendants he hx))
  | tablePerClass =>
    rw [if_neg Strategy.noConfusion, List.filter_nil, List.append_nil]
    exact m.areColumnsOf_of_tablePerClass he hs

end Maps
end Resolution

/-! ## Clauses -/

namespace Graph

/-- Whether a clause is over the columns of links, in their order, and leads to the table of the first one's target,
with the actions of the first column. -/
structure IsClauseOf (g : Graph) (links : List Link) (k : ForeignKeyClause) : Prop where
  columns : k.columns = (links.flatMap (·.columns)).map (·.name)
  referenced : k.referenced = ((links.flatMap (·.columns)).filterMap (·.foreignKey?)).map (·.referenced)
  target : ∃ first ∈ links.head?, ∃ T, g.find? first.relationship.target = some T ∧ g.tableOf? T = some k.table ∧
    ∃ key, first.columns.head?.bind (·.foreignKey?) = some key ∧ k.onUpdate = key.onUpdate ∧ k.onDelete = key.onDelete

/-- Whether clauses are the one to the table of the parent, over the whole key, which a joined entity with a parent has,
or none. -/
def LeadToParent (g : Graph) (e : Entity) (clauses : List ForeignKeyClause) : Prop :=
  match e.strategy, g.parent? e with
  | .joined, some p => ∃ table, p.tableName = some table ∧ clauses = [{
      columns := e.primaryKeys.map (·.name)
      table
      referenced := p.primaryKeys.map (·.name)
      onUpdate := .cascade
      onDelete := .cascade }]
  | _, _ => clauses = []

end Graph

namespace Resolution
namespace Maps

variable {cfg : Config} {c : Catalog} {g : Graph} {e source : Entity} {links : List Link} {cols : List Column}
  {clauses : List ForeignKeyClause} (m : Maps cfg c g)
include m

theorem leadToParent (he : e ∈ g.entities) (h : g.parentClauses e = .ok clauses) : g.LeadToParent e clauses := by
  unfold Graph.LeadToParent
  obtain ⟨rfl, hroot⟩ | ⟨p, table, hs, hp, htable, rfl⟩ := Graph.parentClauses_eq_ok h
  · cases hs : e.strategy with
    | joined => rw [hroot hs]
    | singleTable | tablePerClass => rfl
  · rw [hs, hp]
    refine ⟨table, ?_, by rw [m.keyNames_child he hp]⟩
    obtain ⟨o, ho, hot⟩ := Graph.tableOf?_eq_some.1 htable
    obtain ⟨rfl, -⟩ := (m.tableOwner_eq_ok (m.mem_of_parent? hp)).1 ho
    rwa [← m.strategy_of_parent he hp, hs, if_neg Strategy.noConfusion] at hot

/-- A relationship whose columns are known has a target. -/
theorem exists_target {r : Relationship} (h : foreignKeysOf cfg c r = .ok cols) : ∃ T, g.find? r.target = some T := by
  obtain ⟨target, base, ht, -⟩ := foreignKeysOf_eq_ok h
  obtain rfl := m.graph_eq
  exact ⟨entity cfg c target, by rw [graph_find?, ht]; rfl⟩

theorem isClauseOf_of_groupClause (hl : ∀ l ∈ links, l.Complete cfg c) (hne : links ≠ []) {k? : Option ForeignKeyClause}
    (h : g.groupClause source (links.flatMap (·.columns)) = .ok k?) : ∃ k, k? = some k ∧ g.IsClauseOf links k := by
  obtain ⟨l, rest, rfl⟩ := List.exists_cons_of_ne_nil hne
  have hcomplete := hl l List.mem_cons_self
  obtain ⟨first, more, hcolumns⟩ := List.exists_cons_of_ne_nil hcomplete.columns_ne_nil
  obtain ⟨key, hkey, htarget, -⟩ := hcomplete.foreignKey (hcolumns ▸ List.mem_cons_self)
  have hfirst : ((l :: rest).flatMap (·.columns)).head? = some first := by
    rw [List.flatMap_cons, hcolumns]
    rfl
  obtain ⟨T, hT⟩ := m.exists_target hcomplete
  obtain ⟨k, hk, htable, hnames, hreferenced, hactions⟩ :=
    Graph.groupClause_eq_ok hfirst hkey (htarget ▸ hT) h
  have hhead : l.columns.head?.bind (·.foreignKey?) = some key := by
    rw [hcolumns]
    exact hkey
  exact ⟨k, hk, hnames, hreferenced, ⟨l, rfl, T, hT, htable, key, hhead, hactions⟩⟩

/-- **There is one clause for each name of a link**, in the order of the first links of the names. -/
theorem isClauseOf_of_groupClauses (hl : ∀ l ∈ links, l.Complete cfg c)
    (hcols : cols.filter (·.isForeignKey) = links.flatMap (·.columns))
    (h : g.groupClauses source (Graph.foreignKeyGroups cols) = .ok clauses) :
    List.Forall₂ (fun n k => g.IsClauseOf (Link.named links n) k) (links.map Link.name).eraseDups clauses := by
  unfold Graph.groupClauses at h
  obtain ⟨ks, hks, h⟩ := Outcome.bind_eq_ok.1 h
  cases h
  rw [Link.foreignKeyGroups_eq hl hcols, Outcome.mapM_eq_ok, List.forall₂_map_left_iff] at hks
  have hall : List.Forall₂ (fun n k? => n ∈ (links.map Link.name).eraseDups ∧
      g.groupClause source ((Link.named links n).flatMap (·.columns)) = .ok k?) (links.map Link.name).eraseDups ks :=
    (List.forall₂_and_left _ _).2 ⟨fun _ hn => hn, hks⟩
  have hclause : ∀ n (k? : Option ForeignKeyClause), n ∈ (links.map Link.name).eraseDups ∧
      g.groupClause source ((Link.named links n).flatMap (·.columns)) = .ok k? →
      true = k?.isSome ∧ ∀ k, k? = some k → g.IsClauseOf (Link.named links n) k := by
    rintro n k? ⟨hn, hk⟩
    obtain ⟨l, hlm, hln⟩ := List.mem_map.1 (List.mem_eraseDups.1 hn)
    have hne : Link.named links n ≠ [] := List.ne_nil_of_mem (List.mem_filter.2 ⟨hlm, by simpa using hln⟩)
    obtain ⟨k, rfl, hof⟩ := m.isClauseOf_of_groupClause (fun l' h' => hl l' (List.mem_filter.1 h').1) hne hk
    exact ⟨rfl, fun k' hk' => Option.some.inj hk' ▸ hof⟩
  have hclauses := Outcome.forall₂_filterMap hclause hall
  rwa [List.filter_eq_self.2 fun _ _ => rfl] at hclauses

/-! ## Names -/

theorem nodup_holders (he : e ∈ g.entities) :
    (g.holders e).Nodup ∧ ∀ x ∈ g.holders e, x ∈ g.entities := by
  unfold Graph.holders
  cases e.strategy with
  | joined => exact ⟨List.nodup_singleton _, fun x hx => List.mem_singleton.1 hx ▸ he⟩
  | singleTable =>
    have hnew : e ∉ g.descendants e := fun h => m.not_mem_above he ((m.mem_descendants_iff he he).1 h)
    refine ⟨List.nodup_cons.2 ⟨hnew, m.nodup_descendants he⟩, fun x hx => ?_⟩
    rcases List.mem_cons.1 hx with rfl | hx
    · exact he
    · exact m.mem_of_descendants he hx
  | tablePerClass => exact ⟨m.nodup_ancestry he, fun x hx => m.mem_of_ancestry he hx⟩

theorem source_of_mem {x : Entity} (hx : x ∈ g.entities) {r : Relationship} (hr : r ∈ x.relationships) :
    r.source = x.typeName := by
  obtain ⟨f, -, hcl⟩ := Relationship.of_mem_ofEntity (m.relationships_eq hx) hr
  exact (Relationship.classify_eq_ok hcl).1

/-- **Where no field name repeats, no two relationships of a table have one field.** -/
theorem fieldNames_nodup (he : e ∈ g.entities)
    (hf : ∀ x ∈ g.holders e, (x.descriptor.fields.map (·.name)).Nodup) :
    ((g.storedRelationships e).map Relationship.fieldName).Nodup := by
  obtain ⟨hnd, hholders⟩ := m.nodup_holders he
  have hsource : ∀ x ∈ g.holders e, ∀ r ∈ x.relationships, r.source = x.typeName :=
    fun x hx r hr => m.source_of_mem (hholders x hx) hr
  unfold Graph.storedRelationships
  rw [List.map_flatMap, List.nodup_flatMap]
  constructor
  · intro x hx
    have hfields := Relationship.fields_nodup (m.relationships_eq (hholders x hx)) (hf x hx)
    have hnames : (x.relationships.map Relationship.fieldName).Nodup :=
      List.Nodup.of_map FieldName.field (by rw [List.map_map]; exact hfields)
    exact hnames.sublist (List.filter_sublist.map _)
  · refine hnd.pairwise_of_forall_ne fun x hx y hy hxy n hnx hny => hxy ?_
    obtain ⟨r, hr, rfl⟩ := List.mem_map.1 hnx
    obtain ⟨r', hr', hrr⟩ := List.mem_map.1 hny
    refine m.eq_of_typeName (hholders x hx) (hholders y hy) ?_
    rw [← hsource x hx r (List.mem_filter.1 hr).1, ← hsource y hy r' (List.mem_filter.1 hr').1]
    exact (congrArg FieldName.entity hrr).symm

end Maps
end Resolution

namespace Database

/-- How the foreign-key clauses of the table of an entity follow from the links that the table stores: there is the one
to the table of the parent, if any, and one for all links of a name, in the order of the first links of the names. -/
structure StatesLinks (db : Database) (e : Entity) (t : CreateTable) (links : List Link)
    (toParent toTargets : List ForeignKeyClause) : Prop where
  relationships : links.map (·.relationship) = db.graph.storedRelationships e
  complete : ∀ l ∈ links, l.Complete db.config db.catalog
  stored : ∃ stored, db.graph.tableColumns e = .ok stored ∧
    (stored.map (·.column)).filter (·.isForeignKey) = links.flatMap (·.columns)
  foreignKeys : t.foreignKeys = toParent ++ toTargets
  toParent : db.graph.LeadToParent e toParent
  toTargets : List.Forall₂ (fun n k => db.graph.IsClauseOf (Link.named links n) k)
    (links.map Link.name).eraseDups toTargets

/-- **When there is one foreign-key clause for each link.**  A table states the link of a joined entity to its parent,
over the whole key, and the owning relationships to one object whose columns it stores: its entity's, those of the
entities above where each class has a table of its own, and those of the entities below in a single table.  It has one
clause for each of them, over just its columns and to the table of its target, exactly when no two of them have one
field; so it is where no entity repeats a field name. -/
theorem one_clause_per_link_iff {db : Database} (h : db.Mapped) {e : Entity} (he : e ∈ db.graph.entities)
    {t : CreateTable} (ht : db.graph.createTable e = .ok (some t)) :
    ∃ links toParent toTargets, db.StatesLinks e t links toParent toTargets ∧
      (List.Forall₂ (fun l k => db.graph.IsClauseOf [l] k) links toTargets ↔
        ((db.graph.storedRelationships e).map Relationship.fieldName).Nodup) ∧
      ((∀ x ∈ db.graph.holders e, (x.descriptor.fields.map (·.name)).Nodup) →
        List.Forall₂ (fun l k => db.graph.IsClauseOf [l] k) links toTargets) := by
  have m := h.maps
  obtain ⟨htable, stored, toParent, toTargets, hst, -, -, -, hparent, hgroups, hkeys⟩ := Graph.createTable_eq_ok ht
  obtain ⟨links, hrelationships, hcomplete, hcols⟩ :=
    m.stored_areColumnsOf he (Option.isSome_iff_exists.2 ⟨_, htable⟩) hst
  have hclauses := m.isClauseOf_of_groupClauses hcomplete hcols hgroups
  have hnames : links.map Link.name = (db.graph.storedRelationships e).map Relationship.fieldName := by
    rw [← hrelationships, List.map_map]
    rfl
  have hiff : List.Forall₂ (fun l k => db.graph.IsClauseOf [l] k) links toTargets ↔ (links.map Link.name).Nodup := by
    constructor
    · -- as many clauses as links leave no name out
      intro hone
      have hlength : (links.map Link.name).eraseDups.length = (links.map Link.name).length := by
        rw [hclauses.length_eq, List.length_map, hone.length_eq]
      exact eraseDups_eq_self_iff.1 ((eraseDups_sublist _).eq_of_length hlength)
    · intro hnd
      rw [eraseDups_eq_self_iff.2 hnd, List.forall₂_map_left_iff] at hclauses
      have hmem : List.Forall₂ (fun l k => l ∈ links ∧ db.graph.IsClauseOf (Link.named links l.name) k)
          links toTargets := (List.forall₂_and_left _ _).2 ⟨fun _ hl => hl, hclauses⟩
      exact hmem.imp fun l k ⟨hl, hk⟩ => Link.named_eq_singleton hnd hl ▸ hk
  rw [hnames] at hiff
  exact ⟨links, toParent, toTargets,
    ⟨hrelationships, hcomplete, ⟨stored, hst, hcols⟩, hkeys, m.leadToParent he hparent, hclauses⟩, hiff,
    fun hf => hiff.2 (m.fieldNames_nodup he hf)⟩

/-- The table of cars has a clause for the vehicles above them and one for their owners, who live in the table of
persons. -/
theorem one_clause_per_link_iff_fleet : ∃ t links toParent toTargets,
    fleet.graph.createTable (fleetEntity 1) = .ok (some t) ∧
    fleet.StatesLinks (fleetEntity 1) t links toParent toTargets ∧
    List.Forall₂ (fun l k => fleet.graph.IsClauseOf [l] k) links toTargets ∧
    t.foreignKeys.map (fun k => (k.columns, k.table)) = [(["id"], "vehicle"), (["owner_id"], "person")] := by
  have hcheck : (fleet.graph.createTable (fleetEntity 1)).toOption.any (fun t? => t?.any fun t =>
      t.foreignKeys.map (fun k => (k.columns, k.table)) == [(["id"], "vehicle"), (["owner_id"], "person")]) = true := by
    decide +kernel
  obtain ⟨t?, ht, hcheck⟩ := Outcome.any_toOption.1 hcheck
  obtain ⟨t, rfl, hkeys⟩ := (Option.any_eq_true _ _).1 hcheck
  obtain ⟨links, toParent, toTargets, hstates, -, hone⟩ :=
    one_clause_per_link_iff fleet_mapped (e := fleetEntity 1) (by decide +kernel) ht
  exact ⟨t, links, toParent, toTargets, ht, hstates, hone (by decide +kernel), beq_iff_eq.1 hkeys⟩

/-! ## Invoices

An invoice has two owners, a person and a company, under one field name. -/

open FieldDescriptor in
def billingEntities : List EntityDescriptor := [
  { typeName := "Person", table := some {}, fields := [(plain "id" .long).asId] },
  { typeName := "Company", table := some {}, fields := [(plain "code" .long).asId] },
  { typeName := "Invoice", table := some {},
    fields := [(plain "id" .long).asId, reference "owner" (.manyToOne "Person"),
      reference "owner" (.manyToOne "Company")] }]

def billingEntries : Except ConfigurationError Database := ofEntities { name := "billing" } billingEntities

theorem billingEntries_isSome : billingEntries.toOption.isSome = true := by decide +kernel

def billing : Database := (billingEntries.toOption.get billingEntries_isSome).map

theorem billing_mapped : billing.Mapped :=
  ⟨(reachable_ofEntities (Outcome.eq_ok_get billingEntries_isSome)).map, by decide +kernel⟩

def billingEntity (i : Fin 3) : Entity := billing.graph.entities.get (i.cast (by decide +kernel))

/-- **The two owners of an invoice share one clause**, which looks for the code of the company among the persons. -/
theorem owners_share_clause : billing.Mapped ∧
    (billing.graph.storedRelationships (billingEntity 2)).map (fun r => (r.field, r.target)) =
      [("owner", "Person"), ("owner", "Company")] ∧
    ∃ t, billing.graph.createTable (billingEntity 2) = .ok (some t) ∧ t.foreignKeys = [{
      columns := ["owner_id", "owner_code"]
      table := "person"
      referenced := ["id", "code"]
      onUpdate := .noAction
      onDelete := .noAction }] := by
  have hcheck : (billing.graph.createTable (billingEntity 2)).toOption.any (fun t? => t?.any fun t =>
      t.foreignKeys == [⟨["owner_id", "owner_code"], "person", ["id", "code"], .noAction, .noAction⟩]) = true := by
    decide +kernel
  obtain ⟨t?, ht, hcheck⟩ := Outcome.any_toOption.1 hcheck
  obtain ⟨t, rfl, hkeys⟩ := (Option.any_eq_true _ _).1 hcheck
  exact ⟨billing_mapped, by decide +kernel, t, ht, beq_iff_eq.1 hkeys⟩

end Database
end Ormap
