import Ormap.Dump
import Ormap.Object.Loading
import Ormap.Proofs.Actions
import Ormap.Proofs.Descent
import Ormap.Proofs.Schema
import Ormap.Proofs.Storing
import Ormap.Session
/-!
# Internal defects — none is left once the mapping has succeeded

An internal defect is an error of the group for what resolution guarantees.  In a mapped database a row is built only
where there is a table, its owner has a key, every discriminator column has an entity on the path that supplies its
value, and every name that an entity, a column, a relationship or a row holds is that of an entity, so that every way up
and down is found whole.  So no operation ends in an internal defect.
-/
namespace Ormap

/-- Whether an outcome is no internal defect. -/
def NoDefect (x : Except Error α) : Prop := ∀ e, x = .error e → e.kind ≠ .mapping

namespace NoDefect

variable {α β ε : Type}

theorem of_ok {x : Except Error α} {a : α} (h : x = .ok a) : NoDefect x := by
  intro e he
  cases h.symm.trans he

theorem of_error {e : Error} (h : e.kind ≠ .mapping) : NoDefect (.error e : Except Error α) := by
  intro e' he
  cases he
  exact h

theorem bind {x : Except Error α} {f : α → Except Error β} (hx : NoDefect x)
    (hf : ∀ a, x = .ok a → NoDefect (f a)) : NoDefect (x >>= f) := by
  intro e he
  rcases Outcome.bind_eq_error.1 he with h | ⟨a, ha, h⟩
  · exact hx e h
  · exact hf a ha e h

theorem mapError {x : Except ε α} {f : ε → Error} (hf : ∀ e, (f e).kind ≠ .mapping) : NoDefect (x.mapError f) := by
  intro e he
  obtain ⟨d, -, rfl⟩ := Outcome.mapError_eq_error.1 he
  exact hf d

theorem mapM {f : α → Except Error β} {l : List α} (h : ∀ a ∈ l, NoDefect (f a)) : NoDefect (l.mapM f) := by
  intro e he
  obtain ⟨a, ha, hfa⟩ := Outcome.mapM_eq_error he
  exact h a ha e hfa

theorem query {x : Except QueryError α} : NoDefect (x.mapError .query) := mapError fun _ h => by cases h

theorem marshalling {x : Except MarshallingError α} : NoDefect (x.mapError .marshalling) :=
  mapError fun _ h => by cases h

theorem configuration {x : Except ConfigurationError α} : NoDefect (x.mapError .configuration) :=
  mapError fun _ h => by cases h

/-- What resolution guarantees is no defect where it holds. -/
theorem mapping {x : Except MappingError α} {a : α} (h : x = .ok a) : NoDefect (x.mapError .mapping) :=
  of_ok (Outcome.mapError_eq_ok.2 h)

end NoDefect

/-- Whether an action never ends in an internal defect, whatever the state that it starts from. -/
def Action.NoDefect (a : Action σ α) : Prop := ∀ s, Ormap.NoDefect (a.run s).1

namespace Action.NoDefect

variable {σ α β : Type}

theorem pure (x : α) : NoDefect (pure x : Action σ α) := by
  intro s e he
  rw [run_pure] at he
  cases he

theorem throw {e : Error} (h : e.kind ≠ .mapping) : NoDefect (throw e : Action σ α) := by
  intro s
  rw [run_throw]
  exact Ormap.NoDefect.of_error h

theorem lift {x : Except Error α} (h : Ormap.NoDefect x) : NoDefect (liftM x : Action σ α) := by
  intro s
  rw [run_lift]
  exact h

theorem bind {a : Action σ α} {f : α → Action σ β} (ha : NoDefect a) (hf : ∀ x, NoDefect (f x)) :
    NoDefect (a >>= f) := by
  intro s
  rw [run_bind]
  have h := ha s
  generalize a.run s = r at h ⊢
  rcases r with ⟨x | x, s'⟩
  · exact Ormap.NoDefect.of_error (h x rfl)
  · exact hf x s'

/-- An action that handles errors is asked about only for errors that its first part can end in. -/
theorem tryCatch {a : Action σ α} {f : Error → Action σ α} (ha : NoDefect a)
    (hf : ∀ e, e.kind ≠ .mapping → NoDefect (f e)) : NoDefect (tryCatch a f) := by
  intro s
  rw [run_tryCatch]
  have h := ha s
  generalize a.run s = r at h ⊢
  rcases r with ⟨x | x, s'⟩
  · exact hf x (h x rfl) s'
  · exact Ormap.NoDefect.of_ok rfl

end Action.NoDefect

/-! ## Connections -/

/-- Whether no request of a connection ends in an internal defect. -/
structure Connection.NoDefect (c : Connection σ) : Prop where
  execute : ∀ statement, (c.execute statement).NoDefect
  query : ∀ statement, (c.query statement).NoDefect
  start : c.start.NoDefect
  commit : c.commit.NoDefect
  rollback : c.rollback.NoDefect

namespace Connection

variable {c : Connection σ} (hc : c.NoDefect)
include hc

theorem executeAll_noDefect : ∀ statements, (c.executeAll statements).NoDefect
  | [] => .pure ()
  | s :: rest => (hc.execute s).bind fun _ => executeAll_noDefect rest

theorem runInTransaction_noDefect (statements : List String) : (c.runInTransaction statements).NoDefect := by
  have habandon : c.abandon.NoDefect := hc.rollback.tryCatch fun _ _ => .pure ()
  refine hc.start.bind fun _ => ?_
  refine Action.NoDefect.bind (.tryCatch (executeAll_noDefect hc statements) fun e he => ?_) fun _ => hc.commit
  exact habandon.bind fun _ => .throw he

end Connection

theorem Recording.connection_noDefect : Recording.connection.NoDefect := by
  have haccept : ∀ {α : Type} (reply : Recording → α) statement, (accept reply statement).NoDefect := by
    intro α reply statement s
    rw [run_accept]
    split
    · exact .of_error fun h => by cases h
    · exact .of_ok rfl
  have hfinish : ∀ statement, (finish statement).NoDefect := by
    intro statement s
    rw [run_finish]
    split
    · exact .of_ok rfl
    · exact .of_error fun h => by cases h
  have hstart : start.NoDefect := by
    intro s
    rw [run_start]
    split
    · exact .of_error fun h => by cases h
    · exact .of_ok rfl
  exact ⟨haccept _, fun statement => haccept _ statement, hstart, hfinish _, hfinish _⟩

/-! ## Rows -/

namespace Graph

variable {g : Graph} {strategy : Strategy} {path : List Entity} {owner : Nat} {e : Entity}

/-- **Every place of a path has an entity that supplies the value for a discriminator column there.** -/
theorem discriminatorSource?_isSome (h : owner < path.length) :
    (discriminatorSource? strategy path owner).isSome = true := by
  have hne : path ≠ [] := by
    intro hn
    rw [hn] at h
    cases h
  unfold discriminatorSource?
  cases strategy with
  | joined =>
    dsimp only
    split
    · rfl
    · rw [List.getElem?_eq_getElem h]
      rfl
  | singleTable | tablePerClass => exact List.getLast?_isSome.2 hne

/-! ## Statements -/

/-- Whether the owner of a row is an entity with that table and a key. -/
def OwnsRow (g : Graph) (row : TableRow) : Prop :=
  ∃ e, g.find? row.entity = some e ∧ e.tableName = some row.table ∧ e.primaryKeys ≠ []

theorem keyNames_eq_ok {row : TableRow} (hf : g.find? row.entity = some e) (hk : e.primaryKeys ≠ []) :
    g.keyNames row = .ok (e.primaryKeys.map (·.name)) := by
  have hne : ¬ (e.primaryKeys.map (·.name)).isEmpty = true := by
    rw [List.isEmpty_map, List.isEmpty_iff]
    exact hk
  unfold keyNames
  rw [requireHeld_eq_ok.2 hf]
  exact if_neg hne

theorem keyNames_noDefect {row : TableRow} (h : g.OwnsRow row) : NoDefect ((g.keyNames row).mapError .mapping) := by
  obtain ⟨e, hf, -, hk⟩ := h
  rw [keyNames_eq_ok hf hk]
  exact .of_ok rfl

theorem keyCondition_noDefect {row : TableRow} (h : g.OwnsRow row) : NoDefect (g.keyCondition row) := by
  unfold keyCondition
  refine (keyNames_noDefect h).bind fun keys _ => NoDefect.mapM fun key _ => ?_
  unfold TableRow.keyEquation
  split
  · exact .of_error fun h => by cases h
  · exact .of_error fun h => by cases h
  · exact .marshalling

theorem statementsOf_noDefect {rows : List TableRow} (h : ∀ row ∈ rows, g.OwnsRow row) (change : Change) :
    NoDefect (g.statementsOf rows change) := by
  unfold statementsOf
  cases change with
  | persist => exact NoDefect.bind .marshalling fun _ _ => .of_ok rfl
  | update =>
    refine NoDefect.bind (.mapM fun row hr => ?_) fun _ _ => .of_ok rfl
    unfold updateOf
    refine (keyNames_noDefect (h row hr)).bind fun keys _ => NoDefect.bind .marshalling fun assignments _ => ?_
    split
    · exact .of_ok rfl
    · exact (keyCondition_noDefect (h row hr)).bind fun _ _ => .of_ok rfl
  | remove =>
    refine NoDefect.bind (.mapM fun row hr => ?_) fun _ _ => .of_ok rfl
    unfold removalOf
    exact (keyCondition_noDefect (h row (List.mem_reverse.1 hr))).bind fun _ _ => .of_ok rfl

/-! ## Clauses and join tables -/

/-- Foreign-key columns have clauses, as far as resolution is concerned, if they refer to entities. -/
theorem groupClauses_noDefect (source : Entity) {groups : List (List Column)} (hg : ∀ group ∈ groups, ∀ col ∈ group,
    ∀ key, col.foreignKey? = some key → ∃ x, g.find? key.entity = some x) :
    NoDefect (g.groupClauses source groups) := by
  refine NoDefect.bind (.mapM fun group hgroup => ?_) fun _ _ => .of_ok rfl
  unfold groupClause
  split
  · exact .of_ok rfl
  · rename_i key hkey
    obtain ⟨first, hfirst, hk⟩ := Option.bind_eq_some_iff.1 hkey
    obtain ⟨x, hx⟩ := hg group hgroup first (List.mem_of_mem_head? hfirst) key hk
    refine NoDefect.bind (.mapping (requireHeld_eq_ok.2 hx)) fun _ _ => ?_
    exact NoDefect.bind .configuration fun _ _ => .of_ok rfl

/-- A relationship that owns a join table is one of an entity. -/
theorem of_mem_joinTableRelationships {r : Relationship} (hr : r ∈ g.joinTableRelationships) :
    ∃ e ∈ g.entities, r ∈ e.relationships := by
  obtain ⟨e, he, hr⟩ := List.mem_flatMap.1 hr
  exact ⟨e, he, (List.mem_filter.1 hr).1⟩

/-! ## Names -/

/-- Whether every name that an entity holds is that of an entity. -/
structure NamesFound (g : Graph) (e : Entity) : Prop where
  parent : ∀ n, e.parent = some n → (g.find? n).isSome = true
  children : ∀ n ∈ e.children, (g.find? n).isSome = true
  relationships : ∀ r ∈ e.relationships, (g.find? r.source).isSome = true ∧ (g.find? r.target).isSome = true ∧
    ∀ mirror, r.mirror = some mirror → (g.find? mirror.entity).isSome = true
  columns : ∀ c ∈ e.columns, (g.find? c.declaredBy).isSome = true ∧
    ∀ key, c.foreignKey? = some key → (g.find? key.entity).isSome = true

end Graph

namespace Resolution
namespace Maps

variable {cfg : Config} {c : Catalog} {g : Graph} {e : Entity} {record : Record} {rows : List TableRow}
  {strategy : Strategy} {path : List Entity} {owner : Nat} (m : Maps cfg c g)
include m

/-! ## Names that are found -/

/-- An entity of the catalog is found by its name. -/
theorem isSome_find? {d : EntityDescriptor} (hd : d ∈ c.entities) : (g.find? d.typeName).isSome = true := by
  obtain ⟨x, -, hx⟩ := m.exists_find? hd
  exact Option.isSome_of_eq_some hx

/-- The names that a relationship holds are those of entities. -/
theorem relationship_namesFound (he : e ∈ g.entities) {r : Relationship} (hr : r ∈ e.relationships) :
    (g.find? r.source).isSome = true ∧ (g.find? r.target).isSome = true ∧
      ∀ mirror, r.mirror = some mirror → (g.find? mirror.entity).isSome = true := by
  obtain ⟨p, -, hcl⟩ := Relationship.of_mem_ofEntity (m.relationships_eq he) hr
  obtain ⟨hs, -, ht, -, -, -, linked, hl, -, -, hmirror⟩ := Relationship.classify_eq_ok hcl
  obtain ⟨hlm, hln⟩ := Catalog.find?_eq_some_iff.1 hl
  refine ⟨?_, ?_, fun mirror hm => ?_⟩
  · rw [hs]
    exact Option.isSome_of_eq_some (m.find?_typeName he)
  · rw [ht, ← hln]
    exact m.isSome_find? hlm
  · rw [hm] at hmirror
    obtain ⟨holder, hh, hhn, -⟩ := Relationship.declares_mirror hlm hmirror
    rw [← hhn]
    exact m.isSome_find? hh

/-- The names that a column holds are those of entities. -/
theorem column_namesFound (he : e ∈ g.entities) {col : Column} (hc : col ∈ e.columns) :
    (g.find? col.declaredBy).isSome = true ∧
      ∀ key, col.foreignKey? = some key → (g.find? key.entity).isSome = true := by
  -- a column has the declaring entity and the reference of the own column that it copies
  obtain ⟨x, hx, hxc⟩ := m.exists_own he col hc
  have hxm := m.mem_of_ancestry he hx
  have hdecl : col.original.declaredBy = x.typeName := m.declaredBy_of_own hxm hxc
  change col.declaredBy = x.typeName at hdecl
  refine ⟨?_, fun key hk => ?_⟩
  · rw [hdecl]
    exact Option.isSome_of_eq_some (m.find?_typeName hxm)
  · obtain ⟨-, r, -, -, -, hent, t, ht, htn, -⟩ := m.own_foreignKey hxm hxc hk
    rw [hent, ← htn]
    exact Option.isSome_of_eq_some (m.find?_typeName ht)

/-- **Every name that an entity holds is that of an entity.** -/
theorem namesFound (he : e ∈ g.entities) : g.NamesFound e := by
  refine ⟨fun n hn => ?_, fun n hn => ?_, fun r hr => m.relationship_namesFound he hr,
    fun col hcol => m.column_namesFound he hcol⟩
  · obtain ⟨p, -, hp⟩ := m.exists_parent he hn
    exact Option.isSome_of_eq_some hp
  · obtain ⟨x, -, hx⟩ := m.exists_child he hn
    exact Option.isSome_of_eq_some hx

/-! ## Objects stored -/

theorem referenceCell_noDefect (col : Column) (key : ForeignKey) : NoDefect (g.referenceCell record col key) := by
  unfold Graph.referenceCell
  split
  · rename_i ref _
    unfold Graph.referenceValue
    refine NoDefect.bind .query fun referred hr => ?_
    -- what is referred to is an entity, and the way up from it is found whole
    have hm := (m.find?_eq_some_iff.1 (Graph.require_eq_ok.1 (Outcome.mapError_eq_ok.1 hr))).1
    refine NoDefect.bind (.mapping (m.requireAncestry hm)) fun path _ => ?_
    cases path.any (·.typeName == key.entity) with
    | false => exact .of_error fun h => by cases h
    | true =>
      cases ref.key with
      | none => exact .of_error fun h => by cases h
      | some cells =>
        cases hv : Cells.get? key.referenced cells with
        | none =>
          simp only [hv]
          exact .of_error fun h => by cases h
        | some v =>
          simp only [hv]
          exact .of_ok rfl
  · split
    · exact .of_ok rfl
    · exact .of_error fun h => by cases h

theorem cellValue_noDefect (hs : (Graph.discriminatorSource? strategy path owner).isSome = true) (col : Column) :
    NoDefect (g.cellValue record strategy path owner col) := by
  unfold Graph.cellValue
  split
  · obtain ⟨s, hs⟩ := Option.isSome_iff_exists.1 hs
    unfold Graph.discriminatorCell
    rw [hs]
    dsimp only
    split
    · exact .of_ok rfl
    · exact .of_error fun h => by cases h
  · exact m.referenceCell_noDefect _ _
  · split
    · exact .of_ok rfl
    · exact .of_ok rfl

theorem fillRow_noDefect (hs : (Graph.discriminatorSource? strategy path owner).isSome = true) :
    ∀ (cols : List Column) (row : TableRow), NoDefect (g.fillRow record strategy path owner cols row)
  | [], _ => .of_ok rfl
  | col :: cols, row => by
    unfold Graph.fillRow
    refine (m.cellValue_noDefect hs col).bind fun v _ => ?_
    exact NoDefect.bind .marshalling fun written _ => fillRow_noDefect hs cols written

/-- **An entity with a table has a row** as far as resolution is concerned, if its discriminator column has a source. -/
theorem rowOf_noDefect (hs : (Graph.discriminatorSource? strategy path owner).isSome = true)
    (ht : e.tableName.isSome = true) (cols : List Column) :
    NoDefect (g.rowOf record strategy path owner e cols) := by
  obtain ⟨table, ht⟩ := Option.isSome_iff_exists.1 ht
  unfold Graph.rowOf Graph.ownTable
  rw [ht]
  exact NoDefect.bind (.of_ok rfl) fun _ _ => m.fillRow_noDefect hs _ _

theorem joinedRows_noDefect : ∀ (rest : List Entity) (owner : Nat), (∀ x ∈ rest, x.tableName.isSome = true) →
    owner + rest.length ≤ path.length → NoDefect (g.joinedRows record path owner rest)
  | [], _, _, _ => .of_ok rfl
  | x :: rest, owner, ht, hlen => by
    rw [List.length_cons] at hlen
    unfold Graph.joinedRows
    refine NoDefect.bind (m.rowOf_noDefect (Graph.discriminatorSource?_isSome (by omega)) (ht x List.mem_cons_self) _)
      fun row _ => ?_
    refine NoDefect.bind (joinedRows_noDefect rest (owner + 1) (fun y hy => ht y (List.mem_cons_of_mem _ hy))
      (by omega)) fun rows _ => ?_
    exact .of_ok rfl

/-- **No object fails to be lowered for want of a table or of a discriminator value's source.** -/
theorem rowsOf_noDefect (he : e ∈ g.entities) (ha : e.isAbstract = false) : NoDefect (g.rowsOf record e) := by
  rw [m.rowsOf_eq he]
  unfold Graph.rowsAlong
  cases hs : e.strategy with
  | joined =>
    refine m.joinedRows_noDefect _ 0 (fun x hx => ?_) (by omega)
    rw [m.tableName_isSome (m.mem_of_ancestry he hx), m.strategy_of_ancestry he x hx, hs]
    trivial
  | singleTable =>
    obtain ⟨hr, hrp⟩ := m.root_mem he
    obtain ⟨rest, hpath⟩ := m.ancestry_eq_cons he
    have ht : (g.root e).tableName.isSome = true := by
      rw [m.tableName_isSome hr, m.strategy_root he, hs]
      exact hrp
    rw [hpath]
    refine NoDefect.bind (m.rowOf_noDefect (Graph.discriminatorSource?_isSome ?_) ht _) fun _ _ => .of_ok rfl
    rw [List.length_cons]
    omega
  | tablePerClass =>
    have ht : e.tableName.isSome = true := by
      rw [m.tableName_isSome he, hs]
      exact ha
    refine NoDefect.bind (m.rowOf_noDefect (Graph.discriminatorSource?_isSome ?_) ht _) fun _ _ => .of_ok rfl
    rw [Graph.length_ancestry]
    omega

theorem rows_noDefect : NoDefect (g.rows record) := by
  unfold Graph.rows
  refine NoDefect.bind .query fun e he => ?_
  replace he := Outcome.mapError_eq_ok.1 he
  by_cases ha : e.isAbstract = true
  · rw [ha]
    exact .of_error fun h => by cases h
  · rw [Bool.not_eq_true] at ha
    rw [ha]
    exact m.rowsOf_noDefect (m.find?_eq_some_iff.1 (m.requireResolved_eq_ok.1 he)).1 ha

/-- **Every row belongs to an entity that has its table and a key.** -/
theorem ownsRow_of_rows (h : g.rows record = .ok rows) : ∀ row ∈ rows, g.OwnsRow row := by
  intro row hr
  obtain ⟨e, hf, -, h⟩ := m.rows_eq_ok h
  have he := (m.find?_eq_some_iff.1 hf).1
  obtain ⟨x, hx, owner, columns, hrow⟩ := (m.rowsOf_eq_ok he h).2 row hr
  have hxm := m.mem_of_ancestry he hx
  exact ⟨x, hrow.entity_eq ▸ m.find?_typeName hxm, hrow.table_eq, m.primaryKeys_ne_nil hxm⟩

/-! ## Objects loaded -/

theorem joinedLeaf_noDefect (row : Row) : ∀ (steps : Nat) {e : Entity}, e ∈ g.entities →
    NoDefect (g.joinedLeaf row steps e)
  | 0, _, _ => .of_ok rfl
  | steps + 1, e, he => by
    cases hc : e.discriminatorColumn? with
    | none =>
      unfold Graph.joinedLeaf
      rw [hc]
      exact .of_ok rfl
    | some col =>
      rw [m.joinedLeaf_of_column he hc]
      refine NoDefect.bind .marshalling fun v _ => ?_
      split
      · exact .of_ok rfl
      · refine NoDefect.bind .marshalling fun y hy => joinedLeaf_noDefect row steps ?_
        have hy := (Graph.mem_of_findByValue (Outcome.mapError_eq_ok.1 hy)).1
        exact ((m.mem_children he).1 hy).1

theorem leaf_noDefect (he : e ∈ g.entities) (row : Row) : NoDefect (g.leaf e row) := by
  unfold Graph.leaf
  split
  · exact m.joinedLeaf_noDefect row _ he
  all_goals
    unfold Graph.sharedLeaf
    split
    · exact .of_ok rfl
    · refine NoDefect.bind (.mapping (m.requireRoot he)) fun root _ => ?_
      unfold Graph.leafByRoot
      split
      · exact .of_ok rfl
      · refine NoDefect.bind .marshalling fun v _ => ?_
        split
        · exact .of_ok rfl
        · exact NoDefect.bind (.mapping (m.requireDescendants he)) fun _ _ => .marshalling

theorem loadPath_noDefect (row : Row) : ∀ (path : List Entity) (record : Record), (∀ x ∈ path, x ∈ g.entities) →
    NoDefect (g.loadPath row path record)
  | [], _, _ => .of_ok rfl
  | x :: path, record, hpath => by
    unfold Graph.loadPath
    refine NoDefect.bind (.mapping (m.requireAliasLevel (hpath x List.mem_cons_self))) fun level _ => ?_
    refine NoDefect.bind .marshalling fun loaded _ => ?_
    exact loadPath_noDefect row path loaded fun y hy => hpath y (List.mem_cons_of_mem _ hy)

/-- **No object fails to be lifted because an entity is missing on a way up or down.** -/
theorem record_noDefect (name : String) (row : Row) : NoDefect (g.record name row) := by
  unfold Graph.record
  refine NoDefect.bind .query fun e hr => ?_
  have he := (m.find?_eq_some_iff.1 (m.requireResolved_eq_ok.1 (Outcome.mapError_eq_ok.1 hr))).1
  refine (m.leaf_noDefect he row).bind fun leaf hleaf => ?_
  have hl := m.mem_of_eq_or_below he ((m.leaf_eq_ok he).1 hleaf).1
  split
  · exact .of_error fun h => by cases h
  · refine NoDefect.bind (.mapping (m.requireAncestry hl)) fun path hpath => ?_
    cases (m.requireAncestry hl).symm.trans (Outcome.mapError_eq_ok.1 hpath)
    exact m.loadPath_noDefect row _ _ fun x hx => m.mem_of_ancestry hl hx

/-! ## Tables -/

theorem tableColumns_noDefect (he : e ∈ g.entities) : NoDefect (g.tableColumns e) := by
  have hbelow : ∃ below, g.columnsBelow e = .ok below := by
    unfold Graph.columnsBelow
    rw [m.requireDescendants he]
    split
    · exact ⟨_, rfl⟩
    · exact ⟨_, rfl⟩
  obtain ⟨below, hbelow⟩ := hbelow
  exact NoDefect.bind (.mapping hbelow) fun _ _ => .configuration

theorem parentClauses_noDefect (he : e ∈ g.entities) : NoDefect (g.parentClauses e) := by
  unfold Graph.parentClauses
  split
  · rename_i name _ hn
    obtain ⟨p, -, hp⟩ := m.exists_parent he hn
    refine NoDefect.bind (.mapping (Graph.requireHeld_eq_ok.2 hp)) fun _ _ => ?_
    exact NoDefect.bind .configuration fun _ _ => .of_ok rfl
  · exact .of_ok rfl

/-- **The table of an entity is created**, as far as resolution is concerned. -/
theorem createTable_noDefect (he : e ∈ g.entities) : NoDefect (g.createTable e) := by
  unfold Graph.createTable
  split
  · exact .of_ok rfl
  rename_i table _
  have hnamed : NoDefect (g.createTableNamed e table) := by
    refine (m.tableColumns_noDefect he).bind fun stored hstored => NoDefect.bind .configuration fun uniques _ => ?_
    refine (m.parentClauses_noDefect he).bind fun toParent _ => ?_
    refine NoDefect.bind (Graph.groupClauses_noDefect e fun group hgroup col hcol key hk => ?_) fun _ _ => .of_ok rfl
    -- the columns that a table stores are those of entities, and refer to such
    obtain ⟨name, -, rfl⟩ := List.mem_map.1 hgroup
    obtain ⟨s, hs, rfl⟩ := List.mem_map.1 (List.mem_filter.1 hcol).1
    obtain ⟨x, hx, hxc⟩ := m.mem_of_stored he hstored hs
    exact Option.isSome_iff_exists.1 ((m.column_namesFound hx hxc).2 key hk)
  intro fault hf
  exact hnamed fault (Outcome.map_eq_error.1 hf)

theorem joinTable_noDefect (he : e ∈ g.entities) {r : Relationship} (hr : r ∈ e.relationships) :
    NoDefect (g.joinTable r) := by
  obtain ⟨hs, ht, -⟩ := m.relationship_namesFound he hr
  obtain ⟨source, hs⟩ := Option.isSome_iff_exists.1 hs
  obtain ⟨target, ht⟩ := Option.isSome_iff_exists.1 ht
  unfold Graph.joinTable
  split
  · exact .of_error fun h => by cases h
  · refine NoDefect.bind (.mapping (Graph.requireHeld_eq_ok.2 hs)) fun _ _ => ?_
    exact NoDefect.bind (.mapping (Graph.requireHeld_eq_ok.2 ht)) fun _ _ => .mapError fun _ h => by cases h

/-- **The join table of a relationship is created**, as far as resolution is concerned. -/
theorem createJoinTable_noDefect {r : Relationship} {t : JoinTable} (h : g.joinTable r = .ok t) :
    NoDefect (g.createJoinTable t) := by
  obtain ⟨source, target, hs, ht, hb⟩ := Graph.joinTable_eq_ok h
  obtain ⟨hsource, hdirect, hinverse, -⟩ := JoinTable.build_eq_ok hb
  have hfound : ∀ {side : Entity} {cols : List Column}, side ∈ g.entities → (∀ col ∈ cols, col.RefersTo side) →
      ∀ col ∈ cols, ∀ key, col.foreignKey? = some key → ∃ x, g.find? key.entity = some x := by
    intro side cols hside href col hcol key hk
    obtain ⟨key', hk', hent, -⟩ := href col hcol
    cases hk.symm.trans hk'
    exact ⟨side, by rw [hent, m.find?_typeName hside]⟩
  unfold Graph.createJoinTable
  rw [hsource]
  refine NoDefect.bind (.mapping (Graph.requireHeld_eq_ok.2 hs)) fun _ _ => ?_
  refine NoDefect.bind (Graph.groupClauses_noDefect _ fun group hgroup => ?_) fun _ _ => .of_ok rfl
  rcases List.mem_cons.1 hgroup with rfl | hgroup
  · exact hfound (m.find?_eq_some_iff.1 hs).1 hdirect
  · cases List.mem_singleton.1 hgroup
    exact hfound (m.find?_eq_some_iff.1 ht).1 hinverse

theorem schema_noDefect : NoDefect g.schema := by
  unfold Graph.schema
  refine NoDefect.bind (.mapM fun e he => m.createTable_noDefect he) fun _ _ => ?_
  refine NoDefect.bind (.mapM fun r hr => ?_) fun _ _ => .of_ok rfl
  obtain ⟨e, he, hr⟩ := Graph.of_mem_joinTableRelationships hr
  exact (m.joinTable_noDefect he hr).bind fun t ht => m.createJoinTable_noDefect ht

theorem layout_noDefect : NoDefect g.layout := by
  unfold Graph.layout
  refine NoDefect.bind (.mapM fun e he => ?_) fun _ _ => NoDefect.bind (.mapM fun r hr => ?_) fun _ _ => .of_ok rfl
  · unfold Graph.entityLayout
    split
    · exact .of_ok rfl
    · exact (m.tableColumns_noDefect he).bind fun _ _ => .of_ok rfl
  · obtain ⟨e, he, hr⟩ := Graph.of_mem_joinTableRelationships hr
    exact (m.joinTable_noDefect he hr).bind fun _ _ => .of_ok rfl

end Maps
end Resolution

namespace Database

variable {db : Database}

theorem notMapped_noDefect {α : Type} (db : Database) : NoDefect (.error db.notMapped : Except Error α) := by
  have hkind : db.notMapped.kind ≠ .mapping := fun h => by cases h
  exact .of_error hkind

theorem requireMapped_noDefect (db : Database) : NoDefect db.requireMapped := by
  unfold requireMapped requireMapped?
  split
  · exact db.notMapped_noDefect
  · rename_i m _
    cases m.outcome.content with
    | none => exact db.notMapped_noDefect
    | some r => exact .configuration

theorem requireOutcome_noDefect (db : Database) (e : Entity) : NoDefect (db.requireOutcome e) := by
  unfold requireOutcome
  split
  · exact .configuration
  · exact db.notMapped_noDefect

theorem Mapped.joinTable_noDefect (h : db.Mapped) {e : Entity} (he : e ∈ db.graph.entities) {r : Relationship}
    (hr : r ∈ e.relationships) : NoDefect (db.joinTable r) := by
  obtain ⟨hs, ht, -⟩ := h.maps.relationship_namesFound he hr
  obtain ⟨source, hs⟩ := Option.isSome_iff_exists.1 hs
  obtain ⟨target, ht⟩ := Option.isSome_iff_exists.1 ht
  unfold joinTable
  split
  · refine NoDefect.bind (.mapping (Graph.requireHeld_eq_ok.2 hs)) fun _ _ => ?_
    refine NoDefect.bind (.mapping (Graph.requireHeld_eq_ok.2 ht)) fun _ _ => ?_
    refine (db.requireOutcome_noDefect _).bind fun _ _ => (db.requireOutcome_noDefect _).bind fun _ _ => ?_
    exact h.maps.joinTable_noDefect he hr
  · exact h.maps.joinTable_noDefect he hr

theorem Mapped.schema_noDefect (h : db.Mapped) : NoDefect db.schema :=
  db.requireMapped_noDefect.bind fun _ _ => h.maps.schema_noDefect

theorem Mapped.layout_noDefect (h : db.Mapped) : NoDefect db.layout :=
  db.requireMapped_noDefect.bind fun _ _ => h.maps.layout_noDefect

section
variable {c : Connection σ} (hc : c.NoDefect)
include hc

theorem createSchema_noDefect (h : db.Mapped) : (db.createSchema c).NoDefect := by
  unfold createSchema
  exact (Action.NoDefect.lift h.schema_noDefect).bind fun _ => c.runInTransaction_noDefect hc _

theorem dumpTables_noDefect : ∀ tables, (dumpTables c tables).NoDefect
  | [] => .pure _
  | t :: rest => by
    unfold dumpTables dumpTable
    refine Action.NoDefect.bind ((hc.query _).bind fun _ => .pure _) fun _ => ?_
    exact (dumpTables_noDefect rest).bind fun _ => .pure _

theorem dump_noDefect (h : db.Mapped) : (db.dump c).NoDefect := by
  unfold dump
  refine (Action.NoDefect.lift h.layout_noDefect).bind fun _ => ?_
  exact (dumpTables_noDefect hc _).bind fun _ => .pure _

theorem change_noDefect (h : db.Mapped) (change : Change) (record : Record) : (db.change c change record).NoDefect := by
  have hstatements : NoDefect (db.graph.statements change record) :=
    h.maps.rows_noDefect.bind fun rows hr => Graph.statementsOf_noDefect (h.maps.ownsRow_of_rows hr) change
  unfold Database.change
  refine (Action.NoDefect.lift db.requireMapped_noDefect).bind fun _ => ?_
  exact (Action.NoDefect.lift hstatements).bind fun _ => c.runInTransaction_noDefect hc _

end

/-- **After a mapping that succeeded no operation ends in an internal defect.**  Nor is there one to run into: every row
belongs to an entity that has its table and a key, every place of every path has an entity that supplies the value for a
discriminator column there, and every name that an entity holds is that of an entity. -/
theorem no_internal_defect {db : Database} (h : db.Mapped) :
    (∀ record, NoDefect (db.graph.rows record)) ∧ (∀ name row, NoDefect (db.graph.record name row)) ∧
    (∀ change record, (db.change Recording.connection change record).NoDefect) ∧
    NoDefect db.schema ∧ NoDefect db.layout ∧ (db.createSchema Recording.connection).NoDefect ∧
    (db.dump Recording.connection).NoDefect ∧
    (∀ e ∈ db.graph.entities, ∀ r ∈ e.relationships, NoDefect (db.joinTable r)) ∧
    (∀ record rows, db.graph.rows record = .ok rows → ∀ row ∈ rows, ∃ e, db.graph.find? row.entity = some e ∧
      e.tableName = some row.table ∧ e.primaryKeys ≠ []) ∧
    (∀ e ∈ db.graph.entities, ∀ place < (db.graph.ancestry e).length,
      (Graph.discriminatorSource? e.strategy (db.graph.ancestry e) place).isSome = true) ∧
    ∀ e ∈ db.graph.entities, db.graph.NamesFound e := by
  have m := h.maps
  have hc := Recording.connection_noDefect
  exact ⟨fun record => m.rows_noDefect, fun name row => m.record_noDefect name row,
    fun change record => change_noDefect hc h change record, h.schema_noDefect, h.layout_noDefect,
    createSchema_noDefect hc h, dump_noDefect hc h, fun e he r hr => h.joinTable_noDefect he hr,
    fun record rows hr => m.ownsRow_of_rows hr, fun e _ place hp => Graph.discriminatorSource?_isSome hp,
    fun e he => m.namesFound he⟩

/-- Outside of mapped databases there are defects: here the parent is missing that a table would refer to. -/
example : Graph.schema { database := "fleet", entities := [
    { descriptor := { typeName := "Van" }, parent := some "Car", tableName := some "van" }] } =
      .error (.mapping (.missingEntity "Car" "fleet")) := by decide +kernel

/-- The fleet, with relationships of three entities and columns that refer across hierarchies. -/
theorem no_internal_defect_fleet : fleet.Mapped ∧
    (∀ change record, (fleet.change Recording.connection change record).NoDefect) ∧
    (∀ e ∈ fleet.graph.entities, fleet.graph.NamesFound e) ∧
    (fleet.graph.entities.flatMap (·.relationships)).map (fun r => (r.source, r.target)) =
      [("Car", "Driver"), ("Driver", "Garage"), ("Boss", "Garage")] := by
  obtain ⟨-, -, hchange, -, -, -, -, -, -, -, hnames⟩ := no_internal_defect fleet_mapped
  exact ⟨fleet_mapped, hchange, hnames, by decide +kernel⟩

end Database
end Ormap
