import Ormap.Object.Storing
import Ormap.Proofs.Cells
import Ormap.Proofs.Tables
/-!
# Stored objects — what the rows of an object hold

Each row is that of an entity on the way to the object's own, in that entity's table and at its place.  Together they
hold a cell for every own column of every entity on the way, which the joined row finds at the alias level of that
entity (`Maps.written`): in a row of its own where the hierarchy is joined, in the one row of the root's table, or as a
copy in the one row of the object's own table.
-/
namespace Ormap
namespace Graph

variable {g : Graph} {record : Record} {strategy : Strategy} {path : List Entity} {owner : Nat} {e : Entity}

/-- Whether a row is that of an entity at a place of a path, with a cell for each of the given columns. -/
structure IsRowOf (g : Graph) (record : Record) (strategy : Strategy) (path : List Entity) (owner : Nat) (e : Entity)
    (columns : List Column) (row : TableRow) : Prop where
  entity_eq : row.entity = e.typeName
  table_eq : e.tableName = some row.table
  level_eq : row.level = owner
  distinct : (Cells.names row.cells).Nodup
  written : (∀ a ∈ columns, ∀ b ∈ columns, a.name = b.name → a = b) → ∀ c ∈ columns, ∃ v w,
    g.cellValue record strategy path owner c = .ok v ∧ c.type.store c.name v = .ok w ∧ row.get? c.name = some w

theorem write_eq_ok {c : Column} {v : Value} {row out : TableRow} :
    c.write v row = .ok out ↔ ∃ w, c.type.store c.name v = .ok w ∧ row.set c.name w = out := by
  unfold Column.write
  rw [Outcome.bind_eq_ok]
  exact exists_congr fun w => and_congr_right fun _ => by simp [pure, Except.pure]

theorem fillRow_frame : ∀ {cols : List Column} {row out : TableRow},
    g.fillRow record strategy path owner cols row = .ok out →
    out.entity = row.entity ∧ out.table = row.table ∧ out.level = row.level ∧
      ((Cells.names row.cells).Nodup → (Cells.names out.cells).Nodup) ∧
      ∀ n, n ∉ cols.map (·.name) → out.get? n = row.get? n
  | [], row, out, h => by
    cases h
    exact ⟨rfl, rfl, rfl, id, fun _ _ => rfl⟩
  | c :: cs, row, out, h => by
    unfold fillRow at h
    obtain ⟨v, -, h⟩ := Outcome.bind_eq_ok.1 h
    obtain ⟨written, hw, h⟩ := Outcome.bind_eq_ok.1 h
    obtain ⟨w, -, rfl⟩ := write_eq_ok.1 (Outcome.mapError_eq_ok.1 hw)
    obtain ⟨h1, h2, h3, h4, h5⟩ := fillRow_frame h
    refine ⟨h1, h2, h3, fun hn => h4 (Cells.nodup_names_set _ _ hn), fun n hn => ?_⟩
    rw [List.map_cons, List.mem_cons, not_or] at hn
    rw [h5 n hn.2]
    show Cells.get? n (Cells.set c.name w row.cells) = _
    rw [Cells.get?_set, if_neg hn.1]
    rfl

/-- **The last column of a name has the cell.** -/
theorem fillRow_last : ∀ {before after : List Column} {c : Column} {row out : TableRow},
    g.fillRow record strategy path owner (before ++ c :: after) row = .ok out → c.name ∉ after.map (·.name) →
    ∃ v w, g.cellValue record strategy path owner c = .ok v ∧ c.type.store c.name v = .ok w ∧ out.get? c.name = some w
  | [], after, c, row, out, h, hlast => by
    rw [List.nil_append, fillRow] at h
    obtain ⟨v, hv, h⟩ := Outcome.bind_eq_ok.1 h
    obtain ⟨written, hwritten, h⟩ := Outcome.bind_eq_ok.1 h
    obtain ⟨w, hw, rfl⟩ := write_eq_ok.1 (Outcome.mapError_eq_ok.1 hwritten)
    refine ⟨v, w, hv, hw, ?_⟩
    rw [(fillRow_frame h).2.2.2.2 c.name hlast]
    show Cells.get? c.name (Cells.set c.name w row.cells) = some w
    rw [Cells.get?_set, if_pos rfl]
  | _ :: before, after, c, row, out, h, hlast => by
    rw [List.cons_append, fillRow] at h
    obtain ⟨v, -, h⟩ := Outcome.bind_eq_ok.1 h
    obtain ⟨written, -, h⟩ := Outcome.bind_eq_ok.1 h
    exact fillRow_last h hlast

/-- **A filled row holds the cell of every column**, where one name is that of one column. -/
theorem fillRow_written {cols : List Column} {row out : TableRow}
    (h : g.fillRow record strategy path owner cols row = .ok out)
    (hinj : ∀ a ∈ cols, ∀ b ∈ cols, a.name = b.name → a = b) :
    ∀ c ∈ cols, ∃ v w, g.cellValue record strategy path owner c = .ok v ∧ c.type.store c.name v = .ok w ∧
      out.get? c.name = some w := by
  intro c hc
  -- after its last place no column has its name
  obtain ⟨after, before, hsplit, hlast⟩ := List.eq_append_cons_of_mem (List.mem_reverse.2 hc)
  have hcols : cols = before.reverse ++ c :: after.reverse := by simpa using congrArg List.reverse hsplit
  rw [hcols] at h
  refine fillRow_last h fun hn => hlast ?_
  obtain ⟨b, hb, hbn⟩ := List.mem_map.1 hn
  have hb' : b ∈ after := List.mem_reverse.1 hb
  have hmem : b ∈ cols := by
    rw [hcols]
    exact List.mem_append_right _ (List.mem_cons_of_mem _ hb)
  exact hinj b hmem c hc hbn ▸ hb'

theorem mem_columns_fillRow : ∀ {cols : List Column} {row out : TableRow},
    g.fillRow record strategy path owner cols row = .ok out →
    ∀ n, n ∈ out.columns ↔ n ∈ row.columns ∨ n ∈ cols.map (·.name)
  | [], row, out, h, n => by
    cases h
    simp
  | c :: cs, row, out, h, n => by
    unfold fillRow at h
    obtain ⟨v, -, h⟩ := Outcome.bind_eq_ok.1 h
    obtain ⟨written, hw, h⟩ := Outcome.bind_eq_ok.1 h
    obtain ⟨w, -, rfl⟩ := write_eq_ok.1 (Outcome.mapError_eq_ok.1 hw)
    have hset : n ∈ (row.set c.name w).columns ↔ n = c.name ∨ n ∈ row.columns := Cells.mem_names_set
    rw [mem_columns_fillRow h n, hset, List.map_cons, List.mem_cons, or_assoc, or_left_comm]

/-- **Filling a row appends the names of the columns**, where all names are distinct. -/
theorem columns_fillRow : ∀ {cols : List Column} {row out : TableRow},
    g.fillRow record strategy path owner cols row = .ok out → (row.columns ++ cols.map (·.name)).Nodup →
    out.columns = row.columns ++ cols.map (·.name)
  | [], row, out, h, _ => by
    cases h
    simp
  | c :: cs, row, out, h, hn => by
    unfold fillRow at h
    obtain ⟨v, -, h⟩ := Outcome.bind_eq_ok.1 h
    obtain ⟨written, hw, h⟩ := Outcome.bind_eq_ok.1 h
    obtain ⟨w, -, rfl⟩ := write_eq_ok.1 (Outcome.mapError_eq_ok.1 hw)
    have hnew : c.name ∉ row.columns := fun hm => (List.nodup_append.1 hn).2.2 _ hm _ List.mem_cons_self rfl
    have hset : (row.set c.name w).columns = row.columns ++ [c.name] := Cells.names_set hnew
    have hsplit : row.columns ++ (c :: cs).map (·.name) = (row.set c.name w).columns ++ cs.map (·.name) := by
      rw [hset, List.map_cons, List.append_assoc, List.singleton_append]
    rw [hsplit] at hn ⊢
    exact columns_fillRow h hn

theorem columns_of_rowOf {columns : List Column} {row : TableRow}
    (h : g.rowOf record strategy path owner e columns = .ok row) :
    (∀ n, n ∈ row.columns ↔ n ∈ columns.map (·.name)) ∧
      ((columns.map (·.name)).Nodup → row.columns = columns.map (·.name)) := by
  unfold rowOf at h
  obtain ⟨table, -, h⟩ := Outcome.bind_eq_ok.1 h
  refine ⟨fun n => ?_, fun hn => columns_fillRow h hn⟩
  rw [mem_columns_fillRow h n]
  simp [TableRow.columns, Cells.names]

theorem isRowOf_of_rowOf {columns : List Column} {row : TableRow}
    (h : g.rowOf record strategy path owner e columns = .ok row) :
    g.IsRowOf record strategy path owner e columns row := by
  unfold rowOf at h
  obtain ⟨table, ht, h⟩ := Outcome.bind_eq_ok.1 h
  obtain ⟨h1, h2, h3, h4, -⟩ := fillRow_frame h
  refine ⟨h1, ?_, h3, h4 List.nodup_nil, fillRow_written h⟩
  replace ht := Outcome.mapError_eq_ok.1 ht
  unfold ownTable at ht
  split at ht
  · rename_i hn
    rw [hn, h2, Except.ok.inj ht]
  · cases ht

/-! ## Places -/

/-- A place for a row of an object: the entity in whose table the row is, the level of the table, and the columns whose
cells the row holds. -/
structure Place where
  entity : Entity
  level : Nat
  columns : List Column

/-- The places of an object of `e`, in the order of its rows. -/
def places (g : Graph) (e : Entity) : List Place :=
  match e.strategy with
  | .joined => (g.ancestry e).zipIdx.map fun p => ⟨p.1, p.2, p.1.columns⟩
  | .singleTable => [⟨g.root e, 0, singleTableColumns (g.root e) (g.ancestry e).tail⟩]
  | .tablePerClass => [⟨e, 0, e.columns⟩]

/-- The entity in whose table an object of `e` has the cells of an entity `x` on the way to `e`. -/
def cellOwner (g : Graph) (e x : Entity) : Entity :=
  match e.strategy with
  | .joined => x
  | .singleTable => g.root e
  | .tablePerClass => e

theorem joinedRows_eq_mapM : ∀ (rest : List Entity) (owner : Nat), g.joinedRows record path owner rest =
    (rest.zipIdx owner).mapM fun p => g.rowOf record .joined path p.2 p.1 p.1.columns
  | [], _ => rfl
  | x :: rest, owner => by
    unfold joinedRows
    rw [joinedRows_eq_mapM rest (owner + 1), List.zipIdx_cons, List.mapM_cons]

/-- A place holds the columns of its entity, and others only in a single table. -/
theorem place_columns {p : Place} (hp : p ∈ g.places e) : ∃ more, p.columns = p.entity.columns ++ more ∧
    (e.strategy ≠ .singleTable → more = []) := by
  unfold places at hp
  split at hp
  · obtain ⟨q, -, rfl⟩ := List.mem_map.1 hp
    exact ⟨[], (List.append_nil _).symm, fun _ => rfl⟩
  · rename_i hs
    cases List.mem_singleton.1 hp
    exact ⟨_, rfl, fun hn => absurd hs hn⟩
  · cases List.mem_singleton.1 hp
    exact ⟨[], (List.append_nil _).symm, fun _ => rfl⟩

/-- The levels of the places of an object are distinct. -/
theorem places_levels (g : Graph) (e : Entity) : ((g.places e).map (·.level)).Nodup := by
  unfold places
  cases e.strategy with
  | joined =>
    dsimp only
    rw [List.map_map, show ((fun p : Place => p.level) ∘ fun p : Entity × Nat => ⟨p.1, p.2, p.1.columns⟩) = Prod.snd
      from rfl, List.zipIdx_map_snd]
    exact List.nodup_range'
  | singleTable => exact List.nodup_singleton _
  | tablePerClass => exact List.nodup_singleton _

/-- Whether some row of an object of `e` has the cell of a column of `x`, at the alias level of `x`. -/
def HasCell (g : Graph) (record : Record) (e : Entity) (rows : List TableRow) (x : Entity) (c : Column) : Prop :=
  ∃ row ∈ rows, row.level = g.aliasLevel x ∧ ∃ v w,
    g.cellValue record e.strategy (g.ancestry e) (g.aliasLevel x) c = .ok v ∧ c.type.store c.name v = .ok w ∧
      row.get? c.name = some w

end Graph

namespace Resolution
namespace Maps

variable {cfg : Config} {c : Catalog} {g : Graph} {e x : Entity} {record : Record} {rows : List TableRow} {col : Column}
  (m : Maps cfg c g)
include m

theorem requireResolved_eq_ok {name : String} : g.requireResolved name = .ok e ↔ g.find? name = some e := by
  unfold Graph.requireResolved Graph.require
  cases hf : g.find? name with
  | none =>
    constructor
    · intro h
      cases h
    · intro h
      cases h
  | some x =>
    have hr : x.resolved = true := by
      have hx := (m.find?_eq_some_iff.1 hf).1
      obtain rfl := m.graph_eq
      obtain ⟨d, up, o, base, cols, given, rfl, s⟩ := m.exists_settled hx
      exact s.entity_resolved
    show (if x.resolved = true then Except.ok x else _) = .ok e ↔ _
    rw [if_pos hr, Except.ok.injEq, Option.some.injEq]

/-- **Only objects of concrete entities have rows.** -/
theorem rows_eq_ok (h : g.rows record = .ok rows) :
    ∃ e, g.find? record.typeName = some e ∧ e.isAbstract = false ∧ g.rowsOf record e = .ok rows := by
  unfold Graph.rows at h
  obtain ⟨e, hr, h⟩ := Outcome.bind_eq_ok.1 h
  refine ⟨e, m.requireResolved_eq_ok.1 (Outcome.mapError_eq_ok.1 hr), ?_⟩
  by_cases ha : e.isAbstract = true
  · rw [ha] at h
    cases h
  · rw [Bool.not_eq_true] at ha
    rw [ha] at h
    exact ⟨ha, h⟩

/-- The rows of an object are those along the way to its entity, which is found whole. -/
theorem rowsOf_eq (he : e ∈ g.entities) : g.rowsOf record e = g.rowsAlong record e (g.ancestry e) := by
  unfold Graph.rowsOf
  rw [m.requireAncestry he]
  rfl

/-- **An object has one row for each of its places**, in their order. -/
theorem rowsOf_places (he : e ∈ g.entities) (h : g.rowsOf record e = .ok rows) : List.Forall₂
    (fun p row => g.rowOf record e.strategy (g.ancestry e) p.level p.entity p.columns = .ok row) (g.places e) rows := by
  obtain ⟨rest, ha⟩ := m.ancestry_eq_cons he
  rw [← Outcome.mapM_eq_ok, ← h, m.rowsOf_eq he]
  unfold Graph.places Graph.rowsAlong
  rw [ha]
  cases e.strategy with
  | joined =>
    dsimp only
    rw [Graph.joinedRows_eq_mapM, List.mapM_map]
    rfl
  | singleTable =>
    dsimp only
    rw [List.mapM_cons, List.mapM_nil]
    rfl
  | tablePerClass =>
    dsimp only
    rw [List.mapM_cons, List.mapM_nil]
    rfl

theorem mem_of_places (he : e ∈ g.entities) {p : Graph.Place} (hp : p ∈ g.places e) : p.entity ∈ g.ancestry e := by
  unfold Graph.places at hp
  split at hp
  · obtain ⟨q, hq, rfl⟩ := List.mem_map.1 hp
    exact List.fst_mem_of_mem_zipIdx hq
  · cases List.mem_singleton.1 hp
    exact m.root_mem_ancestry he
  · cases List.mem_singleton.1 hp
    exact g.self_mem_ancestry e

theorem cellOwner_mem (he : e ∈ g.entities) (hx : x ∈ g.ancestry e) : g.cellOwner e x ∈ g.entities := by
  unfold Graph.cellOwner
  cases e.strategy with
  | joined => exact m.mem_of_ancestry he hx
  | singleTable => exact (m.root_mem he).1
  | tablePerClass => exact he

/-- **Each row of an object is that of an entity on the way to its own**, and no two have one level. -/
theorem rowsOf_eq_ok (he : e ∈ g.entities) (h : g.rowsOf record e = .ok rows) :
    (rows.map (·.level)).Nodup ∧ ∀ row ∈ rows, ∃ x ∈ g.ancestry e, ∃ owner columns,
      g.IsRowOf record e.strategy (g.ancestry e) owner x columns row := by
  have hplaces := m.rowsOf_places he h
  constructor
  · have hlevels : (g.places e).map (·.level) = rows.map (·.level) := by
      rw [← List.forall₂_eq_eq_eq, List.forall₂_map_left_iff, List.forall₂_map_right_iff]
      exact hplaces.imp fun p row hrow => (Graph.isRowOf_of_rowOf hrow).level_eq.symm
    rw [← hlevels]
    exact g.places_levels e
  · intro row hr
    obtain ⟨p, hp, hrow⟩ := Outcome.exists_of_mem_right hplaces row hr
    exact ⟨p.entity, m.mem_of_places he hp, p.level, p.columns, Graph.isRowOf_of_rowOf hrow⟩

/-- **Where each class has a table of its own, an entity has a copy of every column of the entities above it.** -/
theorem exists_copy (he : e ∈ g.entities) (hs : e.strategy = .tablePerClass) : ∀ x ∈ g.ancestry e, ∀ col ∈ x.columns,
    ∃ copy ∈ e.columns, copy.original = col.original := by
  induction e, he using m.induct with
  | root e he hp =>
    intro x hx col hc
    rw [m.ancestry_root he hp, List.mem_singleton] at hx
    exact ⟨col, hx ▸ hc, rfl⟩
  | child e he p hpm hp ih =>
    intro x hx col hc
    rw [m.ancestry_child he hp] at hx
    rcases List.mem_append.1 hx with hx | hx
    · obtain ⟨copy, hcopy, horig⟩ := ih ((m.strategy_of_parent he hp).symm.trans hs) x hx col hc
      have hpassed : copy.inheritedCopy ∈ e.columns.filter (·.inherited) := by
        rw [m.inherited_eq he hp, if_pos hs]
        exact List.mem_map_of_mem hcopy
      exact ⟨copy.inheritedCopy, (List.mem_filter.1 hpassed).1, horig⟩
    · rw [List.mem_singleton] at hx
      exact ⟨col, hx ▸ hc, rfl⟩

/-! ## Where the cells are -/

/-- **A table stores the columns of its places**: in a single table they come from entities between the root and the
object's own. -/
theorem place_stored (he : e ∈ g.entities) {p : Graph.Place} (hp : p ∈ g.places e) {stored : List StoredColumn}
    (hst : g.tableColumns p.entity = .ok stored) : ∀ col ∈ p.columns, col ∈ stored.map (·.column) := by
  unfold Graph.places at hp
  split at hp
  · obtain ⟨q, -, rfl⟩ := List.mem_map.1 hp
    rw [(Graph.tableColumns_eq_ok hst).1]
    exact fun col hc => List.mem_append_left _ hc
  · rename_i hs
    cases List.mem_singleton.1 hp
    obtain ⟨rest, ha⟩ := m.ancestry_eq_cons he
    intro col hc
    rcases List.mem_append.1 hc with hc | hc
    · rw [(Graph.tableColumns_eq_ok hst).1]
      exact List.mem_append_left _ hc
    · obtain ⟨y, hy, hyc⟩ := List.mem_flatMap.1 hc
      have hyp : y ∈ g.ancestry e := List.mem_of_mem_tail hy
      dsimp only at hst
      rw [← m.root_of_ancestry he y hyp] at hst
      exact m.ownColumns_stored (m.mem_of_ancestry he hyp) ((m.strategy_of_ancestry he y hyp).trans hs) hst hyc
  · cases List.mem_singleton.1 hp
    rw [(Graph.tableColumns_eq_ok hst).1]
    exact fun col hc => List.mem_append_left _ hc

/-- The table of a place outside of a single table stores the columns of its entity and no others. -/
theorem exists_stored (hst : e.strategy = .singleTable → ∃ stored, g.tableColumns (g.root e) = .ok stored)
    (he : e ∈ g.entities) {p : Graph.Place} (hp : p ∈ g.places e) : ∃ stored, g.tableColumns p.entity = .ok stored := by
  by_cases hs : e.strategy = .singleTable
  · unfold Graph.places at hp
    rw [hs] at hp
    cases List.mem_singleton.1 hp
    exact hst hs
  · have hps := (m.strategy_of_ancestry he _ (m.mem_of_places he hp))
    refine ⟨p.entity.columns.map (⟨p.entity.typeName, ·, false⟩), ?_⟩
    unfold Graph.tableColumns Graph.columnsBelow
    rw [hps, if_neg hs]
    rfl

/-- **For every entity on the way to an object's own there is a place that holds all its columns**, or copies of them,
at its alias level. -/
theorem exists_place (he : e ∈ g.entities) (hx : x ∈ g.ancestry e) : ∃ p ∈ g.places e,
    p.entity = g.cellOwner e x ∧ p.level = g.aliasLevel x ∧
      ∀ col ∈ x.columns, ∃ copy ∈ p.columns, copy.original = col.original := by
  have hxs := m.strategy_of_ancestry he x hx
  unfold Graph.places Graph.cellOwner Graph.aliasLevel
  rw [hxs]
  cases hs : e.strategy with
  | joined =>
    obtain ⟨post, hpath⟩ := m.ancestry_eq_append he x hx
    have hmem := List.mk_mem_zipIdx_iff_getElem?.2 (Graph.getElem?_ancestry hpath)
    exact ⟨⟨x, g.depth x, x.columns⟩, List.mem_map.2 ⟨(x, g.depth x), hmem, rfl⟩, rfl, rfl,
      fun col hc => ⟨col, hc, rfl⟩⟩
  | singleTable =>
    refine ⟨_, List.mem_singleton.2 rfl, rfl, rfl, fun col hc => ?_⟩
    -- the original is an own column of an entity on the way, whose own columns the one row holds
    obtain ⟨y, hy, hyc⟩ := m.exists_own (m.mem_of_ancestry he hx) col hc
    have hye : y ∈ g.ancestry e := by
      obtain ⟨post, hpath⟩ := m.ancestry_eq_append he x hx
      rw [hpath]
      exact List.mem_append_left _ hy
    obtain ⟨rest, ha⟩ := m.ancestry_eq_cons he
    refine ⟨col.original, ?_, rfl⟩
    rw [ha] at hye ⊢
    rcases List.mem_cons.1 hye with rfl | hye
    · exact List.mem_append_left _ (List.mem_filter.1 hyc).1
    · exact List.mem_append_right _ (List.mem_flatMap.2 ⟨y, hye, hyc⟩)
  | tablePerClass =>
    exact ⟨_, List.mem_singleton.2 rfl, rfl, rfl, m.exists_copy he hs x hx⟩

/-- **An object has a row with the cells of all columns of an entity on the way to its own.** -/
theorem exists_row (hst : e.strategy = .singleTable → ∃ stored, g.tableColumns (g.root e) = .ok stored)
    (he : e ∈ g.entities) (h : g.rowsOf record e = .ok rows) (hx : x ∈ g.ancestry e) :
    ∃ row ∈ rows, (g.cellOwner e x).tableName = some row.table ∧ row.level = g.aliasLevel x ∧ ∀ col ∈ x.columns, ∃ v w,
      g.cellValue record e.strategy (g.ancestry e) (g.aliasLevel x) col = .ok v ∧ col.type.store col.name v = .ok w ∧
        row.get? col.name = some w := by
  obtain ⟨p, hp, hentity, hlevel, hcopies⟩ := m.exists_place he hx
  obtain ⟨row, hr, hrow⟩ := Outcome.exists_of_mem_left (m.rowsOf_places he h) p hp
  replace hrow := Graph.isRowOf_of_rowOf hrow
  refine ⟨row, hr, hentity ▸ hrow.table_eq, hrow.level_eq.trans hlevel, fun col hc => ?_⟩
  obtain ⟨copy, hcopy, horig⟩ := hcopies col hc
  -- no name comes twice among the columns of the place, as its table stores none twice
  obtain ⟨stored, hstored⟩ := m.exists_stored hst he hp
  have hsub := m.place_stored he hp hstored
  have hnd : ((stored.map (·.column)).map (·.name)).Nodup := by
    rw [List.map_map]
    exact m.stored_nodup (m.mem_of_ancestry he (m.mem_of_places he hp)) hstored
  have hinj := List.inj_on_of_nodup_map hnd
  obtain ⟨v, w, hv, hw, hget⟩ := hrow.written (fun a ha b hb => hinj (hsub a ha) (hsub b hb)) copy hcopy
  -- a copy has all of its original but the mark of a copy
  have hname : copy.original.name = col.original.name := congrArg Column.name horig
  have htype : copy.original.type = col.original.type := congrArg Column.type horig
  have hcell : g.cellValue record e.strategy (g.ancestry e) p.level copy.original =
      g.cellValue record e.strategy (g.ancestry e) p.level col.original := by rw [horig]
  rw [Column.name_original, Column.name_original] at hname
  rw [show copy.type = col.type from htype, hname] at hw
  rw [hname] at hget
  rw [← hlevel]
  exact ⟨v, w, hcell.symm.trans hv, hw, hget⟩

theorem hasCell (hst : e.strategy = .singleTable → ∃ stored, g.tableColumns (g.root e) = .ok stored)
    (he : e ∈ g.entities) (h : g.rowsOf record e = .ok rows) (hx : x ∈ g.ancestry e) (hc : col ∈ x.columns) :
    g.HasCell record e rows x col := by
  obtain ⟨row, hr, -, hlevel, hcells⟩ := m.exists_row hst he h hx
  exact ⟨row, hr, hlevel, hcells col hc⟩

/-- **The joined row holds the cell of every own column on the way to an object's entity**, at the alias level of the
entity that owns it. -/
theorem written (hst : e.strategy = .singleTable → ∃ stored, g.tableColumns (g.root e) = .ok stored)
    (he : e ∈ g.entities) (h : g.rowsOf record e = .ok rows) (hx : x ∈ g.ancestry e) (hc : col ∈ x.ownColumns) :
    ∃ v w, g.cellValue record e.strategy (g.ancestry e) (g.aliasLevel x) col = .ok v ∧
      col.type.store col.name v = .ok w ∧ (Row.ofTableRows rows).get col.name (g.aliasLevel x) = .ok w := by
  obtain ⟨hlevels, hrows⟩ := m.rowsOf_eq_ok he h
  have hdistinct : ∀ row ∈ rows, (Cells.names row.cells).Nodup := by
    intro row hr
    obtain ⟨y, -, owner, columns, hrow⟩ := hrows row hr
    exact hrow.distinct
  obtain ⟨row, hr, hlevel, v, w, hv, hw, hget⟩ := m.hasCell hst he h hx (List.mem_filter.1 hc).1
  refine ⟨v, w, hv, hw, ?_⟩
  rw [← hlevel]
  exact Row.get_ofTableRows hlevels hdistinct hr hget

end Maps
end Resolution
end Ormap
