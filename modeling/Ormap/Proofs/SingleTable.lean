import Mathlib.Data.List.Perm.Subperm
import Ormap.Proofs.Navigation
import Ormap.Proofs.References
import Ormap.Proofs.RowFit
/-!
# Single tables — when the one row of an object keeps all its values

In a single table an object has one row, with the columns of the root and the own columns of every further entity on the
way to its own.  The names of the columns of one entity are distinct; those of different entities are compared where the
table is created and nowhere else.  Without that, a later column may take the cell of an earlier one of its name: the
row keeps all values exactly when no two entities on the way have own columns of one name.
-/
namespace Ormap
namespace Graph

/-- The columns of the one row of an object of `e`. -/
def pathColumns (g : Graph) (e : Entity) : List Column := singleTableColumns (g.root e) (g.ancestry e).tail

/-- Whether no two entities on the way to `e` have own columns of one name. -/
def OwnNamesApart (g : Graph) (e : Entity) : Prop :=
  (g.ancestry e).Pairwise fun x y => ∀ a ∈ x.ownColumns, ∀ b ∈ y.ownColumns, a.name ≠ b.name

instance (g : Graph) (e : Entity) : Decidable (g.OwnNamesApart e) :=
  inferInstanceAs (Decidable ((g.ancestry e).Pairwise _))

/-- Whether the row of an object of `e` has under the name of a column what is stored for it. -/
def Keeps (g : Graph) (record : Record) (e : Entity) (row : TableRow) (col : Column) : Prop :=
  ∃ v w, g.cellValue record e.strategy (g.ancestry e) 0 col = .ok v ∧ col.type.store col.name v = .ok w ∧
    row.get? col.name = some w

theorem keeps_last {g : Graph} {record : Record} {e : Entity} {row : TableRow}
    (hrow : g.rowOf record e.strategy (g.ancestry e) 0 (g.root e) (g.pathColumns e) = .ok row)
    {before after : List Column} {col : Column} (hsplit : g.pathColumns e = before ++ col :: after)
    (hlast : col.name ∉ after.map (·.name)) : g.Keeps record e row col := by
  unfold rowOf at hrow
  obtain ⟨table, -, hfill⟩ := Outcome.bind_eq_ok.1 hrow
  rw [hsplit] at hfill
  exact fillRow_last hfill hlast

/-- A list with the members of one without repetition has its length exactly when it repeats nothing either. -/
theorem length_eq_iff_nodup {l names : List String} (hl : l.Nodup) (hmem : ∀ n, n ∈ l ↔ n ∈ names) :
    l.length = names.length ↔ names.Nodup := by
  constructor
  · intro hlength
    have hsub : l.Subperm names := List.subperm_of_subset hl fun n hn => (hmem n).1 hn
    exact (hsub.perm_of_length_le hlength.ge).nodup_iff.1 hl
  · intro hn
    exact ((List.perm_ext_iff_of_nodup hl hn).2 hmem).length_eq

end Graph

namespace Resolution
namespace Maps

variable {cfg : Config} {c : Catalog} {g : Graph} {e p : Entity} {record : Record} {rows : List TableRow}
  (m : Maps cfg c g)
include m

theorem pathColumns_eq (he : e ∈ g.entities) : g.pathColumns e = (g.ancestry e).flatMap (·.ownColumns) := by
  obtain ⟨rest, ha⟩ := m.ancestry_eq_cons he
  obtain ⟨hr, hrp⟩ := m.root_mem he
  unfold Graph.pathColumns Graph.singleTableColumns
  rw [ha, List.tail_cons, List.flatMap_cons, m.ownColumns_root hr hrp]

/-- **The names of the row are distinct exactly when those of the entities on the way are apart.** -/
theorem pathNames_nodup_iff (he : e ∈ g.entities) :
    ((g.pathColumns e).map (·.name)).Nodup ↔ g.OwnNamesApart e := by
  rw [m.pathColumns_eq he, List.map_flatMap, List.nodup_flatMap]
  have hown : ∀ x ∈ g.ancestry e, (x.ownColumns.map (·.name)).Nodup :=
    fun x hx => m.ownNames_nodup (m.mem_of_ancestry he hx)
  have hpair : ∀ x y : Entity, List.Disjoint (x.ownColumns.map (·.name)) (y.ownColumns.map (·.name)) ↔
      ∀ a ∈ x.ownColumns, ∀ b ∈ y.ownColumns, a.name ≠ b.name := by
    intro x y
    constructor
    · intro h a ha b hb hab
      exact h (List.mem_map_of_mem ha) (hab ▸ List.mem_map_of_mem hb)
    · intro h n hx hy
      obtain ⟨a, ha, rfl⟩ := List.mem_map.1 hx
      obtain ⟨b, hb, hba⟩ := List.mem_map.1 hy
      exact h a ha b hb hba.symm
  constructor
  · rintro ⟨-, h⟩
    exact h.imp fun {x y} hxy => (hpair x y).1 hxy
  · intro h
    exact ⟨hown, h.imp fun {x y} hxy => (hpair x y).2 hxy⟩

/-- **A table that can be created keeps the entities on the way apart.** -/
theorem ownNamesApart_of_stored (he : e ∈ g.entities) (hs : e.strategy = .singleTable) {stored : List StoredColumn}
    (hst : g.tableColumns (g.root e) = .ok stored) : g.OwnNamesApart e := by
  have hdistinct : ((stored.map (·.column)).map (·.name)).Nodup := by
    rw [List.map_map]
    exact m.stored_nodup (m.root_mem he).1 hst
  have hstored : ∀ x ∈ g.ancestry e, ∀ col ∈ x.ownColumns, col ∈ stored.map (·.column) := by
    intro x hx col hc
    refine m.ownColumns_stored (m.mem_of_ancestry he hx) ((m.strategy_of_ancestry he x hx).trans hs) ?_ hc
    rw [m.root_of_ancestry he x hx]
    exact hst
  refine (m.nodup_ancestry he).pairwise_of_forall_ne fun x hx y hy hne a ha b hb hab => hne ?_
  -- stored columns of one name are one column, which one entity declares
  have hcol := List.inj_on_of_nodup_map hdistinct (hstored x hx a ha) (hstored y hy b hb) hab
  have hxm := m.mem_of_ancestry he hx
  have hym := m.mem_of_ancestry he hy
  refine m.eq_of_typeName hxm hym ?_
  rw [← m.declaredBy_of_own hxm ha, ← m.declaredBy_of_own hym hb, hcol]

theorem ownNamesApart_of_schema (he : e ∈ g.entities) (hs : e.strategy = .singleTable) {ts : List CreateTable}
    (hts : g.schema = .ok ts) : g.OwnNamesApart e := by
  obtain ⟨hroot, hrootp⟩ := m.root_mem he
  have htable : (g.root e).tableName.isSome = true := by
    rw [m.tableName_isSome hroot, m.strategy_root he, hs]
    exact hrootp
  obtain ⟨t, -, hc⟩ := Graph.exists_createTable hts hroot htable
  obtain ⟨-, stored, -, -, hst, -⟩ := Graph.createTable_eq_ok hc
  exact m.ownNamesApart_of_stored he hs hst

/-! ## The row -/

theorem exists_onlyRow (he : e ∈ g.entities) (hs : e.strategy = .singleTable) (h : g.rowsOf record e = .ok rows) :
    ∃ row, rows = [row] ∧
      g.rowOf record e.strategy (g.ancestry e) 0 (g.root e) (g.pathColumns e) = .ok row := by
  have hplaces := m.rowsOf_places he h
  unfold Graph.places at hplaces
  rw [hs] at hplaces ⊢
  obtain ⟨row, rest, hrow, hrest, rfl⟩ := List.forall₂_cons_left_iff.1 hplaces
  cases hrest
  exact ⟨row, rfl, hrow⟩

variable {row : TableRow} (hrow : g.rowOf record e.strategy (g.ancestry e) 0 (g.root e) (g.pathColumns e) = .ok row)
include hrow

/-- **The row has a cell for each column exactly when the entities on the way are apart.** -/
theorem length_cells_iff (he : e ∈ g.entities) :
    row.cells.length = (g.pathColumns e).length ↔ g.OwnNamesApart e := by
  have hlength : row.columns.length = row.cells.length := List.length_map _
  have hnames : ((g.pathColumns e).map (·.name)).length = (g.pathColumns e).length := List.length_map _
  rw [← m.pathNames_nodup_iff he, ← hlength, ← hnames]
  exact Graph.length_eq_iff_nodup (Graph.isRowOf_of_rowOf hrow).distinct (Graph.columns_of_rowOf hrow).1

theorem keeps_of_apart (he : e ∈ g.entities) (hapart : g.OwnNamesApart e) :
    row.columns = (g.pathColumns e).map (·.name) ∧
      ∀ x ∈ g.ancestry e, ∀ col ∈ x.ownColumns, g.Keeps record e row col := by
  have hnd := (m.pathNames_nodup_iff he).2 hapart
  refine ⟨(Graph.columns_of_rowOf hrow).2 hnd, fun x hx col hc => ?_⟩
  have hmem : col ∈ g.pathColumns e := by
    rw [m.pathColumns_eq he]
    exact List.mem_flatMap.2 ⟨x, hx, hc⟩
  exact (Graph.isRowOf_of_rowOf hrow).written (fun a ha b hb => List.inj_on_of_nodup_map hnd ha hb) col hmem

end Maps
end Resolution

namespace Database

/-- **When the one row of an object keeps all its values.**  Among the columns that go into the one row of an object of
a single-table hierarchy no name comes twice exactly when no two entities on the way to the object's own have own
columns of one name.  That is so wherever the schema can be created, and it is not asked where objects are stored.  Of
the columns of one name the last has the cell.  The row has as many cells as there are columns exactly when the names
are apart, and then it has all names in order and keeps the value of each column. -/
theorem single_table_row_whole_iff {db : Database} (h : db.Mapped) {e : Entity} (he : e ∈ db.graph.entities)
    (hs : e.strategy = .singleTable) :
    (((db.graph.pathColumns e).map (·.name)).Nodup ↔ db.graph.OwnNamesApart e) ∧
    (∀ ts, db.schema = .ok ts → db.graph.OwnNamesApart e) ∧
    ∀ record rows, db.graph.find? record.typeName = some e → db.graph.rows record = .ok rows → ∃ row, rows = [row] ∧
      (∀ before col after, db.graph.pathColumns e = before ++ col :: after → col.name ∉ after.map (·.name) →
        db.graph.Keeps record e row col) ∧
      (row.cells.length = (db.graph.pathColumns e).length ↔ db.graph.OwnNamesApart e) ∧
      (db.graph.OwnNamesApart e → row.columns = (db.graph.pathColumns e).map (·.name) ∧
        ∀ x ∈ db.graph.ancestry e, ∀ col ∈ x.ownColumns, db.graph.Keeps record e row col) := by
  have m := h.maps
  refine ⟨m.pathNames_nodup_iff he, fun ts hts => ?_, fun record rows hfind hr => ?_⟩
  · obtain ⟨u, -, hts⟩ := Outcome.bind_eq_ok.1 hts
    exact m.ownNamesApart_of_schema he hs hts
  · obtain ⟨e', he', -, hrows⟩ := m.rows_eq_ok hr
    cases hfind.symm.trans he'
    obtain ⟨row, hrow, hof⟩ := m.exists_onlyRow he hs hrows
    exact ⟨row, hrow, fun _ _ _ => Graph.keeps_last hof, m.length_cells_iff hof he, m.keeps_of_apart hof he⟩

/-- The row of the boss keeps the columns of persons, drivers and bosses. -/
theorem single_table_row_whole_iff_fleet : ∃ row, fleet.graph.rows fleetBoss = .ok [row] ∧
    row.columns = ["id", "dtype", "licence", "since", "office_id"] ∧
    ∀ x ∈ fleet.graph.ancestry (fleetEntity 5), ∀ col ∈ x.ownColumns,
      fleet.graph.Keeps fleetBoss (fleetEntity 5) row col := by
  have hok : (fleet.graph.rows fleetBoss).toOption.isSome = true := by decide +kernel
  have hrows := Outcome.eq_ok_get hok
  obtain ⟨-, -, hstored⟩ := single_table_row_whole_iff fleet_mapped (e := fleetEntity 5) (by decide +kernel)
    (by decide +kernel)
  obtain ⟨row, hrow, -, -, hwhole⟩ := hstored fleetBoss _ (by decide +kernel) hrows
  obtain ⟨hcolumns, hkeeps⟩ := hwhole (by decide +kernel)
  have hnames : (fleet.graph.pathColumns (fleetEntity 5)).map (·.name) =
      ["id", "dtype", "licence", "since", "office_id"] := by decide +kernel
  exact ⟨row, hrows.trans (congrArg Except.ok hrow), hcolumns.trans hnames, hkeeps⟩

/-! ## A collection

The album of a song is stored in a column of the name that the title of all media has. -/

open FieldDescriptor in
def mediaEntities : List EntityDescriptor := [
  { typeName := "Media", table := some {}, inheritance := some .singleTable,
    discriminatorColumn := some { name := "kind" }, discriminatorValue := some "media",
    fields := [(plain "id" .long).asId, plain "title" .string] },
  { typeName := "Song", ancestors := ["Media"], discriminatorValue := some "song",
    fields := [(plain "album" .string).withColumnName "title"] }]

def mediaEntries : Except ConfigurationError Database := ofEntities { name := "media" } mediaEntities

theorem mediaEntries_isSome : mediaEntries.toOption.isSome = true := by decide +kernel

def media : Database := (mediaEntries.toOption.get mediaEntries_isSome).map

theorem media_mapped : media.Mapped :=
  ⟨(reachable_ofEntities (Outcome.eq_ok_get mediaEntries_isSome)).map, by decide +kernel⟩

def mediaEntity (i : Fin 2) : Entity := media.graph.entities.get (i.cast (by decide +kernel))

def mediaSong : Record where
  typeName := "Song"
  values := [("id", .integer 1), ("title", .text "Blue"), ("album", .text "Skies")]

def mediaRow : TableRow where
  entity := "Media"
  table := "media"
  level := 0
  cells := [("id", .integer 1), ("title", .text "Skies"), ("kind", .text "song")]

/-- **The title of the song is lost**: the row of the object is accepted with the album in its place, where the creation
of the table is not. -/
theorem title_overwritten : media.Mapped ∧ media.graph.find? "Song" = some (mediaEntity 1) ∧
    (mediaEntity 1).strategy = .singleTable ∧
    (media.graph.pathColumns (mediaEntity 1)).map (·.name) = ["id", "title", "kind", "title"] ∧
    media.graph.rows mediaSong = .ok [mediaRow] ∧
    (∃ x ∈ media.graph.ancestry (mediaEntity 1), ∃ col ∈ x.ownColumns, col.field = some "title" ∧
      media.graph.cellValue mediaSong .singleTable (media.graph.ancestry (mediaEntity 1)) 0 col = .ok (.text "Blue") ∧
      mediaRow.get? col.name = some (.text "Skies")) ∧
    media.schema.toOption = none := by
  refine ⟨media_mapped, by decide +kernel, by decide +kernel, by decide +kernel, by decide +kernel, ?_,
    by decide +kernel⟩
  exact ⟨mediaEntity 0, by decide +kernel, (mediaEntity 0).ownColumns.get ⟨1, by decide +kernel⟩, by decide +kernel,
    by decide +kernel, by decide +kernel, by decide +kernel⟩

end Database
end Ormap
