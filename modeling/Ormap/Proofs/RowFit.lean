import Mathlib.Data.List.Infix
import Ormap.Proofs.Schema
import Ormap.Proofs.Storing
/-!
# Row fit — the rows of an object fit the tables of the script

Storing walks down to the object's own entity, the script from a root over all entities below it.  They agree on the
columns of a table but for those that a single table stores for entities off the object's way: these the rows leave out,
and the script takes null for them.  That it does is read off its text: a column that is left out is written with its
type, uniqueness and default alone, and `NOT NULL` stands there only if the declared default holds it.
-/
namespace Ormap

/-! ## Definitions as text -/

/-- Whether a text holds the words by which a column refuses null. -/
def RefusesNull (text : String) : Prop := "NOT NULL".toList <:+: text.toList

namespace ColumnShape

variable {type : SqlType} {unique : Bool} {defaultValue : Option String}

/-- **What is written for a column that takes null.** -/
theorem render_typed_nullable : (typed type false unique defaultValue).render =
    type.keyword ++ (if unique then " UNIQUE" else "") ++ defaultValue.elim "" (" DEFAULT " ++ ·) := by
  cases defaultValue with
  | none => simp [render]
  | some literal => simp [render]

theorem not_refusesNull_before (type : SqlType) (unique : Bool) :
    ¬ RefusesNull (type.keyword ++ (if unique then " UNIQUE" else "") ++ " DEFAULT ") := by
  unfold RefusesNull
  cases type <;> cases unique <;> decide +kernel

/-- What is written before a default does not end in a beginning of the words. -/
theorem eq_nil_of_suffix (type : SqlType) (unique : Bool) : ∀ l ∈ "NOT NULL".toList.inits,
    l <:+ (type.keyword ++ (if unique then " UNIQUE" else "") ++ " DEFAULT ").toList → l = [] := by
  cases type <;> cases unique <;> decide +kernel

/-- **A column that takes null has the words in its text exactly when its declared default has them**, which is written
as it is declared. -/
theorem refusesNull_typed_nullable : RefusesNull (typed type false unique defaultValue).render ↔
    ∃ literal, defaultValue = some literal ∧ RefusesNull literal := by
  have hbefore := not_refusesNull_before type unique
  rw [render_typed_nullable]
  unfold RefusesNull at hbefore ⊢
  rw [String.toList_append] at hbefore
  cases defaultValue with
  | none =>
    have hnone : ¬ "NOT NULL".toList <:+: (type.keyword ++ if unique then " UNIQUE" else "").toList :=
      fun h => hbefore (h.trans (List.prefix_append _ _).isInfix)
    simpa using hnone
  | some literal =>
    have hsplit : (type.keyword ++ (if unique then " UNIQUE" else "") ++ (" DEFAULT " ++ literal)).toList =
        (type.keyword ++ (if unique then " UNIQUE" else "")).toList ++ " DEFAULT ".toList ++ literal.toList := by
      simp only [String.toList_append, List.append_assoc]
    rw [Option.elim_some, hsplit, List.infix_append_iff]
    constructor
    · rintro (h | h | ⟨l, r, hlr, hl, hr⟩)
      · exact absurd h hbefore
      · exact ⟨literal, rfl, h⟩
      · -- the words cannot begin before the default
        have hnil := eq_nil_of_suffix type unique l ((List.mem_inits _ _).2 ⟨r, hlr.symm⟩) (by
          rw [String.toList_append]
          exact hl)
        rw [hnil, List.nil_append] at hlr
        exact ⟨literal, rfl, hlr ▸ hr.isInfix⟩
    · rintro ⟨declared, hdeclared, h⟩
      cases hdeclared
      exact Or.inr (Or.inl h)

end ColumnShape

/-- The text of a creation begins with the definitions of the columns. -/
theorem CreateTable.exists_render (t : CreateTable) : ∃ more, t.render = "CREATE TABLE " ++
    Naming.quoteIdentifier t.table ++ " (" ++ ", ".intercalate (t.columns.map (·.render) ++ more) ++ ")" := by
  unfold render clauses
  rw [List.append_assoc, List.append_assoc]
  exact ⟨_, rfl⟩

/-! ## Rows and tables -/

/-- Whether a row fits the table of an entity, as a statement creates it over the columns that the table stores. -/
structure TableRow.Fits (row : TableRow) (g : Graph) (e : Entity) (stored : List StoredColumn) (t : CreateTable) :
    Prop where
  entity_eq : row.entity = e.typeName
  table_eq : e.tableName = some row.table
  created_eq : t.table = row.table
  definitions : t.columns = stored.map g.columnDefinition
  distinct : row.columns.Nodup
  subset : ∀ n ∈ row.columns, n ∈ stored.map (·.column.name)
  whole : e.strategy ≠ .singleTable → row.columns = stored.map (·.column.name)
  /-- A column that the row leaves out has a raw definition, or one without `NOT NULL`. -/
  left_out : ∀ s ∈ stored, s.column.name ∉ row.columns → s.column.definition.isSome = true ∨
    (g.columnDefinition s).shape = .typed (g.sqlType s.column) false s.column.unique s.column.defaultValue
  /-- The text of the statement begins with the definitions of the stored columns. -/
  written : ∃ more, t.render = "CREATE TABLE " ++ Naming.quoteIdentifier row.table ++ " (" ++
    ", ".intercalate (stored.map (fun s => (g.columnDefinition s).render) ++ more) ++ ")"
  /-- A column that the row leaves out is written with its type, uniqueness and default, and nothing else, unless it has
  a raw definition. -/
  left_out_written : ∀ s ∈ stored, s.column.name ∉ row.columns → s.column.definition = none →
    (g.columnDefinition s).render = Naming.quoteIdentifier s.column.name ++ " " ++ ((g.sqlType s.column).keyword ++
      (if s.column.unique then " UNIQUE" else "") ++ s.column.defaultValue.elim "" (" DEFAULT " ++ ·))
  /-- So `NOT NULL` stands in its definition only as part of a declared default. -/
  left_out_nullable : ∀ s ∈ stored, s.column.name ∉ row.columns → s.column.definition = none →
    (RefusesNull (g.columnDefinition s).shape.render ↔ ∃ literal, s.column.defaultValue = some literal ∧
      RefusesNull literal)

namespace Resolution
namespace Maps

variable {cfg : Config} {c : Catalog} {g : Graph} {e : Entity} {record : Record} {rows : List TableRow}
  {ts : List CreateTable} (m : Maps cfg c g)
include m

/-- **The row at a place fits the table of the place's entity.** -/
theorem fits_of_place (he : e ∈ g.entities) {p : Graph.Place} (hp : p ∈ g.places e) {row : TableRow}
    (h : g.rowOf record e.strategy (g.ancestry e) p.level p.entity p.columns = .ok row) {stored : List StoredColumn}
    (hst : g.tableColumns p.entity = .ok stored) {t : CreateTable} (ht : g.createTable p.entity = .ok (some t)) :
    row.Fits g p.entity stored t := by
  have hrow := Graph.isRowOf_of_rowOf h
  obtain ⟨hmem, heq⟩ := Graph.columns_of_rowOf h
  obtain ⟨more, hcolumns, hmore⟩ := Graph.place_columns hp
  have hx := m.mem_of_places he hp
  have hxm := m.mem_of_ancestry he hx
  have hxs := m.strategy_of_ancestry he _ hx
  have hcreated : t.table = row.table := Option.some.inj ((Graph.createTable_eq_ok ht).1.symm.trans hrow.table_eq)
  have hdefinitions := Graph.columns_of_createTable ht hst
  have hleft : ∀ s ∈ stored, s.column.name ∉ row.columns → s.column.definition = none →
      (g.columnDefinition s).shape = .typed (g.sqlType s.column) false s.column.unique s.column.defaultValue := by
    intro s hs hn hraw
    -- the row has all columns of the table's own entity, so that the column is a merged one
    have hoptional : s.isOptional = true := by
      refine (Graph.mem_or_isOptional hst hs).resolve_left fun hc => hn ?_
      rw [hmem, hcolumns]
      exact List.mem_map_of_mem (List.mem_append_left _ hc)
    unfold Graph.columnDefinition StoredColumn.requiresValue
    rw [hoptional, hraw]
    simp
  refine ⟨hrow.entity_eq, hrow.table_eq, hcreated, hdefinitions, hrow.distinct, fun n hn => ?_, fun hs => ?_,
    fun s hs hn => ?_, ?_, fun s hs hn hraw => ?_, fun s hs hn hraw => ?_⟩
  · obtain ⟨col, hc, rfl⟩ := List.mem_map.1 ((hmem n).1 hn)
    exact Graph.name_mem_of_column_mem (m.place_stored he hp hst col hc)
  · rw [hxs] at hs
    have hown : p.columns = p.entity.columns := by rw [hcolumns, hmore hs, List.append_nil]
    have hstored : stored.map (·.column) = p.entity.columns := by
      rw [(Graph.tableColumns_eq_ok hst).1, hxs, if_neg hs, List.append_nil]
    have hnd : (p.columns.map (·.name)).Nodup := hown ▸ m.columns_nodup hxm
    rw [heq hnd, hown, ← hstored, List.map_map]
    rfl
  · cases hraw : s.column.definition with
    | some definition => exact Or.inl rfl
    | none => exact Or.inr (hleft s hs hn hraw)
  · obtain ⟨more, hmore⟩ := t.exists_render
    refine ⟨more, ?_⟩
    rw [hmore, hcreated, hdefinitions, List.map_map]
    rfl
  · unfold ColumnDefinition.render
    rw [hleft s hs hn hraw, ColumnShape.render_typed_nullable]
    rfl
  · rw [hleft s hs hn hraw, ColumnShape.refusesNull_typed_nullable]

theorem rowsOf_fit (hts : g.schema = .ok ts) (he : e ∈ g.entities) (h : g.rowsOf record e = .ok rows) :
    ∀ row ∈ rows, ∃ x ∈ g.entities, ∃ stored, g.tableColumns x = .ok stored ∧ ∃ t ∈ ts,
      g.createTable x = .ok (some t) ∧ row.Fits g x stored t := by
  intro row hr
  obtain ⟨p, hp, hrow⟩ := Outcome.exists_of_mem_right (m.rowsOf_places he h) row hr
  have hxm := m.mem_of_ancestry he (m.mem_of_places he hp)
  have htable : p.entity.tableName.isSome = true := by rw [(Graph.isRowOf_of_rowOf hrow).table_eq]; rfl
  obtain ⟨t, ht, hc⟩ := Graph.exists_createTable hts hxm htable
  obtain ⟨-, stored, -, -, hst, -⟩ := Graph.createTable_eq_ok hc
  exact ⟨p.entity, hxm, stored, hst, t, ht, hc, m.fits_of_place he hp hrow hst hc⟩

end Maps
end Resolution

namespace Database

/-- **Rows fit the schema.**  Each row of an object is one of the table of the entity that it names: its columns are
distinct and stored by that table, all of them in their order outside of a single table.  A column that it leaves out is
written by its type, uniqueness and declared default alone, unless it has a raw definition; so `NOT NULL` stands there
only where the default, which is written as it is declared, holds it. -/
theorem rows_fit_schema {db : Database} (h : db.Mapped) {ts : List CreateTable} (hs : db.schema = .ok ts)
    {record : Record} {rows : List TableRow} (hr : db.graph.rows record = .ok rows) :
    ∀ row ∈ rows, ∃ e ∈ db.graph.entities, ∃ stored, db.graph.tableColumns e = .ok stored ∧ ∃ t ∈ ts,
      db.graph.createTable e = .ok (some t) ∧ row.Fits db.graph e stored t := by
  have m := h.maps
  obtain ⟨u, -, hts⟩ := Outcome.bind_eq_ok.1 hs
  obtain ⟨e, hf, -, hrows⟩ := m.rows_eq_ok hr
  exact m.rowsOf_fit hts (m.find?_eq_some_iff.1 hf).1 hrows

def fleetDriver : Record := { typeName := "Driver", values := [("licence", .text "L")] }

/-- The creation of the table of all persons. -/
def fleetPersons : String :=
  "CREATE TABLE \"person\" (\"id\" TEXT NOT NULL, \"dtype\" TEXT NOT NULL, \"licence\" TEXT, \"since\" INTEGER, "
    ++ "\"office_id\" INTEGER UNIQUE, PRIMARY KEY (\"id\"), FOREIGN KEY (\"office_id\") REFERENCES \"garage\" "
    ++ "(\"id\") ON UPDATE NO ACTION ON DELETE NO ACTION DEFERRABLE INITIALLY DEFERRED)"

/-- The one row of the driver leaves out the columns that the table of all persons stores for bosses. -/
theorem rows_fit_schema_fleet : ∃ ts rows, fleet.schema = .ok ts ∧ fleet.graph.rows fleetDriver = .ok rows ∧
    rows.map (fun row => (row.table, row.columns)) = [("person", ["id", "dtype", "licence"])] ∧
    (ts.filter (·.table == "person")).map (·.render) = [fleetPersons] ∧
    ∀ row ∈ rows, ∃ e ∈ fleet.graph.entities, ∃ stored, fleet.graph.tableColumns e = .ok stored ∧ ∃ t ∈ ts,
      fleet.graph.createTable e = .ok (some t) ∧ row.Fits fleet.graph e stored t := by
  have hschema : fleet.schema.toOption.map (fun ts => (ts.filter (·.table == "person")).map (·.render)) =
      some [fleetPersons] := by decide +kernel
  have hrows : (fleet.graph.rows fleetDriver).toOption.map (·.map fun row => (row.table, row.columns)) =
      some [("person", ["id", "dtype", "licence"])] := by decide +kernel
  cases hs : fleet.schema with
  | error e => rw [hs] at hschema; cases hschema
  | ok ts =>
    cases hr : fleet.graph.rows fleetDriver with
    | error e => rw [hr] at hrows; cases hrows
    | ok rows =>
      rw [hs] at hschema
      rw [hr] at hrows
      exact ⟨ts, rows, rfl, rfl, Option.some.inj hrows, Option.some.inj hschema, rows_fit_schema fleet_mapped hs hr⟩

/-! ## A crew

The rank of an officer has a default that is more than a value. -/

open FieldDescriptor in
def crewEntities : List EntityDescriptor := [
  { typeName := "Sailor", table := some {}, inheritance := some .singleTable,
    discriminatorColumn := some { name := "kind" }, discriminatorValue := some "sailor",
    fields := [(plain "id" .long).asId] },
  { typeName := "Officer", ancestors := ["Sailor"], discriminatorValue := some "officer",
    fields := [(plain "rank" .integer).withDefaultValue "0 NOT NULL"] }]

def crewEntries : Except ConfigurationError Database := ofEntities { name := "crew" } crewEntities

theorem crewEntries_isSome : crewEntries.toOption.isSome = true := by decide +kernel

def crew : Database := (crewEntries.toOption.get crewEntries_isSome).map

theorem crew_mapped : crew.Mapped :=
  ⟨(reachable_ofEntities (Outcome.eq_ok_get crewEntries_isSome)).map, by decide +kernel⟩

def crewEntity (i : Fin 2) : Entity := crew.graph.entities.get (i.cast (by decide +kernel))

def crewSailor : Record := { typeName := "Sailor", values := [("id", .integer 1)] }

def crewRow : TableRow where
  entity := "Sailor"
  table := "sailor"
  level := 0
  cells := [("id", .integer 1), ("kind", .text "sailor")]

/-- The columns of the table of all sailors. -/
def crewColumns : List StoredColumn := (crew.graph.tableColumns (crewEntity 0)).toOption.get (by decide +kernel)

def crewTables : List CreateTable := crew.schema.toOption.get (by decide +kernel)

/-- The creation of the table of all sailors. -/
def crewSailors : String :=
  "CREATE TABLE \"sailor\" (\"id\" INTEGER NOT NULL, \"kind\" TEXT NOT NULL, "
    ++ "\"rank\" INTEGER DEFAULT 0 NOT NULL, PRIMARY KEY (\"id\"))"

/-- **A column that the row of a sailor leaves out refuses null**: `NOT NULL` is part of its default. -/
theorem left_out_rank_refuses_null : crew.Mapped ∧ crew.schema = .ok crewTables ∧
    crewTables.map (·.render) = [crewSailors] ∧ crew.graph.rows crewSailor = .ok [crewRow] ∧
    crewRow.entity = (crewEntity 0).typeName ∧ crew.graph.tableColumns (crewEntity 0) = .ok crewColumns ∧
    ∃ s ∈ crewColumns, s.column.name = "rank" ∧ "rank" ∉ crewRow.columns ∧ s.column.definition = none ∧
      (crew.graph.columnDefinition s).render = "\"rank\" INTEGER DEFAULT 0 NOT NULL" ∧
      RefusesNull (crew.graph.columnDefinition s).shape.render := by
  refine ⟨crew_mapped, Outcome.eq_ok_get _, by decide +kernel, by decide +kernel, by decide +kernel,
    Outcome.eq_ok_get _, crewColumns.get ⟨2, by decide +kernel⟩, List.get_mem _ _, by decide +kernel,
    by decide +kernel, by decide +kernel, by decide +kernel, ?_⟩
  unfold RefusesNull
  decide +kernel

end Database
end Ormap
