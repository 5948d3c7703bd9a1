import Ormap.Proofs.TableNames
/-!
# Layout — the list of tables and the script that creates them

The layout and the script work the tables out separately, one from names, the other from whole definitions.  Wherever
there is a script, there is a layout, and each statement creates the table at its place in the layout: the list in
parentheses defines the columns of the layout one by one, and only constraints follow.
-/
namespace Ormap

/-- Whether a text defines a column. -/
def DefinesColumn (text name : String) : Prop :=
  ∃ shape : ColumnShape, text = Naming.quoteIdentifier name ++ " " ++ shape.render

/-- Whether a text is a constraint on a table, which defines no column. -/
def StatesConstraint (text : String) : Prop :=
  ∃ keyword ∈ ["PRIMARY KEY (", "UNIQUE (", "FOREIGN KEY ("], ∃ rest, text = keyword ++ rest

/-- Whether a statement creates the table of a layout entry. -/
def CreatesTable (statement : String) (entry : Graph.TableLayout) : Prop :=
  ∃ definitions constraints, List.Forall₂ DefinesColumn definitions entry.columns ∧
    (∀ text ∈ constraints, StatesConstraint text) ∧
    statement = "CREATE TABLE " ++ Naming.quoteIdentifier entry.table ++ " (" ++
      ", ".intercalate (definitions ++ constraints) ++ ")"

theorem ForeignKeyClause.render_eq (k : ForeignKeyClause) : ∃ rest, k.render = "FOREIGN KEY (" ++ rest := by
  unfold render
  simp only [String.append_assoc]
  exact ⟨_, rfl⟩

namespace CreateTable

/-- The clauses after the columns. -/
def constraints (t : CreateTable) : List String :=
  (if t.primaryKey.isEmpty then [] else ["PRIMARY KEY (" ++ Naming.quoteIdentifiers t.primaryKey ++ ")"])
    ++ t.uniques.map (fun names => "UNIQUE (" ++ Naming.quoteIdentifiers names ++ ")")
    ++ t.foreignKeys.map (·.render)

theorem clauses_eq (t : CreateTable) : t.clauses = t.columns.map (·.render) ++ t.constraints := by
  simp only [clauses, constraints, List.append_assoc]

theorem statesConstraint (t : CreateTable) : ∀ text ∈ t.constraints, StatesConstraint text := by
  intro text h
  unfold constraints at h
  rw [List.mem_append, List.mem_append] at h
  obtain (h | h) | h := h
  · split at h
    · cases h
    · rw [List.mem_singleton.1 h, String.append_assoc]
      exact ⟨"PRIMARY KEY (", by simp, _, rfl⟩
  · obtain ⟨names, -, rfl⟩ := List.mem_map.1 h
    rw [String.append_assoc]
    exact ⟨"UNIQUE (", by simp, _, rfl⟩
  · obtain ⟨k, -, rfl⟩ := List.mem_map.1 h
    exact ⟨"FOREIGN KEY (", by simp, k.render_eq⟩

/-- **A statement creates the table of its layout.** -/
theorem createsTable (t : CreateTable) : CreatesTable t.render (Graph.layoutOf t) := by
  refine ⟨t.columns.map (·.render), t.constraints, ?_, t.statesConstraint, ?_⟩
  · show List.Forall₂ DefinesColumn (t.columns.map (·.render)) (t.columns.map (·.name))
    rw [List.forall₂_map_left_iff, List.forall₂_map_right_iff, List.forall₂_same]
    exact fun d _ => ⟨d.shape, rfl⟩
  · rw [← t.clauses_eq]
    rfl

end CreateTable

namespace Resolution

variable {cfg : Config} {c : Catalog} {g : Graph} {ts : List CreateTable}

/-- **No statement of a script defines a column twice.** -/
theorem Maps.columnNames_nodup (m : Maps cfg c g) (h : g.schema = .ok ts) : ∀ t ∈ ts, t.columnNames.Nodup := by
  intro t ht
  obtain ⟨e, he, hc⟩ | ⟨r, -, hc⟩ := ((Graph.schema_eq_ok h).1 t).1 ht
  · obtain ⟨-, stored, -, -, hs, hnames, -⟩ := Graph.createTable_eq_ok hc
    rw [hnames]
    exact m.stored_nodup he hs
  · obtain ⟨j, hj, -, hnames⟩ := Graph.createJoinTableOf_eq_ok hc
    obtain ⟨source, target, -, -, hb⟩ := Graph.joinTable_eq_ok hj
    rw [hnames]
    exact (JoinTable.build_eq_ok hb).2.2.2

end Resolution

namespace Database

/-- **The layout describes the schema.**  A database with a script also has a layout.  The statements create the tables
of the layout in order, each with one definition for each column of the layout and constraints after these, and the
layout lists no column of a table twice. -/
theorem layout_describes_schema {db : Database} (h : db.Reachable) {ts : List CreateTable} (hs : db.schema = .ok ts) :
    ∃ layout, db.layout = .ok layout ∧ List.Forall₂ CreatesTable (ts.map (·.render)) layout ∧
      ∀ entry ∈ layout, entry.columns.Nodup := by
  obtain ⟨u, hmapped, hts⟩ := Outcome.bind_eq_ok.1 hs
  have m := (Mapped.mk h hmapped).maps
  refine ⟨ts.map Graph.layoutOf, Outcome.bind_eq_ok.2 ⟨u, hmapped, Graph.layout_of_schema hts⟩, ?_, ?_⟩
  · rw [List.forall₂_map_left_iff, List.forall₂_map_right_iff, List.forall₂_same]
    exact fun t _ => t.createsTable
  · intro entry hentry
    obtain ⟨t, ht, rfl⟩ := List.mem_map.1 hentry
    exact m.columnNames_nodup hts t ht

/-- The layout of the fleet: the table of persons lists the columns of drivers and bosses too. -/
theorem layout_describes_schema_fleet : ∃ ts layout, fleet.schema = .ok ts ∧ fleet.layout = .ok layout ∧
    List.Forall₂ CreatesTable (ts.map (·.render)) layout ∧ ∀ entry ∈ layout, entry.columns.Nodup := by
  have hok : fleet.schema.toOption.isSome = true := by decide +kernel
  have hs := Outcome.eq_ok_get hok
  obtain ⟨layout, hlayout, hcreates⟩ := layout_describes_schema fleet_mapped.reachable hs
  exact ⟨_, layout, hs, hlayout, hcreates⟩

end Database
end Ormap
