import Mathlib.Data.List.Induction
import Ormap.Proofs.Cells
/-!
# Labels — a joined row loses nothing

A table row is filled cell by cell; a column that is set again takes the new value.  The row that joins table rows of
different levels has as many cells as they have together.  It gives for a column and a level the last value that was set
there, and fails for every other pair, whatever the names are (`Row.joined_row_loses_nothing`).
-/
namespace Ormap

/-- A table row in the making: where it belongs, and what is set in it, in order. -/
structure Filling where
  entity : String
  table : String
  level : Nat
  sets : List (String × Value) := []

namespace Filling

variable {f : Filling} {column : String}

/-- The table row, empty at first, after all that is set. -/
def row (f : Filling) : TableRow :=
  f.sets.foldl (fun t p => t.set p.1 p.2) { entity := f.entity, table := f.table, level := f.level }

/-- The last value that is set for a column. -/
def last? (f : Filling) (column : String) : Option Value := ((f.sets.filter (·.1 == column)).getLast?).map (·.2)

/-- The filling goes on with one more cell. -/
def push (f : Filling) (p : String × Value) : Filling := { f with sets := f.sets ++ [p] }

theorem row_push (f : Filling) (p : String × Value) : (f.push p).row = f.row.set p.1 p.2 := by
  unfold row push
  rw [List.foldl_append]
  rfl

theorem last?_push (f : Filling) (p : String × Value) (column : String) :
    (f.push p).last? column = if column = p.1 then some p.2 else f.last? column := by
  unfold last? push
  rw [List.filter_append]
  by_cases hp : column = p.1
  · rw [if_pos hp, List.filter_cons_of_pos (by simp [hp]), List.filter_nil, List.getLast?_concat]
    rfl
  · rw [if_neg hp, List.filter_cons_of_neg (by simp [Ne.symm hp]), List.filter_nil, List.append_nil]

/-- **What holds of an empty row and is kept by every cell that is set holds of every row.** -/
theorem induct {motive : Filling → Prop} (empty : ∀ entity table level, motive { entity, table, level })
    (push : ∀ f p, motive f → motive (f.push p)) (f : Filling) : motive f := by
  obtain ⟨entity, table, level, sets⟩ := f
  induction sets using List.reverseRecOn with
  | nil => exact empty entity table level
  | append_singleton sets p ih => exact push _ p ih

theorem level_row (f : Filling) : f.row.level = f.level := by
  induction f using Filling.induct with
  | empty => rfl
  | push f p ih =>
    rw [row_push]
    exact ih

theorem nodup_row (f : Filling) : (Cells.names f.row.cells).Nodup := by
  induction f using Filling.induct with
  | empty => exact List.nodup_nil
  | push f p ih =>
    rw [row_push]
    exact Cells.nodup_names_set _ _ ih

/-- **A row holds the last value that was set for a column.** -/
theorem get?_row (f : Filling) (column : String) : f.row.get? column = f.last? column := by
  induction f using Filling.induct with
  | empty => rfl
  | push f p ih =>
    rw [row_push, last?_push, ← ih]
    exact Cells.get?_set p.1 p.2 column f.row.cells

end Filling

namespace Row

/-- **A joined row loses nothing.**  The row that joins table rows of different levels, however they were filled, has as
many cells as they have together; it gives for a column and a level the last value that was set for the column in the
row of that level; and where there is none it fails, naming the label. -/
theorem joined_row_loses_nothing {fs : List Filling} (hl : (fs.map (·.level)).Nodup) :
    (ofTableRows (fs.map (·.row))).size = (fs.flatMap (·.row.cells)).length ∧
    (∀ column level v, (ofTableRows (fs.map (·.row))).get column level = .ok v ↔
      ∃ f ∈ fs, f.level = level ∧ f.last? column = some v) ∧
    ∀ column level, (∀ f ∈ fs, f.level = level → f.last? column = none) →
      (ofTableRows (fs.map (·.row))).get column level = .error (.noLabel (Naming.columnLabel column level)) := by
  have hlevels : ((fs.map (·.row)).map (·.level)).Nodup := by
    rw [List.map_map]
    rwa [show (fun t : TableRow => t.level) ∘ (fun f : Filling => f.row) = (·.level) from funext Filling.level_row]
  have hnames : ∀ t ∈ fs.map (·.row), (Cells.names t.cells).Nodup := by
    intro t ht
    obtain ⟨f, -, rfl⟩ := List.mem_map.1 ht
    exact f.nodup_row
  have hget : ∀ column level v, (ofTableRows (fs.map (·.row))).get column level = .ok v ↔
      ∃ f ∈ fs, f.level = level ∧ f.last? column = some v := by
    intro column level v
    rw [get_ofTableRows_iff hlevels hnames]
    simp only [List.mem_map, exists_exists_and_eq_and, Filling.level_row, Filling.get?_row]
  refine ⟨?_, hget, fun column level hnone => ?_⟩
  · unfold size
    rw [cells_ofTableRows hlevels hnames, List.length_flatMap, List.length_flatMap, List.map_map]
    refine congrArg List.sum (List.map_congr_left fun f _ => ?_)
    exact List.length_map _
  · cases hcell : Cells.get? (Naming.columnLabel column level) (ofTableRows (fs.map (·.row))).cells with
    | none =>
      unfold get
      rw [hcell]
    | some v =>
      obtain ⟨f, hf, hlevel, hv⟩ := (hget column level v).1 (get_eq_ok.2 hcell)
      cases (hnone f hf hlevel).symm.trans hv

/-- Two rows of four columns, whose names end like labels. -/
def crossedRows : List Filling := [
  { entity := "A", table := "a", level := 0,
    sets := [("id", .integer 1), ("id_1", .integer 2), ("id", .integer 3)] },
  { entity := "B", table := "b", level := 1, sets := [("id", .text "x"), ("id_0", .null)] }]

theorem joined_row_loses_nothing_crossed : (crossedRows.map (·.level)).Nodup ∧
    (ofTableRows (crossedRows.map (·.row))).size = 4 ∧
    (ofTableRows (crossedRows.map (·.row))).get "id" 0 = .ok (.integer 3) ∧
    (ofTableRows (crossedRows.map (·.row))).get "id_1" 0 = .ok (.integer 2) ∧
    (ofTableRows (crossedRows.map (·.row))).get "id" 10 = .error (.noLabel "id_10") := by
  have hl : (crossedRows.map (·.level)).Nodup := by decide
  obtain ⟨hsize, hget, hnone⟩ := joined_row_loses_nothing hl
  refine ⟨hl, hsize.trans (by decide), (hget _ _ _).2 ⟨_, List.mem_cons_self, rfl, by decide⟩,
    (hget _ _ _).2 ⟨_, List.mem_cons_self, rfl, by decide⟩, ?_⟩
  exact hnone "id" 10 (by decide)

end Row
end Ormap
