import Ormap.Dump
import Ormap.Proofs.Literals
import Ormap.Session
/-!
# Insertions — the text of a statement tells what it inserts

Sessions insert the rows of objects, dumps the rows that they have read, and both write one form of statement.  Whatever
characters the names and the texts hold, the text of the statement tells the table, the columns and the values
(`Inserts.content_eq`): nothing that stands in one place is ever read as a part of another.
-/
namespace Ormap
namespace Insert

open Naming

theorem toList_render (i : Insert) : i.render.toList = "INSERT INTO ".toList ++
    ((quoteIdentifier i.table).toList ++ ' ' :: '(' :: ((quoteIdentifiers i.columns).toList ++
      ')' :: (" VALUES (".toList ++ ((", ".intercalate i.literals).toList ++ [')'])))) := by
  unfold render
  simp only [String.toList_append, List.append_assoc]
  rfl

/-- **An insertion is told by its text**, when each literal is an item of a list. -/
theorem render_inj {i j : Insert} (hi : ∀ l ∈ i.literals, Text.IsItem '\'' l.toList)
    (hj : ∀ l ∈ j.literals, Text.IsItem '\'' l.toList) (h : i.render = j.render) : i = j := by
  have hchars := congrArg String.toList h
  rw [toList_render, toList_render, List.append_cancel_left_eq] at hchars
  obtain ⟨htable, hrest⟩ := Text.quoted_cancel (by simp) (by simp) hchars
  have hnames : ∀ names : List String, ∀ n ∈ names.map quoteIdentifier, Text.IsItem '"' n.toList := by
    intro names n hn
    obtain ⟨name, -, rfl⟩ := List.mem_map.1 hn
    exact Text.IsItem.quoted '"' name
  simp only [List.cons.injEq, true_and] at hrest
  obtain ⟨hquoted, hvalues⟩ := Text.written_cancel (by decide) (hnames i.columns) (hnames j.columns) hrest
  rw [List.append_cancel_left_eq] at hvalues
  obtain ⟨hliterals, -⟩ := Text.written_cancel (by decide) hi hj hvalues
  have hcolumns : i.columns = j.columns := (List.map_inj_right fun _ _ => Text.quoted_inj).1 hquoted
  calc i = ⟨i.table, i.columns, i.literals⟩ := rfl
    _ = ⟨j.table, j.columns, j.literals⟩ := by rw [htable, hcolumns, hliterals]
    _ = j := rfl

end Insert

/-- What a text inserts: a row of an object into its table, or one of the rows of a dump into the table they are of. -/
inductive Inserts : String → String → List String → List Value → Prop
  | row {r : TableRow} {i : Insert} (h : r.insertion = .ok i) : Inserts i.render r.table r.columns (r.cells.map (·.2))
  | dumped {d : TableDump} {is : List Insert} (h : d.insertions = .ok is) {n : Nat} {i : Insert} {values : List Value}
      (hi : is[n]? = some i) (hv : d.rows[n]? = some values) : Inserts i.render d.table d.columns values

namespace Inserts

variable {text table table' : String} {columns columns' : List String} {values values' : List Value}

/-- **Both write one form of statement.** -/
theorem exists_literals (h : Inserts text table columns values) :
    ∃ literals, Literal.ofValues values = .ok literals ∧ text = Insert.render ⟨table, columns, literals⟩ := by
  cases h with
  | row h =>
    obtain ⟨literals, hl, h⟩ := Outcome.bind_eq_ok.1 h
    cases h
    exact ⟨literals, hl, rfl⟩
  | dumped h hi hv =>
    have hrow := (List.forall₂_iff_get.1 (Outcome.mapM_eq_ok.1 h)).2
    obtain ⟨hn, rfl⟩ := List.getElem?_eq_some_iff.1 hi
    obtain ⟨hn', rfl⟩ := List.getElem?_eq_some_iff.1 hv
    obtain ⟨literals, hl, h⟩ := Outcome.bind_eq_ok.1 (hrow _ hn' hn)
    have hinsert := Except.ok.inj h
    exact ⟨literals, hl, congrArg Insert.render hinsert.symm⟩

theorem isItem_of_literals (hv : ∀ v ∈ values, v.isStored = true) {literals : List String}
    (h : Literal.ofValues values = .ok literals) : ∀ l ∈ literals, Text.IsItem '\'' l.toList := by
  intro l hl
  obtain ⟨v, hvm, hvl⟩ := Outcome.exists_of_mem_right (Literal.ofValues_eq_ok.1 h) l hl
  exact (Literal.literal_item (hv v hvm) hvl).1

/-- **The text of an insertion tells its content.**  Whatever characters names and texts hold, of two insertions of
stored values with one text the tables and the lists of columns are equal, and so are the values one by one, in kind and
unless they are real numbers also in value. -/
theorem content_eq (h : Inserts text table columns values) (h' : Inserts text table' columns' values')
    (hv : ∀ v ∈ values, v.isStored = true) (hv' : ∀ v ∈ values', v.isStored = true) :
    table = table' ∧ columns = columns' ∧ List.Forall₂ Value.Matches values values' := by
  obtain ⟨literals, hl, htext⟩ := h.exists_literals
  obtain ⟨literals', hl', htext'⟩ := h'.exists_literals
  have heq := Insert.render_inj (isItem_of_literals hv hl) (isItem_of_literals hv' hl') (htext.symm.trans htext')
  obtain ⟨rfl, rfl, rfl⟩ := Insert.mk.inj heq
  exact ⟨rfl, rfl, Literal.matches_of_literals hv hv' hl hl'⟩

/-! ## A note

Its table, its columns and its text hold what statements are made of. -/

def noteRow : TableRow where
  entity := "Note"
  table := "a\" (b)"
  level := 0
  cells := [("x\", \"y", .text "'), (NULL, '"), (")", .blob [0, 255]), ("", .null), ("n", .integer (-5)),
    ("r", .real ⟨0x3FF8000000000000⟩)]

def noteDump : TableDump where
  table := "a\" (b)"
  columns := ["x\", \"y", ")", "", "n", "r"]
  rows := [[.null, .null, .null, .null, .null],
    [.text "'), (NULL, '", .blob [0, 255], .null, .integer (-5), .real ⟨0x3FF8000000000000⟩]]

theorem noteRow_isSome : noteRow.insertion.toOption.isSome = true := by decide +kernel

theorem noteDump_isSome : noteDump.insertions.toOption.isSome = true := by decide +kernel

theorem content_eq_note : ∃ text values, Inserts text noteRow.table noteRow.columns (noteRow.cells.map (·.2)) ∧
    Inserts text noteDump.table noteDump.columns values ∧ noteRow.table = noteDump.table ∧
    noteRow.columns = noteDump.columns ∧ List.Forall₂ Value.Matches (noteRow.cells.map (·.2)) values := by
  have hrow := Inserts.row (Outcome.eq_ok_get noteRow_isSome)
  have hsame : (noteDump.insertions.toOption.get noteDump_isSome)[1]? =
      some (noteRow.insertion.toOption.get noteRow_isSome) := rfl
  have hdump := Inserts.dumped (Outcome.eq_ok_get noteDump_isSome) hsame rfl
  obtain ⟨htable, hcolumns, hvalues⟩ := content_eq hrow hdump (by decide) (by decide)
  exact ⟨_, _, hrow, hdump, htable, hcolumns, hvalues⟩

end Inserts
end Ormap
