import Mathlib.Data.List.Nodup
import Ormap.Row
/-!
# Cells and labels — what is read is what was set

Setting a name changes its own content only and keeps names distinct.  A label gives away its column and its level, so
that the row that joins table rows of different levels holds at each level what the table row of that level holds
(`Row.get_ofTableRows_iff`).
-/
namespace Ormap
namespace Cells

theorem get?_set (name : String) (x : α) (n : String) : ∀ cells : Cells α,
    get? n (set name x cells) = if n = name then some x else get? n cells
  | [] => by
    unfold set get? get?
    simp only [eq_comm]
  | (a, y) :: rest => by
    unfold set
    by_cases ha : a = name
    · rw [if_pos ha]
      unfold get?
      subst ha
      by_cases hn : a = n
      · rw [if_pos hn, if_pos hn.symm]
      · rw [if_neg hn, if_neg (Ne.symm hn), if_neg hn]
    · rw [if_neg ha]
      unfold get?
      rw [get?_set name x n rest]
      by_cases hn : a = n
      · subst hn
        rw [if_pos rfl, if_neg ha, if_pos rfl]
      · rw [if_neg hn, if_neg hn]

theorem get?_isSome {n : String} : ∀ {cells : Cells α}, (get? n cells).isSome = true ↔ n ∈ names cells
  | [] => by simp [get?, names]
  | (a, y) :: rest => by
    unfold get? names
    rw [List.map_cons, List.mem_cons]
    by_cases ha : a = n
    · simp [ha]
    · rw [if_neg ha, get?_isSome]
      simp [names, Ne.symm ha]

theorem mem_of_get? {n : String} {x : α} : ∀ {cells : Cells α}, get? n cells = some x → (n, x) ∈ cells
  | [], h => by cases h
  | (a, y) :: rest, h => by
    unfold get? at h
    split at h
    · rename_i ha
      cases h
      exact ha ▸ List.mem_cons_self
    · exact List.mem_cons_of_mem _ (mem_of_get? h)

theorem get?_eq_some_iff {n : String} {x : α} {cells : Cells α} (hn : (names cells).Nodup) :
    get? n cells = some x ↔ (n, x) ∈ cells := by
  refine ⟨mem_of_get?, fun h => ?_⟩
  obtain ⟨y, hy⟩ := Option.isSome_iff_exists.1 (get?_isSome.2 (List.mem_map_of_mem (f := Prod.fst) h))
  have hxy := List.inj_on_of_nodup_map hn h (mem_of_get? hy) rfl
  cases hxy
  exact hy

theorem mem_names_set {name n : String} {x : α} {cells : Cells α} :
    n ∈ names (set name x cells) ↔ n = name ∨ n ∈ names cells := by
  rw [← get?_isSome, ← get?_isSome, get?_set]
  by_cases hn : n = name
  · simp [hn]
  · simp [hn]

theorem nodup_names_set (name : String) (x : α) : ∀ {cells : Cells α}, (names cells).Nodup →
    (names (set name x cells)).Nodup
  | [], _ => List.nodup_singleton _
  | (a, y) :: rest, h => by
    unfold set
    by_cases ha : a = name
    · rw [if_pos ha]
      exact h
    · rw [if_neg ha]
      unfold names at h ⊢
      rw [List.map_cons, List.nodup_cons] at h ⊢
      refine ⟨fun hm => ?_, nodup_names_set name x h.2⟩
      rcases mem_names_set.1 hm with hm | hm
      · exact ha hm
      · exact h.1 hm

/-- A new name goes to the end. -/
theorem set_of_not_mem {name : String} {x : α} : ∀ {cells : Cells α}, name ∉ names cells →
    set name x cells = cells ++ [(name, x)]
  | [], _ => rfl
  | (a, y) :: rest, h => by
    have ha : a ≠ name ∧ name ∉ names rest := by simpa [names, eq_comm] using h
    unfold set
    rw [if_neg ha.1, set_of_not_mem ha.2, List.cons_append]

theorem names_set {name : String} {x : α} {cells : Cells α} (h : name ∉ names cells) :
    names (set name x cells) = names cells ++ [name] := by
  rw [set_of_not_mem h, names, List.map_append]
  rfl

/-- New names go to the end in their order, as long as none comes twice. -/
theorem foldl_set : ∀ {ps cells : Cells α}, (names (cells ++ ps)).Nodup →
    ps.foldl (fun acc p => set p.1 p.2 acc) cells = cells ++ ps
  | [], cells, _ => (List.append_nil cells).symm
  | (name, x) :: ps, cells, h => by
    have hnew : name ∉ names cells := by
      intro hm
      rw [names, List.map_append, List.map_cons] at h
      exact (List.nodup_append.1 h).2.2 name hm name List.mem_cons_self rfl
    have hall : cells ++ (name, x) :: ps = (cells ++ [(name, x)]) ++ ps := by
      rw [List.append_assoc]
      rfl
    rw [List.foldl_cons, set_of_not_mem hnew, hall]
    rw [hall] at h
    exact foldl_set h

end Cells

/-! ## Labels -/

namespace Naming

theorem toDigits_inj {m n : Nat} (h : Nat.toDigits 10 m = Nat.toDigits 10 n) : m = n := by
  have hread := congrArg (fun cs => Nat.ofDigitChars 10 cs 0) h
  simpa [Nat.ofDigitChars_toDigits] using hread

/-- **A label gives away its column and its level**: no digit is an underscore. -/
theorem columnLabel_inj {a b : String} {i j : Nat} : columnLabel a i = columnLabel b j ↔ a = b ∧ i = j := by
  have hchars : ∀ (s : String) (n : Nat), (columnLabel s n).toList = s.toList ++ '_' :: Nat.toDigits 10 n := by
    intro s n
    unfold columnLabel
    rw [String.toList_append, String.toList_append, List.append_assoc, show toString n = Nat.repr n from rfl,
      Nat.toList_repr]
    rfl
  constructor
  · intro h
    have hl := congrArg String.toList h
    rw [hchars, hchars] at hl
    -- the last underscore parts the column from the level
    have hparts : a.toList = b.toList ∧ Nat.toDigits 10 i = Nat.toDigits 10 j := by
      rcases List.append_eq_append_iff.1 hl with ⟨l, hb, ht⟩ | ⟨l, ha, ht⟩
      · cases l with
        | nil => exact ⟨by rw [hb, List.append_nil], (List.cons.inj ht).2⟩
        | cons x l =>
          have hmem : '_' ∈ Nat.toDigits 10 i := by rw [(List.cons.inj ht).2]; simp
          exact absurd hmem Nat.underscore_not_in_toDigits
      · cases l with
        | nil => exact ⟨by rw [ha, List.append_nil], (List.cons.inj ht).2.symm⟩
        | cons x l =>
          have hmem : '_' ∈ Nat.toDigits 10 j := by rw [(List.cons.inj ht).2]; simp
          exact absurd hmem Nat.underscore_not_in_toDigits
    exact ⟨String.toList_inj.1 hparts.1, toDigits_inj hparts.2⟩
  · rintro ⟨rfl, rfl⟩
    rfl

end Naming

/-- The cells of a table row under their labels. -/
def TableRow.labelled (t : TableRow) : Cells Value := t.cells.map fun p => (Naming.columnLabel p.1 t.level, p.2)

theorem TableRow.mem_labelled {t : TableRow} {n : String} {level : Nat} {v : Value} :
    (Naming.columnLabel n level, v) ∈ t.labelled ↔ t.level = level ∧ (n, v) ∈ t.cells := by
  unfold labelled
  rw [List.mem_map]
  constructor
  · rintro ⟨⟨a, w⟩, ha, heq⟩
    obtain ⟨hlabel, rfl⟩ := Prod.mk.inj heq
    obtain ⟨rfl, rfl⟩ := Naming.columnLabel_inj.1 hlabel
    exact ⟨rfl, ha⟩
  · rintro ⟨rfl, hv⟩
    exact ⟨(n, v), hv, rfl⟩

namespace Row

variable {rows : List TableRow}

/-- No two cells of table rows of different levels have one label. -/
theorem nodup_labels (hl : (rows.map (·.level)).Nodup) (hn : ∀ t ∈ rows, (Cells.names t.cells).Nodup) :
    (Cells.names (rows.flatMap (·.labelled))).Nodup := by
  have hlabels : Cells.names (rows.flatMap (·.labelled)) =
      rows.flatMap fun t => t.columns.map (Naming.columnLabel · t.level) := by
    unfold Cells.names TableRow.labelled TableRow.columns Cells.names
    simp only [List.map_flatMap, List.map_map, Function.comp_def]
  rw [hlabels, List.nodup_flatMap]
  constructor
  · intro t ht
    exact (hn t ht).map fun a b h => (Naming.columnLabel_inj.1 h).1
  · refine (List.pairwise_map.1 hl).imp fun {t u} htu label ht hu => htu ?_
    obtain ⟨a, -, rfl⟩ := List.mem_map.1 ht
    obtain ⟨b, -, hb⟩ := List.mem_map.1 hu
    exact (Naming.columnLabel_inj.1 hb).2.symm

/-- **The row that joins table rows of different levels has their cells**, in their order, each under its label. -/
theorem cells_ofTableRows (hl : (rows.map (·.level)).Nodup) (hn : ∀ t ∈ rows, (Cells.names t.cells).Nodup) :
    (ofTableRows rows).cells = rows.flatMap (·.labelled) := by
  have hrow : ∀ (level : Nat) (cells : Cells Value) (r : Row),
      (cells.foldl (fun acc p => acc.set p.1 level p.2) r).cells =
        (cells.map fun p => (Naming.columnLabel p.1 level, p.2)).foldl (fun acc p => Cells.set p.1 p.2 acc) r.cells := by
    intro level cells
    induction cells with
    | nil => exact fun r => rfl
    | cons p cells ih => exact fun r => ih _
  have hrows : ∀ (l : List TableRow) (r : Row), (l.foldl addTableRow r).cells =
      (l.flatMap (·.labelled)).foldl (fun acc p => Cells.set p.1 p.2 acc) r.cells := by
    intro l
    induction l with
    | nil => exact fun r => rfl
    | cons t l ih =>
      intro r
      rw [List.foldl_cons, ih, List.flatMap_cons, List.foldl_append,
        show (r.addTableRow t).cells = _ from hrow t.level t.cells r]
      rfl
  unfold ofTableRows
  rw [hrows]
  exact Cells.foldl_set (nodup_labels hl hn)

theorem get_eq_ok {r : Row} {n : String} {level : Nat} {v : Value} :
    r.get n level = .ok v ↔ Cells.get? (Naming.columnLabel n level) r.cells = some v := by
  unfold get
  cases Cells.get? (Naming.columnLabel n level) r.cells <;> simp

/-- **The joined row holds at a level what the table row of that level holds**, and nothing else. -/
theorem get_ofTableRows_iff (hl : (rows.map (·.level)).Nodup) (hn : ∀ t ∈ rows, (Cells.names t.cells).Nodup)
    {n : String} {level : Nat} {v : Value} :
    (ofTableRows rows).get n level = .ok v ↔ ∃ t ∈ rows, t.level = level ∧ t.get? n = some v := by
  have hnames := nodup_labels hl hn
  rw [get_eq_ok, cells_ofTableRows hl hn, Cells.get?_eq_some_iff hnames, List.mem_flatMap]
  refine exists_congr fun t => and_congr_right fun ht => ?_
  rw [TableRow.mem_labelled, TableRow.get?, Cells.get?_eq_some_iff (hn t ht)]

theorem get_ofTableRows (hl : (rows.map (·.level)).Nodup) (hn : ∀ t ∈ rows, (Cells.names t.cells).Nodup) {t : TableRow}
    (ht : t ∈ rows) {n : String} {v : Value} (hv : t.get? n = some v) : (ofTableRows rows).get n t.level = .ok v :=
  (get_ofTableRows_iff hl hn).2 ⟨t, ht, rfl, hv⟩

end Row
end Ormap
