import Ormap.Proofs.Copies
import Ormap.Proofs.Defects
import Ormap.Proofs.Navigation
import Ormap.Proofs.Transactions
/-!
# Addressing — the rows of one object are found by one condition

The key columns of every entity are copies of its root's, and no other column on a way down has the name of one.  So
each row of an object holds the key of the hierarchy with the values that the object has for it (`Maps.key_cell`), and
the statements that update and remove its rows all end in the same text, the conjunction over the key
(`changes_address_one_object`).
-/
namespace Ormap

/-! ## Statements as text -/

/-- An equation as it is written. -/
def Equation.text (q : Equation) : String := Naming.quoteIdentifier q.column ++ " = " ++ q.literal

/-- A condition as it is written: all of its equations in their order. -/
def Equation.conjunction (cond : List Equation) : String := " AND ".intercalate (cond.map Equation.text)

theorem Equation.renderAll_eq (cond : List Equation) : Equation.renderAll cond = Equation.conjunction cond := rfl

theorem Insert.render_eq (i : Insert) : i.render = "INSERT INTO " ++ Naming.quoteIdentifier i.table ++ " (" ++
    Naming.quoteIdentifiers i.columns ++ ") VALUES (" ++ ", ".intercalate i.literals ++ ")" := rfl

/-- **An update ends in its whole condition**, after the assignments. -/
theorem Update.render_eq (u : Update) : u.render = "UPDATE " ++ Naming.quoteIdentifier u.table ++ " SET " ++
    ", ".intercalate (u.assignments.map Equation.text) ++ " WHERE " ++ Equation.conjunction u.condition := by
  rw [← Equation.renderAll_eq]
  rfl

theorem Delete.render_eq (d : Delete) : d.render = "DELETE FROM " ++ Naming.quoteIdentifier d.table ++ " WHERE " ++
    Equation.conjunction d.condition := by
  rw [← Equation.renderAll_eq]
  rfl

/-! ## Cells and equations -/

/-- The value that an object has for the field behind a column. -/
def Record.valueOf (record : Record) (c : Column) : Value := c.field.elim .null record.get

namespace TableRow

variable {row : TableRow} {keys : List String} {key : String} {q : Equation} {assignments : List Equation}

theorem equation_eq_ok {cell : String × Value} :
    equation cell = .ok q ↔ q.column = cell.1 ∧ Literal.ofValue cell.2 = .ok q.literal := by
  unfold equation
  rw [Outcome.bind_eq_ok]
  constructor
  · rintro ⟨literal, hl, h⟩
    cases h
    exact ⟨rfl, hl⟩
  · rintro ⟨hc, hl⟩
    refine ⟨q.literal, hl, ?_⟩
    rw [← hc]
    rfl

theorem keyEquation_of_value {v : Value} (hv : row.get? key = some v) (hn : v ≠ .null) :
    row.keyEquation key = (equation (key, v)).mapError .marshalling := by
  unfold keyEquation
  rw [hv]
  cases v with
  | null => exact absurd rfl hn
  | integer | real | text | boolean | blob | timestamp | uuid => rfl

/-- **A key column is compared to the value that the row has for it**, which has to be one. -/
theorem keyEquation_eq_ok : row.keyEquation key = .ok q ↔
    ∃ v, row.get? key = some v ∧ v ≠ .null ∧ q.column = key ∧ Literal.ofValue v = .ok q.literal := by
  constructor
  · intro h
    have hsome : ∃ v, row.get? key = some v ∧ v ≠ .null := by
      unfold keyEquation at h
      split at h
      · cases h
      · cases h
      · rename_i v hne hv
        exact ⟨v, hv, hne⟩
    obtain ⟨v, hv, hn⟩ := hsome
    rw [keyEquation_of_value hv hn, Outcome.mapError_eq_ok] at h
    exact ⟨v, hv, hn, equation_eq_ok.1 h⟩
  · rintro ⟨v, hv, hn, hq⟩
    rw [keyEquation_of_value hv hn, Outcome.mapError_eq_ok]
    exact equation_eq_ok.2 hq

/-- Whether a row has a column beside those of a key. -/
def hasBeside (row : TableRow) (keys : List String) : Bool := row.columns.any (!keys.contains ·)

theorem hasBeside_eq (row : TableRow) (keys : List String) :
    row.hasBeside keys = !(row.columns.filter (!keys.contains ·)).isEmpty := by
  unfold hasBeside
  rw [Bool.eq_iff_iff]
  simp

/-- Whether assignments set the columns of a row beside those of a key: each of them once, to its stored value, and no
other. -/
structure Assigns (row : TableRow) (keys : List String) (assignments : List Equation) : Prop where
  columns_eq : assignments.map (·.column) = row.columns.filter (!keys.contains ·)
  distinct : (assignments.map (·.column)).Nodup
  stored : ∀ q ∈ assignments, ∃ v, row.get? q.column = some v ∧ Literal.ofValue v = .ok q.literal

theorem names_cellsBeside (row : TableRow) (keys : List String) :
    Cells.names (row.cellsBeside keys) = row.columns.filter (!keys.contains ·) := by
  unfold Cells.names cellsBeside columns Cells.names
  rw [List.filter_map]
  rfl

theorem assigns_of_cellsBeside (hnd : (Cells.names row.cells).Nodup)
    (h : (row.cellsBeside keys).mapM equation = .ok assignments) : row.Assigns keys assignments := by
  have hall := Outcome.mapM_eq_ok.1 h
  have hname : ∀ (cell : String × Value) (q : Equation), equation cell = .ok q → q.column = cell.1 :=
    fun _ _ hq => (equation_eq_ok.1 hq).1
  have hcolumns : assignments.map (·.column) = row.columns.filter (!keys.contains ·) := by
    rw [← names_cellsBeside]
    exact Outcome.map_eq_of_forall₂ hname hall
  refine ⟨hcolumns, hcolumns ▸ hnd.filter _, fun q hq => ?_⟩
  obtain ⟨cell, hc, hcq⟩ := Outcome.exists_of_mem_right hall q hq
  obtain ⟨hname, hl⟩ := equation_eq_ok.1 hcq
  refine ⟨cell.2, ?_, hl⟩
  rw [hname]
  exact (Cells.get?_eq_some_iff hnd).2 (List.mem_filter.1 hc).1

theorem tables_of_insertions {rows : List TableRow} {is : List Insert} (h : rows.mapM insertion = .ok is) :
    is.map (·.table) = rows.map (·.table) := by
  have htable : ∀ (row : TableRow) (i : Insert), row.insertion = .ok i → i.table = row.table := by
    intro row i hi
    obtain ⟨literals, -, hi⟩ := Outcome.bind_eq_ok.1 hi
    cases hi
    rfl
  exact Outcome.map_eq_of_forall₂ htable (Outcome.mapM_eq_ok.1 h)

end TableRow

namespace Graph

/-- The names of the key columns of the hierarchy of an entity, in their order. -/
def keysOf (g : Graph) (e : Entity) : List String := (g.root e).primaryKeys.map (·.name)

/-- Whether a condition finds the rows of an object of `e`: it compares the key columns of the hierarchy, in their
order, each to the value that all rows have for it. -/
structure FindsRows (g : Graph) (e : Entity) (rows : List TableRow) (cond : List Equation) : Prop where
  columns_eq : cond.map (·.column) = g.keysOf e
  compares : ∀ q ∈ cond, ∃ v, v ≠ .null ∧ Literal.ofValue v = .ok q.literal ∧ ∀ row ∈ rows, row.get? q.column = some v

/-- Whether an update of a row of an object of `e` sets what is beside the key where the condition holds. -/
structure UpdatesRow (g : Graph) (e : Entity) (cond : List Equation) (row : TableRow) (u : Update) : Prop where
  table_eq : u.table = row.table
  assigns : row.Assigns (g.keysOf e) u.assignments
  condition_eq : u.condition = cond

/-- Whether statements make a change of an object with the given rows: they insert each row, update each that has a
column beside the key, or remove each from the last to the first, always with the one condition, written out whole. -/
def Makes (g : Graph) (e : Entity) (rows : List TableRow) (cond : List Equation) : Change → List String → Prop
  | .persist, statements => ∃ is : List Insert, is.map (·.table) = rows.map (·.table) ∧
    statements = is.map fun i => "INSERT INTO " ++ Naming.quoteIdentifier i.table ++ " (" ++
      Naming.quoteIdentifiers i.columns ++ ") VALUES (" ++ ", ".intercalate i.literals ++ ")"
  | .update, statements => ∃ us : List Update,
    List.Forall₂ (g.UpdatesRow e cond) (rows.filter (·.hasBeside (g.keysOf e))) us ∧
      (us = [] ∨ g.FindsRows e rows cond) ∧
      statements = us.map fun u => "UPDATE " ++ Naming.quoteIdentifier u.table ++ " SET " ++
        ", ".intercalate (u.assignments.map Equation.text) ++ " WHERE " ++ Equation.conjunction cond
  | .remove, statements => g.FindsRows e rows cond ∧
    statements = rows.reverse.map fun row => "DELETE FROM " ++ Naming.quoteIdentifier row.table ++ " WHERE " ++
      Equation.conjunction cond

theorem removalOf_eq_ok {g : Graph} {row : TableRow} {d : Delete} (hd : g.removalOf row = .ok d) :
    ∃ cond, g.keyCondition row = .ok cond ∧ d = { table := row.table, condition := cond } := by
  obtain ⟨cond, hc, hd⟩ := Outcome.bind_eq_ok.1 hd
  cases hd
  exact ⟨cond, hc, rfl⟩

end Graph

namespace Resolution
namespace Maps

variable {cfg : Config} {c : Catalog} {g : Graph} {e p x : Entity} {record : Record} {rows : List TableRow}
  {row : TableRow} {cond : List Equation} {col key : Column} (m : Maps cfg c g)
include m

/-! ## Keys down the hierarchy -/

theorem keyOriginals_root (he : e ∈ g.entities) :
    e.primaryKeys.map Column.original = (g.root e).primaryKeys.map Column.original := by
  induction e, he using m.induct with
  | root e he hp => rw [m.root_eq_self he hp]
  | child e he p _ hp ih =>
    rw [m.primaryKeys_child he hp, m.root_of_parent he hp, ← ih, List.map_map]
    rfl

theorem exists_key (he : e ∈ g.entities) (hk : key ∈ (g.root e).primaryKeys) :
    ∃ col ∈ e.primaryKeys, col.original = key.original := by
  have hmem : key.original ∈ e.primaryKeys.map Column.original := by
    rw [m.keyOriginals_root he]
    exact List.mem_map_of_mem hk
  exact List.mem_map.1 hmem

/-- **An entity below another declares no column of the name of a key.** -/
theorem own_name_ne_key (he : e ∈ g.entities) (h : g.parent? e = some p) (hc : col ∈ e.ownColumns)
    (hk : key ∈ (g.root e).primaryKeys) : col.name ≠ key.name := by
  intro hname
  obtain ⟨copy, hcopy, horig⟩ := m.exists_key he hk
  obtain ⟨hcopy, hcopyk⟩ := List.mem_filter.1 hcopy
  have hcopyn : copy.name = key.name := (congrArg Column.name horig :)
  have heq : col = copy := m.eq_of_columnName he (List.mem_filter.1 hc).1 hcopy (hname.trans hcopyn.symm)
  exact Bool.false_ne_true ((m.primaryKey_of_own he h hc).symm.trans (heq ▸ hcopyk))

theorem parent?_of_mem_tail (he : e ∈ g.entities) (hx : x ∈ (g.ancestry e).tail) : ∃ p, g.parent? x = some p := by
  have hxe := List.mem_of_mem_tail hx
  have hxm := m.mem_of_ancestry he hxe
  cases hp : g.parent? x with
  | some p => exact ⟨p, rfl⟩
  | none =>
    -- the root is the first on the way and does not come again
    obtain ⟨rest, ha⟩ := m.ancestry_eq_cons he
    have hnd := m.nodup_ancestry he
    rw [ha] at hx hnd
    refine absurd ?_ (List.nodup_cons.1 hnd).1
    rw [← m.root_of_ancestry he x hxe, m.root_eq_self hxm hp]
    exact hx

/-- The columns that a place holds beside those of its entity do not have the names of keys. -/
theorem place_key_names (he : e ∈ g.entities) {p : Graph.Place} (hp : p ∈ g.places e) :
    ∃ more, p.columns = p.entity.columns ++ more ∧ ∀ key ∈ (g.root e).primaryKeys, key.name ∉ more.map (·.name) := by
  unfold Graph.places at hp
  split at hp
  · obtain ⟨q, -, rfl⟩ := List.mem_map.1 hp
    exact ⟨[], (List.append_nil _).symm, fun _ _ => List.not_mem_nil⟩
  · cases List.mem_singleton.1 hp
    refine ⟨_, rfl, fun key hk hmem => ?_⟩
    obtain ⟨col, hc, hname⟩ := List.mem_map.1 hmem
    obtain ⟨y, hy, hcy⟩ := List.mem_flatMap.1 hc
    obtain ⟨q, hq⟩ := m.parent?_of_mem_tail he hy
    have hye := List.mem_of_mem_tail hy
    rw [← m.root_of_ancestry he y hye] at hk
    exact m.own_name_ne_key (m.mem_of_ancestry he hye) hq hcy hk hname
  · cases List.mem_singleton.1 hp
    exact ⟨[], (List.append_nil _).symm, fun _ _ => List.not_mem_nil⟩

/-! ## Keys in rows -/

theorem cellValue_key (he : e ∈ g.entities) (hk : key ∈ e.primaryKeys) (strategy : Strategy) (path : List Entity)
    (owner : Nat) : g.cellValue record strategy path owner key = .ok (record.valueOf key) := by
  obtain ⟨-, hf, hd⟩ := m.key_is_plain he hk
  unfold Graph.cellValue Record.valueOf
  rw [Column.role_eq_simple hf hd]
  cases key.field <;> rfl

/-- **Each row of an object holds the key of its hierarchy**, with the values that the object has for it. -/
theorem key_cell (he : e ∈ g.entities) {p : Graph.Place} (hp : p ∈ g.places e)
    (h : g.rowOf record e.strategy (g.ancestry e) p.level p.entity p.columns = .ok row)
    (hk : key ∈ (g.root e).primaryKeys) :
    ∃ w, key.type.store key.name (record.valueOf key) = .ok w ∧ row.get? key.name = some w := by
  have hx := m.mem_of_places he hp
  have hxm := m.mem_of_ancestry he hx
  obtain ⟨more, hcolumns, hmore⟩ := m.place_key_names he hp
  obtain ⟨col, hcol, horig⟩ := m.exists_key hxm (by rw [m.root_of_ancestry he _ hx]; exact hk)
  have hname : col.name = key.name := (congrArg Column.name horig :)
  -- after the key column of the entity no column has its name
  obtain ⟨before, after, hsplit⟩ := List.append_of_mem (List.mem_filter.1 hcol).1
  have hafter : col.name ∉ after.map (·.name) := by
    have hnd := m.columns_nodup hxm
    rw [hsplit, List.map_append, List.map_cons] at hnd
    exact (List.nodup_cons.1 (List.nodup_append.1 hnd).2.1).1
  rw [hcolumns, hsplit, List.append_assoc, List.cons_append] at h
  unfold Graph.rowOf at h
  obtain ⟨table, -, h⟩ := Outcome.bind_eq_ok.1 h
  obtain ⟨v, w, hv, hw, hget⟩ := Graph.fillRow_last h (by
    rw [List.map_append, List.mem_append, not_or]
    exact ⟨hafter, hname ▸ hmore key hk⟩)
  rw [m.cellValue_key hxm hcol] at hv
  cases hv
  -- a copy has all of its original but the mark of a copy
  have htype : col.type = key.type := (congrArg Column.type horig :)
  have hfield : col.field = key.field := (congrArg Column.field horig :)
  unfold Record.valueOf at hw ⊢
  rw [htype, hname, hfield] at hw
  exact ⟨w, hw, hname ▸ hget⟩

theorem keyNames_of_rowOf (he : e ∈ g.entities) {p : Graph.Place} (hp : p ∈ g.places e)
    (h : g.rowOf record e.strategy (g.ancestry e) p.level p.entity p.columns = .ok row) :
    g.keyNames row = .ok (g.keysOf e) := by
  have hx := m.mem_of_places he hp
  have hxm := m.mem_of_ancestry he hx
  have hkeys : p.entity.primaryKeys.map (·.name) = g.keysOf e := by
    rw [m.keyNames_root hxm, m.root_of_ancestry he _ hx]
    rfl
  rw [← hkeys]
  refine Graph.keyNames_eq_ok ?_ (m.primaryKeys_ne_nil hxm)
  rw [(Graph.isRowOf_of_rowOf h).entity_eq, m.find?_typeName hxm]

/-! ## One condition -/

theorem exists_mem_rowsOf (he : e ∈ g.entities) (h : g.rowsOf record e = .ok rows) : ∃ row, row ∈ rows := by
  obtain ⟨p, hp, -⟩ := m.exists_place he (m.root_mem_ancestry he)
  obtain ⟨row, hr, -⟩ := Outcome.exists_of_mem_left (m.rowsOf_places he h) p hp
  exact ⟨row, hr⟩

/-- **All rows of an object have the same cells for the key.** -/
theorem key_cells (he : e ∈ g.entities) (h : g.rowsOf record e = .ok rows) (hk : key ∈ (g.root e).primaryKeys) :
    ∃ w, key.type.store key.name (record.valueOf key) = .ok w ∧ ∀ row ∈ rows, row.get? key.name = some w := by
  have hcell : ∀ row ∈ rows, ∃ w, key.type.store key.name (record.valueOf key) = .ok w ∧
      row.get? key.name = some w := by
    intro row hr
    obtain ⟨p, hp, hrow⟩ := Outcome.exists_of_mem_right (m.rowsOf_places he h) row hr
    exact m.key_cell he hp hrow hk
  obtain ⟨first, hfirst⟩ := m.exists_mem_rowsOf he h
  obtain ⟨w, hw, -⟩ := hcell first hfirst
  refine ⟨w, hw, fun row hr => ?_⟩
  obtain ⟨w', hw', hget⟩ := hcell row hr
  cases hw.symm.trans hw'
  exact hget

theorem keyNames_eq (he : e ∈ g.entities) (h : g.rowsOf record e = .ok rows) (hr : row ∈ rows) :
    g.keyNames row = .ok (g.keysOf e) := by
  obtain ⟨p, hp, hrow⟩ := Outcome.exists_of_mem_right (m.rowsOf_places he h) row hr
  exact m.keyNames_of_rowOf he hp hrow

theorem keyCondition_eq (he : e ∈ g.entities) (h : g.rowsOf record e = .ok rows) (hr : row ∈ rows) :
    g.keyCondition row = (g.keysOf e).mapM row.keyEquation := by
  unfold Graph.keyCondition
  rw [m.keyNames_eq he h hr]
  rfl

/-- **A condition that finds one row of an object finds all of them.** -/
theorem keyCondition_congr (he : e ∈ g.entities) (h : g.rowsOf record e = .ok rows) {row' : TableRow} (hr : row ∈ rows)
    (hr' : row' ∈ rows) (hc : g.keyCondition row = .ok cond) : g.keyCondition row' = .ok cond := by
  rw [m.keyCondition_eq he h hr] at hc
  rw [m.keyCondition_eq he h hr']
  refine Outcome.mapM_mono (fun name hname q hq => ?_) hc
  obtain ⟨key, hk, rfl⟩ := List.mem_map.1 hname
  obtain ⟨w, -, hcells⟩ := m.key_cells he h hk
  obtain ⟨v, hv, hrest⟩ := TableRow.keyEquation_eq_ok.1 hq
  rw [hcells row hr] at hv
  cases hv
  exact TableRow.keyEquation_eq_ok.2 ⟨w, hcells row' hr', hrest⟩

theorem findsRows_of_keyCondition (he : e ∈ g.entities) (h : g.rowsOf record e = .ok rows) (hr : row ∈ rows)
    (hc : g.keyCondition row = .ok cond) : g.FindsRows e rows cond := by
  rw [m.keyCondition_eq he h hr] at hc
  have hall := Outcome.mapM_eq_ok.1 hc
  have hname : ∀ key q, row.keyEquation key = .ok q → q.column = key := by
    intro key q hq
    obtain ⟨v, -, -, hcolumn, -⟩ := TableRow.keyEquation_eq_ok.1 hq
    exact hcolumn
  refine ⟨?_, fun q hq => ?_⟩
  · rw [Outcome.map_eq_of_forall₂ (k := (·.column)) (f := id) hname hall, List.map_id]
  · obtain ⟨name, hmem, hnq⟩ := Outcome.exists_of_mem_right hall q hq
    obtain ⟨key, hk, rfl⟩ := List.mem_map.1 hmem
    obtain ⟨w, -, hcells⟩ := m.key_cells he h hk
    obtain ⟨v, hv, hn, hcolumn, hl⟩ := TableRow.keyEquation_eq_ok.1 hnq
    rw [hcells row hr] at hv
    cases hv
    exact ⟨w, hn, hl, fun row' hr' => hcolumn ▸ hcells row' hr'⟩

theorem exists_condition (he : e ∈ g.entities) (h : g.rowsOf record e = .ok rows) :
    ∃ cond, ∀ row ∈ rows, ∀ cond', g.keyCondition row = .ok cond' → cond' = cond := by
  by_cases hsome : ∃ row ∈ rows, ∃ cond, g.keyCondition row = .ok cond
  · obtain ⟨row, hr, cond, hc⟩ := hsome
    refine ⟨cond, fun row' hr' cond' hc' => ?_⟩
    exact Except.ok.inj (hc'.symm.trans (m.keyCondition_congr he h hr hr' hc))
  · exact ⟨[], fun row hr cond hc => absurd ⟨row, hr, cond, hc⟩ hsome⟩

/-! ## Statements -/

/-- **What the update of a row is**: none where all columns are those of the key. -/
theorem updateOf_eq_ok (he : e ∈ g.entities) (h : g.rowsOf record e = .ok rows) (hr : row ∈ rows) {u? : Option Update}
    (hu : g.updateOf row = .ok u?) : row.hasBeside (g.keysOf e) = u?.isSome ∧ ∀ u, u? = some u →
      ∃ cond, g.keyCondition row = .ok cond ∧ g.UpdatesRow e cond row u := by
  obtain ⟨-, hrows⟩ := m.rowsOf_eq_ok he h
  obtain ⟨x, -, owner, columns, hrow⟩ := hrows row hr
  unfold Graph.updateOf at hu
  rw [m.keyNames_eq he h hr] at hu
  obtain ⟨keys, hkeys, hu⟩ := Outcome.bind_eq_ok.1 hu
  cases hkeys
  obtain ⟨assignments, ha, hu⟩ := Outcome.bind_eq_ok.1 hu
  have hassigns := TableRow.assigns_of_cellsBeside hrow.distinct (Outcome.mapError_eq_ok.1 ha)
  have hbeside : row.hasBeside (g.keysOf e) = !assignments.isEmpty := by
    rw [TableRow.hasBeside_eq, ← hassigns.columns_eq, List.isEmpty_map]
  cases hempty : assignments.isEmpty with
  | true =>
    rw [hempty] at hu
    cases hu
    exact ⟨by rw [hbeside, hempty]; rfl, fun u hu => by cases hu⟩
  | false =>
    rw [hempty] at hu
    obtain ⟨cond, hc, hu⟩ := Outcome.bind_eq_ok.1 hu
    cases hu
    refine ⟨by rw [hbeside, hempty]; rfl, fun u hu => ?_⟩
    cases hu
    exact ⟨cond, hc, rfl, hassigns, rfl⟩

section
variable (he : e ∈ g.entities) (h : g.rowsOf record e = .ok rows)
  (hcond : ∀ row ∈ rows, ∀ cond', g.keyCondition row = .ok cond' → cond' = cond)
include he h hcond

/-- The updates that come about are those of the rows with a column beside the key, with the condition of all rows. -/
theorem updates_of_rows {us : List (Option Update)} (hus : rows.mapM g.updateOf = .ok us) :
    List.Forall₂ (g.UpdatesRow e cond) (rows.filter (·.hasBeside (g.keysOf e))) (us.filterMap id) ∧
      (us.filterMap id = [] ∨ g.FindsRows e rows cond) := by
  have hall : List.Forall₂ (fun row u => row ∈ rows ∧ g.keyCondition row = .ok cond ∧ g.UpdatesRow e cond row u)
      (rows.filter (·.hasBeside (g.keysOf e))) (us.filterMap id) := by
    refine Outcome.forall₂_filterMap ?_ ((List.forall₂_and_left _ _).2 ⟨fun _ hr => hr, Outcome.mapM_eq_ok.1 hus⟩)
    rintro row u? ⟨hr, hu⟩
    obtain ⟨hbeside, hupdates⟩ := m.updateOf_eq_ok he h hr hu
    refine ⟨hbeside, fun u hsome => ?_⟩
    obtain ⟨cond', hc, hrow⟩ := hupdates u hsome
    cases hcond row hr cond' hc
    exact ⟨hr, hc, hrow⟩
  refine ⟨hall.imp fun _ _ hrow => hrow.2.2, ?_⟩
  by_cases hnil : us.filterMap id = []
  · exact Or.inl hnil
  · obtain ⟨u, hu⟩ := List.exists_mem_of_ne_nil _ hnil
    obtain ⟨row, -, hr, hc, -⟩ := Outcome.exists_of_mem_right hall u hu
    exact Or.inr (m.findsRows_of_keyCondition he h hr hc)

/-- The removals that come about are those of all rows from the last to the first, with the condition of all rows. -/
theorem removals_of_rows {ds : List Delete} (hds : rows.reverse.mapM g.removalOf = .ok ds) :
    g.FindsRows e rows cond ∧ ds = rows.reverse.map fun row => { table := row.table, condition := cond } := by
  have hall : List.Forall₂ (fun row d => g.keyCondition row = .ok cond ∧
      d = ({ table := row.table, condition := cond } : Delete)) rows.reverse ds := by
    refine ((List.forall₂_and_left _ _).2 ⟨fun row hr => List.mem_reverse.1 hr, Outcome.mapM_eq_ok.1 hds⟩).imp ?_
    rintro row d ⟨hr, hd⟩
    obtain ⟨cond', hc, rfl⟩ := Graph.removalOf_eq_ok hd
    cases hcond row hr cond' hc
    exact ⟨hc, rfl⟩
  obtain ⟨row, hr⟩ := m.exists_mem_rowsOf he h
  obtain ⟨d, -, hc, -⟩ := Outcome.exists_of_mem_left hall row (List.mem_reverse.2 hr)
  refine ⟨m.findsRows_of_keyCondition he h hr hc, ?_⟩
  rw [← List.map_id ds]
  exact Outcome.map_eq_of_forall₂ (k := id) (fun _ _ hd => hd.2) hall

/-- **Statements that come about make the change**, where the rows have no other condition. -/
theorem makes {change : Change} {statements : List String} (hs : g.statementsOf rows change = .ok statements) :
    g.Makes e rows cond change statements := by
  cases change with
  | persist =>
    obtain ⟨is, his, hs⟩ := Outcome.bind_eq_ok.1 hs
    cases hs
    refine ⟨is, TableRow.tables_of_insertions (Outcome.mapError_eq_ok.1 his), ?_⟩
    exact List.map_congr_left fun i _ => i.render_eq
  | update =>
    obtain ⟨us, hus, hs⟩ := Outcome.bind_eq_ok.1 hs
    cases hs
    obtain ⟨hall, hfinds⟩ := m.updates_of_rows he h hcond hus
    refine ⟨us.filterMap id, hall, hfinds, List.map_congr_left fun u hu => ?_⟩
    obtain ⟨row, -, hrow⟩ := Outcome.exists_of_mem_right hall u hu
    rw [u.render_eq, hrow.condition_eq]
  | remove =>
    obtain ⟨ds, hds, hs⟩ := Outcome.bind_eq_ok.1 hs
    cases hs
    obtain ⟨hfinds, rfl⟩ := m.removals_of_rows he h hcond hds
    refine ⟨hfinds, ?_⟩
    rw [List.map_map]
    exact List.map_congr_left fun row _ => Delete.render_eq _

end

/-- **All statements that the changes of an object come down to have one condition.** -/
theorem exists_makes (he : e ∈ g.entities) (h : g.rowsOf record e = .ok rows) :
    ∃ cond, ∀ (change : Change) (statements : List String), g.statementsOf rows change = .ok statements →
      g.Makes e rows cond change statements := by
  obtain ⟨cond, hcond⟩ := m.exists_condition he h
  exact ⟨cond, fun _ _ hs => m.makes he h hcond hs⟩

theorem rowsOf_of_rows (hf : g.find? record.typeName = some e) (h : g.rows record = .ok rows) :
    g.rowsOf record e = .ok rows := by
  obtain ⟨e', hf', -, hof⟩ := m.rows_eq_ok h
  cases hf.symm.trans hf'
  exact hof

end Maps
end Resolution

namespace Database

variable {db : Database} {record : Record}

/-- **A change comes down to statements before it is sent**: it fails and leaves the connection as it is, or it sends
the statements of the object's rows in one transaction. -/
theorem run_change {σ : Type} (c : Connection σ) (change : Change) (s : σ) :
    (∃ fault, (db.change c change record).run s = (.error fault, s)) ∨ ∃ rows statements,
      db.graph.rows record = .ok rows ∧ db.graph.statementsOf rows change = .ok statements ∧
      (db.change c change record).run s = (c.runInTransaction statements).run s := by
  rw [change_eq, Action.run_bind, Action.run_lift]
  cases hs : (do db.requireMapped; db.graph.statements change record : Except Error (List String)) with
  | error fault => exact Or.inl ⟨fault, rfl⟩
  | ok statements =>
    obtain ⟨u, -, hstatements⟩ := Outcome.bind_eq_ok.1 hs
    obtain ⟨rows, hrows, hof⟩ := Outcome.bind_eq_ok.1 hstatements
    exact Or.inr ⟨rows, statements, hrows, hof, rfl⟩

theorem change_eq_ok {σ : Type} {c : Connection σ} {change : Change} {s : σ}
    (h : ((db.change c change record).run s).1 = .ok ()) : ∃ rows statements, db.graph.rows record = .ok rows ∧
      db.graph.statementsOf rows change = .ok statements ∧
      (db.change c change record).run s = (c.runInTransaction statements).run s := by
  refine (run_change c change s).resolve_left ?_
  rintro ⟨fault, hrun⟩
  rw [hrun] at h
  cases h

/-- Whether there is one condition for all changes of an object that succeed: each sends, in one transaction, the
statements that make it with this condition. -/
def AddressesOneObject (db : Database) (record : Record) : Prop :=
  ∃ cond, ∀ {σ : Type} (c : Connection σ) (change : Change) (s : σ),
    ((db.change c change record).run s).1 = .ok () → ∃ e rows statements,
      db.graph.find? record.typeName = some e ∧ db.graph.rows record = .ok rows ∧
      db.graph.Makes e rows cond change statements ∧
      (db.change c change record).run s = (c.runInTransaction statements).run s

/-- **The changes of one object address one object.**  A change that succeeds has inserted each row, updated in their
order the rows with a column beside the key, setting each such column once to its stored value, or removed each row from
the last to the first.  All updates and removals end in one text, the conjunction over the whole key in its order, whose
cells are the same in every row. -/
theorem changes_address_one_object (h : db.Mapped) (record : Record) : db.AddressesOneObject record := by
  have m := h.maps
  cases hrows : db.graph.rows record with
  | error fault =>
    refine ⟨[], fun c change s hok => ?_⟩
    obtain ⟨rows, statements, hr, -⟩ := change_eq_ok hok
    cases hrows.symm.trans hr
  | ok rows =>
    obtain ⟨e, hf, -, hof⟩ := m.rows_eq_ok hrows
    have he := (m.find?_eq_some_iff.1 hf).1
    obtain ⟨cond, hmakes⟩ := m.exists_makes he hof
    refine ⟨cond, fun c change s hok => ?_⟩
    obtain ⟨rows', statements, hr, hs, hrun⟩ := change_eq_ok hok
    cases hrows.symm.trans hr
    exact ⟨e, rows, statements, hf, hrows, hmakes change statements hs, hrun⟩

/-! ## A harbour

Berths have a key of two columns, and so have the berths for yachts below them, whose rows are in a table of their
own. -/

open FieldDescriptor in
/-- The entities of the harbour. -/
def harbourEntities : List EntityDescriptor := [
  { typeName := "Berth", table := some { name := some "berth" }, inheritance := some .joined,
    discriminatorColumn := some { name := "kind" }, discriminatorValue := some "berth",
    fields := [(plain "quay" .string).asId, (plain "number" .integer).asId, plain "depth" .short] },
  { typeName := "YachtBerth", ancestors := ["Berth"], table := some { name := some "yacht_berth" },
    discriminatorValue := some "yacht", fields := [plain "power" .boolean] }]

/-- The harbour as it is registered. -/
def harbourEntries : Except ConfigurationError Database := ofEntities { name := "harbour" } harbourEntities

theorem harbourEntries_isSome : harbourEntries.toOption.isSome = true := by decide +kernel

/-- The mapped database of the harbour. -/
def harbour : Database := (harbourEntries.toOption.get harbourEntries_isSome).map

theorem harbour_mapped : harbour.Mapped :=
  ⟨(reachable_ofEntities (Outcome.eq_ok_get harbourEntries_isSome)).map, by decide +kernel⟩

def harbourYacht : Record where
  typeName := "YachtBerth"
  values := [("quay", .text "O'Hara"), ("number", .integer 7), ("depth", .integer 3), ("power", .boolean true)]

/-- The berth is found in both tables by both columns of the key, in their order. -/
theorem changes_address_one_object_harbour : harbour.Mapped ∧ harbour.AddressesOneObject harbourYacht ∧
    ((harbour.change Recording.connection .update harbourYacht).run {}).2.log =
      ["BEGIN", "UPDATE \"berth\" SET \"depth\" = 3, \"kind\" = 'yacht' WHERE \"quay\" = 'O''Hara' AND \"number\" = 7",
        "UPDATE \"yacht_berth\" SET \"power\" = 1 WHERE \"quay\" = 'O''Hara' AND \"number\" = 7", "COMMIT"] ∧
    ((harbour.change Recording.connection .remove harbourYacht).run {}).2.log =
      ["BEGIN", "DELETE FROM \"yacht_berth\" WHERE \"quay\" = 'O''Hara' AND \"number\" = 7",
        "DELETE FROM \"berth\" WHERE \"quay\" = 'O''Hara' AND \"number\" = 7", "COMMIT"] :=
  ⟨harbour_mapped, changes_address_one_object harbour_mapped harbourYacht, by decide +kernel, by decide +kernel⟩

end Database
end Ormap
