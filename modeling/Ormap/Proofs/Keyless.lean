import Ormap.Proofs.Addressing
/-!
# Keyless objects — what is refused when a key column has no value

Updates and removals find a row by its key, so that an object without a key value has no statement that finds a row
(`Maps.not_findsRows`).  A removal needs such a statement and is refused.  An update needs one for each row with a column
beside the key; there is always such a row, unless the entity is the only one of its hierarchy and all its columns are
those of the key (`Maps.bareKey_iff`).  Then an update has nothing to set, looks at no key and succeeds.
-/
namespace Ormap
namespace Graph

/-- Whether an object of `e` has no value for some key column of its hierarchy. -/
def LacksKey (g : Graph) (record : Record) (e : Entity) : Prop :=
  ∃ key ∈ (g.root e).primaryKeys, record.valueOf key = .null

instance (g : Graph) (record : Record) (e : Entity) : Decidable (g.LacksKey record e) :=
  inferInstanceAs (Decidable (∃ key ∈ _, _))

/-- Whether an entity has no parent and no column beside those of its key; it then has no children either. -/
def IsBareKey (g : Graph) (e : Entity) : Prop := g.parent? e = none ∧ ∀ col ∈ e.columns, col.primaryKey = true

end Graph

namespace Resolution
namespace Maps

variable {cfg : Config} {c : Catalog} {g : Graph} {e p x : Entity} {record : Record} {rows : List TableRow}
  {row : TableRow} {cond : List Equation} {col : Column} (m : Maps cfg c g)
include m

/-- **No condition finds the rows of an object without a key value.** -/
theorem not_findsRows (he : e ∈ g.entities) (h : g.rowsOf record e = .ok rows) (hlack : g.LacksKey record e) :
    ¬ g.FindsRows e rows cond := by
  rintro ⟨hcolumns, hcompares⟩
  obtain ⟨key, hk, hnull⟩ := hlack
  obtain ⟨w, hw, hcells⟩ := m.key_cells he h hk
  rw [hnull] at hw
  have hstored : w = .null := by
    unfold Attribute.store at hw
    exact (Except.ok.inj hw).symm
  have hmem : key.name ∈ cond.map (·.column) := by
    rw [hcolumns]
    exact List.mem_map_of_mem hk
  obtain ⟨q, hq, hname⟩ := List.mem_map.1 hmem
  obtain ⟨v, hn, -, hrows⟩ := hcompares q hq
  obtain ⟨row, hr⟩ := m.exists_mem_rowsOf he h
  have hget := hrows row hr
  rw [hname, hcells row hr] at hget
  exact hn (Option.some.inj hget ▸ hstored)

/-! ## Columns beside the key -/

theorem name_mem_keysOf (he : e ∈ g.entities) (hc : col ∈ e.columns) :
    col.name ∈ g.keysOf e ↔ col.primaryKey = true := by
  unfold Graph.keysOf
  rw [← m.keyNames_root he]
  constructor
  · intro hmem
    obtain ⟨key, hk, hname⟩ := List.mem_map.1 hmem
    obtain ⟨hkc, hkk⟩ := List.mem_filter.1 hk
    have hsame : key = col := m.eq_of_columnName he hkc hc hname
    exact hsame ▸ hkk
  · exact fun hk => List.mem_map_of_mem (List.mem_filter.2 ⟨hc, hk⟩)

theorem exists_row_column (he : e ∈ g.entities) (h : g.rowsOf record e = .ok rows) (hx : x ∈ g.ancestry e)
    (hc : col ∈ x.columns) : ∃ row ∈ rows, col.name ∈ row.columns := by
  obtain ⟨p, hp, -, -, hcopies⟩ := m.exists_place he hx
  obtain ⟨row, hr, hrow⟩ := Outcome.exists_of_mem_left (m.rowsOf_places he h) p hp
  obtain ⟨copy, hcopy, horig⟩ := hcopies col hc
  have hname : copy.name = col.name := (congrArg Column.name horig :)
  exact ⟨row, hr, ((Graph.columns_of_rowOf hrow).1 _).2 (hname ▸ List.mem_map_of_mem hcopy)⟩

theorem places_root (he : e ∈ g.entities) (h : g.parent? e = none) : g.places e = [⟨e, 0, e.columns⟩] := by
  unfold Graph.places
  rw [m.ancestry_root he h, m.root_eq_self he h]
  cases e.strategy with
  | joined => rfl
  | singleTable =>
    show [(⟨e, 0, e.columns ++ []⟩ : Graph.Place)] = _
    rw [List.append_nil]
  | tablePerClass => rfl

/-- Below a root some row has the column that tells the entities apart. -/
theorem parent?_of_no_beside (he : e ∈ g.entities) (h : g.rowsOf record e = .ok rows)
    (hkeys : ∀ row ∈ rows, ∀ n ∈ row.columns, n ∈ g.keysOf e) : g.parent? e = none := by
  cases hp : g.parent? e with
  | none => rfl
  | some p =>
    have hroot := m.root_mem_ancestry he
    have hrm := (m.root_mem he).1
    have howns : g.OwnsDiscriminator (g.root e) := by
      rw [m.root_of_parent he hp]
      have hpm := m.mem_of_parent? hp
      exact m.root_owns hpm ((m.hasChildren_iff hpm).2 ⟨e, he, hp⟩)
    obtain ⟨disc, col, -, hf, -, -, -, hk, -⟩ := m.discriminators_of_owner hrm howns
    have hcol : col ∈ (g.root e).columns := by
      have hmem : col ∈ (g.root e).ownColumns.filter (·.isDiscriminator) := by rw [hf]; exact List.mem_cons_self
      exact (List.mem_filter.1 (List.mem_filter.1 hmem).1).1
    obtain ⟨row, hr, hname⟩ := m.exists_row_column he h hroot hcol
    have hkey : col.name ∈ g.keysOf (g.root e) := by
      unfold Graph.keysOf
      rw [m.root_of_ancestry he _ hroot]
      exact hkeys row hr _ hname
    exact absurd ((m.name_mem_keysOf hrm hcol).1 hkey) (by rw [hk]; decide)

/-- **An object has no column beside its key exactly when its entity stands alone with it.** -/
theorem bareKey_iff (he : e ∈ g.entities) (h : g.rowsOf record e = .ok rows) :
    rows.filter (·.hasBeside (g.keysOf e)) = [] ↔ g.IsBareKey e := by
  have hnone : rows.filter (·.hasBeside (g.keysOf e)) = [] ↔ ∀ row ∈ rows, ∀ n ∈ row.columns, n ∈ g.keysOf e := by
    rw [List.filter_eq_nil_iff]
    simp [TableRow.hasBeside]
  rw [hnone]
  constructor
  · intro hkeys
    refine ⟨m.parent?_of_no_beside he h hkeys, fun col hc => ?_⟩
    obtain ⟨row, hr, hname⟩ := m.exists_row_column he h (g.self_mem_ancestry e) hc
    exact (m.name_mem_keysOf he hc).1 (hkeys row hr _ hname)
  · rintro ⟨hp, hall⟩ row hr n hn
    obtain ⟨q, hq, hrow⟩ := Outcome.exists_of_mem_right (m.rowsOf_places he h) row hr
    rw [m.places_root he hp, List.mem_singleton] at hq
    subst hq
    obtain ⟨col, hc, rfl⟩ := List.mem_map.1 (((Graph.columns_of_rowOf hrow).1 n).1 hn)
    exact (m.name_mem_keysOf he hc).2 (hall col hc)

theorem updateOf_of_not_beside (he : e ∈ g.entities) (h : g.rowsOf record e = .ok rows) (hr : row ∈ rows)
    (hbeside : ¬ row.hasBeside (g.keysOf e) = true) : g.updateOf row = .ok none := by
  have hcells : row.cellsBeside (g.keysOf e) = [] := by
    rw [TableRow.hasBeside_eq, ← TableRow.names_cellsBeside] at hbeside
    exact List.map_eq_nil_iff.1 (show Cells.names _ = [] by simpa using hbeside)
  unfold Graph.updateOf
  rw [m.keyNames_eq he h hr]
  show (((row.cellsBeside (g.keysOf e)).mapM TableRow.equation).mapError Error.marshalling >>= _) = _
  rw [hcells]
  rfl

theorem statementsOf_update_bare (he : e ∈ g.entities) (h : g.rowsOf record e = .ok rows) (hbare : g.IsBareKey e) :
    g.statementsOf rows .update = .ok [] := by
  have hbeside := List.filter_eq_nil_iff.1 ((m.bareKey_iff he h).2 hbare)
  have hall : List.Forall₂ (fun row u => g.updateOf row = .ok u) rows (rows.map fun _ => none) :=
    List.forall₂_map_right_iff.2 (List.forall₂_same.2 fun row hr => m.updateOf_of_not_beside he h hr (hbeside row hr))
  show (rows.mapM g.updateOf >>= _) = _
  rw [Outcome.mapM_eq_ok.2 hall]
  show Except.ok (((rows.map fun _ => (none : Option Update)).filterMap id).map (·.render)) = _
  rw [List.filterMap_map]
  simp

end Maps
end Resolution

namespace Database

variable {db : Database} {record : Record} {e : Entity}

/-- Whether a change is refused by every connection in every state, which it leaves as it is. -/
def Refuses (db : Database) (change : Change) (record : Record) : Prop :=
  ∀ {σ : Type} (c : Connection σ) (s : σ), ∃ fault, (db.change c change record).run s = (.error fault, s)

theorem refuses_of_statements {change : Change}
    (h : ∀ rows, db.graph.rows record = .ok rows → ∀ statements, db.graph.statementsOf rows change ≠ .ok statements) :
    db.Refuses change record := by
  intro σ c s
  rcases run_change c change s with hrefused | ⟨rows, statements, hrows, hof, -⟩
  · exact hrefused
  · exact absurd hof (h rows hrows statements)

/-- The update of an object with no column beside its key is an empty transaction. -/
theorem run_update_bare (h : db.Mapped) (hf : db.graph.find? record.typeName = some e) (hbare : db.graph.IsBareKey e)
    {rows : List TableRow} (hrows : db.graph.rows record = .ok rows) {σ : Type} (c : Connection σ) (s : σ) :
    (db.change c .update record).run s = (c.runInTransaction []).run s := by
  have m := h.maps
  have hstatements : (do db.requireMapped; db.graph.statements .update record : Except Error (List String)) =
      .ok [] := by
    unfold Graph.statements
    rw [h.outcome, hrows]
    exact m.statementsOf_update_bare (m.find?_eq_some_iff.1 hf).1 (m.rowsOf_of_rows hf hrows) hbare
  rw [change_eq, hstatements]
  rfl

/-- **Which changes of an object without a key value are refused.**  A removal is, by every connection in every state,
which it leaves as it is.  An update is too, unless the object has rows but its entity stands alone and has no column
beside its key; then it is an empty transaction. -/
theorem keyless_change_refused_iff (h : db.Mapped) (hf : db.graph.find? record.typeName = some e)
    (hlack : db.graph.LacksKey record e) :
    db.Refuses .remove record ∧
    (db.Refuses .update record ↔ ¬ (db.graph.IsBareKey e ∧ ∃ rows, db.graph.rows record = .ok rows)) ∧
    (db.graph.IsBareKey e → (∃ rows, db.graph.rows record = .ok rows) → ∀ {σ : Type} (c : Connection σ) (s : σ),
      (db.change c .update record).run s = (c.runInTransaction []).run s) := by
  have m := h.maps
  have he := (m.find?_eq_some_iff.1 hf).1
  refine ⟨refuses_of_statements fun rows hrows statements hs => ?_, ⟨?_, fun hbare => ?_⟩, ?_⟩
  · have hof := m.rowsOf_of_rows hf hrows
    obtain ⟨cond, hmakes⟩ := m.exists_makes he hof
    exact m.not_findsRows he hof hlack (hmakes .remove statements hs).1
  · rintro hrefuses ⟨hbare, rows, hrows⟩
    -- a recording takes the empty transaction
    obtain ⟨fault, hrun⟩ := hrefuses Recording.connection {}
    rw [run_update_bare h hf hbare hrows, Recording.run_runInTransaction_accepted rfl (by simp)] at hrun
    cases congrArg Prod.fst hrun
  · refine refuses_of_statements fun rows hrows statements hs => hbare ⟨?_, rows, hrows⟩
    have hof := m.rowsOf_of_rows hf hrows
    obtain ⟨cond, hmakes⟩ := m.exists_makes he hof
    obtain ⟨us, hall, hfinds, -⟩ := hmakes .update statements hs
    have hus : us = [] := hfinds.resolve_right (m.not_findsRows he hof hlack)
    rw [hus, List.forall₂_nil_right_iff] at hall
    exact (m.bareKey_iff he hof).1 hall
  · rintro hbare ⟨rows, hrows⟩ σ c s
    exact run_update_bare h hf hbare hrows c s

def fleetUnnumbered : Record where
  typeName := "Car"
  values := [("name", .text "A"), ("doors", .integer 3)]

/-- A car without an identifier can neither be removed nor updated. -/
theorem keyless_change_refused_iff_fleet : ∃ e, fleet.Mapped ∧
    fleet.graph.find? fleetUnnumbered.typeName = some e ∧ fleet.graph.LacksKey fleetUnnumbered e ∧
    fleet.Refuses .remove fleetUnnumbered ∧ fleet.Refuses .update fleetUnnumbered := by
  have hcar : (fleet.graph.find? fleetUnnumbered.typeName).any (fun e =>
      decide (fleet.graph.LacksKey fleetUnnumbered e) && (fleet.graph.parent? e).isSome) = true := by decide +kernel
  cases hf : fleet.graph.find? fleetUnnumbered.typeName with
  | none =>
    rw [hf] at hcar
    cases hcar
  | some e =>
    rw [hf, Option.any_some, Bool.and_eq_true, decide_eq_true_eq] at hcar
    obtain ⟨hlack, hparent⟩ := hcar
    obtain ⟨hremove, hupdate, -⟩ := keyless_change_refused_iff fleet_mapped hf hlack
    refine ⟨e, fleet_mapped, rfl, hlack, hremove, hupdate.2 ?_⟩
    rintro ⟨⟨hroot, -⟩, -⟩
    rw [hroot] at hparent
    cases hparent

/-! ## Tags

They have an identifier and nothing else. -/

open FieldDescriptor in
def tagsEntries : Except ConfigurationError Database := ofEntities { name := "tags" } [
  { typeName := "Tag", table := some {}, fields := [(plain "id" .long).asId] }]

theorem tagsEntries_isSome : tagsEntries.toOption.isSome = true := by decide +kernel

def tags : Database := (tagsEntries.toOption.get tagsEntries_isSome).map

theorem tags_mapped : tags.Mapped :=
  ⟨(reachable_ofEntities (Outcome.eq_ok_get tagsEntries_isSome)).map, by decide +kernel⟩

/-- The update of a tag without an identifier succeeds, and its empty transaction is recorded. -/
theorem keyless_tag_updated : tags.Mapped ∧
    (∃ e, tags.graph.find? "Tag" = some e ∧ tags.graph.LacksKey { typeName := "Tag" } e) ∧
    ((tags.change Recording.connection .update { typeName := "Tag" }).run {}).1 = .ok () ∧
    ((tags.change Recording.connection .update { typeName := "Tag" }).run {}).2.log = ["BEGIN", "COMMIT"] := by
  have htag : (tags.graph.find? "Tag").any (fun e => decide (tags.graph.LacksKey { typeName := "Tag" } e)) = true := by
    decide +kernel
  refine ⟨tags_mapped, ?_, by decide +kernel, by decide +kernel⟩
  obtain ⟨e, he, hlack⟩ := (Option.any_eq_true _ _).1 htag
  exact ⟨e, he, of_decide_eq_true hlack⟩

end Database
end Ormap
