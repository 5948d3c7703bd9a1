import Ormap.Proofs.Inheritance
import Ormap.Proofs.Ways
import Ormap.Schema
/-!
# Tables — which entities have one, and which columns it stores

In a joined hierarchy every entity has a table, in a single-table hierarchy the root alone, otherwise every concrete
entity.  Where an entity has a table to live in, that table stores a column of every name that the entity has
(`Maps.name_stored`), and it stores no name twice.
-/
namespace Ormap
namespace Graph

variable {g : Graph} {e o : Entity}

theorem tableOf?_eq_some {table : String} :
    g.tableOf? e = some table ↔ ∃ o, g.tableOwner e = .ok o ∧ o.tableName = some table := by
  unfold tableOf?
  cases g.tableOwner e <;> simp

theorem name_mem_of_column_mem {stored : List StoredColumn} {col : Column} (h : col ∈ stored.map (·.column)) :
    col.name ∈ stored.map (·.column.name) := by
  obtain ⟨s, hs, rfl⟩ := List.mem_map.1 h
  exact List.mem_map.2 ⟨s, hs, rfl⟩

/-! ## Merging -/

/-- **Merged columns follow those that were there, and no name comes twice.** -/
theorem mergeColumns_eq_ok : ∀ {rest : List (Entity × Column)} {stored out : List StoredColumn},
    mergeColumns e stored rest = .ok out →
    out.map (·.column) = stored.map (·.column) ++ rest.map (·.2) ∧
      ((stored.map (·.column.name)).Nodup → (out.map (·.column.name)).Nodup)
  | [], stored, out, h => by
    cases h
    exact ⟨by simp, id⟩
  | (holder, c) :: rest, stored, out, h => by
    unfold mergeColumns at h
    split at h
    · cases h
    rename_i hf
    obtain ⟨hc, hn⟩ := mergeColumns_eq_ok h
    refine ⟨by rw [hc]; simp, fun hs => hn ?_⟩
    rw [List.map_append, List.nodup_append]
    refine ⟨hs, List.nodup_singleton _, fun a ha b hb => ?_⟩
    obtain ⟨s, hsm, rfl⟩ := List.mem_map.1 ha
    rw [List.map_singleton, List.mem_singleton] at hb
    have := List.find?_eq_none.1 hf s hsm
    rw [hb]
    simpa using this

/-- A merged column is optional. -/
theorem isOptional_of_mergeColumns : ∀ {rest : List (Entity × Column)} {stored out : List StoredColumn},
    mergeColumns e stored rest = .ok out → ∀ s ∈ out, s ∈ stored ∨ s.isOptional = true
  | [], stored, out, h, s, hs => by
    cases h
    exact Or.inl hs
  | (holder, c) :: rest, stored, out, h, s, hs => by
    unfold mergeColumns at h
    split at h
    · cases h
    rcases isOptional_of_mergeColumns h s hs with hm | hm
    · rcases List.mem_append.1 hm with hm | hm
      · exact Or.inl hm
      · cases List.mem_singleton.1 hm
        exact Or.inr rfl
    · exact Or.inr hm

/-- **A stored column is one of the table's own entity, or rows may leave it out.** -/
theorem mem_or_isOptional {stored : List StoredColumn} (h : g.tableColumns e = .ok stored) {s : StoredColumn}
    (hs : s ∈ stored) : s.column ∈ e.columns ∨ s.isOptional = true := by
  obtain ⟨below, -, h⟩ := Outcome.bind_eq_ok.1 h
  rcases isOptional_of_mergeColumns (Outcome.mapError_eq_ok.1 h) s hs with hm | hm
  · obtain ⟨col, hc, rfl⟩ := List.mem_map.1 hm
    exact Or.inl hc
  · exact Or.inr hm

theorem columnsBelow_eq_ok {below : List (Entity × Column)} (h : g.columnsBelow e = .ok below) :
    below = if e.strategy = .singleTable then (g.descendants e).flatMap fun d => d.ownColumns.map (d, ·) else [] := by
  unfold columnsBelow at h
  split
  · rename_i hs
    rw [if_pos hs] at h
    obtain ⟨ds, hds, h⟩ := Outcome.bind_eq_ok.1 h
    cases h
    rw [dive_eq_ok hds]
    rfl
  · rename_i hs
    rw [if_neg hs] at h
    cases h
    rfl

theorem tableColumns_eq_ok {stored : List StoredColumn} (h : g.tableColumns e = .ok stored) :
    stored.map (·.column) =
      e.columns ++ (if e.strategy = .singleTable then (g.descendants e).flatMap (·.ownColumns) else []) ∧
    ((e.columns.map (·.name)).Nodup → (stored.map (·.column.name)).Nodup) := by
  obtain ⟨below, hbelow, h⟩ := Outcome.bind_eq_ok.1 h
  obtain ⟨hc, hn⟩ := mergeColumns_eq_ok (Outcome.mapError_eq_ok.1 h)
  constructor
  · rw [hc, List.map_map, columnsBelow_eq_ok (Outcome.mapError_eq_ok.1 hbelow)]
    congr 1
    · exact List.map_id' _
    · split
      · rw [List.map_flatMap]
        simp [List.map_map, Function.comp_def]
      · rfl
  · intro he
    refine hn ?_
    rw [List.map_map]
    exact he

end Graph

namespace Resolution
namespace Maps

variable {cfg : Config} {c : Catalog} {g : Graph} {e o x : Entity} (m : Maps cfg c g)
include m

/-! ## Who has a table -/

/-- **Which entities have a table of their own.** -/
theorem tableName_isSome (he : e ∈ g.entities) : e.tableName.isSome = true ↔
    match e.strategy with
    | .joined => True
    | .singleTable => g.parent? e = none
    | .tablePerClass => e.isAbstract = false := by
  obtain rfl := m.graph_eq
  obtain ⟨d, up, o, base, cols, given, rfl, s⟩ := m.exists_settled he
  have ht := (outline_eq_ok.1 s.outline).2.1
  have hneeds : o.tableName.isSome = needsTable o.strategy d up := by
    unfold tableNameOf at ht
    split at ht
    · rename_i hn
      rw [hn]
      split at ht
      · rw [← Except.ok.inj ht]
        rfl
      · cases ht
    · rename_i hn
      rw [Bool.not_eq_true] at hn
      rw [hn, ← Except.ok.inj ht]
      rfl
  rw [s.entity_tableName, hneeds, s.entity_strategy]
  cases o.strategy with
  | joined => simp [needsTable]
  | singleTable => rw [s.parent_iff]; exact List.isEmpty_iff
  | tablePerClass => simp [needsTable, Entity.isAbstract]

theorem tableOwner_eq_ok (he : e ∈ g.entities) : g.tableOwner e = .ok o ↔
    o = (if e.strategy = .singleTable then g.root e else e) ∧ o.tableName.isSome = true := by
  have howner : (if e.strategy = .singleTable then g.requireRoot e else .ok e) =
      .ok (if e.strategy = .singleTable then g.root e else e) := by
    rw [m.requireRoot he]
    split <;> rfl
  unfold Graph.tableOwner
  rw [howner]
  generalize (if e.strategy = .singleTable then g.root e else e) = owner
  show (if owner.tableName.isSome then Except.ok owner else .error _) = _ ↔ _
  by_cases h : owner.tableName.isSome = true
  · rw [if_pos h, Except.ok.injEq]
    exact ⟨fun ho => ⟨ho.symm, ho ▸ h⟩, fun ho => ho.1.symm⟩
  · rw [if_neg h]
    constructor
    · intro ho
      cases ho
    · rintro ⟨rfl, ho⟩
      exact absurd ho h

theorem tableOwner_mem (he : e ∈ g.entities) (h : g.tableOwner e = .ok o) : o ∈ g.entities := by
  obtain ⟨rfl, -⟩ := (m.tableOwner_eq_ok he).1 h
  split
  · exact (m.root_mem he).1
  · exact he

/-! ## What a table stores -/

theorem mem_of_stored (ho : o ∈ g.entities) {stored : List StoredColumn} (hs : g.tableColumns o = .ok stored)
    {s : StoredColumn} (h : s ∈ stored) : ∃ x ∈ g.entities, s.column ∈ x.columns := by
  have hc : s.column ∈ stored.map (·.column) := List.mem_map_of_mem h
  rw [(Graph.tableColumns_eq_ok hs).1] at hc
  rcases List.mem_append.1 hc with hc | hc
  · exact ⟨o, ho, hc⟩
  · split at hc
    · obtain ⟨x, hx, hxc⟩ := List.mem_flatMap.1 hc
      exact ⟨x, m.mem_of_descendants ho hx, (List.mem_filter.1 hxc).1⟩
    · cases hc

theorem stored_nodup (ho : o ∈ g.entities) {stored : List StoredColumn} (hs : g.tableColumns o = .ok stored) :
    (stored.map (·.column.name)).Nodup := (Graph.tableColumns_eq_ok hs).2 (m.columns_nodup ho)

theorem eq_of_storedName {stored : List StoredColumn} {s s' : StoredColumn} (ho : o ∈ g.entities)
    (hst : g.tableColumns o = .ok stored) (hs : s ∈ stored) (hs' : s' ∈ stored) (h : s.column.name = s'.column.name) :
    s = s' :=
  List.inj_on_of_nodup_map (m.stored_nodup ho hst) hs hs' h

/-- In a single table the own columns of an entity are stored by the table of its root. -/
theorem ownColumns_stored (hx : x ∈ g.entities) (hxs : x.strategy = .singleTable) {stored : List StoredColumn}
    (hs : g.tableColumns (g.root x) = .ok stored) {col : Column} (hc : col ∈ x.ownColumns) :
    col ∈ stored.map (·.column) := by
  rw [(Graph.tableColumns_eq_ok hs).1, m.strategy_root hx, if_pos hxs, List.mem_append]
  cases hp : g.parent? x with
  | none =>
    rw [m.root_eq_self hx hp]
    exact Or.inl (List.mem_filter.1 hc).1
  | some p =>
    have hr := (m.root_mem hx).1
    refine Or.inr (List.mem_flatMap.2 ⟨x, ?_, hc⟩)
    exact (m.mem_descendants_iff hr hx).2 (m.root_mem_above hx hp)

/-- **The table that an entity lives in stores a column of every name that the entity has.** -/
theorem name_stored (hx : x ∈ g.entities) (ho : g.tableOwner x = .ok o) {stored : List StoredColumn}
    (hs : g.tableColumns o = .ok stored) {col : Column} (hc : col ∈ x.columns) :
    col.name ∈ stored.map (·.column.name) := by
  obtain ⟨rfl, -⟩ := (m.tableOwner_eq_ok hx).1 ho
  by_cases hsx : x.strategy = .singleTable
  · -- the column is an own column of an entity on the way from the root, or a copy of one
    rw [if_pos hsx] at hs
    obtain ⟨y, hy, hyc⟩ := m.exists_own hx col hc
    have hym := m.mem_of_ancestry hx hy
    rw [← m.root_of_ancestry hx y hy] at hs
    have hys := (m.strategy_of_ancestry hx y hy).trans hsx
    have hstored := Graph.name_mem_of_column_mem (m.ownColumns_stored hym hys hs hyc)
    rwa [Column.name_original] at hstored
  · rw [if_neg hsx] at hs
    refine Graph.name_mem_of_column_mem ?_
    rw [(Graph.tableColumns_eq_ok hs).1]
    exact List.mem_append_left _ hc

end Maps
end Resolution
end Ormap
