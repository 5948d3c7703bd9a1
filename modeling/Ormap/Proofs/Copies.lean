import Ormap.Proofs.Discriminators
/-!
# Copies — what exactly a child takes over of its parent's columns

A child has a copy of each key column of its parent, and of every other column too where each class has a table of its
own (`Maps.inherited_eq`).  The base columns of an entity stand before its foreign keys, so that taking over first the
one and then the other keeps their order.
-/
namespace Ormap

namespace Resolution

variable {cfg : Config} {c : Catalog} {g : Graph} {d : EntityDescriptor} {up : List EntityDescriptor}
  {strategy : Strategy} {own : List Column} {e p : Entity}

theorem nullable_of_key (h : ownColumns c strategy d up = .ok own) {col : Column} (hc : col ∈ own)
    (hk : col.primaryKey = true) : col.nullable = false := by
  obtain ⟨plain, hp, hno, hyes⟩ := ownColumns_eq_ok h
  have hplain : ∀ x ∈ plain, x.primaryKey = true → x.nullable = false := by
    intro x hx hxk
    obtain ⟨f, -, type, isKey, column, -, -, rfl⟩ := of_mem_plainColumns hp hx
    cases (show isKey = true from hxk)
    exact Bool.and_false _
  cases ho : ownsDiscriminator c strategy d up with
  | false => exact hplain col (hno ho ▸ hc) hk
  | true =>
    obtain ⟨disc, -, -, hpl⟩ := hyes ho
    rcases placeDiscriminator_eq_ok hpl with ⟨rfl, -⟩ | ⟨x, -, -, -, -, rfl⟩
    · rcases List.mem_append.1 hc with hc | hc
      · exact hplain col hc hk
      · cases List.mem_singleton.1 hc
        rfl
    · obtain ⟨y, hy, rfl⟩ := List.mem_map.1 hc
      split at hk
      · rw [if_pos ‹_›]
        rfl
      · rw [if_neg ‹_›]
        exact hplain y hy hk

namespace Maps

variable (m : Maps cfg c g)
include m

theorem keyNames_root (he : e ∈ g.entities) :
    e.primaryKeys.map (·.name) = (g.root e).primaryKeys.map (·.name) := by
  induction e, he using m.induct with
  | root e he hp => rw [m.root_eq_self he hp]
  | child e he p _ hp ih => rw [m.keyNames_child he hp, ih, m.root_of_parent he hp]

/-- **No key column takes null, refers to another column or tells types apart.** -/
theorem key_is_plain (he : e ∈ g.entities) {col : Column} (hc : col ∈ e.primaryKeys) :
    col.nullable = false ∧ col.isForeignKey = false ∧ col.isDiscriminator = false := by
  obtain ⟨hc, hk⟩ := List.mem_filter.1 hc
  have hfk := m.isForeignKey_of_primaryKey he hc hk
  -- what a key column is, the own column that it is a copy of is too
  obtain ⟨x, hx, hxc⟩ := m.exists_own he col hc
  have hxm := m.mem_of_ancestry he hx
  obtain ⟨up, own, keys, -, ho, hkeys, hoc⟩ := m.ownColumns_eq hxm
  have hmem : col.original ∈ own := by
    rw [hoc] at hxc
    refine (List.mem_append.1 hxc).resolve_right fun hxk => ?_
    have := isForeignKey_of_mem_keys hkeys _ hxk
    rw [show col.original.isForeignKey = col.isForeignKey from rfl, hfk] at this
    cases this
  have hn : col.original.nullable = false := nullable_of_key ho hmem hk
  refine ⟨hn, hfk, Bool.eq_false_iff.2 fun hd => ?_⟩
  have hdisc : col.original ∈ x.ownColumns.filter (·.isDiscriminator) := List.mem_filter.2 ⟨hxc, hd⟩
  by_cases hown : g.OwnsDiscriminator x
  · obtain ⟨disc, col', -, hf, -, -, -, hk', -⟩ := m.discriminators_of_owner hxm hown
    rw [hf, List.mem_singleton] at hdisc
    rw [← hdisc] at hk'
    exact Bool.false_ne_true (hk'.symm.trans hk)
  · rw [m.discriminators_of_not_owner hxm hown] at hdisc
    cases hdisc

end Maps
end Resolution

namespace Database

/-- **Column inheritance is exact.**  Apart from being a copy, the inherited columns of a child are its parent's key
columns, or all of its parent's columns where each class has a table of its own, in their order; no two columns of an
entity have one name; and the keys of an entity have the names of its root's, at least one of them, all of them plain
columns that take no null. -/
theorem inherited_columns_exact {db : Database} (h : db.Mapped) :
    (∀ e ∈ db.graph.entities, ∀ p, db.graph.parent? e = some p →
      (e.columns.filter (·.inherited)).map Column.original =
        (if e.strategy = .tablePerClass then p.columns else p.primaryKeys).map Column.original) ∧
    (∀ e ∈ db.graph.entities, (e.columns.map (·.name)).Nodup) ∧
    ∀ e ∈ db.graph.entities, e.primaryKeys.map (·.name) = (db.graph.root e).primaryKeys.map (·.name) ∧
      e.primaryKeys ≠ [] ∧
      ∀ key ∈ e.primaryKeys, key.nullable = false ∧ key.isForeignKey = false ∧ key.isDiscriminator = false := by
  have m := h.maps
  refine ⟨fun e he p hp => ?_, fun e he => m.columns_nodup he,
    fun e he => ⟨m.keyNames_root he, m.primaryKeys_ne_nil he, fun key hk => m.key_is_plain he hk⟩⟩
  rw [m.inherited_eq he hp, List.map_map]
  rfl

/-- In the fleet, the van has the key of the car, and a garage, with a table of its own, every column of a place. -/
theorem inherited_columns_exact_fleet : fleet.Mapped ∧
    (∀ e ∈ fleet.graph.entities, ∀ p, fleet.graph.parent? e = some p →
      (e.columns.filter (·.inherited)).map Column.original =
        (if e.strategy = .tablePerClass then p.columns else p.primaryKeys).map Column.original) ∧
    (fleet.graph.entities.filter (·.parent.isSome)).map
        (fun e => (e.typeName, (e.columns.filter (·.inherited)).map (·.name))) =
      [("Car", ["id"]), ("Van", ["id"]), ("Driver", ["id"]), ("Boss", ["id"]), ("Garage", ["id", "open", "dtype"])] :=
  ⟨fleet_mapped, (inherited_columns_exact fleet_mapped).1, by decide +kernel⟩

end Database
end Ormap
