import Mathlib.Data.List.Chain
import Mathlib.Logic.Function.Iterate
import Ormap.Proofs.Lifecycle
/-!
# Navigation — the entities of a mapped database are a forest, and its ways agree

Parents are read from free lists of ancestors, children are gathered from all entities, and the walks follow one of the
two links each.  In a mapped database (`Database.IsForest`):
- the parent is the first registered ancestor, and following parents ends at a root;
- the children of an entity are the entities with it as parent, each once, in the order of registration;
- the way down to an entity starts at its root and goes from parent to child;
- the entities below an entity come once each, after their parents, and are those whose way down passes it;
- a hierarchy has the strategy of its root.
-/
namespace Ormap
namespace Catalog

variable {c : Catalog}

/-- A name finds what has it, so that the first ancestor found is the first that is registered. -/
theorem map_typeName_parent? (d : EntityDescriptor) :
    (c.parent? d).map (·.typeName) = d.ancestors.find? c.contains := by
  unfold parent?
  induction d.ancestors with
  | nil => rfl
  | cons name rest ih =>
    rw [List.findSome?_cons, List.find?_cons]
    unfold contains
    cases h : c.find? name with
    | none => exact ih
    | some p => exact congrArg some (find?_eq_some_iff.1 h).2

/-- **Children stand in the order of registration.** -/
theorem children_positions (p : EntityDescriptor) : ∃ ids : List Nat,
    (c.children p).map (c.index? ·.typeName) = ids.map some ∧ ids.Pairwise (· < ·) := by
  have hsub : ((c.entities.zipIdx.filter fun x => c.isChildOf x.1 p).map (·.2)).Sublist
      (List.range' 0 c.entities.length) := by
    rw [← List.zipIdx_map_snd 0 c.entities]
    exact List.filter_sublist.map _
  have hchildren : c.children p = (c.entities.zipIdx.filter fun x => c.isChildOf x.1 p).map (·.1) := by
    unfold children
    conv => lhs; rw [← List.zipIdx_map_fst 0 c.entities, List.filter_map]
    rfl
  refine ⟨_, ?_, (List.pairwise_lt_range' 1).sublist hsub⟩
  rw [hchildren, List.map_map, List.map_map]
  refine List.map_congr_left fun x hx => ?_
  exact index?_eq_some_iff.2 ⟨x.1, List.mem_zipIdx_iff_getElem?.1 (List.mem_filter.1 hx).1, rfl⟩

theorem nodup_children (p : EntityDescriptor) : (c.children p).Nodup := (c.distinct.of_map _).filter _

end Catalog

namespace Resolution
namespace Maps

variable {cfg : Config} {c : Catalog} {g : Graph} {e p x : Entity} (m : Maps cfg c g)
include m

/-! ## Parents and children -/

theorem parent_eq (he : e ∈ g.entities) : e.parent = e.descriptor.ancestors.find? c.contains ∧
    (g.parent? e).map (·.typeName) = e.parent := by
  obtain rfl := m.graph_eq
  obtain ⟨d, -, rfl⟩ := mem_graph.1 he
  refine ⟨Catalog.map_typeName_parent? d, ?_⟩
  rw [graph_parent?, Option.map_map]
  rfl

theorem children_typeName (hp : p ∈ g.entities) : p.children = (g.children p).map (·.typeName) := by
  obtain rfl := m.graph_eq
  obtain ⟨q, -, rfl⟩ := mem_graph.1 hp
  rw [graph_children, List.map_map]
  rfl

theorem children_positions (hp : p ∈ g.entities) : ∃ ids : List Nat,
    (g.children p).map (c.index? ·.typeName) = ids.map some ∧ ids.Pairwise (· < ·) := by
  obtain rfl := m.graph_eq
  obtain ⟨q, -, rfl⟩ := mem_graph.1 hp
  rw [graph_children, List.map_map]
  exact Catalog.children_positions q

/-! ## Upwards -/

theorem depth_root (he : e ∈ g.entities) (h : g.parent? e = none) : g.depth e = 0 := by
  unfold Graph.depth
  rw [m.above_root he h]
  rfl

/-- **Following parents as often as an entity is deep leads to its root.** -/
theorem iterate_parent? (he : e ∈ g.entities) :
    (Option.bind · g.parent?)^[g.depth e] (some e) = some (g.root e) := by
  induction e, he using m.induct with
  | root e he hp =>
    rw [m.depth_root he hp, m.root_eq_self he hp]
    rfl
  | child e he p _ hp ih =>
    rw [m.depth_child he hp, Function.iterate_succ_apply, Option.bind_some, hp, ih, m.root_of_parent he hp]

theorem isChain_ancestry (he : e ∈ g.entities) : (g.ancestry e).IsChain fun a b => g.parent? b = some a := by
  induction e, he using m.induct with
  | root e he hp =>
    rw [m.ancestry_root he hp]
    exact List.isChain_singleton e
  | child e he p _ hp ih =>
    rw [m.ancestry_child he hp, List.isChain_append]
    refine ⟨ih, List.isChain_singleton e, fun a ha b hb => ?_⟩
    rw [Graph.getLast?_ancestry] at ha
    cases ha
    cases hb
    exact hp

/-- No walk up comes back to where it started. -/
theorem not_mem_above (he : e ∈ g.entities) : e ∉ g.above e := by
  obtain rfl := m.graph_eq
  obtain ⟨d, up, _, _, _, _, rfl, s⟩ := m.exists_settled he
  rw [graph_above s.above, mem_map_entity]
  exact Forest.not_mem_ascend (Catalog.above_eq_ok.1 s.above)

theorem nodup_ancestry (he : e ∈ g.entities) : (g.ancestry e).Nodup := by
  induction e, he using m.induct with
  | root e he hp =>
    rw [m.ancestry_root he hp]
    exact List.nodup_singleton _
  | child e he p hpm hp ih =>
    rw [m.ancestry_child he hp, List.nodup_append]
    refine ⟨ih, List.nodup_singleton _, fun x hx y hy hxy => ?_⟩
    rw [List.mem_singleton] at hy
    refine m.not_mem_above he ?_
    rw [m.above_child he hp]
    subst hxy hy
    exact List.mem_cons.2 (Graph.mem_ancestry.1 hx).symm

theorem mem_above_iff (hx : x ∈ g.entities) : p ∈ g.above x ↔ x ≠ p ∧ p ∈ g.ancestry x := by
  rw [Graph.mem_ancestry]
  constructor
  · intro h
    exact ⟨fun hxp => m.not_mem_above hx (hxp ▸ h), Or.inl h⟩
  · rintro ⟨hne, h | h⟩
    · exact h
    · exact absurd h.symm hne

/-! ## Downwards -/

theorem nodup_descendants (hp : p ∈ g.entities) : (g.descendants p).Nodup := by
  obtain rfl := m.graph_eq
  obtain ⟨q, hq, rfl⟩ := mem_graph.1 hp
  rw [graph_descendants]
  refine (Forest.nodup_descend (fun _ (ha : _ ∈ c.entities) _ => Catalog.mem_children ha)
    (fun a _ => Catalog.nodup_children a) (fun a ha => ?_) hq).map fun _ _ => entity_inj
  obtain ⟨up, _, _, _, _, s⟩ := m.settled ha
  exact ⟨_, up, Catalog.above_eq_ok.1 s.above⟩

/-- **Each entity below another comes after its own parent**, or is a child of the other. -/
theorem parent_before (hp : p ∈ g.entities) {pre post : List Entity} (h : g.descendants p = pre ++ x :: post) :
    ∃ q, g.parent? x = some q ∧ (q = p ∨ q ∈ pre) := by
  obtain rfl := m.graph_eq
  obtain ⟨a, ha, rfl⟩ := mem_graph.1 hp
  rw [graph_descendants] at h
  obtain ⟨preD, restD, hsplit, rfl, hrest⟩ := List.map_eq_append_iff.1 h
  obtain ⟨d, postD, rfl, rfl, rfl⟩ := List.map_eq_cons_iff.1 hrest
  obtain ⟨q, hq, hpre⟩ := Forest.parent_before_of_descend
    (fun _ (ha : _ ∈ c.entities) _ => Catalog.mem_children ha) ha hsplit
  refine ⟨entity cfg c q, by rw [graph_parent?, hq]; rfl, hpre.imp (fun hqa => by rw [hqa]) fun hq => ?_⟩
  exact mem_map_entity.2 hq

/-! ## Strategies -/

theorem strategy_declared (he : e ∈ g.entities) :
    e.strategy = (g.root e).descriptor.inheritance.getD cfg.defaultInheritance := by
  obtain rfl := m.graph_eq
  obtain ⟨d, up, o, base, cols, given, rfl, s⟩ := m.exists_settled he
  have hroot : (graph cfg c).root (entity cfg c d) = entity cfg c (rootOf d up) := by
    unfold Graph.root rootOf
    rw [graph_above s.above, List.getLast?_map]
    cases up.getLast? <;> rfl
  rw [s.entity_strategy, s.strategy_eq, hroot]
  rfl

end Maps
end Resolution

namespace Database

/-- Whether the entities of a database form a forest, with ways up and down that agree. -/
structure IsForest (db : Database) : Prop where
  /-- The parent is the first of the ancestors that is registered. -/
  parent_eq : ∀ e ∈ db.graph.entities, e.parent = e.descriptor.ancestors.find? db.catalog.contains ∧
    (db.graph.parent? e).map (·.typeName) = e.parent
  /-- Following parents leads to a root. -/
  reaches_root : ∀ e ∈ db.graph.entities, ∃ n, (Option.bind · db.graph.parent?)^[n] (some e) = some (db.graph.root e) ∧
    db.graph.parent? (db.graph.root e) = none
  /-- The children are the entities with this one as parent. -/
  mem_children : ∀ p ∈ db.graph.entities, p.children = (db.graph.children p).map (·.typeName) ∧
    ∀ e, e ∈ db.graph.children p ↔ e ∈ db.graph.entities ∧ db.graph.parent? e = some p
  /-- Their positions in the registry increase. -/
  children_increase : ∀ p ∈ db.graph.entities, ∃ ids : List Nat,
    (db.graph.children p).map (db.index? ·.typeName) = ids.map some ∧ ids.Pairwise (· < ·)
  /-- The way down to an entity starts at its root, goes from parent to child and ends at the entity. -/
  ancestry : ∀ e ∈ db.graph.entities, (db.graph.ancestry e).head? = some (db.graph.root e) ∧
    (db.graph.ancestry e).getLast? = some e ∧ ((db.graph.ancestry e).IsChain fun a b => db.graph.parent? b = some a) ∧
    (db.graph.ancestry e).length = db.graph.depth e + 1
  /-- The entities below one come once each, and after their parents. -/
  descendants : ∀ p ∈ db.graph.entities, (db.graph.descendants p).Nodup ∧
    ∀ pre x post, db.graph.descendants p = pre ++ x :: post →
      ∃ q, db.graph.parent? x = some q ∧ (q = p ∨ q ∈ pre)
  /-- They are those whose way down passes it. -/
  mem_descendants : ∀ p ∈ db.graph.entities, ∀ e ∈ db.graph.entities,
    e ∈ db.graph.descendants p ↔ e ≠ p ∧ p ∈ db.graph.ancestry e
  /-- A hierarchy has the strategy that its root declares, or the default. -/
  strategy_eq : ∀ e ∈ db.graph.entities, e.strategy = (db.graph.root e).strategy ∧
    e.strategy = (db.graph.root e).descriptor.inheritance.getD db.config.defaultInheritance

/-- **The entities of a mapped database form a forest, and all ways through it agree.** -/
theorem entities_form_forest {db : Database} (h : db.Mapped) : db.IsForest := by
  have m := h.maps
  constructor
  case parent_eq => exact fun e he => m.parent_eq he
  case reaches_root => exact fun e he => ⟨_, m.iterate_parent? he, (m.root_mem he).2⟩
  case mem_children => exact fun p hp => ⟨m.children_typeName hp, fun e => m.mem_children hp⟩
  case children_increase => exact fun p hp => m.children_positions hp
  case ancestry =>
    intro e he
    obtain ⟨rest, hrest⟩ := m.ancestry_eq_cons he
    exact ⟨by rw [hrest]; rfl, Graph.getLast?_ancestry _ e, m.isChain_ancestry he, Graph.length_ancestry _ e⟩
  case descendants => exact fun p hp => ⟨m.nodup_descendants hp, fun pre x post => m.parent_before hp⟩
  case mem_descendants =>
    intro p hp e he
    rw [m.mem_descendants_iff hp he, m.mem_above_iff he]
  case strategy_eq => exact fun e he => ⟨(m.strategy_root he).symm, m.strategy_declared he⟩

/-- In the fleet: the van is below the car and the car below the vehicle, and both are found below the vehicle in this
order. -/
theorem entities_form_forest_fleet : fleet.Mapped ∧ fleet.IsForest ∧
    fleet.graph.entities.map (fun e => (fleet.graph.descendants e).map (·.typeName)) =
      [["Car", "Van"], ["Van"], [], ["Driver", "Boss"], ["Boss"], [], ["Garage"], []] :=
  ⟨fleet_mapped, entities_form_forest fleet_mapped, by decide +kernel⟩

end Database
end Ormap
