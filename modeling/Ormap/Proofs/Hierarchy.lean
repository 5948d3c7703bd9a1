import Ormap.Proofs.Resolution
/-!
# Hierarchies — the entities of a mapped graph as a forest

In a mapped graph every walk up ends at a root, so that a fact about all entities can be proved from the roots down
(`Maps.induct`).  Parents and children are the same links seen from both ends, the entities below an entity are those
that have it above them, and a hierarchy has one strategy.
-/
namespace Ormap

theorem Graph.mem_ancestry {g : Graph} {e x : Entity} : x ∈ g.ancestry e ↔ x ∈ g.above e ∨ x = e := by
  unfold Graph.ancestry
  simp

theorem Graph.self_mem_ancestry (g : Graph) (e : Entity) : e ∈ g.ancestry e := Graph.mem_ancestry.2 (Or.inr rfl)

theorem Graph.getLast?_ancestry (g : Graph) (e : Entity) : (g.ancestry e).getLast? = some e := by
  unfold Graph.ancestry
  rw [List.getLast?_append]
  rfl

/-- The way to an entity ends there, so that equal ways have equal ends. -/
theorem Graph.eq_of_ancestry {g : Graph} {e x : Entity} (h : g.ancestry e = g.ancestry x) : e = x := by
  have hlast := congrArg List.getLast? h
  rw [Graph.getLast?_ancestry, Graph.getLast?_ancestry] at hlast
  exact Option.some.inj hlast

theorem Graph.length_ancestry (g : Graph) (e : Entity) : (g.ancestry e).length = g.depth e + 1 := by
  unfold Graph.ancestry Graph.depth
  simp

/-- An entity stands on a way at its depth. -/
theorem Graph.getElem?_ancestry {g : Graph} {e x : Entity} {post : List Entity} (h : g.ancestry e = g.ancestry x ++ post) :
    (g.ancestry e)[g.depth x]? = some x := by
  rw [h, Graph.ancestry, List.append_assoc, Graph.depth, ← List.length_reverse]
  simp

namespace Resolution

variable {cfg : Config} {c : Catalog} {g : Graph} {e p x : Entity}

@[simp] theorem entity_typeName (d : EntityDescriptor) : (entity cfg c d).typeName = d.typeName := rfl

@[simp] theorem entity_descriptor (d : EntityDescriptor) : (entity cfg c d).descriptor = d := rfl

theorem entity_inj {d d' : EntityDescriptor} (h : entity cfg c d = entity cfg c d') : d = d' :=
  congrArg Entity.descriptor h

theorem mem_map_entity {d : EntityDescriptor} {l : List EntityDescriptor} :
    entity cfg c d ∈ l.map (entity cfg c) ↔ d ∈ l := by
  rw [List.mem_map]
  exact ⟨fun ⟨_, hx, h⟩ => entity_inj h ▸ hx, fun h => ⟨d, h, rfl⟩⟩

namespace Maps

variable (m : Maps cfg c g)
include m

/-- Every entity of a mapped graph comes from a descriptor that has settled. -/
theorem exists_settled (he : e ∈ g.entities) : ∃ d up o base cols given,
    e = entity cfg c d ∧ Settled cfg c d up o base cols given := by
  obtain rfl := m.graph_eq
  obtain ⟨d, hd, rfl⟩ := mem_graph.1 he
  obtain ⟨up, o, base, cols, given, s⟩ := m.settled hd
  exact ⟨d, up, o, base, cols, given, rfl, s⟩

/-! ## Names -/

theorem distinct : (g.entities.map (·.typeName)).Nodup := by
  obtain rfl := m.graph_eq
  show ((c.entities.map (entity cfg c)).map (·.typeName)).Nodup
  rw [List.map_map]
  exact c.distinct

theorem find?_eq_some_iff {name : String} : g.find? name = some e ↔ e ∈ g.entities ∧ e.typeName = name :=
  find?_key_eq_some_iff m.distinct

theorem find?_typeName (he : e ∈ g.entities) : g.find? e.typeName = some e := m.find?_eq_some_iff.2 ⟨he, rfl⟩

theorem eq_of_typeName (he : e ∈ g.entities) (hx : x ∈ g.entities) (h : e.typeName = x.typeName) : e = x :=
  List.inj_on_of_nodup_map m.distinct he hx h

/-! ## Parents and children -/

theorem mem_of_parent? (h : g.parent? e = some p) : p ∈ g.entities := by
  obtain ⟨name, -, hn⟩ := Option.bind_eq_some_iff.1 h
  exact (m.find?_eq_some_iff.1 hn).1

theorem mem_children (hp : p ∈ g.entities) : e ∈ g.children p ↔ e ∈ g.entities ∧ g.parent? e = some p := by
  obtain rfl := m.graph_eq
  obtain ⟨q, hq, rfl⟩ := mem_graph.1 hp
  rw [graph_children, List.mem_map, mem_graph]
  constructor
  · rintro ⟨d, hd, rfl⟩
    obtain ⟨hd, hpd⟩ := (Catalog.mem_children hq).1 hd
    exact ⟨⟨d, hd, rfl⟩, by rw [graph_parent?, hpd]; rfl⟩
  · rintro ⟨⟨d, hd, rfl⟩, h⟩
    rw [graph_parent?, Option.map_eq_some_iff] at h
    obtain ⟨q', hq', h⟩ := h
    cases entity_inj h
    exact ⟨d, (Catalog.mem_children hq).2 ⟨hd, hq'⟩, rfl⟩

theorem hasChildren_iff (hp : p ∈ g.entities) : p.hasChildren = true ↔ ∃ e ∈ g.entities, g.parent? e = some p := by
  have h : p.hasChildren = true ↔ ∃ e, e ∈ g.children p := by
    obtain rfl := m.graph_eq
    obtain ⟨q, -, rfl⟩ := mem_graph.1 hp
    rw [graph_children]
    show (!((c.children q).map (·.typeName)).isEmpty) = true ↔ _
    cases c.children q with
    | nil => simp
    | cons d l => simp
  rw [h]
  exact exists_congr fun e => m.mem_children hp

/-! ## The entities above -/

theorem above_root (he : e ∈ g.entities) (h : g.parent? e = none) : g.above e = [] := by
  obtain rfl := m.graph_eq
  obtain ⟨d, up, _, _, _, _, rfl, s⟩ := m.exists_settled he
  rw [graph_parent?, Option.map_eq_none_iff] at h
  rw [graph_above s.above]
  cases up with
  | nil => rfl
  | cons p up => rw [(Catalog.above_cons s.above).1] at h; cases h

theorem above_child (he : e ∈ g.entities) (h : g.parent? e = some p) : g.above e = p :: g.above p := by
  obtain rfl := m.graph_eq
  obtain ⟨d, up, _, _, _, _, rfl, s⟩ := m.exists_settled he
  rw [graph_parent?, Option.map_eq_some_iff] at h
  obtain ⟨q, hq, rfl⟩ := h
  cases up with
  | nil => rw [Catalog.above_nil s.above] at hq; cases hq
  | cons p up =>
    obtain ⟨hp, hup⟩ := Catalog.above_cons s.above
    cases hp.symm.trans hq
    rw [graph_above s.above, graph_above hup]
    rfl

/-- **What holds of roots, and of every entity whose parent it holds of, holds of all entities.** -/
theorem induct {motive : ∀ e, e ∈ g.entities → Prop}
    (root : ∀ e (he : e ∈ g.entities), g.parent? e = none → motive e he)
    (child : ∀ e (he : e ∈ g.entities) p (hp : p ∈ g.entities), g.parent? e = some p → motive p hp → motive e he)
    (e : Entity) (he : e ∈ g.entities) : motive e he := by
  -- on the length of the walk up, which the walk up from the parent has one less of
  have h : ∀ n e (he : e ∈ g.entities), (g.above e).length = n → motive e he := by
    intro n
    induction n with
    | zero =>
      intro e he hn
      cases hp : g.parent? e with
      | none => exact root e he hp
      | some p => rw [m.above_child he hp] at hn; cases hn
    | succ n ih =>
      intro e he hn
      cases hp : g.parent? e with
      | none => exact root e he hp
      | some p =>
        rw [m.above_child he hp] at hn
        have hpm := m.mem_of_parent? hp
        exact child e he p hpm hp (ih p hpm (Nat.succ.inj hn))
  exact h _ e he rfl

theorem mem_of_above (he : e ∈ g.entities) : ∀ x ∈ g.above e, x ∈ g.entities := by
  induction e, he using m.induct with
  | root e he hp =>
    intro x hx
    rw [m.above_root he hp] at hx
    cases hx
  | child e he p hpm hp ih =>
    intro x hx
    rw [m.above_child he hp] at hx
    rcases List.mem_cons.1 hx with rfl | hx
    · exact hpm
    · exact ih x hx

theorem mem_of_ancestry (he : e ∈ g.entities) (hx : x ∈ g.ancestry e) : x ∈ g.entities := by
  rcases Graph.mem_ancestry.1 hx with hx | rfl
  · exact m.mem_of_above he x hx
  · exact he

theorem ancestry_root (he : e ∈ g.entities) (h : g.parent? e = none) : g.ancestry e = [e] := by
  unfold Graph.ancestry
  rw [m.above_root he h]
  rfl

theorem ancestry_child (he : e ∈ g.entities) (h : g.parent? e = some p) : g.ancestry e = g.ancestry p ++ [e] := by
  unfold Graph.ancestry
  rw [m.above_child he h, List.reverse_cons]

theorem depth_child (he : e ∈ g.entities) (h : g.parent? e = some p) : g.depth e = g.depth p + 1 := by
  unfold Graph.depth
  rw [m.above_child he h]
  rfl

/-- **The way from the root to an entity passes every entity on it as that one's own way goes.** -/
theorem ancestry_eq_append (he : e ∈ g.entities) : ∀ x ∈ g.ancestry e, ∃ post, g.ancestry e = g.ancestry x ++ post := by
  induction e, he using m.induct with
  | root e he hp =>
    intro x hx
    rw [m.ancestry_root he hp, List.mem_singleton] at hx
    exact ⟨[], by rw [hx, List.append_nil]⟩
  | child e he p _ hp ih =>
    intro x hx
    have ha := m.ancestry_child he hp
    rw [ha] at hx
    rcases List.mem_append.1 hx with hx | hx
    · obtain ⟨post, h⟩ := ih x hx
      exact ⟨post ++ [e], by rw [ha, h, List.append_assoc]⟩
    · rw [List.mem_singleton] at hx
      exact ⟨[], by rw [hx, List.append_nil]⟩

/-- The next entity on the way down to an entity is a child. -/
theorem parent?_of_ancestry (he : e ∈ g.entities) : ∀ {x y : Entity} {post : List Entity},
    g.ancestry e = g.ancestry x ++ y :: post → g.parent? y = some x := by
  induction e, he using m.induct with
  | root e he hp =>
    intro x y post h
    have hl := congrArg List.length h
    rw [m.ancestry_root he hp, List.length_append, Graph.length_ancestry, List.length_singleton, List.length_cons] at hl
    omega
  | child e he p hpm hp ih =>
    intro x y post h
    rw [m.ancestry_child he hp] at h
    rcases List.eq_nil_or_concat post with rfl | ⟨post, z, rfl⟩
    · obtain ⟨ha, hy⟩ := List.append_inj' h rfl
      cases hy
      exact Graph.eq_of_ancestry ha ▸ hp
    · rw [List.concat_eq_append, ← List.cons_append, ← List.append_assoc] at h
      exact ih (List.append_inj' h rfl).1

theorem next_of_ancestry (he : e ∈ g.entities) {y : Entity} {post : List Entity}
    (h : g.ancestry e = g.ancestry x ++ y :: post) : y ∈ g.entities ∧ g.parent? y = some x := by
  have hy : y ∈ g.ancestry e := by
    rw [h]
    exact List.mem_append_right _ List.mem_cons_self
  exact ⟨m.mem_of_ancestry he hy, m.parent?_of_ancestry he h⟩

/-- An entity that is not the last on a way down has children. -/
theorem hasChildren_of_ancestry (he : e ∈ g.entities) {y : Entity} {post : List Entity}
    (h : g.ancestry e = g.ancestry x ++ y :: post) : x.hasChildren = true := by
  obtain ⟨hy, hp⟩ := m.next_of_ancestry he h
  exact (m.hasChildren_iff (m.mem_of_parent? hp)).2 ⟨y, hy, hp⟩

/-! ## Roots -/

theorem root_of_parent (he : e ∈ g.entities) (h : g.parent? e = some p) : g.root e = g.root p := by
  unfold Graph.root
  rw [m.above_child he h, List.getLast?_cons]
  rfl

theorem root_eq_self (he : e ∈ g.entities) (h : g.parent? e = none) : g.root e = e := by
  unfold Graph.root
  rw [m.above_root he h]
  rfl

/-- **The root of an entity is an entity without a parent.** -/
theorem root_mem (he : e ∈ g.entities) : g.root e ∈ g.entities ∧ g.parent? (g.root e) = none := by
  induction e, he using m.induct with
  | root e he hp =>
    rw [m.root_eq_self he hp]
    exact ⟨he, hp⟩
  | child e he p _ hp ih =>
    rw [m.root_of_parent he hp]
    exact ih

theorem root_mem_ancestry (he : e ∈ g.entities) : g.root e ∈ g.ancestry e := by
  induction e, he using m.induct with
  | root e he hp =>
    rw [m.root_eq_self he hp, m.ancestry_root he hp]
    exact List.mem_cons_self
  | child e he p _ hp ih =>
    rw [m.root_of_parent he hp, m.ancestry_child he hp]
    exact List.mem_append_left _ ih

theorem ancestry_eq_cons (he : e ∈ g.entities) : ∃ rest, g.ancestry e = g.root e :: rest := by
  obtain ⟨rest, h⟩ := m.ancestry_eq_append he _ (m.root_mem_ancestry he)
  rw [m.ancestry_root (m.root_mem he).1 (m.root_mem he).2] at h
  exact ⟨rest, h⟩

theorem root_of_ancestry (he : e ∈ g.entities) : ∀ x ∈ g.ancestry e, g.root x = g.root e := by
  induction e, he using m.induct with
  | root e he hp =>
    intro x hx
    rw [m.ancestry_root he hp, List.mem_singleton] at hx
    rw [hx]
  | child e he p _ hp ih =>
    intro x hx
    rw [m.ancestry_child he hp] at hx
    rcases List.mem_append.1 hx with hx | hx
    · rw [ih x hx, m.root_of_parent he hp]
    · rw [List.mem_singleton.1 hx]

theorem root_mem_above (he : e ∈ g.entities) (h : g.parent? e = some p) : g.root e ∈ g.above e := by
  have hp := m.mem_of_parent? h
  rw [m.root_of_parent he h, m.above_child he h, List.mem_cons]
  exact (Graph.mem_ancestry.1 (m.root_mem_ancestry hp)).symm

/-! ## The entities below -/

theorem mem_of_descendants (hp : p ∈ g.entities) (hx : x ∈ g.descendants p) : x ∈ g.entities := by
  obtain rfl := m.graph_eq
  obtain ⟨q, hq, rfl⟩ := mem_graph.1 hp
  rw [graph_descendants, List.mem_map] at hx
  obtain ⟨d, hd, rfl⟩ := hx
  have hc : ∀ a, a ∈ c.entities → ∀ b, b ∈ c.children a ↔ b ∈ c.entities ∧ c.parent? b = some a :=
    fun _ ha _ => Catalog.mem_children ha
  exact mem_graph.2 ⟨d, (Forest.of_mem_descend hc hq hd).1, rfl⟩

/-- **The entities below an entity are those that have it above them**, at any depth. -/
theorem mem_descendants_iff (hp : p ∈ g.entities) (hx : x ∈ g.entities) : x ∈ g.descendants p ↔ p ∈ g.above x := by
  obtain rfl := m.graph_eq
  obtain ⟨q, hq, rfl⟩ := mem_graph.1 hp
  obtain ⟨d, up, _, _, _, _, rfl, s⟩ := m.exists_settled hx
  rw [graph_descendants, mem_map_entity, graph_above s.above, mem_map_entity, Catalog.mem_below hq s.above]
  exact ⟨fun h => h.2, fun h => ⟨s.mem, h⟩⟩

/-! ## Strategies -/

theorem strategy_of_parent (he : e ∈ g.entities) (h : g.parent? e = some p) : e.strategy = p.strategy := by
  obtain rfl := m.graph_eq
  obtain ⟨d, up, _, _, _, _, rfl, s⟩ := m.exists_settled he
  rw [graph_parent?, Option.map_eq_some_iff] at h
  obtain ⟨q, hq, rfl⟩ := h
  cases up with
  | nil => rw [Catalog.above_nil s.above] at hq; cases hq
  | cons p up =>
    cases (Catalog.above_cons s.above).1.symm.trans hq
    obtain ⟨_, _, _, _, sp⟩ := m.settled_parent s
    rw [s.entity_strategy, sp.entity_strategy, (s.child sp).1]

/-- **Every entity has the strategy of each entity above it.** -/
theorem strategy_of_ancestry (he : e ∈ g.entities) : ∀ x ∈ g.ancestry e, x.strategy = e.strategy := by
  induction e, he using m.induct with
  | root e he hp =>
    intro x hx
    rw [m.ancestry_root he hp, List.mem_singleton] at hx
    rw [hx]
  | child e he p _ hp ih =>
    intro x hx
    rw [m.ancestry_child he hp] at hx
    rcases List.mem_append.1 hx with hx | hx
    · rw [ih x hx, m.strategy_of_parent he hp]
    · rw [List.mem_singleton.1 hx]

theorem strategy_root (he : e ∈ g.entities) : (g.root e).strategy = e.strategy :=
  m.strategy_of_ancestry he _ (m.root_mem_ancestry he)

end Maps
end Resolution
end Ormap
