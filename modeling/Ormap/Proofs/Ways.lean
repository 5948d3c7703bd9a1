import Ormap.Proofs.Hierarchy
/-!
# Ways — what following the names that entities hold comes to

An operation that goes up or down a hierarchy looks every entity up by its name, and fails where one is missing.  In a
mapped graph none is, so that it comes to the entities that are above and below (`Maps.requireAncestry`,
`Maps.requireDescendants`).
-/
namespace Ormap
namespace Graph

variable {g : Graph} {e x : Entity} {name : String}

theorem require_eq_ok : g.require name = .ok e ↔ g.find? name = some e := by
  unfold require
  cases g.find? name <;> simp

theorem requireHeld_eq_ok : g.requireHeld name = .ok e ↔ g.find? name = some e := by
  unfold requireHeld
  cases g.find? name <;> simp

/-- What is found below the names of entities is what is below them. -/
theorem flatten_dive {depth : Nat}
    (hdive : ∀ {x below}, g.dive depth x = .ok below → below = Forest.descend g.children depth x) :
    ∀ {names : List String} {parts : List (List Entity)}, List.Forall₂ (fun name part =>
      (do let child ← g.requireHeld name; return child :: (← g.dive depth child)) = Except.ok part) names parts →
    parts.flatten = (names.filterMap g.find?).flatMap fun x => x :: Forest.descend g.children depth x
  | _, _, .nil => rfl
  | _, _, .cons hpart hrest => by
    obtain ⟨child, hchild, hpart⟩ := Outcome.bind_eq_ok.1 hpart
    obtain ⟨below, hbelow, hpart⟩ := Outcome.bind_eq_ok.1 hpart
    cases hpart
    rw [List.filterMap_cons_some (requireHeld_eq_ok.1 hchild), List.flatten_cons, List.flatMap_cons, ← hdive hbelow,
      flatten_dive hdive hrest]

/-- **A way down that is found whole is that of the links.** -/
theorem dive_eq_ok : ∀ {depth : Nat} {e : Entity} {below : List Entity}, g.dive depth e = .ok below →
    below = Forest.descend g.children depth e
  | 0, _, _, h => by
    cases h
    rfl
  | depth + 1, e, below, h => by
    obtain ⟨parts, hparts, h⟩ := Outcome.bind_eq_ok.1 h
    cases h
    exact flatten_dive dive_eq_ok (Outcome.mapM_eq_ok.1 hparts)

theorem length_above_le (g : Graph) (e : Entity) : (g.above e).length ≤ g.size := by
  unfold above
  cases hup : Forest.ascend g.parent? g.size e with
  | none => exact Nat.zero_le _
  | some up => exact Forest.length_ascend hup

end Graph

namespace Resolution
namespace Maps

variable {cfg : Config} {c : Catalog} {g : Graph} {e : Entity} {name : String} (m : Maps cfg c g)
include m

/-- An entity of the catalog is found by its name. -/
theorem exists_find? {d : EntityDescriptor} (hd : d ∈ c.entities) : ∃ x ∈ g.entities, g.find? d.typeName = some x := by
  obtain rfl := m.graph_eq
  have he : entity cfg c d ∈ (graph cfg c).entities := mem_graph.2 ⟨d, hd, rfl⟩
  exact ⟨_, he, m.find?_eq_some_iff.2 ⟨he, rfl⟩⟩

theorem exists_parent (he : e ∈ g.entities) (hn : e.parent = some name) : ∃ p ∈ g.entities, g.find? name = some p := by
  have hp : ∃ d ∈ c.entities, d.typeName = name := by
    obtain rfl := m.graph_eq
    obtain ⟨d, -, rfl⟩ := mem_graph.1 he
    obtain ⟨p, hp, rfl⟩ := Option.map_eq_some_iff.1 hn
    exact ⟨p, Catalog.mem_of_parent? hp, rfl⟩
  obtain ⟨d, hd, rfl⟩ := hp
  exact m.exists_find? hd

theorem exists_child (he : e ∈ g.entities) (hn : name ∈ e.children) : ∃ x ∈ g.entities, g.find? name = some x := by
  have hx : ∃ d ∈ c.entities, d.typeName = name := by
    obtain rfl := m.graph_eq
    obtain ⟨d, hd, rfl⟩ := mem_graph.1 he
    obtain ⟨x, hx, rfl⟩ := List.mem_map.1 hn
    exact ⟨x, ((Catalog.mem_children hd).1 hx).1, rfl⟩
  obtain ⟨d, hd, rfl⟩ := hx
  exact m.exists_find? hd

/-! ## Up -/

/-- **Every way up is found whole**, in as many steps as it has. -/
theorem climb_eq (e : Entity) (he : e ∈ g.entities) :
    ∀ bound, (g.above e).length ≤ bound → g.climb bound e = .ok (g.above e) := by
  induction e, he using m.induct with
  | root e he hp =>
    intro bound _
    have hnone : e.parent = none := by
      cases hn : e.parent with
      | none => rfl
      | some name =>
        obtain ⟨p, -, hf⟩ := m.exists_parent he hn
        rw [Graph.parent?, hn, Option.bind_some, hf] at hp
        cases hp
    rw [m.above_root he hp]
    cases bound with
    | zero => rfl
    | succ bound =>
      unfold Graph.climb
      rw [hnone]
  | child e he p hpm hp ih =>
    intro bound hbound
    obtain ⟨name, hn, hf⟩ := Option.bind_eq_some_iff.1 hp
    rw [m.above_child he hp, List.length_cons] at hbound
    obtain ⟨bound, rfl⟩ := Nat.exists_eq_add_one_of_ne_zero (Nat.ne_zero_of_lt hbound)
    unfold Graph.climb
    rw [hn, m.above_child he hp]
    dsimp only
    rw [Graph.requireHeld_eq_ok.2 hf]
    show (g.climb bound p >>= fun up => pure (p :: up)) = _
    rw [ih bound (Nat.le_of_succ_le_succ hbound)]
    rfl

theorem climb_size (he : e ∈ g.entities) : g.climb g.size e = .ok (g.above e) :=
  m.climb_eq e he _ (g.length_above_le e)

theorem requireAncestry (he : e ∈ g.entities) : g.requireAncestry e = .ok (g.ancestry e) := by
  unfold Graph.requireAncestry
  rw [m.climb_size he]
  rfl

theorem requireRoot (he : e ∈ g.entities) : g.requireRoot e = .ok (g.root e) := by
  unfold Graph.requireRoot
  rw [m.climb_size he]
  rfl

theorem requireDepth (he : e ∈ g.entities) : g.requireDepth e = .ok (g.depth e) := by
  unfold Graph.requireDepth
  rw [m.climb_size he]
  rfl

theorem requireAliasLevel (he : e ∈ g.entities) : g.requireAliasLevel e = .ok (g.aliasLevel e) := by
  unfold Graph.requireAliasLevel Graph.aliasLevel
  split
  · exact m.requireDepth he
  · rfl

/-! ## Down -/

theorem requireChildren (he : e ∈ g.entities) : g.requireChildren e = .ok (g.children e) := by
  have hfound : ∀ {names : List String}, (∀ name ∈ names, ∃ x ∈ g.entities, g.find? name = some x) →
      names.mapM g.requireHeld = .ok (names.filterMap g.find?) := by
    intro names hnames
    induction names with
    | nil => rfl
    | cons name names ih =>
      obtain ⟨x, -, hx⟩ := hnames name List.mem_cons_self
      rw [List.mapM_cons, Graph.requireHeld_eq_ok.2 hx, ih fun y hy => hnames y (List.mem_cons_of_mem _ hy),
        List.filterMap_cons_some hx]
      rfl
  exact hfound fun name hn => m.exists_child he hn

theorem exists_dive : ∀ (depth : Nat) {e : Entity}, e ∈ g.entities → ∃ below, g.dive depth e = .ok below
  | 0, _, _ => ⟨[], rfl⟩
  | depth + 1, e, he => by
    obtain ⟨parts, hparts⟩ := Outcome.exists_mapM_eq_ok fun name hn => by
      obtain ⟨x, hx, hf⟩ := m.exists_child he hn
      obtain ⟨below, hbelow⟩ := exists_dive depth hx
      exact ⟨x :: below, Outcome.bind_eq_ok.2 ⟨x, Graph.requireHeld_eq_ok.2 hf, Outcome.bind_eq_ok.2 ⟨_, hbelow, rfl⟩⟩⟩
    exact ⟨parts.flatten, Outcome.bind_eq_ok.2 ⟨parts, hparts, rfl⟩⟩

/-- **Every way down is found whole.** -/
theorem requireDescendants (he : e ∈ g.entities) : g.requireDescendants e = .ok (g.descendants e) := by
  obtain ⟨below, hbelow⟩ := m.exists_dive g.size he
  unfold Graph.requireDescendants
  rw [hbelow, Graph.dive_eq_ok hbelow]
  rfl

end Maps
end Resolution
end Ormap
