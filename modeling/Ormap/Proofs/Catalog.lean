import Mathlib.Data.List.Nodup
import Ormap.Proofs.Forest
import Ormap.Proofs.Outcome
import Ormap.Resolution
/-!
# Catalogs — their hierarchies, and the same hierarchies in their graphs

Type names are distinct, so that a name finds the one entity that has it.  The graph of a catalog has the entities of
the catalog, and every way between entities in the graph is the way between their descriptors in the catalog.
-/
namespace Ormap

/-- **In a list with distinct keys a key finds the one item that has it.** -/
theorem find?_key_eq_some_iff {key : α → String} {l : List α} (hl : (l.map key).Nodup) {name : String} {a : α} :
    l.find? (key · == name) = some a ↔ a ∈ l ∧ key a = name := by
  constructor
  · intro h
    exact ⟨List.mem_of_find?_eq_some h, by simpa using List.find?_some h⟩
  · rintro ⟨ha, rfl⟩
    cases h : l.find? (key · == key a) with
    | none => simpa using List.find?_eq_none.1 h a ha
    | some b =>
      have hb : key b = key a := by simpa using List.find?_some h
      rw [List.inj_on_of_nodup_map hl (List.mem_of_find?_eq_some h) ha hb]

namespace Catalog

variable {c : Catalog}

theorem find?_eq_some_iff {name : String} {d : EntityDescriptor} :
    c.find? name = some d ↔ d ∈ c.entities ∧ d.typeName = name := find?_key_eq_some_iff c.distinct

theorem find?_typeName {d : EntityDescriptor} (hd : d ∈ c.entities) : c.find? d.typeName = some d :=
  find?_eq_some_iff.2 ⟨hd, rfl⟩

theorem eq_of_typeName {d d' : EntityDescriptor} (hd : d ∈ c.entities) (hd' : d' ∈ c.entities)
    (h : d.typeName = d'.typeName) : d = d' := List.inj_on_of_nodup_map c.distinct hd hd' h

/-- **A descriptor can be registered when its name is new**; it comes last. -/
theorem register_eq_ok {c' : Catalog} {d : EntityDescriptor} : c.register d = .ok c' ↔
    d.typeName ∉ c.entities.map (·.typeName) ∧ c'.entities = c.entities ++ [d] := by
  unfold register
  split <;> rename_i h
  · simp [h]
  · cases c'
    simp [h, eq_comm]

theorem exists_register {d : EntityDescriptor} (h : d.typeName ∉ c.entities.map (·.typeName)) :
    ∃ c', c.register d = .ok c' := by
  unfold register
  rw [dif_neg h]
  exact ⟨_, rfl⟩

/-- **The position of a name is that of the one entity that has it.** -/
theorem index?_eq_some_iff {name : String} {i : Nat} :
    c.index? name = some i ↔ ∃ d, c.entities[i]? = some d ∧ d.typeName = name := by
  unfold index?
  rw [List.findIdx?_eq_some_iff_getElem]
  constructor
  · rintro ⟨hi, hname, -⟩
    exact ⟨c.entities[i], List.getElem?_eq_getElem hi, by simpa using hname⟩
  · rintro ⟨d, hd, rfl⟩
    obtain ⟨hi, rfl⟩ := List.getElem?_eq_some_iff.1 hd
    refine ⟨hi, by simp, fun j hj hname => ?_⟩
    have hsame : c.entities[j] = c.entities[i] :=
      eq_of_typeName (List.getElem_mem _) (List.getElem_mem _) (by simpa using hname)
    have hij := (List.Nodup.getElem_inj_iff (c.distinct.of_map _)).1 hsame
    omega

theorem mem_of_parent? {d p : EntityDescriptor} (h : c.parent? d = some p) : p ∈ c.entities := by
  obtain ⟨name, -, hn⟩ := List.exists_of_findSome?_eq_some h
  exact (find?_eq_some_iff.1 hn).1

theorem isChildOf_iff {d p : EntityDescriptor} (hp : p ∈ c.entities) :
    c.isChildOf d p = true ↔ c.parent? d = some p := by
  unfold isChildOf
  cases h : c.parent? d with
  | none => simp
  | some q =>
    simp only [Option.map_some, beq_iff_eq, Option.some.injEq]
    exact ⟨fun hq => eq_of_typeName (mem_of_parent? h) hp hq, fun hq => by rw [hq]⟩

theorem mem_children {d p : EntityDescriptor} (hp : p ∈ c.entities) :
    d ∈ c.children p ↔ d ∈ c.entities ∧ c.parent? d = some p := by
  unfold children
  rw [List.mem_filter, isChildOf_iff hp]

theorem hasChildren_eq (c : Catalog) (p : EntityDescriptor) : c.hasChildren p = !(c.children p).isEmpty := by
  unfold hasChildren children
  cases h : c.entities.filter (c.isChildOf · p) with
  | nil =>
    rw [List.filter_eq_nil_iff] at h
    simpa using h
  | cons d l =>
    have hd : d ∈ c.entities.filter (c.isChildOf · p) := by rw [h]; exact List.mem_cons_self
    rw [List.mem_filter] at hd
    simpa using ⟨d, hd⟩

/-! ## The entities above an entity -/

theorem above_eq_ok {d : EntityDescriptor} {up : List EntityDescriptor} :
    c.above d = .ok up ↔ Forest.ascend c.parent? c.size d = some up := by
  unfold above
  cases Forest.ascend c.parent? c.size d <;> simp

theorem above_nil {d : EntityDescriptor} (h : c.above d = .ok []) : c.parent? d = none :=
  Forest.parent_of_ascend_nil (above_eq_ok.1 h)

theorem above_cons {d p : EntityDescriptor} {up : List EntityDescriptor} (h : c.above d = .ok (p :: up)) :
    c.parent? d = some p ∧ c.above p = .ok up := by
  obtain ⟨hp, k, hk, h⟩ := Forest.ascend_cons (above_eq_ok.1 h)
  exact ⟨hp, above_eq_ok.2 (Forest.ascend_mono (by omega) h)⟩

theorem mem_of_above {d : EntityDescriptor} {up : List EntityDescriptor} (h : c.above d = .ok up) :
    ∀ a ∈ up, a ∈ c.entities := Forest.forall_mem_ascend (fun _ _ => mem_of_parent?) (above_eq_ok.1 h)

/-- **The entities below an entity are those that have it above them.** -/
theorem mem_below {d b : EntityDescriptor} {up : List EntityDescriptor} (hd : d ∈ c.entities)
    (h : c.above b = .ok up) : b ∈ c.below d ↔ b ∈ c.entities ∧ d ∈ up :=
  Forest.mem_descend_iff (fun _ (ha : _ ∈ c.entities) _ => mem_children ha) (fun _ _ => mem_of_parent?) hd
    (above_eq_ok.1 h)

end Catalog

namespace Resolution

variable {cfg : Config} {c : Catalog}

/-! ## The graph of a catalog -/

theorem mem_graph {e : Entity} : e ∈ (graph cfg c).entities ↔ ∃ d ∈ c.entities, entity cfg c d = e := List.mem_map

theorem graph_find? (name : String) : (graph cfg c).find? name = (c.find? name).map (entity cfg c) := by
  show (c.entities.map (entity cfg c)).find? _ = _
  rw [List.find?_map]
  rfl

theorem graph_parent? (d : EntityDescriptor) :
    (graph cfg c).parent? (entity cfg c d) = (c.parent? d).map (entity cfg c) := by
  show ((c.parent? d).map (·.typeName)).bind (graph cfg c).find? = _
  cases h : c.parent? d with
  | none => rfl
  | some p =>
    rw [Option.map_some, Option.bind_some, graph_find?, Catalog.find?_typeName (Catalog.mem_of_parent? h)]

theorem graph_children (d : EntityDescriptor) :
    (graph cfg c).children (entity cfg c d) = (c.children d).map (entity cfg c) := by
  show ((c.children d).map (·.typeName)).filterMap (graph cfg c).find? = _
  rw [List.filterMap_map, ← List.filterMap_eq_map]
  refine List.filterMap_congr fun x hx => ?_
  have hx : x ∈ c.entities := (List.mem_filter.1 hx).1
  rw [Function.comp_apply, graph_find?, Catalog.find?_typeName hx]
  rfl

theorem graph_size : (graph cfg c).size = c.size := List.length_map _

theorem graph_above {d : EntityDescriptor} {up : List EntityDescriptor} (h : c.above d = .ok up) :
    (graph cfg c).above (entity cfg c d) = up.map (entity cfg c) := by
  unfold Graph.above
  rw [graph_size, Forest.ascend_map (entity cfg c) graph_parent?, Catalog.above_eq_ok.1 h]
  rfl

theorem graph_descendants (d : EntityDescriptor) :
    (graph cfg c).descendants (entity cfg c d) = (c.below d).map (entity cfg c) := by
  unfold Graph.descendants
  rw [graph_size, Forest.descend_map (entity cfg c) graph_children]
  rfl

end Resolution
end Ormap
