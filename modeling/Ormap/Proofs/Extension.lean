import Ormap.Proofs.ForeignKeys
import Ormap.Proofs.Hierarchy
/-!
# Extension — a catalog with one descriptor more, which nothing else mentions

The new descriptor is the root of a hierarchy of its own, and no other descriptor names it; it may refer to the others.
Names, the entities above and below, and so every step of resolution of the others, are as they were, errors included
(`Extends.entity_eq`): the new entity adds itself to the graph, and changes no other (`Extends.entities_graph`).
-/
namespace Ormap

/-- Whether a descriptor names a type as an ancestor or as the target of a reference. -/
def EntityDescriptor.Mentions (d : EntityDescriptor) (name : String) : Prop :=
  name ∈ d.ancestors ∨ ∃ f ∈ d.fields, ∃ r ∈ f.relationship?, r.target = name

instance (d : EntityDescriptor) (name : String) : Decidable (d.Mentions name) :=
  inferInstanceAs (Decidable (_ ∨ _))

/-- A catalog is another one with a descriptor more, which has no parent and which the others do not mention. -/
structure Catalog.Extends (c' c : Catalog) (x : EntityDescriptor) : Prop where
  entities : c'.entities = c.entities ++ [x]
  unmentioned : ∀ d ∈ c.entities, ¬ d.Mentions x.typeName
  root : c'.parent? x = none

namespace Catalog.Extends

open Resolution

variable {cfg : Config} {c c' : Catalog} {x d : EntityDescriptor} {up : List EntityDescriptor} (h : c'.Extends c x)
include h

/-! ## Names and hierarchies -/

theorem find?_of_ne {name : String} (hn : name ≠ x.typeName) : c'.find? name = c.find? name := by
  unfold find?
  have hx : [x].find? (·.typeName == name) = none := by simp [hn.symm]
  rw [h.entities, List.find?_append, hx, Option.or_none]

theorem findSome?_eq : ∀ {names : List String}, x.typeName ∉ names →
    names.findSome? c'.find? = names.findSome? c.find?
  | [], _ => rfl
  | name :: names, hx => by
    rw [List.mem_cons, not_or] at hx
    rw [List.findSome?_cons, List.findSome?_cons, h.find?_of_ne (Ne.symm hx.1), findSome?_eq hx.2]

theorem parent?_eq (hd : d ∈ c.entities) : c'.parent? d = c.parent? d :=
  h.findSome?_eq fun hx => h.unmentioned d hd (Or.inl hx)

theorem above_eq_ok (hd : d ∈ c.entities) (hup : c.above d = .ok up) : c'.above d = .ok up := by
  rw [Catalog.above_eq_ok] at hup ⊢
  rw [Forest.ascend_congr (fun a (ha : a ∈ c.entities) => h.parent?_eq ha) (fun _ _ => mem_of_parent?) _ hd]
  refine Forest.ascend_mono ?_ hup
  unfold size
  rw [h.entities, List.length_append]
  exact Nat.le_add_right _ _

theorem isChildOf_eq (hd : d ∈ c.entities) (p : EntityDescriptor) : c'.isChildOf d p = c.isChildOf d p := by
  unfold isChildOf
  rw [h.parent?_eq hd]

theorem isChildOf_self (p : EntityDescriptor) : c'.isChildOf x p = false := by
  unfold isChildOf
  rw [h.root]
  rfl

theorem children_eq : c'.children = c.children := by
  funext p
  unfold children
  have hx : [x].filter (c'.isChildOf · p) = [] := by simp [h.isChildOf_self]
  rw [h.entities, List.filter_append, hx, List.append_nil]
  exact List.filter_congr fun d hd => h.isChildOf_eq hd p

theorem hasChildren_eq : c'.hasChildren = c.hasChildren := by
  funext p
  rw [Catalog.hasChildren_eq, Catalog.hasChildren_eq, h.children_eq]

/-- Where every walk up ends, the greater number of entities adds no level below an entity. -/
theorem below_eq (hall : ∀ a ∈ c.entities, ∃ up, c.above a = .ok up) (hd : d ∈ c.entities) :
    c'.below d = c.below d := by
  obtain ⟨up, hup⟩ := hall d hd
  have hsize : c'.size = c.size + 1 := by
    unfold size
    rw [h.entities, List.length_append, List.length_singleton]
  unfold below
  rw [h.children_eq, hsize]
  refine Forest.descend_succ (fun a (ha : a ∈ c.entities) b hb => (mem_children ha).1 hb) (fun a ha => ?_) hd
    (Catalog.above_eq_ok.1 hup) (Nat.le_add_left _ _)
  obtain ⟨upA, hupA⟩ := hall a ha
  exact ⟨upA, Catalog.above_eq_ok.1 hupA⟩

/-! ## Outlines -/

theorem mirrorScope_eq (hd : d ∈ c.entities) : Relationship.mirrorScope c' d = Relationship.mirrorScope c d := by
  unfold Relationship.mirrorScope
  congr 1
  refine List.filterMap_congr fun name hname => h.find?_of_ne ?_
  rintro rfl
  exact h.unmentioned d hd (Or.inl hname)

/-- A reference to another entity is classified alike: the mirror is looked for where it was. -/
theorem classify_eq (d : EntityDescriptor) (field : String) {r : RelationshipDescriptor}
    (hr : r.target ≠ x.typeName) : Relationship.classify c' d field r = Relationship.classify c d field r := by
  unfold Relationship.classify
  rw [h.find?_of_ne hr]
  cases hl : c.find? r.target with
  | none => rfl
  | some linked =>
    have hresolve : Relationship.resolve c' d field r linked = Relationship.resolve c d field r linked := by
      unfold Relationship.resolve
      rw [h.mirrorScope_eq (Catalog.find?_eq_some_iff.1 hl).1]
    cases Relationship.owning? r with
    | error fault => rfl
    | ok owning =>
      dsimp only
      rw [hresolve]

theorem target_of_references (hd : d ∈ c.entities) : ∀ p ∈ Relationship.references d, p.2.target ≠ x.typeName := by
  intro p hp htarget
  obtain ⟨f, hf, hp⟩ := List.mem_filterMap.1 hp
  obtain ⟨r, hr, rfl⟩ := Option.map_eq_some_iff.1 hp
  exact h.unmentioned d hd (Or.inr ⟨f, (List.mem_filter.1 hf).1, r, hr, htarget⟩)

theorem outline_eq (hd : d ∈ c.entities) (up : List EntityDescriptor) : outline cfg c' d up = outline cfg c d up := by
  have hrelationships : Relationship.ofEntity c' d = Relationship.ofEntity c d :=
    Outcome.mapM_congr fun p hp => h.classify_eq d p.1 (h.target_of_references hd p hp)
  unfold outline
  rw [hrelationships]

/-! ## Columns -/

theorem ownsDiscriminator_eq : ownsDiscriminator c' = ownsDiscriminator c := by
  funext strategy d up
  unfold ownsDiscriminator
  rw [h.hasChildren_eq]

theorem extendBase_eq : extendBase c' = extendBase c := by
  funext strategy d up base
  unfold extendBase ownColumns
  rw [h.ownsDiscriminator_eq]

theorem baseColumns_eq : ∀ {up : List EntityDescriptor} {d : EntityDescriptor}, (∀ a ∈ d :: up, a ∈ c.entities) →
    baseColumns cfg c' d up = baseColumns cfg c d up
  | [], d, hd => by
    unfold baseColumns
    rw [h.outline_eq (hd d List.mem_cons_self), h.extendBase_eq]
  | p :: up, d, hd => by
    unfold baseColumns
    rw [h.outline_eq (hd d List.mem_cons_self), h.extendBase_eq,
      baseColumns_eq fun a ha => hd a (List.mem_cons_of_mem _ ha)]

variable (hall : ∀ a ∈ c.entities, ∃ up, c.above a = .ok up)
include hall

theorem atPlace_eq {α : Type} (hd : d ∈ c.entities)
    {step step' : List EntityDescriptor → Except ConfigurationError α}
    (hstep : ∀ up, (∀ a ∈ d :: up, a ∈ c.entities) → step' up = step up) : atPlace c' d step' = atPlace c d step := by
  obtain ⟨up, hup⟩ := hall d hd
  rw [Resolution.atPlace_eq hup, Resolution.atPlace_eq (h.above_eq_ok hd hup)]
  exact hstep up (List.forall_mem_cons.2 ⟨hd, Catalog.mem_of_above hup⟩)

theorem foreignKeysOf_eq {r : Relationship} (hr : r.target ≠ x.typeName) :
    foreignKeysOf cfg c' r = foreignKeysOf cfg c r := by
  unfold foreignKeysOf
  rw [h.find?_of_ne hr]
  cases ht : c.find? r.target with
  | none => rfl
  | some target =>
    have hbase : baseColumnsOf cfg c' target = baseColumnsOf cfg c target :=
      h.atPlace_eq hall (Catalog.find?_eq_some_iff.1 ht).1 fun _ => h.baseColumns_eq
    show (baseColumnsOf cfg c' target >>= _) = _
    rw [hbase]

theorem extendColumns_eq {o : Outline} (hd : d ∈ c.entities) (ho : outline cfg c d up = .ok o) (base : List Column) :
    extendColumns cfg c' o d base = extendColumns cfg c o d base := by
  have hown : ownForeignKeys cfg c' o.relationships = ownForeignKeys cfg c o.relationships := by
    unfold ownForeignKeys
    rw [Outcome.mapM_congr fun r hr => h.foreignKeysOf_eq hall ?_]
    obtain ⟨p, hp, hc⟩ := Relationship.of_mem_ofEntity (outline_eq_ok.1 ho).2.2 (List.mem_filter.1 hr).1
    rw [(Relationship.classify_eq_ok hc).2.2.1]
    exact h.target_of_references hd p hp
  funext passed
  unfold extendColumns
  rw [hown]

theorem columns_eq : ∀ {up : List EntityDescriptor} {d : EntityDescriptor}, (∀ a ∈ d :: up, a ∈ c.entities) →
    columns cfg c' d up = columns cfg c d up
  | [], d, hd => by
    have hdm := hd d List.mem_cons_self
    unfold columns
    rw [h.baseColumns_eq hd, h.outline_eq hdm]
    refine congrArg (baseColumns cfg c d [] >>= ·) (funext fun base => ?_)
    cases ho : outline cfg c d [] with
    | error e => exact Eq.refl (Except.error e)
    | ok o => exact congrFun (h.extendColumns_eq hall hdm ho base) []
  | p :: up, d, hd => by
    have hdm := hd d List.mem_cons_self
    unfold columns
    rw [h.baseColumns_eq hd, h.outline_eq hdm, columns_eq fun a ha => hd a (List.mem_cons_of_mem _ ha)]
    refine congrArg (baseColumns cfg c d (p :: up) >>= ·) (funext fun base => ?_)
    cases ho : outline cfg c d (p :: up) with
    | error e => exact Eq.refl (Except.error e)
    | ok o =>
      show (if o.strategy = .tablePerClass then columns cfg c p up >>= extendColumns cfg c' o d base
        else pure [] >>= extendColumns cfg c' o d base) = _
      rw [h.extendColumns_eq hall hdm ho]
      rfl

/-! ## Discriminator values -/

theorem serve_eq (hd : d ∈ c.entities) (strategy : Strategy) (up : List EntityDescriptor) :
    serve c' strategy d up = serve c strategy d up := by
  have hserved : served c' strategy d = served c strategy d := by
    unfold served
    rw [h.children_eq, h.below_eq hall hd]
  funext own
  unfold serve ownedDiscriminator?
  rw [h.ownsDiscriminator_eq, hserved]

theorem givenBelow_eq : ∀ {up : List EntityDescriptor} {d : EntityDescriptor}, (∀ a ∈ d :: up, a ∈ c.entities) →
    givenBelow cfg c' d up = givenBelow cfg c d up
  | [], d, hd => by
    have hdm := hd d List.mem_cons_self
    unfold givenBelow ownedDiscriminator?
    simp only [h.outline_eq hdm, h.columns_eq hall hd, h.ownsDiscriminator_eq, h.serve_eq hall hdm]
  | p :: up, d, hd => by
    have hdm := hd d List.mem_cons_self
    have hgiven : givenBelow cfg c' p up = givenBelow cfg c p up :=
      givenBelow_eq fun a ha => hd a (List.mem_cons_of_mem _ ha)
    unfold givenBelow
    simp only [h.outline_eq hdm, h.columns_eq hall hd, h.serve_eq hall hdm, hgiven]

theorem discriminatorValue_eq : ∀ {up : List EntityDescriptor}, (∀ a ∈ d :: up, a ∈ c.entities) →
    discriminatorValue cfg c' d up = discriminatorValue cfg c d up
  | [], hd => by
    unfold discriminatorValue ownedDiscriminator?
    rw [h.outline_eq (hd d List.mem_cons_self), h.columns_eq hall hd, h.ownsDiscriminator_eq]
  | p :: up, hd => by
    have hgiven : givenBelow cfg c' p up = givenBelow cfg c p up :=
      h.givenBelow_eq hall fun a ha => hd a (List.mem_cons_of_mem _ ha)
    exact congrArg (· >>= fun given => pure (Cells.get? d.typeName given)) hgiven

/-! ## Entities -/

/-- **An entity is resolved as it was**, to the last of its fields. -/
theorem entity_eq (hd : d ∈ c.entities) : entity cfg c' d = entity cfg c d := by
  have hstrategy := h.atPlace_eq hall hd fun up _ => Eq.refl (strategyOf cfg d up)
  have htable := h.atPlace_eq hall hd fun up _ => Eq.refl (tableStep cfg d up)
  have houtline : atPlace c' d (outline cfg c' d) = atPlace c d (outline cfg c d) :=
    h.atPlace_eq hall hd fun up _ => h.outline_eq hd up
  have hcolumns : atPlace c' d (columns cfg c' d) = atPlace c d (columns cfg c d) :=
    h.atPlace_eq hall hd fun _ => h.columns_eq hall
  have hvalue : atPlace c' d (discriminatorValue cfg c' d) = atPlace c d (discriminatorValue cfg c d) :=
    h.atPlace_eq hall hd fun _ => h.discriminatorValue_eq hall
  have hresolve : resolve cfg c' d = resolve cfg c d :=
    h.atPlace_eq hall hd fun up hup => by rw [h.givenBelow_eq hall hup]
  unfold entity
  rw [h.parent?_eq hd, h.children_eq, hstrategy, htable, houtline, hcolumns, hvalue, hresolve]

/-- **The new entity comes last in the graph, and the others are what they were.** -/
theorem entities_graph : (graph cfg c').entities = (graph cfg c).entities ++ [entity cfg c' x] := by
  unfold graph
  rw [h.entities, List.map_append, List.map_singleton]
  exact congrArg (· ++ _) (List.map_congr_left fun d hd => h.entity_eq hall hd)

end Catalog.Extends
end Ormap
