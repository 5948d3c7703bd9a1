import Ormap.Proofs.Inheritance
import Ormap.Proofs.Lifecycle
/-!
# Discriminators — who owns a column, and what its values tell apart

An entity owns a discriminator column when it has children and lies in a joined hierarchy or is a root.  The owner gives
every entity that it serves the coercion of its declared text, by the declaration in force at the owner, and all these
values differ from each other and from the owner's own.
-/
namespace Ormap
namespace Graph

/-- The nearest declaration of a discriminator column, from an entity upwards. -/
def discriminatorInForce? (g : Graph) (e : Entity) : Option DiscriminatorDescriptor :=
  (e :: g.above e).findSome? (·.descriptor.discriminatorColumn)

/-- Whether an entity has a discriminator column of its own to fill. -/
def OwnsDiscriminator (g : Graph) (e : Entity) : Prop :=
  e.hasChildren = true ∧ (e.strategy = .joined ∨ g.parent? e = none)

/-- The entities that the discriminator column of an owner tells apart from the owner. -/
def served (g : Graph) (owner : Entity) : List Entity :=
  if owner.strategy = .joined then g.children owner else g.descendants owner

end Graph

namespace Value

/-- The values that texts are coerced to. -/
def IsDiscriminator (v : Value) : Prop := (∃ s, v = .text s) ∨ ∃ n, v = .integer n

theorem IsDiscriminator.agrees_iff {v w : Value} (hv : v.IsDiscriminator) : v.agrees w = true ↔ v = w := by
  rcases hv with ⟨s, rfl⟩ | ⟨n, rfl⟩ <;> cases w <;> simp [agrees]

theorem IsDiscriminator.isNull {v : Value} (hv : v.IsDiscriminator) : v.isNull = false := by
  rcases hv with ⟨s, rfl⟩ | ⟨n, rfl⟩ <;> rfl

end Value

namespace Resolution

variable {cfg : Config} {c : Catalog} {g : Graph} {d : EntityDescriptor} {up : List EntityDescriptor} {o : Outline}
  {base cols : List Column} {given : Cells Value} {e p x : Entity}

theorem isDiscriminator_of_coerce {kind : DiscriminatorKind} {raw : String} {v : Value}
    (h : kind.coerce raw = .ok v) : v.IsDiscriminator := by
  unfold DiscriminatorKind.coerce at h
  cases kind with
  | char =>
    dsimp only at h
    split at h
    · cases h; exact Or.inl ⟨raw, rfl⟩
    · cases h
  | string => cases h; exact Or.inl ⟨raw, rfl⟩
  | integer =>
    dsimp only at h
    split at h
    · cases h; exact Or.inr ⟨_, rfl⟩
    · cases h

theorem coerce_of_coerceValue {disc : DiscriminatorDescriptor} {raw : String} {v : Value}
    (h : coerceValue d disc raw = .ok v) : disc.kind.coerce raw = .ok v := by
  unfold coerceValue at h
  split at h
  · cases h
  · rename_i w hw
    rw [hw]
    split at h
    · split at h <;> cases h
      rfl
    · cases h; rfl

theorem rootValue_eq_some {owned : Option DiscriminatorDescriptor} {v : Value} (h : rootValue d owned = .ok (some v)) :
    ∃ disc raw, owned = some disc ∧ d.discriminatorValue = some raw ∧ coerceValue d disc raw = .ok v := by
  unfold rootValue at h
  split at h
  · rename_i disc raw hraw
    obtain ⟨w, hw, h⟩ := Outcome.map_eq_ok.1 h
    cases h
    exact ⟨disc, raw, rfl, hraw, hw⟩
  · cases h

/-! ## Giving out -/

/-- Whether an entry gives an entity the value of its text. -/
def IsGiven (disc : DiscriminatorDescriptor) (t : EntityDescriptor) (p : String × Value) : Prop :=
  p.1 = t.typeName ∧ ∃ raw, t.discriminatorValue = some raw ∧ coerceValue t disc raw = .ok p.2

theorem IsGiven.isDiscriminator {disc : DiscriminatorDescriptor} {t : EntityDescriptor} {p : String × Value}
    (h : IsGiven disc t p) : p.2.IsDiscriminator := by
  obtain ⟨-, raw, -, hv⟩ := h
  exact isDiscriminator_of_coerce (coerce_of_coerceValue hv)

/-- **Every entity served declares a text, and gets the value of it**; the values differ, also from those taken. -/
theorem giveOut_eq_ok {owner : String} {disc : DiscriminatorDescriptor} :
    ∀ {ts : List EntityDescriptor} {taken : List Holding} {given : Cells Value},
      giveOut owner disc taken ts = .ok given →
      List.Forall₂ (IsGiven disc) ts given ∧ (given.map (·.2)).Nodup ∧ ∀ w ∈ taken, ∀ p ∈ given, w.value.agrees p.2 = false
  | [], taken, given, h => by
    cases h
    exact ⟨.nil, List.nodup_nil, fun _ _ p hp => by cases hp⟩
  | t :: ts, taken, given, h => by
    unfold giveOut at h
    split at h
    · cases h
    rename_i raw hraw
    obtain ⟨v, hv, h⟩ := Outcome.bind_eq_ok.1 h
    split at h
    · cases h
    rename_i hfree
    obtain ⟨others, ho, h⟩ := Outcome.bind_eq_ok.1 h
    cases h
    obtain ⟨hall, hnd, htaken⟩ := giveOut_eq_ok ho
    have hgiven : IsGiven disc t (t.typeName, v) := ⟨rfl, raw, hraw, hv⟩
    refine ⟨.cons hgiven hall, ?_, ?_⟩
    · rw [List.map_cons, List.nodup_cons]
      refine ⟨fun hmem => ?_, hnd⟩
      obtain ⟨p, hp, hpv⟩ := List.mem_map.1 hmem
      have hdiffers := htaken ⟨v, t.typeName⟩ (by simp) p hp
      rw [hgiven.isDiscriminator.agrees_iff.2 hpv.symm] at hdiffers
      cases hdiffers
    · intro w hw p hp
      rcases List.mem_cons.1 hp with rfl | hp
      · simpa using List.find?_eq_none.1 hfree w hw
      · exact htaken w (List.mem_append_left _ hw) p hp

/-- The value of an entity among those given out is the coercion of its own text. -/
theorem get?_given {disc : DiscriminatorDescriptor} {t : EntityDescriptor} (ht : t ∈ c.entities) :
    ∀ {ts : List EntityDescriptor} {given : Cells Value}, (∀ a ∈ ts, a ∈ c.entities) →
      List.Forall₂ (IsGiven disc) ts given → t ∈ ts →
      ∃ raw v, t.discriminatorValue = some raw ∧ coerceValue t disc raw = .ok v ∧
        Cells.get? t.typeName given = some v
  | _, _, _, .nil, hm => by cases hm
  | a :: ts, (n, v) :: given, hts, .cons ⟨hn, raw, hraw, hv⟩ hall, hm => by
    dsimp only at hn hv
    by_cases hat : a = t
    · subst hat
      refine ⟨raw, v, hraw, hv, ?_⟩
      unfold Cells.get?
      rw [if_pos hn]
    · have hne : n ≠ t.typeName := fun h =>
        hat (Catalog.eq_of_typeName (hts a List.mem_cons_self) ht (hn.symm.trans h))
      obtain ⟨raw', v', h1, h2, h3⟩ := get?_given ht (fun b hb => hts b (List.mem_cons_of_mem _ hb)) hall
        ((List.mem_cons.1 hm).resolve_left (Ne.symm hat))
      refine ⟨raw', v', h1, h2, ?_⟩
      unfold Cells.get?
      rw [if_neg hne, h3]

/-- The values of entities, in order, are the values given out to them. -/
theorem map_value_of_given {disc : DiscriminatorDescriptor} {ts : List EntityDescriptor} {given : Cells Value}
    (hall : List.Forall₂ (IsGiven disc) ts given)
    (hv : ∀ t ∈ ts, t ∈ c.entities ∧ (entity cfg c t).discriminatorValue = Cells.get? t.typeName given) :
    ts.map ((·.discriminatorValue) ∘ entity cfg c) = given.map (some ·.2) := by
  have hget : ∀ t ∈ ts, ∃ raw v, t.discriminatorValue = some raw ∧ coerceValue t disc raw = .ok v ∧
      (entity cfg c t).discriminatorValue = some v := by
    intro t ht
    obtain ⟨htm, hval⟩ := hv t ht
    obtain ⟨raw, v, hraw, hcv, hgt⟩ := get?_given htm (fun a ha => (hv a ha).1) hall ht
    exact ⟨raw, v, hraw, hcv, hval.trans hgt⟩
  -- on the entries, each of which holds what its entity looks up among all of them
  clear hv
  induction hall with
  | nil => rfl
  | @cons t q ts given hq _ ih =>
    obtain ⟨-, raw, hraw, hcv⟩ := hq
    obtain ⟨raw', v, hraw', hcv', hval⟩ := hget t List.mem_cons_self
    cases hraw.symm.trans hraw'
    cases hcv.symm.trans hcv'
    rw [List.map_cons, List.map_cons, ih fun a ha => hget a (List.mem_cons_of_mem _ ha), Function.comp_apply, hval]

/-! ## Owners in a mapped graph -/

theorem graph_inForce (h : c.above d = .ok up) :
    (graph cfg c).discriminatorInForce? (entity cfg c d) = discriminatorInForce d up := by
  unfold Graph.discriminatorInForce? discriminatorInForce
  rw [graph_above h, ← List.map_cons, List.findSome?_map]
  rfl

theorem graph_served (d : EntityDescriptor) :
    (graph cfg c).served (entity cfg c d) = (served c (entity cfg c d).strategy d).map (entity cfg c) := by
  unfold Graph.served served
  cases (entity cfg c d).strategy with
  | joined => rw [if_pos rfl, graph_children]
  | singleTable => rw [if_neg (fun h => by cases h), graph_descendants]
  | tablePerClass => rw [if_neg (fun h => by cases h), graph_descendants]

theorem Settled.owns_iff (s : Settled cfg c d up o base cols given) :
    (graph cfg c).OwnsDiscriminator (entity cfg c d) ↔ ownsDiscriminator c o.strategy d up = true := by
  have hc : (entity cfg c d).hasChildren = c.hasChildren d := by
    rw [Catalog.hasChildren_eq]
    show (!((c.children d).map (·.typeName)).isEmpty) = _
    rw [List.isEmpty_map]
  unfold Graph.OwnsDiscriminator ownsDiscriminator
  rw [hc, s.entity_strategy, s.parent_iff, Bool.and_eq_true, Bool.or_eq_true, beq_iff_eq, List.isEmpty_iff]

/-- An owner gives out what it serves, its own value being taken. -/
theorem Settled.serve_eq {g : Graph} (m : Maps cfg c g) (s : Settled cfg c d up o base cols given)
    (ho : ownsDiscriminator c o.strategy d up = true) :
    serve c o.strategy d up (entity cfg c d).discriminatorValue = .ok given := by
  cases up with
  | nil =>
    obtain ⟨-, -, own, hv, hg⟩ := s.root
    rw [s.entity_value_root hv]
    exact hg
  | cons p up =>
    obtain ⟨op, baseP, colsP, givenP, sp⟩ := m.settled_parent s
    obtain ⟨-, -, -, hg⟩ := s.child sp
    have hj : o.strategy = .joined := by
      unfold ownsDiscriminator at ho
      simpa using (Bool.and_eq_true_iff.1 ho).2
    rw [if_pos hj] at hg
    rw [s.entity_value_child sp]
    exact hg

/-- Below a root that is not joined, all that is given out is what the root gives out. -/
theorem Settled.given_root {g : Graph} (m : Maps cfg c g) : ∀ {up : List EntityDescriptor} {d : EntityDescriptor}
    {o : Outline} {base cols : List Column} {given : Cells Value}, Settled cfg c d up o base cols given →
    o.strategy ≠ .joined → givenBelow cfg c (rootOf d up) [] = .ok given
  | [], _, _, _, _, _, s, _ => s.given
  | p :: up, d, o, base, cols, given, s, hs => by
    obtain ⟨op, baseP, colsP, givenP, sp⟩ := m.settled_parent s
    obtain ⟨hst, -, -, hg⟩ := s.child sp
    rw [if_neg hs] at hg
    cases hg
    rw [rootOf_cons]
    exact sp.given_root m (hst ▸ hs)

/-- A child has the value that its parent gives out to it. -/
theorem Settled.value_of_child {g : Graph} (m : Maps cfg c g) (s : Settled cfg c d up o base cols given)
    {t : EntityDescriptor} (ht : t ∈ c.children d) :
    t ∈ c.entities ∧ (entity cfg c t).discriminatorValue = Cells.get? t.typeName given := by
  obtain ⟨htm, hp⟩ := (Catalog.mem_children s.mem).1 ht
  obtain ⟨upT, oT, baseT, colsT, givenT, sT⟩ := m.settled htm
  refine ⟨htm, ?_⟩
  cases upT with
  | nil =>
    rw [Catalog.above_nil sT.above] at hp
    cases hp
  | cons q upT =>
    obtain ⟨hq, hup⟩ := Catalog.above_cons sT.above
    cases hp.symm.trans hq
    cases s.above.symm.trans hup
    exact sT.entity_value_child s

/-- The way up from an entity below a root ends at the root. -/
theorem Settled.rootOf_eq (s : Settled cfg c d [] o base cols given) {t : EntityDescriptor} (ht : t ∈ c.below d)
    {upT : List EntityDescriptor} (hup : c.above t = .ok upT) : upT ≠ [] ∧ rootOf t upT = d := by
  obtain ⟨pre, post, hsplit⟩ := List.append_of_mem ((Catalog.mem_below s.mem hup).1 ht).2
  have hpost : post = [] := by
    rw [hsplit, Catalog.above_eq_ok] at hup
    have h := Catalog.above_eq_ok.2 (Forest.ascend_append hup).2
    cases s.above.symm.trans h
    rfl
  constructor
  · rw [hsplit]
    simp
  · unfold rootOf
    rw [hsplit, hpost, List.getLast?_append]
    rfl

/-- An entity below a root that is not joined has the value that the root gives out to it. -/
theorem Settled.value_of_below {g : Graph} (m : Maps cfg c g) (s : Settled cfg c d [] o base cols given)
    (hj : o.strategy ≠ .joined) {t : EntityDescriptor} (ht : t ∈ c.below d) :
    t ∈ c.entities ∧ (entity cfg c t).discriminatorValue = Cells.get? t.typeName given := by
  have hc : ∀ a, a ∈ c.entities → ∀ b, b ∈ c.children a ↔ b ∈ c.entities ∧ c.parent? b = some a :=
    fun _ ha _ => Catalog.mem_children ha
  have htm : t ∈ c.entities := (Forest.of_mem_descend hc s.mem ht).1
  obtain ⟨upT, oT, baseT, colsT, givenT, sT⟩ := m.settled htm
  obtain ⟨hne, hr⟩ := s.rootOf_eq ht sT.above
  refine ⟨htm, ?_⟩
  cases upT with
  | nil => exact absurd rfl hne
  | cons q upT =>
    obtain ⟨oq, baseQ, colsQ, givenQ, sQ⟩ := m.settled_parent sT
    rw [rootOf_cons] at hr
    have hst : oq.strategy = o.strategy := by
      rw [sQ.strategy_eq, s.strategy_eq, hr]
      rfl
    -- the entity's parent passes on what the root gives out
    have hg := sQ.given_root m (hst ▸ hj)
    rw [hr] at hg
    cases s.given.symm.trans hg
    exact sT.entity_value_child sQ

/-- **An entity served has the value that its owner gives out to it.** -/
theorem Settled.value_of_served {g : Graph} (m : Maps cfg c g) (s : Settled cfg c d up o base cols given)
    (ho : ownsDiscriminator c o.strategy d up = true) {t : EntityDescriptor} (ht : t ∈ served c o.strategy d) :
    t ∈ c.entities ∧ (entity cfg c t).discriminatorValue = Cells.get? t.typeName given := by
  unfold ownsDiscriminator at ho
  have hplace := (Bool.and_eq_true_iff.1 ho).2
  unfold served at ht
  split at ht
  · exact s.value_of_child m ht
  all_goals
    rename_i hs
    obtain rfl : up = [] := by simpa [hs] using hplace
    exact s.value_of_below m (by rw [hs]; exact fun h => by cases h) ht

theorem filter_discriminators {own keys : List Column} {rs : List Relationship}
    (hk : ownForeignKeys cfg c rs = .ok keys) (hc : e.ownColumns = own ++ keys) :
    e.ownColumns.filter (·.isDiscriminator) = own.filter (·.isDiscriminator) := by
  have h : keys.filter (·.isDiscriminator) = [] := by
    refine List.filter_eq_nil_iff.2 fun x hx => ?_
    obtain ⟨r, -, -, target, tbase, j, isOnly, -, -, -, rfl⟩ := of_mem_ownForeignKeys hk hx
    exact Bool.false_ne_true
  rw [hc, List.filter_append, h, List.append_nil]

namespace Maps

variable (m : Maps cfg c g)
include m

theorem owns_iff (he : e ∈ g.entities) {up : List EntityDescriptor} (hup : c.above e.descriptor = .ok up) :
    g.OwnsDiscriminator e ↔ ownsDiscriminator c e.strategy e.descriptor up = true := by
  obtain rfl := m.graph_eq
  obtain ⟨d, up', o, base, cols, given, rfl, s⟩ := m.exists_settled he
  cases s.above.symm.trans hup
  rw [s.owns_iff, s.entity_strategy]
  rfl

theorem discriminators_of_not_owner (he : e ∈ g.entities) (ho : ¬ g.OwnsDiscriminator e) :
    e.ownColumns.filter (·.isDiscriminator) = [] := by
  obtain ⟨up, own, keys, hup, hown, hk, hc⟩ := m.ownColumns_eq he
  rw [filter_discriminators hk hc]
  exact discriminators_of_not_owns hown (Bool.eq_false_iff.2 (mt (m.owns_iff he hup).2 ho))

theorem inForce_eq (he : e ∈ g.entities) {up : List EntityDescriptor} (hup : c.above e.descriptor = .ok up) :
    g.discriminatorInForce? e = discriminatorInForce e.descriptor up := by
  obtain rfl := m.graph_eq
  obtain ⟨d, hd, rfl⟩ := mem_graph.1 he
  exact graph_inForce hup

/-- **An owner has exactly one discriminator column among its own**, of the kind in force at the owner. -/
theorem discriminators_of_owner (he : e ∈ g.entities) (ho : g.OwnsDiscriminator e) :
    ∃ disc col, g.discriminatorInForce? e = some disc ∧ e.ownColumns.filter (·.isDiscriminator) = [col] ∧
      col.role = .discriminator disc.kind ∧ col.name = disc.name ∧ col.nullable = false ∧ col.primaryKey = false ∧
      col.type.sqlType = disc.kind.type.sqlType := by
  obtain ⟨up, own, keys, hup, hown, hk, hc⟩ := m.ownColumns_eq he
  have hn : (own.map (·.name)).Nodup := by
    have hsub : (e.ownColumns.map (·.name)).Nodup := (m.columns_nodup he).sublist (List.filter_sublist.map _)
    rw [hc, List.map_append] at hsub
    exact hsub.of_append_left
  rw [filter_discriminators hk hc, m.inForce_eq he hup]
  exact discriminators_of_owns hown hn ((m.owns_iff he hup).1 ho)

theorem discriminatorColumn?_of_owner (he : e ∈ g.entities) (ho : g.OwnsDiscriminator e) :
    ∃ disc col, g.discriminatorInForce? e = some disc ∧ e.discriminatorColumn? = some col ∧ col ∈ e.ownColumns ∧
      col.role = .discriminator disc.kind := by
  obtain ⟨disc, col, hd, hf, hrole, -⟩ := m.discriminators_of_owner he ho
  have hcol : e.discriminatorColumn? = some col := by
    unfold Entity.discriminatorColumn?
    rw [← List.head?_filter, hf]
    rfl
  exact ⟨disc, col, hd, hcol, List.mem_of_find?_eq_some hcol, hrole⟩

theorem discriminatorColumn?_of_not_owner (he : e ∈ g.entities) (ho : ¬ g.OwnsDiscriminator e) :
    e.discriminatorColumn? = none := by
  unfold Entity.discriminatorColumn?
  rw [← List.head?_filter, m.discriminators_of_not_owner he ho]
  rfl

/-- An entity with a discriminator column among its own is an owner. -/
theorem owns_of_column {col : Column} (he : e ∈ g.entities) (hc : e.discriminatorColumn? = some col) :
    g.OwnsDiscriminator e := by
  refine Classical.byContradiction fun ho => ?_
  rw [m.discriminatorColumn?_of_not_owner he ho] at hc
  cases hc

/-- What an owner gives out, and to whom. -/
theorem giveOut_of_owner (he : e ∈ g.entities) (ho : g.OwnsDiscriminator e) :
    ∃ disc ts given, g.discriminatorInForce? e = some disc ∧ g.served e = ts.map (entity cfg c) ∧
      (∀ t ∈ ts, t ∈ c.entities ∧ (entity cfg c t).discriminatorValue = Cells.get? t.typeName given) ∧
      giveOut e.typeName disc ((e.discriminatorValue.map (⟨·, e.typeName⟩)).toList) ts = .ok given := by
  obtain ⟨disc, col, hd, -⟩ := m.discriminators_of_owner he ho
  obtain rfl := m.graph_eq
  obtain ⟨d, up, o, base, cols, given, rfl, s⟩ := m.exists_settled he
  have hown := s.owns_iff.1 ho
  have hs := s.serve_eq m hown
  unfold serve ownedDiscriminator? at hs
  rw [graph_inForce s.above] at hd
  rw [if_pos hown, hd] at hs
  refine ⟨disc, served c o.strategy d, given, by rw [graph_inForce s.above, hd], ?_, ?_, hs⟩
  · rw [graph_served, s.entity_strategy]
  · exact fun t ht => s.value_of_served m hown ht

/-- **Every entity served by an owner has the coercion of its own text as its value.** -/
theorem value_of_served (he : e ∈ g.entities) (ho : g.OwnsDiscriminator e) (hx : x ∈ g.served e) :
    x ∈ g.entities ∧ ∃ disc raw v, g.discriminatorInForce? e = some disc ∧
      x.descriptor.discriminatorValue = some raw ∧ coerceValue x.descriptor disc raw = .ok v ∧
      x.discriminatorValue = some v := by
  obtain ⟨disc, ts, given, hd, hts, hv, hg⟩ := m.giveOut_of_owner he ho
  rw [hts] at hx
  obtain ⟨t, ht, rfl⟩ := List.mem_map.1 hx
  obtain ⟨htm, hval⟩ := hv t ht
  obtain ⟨raw, v, hraw, hcv, hget⟩ := get?_given htm (fun a ha => (hv a ha).1) (giveOut_eq_ok hg).1 ht
  obtain rfl := m.graph_eq
  exact ⟨mem_graph.2 ⟨t, htm, rfl⟩, disc, raw, v, hd, hraw, hcv, hval.trans hget⟩

/-- **The value of a root is the coercion of its own text by its own column**, which it owns then. -/
theorem value_of_root (he : e ∈ g.entities) (hp : g.parent? e = none) {v : Value} (hv : e.discriminatorValue = some v) :
    g.OwnsDiscriminator e ∧ ∃ disc raw, g.discriminatorInForce? e = some disc ∧
      e.descriptor.discriminatorValue = some raw ∧ coerceValue e.descriptor disc raw = .ok v := by
  obtain rfl := m.graph_eq
  obtain ⟨d, up, o, base, cols, given, rfl, s⟩ := m.exists_settled he
  cases s.parent_iff.1 hp
  obtain ⟨-, -, own, hown, -⟩ := s.root
  rw [s.entity_value_root hown] at hv
  cases hv
  obtain ⟨disc, raw, howned, hraw, hcv⟩ := rootValue_eq_some hown
  unfold ownedDiscriminator? at howned
  split at howned
  · rename_i ho
    exact ⟨s.owns_iff.2 ho, disc, raw, (graph_inForce s.above).trans howned, hraw, hcv⟩
  · cases howned

/-- **The values of an owner and of all entities that it serves are pairwise different.** -/
theorem values_nodup (he : e ∈ g.entities) (ho : g.OwnsDiscriminator e) :
    ((e :: g.served e).map (·.discriminatorValue)).Nodup := by
  obtain ⟨disc, ts, given, hd, hts, hv, hg⟩ := m.giveOut_of_owner he ho
  obtain ⟨hall, hnd, htaken⟩ := giveOut_eq_ok hg
  -- the values of those served, in order, are the values given out
  have hmap : (g.served e).map (·.discriminatorValue) = given.map (some ·.2) := by
    rw [hts, List.map_map]
    exact map_value_of_given hall hv
  rw [List.map_cons, hmap, List.nodup_cons]
  constructor
  · intro hmem
    obtain ⟨q, hq, hqv⟩ := List.mem_map.1 hmem
    have hf := htaken ⟨q.2, e.typeName⟩ (by rw [← hqv]; simp) q hq
    obtain ⟨t, -, hgiven⟩ := Outcome.exists_of_mem_right hall q hq
    rw [hgiven.isDiscriminator.agrees_iff.2 rfl] at hf
    cases hf
  · show (given.map (some ∘ (·.2))).Nodup
    rw [← List.map_map]
    exact hnd.map fun _ _ h => Option.some.inj h

theorem root_hasChildren (he : e ∈ g.entities) (hp : g.parent? e = some p) : (g.root e).hasChildren = true := by
  obtain ⟨post, h⟩ := m.ancestry_eq_append he _ (m.root_mem_ancestry he)
  obtain ⟨hr, hrp⟩ := m.root_mem he
  cases post with
  | nil =>
    -- an entity with a parent is not the last on the way from its root to itself alone
    have hl := congrArg List.length h
    rw [List.append_nil, m.ancestry_root hr hrp, Graph.length_ancestry, m.depth_child he hp] at hl
    cases hl
  | cons y post => exact m.hasChildren_of_ancestry he h

/-- The root above an entity with children owns a column. -/
theorem root_owns (he : e ∈ g.entities) (h : e.hasChildren = true) : g.OwnsDiscriminator (g.root e) := by
  refine ⟨?_, Or.inr (m.root_mem he).2⟩
  cases hp : g.parent? e with
  | none =>
    rw [m.root_eq_self he hp]
    exact h
  | some p => exact m.root_hasChildren he hp

/-- The owner whose column tells an entity with a parent apart. -/
theorem owner_of_parent (he : e ∈ g.entities) (hp : g.parent? e = some p) :
    ∃ owner ∈ g.entities, owner = (if e.strategy = .joined then p else g.root e) ∧ g.OwnsDiscriminator owner ∧
      e ∈ g.served owner := by
  have hpm := m.mem_of_parent? hp
  by_cases hj : e.strategy = .joined
  · have hpj := (m.strategy_of_parent he hp).symm.trans hj
    refine ⟨p, hpm, by rw [if_pos hj], ⟨(m.hasChildren_iff hpm).2 ⟨e, he, hp⟩, Or.inl hpj⟩, ?_⟩
    unfold Graph.served
    rw [if_pos hpj]
    exact (m.mem_children hpm).2 ⟨he, hp⟩
  · obtain ⟨hr, hrp⟩ := m.root_mem he
    have hrj : (g.root e).strategy ≠ .joined := by rw [m.strategy_root he]; exact hj
    refine ⟨g.root e, hr, by rw [if_neg hj], ⟨m.root_hasChildren he hp, Or.inr hrp⟩, ?_⟩
    unfold Graph.served
    rw [if_neg hrj]
    exact (m.mem_descendants_iff hr he).2 (m.root_mem_above he hp)

theorem mem_served (he : e ∈ g.entities) :
    x ∈ g.served e ↔ x ∈ g.entities ∧ if e.strategy = .joined then g.parent? x = some e else e ∈ g.above x := by
  unfold Graph.served
  by_cases hj : e.strategy = .joined
  · rw [if_pos hj, if_pos hj, m.mem_children he]
  · rw [if_neg hj, if_neg hj]
    constructor
    · intro hx
      have hxm := m.mem_of_descendants he hx
      exact ⟨hxm, (m.mem_descendants_iff he hxm).1 hx⟩
    · exact fun ⟨hxm, hx⟩ => (m.mem_descendants_iff he hxm).2 hx

end Maps
end Resolution

namespace Database

/-- **Discriminators identify types.**  Exactly the entities with children that are joined or roots own a discriminator
column, one of the kind in force that takes no null and is no key; every entity with a parent has the value of its text
in the kind in force at its owner; and no owner gives two types that its column tells apart, itself included, one
value. -/
theorem discriminators_identify_types {db : Database} (h : db.Mapped) :
    (∀ e ∈ db.graph.entities,
      ((∃ col ∈ e.ownColumns, col.isDiscriminator = true) ↔
        e.hasChildren = true ∧ (e.strategy = .joined ∨ db.graph.parent? e = none)) ∧
      ∀ col ∈ e.ownColumns, col.isDiscriminator = true → e.ownColumns.filter (·.isDiscriminator) = [col] ∧
        col.nullable = false ∧ col.primaryKey = false) ∧
    (∀ e ∈ db.graph.entities, ∀ p, db.graph.parent? e = some p →
      ∃ owner ∈ db.graph.entities, owner = (if e.strategy = .joined then p else db.graph.root e) ∧
        ∃ disc col raw v, db.graph.discriminatorInForce? owner = some disc ∧ owner.discriminatorColumn? = some col ∧
          col.role = .discriminator disc.kind ∧ e.descriptor.discriminatorValue = some raw ∧
          disc.kind.coerce raw = .ok v ∧ e.discriminatorValue = some v) ∧
    (∀ e ∈ db.graph.entities, e.hasChildren = true ∧ (e.strategy = .joined ∨ db.graph.parent? e = none) →
      ((e :: db.graph.served e).map (·.discriminatorValue)).Nodup ∧
      ∀ x, x ∈ db.graph.served e ↔ x ∈ db.graph.entities ∧
        if e.strategy = .joined then db.graph.parent? x = some e else e ∈ db.graph.above x) := by
  have m := h.maps
  refine ⟨fun e he => ?_, fun e he p hp => ?_, fun e he ho => ⟨m.values_nodup he ho, fun x => m.mem_served he⟩⟩
  · by_cases ho : db.graph.OwnsDiscriminator e
    · obtain ⟨disc, col, -, hf, -, -, hn, hk, -⟩ := m.discriminators_of_owner he ho
      have hmem : ∀ x, x ∈ e.ownColumns ∧ x.isDiscriminator = true ↔ x = col := by
        intro x
        rw [← List.mem_filter, hf, List.mem_singleton]
      refine ⟨⟨fun _ => ho, fun _ => ⟨col, (hmem col).2 rfl⟩⟩, fun x hx hxd => ?_⟩
      cases (hmem x).1 ⟨hx, hxd⟩
      exact ⟨hf, hn, hk⟩
    · have hf := List.filter_eq_nil_iff.1 (m.discriminators_of_not_owner he ho)
      exact ⟨⟨fun ⟨x, hx, hxd⟩ => (hf x hx hxd).elim, fun h => (ho h).elim⟩, fun x hx hxd => (hf x hx hxd).elim⟩
  · obtain ⟨owner, hom, howner, ho, hserved⟩ := m.owner_of_parent he hp
    obtain ⟨-, disc, raw, v, hd, hraw, hv, hval⟩ := m.value_of_served hom ho hserved
    obtain ⟨disc', col, hd', hcol, -, hrole⟩ := m.discriminatorColumn?_of_owner hom ho
    cases hd.symm.trans hd'
    exact ⟨owner, hom, howner, disc, col, raw, v, hd, hcol, hrole, hraw, Resolution.coerce_of_coerceValue hv, hval⟩

/-- In the fleet, whose texts `7`, ` +8 ` and `007` are the integers 7, 8 and 7: the car differs from its parent and the
van from the car, and only these have to. -/
theorem discriminators_identify_types_fleet : fleet.Mapped ∧
    (∀ e ∈ fleet.graph.entities, e.hasChildren = true ∧ (e.strategy = .joined ∨ fleet.graph.parent? e = none) →
      ((e :: fleet.graph.served e).map (·.discriminatorValue)).Nodup) ∧
    fleet.graph.entities.map (·.discriminatorValue) = [some (.integer 7), some (.integer 8), some (.integer 7), none,
      some (.text "driver"), some (.text "boss"), none, some (.text "g")] :=
  ⟨fleet_mapped, fun e he ho => ((discriminators_identify_types fleet_mapped).2.2 e he ho).1, by decide +kernel⟩

end Database
end Ormap
