import Ormap.Proofs.References
/-!
# Mirrors — both sides of a relationship

A mirror is looked up among the declared fields of the entity referred to and of the ancestors of that entity.  A field
that is mapped makes a relationship there, of the reciprocal cardinality and owning exactly if this side does not, with
the foreign-key columns where the two call for them.  Transient fields are declared too, and nothing is mapped for them:
a relationship may have one as its mirror, and then names a foreign key that no table has
(`Database.mirror_mapped_iff`).
-/
namespace Ormap
namespace Relationship

/-- Whether a field declares the other side of a relationship: a reference of the reciprocal cardinality, which owns the
relationship exactly if this side does not. -/
def FacedBy (r : Relationship) (f : FieldDescriptor) : Prop :=
  ∃ back, f.relationship? = some back ∧ back.kind = r.kind.reciprocal ∧ back.mappedBy.isNone = !r.owning

/-- Whether two relationships are the sides of one: of reciprocal cardinalities, exactly one of them owning. -/
structure Opposes (s r : Relationship) : Prop where
  kind_eq : s.kind = r.kind.reciprocal
  owning_eq : s.owning = !r.owning

variable {c : Catalog} {d : EntityDescriptor} {r s : Relationship} {rd : RelationshipDescriptor}

/-- **Which side owns**: the one that names no field of the other.  A many-to-one side always does, a one-to-many side
never. -/
theorem owning?_eq_ok {owning : Bool} (h : owning? rd = .ok owning) : owning = rd.mappedBy.isNone ∧
    (rd.kind = .manyToOne → owning = true) ∧ (rd.kind = .oneToMany → owning = false) := by
  unfold owning? at h
  split at h
  · cases h
  · cases h
  rename_i hmany hone
  cases h
  refine ⟨rfl, fun hk => ?_, fun hk => ?_⟩
  · cases hm : rd.mappedBy with
    | none => rfl
    | some field => exact absurd hm (hmany field hk)
  · cases hm : rd.mappedBy with
    | none => exact absurd hm (hone hk)
    | some field => rfl

theorem mem_references {p : String × RelationshipDescriptor} :
    p ∈ references d ↔ ∃ f ∈ d.fields, f.transient = false ∧ f.name = p.1 ∧ f.relationship? = some p.2 := by
  unfold references
  rw [List.mem_filterMap]
  constructor
  · rintro ⟨f, hf, hp⟩
    obtain ⟨hf, ht⟩ := List.mem_filter.1 hf
    obtain ⟨rd, hrd, rfl⟩ := Option.map_eq_some_iff.1 hp
    exact ⟨f, hf, by simpa using ht, rfl, hrd⟩
  · rintro ⟨f, hf, ht, hn, hrd⟩
    exact ⟨f, List.mem_filter.2 ⟨hf, by simp [ht]⟩, Option.map_eq_some_iff.2 ⟨p.2, hrd, by rw [hn]⟩⟩

theorem hasForeignKey_iff :
    r.hasForeignKey = true ↔ r.owning = true ∧ r.kind ≠ .manyToMany ∧ r.kind ≠ .oneToMany := by
  unfold hasForeignKey
  cases r.owning <;> cases r.kind <;> simp

/-- Of two sides that are not many-to-many the owning one has the foreign key. -/
theorem Opposes.hasForeignKey (h : s.Opposes r) (ho : r.owning = false) (hmany : r.kind ≠ .manyToMany)
    (hone : r.kind ≠ .manyToOne) : s.hasForeignKey = true := by
  rw [hasForeignKey_iff, h.owning_eq, h.kind_eq, ho]
  revert hmany hone
  cases r.kind <;> simp [Cardinality.reciprocal]

end Relationship

namespace Resolution
namespace Maps

variable {cfg : Config} {c : Catalog} {g : Graph} {e x : Entity} {r s : Relationship} {n : FieldName}
  (m : Maps cfg c g)
include m

/-- **The relationships of an entity are those of its mapped reference fields.** -/
theorem mem_relationships (he : e ∈ g.entities) (hr : r ∈ e.relationships) :
    ∃ f ∈ e.descriptor.fields, f.transient = false ∧ f.name = r.field ∧ ∃ rd, f.relationship? = some rd ∧
      rd.kind = r.kind ∧ Relationship.classify c e.descriptor f.name rd = .ok r := by
  obtain ⟨p, hp, hcl⟩ := Relationship.of_mem_ofEntity (m.relationships_eq he) hr
  obtain ⟨f, hf, ht, hn, hrd⟩ := Relationship.mem_references.1 hp
  obtain ⟨-, hfield, -, hkind, -⟩ := Relationship.classify_eq_ok hcl
  exact ⟨f, hf, ht, hn.trans hfield.symm, p.2, hrd, hkind.symm, hn ▸ hcl⟩

theorem exists_relationship (he : e ∈ g.entities) {f : FieldDescriptor} (hf : f ∈ e.descriptor.fields)
    (ht : f.transient = false) {rd : RelationshipDescriptor} (hrd : f.relationship? = some rd) :
    ∃ s ∈ e.relationships, Relationship.classify c e.descriptor f.name rd = .ok s := by
  obtain ⟨s, hs, hcl⟩ := Outcome.exists_of_mem_left (Relationship.ofEntity_eq_ok (m.relationships_eq he)) (f.name, rd)
    (Relationship.mem_references.2 ⟨f, hf, ht, rfl, hrd⟩)
  exact ⟨s, hs, hcl⟩

/-- The cardinality of a relationship says which side owns, where it says so. -/
theorem owning_of_kind (he : e ∈ g.entities) (hr : r ∈ e.relationships) :
    (r.kind = .manyToOne → r.owning = true) ∧ (r.kind = .oneToMany → r.owning = false) := by
  obtain ⟨f, -, -, -, rd, -, hkind, hcl⟩ := m.mem_relationships he hr
  obtain ⟨-, -, -, -, -, -, linked, -, ho, -⟩ := Relationship.classify_eq_ok hcl
  rw [← hkind]
  exact (Relationship.owning?_eq_ok ho).2

/-- **The mirror of a relationship is declared**, by a field of the entity that the mirror names. -/
theorem exists_mirror (he : e ∈ g.entities) (hr : r ∈ e.relationships) (hn : r.mirror = some n) :
    ∃ x, g.find? n.entity = some x ∧ ∃ f ∈ x.descriptor.fields, f.name = n.field ∧ r.FacedBy f := by
  obtain ⟨f, -, -, -, rd, -, hkind, hcl⟩ := m.mem_relationships he hr
  obtain ⟨-, -, -, -, -, -, linked, hl, ho, -, hm⟩ := Relationship.classify_eq_ok hcl
  rw [hn] at hm
  obtain ⟨holder, hh, hhn, back, hb, hbn, brd, hbrd, hbk, hbo⟩ :=
    Relationship.declares_mirror (Catalog.find?_eq_some_iff.1 hl).1 hm
  refine ⟨entity cfg c holder, ?_, back, hb, hbn, brd, hbrd, by rw [hbk, hkind], ?_⟩
  · obtain rfl := m.graph_eq
    rw [graph_find?, ← hhn, Catalog.find?_typeName hh]
    rfl
  · rw [hbo, (Relationship.owning?_eq_ok ho).1]

/-- **A mapped field that faces a relationship makes its other side.** -/
theorem exists_opposite (hx : x ∈ g.entities) {f : FieldDescriptor} (hf : f ∈ x.descriptor.fields)
    (ht : f.transient = false) (hr : r.FacedBy f) : ∃ s ∈ x.relationships, s.field = f.name ∧ s.Opposes r := by
  obtain ⟨rd, hrd, hkind, howning⟩ := hr
  obtain ⟨s, hs, hcl⟩ := m.exists_relationship hx hf ht hrd
  obtain ⟨-, hfield, -, hk, -, -, linked, -, ho, -⟩ := Relationship.classify_eq_ok hcl
  exact ⟨s, hs, hfield, hk.trans hkind, by rw [(Relationship.owning?_eq_ok ho).1, howning]⟩

/-- The other side of a relationship comes from a mapped field that faces it. -/
theorem exists_facing (hx : x ∈ g.entities) (hs : s ∈ x.relationships) (h : s.Opposes r) :
    ∃ f ∈ x.descriptor.fields, f.transient = false ∧ f.name = s.field ∧ r.FacedBy f := by
  obtain ⟨f, hf, ht, hn, rd, hrd, hkind, hcl⟩ := m.mem_relationships hx hs
  obtain ⟨-, -, -, -, -, -, linked, -, ho, -⟩ := Relationship.classify_eq_ok hcl
  exact ⟨f, hf, ht, hn, rd, hrd, by rw [hkind, h.kind_eq], by rw [← (Relationship.owning?_eq_ok ho).1, h.owning_eq]⟩

/-- **Where the mirror of a relationship has the foreign key, its entity has the columns.** -/
theorem foreignKey_of_holder (he : e ∈ g.entities) (hr : r ∈ e.relationships) (hn : r.mirror = some n)
    (hholder : r.foreignKeyHolder? = some n) (hx : g.find? n.entity = some x) (hs : s ∈ x.relationships)
    (hfield : s.field = n.field) (h : s.Opposes r) : x.foreignKeyPairs n.field ≠ [] := by
  obtain ⟨hxm, hxn⟩ := m.find?_eq_some_iff.1 hx
  obtain ⟨hmany, hone⟩ := m.owning_of_kind he hr
  unfold Relationship.foreignKeyHolder? at hholder
  split at hholder
  · cases hholder
  rename_i hkind
  split at hholder
  · -- the side that owns is itself the holder, with the columns of its own field
    rename_i ho
    cases hholder
    obtain ⟨f, -, -, -, rd, -, -, hcl⟩ := m.mem_relationships he hr
    have hsource : x = e := m.eq_of_typeName hxm he (hxn.trans (Relationship.classify_eq_ok hcl).1)
    have hfk : r.hasForeignKey = true := by
      refine Relationship.hasForeignKey_iff.2 ⟨ho, hkind, fun hk => ?_⟩
      rw [hone hk] at ho
      cases ho
    obtain ⟨p, hp⟩ := m.exists_foreignKeyPair he hr hfk
    rw [hsource]
    exact List.ne_nil_of_mem hp
  · rename_i ho
    have howned : r.kind ≠ .manyToOne := fun hk => ho (hmany hk)
    obtain ⟨p, hp⟩ := m.exists_foreignKeyPair hxm hs (h.hasForeignKey (Bool.eq_false_iff.2 ho) hkind howned)
    rw [← hfield]
    exact List.ne_nil_of_mem hp

end Maps
end Resolution

namespace Database

/-- **When the mirror of a relationship is mapped.**  The entity that a mirror names declares a field of its name that
faces the relationship.  The entity has a relationship of that name that is the other side, exactly one of the two
owning, if and only if such a field is not transient.  It then also has foreign-key columns of the field where the
relationship has its foreign key there. -/
theorem mirror_mapped_iff {db : Database} (h : db.Mapped) {e : Entity} (he : e ∈ db.graph.entities) {r : Relationship}
    (hr : r ∈ e.relationships) {n : FieldName} (hn : r.mirror = some n) :
    ∃ x, db.graph.find? n.entity = some x ∧ (∃ f ∈ x.descriptor.fields, f.name = n.field ∧ r.FacedBy f) ∧
      ((∃ s ∈ x.relationships, s.field = n.field ∧ s.Opposes r) ↔
        ∃ f ∈ x.descriptor.fields, f.transient = false ∧ f.name = n.field ∧ r.FacedBy f) ∧
      ((∃ s ∈ x.relationships, s.field = n.field ∧ s.Opposes r) → r.foreignKeyHolder? = some n →
        x.foreignKeyPairs n.field ≠ []) := by
  have m := h.maps
  obtain ⟨x, hx, hdeclared⟩ := m.exists_mirror he hr hn
  have hxm := (m.find?_eq_some_iff.1 hx).1
  refine ⟨x, hx, hdeclared, ⟨?_, ?_⟩, ?_⟩
  · rintro ⟨s, hs, hfield, hopposes⟩
    obtain ⟨f, hf, ht, hfn, hfaced⟩ := m.exists_facing hxm hs hopposes
    exact ⟨f, hf, ht, hfn.trans hfield, hfaced⟩
  · rintro ⟨f, hf, ht, hfn, hfaced⟩
    obtain ⟨s, hs, hfield, hopposes⟩ := m.exists_opposite hxm hf ht hfaced
    exact ⟨s, hs, hfield.trans hfn, hopposes⟩
  · rintro ⟨s, hs, hfield, hopposes⟩ hholder
    exact m.foreignKey_of_holder he hr hn hholder hx hs hfield hopposes

/-! ## A league

The players of a team name the field `team`, which members declare for all that are players or staff.  The captain of a
team names a field of players that is transient. -/

open FieldDescriptor in
def leagueEntities : List EntityDescriptor := [
  { typeName := "Member", table := some {}, inheritance := some .joined,
    discriminatorColumn := some { name := "kind" }, discriminatorValue := some "member",
    fields := [(plain "id" .long).asId, reference "team" (.manyToOne "Team")] },
  { typeName := "Player", ancestors := ["Member"], table := some {}, discriminatorValue := some "player",
    fields := [(reference "leads" (.oneToOne "Team")).asTransient] },
  { typeName := "Team", table := some {},
    fields := [(plain "id" .long).asId, reference "players" (.oneToMany "Player" "team"),
      reference "captain" (RelationshipDescriptor.withMappedBy (.oneToOne "Player") "leads")] }]

def leagueEntries : Except ConfigurationError Database := ofEntities { name := "league" } leagueEntities

theorem leagueEntries_isSome : leagueEntries.toOption.isSome = true := by decide +kernel

def league : Database := (leagueEntries.toOption.get leagueEntries_isSome).map

theorem league_mapped : league.Mapped :=
  ⟨(reachable_ofEntities (Outcome.eq_ok_get leagueEntries_isSome)).map, by decide +kernel⟩

def leagueEntity (i : Fin 3) : Entity := league.graph.entities.get (i.cast (by decide +kernel))

def leaguePlayers : Relationship := (leagueEntity 2).relationships.head (by decide +kernel)

/-- The team of a member is the other side of the players of a team, and members have its columns. -/
theorem mirror_mapped_iff_league : league.graph.find? "Member" = some (leagueEntity 0) ∧
    (∃ s ∈ (leagueEntity 0).relationships, s.field = "team" ∧ s.Opposes leaguePlayers) ∧
    (leagueEntity 0).foreignKeyPairs "team" ≠ [] := by
  have hmember : league.graph.find? "Member" = some (leagueEntity 0) := by decide +kernel
  obtain ⟨x, hx, -, hiff, hkey⟩ := mirror_mapped_iff league_mapped (e := leagueEntity 2) (by decide +kernel)
    (r := leaguePlayers) (by decide +kernel) (n := ⟨"Member", "team"⟩) (by decide +kernel)
  obtain rfl := Option.some.inj (hx.symm.trans hmember)
  have hs := hiff.2 ⟨(leagueEntity 0).descriptor.fields.getLast (by decide +kernel), by decide +kernel,
    by decide +kernel, by decide +kernel, .manyToOne "Team", by decide +kernel, by decide +kernel, by decide +kernel⟩
  exact ⟨hmember, hs, hkey hs (by decide +kernel)⟩

/-- **The captain of a team has a mirror that nothing is mapped for**: the foreign key is held to be a field of players,
and players have neither a relationship of that name nor columns of it. -/
theorem transient_mirror_unmapped : league.Mapped ∧ ∃ e ∈ league.graph.entities, ∃ r ∈ e.relationships,
    r.mirror = some ⟨"Player", "leads"⟩ ∧ r.foreignKeyHolder? = some ⟨"Player", "leads"⟩ ∧
    ∃ x, league.graph.find? "Player" = some x ∧ (∀ s ∈ x.relationships, s.field ≠ "leads") ∧
      x.foreignKeyPairs "leads" = [] ∧ ∀ rc ∈ x.columns, rc.field ≠ "leads" := by
  refine ⟨league_mapped, leagueEntity 2, by decide +kernel, (leagueEntity 2).relationships.getLast (by decide +kernel),
    by decide +kernel, by decide +kernel, by decide +kernel, leagueEntity 1, by decide +kernel, by decide +kernel,
    by decide +kernel, by decide +kernel⟩

end Database
end Ormap
