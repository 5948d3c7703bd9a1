import Ormap.Proofs.Catalog
/-!
# Mapped catalogs — what every entity has settled when all of them resolve

A catalog maps when every entity of it resolves.  Each entity has then settled its place, outline, base columns, columns
and the values given out below it (`Settled`), and so has its parent, with results that its own are computed from
(`Settled.root`, `Settled.child`).  The fields of the entity in the graph are these results.
-/
namespace Ormap
namespace Resolution

variable {cfg : Config} {c : Catalog} {d : EntityDescriptor} {up : List EntityDescriptor} {o : Outline}
  {base cols : List Column} {given : Cells Value}

/-- What an entity that resolves has settled. -/
structure Settled (cfg : Config) (c : Catalog) (d : EntityDescriptor) (up : List EntityDescriptor) (o : Outline)
    (base cols : List Column) (given : Cells Value) : Prop where
  mem : d ∈ c.entities
  above : c.above d = .ok up
  outline : outline cfg c d up = .ok o
  base : baseColumns cfg c d up = .ok base
  columns : columns cfg c d up = .ok cols
  given : givenBelow cfg c d up = .ok given

/-- The graph of a catalog all of whose entities resolve. -/
structure Maps (cfg : Config) (c : Catalog) (g : Graph) : Prop where
  graph_eq : g = graph cfg c
  outcome_eq : outcome cfg c = .ok ()

theorem strategyOf_eq_ok {s : Strategy} (h : strategyOf cfg d up = .ok s) : s = rootStrategy cfg (rootOf d up) := by
  unfold strategyOf at h
  split at h
  · cases h; rfl
  · dsimp only at h
    split at h
    · cases h; rfl
    · cases h

/-- A strategy, a table name and relationships make an outline. -/
theorem outline_eq_ok : outline cfg c d up = .ok o ↔ strategyOf cfg d up = .ok o.strategy ∧
    tableNameOf o.strategy d up = .ok o.tableName ∧ Relationship.ofEntity c d = .ok o.relationships := by
  unfold outline
  constructor
  · intro h
    obtain ⟨s, hs, h⟩ := Outcome.bind_eq_ok.1 h
    obtain ⟨t, ht, h⟩ := Outcome.bind_eq_ok.1 h
    obtain ⟨r, hr, h⟩ := Outcome.bind_eq_ok.1 h
    cases h
    exact ⟨hs, ht, hr⟩
  · rintro ⟨hs, ht, hr⟩
    rw [hs, Outcome.bind_eq_ok]
    exact ⟨_, rfl, Outcome.bind_eq_ok.2 ⟨_, ht, Outcome.bind_eq_ok.2 ⟨_, hr, rfl⟩⟩⟩

theorem rootOf_cons (d p : EntityDescriptor) (up : List EntityDescriptor) : rootOf d (p :: up) = rootOf p up := by
  unfold rootOf
  rw [List.getLast?_cons]
  rfl

/-- The strategy of an entity is the one that its root declares, or the default. -/
theorem Settled.strategy_eq (s : Settled cfg c d up o base cols given) : o.strategy = rootStrategy cfg (rootOf d up) :=
  strategyOf_eq_ok (outline_eq_ok.1 s.outline).1

/-! ## Steps that passed -/

theorem columns_root (h : columns cfg c d [] = .ok cols) : ∃ base o, baseColumns cfg c d [] = .ok base ∧
    outline cfg c d [] = .ok o ∧ extendColumns cfg c o d base [] = .ok cols := by
  unfold columns at h
  obtain ⟨base, hb, h⟩ := Outcome.bind_eq_ok.1 h
  obtain ⟨o, ho, h⟩ := Outcome.bind_eq_ok.1 h
  exact ⟨base, o, hb, ho, h⟩

theorem columns_child {p : EntityDescriptor} (h : columns cfg c d (p :: up) = .ok cols) :
    ∃ base o passed, baseColumns cfg c d (p :: up) = .ok base ∧ outline cfg c d (p :: up) = .ok o ∧
      (if o.strategy = .tablePerClass then columns cfg c p up else .ok []) = .ok passed ∧
      extendColumns cfg c o d base passed = .ok cols := by
  unfold columns at h
  obtain ⟨base, hb, h⟩ := Outcome.bind_eq_ok.1 h
  obtain ⟨o, ho, h⟩ := Outcome.bind_eq_ok.1 h
  refine ⟨base, o, ?_⟩
  split at h
  · rename_i hs
    obtain ⟨passed, hp, h⟩ := Outcome.bind_eq_ok.1 h
    exact ⟨passed, hb, ho, by rw [if_pos hs]; exact hp, h⟩
  · rename_i hs
    obtain ⟨passed, hp, h⟩ := Outcome.bind_eq_ok.1 h
    cases hp
    exact ⟨[], hb, ho, by rw [if_neg hs], h⟩

theorem givenBelow_root (h : givenBelow cfg c d [] = .ok given) : ∃ o cols own, outline cfg c d [] = .ok o ∧
    columns cfg c d [] = .ok cols ∧ rootValue d (ownedDiscriminator? c o.strategy d []) = .ok own ∧
    serve c o.strategy d [] own = .ok given := by
  unfold givenBelow at h
  obtain ⟨o, ho, h⟩ := Outcome.bind_eq_ok.1 h
  obtain ⟨cols, hc, h⟩ := Outcome.bind_eq_ok.1 h
  obtain ⟨own, hv, h⟩ := Outcome.bind_eq_ok.1 h
  exact ⟨o, cols, own, ho, hc, hv, h⟩

theorem givenBelow_child {p : EntityDescriptor} (h : givenBelow cfg c d (p :: up) = .ok given) :
    ∃ o cols above, outline cfg c d (p :: up) = .ok o ∧ columns cfg c d (p :: up) = .ok cols ∧
      givenBelow cfg c p up = .ok above ∧
      (if o.strategy = .joined then serve c o.strategy d (p :: up) (Cells.get? d.typeName above) else .ok above)
        = .ok given := by
  unfold givenBelow at h
  obtain ⟨o, ho, h⟩ := Outcome.bind_eq_ok.1 h
  obtain ⟨cols, hc, h⟩ := Outcome.bind_eq_ok.1 h
  obtain ⟨above, hg, h⟩ := Outcome.bind_eq_ok.1 h
  exact ⟨o, cols, above, ho, hc, hg, h⟩

theorem baseColumns_root (h : baseColumns cfg c d [] = .ok base) : ∃ o, outline cfg c d [] = .ok o ∧
    extendBase c o.strategy d [] [] = .ok base := by
  unfold baseColumns at h
  exact Outcome.bind_eq_ok.1 h

theorem baseColumns_child {p : EntityDescriptor} (h : baseColumns cfg c d (p :: up) = .ok base) :
    ∃ o passed, outline cfg c d (p :: up) = .ok o ∧ baseColumns cfg c p up = .ok passed ∧
      extendBase c o.strategy d (p :: up) passed = .ok base := by
  unfold baseColumns at h
  obtain ⟨o, ho, h⟩ := Outcome.bind_eq_ok.1 h
  obtain ⟨passed, hp, h⟩ := Outcome.bind_eq_ok.1 h
  exact ⟨o, passed, ho, hp, h⟩

/-- **What a root has settled**, each result from those before it. -/
theorem Settled.root (s : Settled cfg c d [] o base cols given) :
    extendBase c o.strategy d [] [] = .ok base ∧ extendColumns cfg c o d base [] = .ok cols ∧
      ∃ own, rootValue d (ownedDiscriminator? c o.strategy d []) = .ok own ∧ serve c o.strategy d [] own = .ok given := by
  obtain ⟨ob, hob, hb⟩ := baseColumns_root s.base
  obtain ⟨b, oc, hbc, hoc, hc⟩ := columns_root s.columns
  obtain ⟨og, _, own, hog, -, hv, hg⟩ := givenBelow_root s.given
  cases s.outline.symm.trans hob
  cases s.outline.symm.trans hoc
  cases s.outline.symm.trans hog
  cases s.base.symm.trans hbc
  exact ⟨hb, hc, own, hv, hg⟩

/-- **What an entity below another has settled**, from what its parent has settled. -/
theorem Settled.child {p : EntityDescriptor} {op : Outline} {baseP colsP : List Column} {givenP : Cells Value}
    (s : Settled cfg c d (p :: up) o base cols given) (sp : Settled cfg c p up op baseP colsP givenP) :
    op.strategy = o.strategy ∧ extendBase c o.strategy d (p :: up) baseP = .ok base ∧
      extendColumns cfg c o d base (if o.strategy = .tablePerClass then colsP else []) = .ok cols ∧
      (if o.strategy = .joined then serve c o.strategy d (p :: up) (Cells.get? d.typeName givenP) else .ok givenP)
        = .ok given := by
  obtain ⟨ob, bP, hob, hbP, hb⟩ := baseColumns_child s.base
  obtain ⟨b, oc, passed, hbc, hoc, hpc, hc⟩ := columns_child s.columns
  obtain ⟨og, _, gP, hog, -, hgP, hg⟩ := givenBelow_child s.given
  cases s.outline.symm.trans hob
  cases s.outline.symm.trans hoc
  cases s.outline.symm.trans hog
  cases s.base.symm.trans hbc
  cases sp.base.symm.trans hbP
  cases sp.given.symm.trans hgP
  refine ⟨by rw [s.strategy_eq, sp.strategy_eq, rootOf_cons], hb, ?_, hg⟩
  split at hpc <;> rename_i hs
  · cases sp.columns.symm.trans hpc
    rw [if_pos hs]; exact hc
  · cases hpc
    rw [if_neg hs]; exact hc

/-! ## The fields of an entity in the graph -/

theorem atPlace_eq {step : List EntityDescriptor → Except ConfigurationError α} (h : c.above d = .ok up) :
    atPlace c d step = step up := by
  unfold atPlace
  rw [h]
  rfl

theorem resolved_entity (cfg : Config) (c : Catalog) (d : EntityDescriptor) :
    (entity cfg c d).resolved = (resolve cfg c d).isOk := by
  unfold Entity.resolved entity
  dsimp only
  cases resolve cfg c d <;> rfl

section
variable (s : Settled cfg c d up o base cols given)
include s

theorem Settled.entity_strategy : (entity cfg c d).strategy = o.strategy := by
  show (atPlace c d (strategyOf cfg d)).toOption.getD .joined = _
  rw [atPlace_eq s.above, (outline_eq_ok.1 s.outline).1]
  rfl

theorem Settled.entity_tableName : (entity cfg c d).tableName = o.tableName := by
  obtain ⟨hs, ht, -⟩ := outline_eq_ok.1 s.outline
  show (atPlace c d (tableStep cfg d)).toOption.join = _
  have h : tableStep cfg d up = .ok o.tableName := Outcome.bind_eq_ok.2 ⟨_, hs, ht⟩
  rw [atPlace_eq s.above, h]
  rfl

theorem Settled.entity_relationships : (entity cfg c d).relationships = o.relationships := by
  show (atPlace c d (Resolution.outline cfg c d)).toOption.elim [] (·.relationships) = _
  rw [atPlace_eq s.above, s.outline]
  rfl

theorem Settled.entity_columns : (entity cfg c d).columns = cols := by
  show (atPlace c d (Resolution.columns cfg c d)).toOption.getD [] = _
  rw [atPlace_eq s.above, s.columns]
  rfl

theorem Settled.resolve_eq : resolve cfg c d = .ok () := by
  show (atPlace c d fun up => do let _ ← givenBelow cfg c d up; return ()) = _
  rw [atPlace_eq s.above, s.given]
  rfl

theorem Settled.entity_resolved : (entity cfg c d).resolved = true := by
  rw [resolved_entity, s.resolve_eq]
  rfl

end

theorem Settled.parent_iff (s : Settled cfg c d up o base cols given) :
    (graph cfg c).parent? (entity cfg c d) = none ↔ up = [] := by
  rw [graph_parent?, Option.map_eq_none_iff]
  cases up with
  | nil => simp [Catalog.above_nil s.above]
  | cons p up => simp [(Catalog.above_cons s.above).1]

theorem Settled.entity_value_root {own : Option Value} (s : Settled cfg c d [] o base cols given)
    (h : rootValue d (ownedDiscriminator? c o.strategy d []) = .ok own) :
    (entity cfg c d).discriminatorValue = own := by
  show (atPlace c d (Resolution.discriminatorValue cfg c d)).toOption.join = _
  rw [atPlace_eq s.above]
  unfold Resolution.discriminatorValue
  rw [s.outline, s.columns]
  show (rootValue d (ownedDiscriminator? c o.strategy d [])).toOption.join = _
  rw [h]
  rfl

theorem Settled.entity_value_child {p : EntityDescriptor} {op : Outline} {baseP colsP : List Column}
    {givenP : Cells Value} (s : Settled cfg c d (p :: up) o base cols given)
    (sp : Settled cfg c p up op baseP colsP givenP) :
    (entity cfg c d).discriminatorValue = Cells.get? d.typeName givenP := by
  show (atPlace c d (Resolution.discriminatorValue cfg c d)).toOption.join = _
  rw [atPlace_eq s.above]
  show (givenBelow cfg c p up >>= fun above => pure (Cells.get? d.typeName above)).toOption.join = _
  rw [sp.given]
  rfl

/-! ## Mapped catalogs -/

/-- **Every entity of a mapped catalog has settled.** -/
theorem Maps.settled {g : Graph} (m : Maps cfg c g) (hd : d ∈ c.entities) :
    ∃ up o base cols given, Settled cfg c d up o base cols given := by
  have h : resolve cfg c d = .ok () := Outcome.forM_eq_ok.1 m.outcome_eq d hd
  obtain ⟨up, hup, h⟩ := Outcome.bind_eq_ok.1 h
  obtain ⟨given, hg, -⟩ := Outcome.bind_eq_ok.1 h
  cases up with
  | nil =>
    obtain ⟨o, cols, own, ho, hc, -, -⟩ := givenBelow_root hg
    obtain ⟨base, -, hb, -, -⟩ := columns_root hc
    exact ⟨[], o, base, cols, given, hd, hup, ho, hb, hc, hg⟩
  | cons p up =>
    obtain ⟨o, cols, above, ho, hc, -, -⟩ := givenBelow_child hg
    obtain ⟨base, -, -, hb, -, -, -⟩ := columns_child hc
    exact ⟨p :: up, o, base, cols, given, hd, hup, ho, hb, hc, hg⟩

/-- The parent of a settled entity has settled too, below the rest of the entities above. -/
theorem Maps.settled_parent {g : Graph} {p : EntityDescriptor} (m : Maps cfg c g)
    (s : Settled cfg c d (p :: up) o base cols given) :
    ∃ op baseP colsP givenP, Settled cfg c p up op baseP colsP givenP := by
  obtain ⟨hp, hup⟩ := Catalog.above_cons s.above
  obtain ⟨up', op, baseP, colsP, givenP, sp⟩ := m.settled (Catalog.mem_of_parent? hp)
  cases hup.symm.trans sp.above
  exact ⟨op, baseP, colsP, givenP, sp⟩

end Resolution
end Ormap
