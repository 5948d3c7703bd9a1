import Ormap.Proofs.Columns
/-!
# Foreign keys — relationships, and the columns that they produce

A relationship of an entity comes from one of its mapped fields and refers to an entity of the catalog.  Its foreign-key
columns name it, and each refers to a base column of its target.
-/
namespace Ormap
namespace Relationship

variable {c : Catalog} {d : EntityDescriptor}

/-- **What a classified relationship takes over** from its field, and what it has passed. -/
theorem classify_eq_ok {field : String} {rd : RelationshipDescriptor} {r : Relationship}
    (h : classify c d field rd = .ok r) :
    r.source = d.typeName ∧ r.field = field ∧ r.target = rd.target ∧ r.kind = rd.kind ∧
      r.joinColumns = rd.joinColumns ∧ r.joinTable = rd.joinTable ∧
      ∃ linked, c.find? rd.target = some linked ∧ owning? rd = .ok r.owning ∧ placementFault? rd r.owning = none ∧
        findMirror d field rd linked (mirrorScope c linked) = .ok r.mirror := by
  unfold classify at h
  split at h
  · cases h
  · cases h
  rename_i linked owning hl ho
  split at h
  · cases h
  rename_i hp
  unfold resolve at h
  obtain ⟨mirror, hm, h⟩ := Outcome.bind_eq_ok.1 h
  cases h
  exact ⟨rfl, rfl, (Catalog.find?_eq_some_iff.1 hl).2, rfl, rfl, rfl, linked, hl, ho, hp, hm⟩

/-- The reference fields of an entity, in order, each with what it declares. -/
def references (d : EntityDescriptor) : List (String × RelationshipDescriptor) :=
  (d.fields.filter (!·.transient)).filterMap fun f => f.relationship?.map (f.name, ·)

theorem ofEntity_eq_ok {rs : List Relationship} (h : ofEntity c d = .ok rs) :
    List.Forall₂ (fun p r => classify c d p.1 p.2 = .ok r) (references d) rs := Outcome.mapM_eq_ok.1 h

theorem of_mem_ofEntity {rs : List Relationship} (h : ofEntity c d = .ok rs) {r : Relationship} (hr : r ∈ rs) :
    ∃ p ∈ references d, classify c d p.1 p.2 = .ok r := Outcome.exists_of_mem_right (ofEntity_eq_ok h) r hr

theorem map_field_ofEntity {rs : List Relationship} (h : ofEntity c d = .ok rs) :
    rs.map (·.field) = (references d).map (·.1) := by
  replace h := ofEntity_eq_ok h
  generalize references d = fields at h ⊢
  induction h with
  | nil => rfl
  | cons hr _ ih => rw [List.map_cons, List.map_cons, ih, (classify_eq_ok hr).2.1]

/-- **Where no field name repeats, no two relationships have one field.** -/
theorem fields_nodup {rs : List Relationship} (h : ofEntity c d = .ok rs) (hn : (d.fields.map (·.name)).Nodup) :
    (rs.map (·.field)).Nodup := by
  rw [map_field_ofEntity h]
  refine List.Nodup.sublist ?_ hn
  have hsub : ∀ l : List FieldDescriptor,
      ((l.filterMap fun f => f.relationship?.map (f.name, ·)).map (·.1)).Sublist (l.map (·.name)) := by
    intro l
    induction l with
    | nil => exact List.Sublist.refl _
    | cons f l ih =>
      cases hf : f.relationship? with
      | none =>
        rw [List.filterMap_cons_none (by rw [hf]; rfl), List.map_cons]
        exact ih.cons _
      | some rd =>
        rw [List.filterMap_cons_some (by rw [hf]; rfl), List.map_cons, List.map_cons]
        exact ih.cons_cons _
  exact (hsub _).trans (List.filter_sublist.map _)

/-! ## Mirrors -/

theorem mem_of_mirrorScope {linked : EntityDescriptor} (hl : linked ∈ c.entities) :
    ∀ a ∈ mirrorScope c linked, a ∈ c.entities := by
  intro a ha
  rcases List.mem_cons.1 ha with rfl | ha
  · exact hl
  · obtain ⟨name, -, hn⟩ := List.mem_filterMap.1 ha
    exact (Catalog.find?_eq_some_iff.1 hn).1

/-- A field found in some entities is found in one of them. -/
theorem of_findSome? {scope : List EntityDescriptor} {find : EntityDescriptor → Option FieldDescriptor}
    {p : EntityDescriptor × FieldDescriptor} (h : scope.findSome? (fun a => (find a).map (a, ·)) = some p) :
    p.1 ∈ scope ∧ find p.1 = some p.2 := by
  obtain ⟨a, ha, hap⟩ := List.exists_of_findSome?_eq_some h
  obtain ⟨x, hx, rfl⟩ := Option.map_eq_some_iff.1 hap
  exact ⟨ha, hx⟩

/-- What a side that does not own names is a reference field that owns, of the reciprocal cardinality. -/
theorem of_checkMirror {mappedBy : String} {rd : RelationshipDescriptor} {scope : List EntityDescriptor}
    {mirror : FieldName} (h : checkMirror d rd scope mappedBy = .ok mirror) :
    ∃ holder ∈ scope, holder.typeName = mirror.entity ∧ ∃ f ∈ holder.fields, f.name = mirror.field ∧
      ∃ back, f.relationship? = some back ∧ back.kind = rd.kind.reciprocal ∧ back.mappedBy = none := by
  unfold checkMirror at h
  split at h
  · cases h
  rename_i holder f hd
  split at h
  · cases h
  rename_i back hb
  split at h
  · cases h
  rename_i hk
  split at h
  · cases h
  rename_i hm
  split at h
  · cases h
    obtain ⟨hmem, hf⟩ := of_findSome? hd
    exact ⟨holder, hmem, rfl, f, List.mem_of_find?_eq_some hf, by simpa using List.find?_some hf, back, hb,
      not_not.1 hk, by simpa using hm⟩
  · cases h

/-- What is found to name an owning field is a reference field that does not own, of the reciprocal cardinality. -/
theorem of_findInverse {field : String} {rd : RelationshipDescriptor} {scope : List EntityDescriptor}
    {mirror : FieldName} (h : findInverse d field rd scope = .ok (some mirror)) :
    ∃ holder ∈ scope, holder.typeName = mirror.entity ∧ ∃ f ∈ holder.fields, f.name = mirror.field ∧
      ∃ back, f.relationship? = some back ∧ back.kind = rd.kind.reciprocal ∧ back.mappedBy = some field := by
  unfold findInverse at h
  split at h
  · cases h
  rename_i holder f hi
  split at h
  · rename_i hk
    cases h
    obtain ⟨hmem, hf⟩ := of_findSome? hi
    obtain ⟨back, hb, hk⟩ := Option.map_eq_some_iff.1 hk
    have hinverse : isInverse d field f = true := List.find?_some hf
    unfold isInverse at hinverse
    rw [hb, Bool.and_eq_true, beq_iff_eq] at hinverse
    exact ⟨holder, hmem, rfl, f, List.mem_of_find?_eq_some hf, rfl, back, hb, hk, hinverse.1⟩
  · cases h

/-- **A mirror is a declared field of an entity of the catalog**: a reference field of the reciprocal cardinality, which
owns the relationship exactly if the other side does not. -/
theorem declares_mirror {field : String} {rd : RelationshipDescriptor} {linked : EntityDescriptor} {mirror : FieldName}
    (hl : linked ∈ c.entities) (h : findMirror d field rd linked (mirrorScope c linked) = .ok (some mirror)) :
    ∃ holder ∈ c.entities, holder.typeName = mirror.entity ∧ ∃ f ∈ holder.fields, f.name = mirror.field ∧
      ∃ back, f.relationship? = some back ∧ back.kind = rd.kind.reciprocal ∧
        back.mappedBy.isNone = !rd.mappedBy.isNone := by
  unfold findMirror at h
  split at h
  · rename_i mappedBy hrd
    split at h
    · rename_i found hc
      cases h
      obtain ⟨holder, hm, hn, f, hf, hfn, back, hb, hk, hnone⟩ := of_checkMirror hc
      exact ⟨holder, mem_of_mirrorScope hl holder hm, hn, f, hf, hfn, back, hb, hk, by rw [hnone, hrd]; rfl⟩
    · cases h
  · rename_i hrd
    obtain ⟨holder, hm, hn, f, hf, hfn, back, hb, hk, hsome⟩ := of_findInverse h
    exact ⟨holder, mem_of_mirrorScope hl holder hm, hn, f, hf, hfn, back, hb, hk, by rw [hsome, hrd]; rfl⟩

end Relationship

namespace Resolution

variable {cfg : Config} {c : Catalog} {d : EntityDescriptor} {r : Relationship}

/-! ## Columns of relationships -/

theorem mem_of_referencedColumn {target : String} {columns keys : List Column} (hk : ∀ k ∈ keys, k ∈ columns)
    {j : JoinColumnDescriptor} {col : Column} (h : referencedColumn target columns keys j = .ok col) :
    col ∈ columns := by
  unfold referencedColumn at h
  split at h
  · split at h
    · rename_i hf
      cases h
      exact List.mem_of_find?_eq_some hf
    · cases h
  · split at h
    · cases h
      exact hk _ List.mem_cons_self
    · cases h

section
variable {declared : List JoinColumnDescriptor} {target : String} {columns : List Column}
  {defaultName : String → String} {js : List JoinColumn} (h : joinColumns declared target columns defaultName = .ok js)
include h

/-- **The join columns are those declared**, in their order, or one for each key column where none is declared. -/
theorem joinColumns_eq_ok : columns.filter (·.primaryKey) ≠ [] ∧
    (declared = [] ∧ js = (columns.filter (·.primaryKey)).map (JoinColumn.ofKey defaultName) ∨
      declared ≠ [] ∧ List.Forall₂ (fun jd j => ∃ col,
        referencedColumn target columns (columns.filter (·.primaryKey)) jd = .ok col ∧
          j = JoinColumn.ofDeclared defaultName jd col) declared js) := by
  unfold joinColumns at h
  dsimp only at h
  split at h
  · cases h
  rename_i hkeys
  refine ⟨fun hn => hkeys (by rw [hn]; rfl), ?_⟩
  split at h
  · rename_i hnone
    cases h
    exact Or.inl ⟨List.isEmpty_iff.1 hnone, rfl⟩
  · rename_i hsome
    refine Or.inr ⟨fun hn => hsome (by rw [hn]; rfl), (Outcome.mapM_eq_ok.1 h).imp fun jd j hj => ?_⟩
    obtain ⟨col, hcol, hj⟩ := Outcome.bind_eq_ok.1 hj
    cases hj
    exact ⟨col, hcol, rfl⟩

/-- **Every join column refers to one of the columns offered.** -/
theorem referenced_of_joinColumns : ∀ j ∈ js, j.referenced ∈ columns := by
  intro j hj
  obtain ⟨-, ⟨-, rfl⟩ | ⟨-, hall⟩⟩ := joinColumns_eq_ok h
  · obtain ⟨key, hk, rfl⟩ := List.mem_map.1 hj
    exact (List.mem_filter.1 hk).1
  · obtain ⟨jd, -, col, hcol, rfl⟩ := Outcome.exists_of_mem_right hall j hj
    exact mem_of_referencedColumn (fun k hk => (List.mem_filter.1 hk).1) hcol

theorem joinColumns_ne_nil : js ≠ [] := by
  obtain ⟨hkeys, ⟨-, rfl⟩ | ⟨hne, hall⟩⟩ := joinColumns_eq_ok h
  · exact fun hn => hkeys (List.map_eq_nil_iff.1 hn)
  · rintro rfl
    exact hne (List.forall₂_nil_right_iff.1 hall)

end

theorem underField_eq_ok {entity field : String} {x : Except FieldFault α} {a : α} :
    underField entity field x = .ok a ↔ x = .ok a := by
  cases x <;> simp [underField]

/-- The columns of a relationship, one for each of its join columns. -/
theorem relationshipColumns_eq_ok {base cols : List Column} (h : relationshipColumns cfg r base = .ok cols) :
    ∃ js, joinColumns r.joinColumns r.target base (Naming.defaultForeignKeyName r.field) = .ok js ∧
      cols = js.map (foreignKeyColumn cfg r (js.length == 1)) := by
  unfold relationshipColumns at h
  obtain ⟨js, hj, h⟩ := Outcome.bind_eq_ok.1 h
  cases h
  exact ⟨js, underField_eq_ok.1 hj, rfl⟩

theorem foreignKeysOf_eq_ok {cols : List Column} (h : foreignKeysOf cfg c r = .ok cols) :
    ∃ target base, c.find? r.target = some target ∧ baseColumnsOf cfg c target = .ok base ∧
      relationshipColumns cfg r base = .ok cols := by
  unfold foreignKeysOf at h
  split at h
  · cases h
  · rename_i target ht
    obtain ⟨base, hb, h⟩ := Outcome.bind_eq_ok.1 h
    exact ⟨target, base, ht, hb, h⟩

theorem ownForeignKeys_eq_ok {rs : List Relationship} {cols : List Column} (h : ownForeignKeys cfg c rs = .ok cols) :
    ∃ groups, List.Forall₂ (fun r group => foreignKeysOf cfg c r = .ok group) (rs.filter (·.hasForeignKey)) groups ∧
      cols = groups.flatten := by
  unfold ownForeignKeys at h
  obtain ⟨groups, hg, h⟩ := Outcome.bind_eq_ok.1 h
  cases h
  exact ⟨groups, Outcome.mapM_eq_ok.1 hg, rfl⟩

/-- **What an own foreign-key column is**: produced by an owning relationship, for a base column of its target. -/
theorem of_mem_ownForeignKeys {rs : List Relationship} {cols : List Column} (h : ownForeignKeys cfg c rs = .ok cols)
    {col : Column} (hc : col ∈ cols) : ∃ r ∈ rs, r.hasForeignKey = true ∧ ∃ target base j isOnly,
      c.find? r.target = some target ∧ baseColumnsOf cfg c target = .ok base ∧ j.referenced ∈ base ∧
      col = foreignKeyColumn cfg r isOnly j := by
  obtain ⟨groups, hg, rfl⟩ := ownForeignKeys_eq_ok h
  obtain ⟨group, hgm, hc⟩ := List.mem_flatten.1 hc
  obtain ⟨r, hr, hf⟩ := Outcome.exists_of_mem_right hg group hgm
  obtain ⟨hr, hfk⟩ := List.mem_filter.1 hr
  obtain ⟨target, base, ht, hb, hrc⟩ := foreignKeysOf_eq_ok hf
  obtain ⟨js, hj, rfl⟩ := relationshipColumns_eq_ok hrc
  obtain ⟨j, hjm, rfl⟩ := List.mem_map.1 hc
  exact ⟨r, hr, hfk, target, base, j, _, ht, hb, referenced_of_joinColumns hj j hjm, rfl⟩

/-- Every owning relationship produces a foreign-key column. -/
theorem exists_mem_ownForeignKeys {rs : List Relationship} {cols : List Column}
    (h : ownForeignKeys cfg c rs = .ok cols) (hr : r ∈ rs) (hfk : r.hasForeignKey = true) :
    ∃ col ∈ cols, ∃ key, col.foreignKey? = some key ∧ key.relationship = r.field := by
  obtain ⟨groups, hg, rfl⟩ := ownForeignKeys_eq_ok h
  obtain ⟨group, hgm, hf⟩ := Outcome.exists_of_mem_left hg r (List.mem_filter.2 ⟨hr, hfk⟩)
  obtain ⟨target, base, -, -, hrc⟩ := foreignKeysOf_eq_ok hf
  obtain ⟨js, hj, rfl⟩ := relationshipColumns_eq_ok hrc
  obtain ⟨j, hjm⟩ := List.exists_mem_of_ne_nil js (joinColumns_ne_nil hj)
  exact ⟨_, List.mem_flatten.2 ⟨_, hgm, List.mem_map_of_mem hjm⟩, _, rfl, rfl⟩

end Resolution
end Ormap
