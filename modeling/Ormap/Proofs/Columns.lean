import Ormap.Proofs.Hierarchy
/-!
# Column sets — own columns, and the copies that descendants carry

The columns of an entity are the base columns passed on by its parent, its own base columns, the foreign keys passed on
by its parent, and its own foreign keys, in this order and with distinct names (`Maps.columns_eq`).  Every column is one
that an entity on the way from the root owns, or a copy of it (`Maps.exists_own`).
-/
namespace Ormap
namespace Column

/-- The column of which a copy is a copy; an own column is its own original. -/
def original (c : Column) : Column := { c with inherited := false }

@[simp] theorem name_original (c : Column) : c.original.name = c.name := rfl

@[simp] theorem isForeignKey_inheritedCopy (c : Column) : c.inheritedCopy.isForeignKey = c.isForeignKey := rfl

@[simp] theorem inherited_inheritedCopy (c : Column) : c.inheritedCopy.inherited = true := rfl

theorem original_of_own {c : Column} (h : c.inherited = false) : c.original = c := by
  cases c
  cases h
  rfl

theorem original_of_mem_own {c : Column} {e : Entity} (h : c ∈ e.ownColumns) : c.original = c :=
  original_of_own (by simpa using (List.mem_filter.1 h).2)

theorem isDiscriminator_iff {c : Column} : c.isDiscriminator = true ↔ ∃ kind, c.role = .discriminator kind := by
  unfold isDiscriminator
  cases c.role <;> simp

theorem isForeignKey_iff {c : Column} : c.isForeignKey = true ↔ ∃ key, c.role = .foreignKey key := by
  unfold isForeignKey foreignKey?
  cases c.role <;> simp

theorem role_eq_simple {c : Column} (hk : c.isForeignKey = false) (hd : c.isDiscriminator = false) :
    c.role = .simple := by
  cases hr : c.role with
  | simple => rfl
  | foreignKey key =>
    rw [isForeignKey_iff.2 ⟨key, hr⟩] at hk
    cases hk
  | discriminator kind =>
    rw [isDiscriminator_iff.2 ⟨kind, hr⟩] at hd
    cases hd

/-! ## Distinct names -/

theorem firstRepeated_go : ∀ (seen names : List String),
    firstRepeated.go seen names = none ↔ names.Nodup ∧ ∀ n ∈ names, n ∉ seen
  | seen, [] => by simp [firstRepeated.go]
  | seen, n :: ns => by
    unfold firstRepeated.go
    by_cases hn : n ∈ seen
    · simp [hn]
    · rw [if_neg hn, firstRepeated_go (n :: seen) ns, List.nodup_cons]
      constructor
      · rintro ⟨hnd, hs⟩
        refine ⟨⟨fun h => hs n h List.mem_cons_self, hnd⟩, fun x hx => ?_⟩
        rcases List.mem_cons.1 hx with rfl | hx
        · exact hn
        · exact fun h => hs x hx (List.mem_cons_of_mem _ h)
      · rintro ⟨⟨hnn, hnd⟩, hs⟩
        refine ⟨hnd, fun x hx h => ?_⟩
        rcases List.mem_cons.1 h with rfl | h
        · exact hnn hx
        · exact hs x (List.mem_cons_of_mem _ hx) h

/-- **No name stands in a list a second time exactly when its names are distinct.** -/
theorem firstRepeated_eq_none {names : List String} : firstRepeated names = none ↔ names.Nodup := by
  unfold firstRepeated
  rw [firstRepeated_go]
  simp

theorem checkDistinct_eq_ok {entity : String} {columns : List Column} :
    checkDistinct entity columns = .ok () ↔ (columns.map (·.name)).Nodup := by
  unfold checkDistinct
  rw [← firstRepeated_eq_none]
  cases firstRepeated (columns.map (·.name)) <;> simp

end Column

/-- In a list with distinct keys one item has a key. -/
theorem filter_key_eq_singleton {key : α → String} : ∀ {l : List α}, (l.map key).Nodup → ∀ {a : α}, a ∈ l →
    l.filter (fun b => key b == key a) = [a]
  | [], _, _, ha => by cases ha
  | b :: l, hl, a, ha => by
    rw [List.map_cons, List.nodup_cons] at hl
    rcases List.mem_cons.1 ha with rfl | ha
    · rw [List.filter_cons_of_pos (by simp)]
      congr 1
      refine List.filter_eq_nil_iff.2 fun x hx h => hl.1 (List.mem_map.2 ⟨x, hx, ?_⟩)
      simpa using h
    · have hb : key b ≠ key a := fun h => hl.1 (h ▸ List.mem_map_of_mem ha)
      rw [List.filter_cons_of_neg (by simpa using hb), filter_key_eq_singleton hl.2 ha]

namespace Resolution

variable {cfg : Config} {c : Catalog} {d : EntityDescriptor} {up : List EntityDescriptor} {strategy : Strategy}
  {own : List Column}

/-! ## Own base columns -/

/-- **A plain column is that of a field that is mapped to one**, a key only at a root. -/
theorem of_mem_plainColumns {isRoot : Bool} {plain : List Column} (h : plainColumns d isRoot = .ok plain) {col : Column}
    (hc : col ∈ plain) : ∃ f ∈ d.fields, ∃ type isKey column, f.mapping = .column type isKey column ∧
      (isKey = true → isRoot = true) ∧ col = Column.plain d.typeName f.name type isKey column := by
  unfold plainColumns at h
  obtain ⟨l, hl, h⟩ := Outcome.bind_eq_ok.1 h
  cases h
  obtain ⟨x, hx, hxc⟩ := List.mem_filterMap.1 hc
  cases hxc
  obtain ⟨f, hf, hfc⟩ := Outcome.exists_of_mem_right (Outcome.mapM_eq_ok.1 hl) _ hx
  refine ⟨f, (List.mem_filter.1 hf).1, ?_⟩
  unfold plainColumn at hfc
  cases hm : f.mapping with
  | relationship r => rw [hm] at hfc; cases hfc
  | column type isKey column =>
    rw [hm] at hfc
    dsimp only at hfc
    split at hfc
    · cases hfc
    · rename_i hk
      cases hfc
      refine ⟨type, isKey, column, rfl, fun hi => ?_, rfl⟩
      rw [hi] at hk
      simpa using hk

theorem placeDiscriminator_eq_ok {disc : DiscriminatorDescriptor} {plain : List Column}
    (h : placeDiscriminator d disc plain = .ok own) :
    (own = plain ++ [Column.ofDiscriminator d.typeName disc] ∧ ∀ x ∈ plain, x.name ≠ disc.name) ∨
    (∃ x ∈ plain, x.name = disc.name ∧ x.primaryKey = false ∧ x.type.sqlType = disc.kind.type.sqlType ∧
      own = plain.map fun y => if y.name = disc.name then y.asDiscriminator disc.kind else y) := by
  unfold placeDiscriminator at h
  cases hf : plain.find? (·.name == disc.name) with
  | none =>
    rw [hf] at h
    cases h
    exact Or.inl ⟨rfl, fun x hx => by simpa using List.find?_eq_none.1 hf x hx⟩
  | some x =>
    rw [hf] at h
    dsimp only at h
    split at h
    · cases h
    rename_i hk
    split at h
    · cases h
    rename_i ht
    cases h
    exact Or.inr ⟨x, List.mem_of_find?_eq_some hf, by simpa using List.find?_some hf, by simpa using hk,
      by simpa using ht, rfl⟩

theorem ownColumns_eq_ok (h : ownColumns c strategy d up = .ok own) : ∃ plain, plainColumns d up.isEmpty = .ok plain ∧
    (ownsDiscriminator c strategy d up = false → own = plain) ∧
    (ownsDiscriminator c strategy d up = true → ∃ disc, discriminatorInForce d up = some disc ∧
      checkKind d up disc = .ok () ∧ placeDiscriminator d disc plain = .ok own) := by
  unfold ownColumns at h
  obtain ⟨plain, hp, h⟩ := Outcome.bind_eq_ok.1 h
  refine ⟨plain, hp, ?_⟩
  split at h
  · rename_i ho
    refine ⟨fun hn => (Bool.false_ne_true (hn.symm.trans ho)).elim, fun _ => ?_⟩
    split at h
    · cases h
    · rename_i disc hd
      obtain ⟨u, hk, h⟩ := Outcome.bind_eq_ok.1 h
      exact ⟨disc, hd, hk, h⟩
  · rename_i ho
    cases h
    exact ⟨fun _ => rfl, fun hn => absurd hn ho⟩

/-- **What an own base column is**: no copy, no foreign key, declared by its entity, a key only at a root. -/
theorem of_mem_ownColumns (h : ownColumns c strategy d up = .ok own) {col : Column} (hc : col ∈ own) :
    col.inherited = false ∧ col.isForeignKey = false ∧ col.declaredBy = d.typeName ∧
      (col.primaryKey = true → up = []) := by
  obtain ⟨plain, hp, hno, hyes⟩ := ownColumns_eq_ok h
  have hplain : ∀ x ∈ plain, x.inherited = false ∧ x.isForeignKey = false ∧ x.declaredBy = d.typeName ∧
      (x.primaryKey = true → up = []) := by
    intro x hx
    obtain ⟨f, -, type, isKey, column, -, hk, rfl⟩ := of_mem_plainColumns hp hx
    exact ⟨rfl, rfl, rfl, fun h => by simpa using hk h⟩
  cases ho : ownsDiscriminator c strategy d up with
  | false => exact hplain col (hno ho ▸ hc)
  | true =>
    obtain ⟨disc, -, -, hpl⟩ := hyes ho
    rcases placeDiscriminator_eq_ok hpl with ⟨rfl, -⟩ | ⟨x, -, -, -, -, rfl⟩
    · rcases List.mem_append.1 hc with hc | hc
      · exact hplain col hc
      · cases List.mem_singleton.1 hc
        exact ⟨rfl, rfl, rfl, fun h => by cases h⟩
    · obtain ⟨y, hy, rfl⟩ := List.mem_map.1 hc
      obtain ⟨h1, h2, h3, h4⟩ := hplain y hy
      split
      · exact ⟨h1, rfl, h3, h4⟩
      · exact ⟨h1, h2, h3, h4⟩

theorem isDiscriminator_of_mem_plainColumns {isRoot : Bool} {plain : List Column}
    (h : plainColumns d isRoot = .ok plain) {col : Column} (hc : col ∈ plain) : col.isDiscriminator = false := by
  obtain ⟨f, -, type, isKey, column, -, -, rfl⟩ := of_mem_plainColumns h hc
  rfl

theorem discriminators_of_not_owns (h : ownColumns c strategy d up = .ok own)
    (ho : ownsDiscriminator c strategy d up = false) : own.filter (·.isDiscriminator) = [] := by
  obtain ⟨plain, hp, hno, -⟩ := ownColumns_eq_ok h
  refine List.filter_eq_nil_iff.2 fun x hx => ?_
  rw [isDiscriminator_of_mem_plainColumns hp (hno ho ▸ hx)]
  simp

/-- **An owner has one discriminator column among its own**, of the name and the kind in force. -/
theorem discriminators_of_owns (h : ownColumns c strategy d up = .ok own) (hn : (own.map (·.name)).Nodup)
    (ho : ownsDiscriminator c strategy d up = true) : ∃ disc col, discriminatorInForce d up = some disc ∧
      own.filter (·.isDiscriminator) = [col] ∧ col.role = .discriminator disc.kind ∧ col.name = disc.name ∧
      col.nullable = false ∧ col.primaryKey = false ∧ col.type.sqlType = disc.kind.type.sqlType := by
  obtain ⟨plain, hp, -, hyes⟩ := ownColumns_eq_ok h
  obtain ⟨disc, hd, -, hpl⟩ := hyes ho
  have hplain : ∀ x ∈ plain, x.isDiscriminator = false := fun x => isDiscriminator_of_mem_plainColumns hp
  rcases placeDiscriminator_eq_ok hpl with ⟨rfl, -⟩ | ⟨x, hx, hxn, hxk, hxt, rfl⟩
  · refine ⟨disc, Column.ofDiscriminator d.typeName disc, hd, ?_, rfl, rfl, rfl, rfl, rfl⟩
    rw [List.filter_append, List.filter_eq_nil_iff.2 fun y hy => by rw [hplain y hy]; simp]
    rfl
  · refine ⟨disc, x.asDiscriminator disc.kind, hd, ?_, rfl, hxn, rfl, hxk, hxt⟩
    -- of the plain columns, exactly those of the discriminator's name take over its role
    have hnames : (plain.map fun y => if y.name = disc.name then y.asDiscriminator disc.kind else y).map (·.name)
        = plain.map (·.name) := by
      rw [List.map_map]
      refine List.map_congr_left fun y _ => ?_
      show (if y.name = disc.name then y.asDiscriminator disc.kind else y).name = y.name
      split <;> rfl
    rw [hnames] at hn
    have hf : ∀ y ∈ plain, ((·.isDiscriminator) ∘ fun y : Column => if y.name = disc.name then
        y.asDiscriminator disc.kind else y) y = (y.name == x.name) := by
      intro y hy
      rw [hxn, Function.comp_apply]
      split
      · rename_i h; rw [h, beq_self_eq_true]; rfl
      · rename_i h; rw [hplain y hy]; simp [h]
    rw [List.filter_map, List.filter_congr hf, filter_key_eq_singleton hn hx, List.map_singleton, if_pos hxn]

end Resolution
end Ormap
