import Mathlib.Algebra.Group.Int.Defs
import Ormap.Proofs.Leaf
/-!
# Coercion — which values the column that tells types apart can hold

The values of a discriminator column are coerced by the kind that is declared for it.  A column of its own has the type
of the kind and holds them all.  A declared column that takes over the role only has to be of the storage family of that
type, so that a value is stored, and given back, exactly when the type of the column holds it
(`Database.coerced_values_held_iff`).
-/
namespace Ormap

namespace Attribute

variable {type : Attribute} {column : String} {v w : Value}

/-- The whole numbers and the texts that columns of a type hold, as they are. -/
def Holds : Attribute → Value → Prop
  | byte, .integer n => -2 ^ 7 ≤ n.toInt ∧ n.toInt < 2 ^ 7
  | short, .integer n => -2 ^ 15 ≤ n.toInt ∧ n.toInt < 2 ^ 15
  | integer, .integer n => -2 ^ 31 ≤ n.toInt ∧ n.toInt < 2 ^ 31
  | long, .integer _ => True
  | char, .text s => s.length = 1
  | string, .text _ => True
  | choice variants, .text s => s ∈ variants
  | _, _ => False

theorem fits_iff {width : Nat} {n : Int} :
    fits width n = true ↔ -2 ^ (width - 1) ≤ n ∧ n < 2 ^ (width - 1) := by
  unfold fits
  rw [Bool.and_eq_true, decide_eq_true_iff, decide_eq_true_iff]
  norm_cast

theorem store_integer_eq_ok {n : Int64} :
    type.store column (.integer n) = .ok w ↔ type.Holds (.integer n) ∧ w = .integer n := by
  have hlong : fits 64 n.toInt = true := fits_iff.2 ⟨n.le_toInt, n.toInt_lt⟩
  cases type with
  | byte | short | integer =>
    refine integerCell_eq_ok.trans (and_congr_left fun _ => ?_)
    exact fits_iff
  | long =>
    refine integerCell_eq_ok.trans (and_congr_left fun _ => ?_)
    exact ⟨fun _ => trivial, fun _ => hlong⟩
  | _ => exact ⟨fun h => (nomatch h), fun h => h.1.elim⟩

theorem store_text_eq_ok {s : String} :
    type.store column (.text s) = .ok w ↔ type.Holds (.text s) ∧ w = .text s := by
  cases type with
  | char => exact textCell_eq_ok.trans (and_congr_left fun _ => beq_iff_eq)
  | choice variants => exact textCell_eq_ok.trans (and_congr_left fun _ => List.contains_iff_mem)
  | string =>
    constructor
    · intro h
      cases h
      exact ⟨trivial, rfl⟩
    · rintro ⟨-, rfl⟩
      rfl
  | _ => exact ⟨fun h => (nomatch h), fun h => h.1.elim⟩

/-- **A coerced value is stored exactly where the type of the column holds it, and as itself.** -/
theorem store_coerced_eq_ok (hv : v.IsDiscriminator) : type.store column v = .ok w ↔ type.Holds v ∧ w = v := by
  rcases hv with ⟨s, rfl⟩ | ⟨n, rfl⟩
  · exact store_text_eq_ok
  · exact store_integer_eq_ok

end Attribute

/-- **The type of a kind holds what the kind coerces texts to.** -/
theorem DiscriminatorKind.holds_of_coerce {kind : DiscriminatorKind} {raw : String} {v : Value}
    (h : kind.coerce raw = .ok v) : kind.type.Holds v := by
  unfold DiscriminatorKind.coerce at h
  cases kind with
  | char =>
    dsimp only at h
    split at h <;> cases h
    rename_i hlen
    exact hlen
  | string =>
    cases h
    trivial
  | integer =>
    dsimp only at h
    split at h <;> cases h
    trivial

/-- Every text fits a column of texts. -/
theorem DiscriminatorKind.holds_string {kind : DiscriminatorKind} {raw : String} {v : Value}
    (h : kind.coerce raw = .ok v) (hk : kind.type.sqlType = .text) : Attribute.string.Holds v := by
  unfold DiscriminatorKind.coerce at h
  cases kind with
  | char =>
    dsimp only at h
    split at h <;> cases h
    trivial
  | string =>
    cases h
    trivial
  | integer => cases hk

namespace Resolution

variable {cfg : Config} {c : Catalog} {g : Graph} {d : EntityDescriptor} {up : List EntityDescriptor}
  {disc used : DiscriminatorDescriptor}

theorem checkKind_cons {p : EntityDescriptor} {above : List EntityDescriptor}
    (h : checkKind d (p :: above) disc = .ok ()) (hu : discriminatorInForce p above = some used) :
    used.kind = disc.kind := by
  unfold checkKind at h
  dsimp only at h
  rw [hu] at h
  dsimp only at h
  split at h
  · assumption
  · cases h

/-- A discriminator column without a field is one of its own, of the type of the kind in force. -/
theorem type_of_fieldless {strategy : Strategy} {own : List Column} (h : ownColumns c strategy d up = .ok own)
    {col : Column} (hc : col ∈ own) (hd : col.isDiscriminator = true) (hf : col.field = none) :
    ∃ disc, discriminatorInForce d up = some disc ∧ col.type = disc.kind.type := by
  obtain ⟨plain, hp, hno, hyes⟩ := ownColumns_eq_ok h
  have hplain : ∀ x ∈ plain, x.isDiscriminator = false ∧ x.field ≠ none := by
    intro x hx
    obtain ⟨f, -, type, isKey, column, -, -, rfl⟩ := of_mem_plainColumns hp hx
    exact ⟨rfl, Option.some_ne_none _⟩
  cases ho : ownsDiscriminator c strategy d up with
  | false =>
    rw [(hplain col (hno ho ▸ hc)).1] at hd
    cases hd
  | true =>
    obtain ⟨disc, hdisc, -, hplace⟩ := hyes ho
    refine ⟨disc, hdisc, ?_⟩
    rcases placeDiscriminator_eq_ok hplace with ⟨rfl, -⟩ | ⟨x, -, -, -, -, rfl⟩
    · rcases List.mem_append.1 hc with hc | hc
      · exact absurd hf (hplain col hc).2
      · rw [List.mem_singleton.1 hc]
        rfl
    · obtain ⟨y, hy, rfl⟩ := List.mem_map.1 hc
      refine absurd ?_ (hplain y hy).2
      split at hf <;> exact hf

namespace Maps

variable {e p s x : Entity} {col : Column} {v : Value} (m : Maps cfg c g)
include m

theorem above_of_parent (he : e ∈ g.entities) (hup : c.above e.descriptor = .ok up) (hp : g.parent? e = some p) :
    ∃ above, up = p.descriptor :: above ∧ c.above p.descriptor = .ok above := by
  obtain rfl := m.graph_eq
  obtain ⟨d, -, rfl⟩ := mem_graph.1 he
  rw [graph_parent?, Option.map_eq_some_iff] at hp
  obtain ⟨q, hq, rfl⟩ := hp
  cases up with
  | nil =>
    cases (Catalog.above_nil hup).symm.trans hq
  | cons q' above =>
    obtain ⟨hq', habove⟩ := Catalog.above_cons hup
    cases hq'.symm.trans hq
    exact ⟨above, rfl, habove⟩

/-- **An owner below another has a column of the same kind.** -/
theorem kind_of_parent (he : e ∈ g.entities) (ho : g.OwnsDiscriminator e) (hp : g.parent? e = some p)
    (hd : g.discriminatorInForce? e = some disc) (hu : g.discriminatorInForce? p = some used) :
    used.kind = disc.kind := by
  obtain ⟨up, own, keys, hup, hown, -, -⟩ := m.ownColumns_eq he
  obtain ⟨above, rfl, habove⟩ := m.above_of_parent he hup hp
  obtain ⟨plain, -, -, hyes⟩ := ownColumns_eq_ok hown
  obtain ⟨disc', hd', hkind, -⟩ := hyes ((m.owns_iff he hup).1 ho)
  rw [m.inForce_eq he hup] at hd
  rw [m.inForce_eq (m.mem_of_parent? hp) habove] at hu
  cases hd.symm.trans hd'
  exact checkKind_cons hkind hu

/-- **The values of an owner and of all that it serves are coerced by one kind**, that of the owner's column. -/
theorem coerced_of_owner (he : e ∈ g.entities) (ho : g.OwnsDiscriminator e)
    (hd : g.discriminatorInForce? e = some disc) (hx : x ∈ e :: g.served e) (hv : x.discriminatorValue = some v) :
    ∃ raw, x.descriptor.discriminatorValue = some raw ∧ disc.kind.coerce raw = .ok v := by
  rcases List.mem_cons.1 hx with rfl | hx
  · cases hp : g.parent? x with
    | none =>
      obtain ⟨-, disc', raw, hd', hraw, hcv⟩ := m.value_of_root he hp hv
      cases hd.symm.trans hd'
      exact ⟨raw, hraw, coerce_of_coerceValue hcv⟩
    | some p =>
      -- an owner with a parent is joined, and has its value from the parent's column
      have hj : x.strategy = .joined := ho.2.resolve_right (by rw [hp]; exact Option.some_ne_none p)
      obtain ⟨owner, hom, howner, hoo, hserved⟩ := m.owner_of_parent he hp
      rw [if_pos hj] at howner
      obtain ⟨-, used, raw, w, hu, hraw, hcv, hval⟩ := m.value_of_served hom hoo hserved
      cases hval.symm.trans hv
      rw [howner] at hu
      rw [← m.kind_of_parent he ho hp hd hu]
      exact ⟨raw, hraw, coerce_of_coerceValue hcv⟩
  · obtain ⟨-, disc', raw, w, hd', hraw, hcv, hval⟩ := m.value_of_served he ho hx
    cases hd.symm.trans hd'
    cases hval.symm.trans hv
    exact ⟨raw, hraw, coerce_of_coerceValue hcv⟩

theorem type_of_own_discriminator (he : e ∈ g.entities) (hc : col ∈ e.ownColumns) (hd : col.isDiscriminator = true)
    (hf : col.field = none) (hdisc : g.discriminatorInForce? e = some disc) : col.type = disc.kind.type := by
  obtain ⟨up, own, keys, hup, hown, hk, hoc⟩ := m.ownColumns_eq he
  have hmem : col ∈ e.ownColumns.filter (·.isDiscriminator) := List.mem_filter.2 ⟨hc, hd⟩
  rw [filter_discriminators hk hoc] at hmem
  obtain ⟨disc', hd', htype⟩ := type_of_fieldless hown (List.mem_filter.1 hmem).1 hd hf
  rw [m.inForce_eq he hup] at hdisc
  cases hdisc.symm.trans hd'
  exact htype

/-- **What storing puts into the column of an owner** is the value of the owner, or of an entity that it serves. -/
theorem source_mem_served (he : e ∈ g.entities) (hx : x ∈ g.ancestry e)
    (hs : Graph.discriminatorSource? e.strategy (g.ancestry e) (g.aliasLevel x) = some s) : s ∈ x :: g.served x := by
  have hxm := m.mem_of_ancestry he hx
  have hstrategy := m.strategy_of_ancestry he x hx
  by_cases hj : e.strategy = .joined
  · have hxj := hstrategy.trans hj
    obtain ⟨post, hpath⟩ := m.ancestry_eq_append he x hx
    unfold Graph.aliasLevel at hs
    rw [if_pos hxj, hj, Graph.discriminatorSource?_joined hpath] at hs
    cases hs
    cases post with
    | nil => exact List.mem_cons_self
    | cons y post =>
      obtain ⟨hy, hp⟩ := m.next_of_ancestry he hpath
      refine List.mem_cons_of_mem _ ((m.mem_served hxm).2 ⟨hy, ?_⟩)
      rw [if_pos hxj]
      exact hp
  · have hxj : x.strategy ≠ .joined := by rw [hstrategy]; exact hj
    rw [Graph.discriminatorSource?_shared hj] at hs
    cases hs
    rcases Graph.mem_ancestry.1 hx with hx | rfl
    · refine List.mem_cons_of_mem _ ((m.mem_served hxm).2 ⟨he, ?_⟩)
      rw [if_neg hxj]
      exact hx
    · exact List.mem_cons_self

end Maps
end Resolution

namespace Database

/-- **An accepted discriminator can be stored exactly where the type of its column holds it.**  Of the values that
storing may put into the column of an owner, those of the owner and of all that it serves, the column stores as they are
and gives back exactly those that its type holds; these are all of them where the column is one of its own, where its
type is that of the kind, and where it holds texts of any length. -/
theorem coerced_values_held_iff {db : Database} (h : db.Mapped) {owner : Entity} (hom : owner ∈ db.graph.entities)
    {col : Column} (hc : owner.discriminatorColumn? = some col) :
    (∀ e ∈ db.graph.entities, owner ∈ db.graph.ancestry e → ∀ s,
      Graph.discriminatorSource? e.strategy (db.graph.ancestry e) (db.graph.aliasLevel owner) = some s →
      s ∈ owner :: db.graph.served owner) ∧
    ∃ disc, db.graph.discriminatorInForce? owner = some disc ∧ (col.field = none → col.type = disc.kind.type) ∧
      ∀ x ∈ owner :: db.graph.served owner, ∀ v, x.discriminatorValue = some v →
        ((∃ w, col.type.store col.name v = .ok w) ↔ col.type.Holds v) ∧
        (∀ w, col.type.store col.name v = .ok w → w = v ∧ col.type.load col.name w = .ok v) ∧
        (col.type = disc.kind.type ∨ col.type = .string → col.type.Holds v) := by
  have m := h.maps
  have ho := m.owns_of_column hom hc
  obtain ⟨disc, col', hd, hf, -, -, -, -, hfamily⟩ := m.discriminators_of_owner hom ho
  have hcol : col ∈ owner.ownColumns ∧ col.isDiscriminator = true :=
    ⟨List.mem_of_find?_eq_some hc, by simpa using List.find?_some hc⟩
  obtain rfl : col = col' := by
    rw [← List.mem_singleton, ← hf]
    exact List.mem_filter.2 hcol
  refine ⟨fun e he hx s hs => m.source_mem_served he hx hs, disc, hd,
    fun hfield => m.type_of_own_discriminator hom hcol.1 hcol.2 hfield hd, fun x hx v hv => ?_⟩
  obtain ⟨raw, -, hcv⟩ := m.coerced_of_owner hom ho hd hx hv
  have hvd := Resolution.isDiscriminator_of_coerce hcv
  refine ⟨⟨?_, fun hh => ⟨v, (Attribute.store_coerced_eq_ok hvd).2 ⟨hh, rfl⟩⟩⟩, fun w hw => ?_, ?_⟩
  · rintro ⟨w, hw⟩
    exact ((Attribute.store_coerced_eq_ok hvd).1 hw).1
  · exact ⟨((Attribute.store_coerced_eq_ok hvd).1 hw).2, Attribute.load_store hvd.noLeapSecond hw⟩
  · rintro (ht | ht)
    · rw [ht]
      exact DiscriminatorKind.holds_of_coerce hcv
    · rw [ht] at hfamily ⊢
      exact DiscriminatorKind.holds_string hcv hfamily.symm

/-- The declared column of persons has both values that it has to tell apart among its variants, and holds them. -/
theorem coerced_values_held_iff_fleet : ∃ owner col, fleet.graph.find? "Person" = some owner ∧
    owner.discriminatorColumn? = some col ∧ col.type = .choice ["driver", "boss"] ∧
    (fleet.graph.served owner).map (·.discriminatorValue) = [some (.text "driver"), some (.text "boss")] ∧
    ∀ x ∈ fleet.graph.served owner, ∀ v, x.discriminatorValue = some v →
      ∃ w, col.type.store col.name v = .ok w ∧ col.type.load col.name w = .ok v := by
  have htype : ((fleet.graph.find? "Person").bind (·.discriminatorColumn?)).map (·.type) =
      some (.choice ["driver", "boss"]) := by decide +kernel
  have hvalues : (fleet.graph.find? "Person").map (fun p => (fleet.graph.served p).map (·.discriminatorValue)) =
      some [some (.text "driver"), some (.text "boss")] := by decide +kernel
  obtain ⟨col, hcol, htype⟩ := Option.map_eq_some_iff.1 htype
  obtain ⟨owner, howner, hcol⟩ := Option.bind_eq_some_iff.1 hcol
  rw [howner] at hvalues
  have hvalues := Option.some.inj hvalues
  obtain ⟨-, disc, -, -, hall⟩ :=
    coerced_values_held_iff fleet_mapped (fleet_mapped.maps.find?_eq_some_iff.1 howner).1 hcol
  refine ⟨owner, col, howner, hcol, htype, hvalues, fun x hx v hv => ?_⟩
  obtain ⟨hstored, hreturned, -⟩ := hall x (List.mem_cons_of_mem _ hx) v hv
  have hmem : some v ∈ [some (Value.text "driver"), some (Value.text "boss")] :=
    hvalues ▸ List.mem_map.2 ⟨x, hx, hv⟩
  have hholds : col.type.Holds v := by
    rw [htype]
    rcases List.mem_pair.1 hmem with h | h
    · cases h
      exact List.mem_cons_self
    · cases h
      exact List.mem_cons_of_mem _ List.mem_cons_self
  obtain ⟨w, hw⟩ := hstored.2 hholds
  exact ⟨w, hw, (hreturned w hw).2⟩

/-! ## A depot

The sizes of parcels tell crates apart, and are stored in a byte. -/

open FieldDescriptor in
def depotEntities : List EntityDescriptor := [
  { typeName := "Parcel", table := some {}, inheritance := some .singleTable,
    discriminatorColumn := some { name := "size", kind := .integer }, discriminatorValue := some "1",
    fields := [(plain "id" .long).asId, plain "size" .byte] },
  { typeName := "Crate", ancestors := ["Parcel"], discriminatorValue := some "300" }]

def depotEntries : Except ConfigurationError Database := ofEntities { name := "depot" } depotEntities

theorem depotEntries_isSome : depotEntries.toOption.isSome = true := by decide +kernel

def depot : Database := (depotEntries.toOption.get depotEntries_isSome).map

theorem depot_mapped : depot.Mapped :=
  ⟨(reachable_ofEntities (Outcome.eq_ok_get depotEntries_isSome)).map, by decide +kernel⟩

def depotEntity (i : Fin 2) : Entity := depot.graph.entities.get (i.cast (by decide +kernel))

/-- **The column of parcels does not hold the value of crates**, though the database is mapped: no crate can be
stored. -/
theorem crate_not_stored : depot.Mapped ∧ ∃ col, (depotEntity 0).discriminatorColumn? = some col ∧
    depotEntity 1 ∈ depot.graph.served (depotEntity 0) ∧
    (depotEntity 1).discriminatorValue = some (.integer 300) ∧
    col.type.store col.name (.integer 300) = .error (.outOfRange "size" .byte 300) ∧
    depot.graph.rows { typeName := "Crate", values := [("id", .integer 1)] } =
      .error (.marshalling (.outOfRange "size" .byte 300)) := by
  refine ⟨depot_mapped, (depotEntity 0).ownColumns.get ⟨1, by decide +kernel⟩, by decide +kernel, by decide +kernel,
    by decide +kernel, by decide +kernel, by decide +kernel⟩

end Database
end Ormap
