import Ormap.Proofs.Coercion
import Ormap.Proofs.SingleTable
/-!
# Lengths — which stored discriminators respect the length declared for their column

A declared text is measured by the owner that gives the entity its value, and a root measures its own.  The column of an
owner in the middle of a joined hierarchy may also get the value of the owner itself, for the objects of its own type;
that value was given out and measured by the owner above, whose column may hold longer texts.  All other stored
discriminators respect their lengths (`Database.lengths_respected_iff`).
-/
namespace Ormap

theorem Resolution.length_of_coerceValue {d : EntityDescriptor} {disc : DiscriminatorDescriptor} {raw s : String}
    {length : UInt64} (h : coerceValue d disc raw = .ok (.text s)) (hl : disc.length = some length) :
    s.length ≤ length.toNat := by
  unfold coerceValue at h
  split at h
  · cases h
  · rw [hl] at h
    split at h
    · rename_i length' text hlength htext
      cases hlength
      split at h
      · cases h
      · rename_i hfits
        cases h
        cases htext
        exact Nat.le_of_not_lt hfits
    · rename_i hnone
      cases h
      exact absurd rfl (hnone _ _ rfl)

namespace Graph

/-- Whether a value is no text longer than the column in force at an entity may hold. -/
def RespectsLength (g : Graph) (owner : Entity) (v : Value) : Prop :=
  ∀ disc length s, g.discriminatorInForce? owner = some disc → disc.length = some length → v = .text s →
    s.length ≤ length.toNat

/-- Whether what a row holds in the discriminator columns of its place respects the lengths at the owners. -/
def LengthsRespected (g : Graph) (p : Place) (row : TableRow) : Prop :=
  ∀ col ∈ p.columns, col.isDiscriminator = true → ∀ owner ∈ g.entities, owner.typeName = col.declaredBy →
    ∀ v, row.get? col.name = some v → g.RespectsLength owner v

end Graph

namespace Resolution
namespace Maps

variable {cfg : Config} {c : Catalog} {g : Graph} {e x s : Entity} {record : Record} {rows : List TableRow}
  {row : TableRow} {col : Column} {p : Graph.Place} {v : Value} (m : Maps cfg c g)
include m

/-! ## What was measured -/

theorem respects_of_served (he : e ∈ g.entities) (ho : g.OwnsDiscriminator e) (hx : x ∈ g.served e)
    (hv : x.discriminatorValue = some v) : g.RespectsLength e v := by
  intro disc length s hd hl hs
  obtain ⟨-, disc', raw, w, hd', -, hcv, hw⟩ := m.value_of_served he ho hx
  cases hd.symm.trans hd'
  cases hv.symm.trans hw
  rw [hs] at hcv
  exact length_of_coerceValue hcv hl

theorem respects_of_root (he : e ∈ g.entities) (hp : g.parent? e = none) (hv : e.discriminatorValue = some v) :
    g.RespectsLength e v := by
  intro disc length s hd hl hs
  obtain ⟨-, disc', raw, hd', -, hcv⟩ := m.value_of_root he hp hv
  cases hd.symm.trans hd'
  rw [hs] at hcv
  exact length_of_coerceValue hcv hl

/-- An entity that stores its own value in its own column is a root, or the entity of the object. -/
theorem source_served_or_self (he : e ∈ g.entities) (hx : x ∈ g.ancestry e) (ho : g.OwnsDiscriminator x)
    (hs : Graph.discriminatorSource? e.strategy (g.ancestry e) (g.aliasLevel x) = some s) :
    s ∈ g.served x ∨ s = x ∧ (g.parent? x = none ∨ x = e) := by
  rcases List.mem_cons.1 (m.source_mem_served he hx hs) with rfl | hserved
  · refine Or.inr ⟨rfl, ?_⟩
    rcases ho.2 with hj | hroot
    · right
      obtain ⟨post, hpath⟩ := m.ancestry_eq_append he s hx
      rw [(m.strategy_of_ancestry he s hx).symm, hj] at hs
      unfold Graph.aliasLevel at hs
      rw [if_pos hj, Graph.discriminatorSource?_joined hpath] at hs
      cases post with
      | nil => exact (Graph.eq_of_ancestry (hpath.trans (List.append_nil _))).symm
      | cons y post =>
        -- the next entity on the way is another one
        obtain ⟨hy, hp⟩ := m.next_of_ancestry he hpath
        have hdepth := m.depth_child hy hp
        obtain rfl : y = s := Option.some.inj hs
        omega
    · exact Or.inl hroot
  · exact Or.inl hserved

/-! ## What is stored -/

theorem level_of_place (he : e ∈ g.entities) (hp : p ∈ g.places e) : p.level = g.aliasLevel p.entity := by
  unfold Graph.aliasLevel
  rw [m.strategy_of_ancestry he _ (m.mem_of_places he hp)]
  unfold Graph.places at hp
  split at hp
  · rename_i hj
    obtain ⟨⟨y, i⟩, hy, rfl⟩ := List.mem_map.1 hp
    have hi := List.mk_mem_zipIdx_iff_getElem?.1 hy
    obtain ⟨post, hpath⟩ := m.ancestry_eq_append he y (List.mem_of_getElem? hi)
    have hlength : i < (g.ancestry e).length := (List.getElem?_eq_some_iff.1 hi).1
    rw [if_pos hj]
    exact (List.getElem?_inj hlength (m.nodup_ancestry he)).1 (hi.trans (Graph.getElem?_ancestry hpath).symm)
  · rename_i hs
    cases List.mem_singleton.1 hp
    rw [hs]
    rfl
  · rename_i hs
    cases List.mem_singleton.1 hp
    rw [hs]
    rfl

theorem placeNames_nodup (he : e ∈ g.entities) (hapart : e.strategy = .singleTable → g.OwnNamesApart e)
    (hp : p ∈ g.places e) : (p.columns.map (·.name)).Nodup := by
  have hpm := m.mem_of_ancestry he (m.mem_of_places he hp)
  by_cases hs : e.strategy = .singleTable
  · unfold Graph.places at hp
    rw [hs] at hp
    cases List.mem_singleton.1 hp
    exact (m.pathNames_nodup_iff he).2 (hapart hs)
  · obtain ⟨more, hcolumns, hmore⟩ := Graph.place_columns hp
    rw [hcolumns, hmore hs, List.append_nil]
    exact m.columns_nodup hpm

theorem owns_of_discriminator (hx : x ∈ g.entities) (hc : col ∈ x.ownColumns) (hd : col.isDiscriminator = true) :
    g.OwnsDiscriminator x ∧ col.primaryKey = false := by
  have hmem : col ∈ x.ownColumns.filter (·.isDiscriminator) := List.mem_filter.2 ⟨hc, hd⟩
  have ho : g.OwnsDiscriminator x := by
    by_contra hn
    rw [m.discriminators_of_not_owner hx hn] at hmem
    cases hmem
  obtain ⟨disc, col', -, hf, -, -, -, hkey, -⟩ := m.discriminators_of_owner hx ho
  rw [hf, List.mem_singleton] at hmem
  exact ⟨ho, hmem ▸ hkey⟩

theorem own_of_discriminator (hx : x ∈ g.entities) (hj : x.strategy = .joined) (hc : col ∈ x.columns)
    (hd : col.isDiscriminator = true) : col ∈ x.ownColumns := by
  refine List.mem_filter.2 ⟨hc, ?_⟩
  cases hi : col.inherited with
  | false => rfl
  | true =>
    -- a joined entity has copies of keys only, and no discriminator column is a key
    have hxj : x.strategy ≠ .tablePerClass := by rw [hj]; exact Strategy.noConfusion
    obtain ⟨q, hq, -⟩ := m.exists_copied hx hc hi
    have hcopy : col ∈ q.primaryKeys.map Column.inheritedCopy := by
      have hmem : col ∈ x.columns.filter (·.inherited) := List.mem_filter.2 ⟨hc, hi⟩
      rw [m.inherited_eq hx hq, if_neg hxj] at hmem
      exact hmem
    obtain ⟨key, hkey, rfl⟩ := List.mem_map.1 hcopy
    obtain ⟨y, hy, hown⟩ := m.exists_own hx _ hc
    have hplain := (m.owns_of_discriminator (m.mem_of_ancestry hx hy) hown hd).2
    cases hplain.symm.trans (List.mem_filter.1 hkey).2

theorem exists_own_of_place (he : e ∈ g.entities) (hp : p ∈ g.places e) (hc : col ∈ p.columns) :
    ∃ x ∈ g.ancestry e, col.original ∈ x.ownColumns := by
  by_cases hs : e.strategy = .singleTable
  · unfold Graph.places at hp
    rw [hs] at hp
    cases List.mem_singleton.1 hp
    have hpath : col ∈ g.pathColumns e := hc
    rw [m.pathColumns_eq he] at hpath
    obtain ⟨x, hx, hown⟩ := List.mem_flatMap.1 hpath
    exact ⟨x, hx, (Column.original_of_mem_own hown).symm ▸ hown⟩
  · obtain ⟨more, hcolumns, hmore⟩ := Graph.place_columns hp
    rw [hcolumns, hmore hs, List.append_nil] at hc
    have hpe := m.mem_of_places he hp
    obtain ⟨x, hx, hown⟩ := m.exists_own (m.mem_of_ancestry he hpe) col hc
    obtain ⟨post, hpath⟩ := m.ancestry_eq_append he _ hpe
    refine ⟨x, ?_, hown⟩
    rw [hpath]
    exact List.mem_append_left _ hx

/-- **A discriminator column of a place is that of an entity on the way**, whose alias level the place has. -/
theorem owner_of_place (he : e ∈ g.entities) (hp : p ∈ g.places e) (hc : col ∈ p.columns)
    (hd : col.isDiscriminator = true) :
    ∃ x ∈ g.ancestry e, col.original ∈ x.ownColumns ∧ p.level = g.aliasLevel x := by
  have hpe := m.mem_of_places he hp
  have hlevel := m.level_of_place he hp
  by_cases hj : e.strategy = .joined
  · have hpj : p.entity.strategy = .joined := (m.strategy_of_ancestry he _ hpe).trans hj
    obtain ⟨more, hcolumns, hmore⟩ := Graph.place_columns hp
    rw [hcolumns, hmore (by rw [hj]; exact Strategy.noConfusion), List.append_nil] at hc
    have hown := m.own_of_discriminator (m.mem_of_ancestry he hpe) hpj hc hd
    exact ⟨p.entity, hpe, (Column.original_of_mem_own hown).symm ▸ hown, hlevel⟩
  · -- all entities on the way have the level zero
    have hzero : ∀ x ∈ g.ancestry e, g.aliasLevel x = 0 := by
      intro x hx
      unfold Graph.aliasLevel
      rw [m.strategy_of_ancestry he x hx, if_neg hj]
    obtain ⟨x, hx, hown⟩ := m.exists_own_of_place he hp hc
    exact ⟨x, hx, hown, by rw [hlevel, hzero _ hpe, hzero x hx]⟩

/-- **What a row holds in a discriminator column** is the value of the entity that supplies it there. -/
theorem stored_of_place (he : e ∈ g.entities) (hapart : e.strategy = .singleTable → g.OwnNamesApart e)
    (hp : p ∈ g.places e)
    (hrow : g.rowOf record e.strategy (g.ancestry e) p.level p.entity p.columns = .ok row) (hc : col ∈ p.columns)
    (hd : col.isDiscriminator = true) : ∃ s ∈ g.entities, ∃ v,
      Graph.discriminatorSource? e.strategy (g.ancestry e) p.level = some s ∧ s.discriminatorValue = some v ∧
        row.get? col.name = some v := by
  have hnames := List.inj_on_of_nodup_map (m.placeNames_nodup he hapart hp)
  obtain ⟨v, w, hv, hw, hget⟩ := (Graph.isRowOf_of_rowOf hrow).written (fun a ha b hb => hnames ha hb) col hc
  obtain ⟨s, hs, hsv⟩ := Graph.cellValue_discriminator hd hv
  have hsm := m.mem_of_ancestry he (Graph.mem_of_discriminatorSource? hs)
  -- values of texts are stored as they are
  obtain rfl : w = v := ((Attribute.store_coerced_eq_ok (m.isDiscriminator_of_value hsm hsv)).1 hw).2
  exact ⟨s, hsm, w, hs, hsv, hget⟩

theorem lengthsRespected_of_place (he : e ∈ g.entities) (hapart : e.strategy = .singleTable → g.OwnNamesApart e)
    (hself : g.OwnsDiscriminator e → g.parent? e ≠ none → ∀ v, e.discriminatorValue = some v → g.RespectsLength e v)
    (hp : p ∈ g.places e)
    (hrow : g.rowOf record e.strategy (g.ancestry e) p.level p.entity p.columns = .ok row) :
    g.LengthsRespected p row := by
  intro col hc hd owner hom howner v hget
  obtain ⟨x, hx, hown, hlevel⟩ := m.owner_of_place he hp hc hd
  have hxm := m.mem_of_ancestry he hx
  have hdeclared : col.original.declaredBy = x.typeName := m.declaredBy_of_own hxm hown
  obtain rfl : owner = x := m.eq_of_typeName hom hxm (howner.trans hdeclared)
  obtain ⟨ho, -⟩ := m.owns_of_discriminator hxm hown hd
  obtain ⟨s, -, w, hs, hsv, hget'⟩ := m.stored_of_place he hapart hp hrow hc hd
  cases hget.symm.trans hget'
  rw [hlevel] at hs
  rcases m.source_served_or_self he hx ho hs with hserved | ⟨rfl, hroot | rfl⟩
  · exact m.respects_of_served hxm ho hserved hsv
  · exact m.respects_of_root hxm hroot hsv
  · cases hparent : g.parent? s with
    | none => exact m.respects_of_root hxm hparent hsv
    | some q => exact hself ho (by rw [hparent]; exact Option.some_ne_none q) v hsv

/-- The row of an object in the table of its own entity holds the entity's own value, if it owns a column. -/
theorem respects_of_lengthsRespected (he : e ∈ g.entities)
    (hapart : e.strategy = .singleTable → g.OwnNamesApart e) (ho : g.OwnsDiscriminator e)
    (hv : e.discriminatorValue = some v)
    (hall : List.Forall₂ (fun p row => g.rowOf record e.strategy (g.ancestry e) p.level p.entity p.columns = .ok row ∧
      g.LengthsRespected p row) (g.places e) rows) : g.RespectsLength e v := by
  obtain ⟨disc, col, -, hcol, hown, hrole⟩ := m.discriminatorColumn?_of_owner he ho
  have hd : col.isDiscriminator = true := Column.isDiscriminator_iff.2 ⟨_, hrole⟩
  obtain ⟨p, hp, -, hlevel, hcopies⟩ := m.exists_place he (g.self_mem_ancestry e)
  obtain ⟨copy, hc, horig⟩ := hcopies col (List.mem_filter.1 hown).1
  have hcd : copy.isDiscriminator = true := by
    show copy.original.isDiscriminator = true
    rw [horig]
    exact hd
  have hdeclared : e.typeName = copy.declaredBy := by
    have hdeclares := m.declaredBy_of_own he hown
    rw [← hdeclares]
    exact (congrArg Column.declaredBy horig).symm
  obtain ⟨row, -, hrow, hrespects⟩ := Outcome.exists_of_mem_left hall p hp
  obtain ⟨s, -, w, hs, hsv, hget⟩ := m.stored_of_place he hapart hp hrow hc hcd
  -- the last of the way supplies its own value
  have hself : Graph.discriminatorSource? e.strategy (g.ancestry e) (g.aliasLevel e) = some e := by
    unfold Graph.aliasLevel
    by_cases hj : e.strategy = .joined
    · rw [if_pos hj, hj, Graph.discriminatorSource?_joined (List.append_nil _).symm]
      rfl
    · exact Graph.discriminatorSource?_shared hj _
  rw [hlevel] at hs
  cases hself.symm.trans hs
  cases hv.symm.trans hsv
  exact hrespects copy hc hcd e he hdeclared _ hget

/-- An entity that declares no column of its own is measured by the declaration it would use itself. -/
theorem respects_of_undeclared (he : e ∈ g.entities) (hj : e.strategy = .joined) (hparent : g.parent? e ≠ none)
    (hnone : e.descriptor.discriminatorColumn = none) (hv : e.discriminatorValue = some v) : g.RespectsLength e v := by
  obtain ⟨q, hq⟩ := Option.ne_none_iff_exists'.1 hparent
  obtain ⟨owner, hom, howner, ho, hserved⟩ := m.owner_of_parent he hq
  rw [if_pos hj] at howner
  have hforce : g.discriminatorInForce? e = g.discriminatorInForce? owner := by
    unfold Graph.discriminatorInForce?
    rw [howner, List.findSome?_cons, hnone, m.above_child he hq]
  intro disc length s hd
  rw [hforce] at hd
  exact m.respects_of_served hom ho hserved hv disc length s hd

end Maps
end Resolution

namespace Database

/-- **When stored discriminators respect the declared lengths.**  The rows of an object are those of its places, with
a cell for each column; in a single table this takes columns of one name for no two fields on the way.  The texts in
the discriminator columns are no longer than the declarations in force at the owners of the columns allow, unless the
object's own entity stands in the middle of a joined hierarchy and its own value, which was measured for the column of
an owner above it, is too long for its own column.  An entity that declares no column of its own has no such value. -/
theorem lengths_respected_iff {db : Database} (h : db.Mapped) {e : Entity}
    (hapart : e.strategy = .singleTable → db.graph.OwnNamesApart e) {record : Record} {rows : List TableRow}
    (hfind : db.graph.find? record.typeName = some e) (hr : db.graph.rows record = .ok rows) :
    List.Forall₂ (fun p row => row.entity = p.entity.typeName ∧ row.columns = p.columns.map (·.name))
      (db.graph.places e) rows ∧
    (List.Forall₂ db.graph.LengthsRespected (db.graph.places e) rows ↔
      (e.strategy = .joined → e.hasChildren = true → db.graph.parent? e ≠ none →
        ∀ v, e.discriminatorValue = some v → db.graph.RespectsLength e v)) ∧
    (e.descriptor.discriminatorColumn = none →
      List.Forall₂ db.graph.LengthsRespected (db.graph.places e) rows) := by
  have m := h.maps
  obtain ⟨he, -⟩ := m.find?_eq_some_iff.1 hfind
  obtain ⟨e', he', -, hrows⟩ := m.rows_eq_ok hr
  cases hfind.symm.trans he'
  have hplaces := m.rowsOf_places he hrows
  have hzip := List.forall₂_iff_zip.1 hplaces
  -- an owner with a parent is joined
  have henough : (e.strategy = .joined → e.hasChildren = true → db.graph.parent? e ≠ none →
      ∀ v, e.discriminatorValue = some v → db.graph.RespectsLength e v) →
      List.Forall₂ db.graph.LengthsRespected (db.graph.places e) rows := by
    intro hself
    refine List.forall₂_iff_zip.2 ⟨hzip.1, fun {p row} hmem => ?_⟩
    refine m.lengthsRespected_of_place he hapart (fun ho hparent => ?_) (List.of_mem_zip hmem).1 (hzip.2 hmem)
    exact hself (ho.2.resolve_right hparent) ho.1 hparent
  refine ⟨?_, ⟨fun hrespects hj hchildren _ v hv => ?_, henough⟩, fun hnone => ?_⟩
  · refine List.forall₂_iff_zip.2 ⟨hzip.1, fun {p row} hmem => ?_⟩
    have hrow := hzip.2 hmem
    have hnames := m.placeNames_nodup he hapart (List.of_mem_zip hmem).1
    exact ⟨(Graph.isRowOf_of_rowOf hrow).entity_eq, (Graph.columns_of_rowOf hrow).2 hnames⟩
  · have hall : List.Forall₂ (fun p row =>
        db.graph.rowOf record e.strategy (db.graph.ancestry e) p.level p.entity p.columns = .ok row ∧
          db.graph.LengthsRespected p row) (db.graph.places e) rows :=
      List.forall₂_iff_zip.2 ⟨hzip.1, fun hmem => ⟨hzip.2 hmem, (List.forall₂_iff_zip.1 hrespects).2 hmem⟩⟩
    exact m.respects_of_lengthsRespected he hapart ⟨hchildren, Or.inl hj⟩ hv hall
  · exact henough fun hj _ hparent v hv => m.respects_of_undeclared he hj hparent hnone hv

/-! ## A garage

Vehicles tell cars by a word of twenty letters, and cars tell vans by one of three. -/

open FieldDescriptor in
def garageEntities : List EntityDescriptor := [
  { typeName := "Vehicle", table := some {}, discriminatorColumn := some { name := "kind", length := some 20 },
    discriminatorValue := some "vehicle", fields := [(plain "id" .long).asId] },
  { typeName := "Car", table := some {}, ancestors := ["Vehicle"],
    discriminatorColumn := some { name := "body", length := some 3 }, discriminatorValue := some "motorcar" },
  { typeName := "Van", table := some {}, ancestors := ["Car", "Vehicle"], discriminatorValue := some "van" }]

def garageEntries : Except ConfigurationError Database := ofEntities { name := "garage" } garageEntities

theorem garageEntries_isSome : garageEntries.toOption.isSome = true := by decide +kernel

def garage : Database := (garageEntries.toOption.get garageEntries_isSome).map

theorem garage_mapped : garage.Mapped :=
  ⟨(reachable_ofEntities (Outcome.eq_ok_get garageEntries_isSome)).map, by decide +kernel⟩

def garageEntity (i : Fin 3) : Entity := garage.graph.entities.get (i.cast (by decide +kernel))

def garageVan : Record := { typeName := "Van", values := [("id", .integer 1)] }

theorem garageVan_isSome : (garage.graph.rows garageVan).toOption.isSome = true := by decide +kernel

/-- The rows of a van hold `motorcar` and `van`, which are within twenty and three letters. -/
theorem lengths_respected_iff_van : ∃ rows, garage.graph.rows garageVan = .ok rows ∧
    rows.map (·.cells) = [[("id", .integer 1), ("kind", .text "motorcar")],
      [("id", .integer 1), ("body", .text "van")], [("id", .integer 1)]] ∧
    List.Forall₂ garage.graph.LengthsRespected (garage.graph.places (garageEntity 2)) rows := by
  have hrows := Outcome.eq_ok_get garageVan_isSome
  have hstrategy : (garageEntity 2).strategy = .joined := by decide +kernel
  have hleaf : (garageEntity 2).hasChildren = false := by decide +kernel
  obtain ⟨-, hrespects, -⟩ := lengths_respected_iff garage_mapped (e := garageEntity 2)
    (fun hs => by rw [hstrategy] at hs; cases hs) (by decide +kernel) hrows
  refine ⟨_, hrows, by decide +kernel, hrespects.2 fun _ hchildren => ?_⟩
  rw [hleaf] at hchildren
  cases hchildren

/-- **The row of a car holds `motorcar` in a column of three letters**, though the database is mapped. -/
theorem long_word_stored : garage.Mapped ∧ garage.graph.find? "Car" = some (garageEntity 1) ∧
    (∃ disc, garage.graph.discriminatorInForce? (garageEntity 1) = some disc ∧ disc.name = "body" ∧
      disc.length = some 3) ∧
    (∃ col ∈ (garageEntity 1).ownColumns, col.isDiscriminator = true ∧ col.name = "body") ∧
    garage.graph.rows { typeName := "Car", values := [("id", .integer 1)] } = .ok [
      { entity := "Vehicle", table := "vehicle", level := 0, cells := [("id", .integer 1), ("kind", .text "motorcar")] },
      { entity := "Car", table := "car", level := 1, cells := [("id", .integer 1), ("body", .text "motorcar")] }] := by
  refine ⟨garage_mapped, by decide +kernel, ?_, ?_, by decide +kernel⟩
  · exact ⟨{ name := "body", length := some 3 }, by decide +kernel, rfl, rfl⟩
  · exact ⟨(garageEntity 1).ownColumns.get ⟨0, by decide +kernel⟩, by decide +kernel, by decide +kernel,
      by decide +kernel⟩

end Database
end Ormap
