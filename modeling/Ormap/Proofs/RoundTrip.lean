import Ormap.Proofs.Leaf
import Ormap.Proofs.Schema
/-!
# Round trips — an object comes back from its rows

The rows of an object, joined and read as a row of a query over any entity on the way to its own, give the object's
type, a value for every field behind a column on the way, and in it what the object holds there.  Discriminator columns
are the exception: a field behind one comes back with the value that tells the type.
-/
namespace Ormap

/-- A field that a record lacks is null, which every column takes. -/
theorem Record.noLeapSecond_get {r : Record} (h : ∀ p ∈ r.values, p.2.NoLeapSecond) (field : String) :
    (r.get field).NoLeapSecond := by
  unfold Record.get
  cases hg : Cells.get? field r.values with
  | none =>
    intro t ht
    cases ht
  | some v => exact h _ (Cells.mem_of_get? hg)

/-- **What loading adds to an object**: values from given sources, for exactly the fields that have one. -/
structure Record.Extends (before after : Record) (source : String → Value → Prop) : Prop where
  typeName_eq : after.typeName = before.typeName
  references_eq : after.references = before.references
  mem_names : ∀ f, f ∈ Cells.names after.values ↔ f ∈ Cells.names before.values ∨ ∃ v, source f v
  of_get? : ∀ f v, Cells.get? f after.values = some v → Cells.get? f before.values = some v ∨ source f v

namespace Record.Extends

variable {r r₁ r₂ : Record} {s₁ s₂ : String → Value → Prop}

theorem refl (h : ∀ f v, ¬ s₁ f v) : Extends r r s₁ :=
  ⟨rfl, rfl, fun f => ⟨Or.inl, fun hf => hf.resolve_right fun ⟨v, hv⟩ => h f v hv⟩, fun _ _ => Or.inl⟩

theorem set (field : String) (v : Value) : Extends r (r.set field v) (fun f w => f = field ∧ w = v) := by
  refine ⟨rfl, rfl, fun f => ?_, fun f w hw => ?_⟩
  · show f ∈ Cells.names (Cells.set field v r.values) ↔ _
    rw [Cells.mem_names_set, or_comm]
    exact or_congr Iff.rfl ⟨fun hf => ⟨v, hf, rfl⟩, fun ⟨_, hf, _⟩ => hf⟩
  · change Cells.get? f (Cells.set field v r.values) = some w at hw
    rw [Cells.get?_set] at hw
    by_cases hf : f = field
    · rw [if_pos hf] at hw
      exact Or.inr ⟨hf, (Option.some.inj hw).symm⟩
    · rw [if_neg hf] at hw
      exact Or.inl hw

theorem trans (h₁ : Extends r r₁ s₁) (h₂ : Extends r₁ r₂ s₂) : Extends r r₂ (fun f v => s₁ f v ∨ s₂ f v) := by
  refine ⟨h₂.typeName_eq.trans h₁.typeName_eq, h₂.references_eq.trans h₁.references_eq, fun f => ?_, fun f v hv => ?_⟩
  · rw [h₂.mem_names, h₁.mem_names, exists_or, or_assoc]
  · rcases h₂.of_get? f v hv with hv | hv
    · exact (h₁.of_get? f v hv).imp_right Or.inl
    · exact Or.inr (Or.inr hv)

theorem congr (h : Extends r r₁ s₁) (hs : ∀ f v, s₁ f v ↔ s₂ f v) : Extends r r₁ s₂ := by
  refine ⟨h.typeName_eq, h.references_eq, fun f => ?_, fun f v hv => (h.of_get? f v hv).imp_right (hs f v).1⟩
  rw [h.mem_names]
  exact or_congr Iff.rfl (exists_congr fun v => hs f v)

end Record.Extends

namespace Graph

variable {g : Graph} {row : Row} {level : Nat}

theorem loadedField?_eq_some {c : Column} {field : String} :
    loadedField? c = some field ↔ c.isForeignKey = false ∧ c.field = some field := by
  unfold loadedField?
  cases c.isForeignKey <;> simp

/-- **Columns that can be read load, each into its field.** -/
theorem loadColumns_eq : ∀ {cols : List Column} (record : Record),
    (∀ c ∈ cols, ∀ f, loadedField? c = some f → ∃ v, c.read row level = .ok v) →
    ∃ out, loadColumns row level cols record = .ok out ∧
      record.Extends out (fun f v => ∃ c ∈ cols, loadedField? c = some f ∧ c.read row level = .ok v)
  | [], record, _ => ⟨record, rfl, .refl fun f v ⟨c, hc, _⟩ => by cases hc⟩
  | c :: cs, record, h => by
    have hrest : ∀ a ∈ cs, ∀ f, loadedField? a = some f → ∃ v, a.read row level = .ok v :=
      fun a ha => h a (List.mem_cons_of_mem _ ha)
    unfold loadColumns
    cases hf : loadedField? c with
    | none =>
      obtain ⟨out, ho, he⟩ := loadColumns_eq record hrest
      refine ⟨out, ho, he.congr fun f v => ?_⟩
      rw [List.exists_mem_cons_iff, hf]
      simp
    | some field =>
      obtain ⟨v, hv⟩ := h c List.mem_cons_self field hf
      obtain ⟨out, ho, he⟩ := loadColumns_eq (record.set field v) hrest
      refine ⟨out, ?_, ((Record.Extends.set field v).trans he).congr fun f w => ?_⟩
      · dsimp only
        rw [hv]
        exact ho
      · rw [List.exists_mem_cons_iff, hf, hv]
        simp [eq_comm]

/-- **A path all of whose columns can be read loads**, where the ways up from its entities are found whole. -/
theorem loadPath_eq : ∀ {path : List Entity} (record : Record),
    (∀ x ∈ path, g.requireAliasLevel x = .ok (g.aliasLevel x)) →
    (∀ x ∈ path, ∀ c ∈ x.ownColumns, ∀ f, loadedField? c = some f → ∃ v, c.read row (g.aliasLevel x) = .ok v) →
    ∃ out, g.loadPath row path record = .ok out ∧ record.Extends out (fun f v =>
      ∃ x ∈ path, ∃ c ∈ x.ownColumns, loadedField? c = some f ∧ c.read row (g.aliasLevel x) = .ok v)
  | [], record, _, _ => ⟨record, rfl, .refl fun f v ⟨x, hx, _⟩ => by cases hx⟩
  | x :: path, record, hlevels, h => by
    obtain ⟨mid, hm, he₁⟩ := loadColumns_eq record (h x List.mem_cons_self)
    obtain ⟨out, ho, he₂⟩ := loadPath_eq mid (fun y hy => hlevels y (List.mem_cons_of_mem _ hy)) fun y hy =>
      h y (List.mem_cons_of_mem _ hy)
    refine ⟨out, ?_, (he₁.trans he₂).congr fun f v => ?_⟩
    · unfold loadPath
      rw [hlevels x List.mem_cons_self]
      show ((loadColumns row (g.aliasLevel x) x.ownColumns record).mapError Error.marshalling >>= g.loadPath row path) = _
      rw [hm]
      exact ho
    · rw [List.exists_mem_cons_iff]

end Graph

namespace Resolution
namespace Maps

variable {cfg : Config} {c : Catalog} {g : Graph} {e q x : Entity} {record : Record} {rows : List TableRow}
  {ts : List CreateTable} (m : Maps cfg c g)
include m

/-- **A plain column on the way comes back with what the object holds.** -/
theorem read_plain (hst : e.strategy = .singleTable → ∃ stored, g.tableColumns (g.root e) = .ok stored)
    (he : e ∈ g.entities) (h : g.rowsOf record e = .ok rows) (hleap : ∀ p ∈ record.values, p.2.NoLeapSecond)
    (hx : x ∈ g.ancestry e) {col : Column} (hc : col ∈ x.ownColumns) (hk : col.isForeignKey = false)
    (hd : col.isDiscriminator = false) {field : String} (hf : col.field = some field) :
    col.read (Row.ofTableRows rows) (g.aliasLevel x) = .ok (record.get field) := by
  obtain ⟨v, w, hv, hw, hget⟩ := m.written hst he h hx hc
  unfold Graph.cellValue at hv
  rw [Column.role_eq_simple hk hd, hf] at hv
  cases hv
  unfold Column.read
  rw [hget]
  exact Attribute.load_store (Record.noLeapSecond_get hleap field) hw

/-- Where the script can be made, the table of a single-table hierarchy stores no name twice. -/
theorem exists_stored_root (hts : g.schema = .ok ts) (he : e ∈ g.entities) (hs : e.strategy = .singleTable) :
    ∃ stored, g.tableColumns (g.root e) = .ok stored := by
  obtain ⟨hr, hrp⟩ := m.root_mem he
  have ht : (g.root e).tableName.isSome = true := by
    rw [m.tableName_isSome hr, m.strategy_root he, hs]
    exact hrp
  obtain ⟨t, -, hc⟩ := Graph.exists_createTable hts hr ht
  obtain ⟨-, stored, -, -, hs, -⟩ := Graph.createTable_eq_ok hc
  exact ⟨stored, hs⟩

section
variable (hts : g.schema = .ok ts) (he : e ∈ g.entities) (h : g.rowsOf record e = .ok rows)
  (hleap : ∀ p ∈ record.values, p.2.NoLeapSecond)
include hts he h hleap

/-- **Every column on the way that loads a field can be read**: it holds the value that tells the type, or what the
object holds. -/
theorem read_of_rowsOf (hx : x ∈ g.ancestry e) {col : Column} (hc : col ∈ x.ownColumns) {field : String}
    (hf : Graph.loadedField? col = some field) : ∃ v, col.read (Row.ofTableRows rows) (g.aliasLevel x) = .ok v ∧
      (col.isDiscriminator = false → v = record.get field) := by
  have hst := m.exists_stored_root hts he
  obtain ⟨hk, hf⟩ := Graph.loadedField?_eq_some.1 hf
  cases hd : col.isDiscriminator with
  | true =>
    obtain ⟨s, v, -, -, -, hv⟩ := m.describes_of_rowsOf hst he h x hx col hc hd
    exact ⟨v, hv, fun h => by cases h⟩
  | false => exact ⟨_, m.read_plain hst he h hleap hx hc hk hd hf, fun _ => rfl⟩

/-- **An object comes back from its rows through every entity on the way to its own.** -/
theorem record_of_rowsOf (ha : e.isAbstract = false) (hq : q ∈ g.ancestry e) :
    ∃ out, g.record q.typeName (Row.ofTableRows rows) = .ok out ∧
      Record.Extends { typeName := e.typeName } out (fun f v => ∃ x ∈ g.ancestry e, ∃ col ∈ x.ownColumns,
        Graph.loadedField? col = some f ∧ col.read (Row.ofTableRows rows) (g.aliasLevel x) = .ok v) := by
  have hdesc := m.describes_of_rowsOf (m.exists_stored_root hts he) he h
  have hread : ∀ x ∈ g.ancestry e, ∀ col ∈ x.ownColumns, ∀ f, Graph.loadedField? col = some f →
      ∃ v, col.read (Row.ofTableRows rows) (g.aliasLevel x) = .ok v := by
    intro x hx col hc f hf
    obtain ⟨v, hv, -⟩ := m.read_of_rowsOf hts he h hleap hx hc hf
    exact ⟨v, hv⟩
  obtain ⟨out, ho, hext⟩ := Graph.loadPath_eq { typeName := e.typeName }
    (fun x hx => m.requireAliasLevel (m.mem_of_ancestry he hx)) hread
  refine ⟨out, ?_, hext⟩
  unfold Graph.record
  rw [m.requireResolved_eq_ok.2 (m.find?_typeName (m.mem_of_ancestry he hq))]
  show (g.leaf q (Row.ofTableRows rows) >>= fun leaf => _) = _
  rw [m.leaf_eq he hdesc hq]
  show (if e.isAbstract = true then _ else _) = _
  rw [ha, if_neg Bool.false_ne_true, m.requireAncestry he]
  exact ho

end

end Maps
end Resolution

namespace Database

/-- **Objects come back from their rows.**  Where the script of a mapped database can be made, the rows of an object
without leap seconds, joined and read through any entity on the way to its own, give an object of its type without
references, with a value for exactly the fields behind a column of the way that is no foreign key, and in every field
behind no discriminator column with what the object holds there, null for a field that it lacks. -/
theorem object_round_trip {db : Database} (h : db.Mapped) {ts : List CreateTable} (hs : db.schema = .ok ts)
    {record : Record} {rows : List TableRow} (hr : db.graph.rows record = .ok rows)
    (hleap : ∀ p ∈ record.values, p.2.NoLeapSecond) :
    ∃ e, db.graph.find? record.typeName = some e ∧ ∀ q ∈ db.graph.ancestry e, ∃ out,
      db.graph.record q.typeName (Row.ofTableRows rows) = .ok out ∧ out.typeName = record.typeName ∧
      out.references = [] ∧
      (∀ f, f ∈ Cells.names out.values ↔
        ∃ x ∈ db.graph.ancestry e, ∃ col ∈ x.ownColumns, col.isForeignKey = false ∧ col.field = some f) ∧
      ∀ f ∈ Cells.names out.values,
        (∀ x ∈ db.graph.ancestry e, ∀ col ∈ x.ownColumns, col.field = some f → col.isDiscriminator = false) →
        Cells.get? f out.values = some (record.get f) := by
  obtain ⟨u, -, hts⟩ := Outcome.bind_eq_ok.1 hs
  have m := h.maps
  obtain ⟨e, hfind, ha, hrows⟩ := m.rows_eq_ok hr
  have he := (m.find?_eq_some_iff.1 hfind).1
  refine ⟨e, hfind, fun q hq => ?_⟩
  obtain ⟨out, ho, hext⟩ := m.record_of_rowsOf hts he hrows hleap ha hq
  refine ⟨out, ho, hext.typeName_eq.trans (m.find?_eq_some_iff.1 hfind).2, hext.references_eq, fun f => ?_, ?_⟩
  · rw [hext.mem_names]
    constructor
    · rintro (hf | ⟨v, x, hx, col, hc, hf, -⟩)
      · cases hf
      · exact ⟨x, hx, col, hc, Graph.loadedField?_eq_some.1 hf⟩
    · rintro ⟨x, hx, col, hc, hf⟩
      have hf := Graph.loadedField?_eq_some.2 hf
      obtain ⟨v, hv, -⟩ := m.read_of_rowsOf hts he hrows hleap hx hc hf
      exact Or.inr ⟨v, x, hx, col, hc, hf, hv⟩
  · intro f hf hplain
    obtain ⟨v, hv⟩ := Option.isSome_iff_exists.1 (Cells.get?_isSome.2 hf)
    rcases hext.of_get? f v hv with hv' | ⟨x, hx, col, hc, hfield, hread⟩
    · cases hv'
    · -- the value was read from a column that holds what the object holds
      obtain ⟨w, hw, hval⟩ := m.read_of_rowsOf hts he hrows hleap hx hc hfield
      cases hw.symm.trans hread
      rw [hv, hval (hplain x hx col hc (Graph.loadedField?_eq_some.1 hfield).2)]

/-- A van of the fleet, built before 1970, whose owner is a boss and whose load is not known. -/
def fleetVan : Record where
  typeName := "Van"
  values := [("id", .integer 5), ("name", .text "T4"), ("doors", .integer 3),
    ("built", .timestamp ⟨-1, 1000000, by decide, by decide⟩)]
  references := [("owner", { target := "Boss", key := some [("id", .uuid ⟨List.replicate 32 (Fin.last 15), rfl⟩)] })]

/-- The van has a row in each of three tables, and comes back whole from them as a vehicle, as a car or as a van. -/
theorem object_round_trip_fleet : ∃ e rows, fleet.graph.find? "Van" = some e ∧ fleet.graph.rows fleetVan = .ok rows ∧
    rows.map (·.table) = ["vehicle", "car", "van"] ∧
    (fleet.graph.ancestry e).map (·.typeName) = ["Vehicle", "Car", "Van"] ∧ ∀ q ∈ fleet.graph.ancestry e, ∃ out,
      fleet.graph.record q.typeName (Row.ofTableRows rows) = .ok out ∧ out.typeName = "Van" ∧
      ∀ f ∈ Cells.names out.values, Cells.get? f out.values = some (fleetVan.get f) := by
  have hschema : fleet.schema.isOk = true := by decide +kernel
  have htables : (fleet.graph.rows fleetVan).toOption.map (·.map (·.table)) = some ["vehicle", "car", "van"] := by
    decide +kernel
  have hpath : (fleet.graph.find? "Van").map (fun e => (fleet.graph.ancestry e).map (·.typeName)) =
      some ["Vehicle", "Car", "Van"] := by decide +kernel
  have hplain : (fleet.graph.find? "Van").all (fun e => (fleet.graph.ancestry e).all fun x =>
      x.ownColumns.all fun col => col.field.isNone || !col.isDiscriminator) = true := by decide +kernel
  have hleap : ∀ p ∈ fleetVan.values, p.2.NoLeapSecond := by
    intro p hp t ht
    simp only [fleetVan, List.mem_cons, List.not_mem_nil, or_false] at hp
    rcases hp with rfl | rfl | rfl | rfl <;> cases ht
    decide
  cases hs : fleet.schema with
  | error e => rw [hs] at hschema; cases hschema
  | ok ts =>
    cases hr : fleet.graph.rows fleetVan with
    | error e => rw [hr] at htables; cases htables
    | ok rows =>
      obtain ⟨e, he, hall⟩ := object_round_trip fleet_mapped hs hr hleap
      rw [show fleetVan.typeName = "Van" from rfl] at he
      rw [hr] at htables
      rw [he] at hpath hplain
      refine ⟨e, rows, he, rfl, Option.some.inj htables, Option.some.inj hpath, fun q hq => ?_⟩
      obtain ⟨out, ho, htype, -, -, hval⟩ := hall q hq
      refine ⟨out, ho, htype, fun f hf => hval f hf fun x hx col hc hcf => ?_⟩
      have hcol := List.all_eq_true.1 (List.all_eq_true.1 hplain x hx) col hc
      rw [hcf] at hcol
      simpa using hcol

end Database
end Ormap
