import Mathlib.Data.List.Perm.Subperm
import Ormap.Proofs.Scripts
/-!
# Origins — where the references of a column end

The storage type of a foreign key is that of the column it refers to, which may be a foreign key as well.  References
that end have one end, which is found however many steps are allowed (`LeadsTo.origin?`).  A relationship refers to a
column that is no foreign key, whatever entities refer to each other, and a join table to any column of an entity: so
the references of a column end after one step, or after two.
-/
namespace Ormap
namespace Graph

variable {g : Graph} {n : Nat} {col last : Column}

/-- Whether the references of a column end, after so many steps, at a column that is no foreign key. -/
inductive LeadsTo (g : Graph) : Nat → Column → Column → Prop where
  | stays {col : Column} (h : col.foreignKey? = none) : LeadsTo g 0 col col
  | refers {n : Nat} {col next last : Column} {key : ForeignKey} (hk : col.foreignKey? = some key)
      (hr : g.referenced? key = some next) (h : LeadsTo g n next last) : LeadsTo g (n + 1) col last

/-- Whether the type of a column is found in at most `most` steps, however many are allowed: the type of the column at
the end of its references, and of its own attribute.  It asks for one column more than there are steps, the first being
itself. -/
structure FindsType (g : Graph) (most : Nat) (col : Column) : Prop where
  ends : ∃ n ≤ most, ∃ last, g.LeadsTo n col last ∧ last.isForeignKey = false ∧
    (∀ steps, n ≤ steps → g.origin? steps col = some last) ∧
    (∀ holder, (g.columnDemand holder col).columns.length = n + 1) ∧
    (g.columnView col).type = last.type.sqlType
  own : (g.columnView col).type = col.type.sqlType

/-! ## Chains of references -/

section
variable {next : Column} {key : ForeignKey} {steps : Nat} {holder : String}

theorem origin?_of_plain (h : col.foreignKey? = none) : g.origin? steps col = some col := by
  cases steps with
  | zero =>
    unfold origin?
    rw [Column.isForeignKey, h]
    rfl
  | succ steps =>
    unfold origin?
    rw [h]

theorem origin?_succ (hk : col.foreignKey? = some key) (hr : g.referenced? key = some next) :
    g.origin? (steps + 1) col = g.origin? steps next := by
  rw [origin?, hk]
  dsimp only
  rw [hr, Option.bind_some]

theorem reached_of_plain (h : col.foreignKey? = none) : g.reached steps holder col = [⟨holder, col.name⟩] := by
  cases steps with
  | zero => rfl
  | succ steps => rw [reached, h]

theorem reached_succ (hk : col.foreignKey? = some key) (hr : g.referenced? key = some next) :
    g.reached (steps + 1) holder col = ⟨holder, col.name⟩ :: g.reached steps key.entity next := by
  rw [reached, hk]
  dsimp only
  rw [hr]

end

namespace LeadsTo

theorem isForeignKey (h : g.LeadsTo n col last) : last.isForeignKey = false := by
  induction h with
  | stays h =>
    rw [Column.isForeignKey, h]
    rfl
  | refers _ _ _ ih => exact ih

/-- **The end of the references is found by every walk that is allowed the steps.** -/
theorem origin? (h : g.LeadsTo n col last) : ∀ steps, n ≤ steps → g.origin? steps col = some last := by
  induction h with
  | stays h => exact fun _ _ => origin?_of_plain h
  | refers hk hr _ ih =>
    intro steps hsteps
    obtain ⟨steps, rfl⟩ := Nat.exists_eq_add_one_of_ne_zero (Nat.ne_zero_of_lt hsteps)
    rw [origin?_succ hk hr]
    exact ih steps (Nat.le_of_succ_le_succ hsteps)

theorem length_reached (h : g.LeadsTo n col last) : ∀ steps, n ≤ steps → ∀ holder,
    (g.reached steps holder col).length = n + 1 := by
  induction h with
  | stays h =>
    intro steps _ holder
    rw [reached_of_plain h]
    rfl
  | refers hk hr _ ih =>
    intro steps hsteps holder
    obtain ⟨steps, rfl⟩ := Nat.exists_eq_add_one_of_ne_zero (Nat.ne_zero_of_lt hsteps)
    rw [reached_succ hk hr, List.length_cons, ih steps (Nat.le_of_succ_le_succ hsteps)]

end LeadsTo

theorem length_columns_le {e : Entity} (he : e ∈ g.entities) : e.columns.length ≤ g.columnCount :=
  (List.sublist_flatten_of_mem (List.mem_map_of_mem he)).length_le

end Graph

namespace Resolution
namespace Maps

variable {cfg : Config} {c : Catalog} {g : Graph} {e : Entity} {n most : Nat} {col last : Column} (m : Maps cfg c g)
include m

/-! ## The steps that are needed -/

/-- A foreign key of an entity refers to a column that is none. -/
theorem exists_referenced (he : e ∈ g.entities) (hc : col ∈ e.columns) {key : ForeignKey}
    (hk : col.foreignKey? = some key) : ∃ rc, g.referenced? key = some rc ∧ rc.isForeignKey = false := by
  obtain ⟨x, hx, hxc, hxk, -⟩ := m.foreignKey_of_mem he hc hk
  obtain ⟨-, r, -, -, -, hent, t, ht, htn, rc, hrc, hrk, hname, -⟩ :=
    m.own_foreignKey (m.mem_of_ancestry he hx) hxc hxk
  exact ⟨rc, m.referenced?_eq ht (htn.trans hent.symm) hrc hname, hrk⟩

/-- **The references of a column of an entity end after one step at most**, and there are more columns than steps. -/
theorem exists_leadsTo (he : e ∈ g.entities) (hc : col ∈ e.columns) :
    ∃ n ≤ 1, ∃ last, g.LeadsTo n col last ∧ n < g.columnCount := by
  have hcount := Graph.length_columns_le he
  cases hk : col.foreignKey? with
  | none => exact ⟨0, Nat.zero_le 1, col, .stays hk, Nat.lt_of_lt_of_le (List.length_pos_of_mem hc) hcount⟩
  | some key =>
    obtain ⟨rc, hr, hrk⟩ := m.exists_referenced he hc hk
    refine ⟨1, Nat.le_refl 1, rc, .refers hk hr (.stays (by simpa [Column.isForeignKey] using hrk)), ?_⟩
    -- the entity has a key column besides
    obtain ⟨p, hp⟩ := List.exists_mem_of_ne_nil _ (m.primaryKeys_ne_nil he)
    obtain ⟨hp, hpk⟩ := List.mem_filter.1 hp
    have hne : col ≠ p := by
      rintro rfl
      have := m.isForeignKey_of_primaryKey he hp hpk
      rw [Column.isForeignKey, hk] at this
      cases this
    have hpair : [col, p].Nodup := by simpa using hne
    have hsub : [col, p] ⊆ e.columns := List.cons_subset.2 ⟨hc, List.cons_subset.2 ⟨hp, List.nil_subset _⟩⟩
    exact Nat.lt_of_lt_of_le (hpair.subperm hsub).length_le hcount

theorem findsType (hcol : g.KeepsType col) (h : g.LeadsTo n col last) (hn : n ≤ most) (hcount : n ≤ g.columnCount) :
    g.FindsType most col := by
  refine ⟨⟨n, hn, last, h, h.isForeignKey, h.origin?, h.length_reached _ hcount, ?_⟩, m.sqlType_eq hcol⟩
  unfold Graph.columnView Graph.sqlType
  rw [h.origin? _ hcount]
  rfl

theorem findsType_of_mem (he : e ∈ g.entities) (hc : col ∈ e.columns) : g.FindsType 1 col := by
  obtain ⟨n, hn, last, h, hcount⟩ := m.exists_leadsTo he hc
  exact m.findsType (m.keepsType he hc) h hn (Nat.le_of_lt hcount)

/-- **A column that refers to any column of an entity needs one step more.** -/
theorem findsType_of_refersTo (he : e ∈ g.entities) (href : col.RefersTo e) (hcol : g.KeepsType col) :
    g.FindsType 2 col ∧ ∃ key rc, col.foreignKey? = some key ∧ g.referenced? key = some rc ∧ g.FindsType 1 rc := by
  obtain ⟨key, hk, hent, rc, hrc, hname⟩ := href
  have hr := m.referenced?_eq he hent.symm hrc hname
  obtain ⟨n, hn, last, h, hcount⟩ := m.exists_leadsTo he hrc
  exact ⟨m.findsType hcol (.refers hk hr h) (Nat.succ_le_succ hn) hcount, key, rc, hk, hr, m.findsType_of_mem he hrc⟩

end Maps
end Resolution

namespace Database

theorem graph_joinTable_eq_ok {db : Database} {r : Relationship} {t : JoinTable} (h : db.joinTable r = .ok t) :
    db.graph.joinTable r = .ok t := by
  unfold joinTable at h
  split at h
  · obtain ⟨source, -, h⟩ := Outcome.bind_eq_ok.1 h
    obtain ⟨target, -, h⟩ := Outcome.bind_eq_ok.1 h
    obtain ⟨u, -, h⟩ := Outcome.bind_eq_ok.1 h
    obtain ⟨u', -, h⟩ := Outcome.bind_eq_ok.1 h
    exact h
  · exact h

/-- **Column types resolve through any reference pattern.**  In a mapped database the references of a column of an
entity end after one step at most, at a column that is no foreign key; a column of a join table refers to a column of an
entity, so its references end after two.  The storage type of a column is that of the column at the end, and that of its
own attribute. -/
theorem column_types_resolve {db : Database} (h : db.Mapped) :
    (∀ e ∈ db.graph.entities, ∀ col ∈ e.columns, db.graph.FindsType 1 col ∧ ∀ key, col.foreignKey? = some key →
      ∃ rc, db.graph.referenced? key = some rc ∧ rc.isForeignKey = false) ∧
    ∀ r t, db.joinTable r = .ok t → ∀ col ∈ t.columns, db.graph.FindsType 2 col ∧
      ∃ key rc, col.foreignKey? = some key ∧ db.graph.referenced? key = some rc ∧ db.graph.FindsType 1 rc := by
  have m := h.maps
  refine ⟨fun e he col hc => ⟨m.findsType_of_mem he hc, fun key hk => m.exists_referenced he hc hk⟩, ?_⟩
  intro r t hrt col hc
  obtain ⟨source, target, hs, ht, hb⟩ := Graph.joinTable_eq_ok (graph_joinTable_eq_ok hrt)
  obtain ⟨sourceTable, targetTable, -, -, hd, hi, -⟩ := JoinTable.build_parts hb
  rcases List.mem_append.1 hc with hc | hc
  · have he := (m.find?_eq_some_iff.1 hs).1
    exact m.findsType_of_refersTo he (JoinTable.group_eq_ok hd col hc) (JoinTable.keepsType_of_group he hd col hc)
  · have he := (m.find?_eq_some_iff.1 ht).1
    exact m.findsType_of_refersTo he (JoinTable.group_eq_ok hi col hc) (JoinTable.keepsType_of_group he hi col hc)

open FieldDescriptor RelationshipDescriptor

/-- Employees have a manager, who is one of them, and a team, which one of them leads.  The teams that they visit are
joined to their managers. -/
def staffEntities : List EntityDescriptor := [
  { typeName := "Employee", table := some {}, inheritance := some .tablePerClass,
    discriminatorColumn := some {}, discriminatorValue := some "employee",
    fields := [(plain "id" .long).asId, reference "manager" (.manyToOne "Employee"),
      reference "team" (.manyToOne "Team"), reference "visits" (withJoinTable (.manyToMany "Team")
        (JoinTableDescriptor.addJoinColumn {} (.referencing "manager" "manager_id")))] },
  { typeName := "Clerk", ancestors := ["Employee"], table := some {}, discriminatorValue := some "clerk" },
  { typeName := "Team", table := some {},
    fields := [(plain "code" .uuid).asId, reference "lead" (.oneToOne "Employee")] }]

def staffEntries : Except ConfigurationError Database := ofEntities { name := "staff" } staffEntities

theorem staffEntries_isSome : staffEntries.toOption.isSome = true := by decide +kernel

def staff : Database := (staffEntries.toOption.get staffEntries_isSome).map

theorem staff_mapped : staff.Mapped :=
  ⟨(reachable_ofEntities (Outcome.eq_ok_get staffEntries_isSome)).map, by decide +kernel⟩

/-- The managers that join their employees to teams are two steps from the key of an employee. -/
theorem column_types_resolve_staff : ∃ r t, staff.joinTable r = .ok t ∧
    t.columns.map (fun col => (staff.graph.columnDemand t.name col).columns.map (·.column)) =
      [["manager", "manager_id", "id"], ["team_code", "code"]] ∧
    ∀ col ∈ t.columns, staff.graph.FindsType 2 col := by
  have hok : (staff.graph.joinTableRelationships.head?.bind fun r => (staff.joinTable r).toOption).map
      (fun t => t.columns.map fun col => (staff.graph.columnDemand t.name col).columns.map (·.column)) =
      some [["manager", "manager_id", "id"], ["team_code", "code"]] := by decide +kernel
  obtain ⟨t, ht, hnames⟩ := Option.map_eq_some_iff.1 hok
  obtain ⟨r, -, hr⟩ := Option.bind_eq_some_iff.1 ht
  cases hrt : staff.joinTable r with
  | error e => rw [hrt] at hr; cases hr
  | ok t' =>
    rw [hrt] at hr
    cases hr
    exact ⟨r, t, hrt, hnames, fun col hc => ((column_types_resolve staff_mapped).2 r t hrt col hc).1⟩

end Database
end Ormap
