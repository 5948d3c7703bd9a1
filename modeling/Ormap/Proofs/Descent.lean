import Mathlib.Data.List.Perm.Subperm
import Ormap.Object.Leaf
import Ormap.Proofs.Discriminators
import Ormap.Proofs.Navigation
import Ormap.Proofs.Ways
/-!
# Descent — which entity a row leads down to, whatever the row holds

A row of a query may hold anything: labels may be missing, cells may be of another type or name no entity.  The entity
that it leads to from another is said here without the descent (`Graph.Fits`): the columns of a joined hierarchy name
every step of the way, the root's column of the others names the entity itself.  The descent finds that entity exactly
when there is one (`Database.leaf_exact`), and no row keeps a descent going for more steps than there are entities.
-/
namespace Ormap
namespace Graph

variable {g : Graph} {row : Row} {e x y top : Entity} {v : Value}

/-- Whether the discriminator column that an entity owns reads as a value, at a level of a row. -/
def ReadsAt (row : Row) (level : Nat) (owner : Entity) (v : Value) : Prop :=
  ∃ c, owner.discriminatorColumn? = some c ∧ c.read row level = .ok v

/-- Whether a discriminator value leads no further than an entity: it is null, or the entity's own. -/
def EndsAt (e : Entity) (v : Value) : Prop := v = .null ∨ e.discriminatorValue = some v

/-- Whether the column of an entity in a joined hierarchy reads as the value of another. -/
def Tells (g : Graph) (row : Row) (x y : Entity) : Prop :=
  ∃ v, ReadsAt row (g.depth x) x v ∧ y.discriminatorValue = some v

/-- Whether a row leads no further than an entity in a joined hierarchy: it owns no column, or its column says so. -/
def Rests (g : Graph) (row : Row) (e : Entity) : Prop :=
  e.discriminatorColumn? = none ∨ ∃ v, ReadsAt row (g.depth e) e v ∧ EndsAt e v

/-- **Whether a row of a query over `top` fits an entity**, which is `top` or below it.  In a joined hierarchy each
entity on the way down tells the next one, and the last one rests; else `top` has nothing below it, or the root's column
leads no further than `top`, or it reads as the value of the entity below. -/
def Fits (g : Graph) (row : Row) (top leaf : Entity) : Prop :=
  (leaf = top ∨ leaf ∈ g.descendants top) ∧
  match top.strategy with
  | .joined => ∃ post, g.ancestry leaf = g.ancestry top ++ post ∧ (top :: post).IsChain (g.Tells row) ∧
      g.Rests row leaf
  | .singleTable | .tablePerClass => top.hasChildren = false ∧ leaf = top ∨
      ∃ v, ReadsAt row 0 (g.root top) v ∧
        (EndsAt top v ∧ leaf = top ∨ leaf ∈ g.descendants top ∧ leaf.discriminatorValue = some v)

/-- Whether the descent of a joined hierarchy goes on from an entity to another: to a child that the column tells. -/
def GoesOn (g : Graph) (row : Row) (x y : Entity) : Prop := y ∈ g.children x ∧ g.Tells row x y

/-! ## Values against arbitrary cells -/

/-- A coerced value answers to itself alone, whatever else a row may hold. -/
theorem answersTo_iff_own (he : ∀ w, e.discriminatorValue = some w → w.IsDiscriminator) :
    answersTo v e = true ↔ e.discriminatorValue = some v := by
  unfold answersTo
  cases hv : e.discriminatorValue with
  | none => simp
  | some own =>
    rw [Option.some.injEq]
    exact (he own hv).agrees_iff

theorem stopsAt_iff_endsAt_own (he : ∀ w, e.discriminatorValue = some w → w.IsDiscriminator) :
    stopsAt e v = true ↔ EndsAt e v := by
  have hnull : v.isNull = true ↔ v = .null := by cases v <;> simp [Value.isNull]
  unfold stopsAt EndsAt
  rw [Bool.or_eq_true, hnull, answersTo_iff_own he]

theorem mem_of_findByValue {candidates : List Entity} (h : findByValue top candidates v = .ok x) :
    x ∈ candidates ∧ answersTo v x = true := by
  unfold findByValue at h
  split at h
  · rename_i y hy
    cases h
    exact ⟨List.mem_of_find?_eq_some hy, by simpa using List.find?_some hy⟩
  · cases h

/-- **Among entities with different values, the one found by a value is the one that has it.** -/
theorem findByValue_eq_ok {candidates : List Entity}
    (hd : ∀ y ∈ candidates, ∀ w, y.discriminatorValue = some w → w.IsDiscriminator)
    (hone : ∀ y ∈ candidates, ∀ z ∈ candidates, y.discriminatorValue = z.discriminatorValue → y = z) :
    findByValue top candidates v = .ok x ↔ x ∈ candidates ∧ x.discriminatorValue = some v := by
  constructor
  · intro h
    obtain ⟨hx, hxv⟩ := mem_of_findByValue h
    exact ⟨hx, (answersTo_iff_own (hd x hx)).1 hxv⟩
  · rintro ⟨hx, hxv⟩
    unfold findByValue
    cases hf : candidates.find? (answersTo v) with
    | none => exact absurd ((answersTo_iff_own (hd x hx)).2 hxv) (List.find?_eq_none.1 hf x hx)
    | some z =>
      have hz := List.mem_of_find?_eq_some hf
      have hzv := (answersTo_iff_own (hd z hz)).1 (by simpa using List.find?_some hf)
      rw [hone z hz x hx (hzv.trans hxv.symm)]

end Graph

namespace Resolution
namespace Maps

variable {cfg : Config} {c : Catalog} {g : Graph} {e p q x y : Entity} {row : Row} {v : Value} (m : Maps cfg c g)
include m

/-! ## Values tell entities apart -/

theorem isDiscriminator_of_value (he : e ∈ g.entities) {v : Value} (hv : e.discriminatorValue = some v) :
    v.IsDiscriminator := by
  cases hp : g.parent? e with
  | some p =>
    obtain ⟨owner, hom, -, ho, hserved⟩ := m.owner_of_parent he hp
    obtain ⟨-, disc, raw, w, -, -, hw, hval⟩ := m.value_of_served hom ho hserved
    cases hval.symm.trans hv
    exact isDiscriminator_of_coerce (coerce_of_coerceValue hw)
  | none =>
    obtain ⟨-, disc, raw, -, -, hcv⟩ := m.value_of_root he hp hv
    exact isDiscriminator_of_coerce (coerce_of_coerceValue hcv)

/-- Below a root that is not joined, and at it, one value is that of one entity. -/
theorem eq_of_value (hx : x ∈ g.entities) (hy : y ∈ g.entities) (hj : x.strategy ≠ .joined)
    (hroot : g.root x = g.root y) (hchildren : (g.root x).hasChildren = true)
    (h : x.discriminatorValue = y.discriminatorValue) : x = y := by
  obtain ⟨hr, hrp⟩ := m.root_mem hx
  have hmem : ∀ z ∈ g.entities, g.root z = g.root x → z.strategy ≠ .joined →
      z ∈ g.root x :: g.served (g.root x) := by
    intro z hz hzr hzs
    cases hp : g.parent? z with
    | none =>
      rw [← hzr, m.root_eq_self hz hp]
      exact List.mem_cons_self
    | some p =>
      obtain ⟨owner, -, rfl, -, hserved⟩ := m.owner_of_parent hz hp
      rw [if_neg hzs, hzr] at hserved
      exact List.mem_cons_of_mem _ hserved
  have hys : y.strategy ≠ .joined := by
    rw [← m.strategy_root hy, ← hroot, m.strategy_root hx]
    exact hj
  exact List.inj_on_of_nodup_map (m.values_nodup hr ⟨hchildren, Or.inr hrp⟩) (hmem x hx rfl hj)
    (hmem y hy hroot.symm hys) h

/-- An entity without children is the last on any way that it is on. -/
theorem eq_of_not_hasChildren (he : e ∈ g.entities) (hq : q ∈ g.ancestry e) (h : q.hasChildren = false) : q = e := by
  obtain ⟨post, hpath⟩ := m.ancestry_eq_append he q hq
  cases post with
  | nil =>
    rw [List.append_nil] at hpath
    exact (Graph.eq_of_ancestry hpath).symm
  | cons y post =>
    rw [m.hasChildren_of_ancestry he hpath] at h
    cases h

theorem mem_above_of_served (he : e ∈ g.entities) (hy : y ∈ g.served e) : y ∈ g.entities ∧ e ∈ g.above y := by
  obtain ⟨hym, hy⟩ := (m.mem_served he).1 hy
  refine ⟨hym, ?_⟩
  split at hy
  · rw [m.above_child hym hy]
    exact List.mem_cons_self
  · exact hy

/-- **An entity and those below it that one column tells apart have different values**, also where the column is that of
a root further up. -/
theorem eq_of_value_served (he : e ∈ g.entities) (hc : e.hasChildren = true) (hx : x ∈ e :: g.served e)
    (hy : y ∈ e :: g.served e) (h : x.discriminatorValue = y.discriminatorValue) : x = y := by
  by_cases hj : e.strategy = .joined
  · exact List.inj_on_of_nodup_map (m.values_nodup he ⟨hc, Or.inl hj⟩) hx hy h
  · have hmem : ∀ z ∈ e :: g.served e, z ∈ g.entities ∧ e ∈ g.ancestry z := by
      intro z hz
      rcases List.mem_cons.1 hz with rfl | hz
      · exact ⟨he, g.self_mem_ancestry z⟩
      · obtain ⟨hzm, hez⟩ := m.mem_above_of_served he hz
        exact ⟨hzm, Graph.mem_ancestry.2 (Or.inl hez)⟩
    obtain ⟨hxm, hex⟩ := hmem x hx
    obtain ⟨hym, hey⟩ := hmem y hy
    have hrx := m.root_of_ancestry hxm e hex
    have hxj : x.strategy ≠ .joined := by
      rw [← m.strategy_of_ancestry hxm e hex]
      exact hj
    exact m.eq_of_value hxm hym hxj (hrx.symm.trans (m.root_of_ancestry hym e hey)) (hrx ▸ (m.root_owns he hc).1) h

/-- The value of an entity below leads further than the entity itself. -/
theorem not_endsAt_of_served (he : e ∈ g.entities) (hc : e.hasChildren = true) (hy : y ∈ g.served e)
    (hv : y.discriminatorValue = some v) : ¬ Graph.EndsAt e v := by
  obtain ⟨hym, hey⟩ := m.mem_above_of_served he hy
  rintro (rfl | hev)
  · cases (m.isDiscriminator_of_value hym hv).isNull
  · rw [m.eq_of_value_served he hc List.mem_cons_self (List.mem_cons_of_mem _ hy) (hev.trans hv.symm)] at hey
    exact m.not_mem_above hym hey

theorem findServed_eq_ok (he : e ∈ g.entities) (hc : e.hasChildren = true) :
    Graph.findByValue e (g.served e) v = .ok x ↔ x ∈ g.served e ∧ x.discriminatorValue = some v := by
  refine Graph.findByValue_eq_ok (fun y hy w hw => ?_) fun y hy z hz h => ?_
  · exact m.isDiscriminator_of_value (m.mem_above_of_served he hy).1 hw
  · exact m.eq_of_value_served he hc (List.mem_cons_of_mem _ hy) (List.mem_cons_of_mem _ hz) h

theorem stopsAt_iff_endsAt (he : e ∈ g.entities) : Graph.stopsAt e v = true ↔ Graph.EndsAt e v :=
  Graph.stopsAt_iff_endsAt_own fun _ => m.isDiscriminator_of_value he

/-! ## One step of the descent -/

/-- A step of the descent by a column, all names being found. -/
theorem joinedLeaf_of_column (he : e ∈ g.entities) {col : Column} (hc : e.discriminatorColumn? = some col)
    (steps : Nat) : g.joinedLeaf row (steps + 1) e = ((col.read row (g.depth e)).mapError .marshalling >>= fun v =>
      if Graph.stopsAt e v then pure e
      else (Graph.findByValue e (g.children e) v).mapError .marshalling >>= g.joinedLeaf row steps) := by
  conv_lhs => unfold Graph.joinedLeaf
  rw [hc, m.requireDepth he, m.requireChildren he]
  rfl

/-- **One step of the descent of a joined hierarchy**, over any row: it ends where the row rests, and goes on to the
child that the column tells. -/
theorem joinedLeaf_succ_eq_ok (he : e ∈ g.entities) (hj : e.strategy = .joined) (steps : Nat) :
    g.joinedLeaf row (steps + 1) e = .ok x ↔
      g.Rests row e ∧ x = e ∨ ∃ y, g.GoesOn row e y ∧ g.joinedLeaf row steps y = .ok x := by
  have hserved : g.served e = g.children e := if_pos hj
  cases hc : e.discriminatorColumn? with
  | none =>
    rw [Graph.joinedLeaf, hc]
    constructor
    · intro h
      cases h
      exact Or.inl ⟨Or.inl hc, rfl⟩
    · rintro (⟨-, rfl⟩ | ⟨y, ⟨-, v, ⟨col, hcol, -⟩, -⟩, -⟩)
      · rfl
      · rw [hc] at hcol
        cases hcol
  | some col =>
    have hchildren := (m.owns_of_column he hc).1
    rw [m.joinedLeaf_of_column he hc, Outcome.bind_eq_ok]
    constructor
    · rintro ⟨v, hread, h⟩
      have hr : Graph.ReadsAt row (g.depth e) e v := ⟨col, hc, Outcome.mapError_eq_ok.1 hread⟩
      split at h
      · rename_i hstop
        cases h
        exact Or.inl ⟨Or.inr ⟨v, hr, (m.stopsAt_iff_endsAt he).1 hstop⟩, rfl⟩
      · obtain ⟨y, hy, h⟩ := Outcome.bind_eq_ok.1 h
        rw [Outcome.mapError_eq_ok, ← hserved, m.findServed_eq_ok he hchildren, hserved] at hy
        exact Or.inr ⟨y, ⟨hy.1, v, hr, hy.2⟩, h⟩
    · rintro (⟨hrest, rfl⟩ | ⟨y, ⟨hy, v, ⟨col', hc', hread⟩, hyv⟩, h⟩)
      · obtain ⟨v, ⟨col', hc', hread⟩, hends⟩ := hrest.resolve_left (by rw [hc]; exact Option.some_ne_none _)
        cases hc.symm.trans hc'
        refine ⟨v, Outcome.mapError_eq_ok.2 hread, ?_⟩
        rw [if_pos ((m.stopsAt_iff_endsAt he).2 hends)]
        rfl
      · cases hc.symm.trans hc'
        rw [← hserved] at hy
        have hgo := m.not_endsAt_of_served he hchildren hy hyv
        refine ⟨v, Outcome.mapError_eq_ok.2 hread, ?_⟩
        rw [if_neg (mt (m.stopsAt_iff_endsAt he).1 hgo), ← hserved]
        have hfind := (m.findServed_eq_ok he hchildren).2 ⟨hy, hyv⟩
        exact Outcome.bind_eq_ok.2 ⟨y, Outcome.mapError_eq_ok.2 hfind, h⟩

/-! ## The descent ends -/

theorem depth_lt_size (he : e ∈ g.entities) : g.depth e < g.size := by
  have hsub := (m.nodup_ancestry he).subperm fun _ => m.mem_of_ancestry he
  have hlen := hsub.length_le
  rw [Graph.length_ancestry] at hlen
  exact hlen

theorem child_of_goesOn (he : e ∈ g.entities) (h : g.GoesOn row e y) : y ∈ g.entities ∧ g.parent? y = some e :=
  (m.mem_children he).1 h.1

/-- **A row leads fewer steps down from an entity than there are entities**, those above it counted in. -/
theorem length_lt_of_goesOn : ∀ {path : List Entity} {e : Entity}, e ∈ g.entities → (e :: path).IsChain (g.GoesOn row) →
    g.depth e + path.length < g.size
  | [], e, he, _ => m.depth_lt_size he
  | y :: path, e, he, h => by
    obtain ⟨hgo, hrest⟩ := List.isChain_cons_cons.1 h
    obtain ⟨hy, hp⟩ := m.child_of_goesOn he hgo
    have hlen := length_lt_of_goesOn hy hrest
    rw [m.depth_child hy hp] at hlen
    rw [List.length_cons]
    omega

/-- **Beyond the number of entities, the number of steps allowed makes no difference**, neither to the entity found nor
to the error. -/
theorem joinedLeaf_settled : ∀ {steps : Nat} {e : Entity}, e ∈ g.entities → g.size ≤ steps + g.depth e →
    ∀ more, g.joinedLeaf row (steps + more) e = g.joinedLeaf row steps e
  | 0, e, he, hs, _ => by
    have := m.depth_lt_size he
    omega
  | steps + 1, e, he, hs, more => by
    rw [show steps + 1 + more = steps + more + 1 by omega]
    cases hc : e.discriminatorColumn? with
    | none =>
      unfold Graph.joinedLeaf
      rw [hc]
    | some col =>
      rw [m.joinedLeaf_of_column he hc, m.joinedLeaf_of_column he hc]
      refine congrArg ((col.read row (g.depth e)).mapError Error.marshalling >>= ·) (funext fun v => ?_)
      split
      · rfl
      · cases hf : Graph.findByValue e (g.children e) v with
        | error fault => rfl
        | ok y =>
          -- the child is one level deeper, so that one step fewer is enough from it
          obtain ⟨hy, hp⟩ := (m.mem_children he).1 (Graph.mem_of_findByValue hf).1
          refine joinedLeaf_settled hy ?_ more
          rw [m.depth_child hy hp]
          omega

/-! ## The whole descent -/

/-- What is on the way from an entity down to another is the entity itself, or below it. -/
theorem eq_or_below_iff (he : e ∈ g.entities) (hx : x ∈ g.entities) :
    (x = e ∨ x ∈ g.descendants e) ↔ e ∈ g.ancestry x := by
  rw [Graph.mem_ancestry, m.mem_descendants_iff he hx, or_comm, eq_comm]

theorem mem_of_eq_or_below (he : e ∈ g.entities) (h : x = e ∨ x ∈ g.descendants e) : x ∈ g.entities := by
  rcases h with rfl | h
  · exact he
  · exact m.mem_of_descendants he h

/-- **The descent of a joined hierarchy finds the entity to which the columns tell the way.** -/
theorem joinedLeaf_eq_ok : ∀ {steps : Nat} {e : Entity}, e ∈ g.entities → e.strategy = .joined →
    g.size ≤ steps + g.depth e → (g.joinedLeaf row steps e = .ok x ↔
      x ∈ g.entities ∧ ∃ post, g.ancestry x = g.ancestry e ++ post ∧ (e :: post).IsChain (g.Tells row) ∧ g.Rests row x)
  | 0, e, he, _, hs => by
    have := m.depth_lt_size he
    omega
  | steps + 1, e, he, hj, hs => by
    -- the way from a child is one step shorter, and one entity is deeper
    have ih : ∀ y ∈ g.entities, g.parent? y = some e → (g.joinedLeaf row steps y = .ok x ↔ x ∈ g.entities ∧
        ∃ post, g.ancestry x = g.ancestry y ++ post ∧ (y :: post).IsChain (g.Tells row) ∧ g.Rests row x) := by
      intro y hy hp
      refine joinedLeaf_eq_ok hy ((m.strategy_of_parent hy hp).trans hj) ?_
      rw [m.depth_child hy hp]
      omega
    rw [m.joinedLeaf_succ_eq_ok he hj]
    constructor
    · rintro (⟨hrest, rfl⟩ | ⟨y, hgo, h⟩)
      · exact ⟨he, [], (List.append_nil _).symm, List.isChain_singleton _, hrest⟩
      · obtain ⟨hy, hp⟩ := m.child_of_goesOn he hgo
        obtain ⟨hx, post, hpath, htells, hrest⟩ := (ih y hy hp).1 h
        refine ⟨hx, y :: post, ?_, List.isChain_cons_cons.2 ⟨hgo.2, htells⟩, hrest⟩
        rw [hpath, m.ancestry_child hy hp, List.append_assoc]
        rfl
    · rintro ⟨hx, post, hpath, htells, hrest⟩
      cases post with
      | nil =>
        rw [List.append_nil] at hpath
        obtain rfl := Graph.eq_of_ancestry hpath
        exact Or.inl ⟨hrest, rfl⟩
      | cons y post =>
        obtain ⟨hyt, htells⟩ := List.isChain_cons_cons.1 htells
        obtain ⟨hy, hp⟩ := m.next_of_ancestry hx hpath
        refine Or.inr ⟨y, ⟨(m.mem_children he).2 ⟨hy, hp⟩, hyt⟩, (ih y hy hp).2 ⟨hx, post, ?_, htells, hrest⟩⟩
        rw [hpath, m.ancestry_child hy hp, List.append_assoc]
        rfl

/-- **The root's column leads to the entity whose value it reads as**, or no further than where the query starts. -/
theorem sharedLeaf_eq_ok (he : e ∈ g.entities) (hj : e.strategy ≠ .joined) :
    g.sharedLeaf row e = .ok x ↔ e.hasChildren = false ∧ x = e ∨ ∃ v, Graph.ReadsAt row 0 (g.root e) v ∧
      (Graph.EndsAt e v ∧ x = e ∨ x ∈ g.descendants e ∧ x.discriminatorValue = some v) := by
  have hserved : g.served e = g.descendants e := if_neg hj
  rw [← hserved]
  cases hc : e.hasChildren with
  | false =>
    have hleaf : g.sharedLeaf row e = .ok e := by
      unfold Graph.sharedLeaf
      rw [hc]
      rfl
    rw [hleaf]
    constructor
    · intro h
      cases h
      exact Or.inl ⟨rfl, rfl⟩
    · rintro (⟨-, rfl⟩ | ⟨v, -, ⟨-, rfl⟩ | ⟨hx, -⟩⟩)
      · rfl
      · rfl
      · obtain ⟨hxm, hex⟩ := m.mem_above_of_served he hx
        rw [m.eq_of_not_hasChildren hxm (Graph.mem_ancestry.2 (Or.inl hex)) hc]
  | true =>
    obtain ⟨-, col, -, hcol, -⟩ := m.discriminatorColumn?_of_owner (m.root_mem he).1 (m.root_owns he hc)
    have hleaf : g.sharedLeaf row e = ((col.read row 0).mapError .marshalling >>= fun v =>
        if Graph.stopsAt e v then pure e else (Graph.findByValue e (g.served e) v).mapError .marshalling) := by
      unfold Graph.sharedLeaf
      rw [hc, m.requireRoot he]
      show g.leafByRoot row (g.root e) e = _
      unfold Graph.leafByRoot
      rw [hcol, m.requireDescendants he, ← hserved]
      rfl
    rw [hleaf, Outcome.bind_eq_ok]
    constructor
    · rintro ⟨v, hread, h⟩
      refine Or.inr ⟨v, ⟨col, hcol, Outcome.mapError_eq_ok.1 hread⟩, ?_⟩
      split at h
      · rename_i hstop
        cases h
        exact Or.inl ⟨(m.stopsAt_iff_endsAt he).1 hstop, rfl⟩
      · exact Or.inr ((m.findServed_eq_ok he hc).1 (Outcome.mapError_eq_ok.1 h))
    · rintro (⟨hno, -⟩ | ⟨v, ⟨col', hcol', hread⟩, ⟨hends, rfl⟩ | ⟨hx, hxv⟩⟩)
      · cases hno
      · cases hcol.symm.trans hcol'
        refine ⟨v, Outcome.mapError_eq_ok.2 hread, ?_⟩
        rw [if_pos ((m.stopsAt_iff_endsAt he).2 hends)]
        rfl
      · cases hcol.symm.trans hcol'
        refine ⟨v, Outcome.mapError_eq_ok.2 hread, ?_⟩
        rw [if_neg (mt (m.stopsAt_iff_endsAt he).1 (m.not_endsAt_of_served he hc hx hxv))]
        exact Outcome.mapError_eq_ok.2 ((m.findServed_eq_ok he hc).2 ⟨hx, hxv⟩)

/-- **A row leads to an entity exactly when it fits it.** -/
theorem leaf_eq_ok (he : e ∈ g.entities) : g.leaf e row = .ok x ↔ g.Fits row e x := by
  unfold Graph.leaf Graph.Fits
  cases hs : e.strategy with
  | joined =>
    dsimp only
    rw [m.joinedLeaf_eq_ok he hs (Nat.le_add_right _ _)]
    constructor
    · rintro ⟨hx, post, hpath, h⟩
      refine ⟨(m.eq_or_below_iff he hx).2 ?_, post, hpath, h⟩
      rw [hpath]
      exact List.mem_append_left _ (g.self_mem_ancestry e)
    · rintro ⟨hx, h⟩
      exact ⟨m.mem_of_eq_or_below he hx, h⟩
  | singleTable | tablePerClass =>
    dsimp only
    rw [m.sharedLeaf_eq_ok he (by rw [hs]; exact Strategy.noConfusion)]
    refine ⟨fun h => ⟨?_, h⟩, fun h => h.2⟩
    rcases h with ⟨-, rfl⟩ | ⟨v, -, ⟨-, rfl⟩ | ⟨hx, -⟩⟩
    · exact Or.inl rfl
    · exact Or.inl rfl
    · exact Or.inr hx

end Maps
end Resolution

namespace Database

/-- **Leaf selection is exact.**  In a mapped database every row of a query leads to an entity exactly when it fits it,
so that it fits one at most; and the descent of a joined hierarchy ends on every row: no way that a row tells is as long
as there are entities, and allowing more steps than that changes neither the entity found nor the error. -/
theorem leaf_exact {db : Database} (h : db.Mapped) {top : Entity} (ht : top ∈ db.graph.entities) (row : Row) :
    (∀ leaf, db.graph.leaf top row = .ok leaf ↔ db.graph.Fits row top leaf) ∧
    (∀ leaf other, db.graph.Fits row top leaf → db.graph.Fits row top other → leaf = other) ∧
    (top.strategy = .joined →
      (∀ more, db.graph.joinedLeaf row (db.graph.size + more) top = db.graph.leaf top row) ∧
      ∀ path, (top :: path).IsChain (db.graph.GoesOn row) → path.length < db.graph.size) := by
  have m := h.maps
  refine ⟨fun leaf => m.leaf_eq_ok ht, fun leaf other hl ho => ?_, fun hj => ⟨fun more => ?_, fun path hp => ?_⟩⟩
  · exact Except.ok.inj (((m.leaf_eq_ok ht).2 hl).symm.trans ((m.leaf_eq_ok ht).2 ho))
  · unfold Graph.leaf
    rw [hj]
    exact m.joinedLeaf_settled ht (Nat.le_add_right _ _) more
  · have := m.length_lt_of_goesOn ht hp
    omega

/-- A row that leads from a vehicle to a car, and from the car to a van. -/
def vanRow : Row := Row.set (Row.set {} "kind" 0 (.integer 8)) "kind" 1 (.integer 7)

/-- The row fits the van and nothing else that a query over vehicles may find. -/
theorem leaf_exact_fleet : ∃ top leaf, top ∈ fleet.graph.entities ∧ top.typeName = "Vehicle" ∧ leaf.typeName = "Van" ∧
    fleet.graph.Fits vanRow top leaf ∧ ∀ other, fleet.graph.Fits vanRow top other → other = leaf := by
  have hleaf : (fleet.graph.find? "Vehicle").map (fun top => (fleet.graph.leaf top vanRow).toOption.map (·.typeName)) =
      some (some "Van") := by decide +kernel
  cases ht : fleet.graph.find? "Vehicle" with
  | none => rw [ht] at hleaf; cases hleaf
  | some top =>
    rw [ht] at hleaf
    cases hl : fleet.graph.leaf top vanRow with
    | error fault => simp [hl, Except.toOption] at hleaf
    | ok leaf =>
      obtain ⟨htop, hname⟩ := (fleet_mapped.maps.find?_eq_some_iff).1 ht
      obtain ⟨hfits, hone, -⟩ := leaf_exact fleet_mapped htop vanRow
      refine ⟨top, leaf, htop, hname, ?_, (hfits leaf).1 hl, fun other ho => hone other leaf ho ((hfits leaf).1 hl)⟩
      simpa [hl, Except.toOption] using hleaf

end Database
end Ormap
