import Ormap.Object.Loading
import Ormap.Proofs.Descent
import Ormap.Proofs.Storing
import Ormap.Proofs.Values
/-!
# Leaves — a row leads down to the entity whose object it holds

Where a row holds, in every discriminator column on the way from the root to an entity, the value that storing puts
there (`Graph.Describes`), it fits that entity, whatever entity on the way the query is over, and the descent ends at
it.  The joined row of an object describes the object's entity.
-/
namespace Ormap

theorem Value.IsDiscriminator.noLeapSecond {v : Value} (h : v.IsDiscriminator) : v.NoLeapSecond := by
  rintro t rfl
  rcases h with ⟨_, h⟩ | ⟨_, h⟩ <;> cases h

namespace Graph

variable {g : Graph} {e x : Entity}

/-- Whether a row holds in a discriminator column on the way to an entity what storing an object of it puts there. -/
def HoldsValue (g : Graph) (row : Row) (e x : Entity) (c : Column) : Prop :=
  ∃ s v, discriminatorSource? e.strategy (g.ancestry e) (g.aliasLevel x) = some s ∧ s.discriminatorValue = some v ∧
    v.IsDiscriminator ∧ c.read row (g.aliasLevel x) = .ok v

/-- Whether a row describes an object of an entity by the discriminator columns on the way. -/
def Describes (g : Graph) (row : Row) (e : Entity) : Prop :=
  ∀ x ∈ g.ancestry e, ∀ c ∈ x.ownColumns, c.isDiscriminator = true → g.HoldsValue row e x c

/-! ## Which entity supplies a value -/

theorem mem_of_discriminatorSource? {strategy : Strategy} {path : List Entity} {owner : Nat}
    (h : discriminatorSource? strategy path owner = some e) : e ∈ path := by
  unfold discriminatorSource? at h
  split at h
  · split at h
    · rename_i hn
      cases h
      exact List.mem_of_getElem? hn
    · exact List.mem_of_getElem? h
  · exact List.mem_of_getLast? h
  · exact List.mem_of_getLast? h

/-- In a joined hierarchy the value is that of the next entity on the way, or of the last. -/
theorem discriminatorSource?_joined {post : List Entity} (h : g.ancestry e = g.ancestry x ++ post) :
    discriminatorSource? .joined (g.ancestry e) (g.depth x) = some (post.headD x) := by
  have hlen : (g.ancestry x).length = g.depth x + 1 := length_ancestry g x
  have hlast : (g.ancestry e)[g.depth x]? = some x := getElem?_ancestry h
  have hnext : (g.ancestry e)[g.depth x + 1]? = post.head? := by
    rw [h, List.getElem?_append_right (by omega), hlen, Nat.sub_self, List.head?_eq_getElem?]
  unfold discriminatorSource?
  dsimp only
  rw [hnext, hlast]
  cases post <;> rfl

theorem discriminatorSource?_shared {strategy : Strategy} (hs : strategy ≠ .joined) (owner : Nat) :
    discriminatorSource? strategy (g.ancestry e) owner = some e := by
  unfold discriminatorSource?
  cases strategy with
  | joined => exact absurd rfl hs
  | singleTable | tablePerClass => exact g.getLast?_ancestry e

theorem discriminatorCell_eq_ok {strategy : Strategy} {path : List Entity} {owner : Nat} {c : Column} {v : Value} :
    discriminatorCell strategy path owner c = .ok v ↔
      ∃ s, discriminatorSource? strategy path owner = some s ∧ s.discriminatorValue = some v := by
  unfold discriminatorCell
  cases discriminatorSource? strategy path owner with
  | none => exact iff_of_false (fun h => by cases h) (by simp)
  | some s =>
    dsimp only
    cases hv : s.discriminatorValue with
    | none => exact iff_of_false (fun h => by cases h) (by simp [hv])
    | some w => simp [hv]

/-- The value of a discriminator column is that of the entity that supplies it. -/
theorem cellValue_discriminator {record : Record} {strategy : Strategy} {path : List Entity} {owner : Nat} {c : Column}
    {v : Value} (hc : c.isDiscriminator = true) (h : g.cellValue record strategy path owner c = .ok v) :
    ∃ s, discriminatorSource? strategy path owner = some s ∧ s.discriminatorValue = some v := by
  obtain ⟨kind, hrole⟩ := Column.isDiscriminator_iff.1 hc
  unfold cellValue at h
  rw [hrole] at h
  exact discriminatorCell_eq_ok.1 h

end Graph

namespace Resolution
namespace Maps

variable {cfg : Config} {c : Catalog} {g : Graph} {e q x y : Entity} {row : Row} (m : Maps cfg c g)
include m

/-- What a row that describes an entity holds in the column of an owner on the way. -/
theorem read_of_describes (he : e ∈ g.entities) (hd : g.Describes row e) (hx : x ∈ g.ancestry e)
    (ho : g.OwnsDiscriminator x) : ∃ col, x.discriminatorColumn? = some col ∧ g.HoldsValue row e x col := by
  obtain ⟨disc, col, -, hcol, hco, hrole⟩ := m.discriminatorColumn?_of_owner (m.mem_of_ancestry he hx) ho
  exact ⟨col, hcol, hd x hx col hco (Column.isDiscriminator_iff.2 ⟨_, hrole⟩)⟩

/-! ## The entity described is the one that fits -/

/-- The column of an entity on the way tells the next one. -/
theorem tells_of_describes (he : e ∈ g.entities) (hj : e.strategy = .joined) (hd : g.Describes row e)
    {post : List Entity} (hpath : g.ancestry e = g.ancestry x ++ y :: post) : g.Tells row x y := by
  have hx : x ∈ g.ancestry e := by
    rw [hpath]
    exact List.mem_append_left _ (g.self_mem_ancestry x)
  have hxj : x.strategy = .joined := (m.strategy_of_ancestry he x hx).trans hj
  have ho : g.OwnsDiscriminator x := ⟨m.hasChildren_of_ancestry he hpath, Or.inl hxj⟩
  obtain ⟨col, hcol, s, v, hs, hv, -, hread⟩ := m.read_of_describes he hd hx ho
  unfold Graph.aliasLevel at hs hread
  rw [if_pos hxj] at hs hread
  rw [hj, Graph.discriminatorSource?_joined hpath] at hs
  cases hs
  exact ⟨v, ⟨col, hcol, hread⟩, hv⟩

theorem chain_of_describes (he : e ∈ g.entities) (hj : e.strategy = .joined) (hd : g.Describes row e) :
    ∀ {post : List Entity} {q : Entity}, g.ancestry e = g.ancestry q ++ post → (q :: post).IsChain (g.Tells row) := by
  -- on what is left of the way
  intro post
  induction post with
  | nil => exact fun _ => List.isChain_singleton _
  | cons y post ih =>
    intro q hpath
    obtain ⟨hy, hp⟩ := m.next_of_ancestry he hpath
    refine List.isChain_cons_cons.2 ⟨m.tells_of_describes he hj hd hpath, ih ?_⟩
    rw [hpath, m.ancestry_child hy hp, List.append_assoc]
    rfl

/-- At the entity described the column, if there is one, holds its own value. -/
theorem rests_of_describes (he : e ∈ g.entities) (hj : e.strategy = .joined) (hd : g.Describes row e) :
    g.Rests row e := by
  by_cases ho : g.OwnsDiscriminator e
  · obtain ⟨col, hcol, s, v, hs, hv, -, hread⟩ := m.read_of_describes he hd (g.self_mem_ancestry e) ho
    unfold Graph.aliasLevel at hs hread
    rw [if_pos hj] at hs hread
    rw [hj, Graph.discriminatorSource?_joined (List.append_nil _).symm] at hs
    cases hs
    exact Or.inr ⟨v, ⟨col, hcol, hread⟩, Or.inr hv⟩
  · exact Or.inl (m.discriminatorColumn?_of_not_owner he ho)

/-- Where the root's column tells the entities apart, it reads as the value of the one described. -/
theorem readsAt_of_describes (he : e ∈ g.entities) (hj : e.strategy ≠ .joined) (hd : g.Describes row e)
    (ho : g.OwnsDiscriminator (g.root e)) : ∃ v, Graph.ReadsAt row 0 (g.root e) v ∧ e.discriminatorValue = some v := by
  obtain ⟨col, hcol, s, v, hs, hv, -, hread⟩ := m.read_of_describes he hd (m.root_mem_ancestry he) ho
  rw [Graph.discriminatorSource?_shared hj] at hs
  cases hs
  have hlevel : g.aliasLevel (g.root e) = 0 := by
    unfold Graph.aliasLevel
    rw [m.strategy_root he, if_neg hj]
  rw [hlevel] at hread
  exact ⟨v, ⟨col, hcol, hread⟩, hv⟩

/-- **A row that describes an entity fits it**, whatever entity on the way the query is over. -/
theorem fits_of_describes (he : e ∈ g.entities) (hd : g.Describes row e) (hq : q ∈ g.ancestry e) :
    g.Fits row q e := by
  have hqm := m.mem_of_ancestry he hq
  have hqs := m.strategy_of_ancestry he q hq
  have hbelow := (m.eq_or_below_iff hqm he).2 hq
  refine ⟨hbelow, ?_⟩
  cases hs : q.strategy with
  | joined =>
    have hj : e.strategy = .joined := hqs.symm.trans hs
    obtain ⟨post, hpath⟩ := m.ancestry_eq_append he q hq
    exact ⟨post, hpath, m.chain_of_describes he hj hd hpath, m.rests_of_describes he hj hd⟩
  | singleTable | tablePerClass =>
    cases hc : q.hasChildren with
    | false => exact Or.inl ⟨rfl, (m.eq_of_not_hasChildren he hq hc).symm⟩
    | true =>
      have hqr := m.root_of_ancestry he q hq
      have hj : e.strategy ≠ .joined := by
        rw [← hqs, hs]
        exact Strategy.noConfusion
      obtain ⟨v, hread, hv⟩ := m.readsAt_of_describes he hj hd (hqr ▸ m.root_owns hqm hc)
      refine Or.inr ⟨v, hqr ▸ hread, ?_⟩
      rcases hbelow with rfl | hbelow
      · exact Or.inl ⟨Or.inr hv, rfl⟩
      · exact Or.inr ⟨hbelow, hv⟩

/-- **A row leads from every entity on the way to the entity that it describes.** -/
theorem leaf_eq (he : e ∈ g.entities) (hd : g.Describes row e) (hq : q ∈ g.ancestry e) : g.leaf q row = .ok e :=
  (m.leaf_eq_ok (m.mem_of_ancestry he hq)).2 (m.fits_of_describes he hd hq)

/-- **The joined row of an object describes its entity.** -/
theorem describes_of_rowsOf {record : Record} {rows : List TableRow}
    (hst : e.strategy = .singleTable → ∃ stored, g.tableColumns (g.root e) = .ok stored) (he : e ∈ g.entities)
    (h : g.rowsOf record e = .ok rows) : g.Describes (Row.ofTableRows rows) e := by
  intro x hx col hco hcd
  obtain ⟨v, w, hv, hw, hget⟩ := m.written hst he h hx hco
  obtain ⟨s, hs, hu⟩ := Graph.cellValue_discriminator hcd hv
  have hvd := m.isDiscriminator_of_value (m.mem_of_ancestry he (Graph.mem_of_discriminatorSource? hs)) hu
  refine ⟨s, v, hs, hu, hvd, ?_⟩
  unfold Column.read
  rw [hget]
  exact Attribute.load_store hvd.noLeapSecond hw

end Maps
end Resolution
end Ormap
