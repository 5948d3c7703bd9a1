import Mathlib.Data.List.Perm.Subperm
import Ormap.Proofs.Order
/-!
# Loops — ancestor links that lead to no root are found, and nothing else is taken for one

The ancestors that a descriptor lists are free data, so the links from entities to their parents may loop.  A walk up
that remembers the nodes it has passed ends whatever the links (`exists_check`), and tells whether there is a root at
the end of them (`check_iff`), as the walk with a bound does.  Mapping fails when an entity has no root above it, and a
loop that it reports is there (`Truthful`): in every step of the resolution only the walks up report one.
-/
namespace Ormap
namespace Forest

variable {parent : α → Option α} {nodes passed up : List α} {a b : α} {verdict verdict' : Bool}

/-! ## Walks without a bound -/

/-- The node at the end of a number of links up. -/
def climb (parent : α → Option α) : Nat → α → Option α
  | 0, a => some a
  | n + 1, a => (parent a).bind (climb parent n)

/-- Whether the links from a node lead on and on. -/
def Endless (parent : α → Option α) (a : α) : Prop := ∀ n, (climb parent n a).isSome = true

/-- A walk up that nothing but a root ends, with the nodes that it comes to. -/
inductive Climb (parent : α → Option α) : α → List α → Prop where
  | root {a : α} : parent a = none → Climb parent a []
  | step {a b : α} {up : List α} : parent a = some b → Climb parent b up → Climb parent a (b :: up)

theorem Climb.ascend (h : Climb parent a up) : Forest.ascend parent up.length a = some up := by
  induction h with
  | root hp => exact ascend_of_none hp 0
  | step hp _ ih =>
    rw [List.length_cons, ascend_of_some hp, ih]
    rfl

theorem climb_of_ascend : ∀ {up : List α} {n : Nat} {a : α}, ascend parent n a = some up → Climb parent a up
  | [], _, _, h => .root (parent_of_ascend_nil h)
  | _ :: _, _, _, h => by
    obtain ⟨hp, k, -, hk⟩ := ascend_cons h
    exact .step hp (climb_of_ascend hk)

theorem Climb.nodup (h : Climb parent a up) : (a :: up).Nodup := by
  induction h with
  | root _ => exact List.nodup_singleton _
  | step hp hb ih => exact List.nodup_cons.2 ⟨not_mem_ascend (Climb.step hp hb).ascend, ih⟩

/-- **As many links as there are nodes are enough for every walk that ends.** -/
theorem ascend_length_iff (hn : ∀ a b, parent a = some b → b ∈ nodes) :
    ascend parent nodes.length a = some up ↔ Climb parent a up := by
  refine ⟨climb_of_ascend, fun h => ascend_mono ?_ h.ascend⟩
  exact ((List.nodup_cons.1 h.nodup).2.subperm (forall_mem_ascend hn h.ascend)).length_le

theorem Climb.climb_eq_none (h : Climb parent a up) : climb parent (up.length + 1) a = none := by
  induction h with
  | root hp =>
    unfold climb
    rw [hp]
    rfl
  | step hp _ ih =>
    unfold climb
    rw [hp]
    exact ih

theorem exists_climb : ∀ {n : Nat} {a : α}, climb parent n a = none → ∃ up, Climb parent a up
  | 0, _, h => by cases h
  | n + 1, a, h => by
    unfold climb at h
    cases hp : parent a with
    | none => exact ⟨[], .root hp⟩
    | some b =>
      rw [hp] at h
      obtain ⟨up, hup⟩ := exists_climb h
      exact ⟨b :: up, .step hp hup⟩

/-- **The links lead on and on from the nodes from which no walk up ends.** -/
theorem endless_iff : Endless parent a ↔ ∀ up, ¬ Climb parent a up := by
  constructor
  · intro h up hup
    have hsome := h (up.length + 1)
    rw [hup.climb_eq_none] at hsome
    cases hsome
  · intro h n
    cases hc : climb parent n a with
    | some b => rfl
    | none =>
      obtain ⟨up, hup⟩ := exists_climb hc
      exact absurd hup (h up)

/-! ## Walks that remember -/

/-- A walk up that remembers the nodes it has passed, and its verdict: true at a root, false at a link back to one of
them. -/
inductive Check (parent : α → Option α) : List α → α → Bool → Prop where
  | root {passed : List α} {a : α} : parent a = none → Check parent passed a true
  | back {passed : List α} {a b : α} : parent a = some b → b ∈ passed → Check parent passed a false
  | step {passed : List α} {a b : α} {verdict : Bool} : parent a = some b → b ∉ passed →
      Check parent (b :: passed) b verdict → Check parent passed a verdict

theorem Check.unique (h : Check parent passed a verdict) (h' : Check parent passed a verdict') :
    verdict = verdict' := by
  induction h with
  | root hp =>
    cases h' with
    | root _ => rfl
    | back hp' _ => cases hp.symm.trans hp'
    | step hp' _ _ => cases hp.symm.trans hp'
  | back hp hb =>
    cases h' with
    | root hp' => cases hp.symm.trans hp'
    | back _ _ => rfl
    | step hp' hb' _ =>
      cases hp.symm.trans hp'
      exact absurd hb hb'
  | step hp hb _ ih =>
    cases h' with
    | root hp' => cases hp.symm.trans hp'
    | back hp' hb' =>
      cases hp.symm.trans hp'
      exact absurd hb' hb
    | step hp' _ hc =>
      cases hp.symm.trans hp'
      exact ih hc

theorem Check.exists_climb (h : Check parent passed a verdict) (hv : verdict = true) : ∃ up, Climb parent a up := by
  induction h with
  | root hp => exact ⟨[], .root hp⟩
  | back _ _ => cases hv
  | step hp _ _ ih =>
    obtain ⟨up, hup⟩ := ih hv
    exact ⟨_, .step hp hup⟩

end Forest

namespace Catalog

variable {c : Catalog} {d : EntityDescriptor} {up : List EntityDescriptor}

/-- Whether following the links to parents from an entity never comes to a root. -/
def IsEndless (c : Catalog) (d : EntityDescriptor) : Prop := Forest.Endless c.parent? d

theorem above_iff_climb : c.above d = .ok up ↔ Forest.Climb c.parent? d up := by
  rw [above_eq_ok]
  exact Forest.ascend_length_iff fun _ _ => mem_of_parent?

theorem above_eq_error {e : ConfigurationError} :
    c.above d = .error e ↔ c.IsEndless d ∧ e = .entity d.typeName .cycle := by
  have hclimb : c.IsEndless d ↔ ∀ up, c.above d ≠ .ok up := by
    unfold IsEndless
    rw [Forest.endless_iff]
    exact forall_congr' fun up => not_congr above_iff_climb.symm
  rw [hclimb]
  unfold above
  cases Forest.ascend c.parent? c.size d <;> simp [eq_comm]

end Catalog

/-! ## What is reported -/

/-- Whether a loop that a computation fails with is there: an entity of that name has no root above it. -/
def Truthful (c : Catalog) (x : Except ConfigurationError α) : Prop :=
  ∀ name, x = .error (.entity name .cycle) → ∃ d ∈ c.entities, d.typeName = name ∧ c.IsEndless d

namespace Truthful

variable {α β : Type} {cfg : Config} {c : Catalog} {d : EntityDescriptor} {up : List EntityDescriptor}

theorem of_ok {a : α} : Truthful c (.ok a) := fun _ h => by cases h

theorem of_field {owner name : String} {fault : FieldFault} :
    Truthful c (.error (.field owner name fault) : Except ConfigurationError α) := fun _ h => by cases h

theorem bind {x : Except ConfigurationError α} {f : α → Except ConfigurationError β} (hx : Truthful c x)
    (hf : ∀ a, Truthful c (f a)) : Truthful c (x >>= f) := by
  intro name h
  rcases Outcome.bind_eq_error.1 h with h | ⟨a, -, h⟩
  · exact hx name h
  · exact hf a name h

theorem map {x : Except ConfigurationError α} {f : α → β} (hx : Truthful c x) : Truthful c (x.map f) := by
  intro name h
  cases x with
  | ok a => cases h
  | error e =>
    cases h
    exact hx name rfl

theorem mapM {f : α → Except ConfigurationError β} {l : List α} (h : ∀ a ∈ l, Truthful c (f a)) :
    Truthful c (l.mapM f) := by
  intro name he
  obtain ⟨a, ha, hfa⟩ := Outcome.mapM_eq_error he
  exact h a ha name hfa

theorem above (hd : d ∈ c.entities) : Truthful c (c.above d) := by
  intro name h
  obtain ⟨hend, he⟩ := Catalog.above_eq_error.1 h
  cases he
  exact ⟨d, hd, rfl, hend⟩

/-! ### Outlines -/

theorem strategyOf : Truthful c (Resolution.strategyOf cfg d up) := by
  intro name h
  unfold Resolution.strategyOf at h
  split at h
  · cases h
  · dsimp only at h
    split at h <;> cases h

theorem tableNameOf {strategy : Strategy} : Truthful c (Resolution.tableNameOf strategy d up) := by
  intro name h
  unfold Resolution.tableNameOf at h
  split at h
  · split at h <;> cases h
  · cases h

theorem findMirror {field : String} {r : RelationshipDescriptor} {linked : EntityDescriptor}
    {scope : List EntityDescriptor} : Truthful c (Relationship.findMirror d field r linked scope) := by
  intro name h
  unfold Relationship.findMirror Relationship.findInverse at h
  split at h
  · split at h <;> cases h
  · split at h
    · cases h
    · split at h <;> cases h

theorem classify {field : String} {r : RelationshipDescriptor} :
    Truthful c (Relationship.classify c d field r) := by
  unfold Relationship.classify
  split
  · exact of_field
  · exact of_field
  · split
    · exact of_field
    · exact bind findMirror fun _ => of_ok

theorem outline : Truthful c (Resolution.outline cfg c d up) :=
  bind strategyOf fun _ => bind tableNameOf fun _ => bind (mapM fun _ _ => classify) fun _ => of_ok

/-! ### Columns -/

theorem plainColumns {isRoot : Bool} : Truthful c (Resolution.plainColumns d isRoot) := by
  refine bind (mapM fun f _ => ?_) fun _ => of_ok
  unfold Resolution.plainColumn
  split
  · exact of_ok
  · split
    · exact of_field
    · exact of_ok

theorem checkKind {disc : DiscriminatorDescriptor} : Truthful c (Resolution.checkKind d up disc) := by
  intro name h
  unfold Resolution.checkKind at h
  split at h
  · cases h
  · split at h
    · cases h
    · split at h <;> cases h

theorem placeDiscriminator {disc : DiscriminatorDescriptor} {own : List Column} :
    Truthful c (Resolution.placeDiscriminator d disc own) := by
  intro name h
  unfold Resolution.placeDiscriminator at h
  split at h
  · cases h
  · split at h
    · cases h
    · split at h <;> cases h

theorem ownColumns {strategy : Strategy} : Truthful c (Resolution.ownColumns c strategy d up) := by
  refine bind plainColumns fun own => ?_
  split
  · split
    · exact fun _ h => by cases h
    · exact bind checkKind fun _ => placeDiscriminator
  · exact of_ok

theorem checkKey {columns : List Column} : Truthful c (Resolution.checkKey d up columns) := by
  intro name h
  unfold Resolution.checkKey at h
  split at h <;> cases h

theorem checkDistinct {entity : String} {columns : List Column} : Truthful c (Column.checkDistinct entity columns) := by
  intro name h
  unfold Column.checkDistinct at h
  split at h <;> cases h

theorem extendBase {strategy : Strategy} {base : List Column} :
    Truthful c (Resolution.extendBase c strategy d up base) :=
  bind ownColumns fun _ => bind checkKey fun _ => bind checkDistinct fun _ => of_ok

theorem baseColumns : ∀ {up : List EntityDescriptor} {d : EntityDescriptor},
    Truthful c (Resolution.baseColumns cfg c d up)
  | [], _ => by
    unfold Resolution.baseColumns
    exact bind outline fun _ => extendBase
  | _ :: _, _ => by
    unfold Resolution.baseColumns
    exact bind outline fun _ => bind baseColumns fun _ => extendBase

theorem foreignKeysOf {r : Relationship} : Truthful c (Resolution.foreignKeysOf cfg c r) := by
  unfold Resolution.foreignKeysOf
  split
  · exact of_field
  · rename_i target ht
    have hmem : target ∈ c.entities := (Catalog.find?_eq_some_iff.1 ht).1
    -- the columns of the target are asked for, and so a walk up from there
    refine bind (bind (above hmem) fun _ => baseColumns) fun base => bind ?_ fun _ => of_ok
    unfold Resolution.underField
    split
    · exact of_ok
    · exact of_field

theorem extendColumns {o : Resolution.Outline} {base passed : List Column} :
    Truthful c (Resolution.extendColumns cfg c o d base passed) :=
  bind (bind (mapM fun _ _ => foreignKeysOf) fun _ => of_ok) fun _ => bind checkDistinct fun _ => of_ok

theorem columns : ∀ {up : List EntityDescriptor} {d : EntityDescriptor}, Truthful c (Resolution.columns cfg c d up)
  | [], _ => by
    unfold Resolution.columns
    exact bind baseColumns fun _ => bind outline fun _ => extendColumns
  | _ :: _, _ => by
    unfold Resolution.columns
    refine bind baseColumns fun _ => bind outline fun _ => ?_
    split
    · exact bind columns fun _ => extendColumns
    · exact bind of_ok fun _ => extendColumns

/-! ### Discriminator values -/

theorem coerceValue {disc : DiscriminatorDescriptor} {raw : String} :
    Truthful c (Resolution.coerceValue d disc raw) := by
  intro name h
  unfold Resolution.coerceValue at h
  split at h
  · cases h
  · split at h
    · split at h <;> cases h
    · cases h

theorem rootValue {owned : Option DiscriminatorDescriptor} : Truthful c (Resolution.rootValue d owned) := by
  unfold Resolution.rootValue
  split
  · exact map coerceValue
  · exact of_ok

theorem giveOut {owner : String} {disc : DiscriminatorDescriptor} :
    ∀ {ts : List EntityDescriptor} {taken : List Resolution.Holding},
      Truthful c (Resolution.giveOut owner disc taken ts)
  | [], _ => of_ok
  | _ :: _, _ => by
    unfold Resolution.giveOut
    split
    · exact fun _ h => by cases h
    · refine bind coerceValue fun v => ?_
      split
      · exact fun _ h => by cases h
      · exact bind giveOut fun _ => of_ok

theorem serve {strategy : Strategy} {own : Option Value} : Truthful c (Resolution.serve c strategy d up own) := by
  unfold Resolution.serve
  split
  · exact of_ok
  · exact giveOut

theorem givenBelow : ∀ {up : List EntityDescriptor} {d : EntityDescriptor},
    Truthful c (Resolution.givenBelow cfg c d up)
  | [], _ => by
    unfold Resolution.givenBelow
    exact bind outline fun _ => bind columns fun _ => bind rootValue fun _ => serve
  | _ :: _, _ => by
    unfold Resolution.givenBelow
    refine bind outline fun _ => bind columns fun _ => bind givenBelow fun _ => ?_
    split
    · exact serve
    · exact of_ok

/-- **An entity reports no loop that is not there**, neither its own nor another's. -/
theorem resolve (hd : d ∈ c.entities) : Truthful c (Resolution.resolve cfg c d) :=
  bind (above hd) fun _ => bind givenBelow fun _ => of_ok

end Truthful

namespace Database

variable {db : Database} {d : EntityDescriptor}

/-- Whether some run of the tasks that resolve the entities has an answer to whoever requires the mapping. -/
def Answers (db : Database) (r : Except Error Unit) : Prop :=
  ∃ steps x, db.startMapping.steps? steps = some x ∧ x.requireMapped? = some r

end Database
end Ormap
