import Mathlib.Data.List.Nodup
import Mathlib.Data.List.Perm.Basic
import Ormap.Forest
/-!
# Forests — what the walks up and down reach

A walk up that reaches a root is the same for every bound that is long enough, and its rest after one of its nodes is
the walk up from that node.  The walk down reaches exactly the nodes that pass its start on their way up.
-/
namespace Ormap
namespace Forest

variable {parent : α → Option α} {children : α → List α}

/-! ## Walking up -/

theorem ascend_of_none {a : α} (h : parent a = none) : ∀ n, ascend parent n a = some []
  | 0 => by simp [ascend, h]
  | n + 1 => by simp [ascend, h]

theorem ascend_of_some {a b : α} (h : parent a = some b) (n : Nat) :
    ascend parent (n + 1) a = (ascend parent n b).map (b :: ·) := by
  simp [ascend, h]

theorem parent_of_ascend_nil {a : α} : ∀ {n : Nat}, ascend parent n a = some [] → parent a = none
  | 0, h => by
    unfold ascend at h
    cases hp : parent a with
    | none => rfl
    | some b => rw [hp] at h; cases h
  | n + 1, h => by
    unfold ascend at h
    cases hp : parent a with
    | none => rfl
    | some b => rw [hp] at h; simp at h

theorem ascend_cons {a b : α} {up : List α} : ∀ {n : Nat}, ascend parent n a = some (b :: up) →
    parent a = some b ∧ ∃ k, n = k + 1 ∧ ascend parent k b = some up
  | 0, h => by
    unfold ascend at h
    cases hp : parent a <;> rw [hp] at h <;> cases h
  | n + 1, h => by
    unfold ascend at h
    cases hp : parent a with
    | none => rw [hp] at h; cases h
    | some x =>
      rw [hp] at h
      obtain ⟨l, hl, he⟩ := Option.map_eq_some_iff.1 h
      cases he
      exact ⟨rfl, n, rfl, hl⟩

theorem ascend_mono : ∀ {n m : Nat} {a : α} {up : List α}, n ≤ m → ascend parent n a = some up →
    ascend parent m a = some up
  | n, m, a, [], _, h => ascend_of_none (parent_of_ascend_nil h) m
  | n, m, a, b :: up, hnm, h => by
    obtain ⟨hp, k, rfl, hk⟩ := ascend_cons h
    obtain ⟨j, rfl⟩ : ∃ j, m = j + 1 := ⟨m - 1, by omega⟩
    rw [ascend_of_some hp, ascend_mono (Nat.le_of_succ_le_succ hnm) hk]
    rfl

theorem length_ascend : ∀ {n : Nat} {a : α} {up : List α}, ascend parent n a = some up → up.length ≤ n
  | _, _, [], _ => Nat.zero_le _
  | _, _, _ :: _, h => by
    obtain ⟨-, k, rfl, hk⟩ := ascend_cons h
    exact Nat.succ_le_succ (length_ascend hk)

/-- **The rest of a walk up is the walk up from where it starts.** -/
theorem ascend_append {b : α} {post : List α} : ∀ {pre : List α} {n : Nat} {a : α},
    ascend parent n a = some (pre ++ b :: post) → parent (pre.getLast?.getD a) = some b ∧ ascend parent n b = some post
  | [], n, a, h => by
    obtain ⟨hp, k, rfl, hk⟩ := ascend_cons h
    exact ⟨hp, ascend_mono (Nat.le_succ k) hk⟩
  | x :: pre, n, a, h => by
    obtain ⟨-, k, rfl, hk⟩ := ascend_cons h
    obtain ⟨hp, hb⟩ := ascend_append hk
    refine ⟨?_, ascend_mono (Nat.le_succ k) hb⟩
    rw [List.getLast?_cons]
    exact hp

theorem forall_mem_ascend {nodes : α → Prop} (hn : ∀ a b, parent a = some b → nodes b) :
    ∀ {n : Nat} {a : α} {up : List α}, ascend parent n a = some up → ∀ b ∈ up, nodes b
  | _, _, [], _, _, hb => by cases hb
  | _, _, _ :: _, h, b, hb => by
    obtain ⟨hp, k, -, hk⟩ := ascend_cons h
    rcases List.mem_cons.1 hb with rfl | hb
    · exact hn _ _ hp
    · exact forall_mem_ascend hn hk b hb

theorem ascend_map {parent' : β → Option β} (f : α → β) (hf : ∀ a, parent' (f a) = (parent a).map f) :
    ∀ (n : Nat) (a : α), ascend parent' n (f a) = (ascend parent n a).map (List.map f)
  | 0, a => by
    unfold ascend
    rw [hf]
    cases parent a <;> rfl
  | n + 1, a => by
    unfold ascend
    rw [hf]
    cases parent a with
    | none => rfl
    | some b =>
      show (ascend parent' n (f b)).map (f b :: ·) = _
      rw [ascend_map f hf n b]
      simp [Option.map_map, Function.comp_def]

/-- Links that agree among nodes that they do not leave give the same walks up. -/
theorem ascend_congr {parent' : α → Option α} {nodes : α → Prop} (hp : ∀ a, nodes a → parent' a = parent a)
    (hn : ∀ a b, parent a = some b → nodes b) :
    ∀ (n : Nat) {a : α}, nodes a → ascend parent' n a = ascend parent n a
  | 0, a, ha => by
    unfold ascend
    rw [hp a ha]
  | n + 1, a, ha => by
    unfold ascend
    rw [hp a ha]
    cases hb : parent a with
    | none => rfl
    | some b =>
      show (ascend parent' n b).map _ = (ascend parent n b).map _
      rw [ascend_congr hp hn n (hn a b hb)]

/-- A walk up that ends does not come back to where it started. -/
theorem not_mem_ascend {n : Nat} {a : α} {up : List α} (h : ascend parent n a = some up) : a ∉ up := by
  intro ha
  obtain ⟨pre, post, rfl⟩ := List.append_of_mem ha
  have hl := congrArg List.length (Option.some.inj (h.symm.trans (ascend_append h).2))
  rw [List.length_append, List.length_cons] at hl
  omega

theorem parent_mem_ascend_self {n : Nat} {a b : α} {up : List α} (h : ascend parent n a = some up)
    (hp : parent a = some b) : b ∈ up := by
  cases up with
  | nil =>
    rw [parent_of_ascend_nil h] at hp
    cases hp
  | cons c up =>
    cases hp.symm.trans (ascend_cons h).1
    exact List.mem_cons_self

/-- A walk up passes the parent of every node that it passes. -/
theorem parent_mem_ascend {n : Nat} {a x b : α} {up : List α} (h : ascend parent n a = some up) (hx : x ∈ a :: up)
    (hp : parent x = some b) : b ∈ up := by
  rcases List.mem_cons.1 hx with rfl | hx
  · exact parent_mem_ascend_self h hp
  · obtain ⟨pre, post, rfl⟩ := List.append_of_mem hx
    exact List.mem_append_right _ (List.mem_cons_of_mem _ (parent_mem_ascend_self (ascend_append h).2 hp))

/-- **A walk up passes one node at most of those with one parent.** -/
theorem eq_of_mem_ascend {x y b : α} (hpx : parent x = some b) (hpy : parent y = some b) :
    ∀ {up : List α} {n : Nat} {a : α}, ascend parent n a = some up → x ∈ a :: up → y ∈ a :: up → x = y
  | [], _, a, _, hx, hy => (List.mem_singleton.1 hx).trans (List.mem_singleton.1 hy).symm
  | c :: up, n, a, h, hx, hy => by
    obtain ⟨hp, k, rfl, hk⟩ := ascend_cons h
    -- from the parent of the first node on, no other node with that parent is passed
    have hfirst : ∀ z, parent a = some b → parent z = some b → z ∉ c :: up := by
      intro z ha hz hmem
      cases ha.symm.trans hp
      exact not_mem_ascend hk (parent_mem_ascend hk hmem hz)
    rcases List.mem_cons.1 hx with hxa | hxc
    · rcases List.mem_cons.1 hy with hya | hyc
      · rw [hxa, hya]
      · exact absurd hyc (hfirst y (hxa ▸ hpx) hpy)
    · rcases List.mem_cons.1 hy with hya | hyc
      · exact absurd hxc (hfirst x (hya ▸ hpy) hpx)
      · exact eq_of_mem_ascend hpx hpy hk hxc hyc

/-! ## Walking down -/

theorem descend_map {children' : β → List β} (f : α → β) (hf : ∀ a, children' (f a) = (children a).map f) :
    ∀ (n : Nat) (a : α), descend children' n (f a) = (descend children n a).map f
  | 0, _ => rfl
  | n + 1, a => by
    unfold descend
    rw [hf, List.flatMap_map, List.map_flatMap]
    congr 1
    funext b
    rw [descend_map f hf n b]
    rfl

/-- **Below the end of the longest walk up there is nothing to walk down to.** -/
theorem descend_succ {nodes : α → Prop} {bound : Nat}
    (hc : ∀ a, nodes a → ∀ b ∈ children a, nodes b ∧ parent b = some a)
    (hr : ∀ a, nodes a → ∃ up, ascend parent bound a = some up) :
    ∀ {n : Nat} {a : α} {up : List α}, nodes a → ascend parent bound a = some up → bound ≤ up.length + n →
      descend children (n + 1) a = descend children n a := by
  -- a child's walk up is one longer than that of its parent
  have hchild : ∀ {a b : α} {up : List α}, nodes a → b ∈ children a → ascend parent bound a = some up →
      ascend parent bound b = some (a :: up) := by
    intro a b up ha hb hup
    obtain ⟨hnb, hpb⟩ := hc a ha b hb
    obtain ⟨upB, hupB⟩ := hr b hnb
    cases upB with
    | nil =>
      rw [parent_of_ascend_nil hupB] at hpb
      cases hpb
    | cons a' up' =>
      obtain ⟨hp, k, rfl, hk⟩ := ascend_cons hupB
      cases hpb.symm.trans hp
      cases hup.symm.trans (ascend_mono (Nat.le_succ k) hk)
      exact hupB
  intro n
  induction n with
  | zero =>
    intro a up ha hup hle
    have hnone : children a = [] := by
      refine List.eq_nil_iff_forall_not_mem.2 fun b hb => ?_
      have hlen := length_ascend (hchild ha hb hup)
      rw [List.length_cons] at hlen
      omega
    unfold descend
    rw [hnone]
    rfl
  | succ n ih =>
    intro a up ha hup hle
    rw [descend, descend]
    refine List.flatMap_congr fun b hb => ?_
    have hupB := hchild ha hb hup
    rw [ih (hc a ha b hb).1 hupB (by rw [List.length_cons]; omega)]

/-- An item of a list put together of blocks stands in one of them, after items that stand before it in the list. -/
theorem exists_block {f : α → List β} {x : β} {pre post : List β} : ∀ {l : List α}, l.flatMap f = pre ++ x :: post →
    ∃ b ∈ l, ∃ pre' post', f b = pre' ++ x :: post' ∧ pre' ⊆ pre
  | [], h => by cases pre <;> cases h
  | b :: l, h => by
    rw [List.flatMap_cons, List.append_eq_append_iff] at h
    rcases h with ⟨mid, rfl, h⟩ | ⟨mid, hb, h⟩
    · obtain ⟨c, hc, pre', post', hf, hsub⟩ := exists_block h
      exact ⟨c, List.mem_cons_of_mem _ hc, pre', post', hf, fun y hy => List.mem_append_right _ (hsub hy)⟩
    · cases mid with
      | nil =>
        obtain ⟨c, hc, pre', post', hf, hsub⟩ := exists_block (h.symm.trans (List.nil_append _).symm)
        exact ⟨c, List.mem_cons_of_mem _ hc, pre', post', hf, fun y hy => absurd (hsub hy) List.not_mem_nil⟩
      | cons y mid =>
        cases h
        exact ⟨b, List.mem_cons_self, pre, mid, hb, fun _ hy => hy⟩

section
variable {nodes : α → Prop} (hc : ∀ a, nodes a → ∀ b, b ∈ children a ↔ nodes b ∧ parent b = some a)
include hc

theorem of_mem_descend : ∀ {n : Nat} {a b : α}, nodes a → b ∈ descend children n a →
    nodes b ∧ ∀ m up, ascend parent m b = some up → a ∈ up
  | 0, _, _, _, hb => by cases hb
  | n + 1, a, b, ha, hb => by
    unfold descend at hb
    obtain ⟨x, hx, hb⟩ := List.mem_flatMap.1 hb
    obtain ⟨hnx, hpx⟩ := (hc a ha x).1 hx
    -- a walk up that starts at the child passes its parent next
    have hup : ∀ m up, ascend parent m x = some up → a ∈ up := fun _ _ h => parent_mem_ascend_self h hpx
    rcases List.mem_cons.1 hb with rfl | hb
    · exact ⟨hnx, hup⟩
    · obtain ⟨hnb, hb⟩ := of_mem_descend hnx hb
      refine ⟨hnb, fun m up h => ?_⟩
      obtain ⟨pre, post, rfl⟩ := List.append_of_mem (hb m up h)
      exact List.mem_append_right _ (List.mem_cons_of_mem _ (hup m post (ascend_append h).2))

theorem of_mem_cons_descend {n : Nat} {a b : α} (ha : nodes a) (hb : b ∈ a :: descend children n a) :
    nodes b ∧ ∀ m up, ascend parent m b = some up → a ∈ b :: up := by
  rcases List.mem_cons.1 hb with rfl | hb
  · exact ⟨ha, fun _ _ _ => List.mem_cons_self⟩
  · obtain ⟨hnb, hup⟩ := of_mem_descend hc ha hb
    exact ⟨hnb, fun m up h => List.mem_cons_of_mem _ (hup m up h)⟩

/-- **The walk down comes to every node once**, where every walk up ends. -/
theorem nodup_descend (hd : ∀ a, nodes a → (children a).Nodup)
    (hr : ∀ a, nodes a → ∃ m up, ascend parent m a = some up) :
    ∀ {n : Nat} {a : α}, nodes a → (descend children n a).Nodup
  | 0, _, _ => List.nodup_nil
  | n + 1, a, ha => by
    unfold descend
    rw [List.nodup_flatMap]
    constructor
    · intro b hb
      obtain ⟨hnb, -⟩ := (hc a ha b).1 hb
      obtain ⟨m, up, h⟩ := hr b hnb
      rw [List.nodup_cons]
      exact ⟨fun hmem => not_mem_ascend h ((of_mem_descend hc hnb hmem).2 m up h), nodup_descend hd hr hnb⟩
    · -- a node below two children of one parent would pass both on its way up
      refine (hd a ha).imp_of_mem fun {x y} hx hy hne z hzx hzy => hne ?_
      obtain ⟨hnx, hpx⟩ := (hc a ha x).1 hx
      obtain ⟨hny, hpy⟩ := (hc a ha y).1 hy
      obtain ⟨hnz, hxz⟩ := of_mem_cons_descend hc hnx hzx
      obtain ⟨-, hyz⟩ := of_mem_cons_descend hc hny hzy
      obtain ⟨m, up, h⟩ := hr z hnz
      exact eq_of_mem_ascend hpx hpy h (hxz m up h) (hyz m up h)

/-- **Every node on the walk down comes after its parent**, which is where the walk started or came before. -/
theorem parent_before_of_descend : ∀ {n : Nat} {a x : α} {pre post : List α}, nodes a →
    descend children n a = pre ++ x :: post → ∃ b, parent x = some b ∧ (b = a ∨ b ∈ pre)
  | 0, _, _, pre, _, _, h => by cases pre <;> cases h
  | n + 1, a, x, pre, post, ha, h => by
    obtain ⟨b, hb, pre', post', hblock, hsub⟩ := exists_block h
    obtain ⟨hnb, hpb⟩ := (hc a ha b).1 hb
    cases pre' with
    | nil =>
      cases hblock
      exact ⟨a, hpb, Or.inl rfl⟩
    | cons y pre' =>
      obtain ⟨rfl, hrest⟩ := List.cons.inj hblock
      obtain ⟨q, hq, hqb⟩ := parent_before_of_descend hnb hrest
      refine ⟨q, hq, Or.inr (hsub ?_)⟩
      rcases hqb with rfl | hqb
      · exact List.mem_cons_self
      · exact List.mem_cons_of_mem _ hqb

variable (hn : ∀ a b, parent a = some b → nodes b)
include hn

theorem mem_descend : ∀ {n m : Nat} {a b : α} {pre post : List α}, nodes b →
    ascend parent m b = some (pre ++ a :: post) → pre.length < n → b ∈ descend children n a
  | 0, _, _, _, _, _, _, _, hl => by cases hl
  | n + 1, m, a, b, pre, post, hb, h, hl => by
    have ha : nodes a := forall_mem_ascend hn h a (by simp)
    unfold descend
    rw [List.mem_flatMap]
    rcases List.eq_nil_or_concat pre with rfl | ⟨pre, x, rfl⟩
    · exact ⟨b, (hc a ha b).2 ⟨hb, (ascend_append h).1⟩, List.mem_cons_self⟩
    · have hpx := (ascend_append h).1
      rw [List.concat_eq_append, List.append_assoc, List.singleton_append] at h
      rw [List.concat_eq_append, List.getLast?_append] at hpx
      have hx : nodes x := forall_mem_ascend hn h x (by simp)
      refine ⟨x, (hc a ha x).2 ⟨hx, by simpa using hpx⟩, List.mem_cons_of_mem _ ?_⟩
      exact mem_descend hb h (by simpa using hl)

/-- **The nodes below a node are those that pass it on their way up.** -/
theorem mem_descend_iff {n : Nat} {a b : α} {up : List α} (ha : nodes a) (h : ascend parent n b = some up) :
    b ∈ descend children n a ↔ nodes b ∧ a ∈ up := by
  constructor
  · intro hb
    obtain ⟨hnb, hup⟩ := of_mem_descend hc ha hb
    exact ⟨hnb, hup n up h⟩
  · rintro ⟨hnb, hup⟩
    obtain ⟨pre, post, rfl⟩ := List.append_of_mem hup
    have hl := length_ascend h
    exact mem_descend hc hn hnb h (by simp at hl; omega)

end

end Forest
end Ormap
