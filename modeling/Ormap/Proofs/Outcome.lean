import Mathlib.Data.List.Forall2
/-!
# Outcomes — computations that may fail, taken apart

A computation in steps succeeds when every step does, and fails with the error of the first that does not.
-/
namespace Ormap
namespace Outcome

theorem bind_eq_ok {x : Except ε α} {f : α → Except ε β} {b : β} :
    (x >>= f) = .ok b ↔ ∃ a, x = .ok a ∧ f a = .ok b := by
  cases x <;> simp [bind, Except.bind]

theorem bind_eq_error {x : Except ε α} {f : α → Except ε β} {e : ε} :
    (x >>= f) = .error e ↔ x = .error e ∨ ∃ a, x = .ok a ∧ f a = .error e := by
  cases x <;> simp [bind, Except.bind]

theorem map_eq_ok {x : Except ε α} {f : α → β} {b : β} : x.map f = .ok b ↔ ∃ a, x = .ok a ∧ f a = b := by
  cases x <;> simp [Except.map]

theorem map_eq_error {x : Except ε α} {f : α → β} {e : ε} : x.map f = .error e ↔ x = .error e := by
  cases x <;> simp [Except.map]

theorem mapError_eq_ok {x : Except ε α} {f : ε → ε'} {a : α} : x.mapError f = .ok a ↔ x = .ok a := by
  cases x <;> simp [Except.mapError]

theorem mapError_eq_error {x : Except ε α} {f : ε → ε'} {e : ε'} :
    x.mapError f = .error e ↔ ∃ d, x = .error d ∧ f d = e := by
  cases x <;> simp [Except.mapError]

theorem eq_ok_get {x : Except ε α} (h : x.toOption.isSome = true) : x = .ok (x.toOption.get h) := by
  cases x with
  | error e => cases h
  | ok a => rfl

theorem any_toOption {x : Except ε α} {test : α → Bool} :
    x.toOption.any test = true ↔ ∃ a, x = .ok a ∧ test a = true := by
  cases x <;> simp [Except.toOption]

/-- **A list of steps succeeds with one result for each item**, the item's own. -/
theorem mapM_eq_ok {f : α → Except ε β} : ∀ {l : List α} {r : List β},
    l.mapM f = .ok r ↔ List.Forall₂ (fun a b => f a = .ok b) l r
  | [], r => by
    rw [List.mapM_nil, List.forall₂_nil_left_iff]
    simp [pure, Except.pure, eq_comm]
  | a :: l, r => by
    rw [List.mapM_cons, bind_eq_ok, List.forall₂_cons_left_iff]
    constructor
    · rintro ⟨b, hb, h⟩
      obtain ⟨bs, hbs, h⟩ := bind_eq_ok.1 h
      cases h
      exact ⟨b, bs, hb, mapM_eq_ok.1 hbs, rfl⟩
    · rintro ⟨b, bs, hb, hbs, rfl⟩
      exact ⟨b, hb, bind_eq_ok.2 ⟨bs, mapM_eq_ok.2 hbs, rfl⟩⟩

theorem exists_of_mem_left {R : α → β → Prop} : ∀ {l : List α} {r : List β}, List.Forall₂ R l r →
    ∀ a ∈ l, ∃ b ∈ r, R a b
  | _, _, .nil, a, ha => by cases ha
  | _, _, .cons hab h, a, ha => by
    rcases List.mem_cons.1 ha with rfl | ha
    · exact ⟨_, List.mem_cons_self, hab⟩
    · obtain ⟨b, hb, hR⟩ := exists_of_mem_left h a ha
      exact ⟨b, List.mem_cons_of_mem _ hb, hR⟩

theorem exists_of_mem_right {R : α → β → Prop} {l : List α} {r : List β} (h : List.Forall₂ R l r) :
    ∀ b ∈ r, ∃ a ∈ l, R a b := exists_of_mem_left h.flip

/-- Items that correspond one by one agree in what they correspond by. -/
theorem map_eq_of_forall₂ {R : α → β → Prop} {f : α → γ} {k : β → γ} (hR : ∀ a b, R a b → k b = f a) :
    ∀ {l : List α} {r : List β}, List.Forall₂ R l r → r.map k = l.map f
  | _, _, .nil => rfl
  | _, _, .cons hab h => by rw [List.map_cons, List.map_cons, hR _ _ hab, map_eq_of_forall₂ hR h]

/-- Steps that agree on the items of a list make the same of it. -/
theorem mapM_congr {f g : α → Except ε β} : ∀ {l : List α}, (∀ a ∈ l, f a = g a) → l.mapM f = l.mapM g
  | [], _ => rfl
  | a :: l, h => by
    rw [List.mapM_cons, List.mapM_cons, h a List.mem_cons_self, mapM_congr fun b hb => h b (List.mem_cons_of_mem _ hb)]

/-- Steps that succeed again on the items of a list make the same of it again. -/
theorem mapM_mono {f f' : α → Except ε β} {l : List α} {r : List β} (hmono : ∀ a ∈ l, ∀ b, f a = .ok b → f' a = .ok b)
    (h : l.mapM f = .ok r) : l.mapM f' = .ok r := by
  have hmem : List.Forall₂ (fun a b => a ∈ l ∧ f a = .ok b) l r :=
    (List.forall₂_and_left _ _).2 ⟨fun _ ha => ha, mapM_eq_ok.1 h⟩
  exact mapM_eq_ok.2 (hmem.imp fun a b ⟨ha, hab⟩ => hmono a ha b hab)

/-- The items that pass a test correspond to the results that are there. -/
theorem forall₂_filterMap {R : α → Option β → Prop} {S : α → β → Prop} {test : α → Bool}
    (hR : ∀ a b?, R a b? → test a = b?.isSome ∧ ∀ b, b? = some b → S a b) {l : List α} {r : List (Option β)}
    (h : List.Forall₂ R l r) : List.Forall₂ S (l.filter test) (r.filterMap id) := by
  induction h with
  | nil => exact .nil
  | @cons a b? l r hab _ ih =>
    obtain ⟨htest, hS⟩ := hR a b? hab
    cases b? with
    | none => rwa [List.filter_cons_of_neg (by simp [htest]), List.filterMap_cons_none rfl]
    | some b =>
      rw [List.filter_cons_of_pos htest]
      exact .cons (hS b rfl) ih

/-- The results for a list come first among those for a longer one, where the steps that succeed do so again. -/
theorem prefix_of_forall₂ {f f' : α → Except ε β} {l rest : List α} {r r' : List β}
    (h : List.Forall₂ (fun a b => f a = .ok b) l r) (hmono : ∀ a ∈ l, ∀ b, f a = .ok b → f' a = .ok b)
    (h' : List.Forall₂ (fun a b => f' a = .ok b) (l ++ rest) r') : r <+: r' := by
  induction h generalizing r' with
  | nil => exact List.nil_prefix
  | @cons a b l r hab _ ih =>
    obtain ⟨b', r'', hab', hrest, rfl⟩ := List.forall₂_cons_left_iff.1 h'
    cases (hmono a List.mem_cons_self b hab).symm.trans hab'
    exact List.cons_prefix_cons.2 ⟨rfl, ih (fun x hx => hmono x (List.mem_cons_of_mem _ hx)) hrest⟩

/-- A list of steps that succeed succeeds. -/
theorem exists_mapM_eq_ok {f : α → Except ε β} : ∀ {l : List α}, (∀ a ∈ l, ∃ b, f a = .ok b) → ∃ r, l.mapM f = .ok r
  | [], _ => ⟨[], rfl⟩
  | a :: l, h => by
    obtain ⟨b, hb⟩ := h a List.mem_cons_self
    obtain ⟨r, hr⟩ := exists_mapM_eq_ok fun x hx => h x (List.mem_cons_of_mem a hx)
    exact ⟨b :: r, by rw [List.mapM_cons, hb, hr]; rfl⟩

/-- A list of steps fails with the error of one of its items. -/
theorem mapM_eq_error {f : α → Except ε β} {e : ε} : ∀ {l : List α}, l.mapM f = .error e → ∃ a ∈ l, f a = .error e
  | [], h => by cases h
  | a :: l, h => by
    rw [List.mapM_cons, bind_eq_error] at h
    rcases h with h | ⟨b, -, h⟩
    · exact ⟨a, List.mem_cons_self, h⟩
    · rcases bind_eq_error.1 h with h | ⟨bs, -, h⟩
      · obtain ⟨x, hx, hfx⟩ := mapM_eq_error h
        exact ⟨x, List.mem_cons_of_mem _ hx, hfx⟩
      · cases h

theorem forM_eq_ok {f : α → Except ε Unit} : ∀ {l : List α}, l.forM f = .ok () ↔ ∀ a ∈ l, f a = .ok ()
  | [] => by simp [pure, Except.pure]
  | a :: l => by
    show (f a >>= fun _ => l.forM f) = .ok () ↔ _
    rw [bind_eq_ok, List.forall_mem_cons, ← forM_eq_ok]
    exact ⟨fun ⟨_, h1, h2⟩ => ⟨h1, h2⟩, fun ⟨h1, h2⟩ => ⟨(), h1, h2⟩⟩

/-- Steps one after the other fail with the error of one of them. -/
theorem exists_of_forM_eq_error {f : α → Except ε Unit} {e : ε} : ∀ {l : List α}, l.forM f = .error e →
    ∃ a ∈ l, f a = .error e
  | [], h => by cases h
  | a :: l, h => by
    replace h : (f a >>= fun _ => l.forM f) = .error e := h
    rcases bind_eq_error.1 h with h | ⟨u, -, h⟩
    · exact ⟨a, List.mem_cons_self, h⟩
    · obtain ⟨x, hx, hfx⟩ := exists_of_forM_eq_error h
      exact ⟨x, List.mem_cons_of_mem _ hx, hfx⟩

end Outcome
end Ormap
