import Ormap.Naming
/-!
# Quoting — written items can be told apart

A quoted text gives back the text, and where it ends: the quote at its end is the first one that is not doubled.  In a
list between parentheses the items are parted by commas, and an item may hold commas and parentheses itself, between
quotes.  Read by its quotes alone, an item ends outside them and is nowhere left by a comma or a parenthesis
(`IsItem`), so that a list gives back its items, whatever these hold.
-/
namespace Ormap
namespace Text

variable {q : Char}

/-! ## Quoted texts -/

theorem toList_quoted (q : Char) (s : String) : (quoted q s).toList = q :: (double q s.toList ++ [q]) := by
  simp [quoted]

/-- **A quoted text ends at the first quote that is not doubled.** -/
theorem double_cancel : ∀ {xs ys s t : List Char}, s.head? ≠ some q → t.head? ≠ some q →
    double q xs ++ q :: s = double q ys ++ q :: t → xs = ys ∧ s = t
  | [], [], s, t, _, _, h => ⟨rfl, (List.cons.inj h).2⟩
  | [], y :: ys, s, t, hs, _, h => by
    by_cases hy : y = q
    · -- the quote at the end would be doubled by what follows, which starts with no quote
      simp [double, hy] at h
      simp [h] at hs
    · simp [double, hy, Ne.symm hy] at h
  | x :: xs, [], s, t, _, ht, h => by
    by_cases hx : x = q
    · simp [double, hx] at h
      simp [← h] at ht
    · simp [double, hx] at h
  | x :: xs, y :: ys, s, t, hs, ht, h => by
    by_cases hx : x = q <;> by_cases hy : y = q
    · simp only [double, hx, hy, if_true, List.cons_append, List.cons.injEq, true_and] at h ⊢
      exact double_cancel hs ht h
    · simp [double, hx, hy, Ne.symm hy] at h
    · simp [double, hx, hy] at h
    · simp only [double, hx, hy, if_false, List.cons_append, List.cons.injEq] at h ⊢
      obtain ⟨hxy, h⟩ := h
      obtain ⟨hxys, hst⟩ := double_cancel hs ht h
      exact ⟨⟨hxy, hxys⟩, hst⟩

/-- A quoted text and what follows it, which does not start with the quote. -/
theorem quoted_cancel {a b : String} {s t : List Char} (hs : s.head? ≠ some q) (ht : t.head? ≠ some q)
    (h : (quoted q a).toList ++ s = (quoted q b).toList ++ t) : a = b ∧ s = t := by
  rw [toList_quoted, toList_quoted] at h
  simp only [List.cons_append, List.append_assoc, List.cons.injEq, true_and, List.nil_append] at h
  obtain ⟨hab, hst⟩ := double_cancel hs ht h
  exact ⟨String.toList_inj.1 hab, hst⟩

theorem quoted_inj {a b : String} (h : quoted q a = quoted q b) : a = b := by
  refine (quoted_cancel (q := q) (s := []) (t := []) (by simp) (by simp) ?_).1
  rw [h]

/-! ## Items of lists -/

/-- Whether a character outside quotes ends an item. -/
def endsItem (c : Char) : Bool := c == ',' || c == ')'

/-- Reads a text by its quotes.  What comes back is whether the text ends between quotes; nothing where an item ends
before. -/
def readItem (q : Char) : Bool → List Char → Option Bool
  | between, [] => some between
  | between, c :: cs =>
    if c = q then readItem q (!between) cs
    else if !between && endsItem c then none
    else readItem q between cs

/-- Whether a text can be an item: it is not empty, and no item ends within it. -/
structure IsItem (q : Char) (cs : List Char) : Prop where
  ne_nil : cs ≠ []
  outside : readItem q false cs = some false

theorem readItem_append : ∀ (between : Bool) (cs ds : List Char),
    readItem q between (cs ++ ds) = (readItem q between cs).bind fun between => readItem q between ds
  | _, [], _ => rfl
  | between, c :: cs, ds => by
    rw [List.cons_append, readItem, readItem]
    split
    · exact readItem_append _ cs ds
    · split
      · rfl
      · exact readItem_append _ cs ds

/-- Characters other than the quote and those that end an item change nothing. -/
theorem readItem_plain : ∀ {cs : List Char}, (∀ c ∈ cs, c ≠ q ∧ endsItem c = false) → ∀ between,
    readItem q between cs = some between
  | [], _, _ => rfl
  | c :: cs, h, between => by
    obtain ⟨hc, hcs⟩ := List.forall_mem_cons.1 h
    simp [readItem, hc, readItem_plain hcs]

theorem readItem_double : ∀ xs : List Char, readItem q true (double q xs) = some true
  | [] => rfl
  | x :: xs => by
    unfold double
    split
    · simp [readItem, readItem_double xs]
    · rename_i hx
      simp [readItem, hx, readItem_double xs]

theorem IsItem.quoted (q : Char) (s : String) : IsItem q (quoted q s).toList where
  ne_nil := by simp [toList_quoted]
  outside := by
    rw [toList_quoted, readItem, if_pos rfl, readItem_append, Bool.not_false, readItem_double, Option.bind_some]
    simp [readItem]

theorem IsItem.plain {cs : List Char} (hne : cs ≠ []) (h : ∀ c ∈ cs, c ≠ q ∧ endsItem c = false) : IsItem q cs where
  ne_nil := hne
  outside := readItem_plain h false

/-- Where a text does not go on with an item. -/
def Ends (q : Char) (s : List Char) : Prop := ∃ c rest, s = c :: rest ∧ endsItem c = true ∧ c ≠ q

theorem IsItem.not_ends {cs s : List Char} (h : IsItem q cs) : ¬ Ends q (cs ++ s) := by
  rintro ⟨c, rest, hcs, hc, hq⟩
  obtain ⟨hne, hread⟩ := h
  cases cs with
  | nil => exact hne rfl
  | cons d ds =>
    obtain ⟨rfl, -⟩ := List.cons.inj hcs
    simp [readItem, hq, hc] at hread

/-- An item does not go on where another ends. -/
theorem eq_nil_of_ends {cs ds s t : List Char} (hcs : readItem q false cs = some false)
    (hds : readItem q false (cs ++ ds) = some false) (hs : Ends q s) (h : s = ds ++ t) : ds = [] := by
  obtain ⟨c, rest, rfl, hc, hq⟩ := hs
  cases ds with
  | nil => rfl
  | cons d ds =>
    obtain ⟨rfl, -⟩ := List.cons.inj h
    rw [readItem_append, hcs, Option.bind_some] at hds
    simp [readItem, hq, hc] at hds

/-- **An item ends where its text does.** -/
theorem IsItem.cancel {cs ds s t : List Char} (hcs : IsItem q cs) (hds : IsItem q ds) (hs : Ends q s) (ht : Ends q t)
    (h : cs ++ s = ds ++ t) : cs = ds ∧ s = t := by
  -- one of the two is a beginning of the other, and what the other has more starts where the item ends
  obtain ⟨l, rfl, hst⟩ | ⟨l, rfl, hst⟩ := List.append_eq_append_iff.1 h
  · obtain rfl := eq_nil_of_ends hcs.outside hds.outside hs hst
    simpa using hst
  · obtain rfl := eq_nil_of_ends hds.outside hcs.outside ht hst
    simpa using hst.symm

/-! ## Lists -/

/-- The items of a list after the first, each behind a comma. -/
def moreItems (items : List (List Char)) : List Char := items.flatMap ([',', ' '] ++ ·)

theorem intercalate_cons (x : List Char) : ∀ xs : List (List Char),
    [',', ' '].intercalate (x :: xs) = x ++ moreItems xs
  | [] => by simp [moreItems]
  | y :: ys => by
    rw [List.intercalate_cons_cons, intercalate_cons y ys]
    simp [moreItems]

variable {xs ys : List (List Char)} {s t : List Char}

theorem ends_moreItems (hq : endsItem q = false) (xs : List (List Char)) (s : List Char) :
    Ends q (moreItems xs ++ ')' :: s) := by
  cases xs with
  | nil => exact ⟨')', s, rfl, rfl, fun h => by rw [← h] at hq; cases hq⟩
  | cons x xs => exact ⟨',', _, rfl, rfl, fun h => by rw [← h] at hq; cases hq⟩

theorem moreItems_cancel (hq : endsItem q = false) : ∀ {xs ys : List (List Char)}, (∀ x ∈ xs, IsItem q x) →
    (∀ y ∈ ys, IsItem q y) → moreItems xs ++ ')' :: s = moreItems ys ++ ')' :: t → xs = ys ∧ s = t
  | [], [], _, _, h => ⟨rfl, (List.cons.inj h).2⟩
  | [], y :: ys, _, _, h => by simp [moreItems] at h
  | x :: xs, [], _, _, h => by simp [moreItems] at h
  | x :: xs, y :: ys, hx, hy, h => by
    obtain ⟨hx, hxs⟩ := List.forall_mem_cons.1 hx
    obtain ⟨hy, hys⟩ := List.forall_mem_cons.1 hy
    have htail : x ++ (moreItems xs ++ ')' :: s) = y ++ (moreItems ys ++ ')' :: t) := by
      simpa [moreItems] using h
    obtain ⟨rfl, hrest⟩ := hx.cancel hy (ends_moreItems hq xs s) (ends_moreItems hq ys t) htail
    obtain ⟨rfl, hst⟩ := moreItems_cancel hq hxs hys hrest
    exact ⟨rfl, hst⟩

/-- **A list between parentheses gives back its items, and what follows it.** -/
theorem list_cancel (hq : endsItem q = false) (hxs : ∀ x ∈ xs, IsItem q x) (hys : ∀ y ∈ ys, IsItem q y)
    (h : [',', ' '].intercalate xs ++ ')' :: s = [',', ' '].intercalate ys ++ ')' :: t) : xs = ys ∧ s = t := by
  cases xs with
  | nil =>
    cases ys with
    | nil => exact ⟨rfl, (List.cons.inj h).2⟩
    | cons y ys =>
      rw [intercalate_cons, List.append_assoc] at h
      exact absurd (h ▸ ends_moreItems hq [] s) (hys y List.mem_cons_self).not_ends
  | cons x xs =>
    cases ys with
    | nil =>
      rw [intercalate_cons, List.append_assoc] at h
      exact absurd (h ▸ ends_moreItems hq [] t) (hxs x List.mem_cons_self).not_ends
    | cons y ys =>
      refine moreItems_cancel hq hxs hys ?_
      rw [intercalate_cons, intercalate_cons] at h
      simpa [moreItems] using h

/-- The same of lists as statements write them. -/
theorem written_cancel (hq : endsItem q = false) {as bs : List String} (has : ∀ a ∈ as, IsItem q a.toList)
    (hbs : ∀ b ∈ bs, IsItem q b.toList)
    (h : (", ".intercalate as).toList ++ ')' :: s = (", ".intercalate bs).toList ++ ')' :: t) : as = bs ∧ s = t := by
  rw [String.toList_intercalate, String.toList_intercalate] at h
  obtain ⟨hitems, hst⟩ := list_cancel hq (List.forall_mem_map.2 has) (List.forall_mem_map.2 hbs) h
  exact ⟨(List.map_inj_right fun _ _ => String.toList_inj.1).1 hitems, hst⟩

end Text
end Ormap
