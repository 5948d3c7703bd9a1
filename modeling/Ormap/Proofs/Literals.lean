import Ormap.Literal
import Ormap.Proofs.Cells
import Ormap.Proofs.Outcome
import Ormap.Proofs.Quoting
/-!
# Literals — what the text of a value tells

The first character of a literal tells its kind, with numbers told apart by the point that every real number has.
Within a kind the text tells the value.  Of real numbers no more is said than that: which number the digits stand for is
a matter of rounding.
-/
namespace Ormap
namespace Value

/-- Whether columns store values of the kind.  The other kinds share the literals of these. -/
def isStored : Value → Bool
  | null | integer _ | real _ | text _ | blob _ => true
  | boolean _ | timestamp _ | uuid _ => false

/-- Whether two values are both real numbers, or equal. -/
def Matches : Value → Value → Prop
  | real _, real _ => True
  | v, w => v = w

end Value

/-! ## Numerals -/

/-- The characters that numbers are written with. -/
def inNumeral (c : Char) : Bool := c.isDigit || c == '-' || c == '.'

theorem inNumeral_of_isDigit {c : Char} (h : c.isDigit = true) : inNumeral c = true := by
  simp [inNumeral, h]

theorem isDigit_of_mem_toDigits {n : Nat} : ∀ c ∈ Nat.toDigits 10 n, c.isDigit = true :=
  fun _ hc => Nat.isDigit_of_mem_toDigits (by decide) (by decide) hc

theorem toList_toString (n : Int) :
    (toString n).toList = if 0 ≤ n then Nat.toDigits 10 n.toNat else '-' :: Nat.toDigits 10 (-n).toNat := by
  rw [Int.toString_eq_repr, Int.repr_eq_if]
  split <;> simp

theorem toString_inj {m n : Int} (h : toString m = toString n) : m = n := by
  have hsign : ∀ k : Nat, '-' ∉ Nat.toDigits 10 k := fun k hk => absurd (isDigit_of_mem_toDigits _ hk) (by decide)
  have hchars := congrArg String.toList h
  rw [toList_toString, toList_toString] at hchars
  split at hchars <;> split at hchars
  · have := Naming.toDigits_inj hchars
    omega
  · exact absurd (hchars ▸ List.mem_cons_self) (hsign _)
  · exact absurd (hchars ▸ List.mem_cons_self) (hsign _)
  · have := Naming.toDigits_inj (List.cons.inj hchars).2
    omega

theorem digit_or_sign_of_mem_toString {n : Int} : ∀ c ∈ (toString n).toList, c.isDigit = true ∨ c = '-' := by
  intro c hc
  rw [toList_toString] at hc
  split at hc
  · exact Or.inl (isDigit_of_mem_toDigits c hc)
  · rcases List.mem_cons.1 hc with hc | hc
    · exact Or.inr hc
    · exact Or.inl (isDigit_of_mem_toDigits c hc)

namespace Binary64

theorem inNumeral_of_mem_layout {cs : List Char} (h : ∀ c ∈ cs, inNumeral c = true) (place : Nat) :
    ∀ c ∈ layout cs place, inNumeral c = true := by
  intro c hc
  unfold layout at hc
  split at hc
  · rcases List.mem_append.1 hc with hc | hc
    · exact h c hc
    · rw [List.eq_of_mem_replicate hc]
      decide
  split at hc
  · rcases List.mem_append.1 hc with hc | hc
    · exact h c (List.mem_of_mem_take hc)
    · rcases List.mem_cons.1 hc with rfl | hc
      · decide
      · exact h c (List.mem_of_mem_drop hc)
  · rw [List.cons_append, List.cons_append] at hc
    rcases List.mem_cons.1 hc with rfl | hc
    · decide
    rcases List.mem_cons.1 hc with rfl | hc
    · decide
    rcases List.mem_append.1 hc with hc | hc
    · rw [List.eq_of_mem_replicate hc]
      decide
    · exact h c hc

theorem isDigit_of_mem_stripped {d : Decimal} : ∀ c ∈ d.stripped.1, c.isDigit = true := by
  intro c hc
  unfold Decimal.stripped at hc
  rw [List.mem_reverse] at hc
  exact isDigit_of_mem_toDigits c (List.mem_reverse.1 ((List.dropWhile_sublist _).subset hc))

theorem inNumeral_of_mem_chars {x : Binary64} : ∀ c ∈ x.chars, inNumeral c = true := by
  have hmagnitude : ∀ c ∈ x.magnitudeChars, inNumeral c = true := by
    intro c hc
    unfold magnitudeChars at hc
    split at hc
    · rw [List.mem_singleton.1 hc]
      decide
    · exact inNumeral_of_mem_layout (fun c hc => inNumeral_of_isDigit (isDigit_of_mem_stripped c hc)) _ c hc
  intro c hc
  unfold chars at hc
  split at hc
  · rcases List.mem_cons.1 hc with rfl | hc
    · decide
    · exact hmagnitude c hc
  · exact hmagnitude c hc

end Binary64

namespace Literal

theorem inNumeral_of_mem_realChars {x : Binary64} : ∀ c ∈ realChars x, inNumeral c = true := by
  intro c hc
  unfold realChars at hc
  split at hc
  · exact Binary64.inNumeral_of_mem_chars c hc
  · rcases List.mem_append.1 hc with hc | hc
    · exact Binary64.inNumeral_of_mem_chars c hc
    · have hplain : ∀ c ∈ ['.', '0'], inNumeral c = true := by simp [inNumeral]
      exact hplain c hc

theorem point_mem_realChars (x : Binary64) : '.' ∈ realChars x := by
  unfold realChars
  split
  · rename_i h
    simpa using h
  · simp

/-! ## Bytes -/

theorem hexDigit_plain : ∀ d : Fin 16, hexDigit d ≠ '\'' ∧ Text.endsItem (hexDigit d) = false := by decide

theorem hexDigit_inj : ∀ d e : Fin 16, hexDigit d = hexDigit e → d = e := by decide

theorem hexByte_inj {a b : UInt8} (h : hexByte a = hexByte b) : a = b := by
  have hdigit : ∀ m n, m < 16 → n < 16 → hexDigit m = hexDigit n → m = n :=
    fun m n hm hn hmn => congrArg Fin.val (hexDigit_inj ⟨m, hm⟩ ⟨n, hn⟩ hmn)
  have ha := a.toNat_lt
  have hb := b.toNat_lt
  simp only [hexByte, List.cons.injEq, and_true] at h
  have hhigh := hdigit _ _ (by omega) (by omega) h.1
  have hlow := hdigit _ _ (by omega) (by omega) h.2
  exact UInt8.toNat_inj.1 (by omega)

theorem flatMap_hexByte_inj : ∀ {as bs : List UInt8}, as.flatMap hexByte = bs.flatMap hexByte → as = bs
  | [], [], _ => rfl
  | [], b :: bs, h => by simp [hexByte] at h
  | a :: as, [], h => by simp [hexByte] at h
  | a :: as, b :: bs, h => by
    obtain ⟨hab, hrest⟩ := List.append_inj h rfl
    rw [hexByte_inj hab, flatMap_hexByte_inj hrest]

theorem plain_of_mem_bytes (bytes : List UInt8) :
    ∀ c ∈ bytes.flatMap hexByte, c ≠ '\'' ∧ Text.endsItem c = false := by
  intro c hc
  obtain ⟨b, -, hc⟩ := List.mem_flatMap.1 hc
  have hb := b.toNat_lt
  simp only [hexByte, List.mem_cons, List.not_mem_nil, or_false] at hc
  obtain rfl | rfl := hc
  · exact hexDigit_plain ⟨b.toNat / 16, by omega⟩
  · exact hexDigit_plain ⟨b.toNat % 16, by omega⟩

/-! ## Literals -/

/-- The kind of value that a literal is of. -/
def kind : List Char → String
  | 'N' :: _ => "NULL"
  | '\'' :: _ => "TEXT"
  | 'X' :: _ => "BLOB"
  | cs => if cs.contains '.' then "FLOAT" else "INTEGER"

variable {v w : Value} {l : String}

theorem kind_numeral {cs : List Char} (h : ∀ c ∈ cs, inNumeral c = true) :
    kind cs = if cs.contains '.' then "FLOAT" else "INTEGER" := by
  unfold kind
  split
  · exact absurd (h 'N' List.mem_cons_self) (by decide)
  · exact absurd (h '\'' List.mem_cons_self) (by decide)
  · exact absurd (h 'X' List.mem_cons_self) (by decide)
  · rfl

theorem isItem_numeral {cs : List Char} (hne : cs ≠ []) (h : ∀ c ∈ cs, inNumeral c = true) : Text.IsItem '\'' cs := by
  refine Text.IsItem.plain hne fun c hc => ⟨?_, ?_⟩
  · rintro rfl
    exact absurd (h _ hc) (by decide)
  · by_contra hends
    rw [Bool.not_eq_false, Text.endsItem, Bool.or_eq_true, beq_iff_eq, beq_iff_eq] at hends
    obtain rfl | rfl := hends
    · exact absurd (h _ hc) (by decide)
    · exact absurd (h _ hc) (by decide)

theorem ofValue_real {x : Binary64} (h : ofValue (.real x) = .ok l) : l = String.ofList (realChars x) := by
  change (if x.isFinite = true then _ else _) = _ at h
  split at h
  · exact (Except.ok.inj h).symm
  · cases h

theorem toList_blob (bytes : List UInt8) : ("X'" ++ String.ofList (bytes.flatMap hexByte) ++ "'").toList =
    'X' :: '\'' :: (bytes.flatMap hexByte ++ ['\'']) := by
  simp

/-- **The literal of a stored value is an item of a list, and tells the kind of the value.** -/
theorem literal_item (hv : v.isStored = true) (h : ofValue v = .ok l) :
    Text.IsItem '\'' l.toList ∧ kind l.toList = v.typeName := by
  cases v with
  | null =>
    cases h
    exact ⟨⟨by decide, rfl⟩, rfl⟩
  | integer n =>
    cases h
    have hdigits := digit_or_sign_of_mem_toString (n := n.toInt)
    have hchars : ∀ c ∈ (toString n.toInt).toList, inNumeral c = true := by
      intro c hc
      obtain hc | rfl := hdigits c hc
      · exact inNumeral_of_isDigit hc
      · decide
    have hne : (toString n.toInt).toList ≠ [] := by
      rw [toList_toString]
      split <;> simp [Nat.toDigits_ne_nil]
    have hpoint : (toString n.toInt).toList.contains '.' = false := by
      rw [← Bool.not_eq_true, List.contains_iff_mem]
      intro hc
      exact absurd (hdigits _ hc) (by decide)
    refine ⟨isItem_numeral hne hchars, ?_⟩
    rw [kind_numeral hchars, hpoint]
    rfl
  | real x =>
    obtain rfl := ofValue_real h
    rw [String.toList_ofList]
    have hpoint := point_mem_realChars x
    refine ⟨isItem_numeral (List.ne_nil_of_mem hpoint) inNumeral_of_mem_realChars, ?_⟩
    rw [kind_numeral inNumeral_of_mem_realChars, List.contains_iff_mem.2 hpoint]
    rfl
  | text s =>
    cases h
    refine ⟨Text.IsItem.quoted '\'' s, ?_⟩
    unfold quoteText
    rw [Text.toList_quoted]
    rfl
  | blob bytes =>
    cases h
    rw [toList_blob]
    refine ⟨⟨by simp, ?_⟩, rfl⟩
    have hbytes := Text.readItem_plain (plain_of_mem_bytes bytes) true
    simp [Text.readItem, Text.readItem_append, hbytes, Text.endsItem]
  | boolean b => cases hv
  | timestamp t => cases hv
  | uuid u => cases hv

/-- **A literal tells its value**, up to real numbers. -/
theorem matches_of_literal (hv : v.isStored = true) (hw : w.isStored = true) (hl : ofValue v = .ok l)
    (hl' : ofValue w = .ok l) : v.Matches w := by
  have hkind : v.typeName = w.typeName := (literal_item hv hl).2.symm.trans (literal_item hw hl').2
  cases v with
  | null => cases w with
    | null => rfl
    | _ => simp [Value.typeName] at hkind
  | integer m => cases w with
    | integer n =>
      cases hl
      have hmn : m.toInt = n.toInt := toString_inj (Except.ok.inj hl').symm
      exact congrArg Value.integer (Int64.toInt_inj.1 hmn)
    | _ => simp [Value.typeName] at hkind
  | real x => cases w with
    | real y => trivial
    | _ => simp [Value.typeName] at hkind
  | text s => cases w with
    | text t =>
      cases hl
      exact congrArg Value.text (Text.quoted_inj (Except.ok.inj hl').symm)
    | _ => simp [Value.typeName] at hkind
  | blob as => cases w with
    | blob bs =>
      cases hl
      have hchars := congrArg String.toList (Except.ok.inj hl')
      rw [toList_blob, toList_blob] at hchars
      simp only [List.cons.injEq, true_and, List.append_cancel_right_eq] at hchars
      exact congrArg Value.blob (flatMap_hexByte_inj hchars.symm)
    | _ => simp [Value.typeName] at hkind
  | boolean b => cases hv
  | timestamp t => cases hv
  | uuid u => cases hv

theorem ofValues_eq_ok : ∀ {vs : List Value} {ls : List String},
    ofValues vs = .ok ls ↔ List.Forall₂ (fun v l => ofValue v = .ok l) vs ls
  | [], ls => by
    constructor
    · intro h
      cases h
      exact .nil
    · rintro ⟨⟩
      rfl
  | v :: vs, ls => by
    unfold ofValues
    rw [Outcome.bind_eq_ok]
    constructor
    · rintro ⟨l, hl, h⟩
      obtain ⟨rest, hrest, h⟩ := Outcome.bind_eq_ok.1 h
      cases h
      exact .cons hl (ofValues_eq_ok.1 hrest)
    · rintro (_ | ⟨hl, hrest⟩)
      exact ⟨_, hl, Outcome.bind_eq_ok.2 ⟨_, ofValues_eq_ok.2 hrest, rfl⟩⟩

/-- **Literals of stored values tell the values.** -/
theorem matches_of_literals {vs ws : List Value} {ls : List String} (hv : ∀ v ∈ vs, v.isStored = true)
    (hw : ∀ w ∈ ws, w.isStored = true) (hl : ofValues vs = .ok ls) (hl' : ofValues ws = .ok ls) :
    List.Forall₂ Value.Matches vs ws := by
  induction ls generalizing vs ws with
  | nil =>
    cases ofValues_eq_ok.1 hl
    cases ofValues_eq_ok.1 hl'
    exact .nil
  | cons l ls ih =>
    cases ofValues_eq_ok.1 hl with
    | cons hvl hvs =>
    cases ofValues_eq_ok.1 hl' with
    | cons hwl hws =>
    obtain ⟨hv, hvrest⟩ := List.forall_mem_cons.1 hv
    obtain ⟨hw, hwrest⟩ := List.forall_mem_cons.1 hw
    exact .cons (matches_of_literal hv hw hvl hwl)
      (ih hvrest hwrest (ofValues_eq_ok.2 hvs) (ofValues_eq_ok.2 hws))

end Literal
end Ormap
