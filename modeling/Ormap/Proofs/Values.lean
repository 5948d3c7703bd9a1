import Mathlib.Data.List.Basic
import Ormap.Attribute.Cell
import Ormap.Proofs.Outcome
/-!
# Values — a cell that is stored and loaded gives the value back

Storing refuses what loading would not give back.  The one exception are instants inside a leap second, which come back
as the instants that they are counted on to.
-/
namespace Ormap

/-! ## Identifiers -/

namespace Uuid

theorem hexValue?_hexChar : ∀ d : Fin 16, hexValue? (hexChar d) = some d := by decide

/-- No hexadecimal digit begins the name space or an opening brace. -/
theorem hexChar_ne : ∀ d : Fin 16, (hexChar d).toLower ≠ 'u' ∧ hexChar d ≠ '\x7b' := by decide

theorem mapM_hexChar : ∀ ds : List (Fin 16), (ds.map hexChar).mapM hexValue? = some ds
  | [] => rfl
  | d :: ds => by
    rw [List.map_cons, List.mapM_cons, hexValue?_hexChar, mapM_hexChar ds]
    rfl

theorem length_hyphenate : ∀ (n : Nat) (ns : List Nat) (cs : List Char), cs.length = (n :: ns).foldr (· + ·) 0 →
    (hyphenate (n :: ns) cs).length = cs.length + ns.length
  | n, [], cs, h => by
    simp only [List.foldr_cons, List.foldr_nil, Nat.add_zero] at h
    simp [hyphenate, h]
  | n, k :: ns, cs, h => by
    rw [List.foldr_cons] at h
    have hd : (cs.drop n).length = (k :: ns).foldr (· + ·) 0 := by rw [List.length_drop]; omega
    unfold hyphenate
    rw [List.length_append, List.length_cons, length_hyphenate k ns _ hd, List.length_take, List.length_drop,
      List.length_cons]
    omega

/-- **Hyphens that were put in are found again where they belong.** -/
theorem unhyphenate?_hyphenate : ∀ (n : Nat) (ns : List Nat) (cs : List Char), cs.length = (n :: ns).foldr (· + ·) 0 →
    unhyphenate? (n :: ns) (hyphenate (n :: ns) cs) = some cs
  | n, [], cs, h => by
    simp only [List.foldr_cons, List.foldr_nil, Nat.add_zero] at h
    unfold hyphenate unhyphenate?
    rw [List.take_of_length_le (Nat.le_of_eq h), if_pos h]
  | n, k :: ns, cs, h => by
    rw [List.foldr_cons] at h
    have hd : (cs.drop n).length = (k :: ns).foldr (· + ·) 0 := by rw [List.length_drop]; omega
    have ht : (cs.take n).length = n := by rw [List.length_take]; omega
    unfold hyphenate unhyphenate?
    rw [List.drop_left' ht, List.take_left' ht]
    show (unhyphenate? (k :: ns) (hyphenate (k :: ns) (cs.drop n))).map _ = _
    rw [unhyphenate?_hyphenate k ns _ hd, Option.map_some, List.take_append_drop]

/-- **The written form of an identifier is read back.** -/
theorem ofText?_text (u : Uuid) : ofText? u.text = some u := by
  obtain ⟨ds, hds⟩ := u
  have hlen : (ds.map hexChar).length = groups.foldr (· + ·) 0 := by rw [List.length_map, hds]; rfl
  have hgroups : ofGroups? (hyphenate groups (ds.map hexChar)) = some ⟨ds, hds⟩ := by
    unfold ofGroups? groups
    rw [unhyphenate?_hyphenate _ _ _ hlen, Option.bind_some]
    unfold ofDigits?
    rw [mapM_hexChar]
    exact dif_pos hds
  -- hyphens make the form longer than plain digits, and it begins with a digit
  have hne : (hyphenate groups (ds.map hexChar)).length ≠ 32 := by
    unfold groups
    rw [length_hyphenate _ _ _ hlen, hlen]
    decide
  obtain ⟨d, ds', rfl⟩ := List.exists_cons_of_length_pos (l := ds) (by omega)
  obtain ⟨rest, hcons⟩ : ∃ rest, hyphenate groups ((d :: ds').map hexChar) = hexChar d :: rest := ⟨_, rfl⟩
  unfold ofText? text chars
  rw [String.toList_ofList]
  unfold ofChars?
  rw [if_neg hne]
  rw [hcons] at hgroups ⊢
  have hns : after? nameSpace (hexChar d :: rest) = none := by
    show (if (hexChar d).toLower = 'u' then _ else none) = none
    rw [if_neg (hexChar_ne d).1]
  unfold ofWrapped?
  rw [hns]
  split
  · rename_i h
    cases h
  · rename_i h
    exact absurd (List.cons.inj h).1 (hexChar_ne d).2
  · exact hgroups

end Uuid

/-! ## Instants -/

namespace Timestamp

variable {t : Timestamp}

/-- The instant that counting seconds and nanoseconds on leads to: the instant itself, or for one inside a leap second
that of the next second, if there is one. -/
def countedOn? (t : Timestamp) : Option Timestamp :=
  ofParts? (t.seconds + (t.nanos / 1000000000 : Nat)) (t.nanos % 1000000000)

/-- **Milliseconds lead to the instant counted on to.** -/
theorem ofMillis?_eq_countedOn? (hw : t.isWholeMillis = true) : ofMillis? t.millis = t.countedOn? := by
  have hw : t.nanos % 1000000 = 0 := by simpa [isWholeMillis] using hw
  have hs : t.millis / 1000 = t.seconds + (t.nanos / 1000000000 : Nat) := by unfold millis; omega
  have hm : (t.millis % 1000).toNat * 1000000 = t.nanos % 1000000000 := by unfold millis; omega
  unfold ofMillis? countedOn?
  rw [hs, hm]

theorem countedOn?_eq_self_iff : t.countedOn? = some t ↔ t.nanos < 1000000000 := by
  unfold countedOn? ofParts?
  constructor
  · intro h
    split at h
    · have hs : t.seconds + (t.nanos / 1000000000 : Nat) = t.seconds := congrArg seconds (Option.some.inj h)
      omega
    · cases h
  · intro h
    have hs : t.seconds + (t.nanos / 1000000000 : Nat) = t.seconds := by omega
    rw [hs, Nat.mod_eq_of_lt h]
    exact dif_pos ⟨t.seconds_bounds, t.nanos_bound⟩

/-- The milliseconds of an instant fit 64 bits. -/
theorem toInt_millis (t : Timestamp) : (Int64.ofInt t.millis).toInt = t.millis := by
  have hb := t.seconds_bounds
  have hn := t.nanos_bound
  apply Int64.toInt_ofInt_of_le
  · unfold millis
    omega
  · unfold millis
    omega

end Timestamp

namespace Value

/-- Whether a value is no instant inside a leap second. -/
def NoLeapSecond (v : Value) : Prop := ∀ t, v = .timestamp t → t.nanos < 1000000000

end Value

namespace Attribute

variable {type : Attribute} {column : String} {v w : Value}

theorem integerCell_eq_ok {n : Int64} :
    type.integerCell column n = .ok w ↔ type.holdsInteger n = true ∧ w = .integer n := by
  unfold integerCell
  split
  · rename_i h
    simp [h, eq_comm]
  · rename_i h
    simp [h]

theorem textCell_eq_ok {accepted : Bool} {s : String} :
    type.textCell column accepted s = .ok w ↔ accepted = true ∧ w = .text s := by
  unfold textCell
  cases accepted <;> simp [eq_comm]

/-- **The name of a column makes no difference to the cell**, but only to the error. -/
theorem store_name {other : String} (h : type.store column v = .ok w) : type.store other v = .ok w := by
  unfold store at h ⊢
  split at h
  case h_1 | h_7 | h_8 | h_10 | h_11 | h_13 => exact h
  case h_2 | h_3 | h_4 | h_5 => exact integerCell_eq_ok.2 (integerCell_eq_ok.1 h)
  case h_9 | h_14 => exact textCell_eq_ok.2 (textCell_eq_ok.1 h)
  case h_6 =>
    split at h
    · cases h
    · rename_i hx
      rw [if_neg hx]
      exact h
  case h_12 =>
    split at h
    · rename_i hw
      rw [if_pos hw]
      exact h
    · cases h
  case h_15 => cases h

/-- **What is stored loads as what it was**, leap seconds apart. -/
theorem load_store (hv : v.NoLeapSecond) (h : type.store column v = .ok w) : type.load column w = .ok v := by
  unfold store at h
  split at h
  case h_1 =>
    cases h
    cases type <;> rfl
  case h_2 | h_3 | h_4 | h_5 =>
    obtain ⟨hn, rfl⟩ := integerCell_eq_ok.1 h
    exact integerCell_eq_ok.2 ⟨hn, rfl⟩
  case h_6 =>
    split at h
    · cases h
    · cases h
      rfl
  case h_7 | h_10 | h_11 =>
    cases h
    rfl
  case h_8 b =>
    cases h
    cases b <;> rfl
  case h_9 | h_14 =>
    obtain ⟨hs, rfl⟩ := textCell_eq_ok.1 h
    exact textCell_eq_ok.2 ⟨hs, rfl⟩
  case h_12 t =>
    split at h
    · rename_i hw
      cases h
      show instantOfMillis column (Int64.ofInt t.millis) = _
      unfold instantOfMillis
      rw [t.toInt_millis, Timestamp.ofMillis?_eq_countedOn? hw, Timestamp.countedOn?_eq_self_iff.2 (hv t rfl)]
    · cases h
  case h_13 u =>
    cases h
    show uuidOfText column u.text = _
    unfold uuidOfText
    rw [u.ofText?_text]
  case h_15 => cases h

end Attribute
end Ormap
