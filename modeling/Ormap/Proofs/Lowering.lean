import Mathlib.Data.List.Basic
import Ormap.Literal
import Ormap.Proofs.Quoting
import Ormap.Proofs.Values
/-!
# Lowering — a value and the cell that stores it have one literal

What a column stores of a value is the value's own affair: the type and the column decide only whether it is accepted
(`Attribute.store_eq_lowered`).  Booleans, instants and identifiers have literals of their own, which are those of the
numbers and texts that stand for them, so that a value and its cell are written alike, or are both without a literal
(`Attribute.literal_of_store`).
-/
namespace Ormap

/-! ## Literals of identifiers -/

namespace Text

theorem double_of_not_mem {q : Char} : ∀ {cs : List Char}, q ∉ cs → double q cs = cs
  | [], _ => rfl
  | c :: cs, h => by
    have hc : c ≠ q := fun hc => h (hc ▸ List.mem_cons_self)
    rw [double, if_neg hc, double_of_not_mem fun hq => h (List.mem_cons_of_mem _ hq)]

end Text

namespace Uuid

theorem mem_hyphenate {c : Char} : ∀ {ns : List Nat} {cs : List Char}, c ∈ hyphenate ns cs → c ∈ cs ∨ c = '-'
  | [], cs, h => by cases h
  | [n], cs, h => Or.inl (List.mem_of_mem_take h)
  | n :: k :: ns, cs, h => by
    rcases List.mem_append.1 h with h | h
    · exact Or.inl (List.mem_of_mem_take h)
    · rcases List.mem_cons.1 h with h | h
      · exact Or.inr h
      · exact (mem_hyphenate h).imp_left List.mem_of_mem_drop

theorem hexChar_ne_quote : ∀ d : Fin 16, hexChar d ≠ '\'' := by decide

theorem quote_not_mem_chars (u : Uuid) : '\'' ∉ u.chars := by
  intro h
  -- hexadecimal digits and hyphens only
  rcases mem_hyphenate h with h | h
  · obtain ⟨d, -, hd⟩ := List.mem_map.1 h
    exact hexChar_ne_quote d hd
  · exact absurd h (by decide)

end Uuid

/-! ## Cells -/

namespace Value

/-- The cell that stands for a value, whatever type accepts it. -/
def lowered : Value → Value
  | .boolean b => .integer (if b then 1 else 0)
  | .timestamp t => .integer (Int64.ofInt t.millis)
  | .uuid u => .text u.text
  | v => v

end Value

/-- **A cell has the literal of the value that it stands for**, finer instants than columns hold included. -/
theorem Literal.ofValue_lowered (v : Value) : ofValue v.lowered = ofValue v := by
  cases v with
  | null | integer | real | text | blob => rfl
  | boolean b => cases b <;> rfl
  | timestamp t =>
    show Except.ok (toString (Int64.ofInt t.millis).toInt) = Except.ok (toString t.millis)
    rw [t.toInt_millis]
  | uuid u =>
    have htext : u.text.toList = u.chars := String.toList_ofList
    have hquoted : quoteText u.text = "'" ++ u.text ++ "'" := by
      apply String.toList_inj.1
      unfold quoteText
      rw [Text.toList_quoted, String.toList_append, String.toList_append, htext,
        Text.double_of_not_mem u.quote_not_mem_chars]
      rfl
    exact congrArg Except.ok hquoted

namespace Attribute

variable {type : Attribute} {column : String} {v w : Value}

/-- **Types and columns do not shape the cell**: whichever accept a value store the one cell that stands for it. -/
theorem store_eq_lowered (h : type.store column v = .ok w) : w = v.lowered := by
  unfold store at h
  split at h
  case h_1 | h_7 | h_8 | h_10 | h_11 | h_13 =>
    cases h
    rfl
  case h_2 | h_3 | h_4 | h_5 => exact (integerCell_eq_ok.1 h).2
  case h_9 | h_14 => exact (textCell_eq_ok.1 h).2
  case h_6 =>
    split at h
    · cases h
    · cases h
      rfl
  case h_12 =>
    split at h
    · cases h
      rfl
    · cases h
  case h_15 => cases h

/-- **A value that a column accepts and the cell that the column stores are written alike**: they have one literal, or
both have none for one reason. -/
theorem literal_of_store (h : type.store column v = .ok w) : Literal.ofValue v = Literal.ofValue w := by
  rw [store_eq_lowered h, Literal.ofValue_lowered]

/-- Half a second before 1970, in milliseconds. -/
theorem literal_of_store_date :
    date.store "opened" (.timestamp ⟨-1, 500000000, by decide, by decide⟩) = .ok (.integer (-500)) ∧
      Literal.ofValue (.timestamp ⟨-1, 500000000, by decide, by decide⟩) = Literal.ofValue (.integer (-500)) :=
  have hstore : date.store "opened" (.timestamp ⟨-1, 500000000, by decide, by decide⟩) = .ok (.integer (-500)) := rfl
  ⟨hstore, literal_of_store hstore⟩

end Attribute
end Ormap
