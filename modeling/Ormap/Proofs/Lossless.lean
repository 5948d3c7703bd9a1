import Mathlib.Algebra.Group.Nat.Defs
import Ormap.Proofs.Values
/-!
# Lossless columns — what comes back from a cell, and what can be written again

Storing and loading each have their own checks.  They meet but for two gaps.  An instant inside a leap second is stored
by its milliseconds, which are those of an instant of the next second (`Attribute.stored_returns_iff`).  A number beyond
the 32-bit format is loaded from a column of the type `float`, which does not store it
(`Attribute.loaded_writable_iff`).
-/
namespace Ormap

/-! ## Numbers beyond the 32-bit format -/

namespace Binary64

variable {x y : Binary64}

theorem fraction_lt (x : Binary64) : x.fraction < fractionCount := Nat.mod_lt _ (by decide)

theorem magnitude_eq (x : Binary64) : x.magnitude = fractionCount * x.exponent + x.fraction :=
  (Nat.div_add_mod _ _).symm

theorem units_lt (x : Binary64) : x.units < fractionCount * 2 ^ x.exponent := by
  have hf := x.fraction_lt
  unfold units significand shift
  rw [Nat.shiftLeft_eq]
  split
  · rename_i he
    rw [he]
    simpa using hf
  · rename_i he
    obtain ⟨k, hk⟩ := Nat.exists_eq_succ_of_ne_zero he
    rw [hk, Nat.succ_sub_one, Nat.pow_succ, Nat.mul_comm (2 ^ k), ← Nat.mul_assoc]
    exact Nat.mul_lt_mul_of_pos_right (by omega) (Nat.two_pow_pos k)

theorem le_units (h : x.exponent ≠ 0) : fractionCount * 2 ^ (x.exponent - 1) ≤ x.units := by
  unfold units significand shift
  rw [Nat.shiftLeft_eq, if_neg h]
  exact Nat.mul_le_mul_right _ (Nat.le_add_right _ _)

/-- **Magnitudes are ordered as the numbers of units.** -/
theorem units_lt_of_magnitude_lt (h : x.magnitude < y.magnitude) : x.units < y.units := by
  have hx := x.fraction_lt
  have hy := y.fraction_lt
  rw [x.magnitude_eq, y.magnitude_eq] at h
  by_cases he : x.exponent = y.exponent
  · -- in one binade the fractions decide
    rw [he] at h
    have hf : x.fraction < y.fraction := by omega
    unfold units significand shift
    rw [he, Nat.shiftLeft_eq, Nat.shiftLeft_eq]
    refine Nat.mul_lt_mul_of_pos_right ?_ (Nat.two_pow_pos _)
    split <;> omega
  · have hlt : x.exponent < y.exponent := by
      unfold fractionCount at *
      omega
    calc x.units < fractionCount * 2 ^ x.exponent := x.units_lt
      _ ≤ fractionCount * 2 ^ (y.exponent - 1) :=
        Nat.mul_le_mul_left _ (Nat.pow_le_pow_right (by decide) (by omega))
      _ ≤ y.units := le_units (by omega)

theorem units_lt_iff : x.units < y.units ↔ x.magnitude < y.magnitude := by
  refine ⟨fun h => ?_, units_lt_of_magnitude_lt⟩
  rcases Nat.lt_trichotomy x.magnitude y.magnitude with hm | hm | hm
  · exact hm
  · have hu : x.units = y.units := by
      unfold units significand shift exponent fraction
      rw [hm]
    omega
  · have := units_lt_of_magnitude_lt hm
    omega

/-- The largest number of the 32-bit format, 2^128 - 2^104, in units of 2^-1074. -/
def singleUnits : Nat := (2 ^ 24 - 1) * 2 ^ 1178

/-- **A number is too large for the 32-bit format** when it is finite and more than that. -/
theorem exceedsSingle_iff : x.exceedsSingle = true ↔ x.isFinite = true ∧ singleUnits < x.units := by
  have hm : (⟨0x47EFFFFFE0000000⟩ : Binary64).magnitude = maxSingle := by decide
  have hu : (⟨0x47EFFFFFE0000000⟩ : Binary64).units = singleUnits := by decide +kernel
  unfold exceedsSingle
  rw [Bool.and_eq_true, decide_eq_true_iff, ← hm, ← hu, units_lt_iff]

end Binary64

/-! ## Instants in milliseconds -/

namespace Timestamp

variable {t : Timestamp}

/-- What a number of milliseconds leads to has that number, and is a whole number of them. -/
theorem millis_of_ofMillis? {n : Int} (h : ofMillis? n = some t) : t.millis = n ∧ t.isWholeMillis = true := by
  unfold ofMillis? ofParts? at h
  split at h
  · cases h
    constructor
    · unfold millis
      dsimp only
      omega
    · unfold isWholeMillis
      simp
  · cases h

end Timestamp

namespace Attribute

variable {type : Attribute} {column : String} {s v w : Value}

/-! ## What is stored -/

/-- What a column that holds the milliseconds of an instant loads as. -/
def loadedInstant (column : String) (t : Timestamp) : Except MarshallingError Value :=
  match t.countedOn? with
  | some counted => .ok (.timestamp counted)
  | none => .error (.noInstant column (Int64.ofInt t.millis))

theorem loadedInstant_eq_self_iff {t : Timestamp} :
    loadedInstant column t = .ok (.timestamp t) ↔ t.nanos < 1000000000 := by
  rw [← Timestamp.countedOn?_eq_self_iff]
  unfold loadedInstant
  cases t.countedOn? <;> simp

theorem store_date_eq_ok {t : Timestamp} : date.store column (.timestamp t) = .ok w ↔
    t.isWholeMillis = true ∧ w = .integer (Int64.ofInt t.millis) := by
  show (if t.isWholeMillis then Except.ok (Value.integer (Int64.ofInt t.millis)) else _) = _ ↔ _
  cases t.isWholeMillis <;> simp [eq_comm]

theorem load_of_store_timestamp {t : Timestamp} (h : type.store column (.timestamp t) = .ok w) :
    type.load column w = loadedInstant column t := by
  cases type with
  | date =>
    obtain ⟨hw, rfl⟩ := store_date_eq_ok.1 h
    have hcounted : Timestamp.ofMillis? (Int64.ofInt t.millis).toInt = t.countedOn? := by
      rw [t.toInt_millis, Timestamp.ofMillis?_eq_countedOn? hw]
    show instantOfMillis column (Int64.ofInt t.millis) = _
    unfold instantOfMillis loadedInstant
    cases hc : t.countedOn? with
    | none => simp only [hcounted, hc]
    | some counted => simp only [hcounted, hc]
  | _ => cases h

/-- **What is stored comes back exactly when it lies in no leap second.**  An instant comes back as the one that it is
counted on to, which after the last second of the calendar is none. -/
theorem stored_returns_iff (h : type.store column v = .ok w) :
    (type.load column w = .ok v ↔ v.NoLeapSecond) ∧
      ∀ t, v = .timestamp t → type.load column w = loadedInstant column t := by
  have hcounted : ∀ t, v = .timestamp t → type.load column w = loadedInstant column t := by
    rintro t rfl
    exact load_of_store_timestamp h
  refine ⟨⟨?_, fun hv => load_store hv h⟩, hcounted⟩
  rintro hl t rfl
  rw [hcounted t rfl] at hl
  exact loadedInstant_eq_self_iff.1 hl

/-- The middle of the second that was put in at the end of the year 2016. -/
def leapSecond : Timestamp := ⟨1483228799, 1500000000, by decide, by decide⟩

/-- A column stores the leap second, and gives the middle of the first second of the year 2017 for it. -/
theorem stored_returns_iff_date : ∃ w, date.store "at" (.timestamp leapSecond) = .ok w ∧
    date.load "at" w ≠ .ok (.timestamp leapSecond) ∧
    date.load "at" w = .ok (.timestamp ⟨1483228800, 500000000, by decide, by decide⟩) := by
  refine ⟨.integer 1483228800500, by decide, ?_, ?_⟩
  · rw [ne_eq, (stored_returns_iff (v := .timestamp leapSecond) (by decide)).1]
    exact fun h => absurd (h _ rfl) (by decide)
  · exact ((stored_returns_iff (v := .timestamp leapSecond) (by decide)).2 _ rfl).trans (by decide)

/-- **Storing loses leap seconds**: a column takes one, and does not give it back. -/
theorem leap_second_lost : ¬ ∀ (type : Attribute) (column : String) (v w : Value),
    type.store column v = .ok w → type.load column w = .ok v :=
  fun h => absurd (h .date "at" (.timestamp leapSecond) (.integer 1483228800500) (by decide)) (by decide)

/-! ## What is loaded -/

/-- A finite number beyond the 32-bit format, in a column of that format. -/
def BeyondSingle (type : Attribute) (v : Value) : Prop :=
  type = float ∧ ∃ x, v = .real x ∧ x.isFinite = true ∧ Binary64.singleUnits < x.units

theorem store_float (x : Binary64) : float.store column (.real x) =
    if x.exceedsSingle then .error (.mismatch column float (.real x)) else .ok (.real x) := rfl

/-- **What a cell loads as**: itself, which the column stores unless it is a number beyond its format; or the boolean,
the instant or the identifier that it stands for. -/
theorem load_eq_ok (h : type.load column s = .ok v) :
    v = s ∧ (BeyondSingle type v ∨ type.store column v = .ok v) ∨
    type = boolean ∧ (∃ b, v = .boolean b) ∨
    type = date ∧ (∃ n t, Timestamp.ofMillis? n = some t ∧ v = .timestamp t) ∨
    type = uuid ∧ ∃ u, v = .uuid u := by
  unfold load at h
  split at h
  case h_1 =>
    cases h
    exact Or.inl ⟨rfl, Or.inr (by cases type <;> rfl)⟩
  case h_2 | h_3 | h_4 | h_5 =>
    obtain ⟨hn, rfl⟩ := integerCell_eq_ok.1 h
    exact Or.inl ⟨rfl, Or.inr (integerCell_eq_ok.2 ⟨hn, rfl⟩)⟩
  case h_6 x =>
    cases h
    refine Or.inl ⟨rfl, ?_⟩
    rw [store_float]
    split
    · rename_i hx
      exact Or.inl ⟨rfl, x, rfl, Binary64.exceedsSingle_iff.1 hx⟩
    · exact Or.inr rfl
  case h_7 | h_10 | h_11 =>
    cases h
    exact Or.inl ⟨rfl, Or.inr rfl⟩
  case h_8 n =>
    split at h
    · cases h
      exact Or.inr (Or.inl ⟨rfl, false, rfl⟩)
    · split at h <;> cases h
      exact Or.inr (Or.inl ⟨rfl, true, rfl⟩)
  case h_9 | h_14 =>
    obtain ⟨ht, rfl⟩ := textCell_eq_ok.1 h
    exact Or.inl ⟨rfl, Or.inr (textCell_eq_ok.2 ⟨ht, rfl⟩)⟩
  case h_12 n =>
    unfold instantOfMillis at h
    split at h <;> cases h
    rename_i t ht
    exact Or.inr (Or.inr (Or.inl ⟨rfl, n.toInt, t, ht, rfl⟩))
  case h_13 =>
    unfold uuidOfText at h
    split at h <;> cases h
    rename_i u hu
    exact Or.inr (Or.inr (Or.inr ⟨rfl, u, rfl⟩))
  case h_15 => cases h

theorem noLeapSecond_of_load (h : type.load column s = .ok v) : v.NoLeapSecond := by
  rintro t rfl
  rcases load_eq_ok h with ⟨-, ⟨-, x, hx, -⟩ | hs⟩ | ⟨-, b, hb⟩ | ⟨-, n, t', ht, hv⟩ | ⟨-, u, hu⟩
  · cases hx
  · cases type with
    | date =>
      cases (store_date_eq_ok.1 hs).2
    | _ => cases hs
  · cases hb
  · cases hv
    obtain ⟨rfl, hw⟩ := Timestamp.millis_of_ofMillis? ht
    rw [Timestamp.ofMillis?_eq_countedOn? hw] at ht
    exact Timestamp.countedOn?_eq_self_iff.1 ht
  · cases hu

/-- **What is loaded can be stored again**, but for a number beyond the format of its column. -/
theorem exists_store_of_load (h : type.load column s = .ok v) (hv : ¬ BeyondSingle type v) :
    ∃ w, type.store column v = .ok w := by
  rcases load_eq_ok h with ⟨-, hs⟩ | ⟨rfl, b, rfl⟩ | ⟨rfl, n, t, ht, rfl⟩ | ⟨rfl, u, rfl⟩
  · exact ⟨v, hs.resolve_left hv⟩
  · exact ⟨_, rfl⟩
  · exact ⟨_, store_date_eq_ok.2 ⟨(Timestamp.millis_of_ofMillis? ht).2, rfl⟩⟩
  · exact ⟨_, rfl⟩

/-- **Whatever is loaded can be written back, unless it is a finite number beyond the 32-bit format in a column of that
format**, which is refused; and what is written back loads as the same value. -/
theorem loaded_writable_iff (h : type.load column s = .ok v) :
    ((∃ w, type.store column v = .ok w) ↔ ¬ BeyondSingle type v) ∧
    (BeyondSingle type v → type.store column v = .error (.mismatch column float v)) ∧
    ∀ w, type.store column v = .ok w → type.load column w = .ok v := by
  have hrefused : BeyondSingle type v → type.store column v = .error (.mismatch column float v) := by
    rintro ⟨rfl, x, rfl, hx⟩
    rw [store_float]
    exact if_pos (Binary64.exceedsSingle_iff.2 hx)
  refine ⟨⟨?_, exists_store_of_load h⟩, hrefused, fun w => load_store (noLeapSecond_of_load h)⟩
  rintro ⟨w, hw⟩ hb
  cases (hrefused hb).symm.trans hw

/-- The number 10^300. -/
def huge : Binary64 := ⟨0x7E37E43C8800759C⟩

/-- An identifier read in capital letters is written in small ones, and stays the same; a number that is read from a
column of the 32-bit format, and is beyond it, is refused. -/
theorem loaded_writable_iff_spelling :
    (∃ v w, uuid.load "id" (.text "000000000000000000000000000000FF") = .ok v ∧
      uuid.store "id" v = .ok w ∧ w = .text "00000000-0000-0000-0000-0000000000ff" ∧ uuid.load "id" w = .ok v) ∧
    float.load "ratio" (.real huge) = .ok (.real huge) ∧ ¬ ∃ w, float.store "ratio" (.real huge) = .ok w := by
  have hread : uuid.load "id" (.text "000000000000000000000000000000FF") =
      .ok (.uuid ⟨List.replicate 30 0 ++ [15, 15], rfl⟩) := by decide +kernel
  have hwritten : uuid.store "id" (.uuid ⟨List.replicate 30 0 ++ [15, 15], rfl⟩) =
      .ok (.text "00000000-0000-0000-0000-0000000000ff") := by decide +kernel
  have hbeyond : BeyondSingle float (.real huge) := ⟨rfl, huge, rfl, by decide, by decide +kernel⟩
  refine ⟨⟨_, _, hread, hwritten, rfl, (loaded_writable_iff hread).2.2 _ hwritten⟩, rfl, fun h => ?_⟩
  exact (loaded_writable_iff (s := .real huge) rfl).1.1 h hbeyond

/-- **Not all that is loaded can be written back**: a column of the 32-bit format gives a larger number. -/
theorem large_number_not_written : ¬ ∀ (type : Attribute) (column : String) (s v : Value),
    type.load column s = .ok v → ∃ w, type.store column v = .ok w := by
  intro h
  obtain ⟨w, hw⟩ := h float "ratio" (.real huge) (.real huge) rfl
  rw [store_float, if_pos (by decide)] at hw
  cases hw

end Attribute
end Ormap
