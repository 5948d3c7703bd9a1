import Mathlib.Data.List.Basic
import Ormap.Config
import Ormap.Proofs.Literals
import Ormap.Proofs.Outcome
/-!
# URLs — when a configuration's URL gives its name and version again

The name stands in the URL as it is, and the URL is parted at its first slash.  A name without a slash comes back
whole with the version; of a name with one the rest is taken for a part of the version, which no reader accepts
(`Config.url_read_back_iff`).
-/
namespace Ormap
namespace Text

theorem digit?_eq (c : Char) : digit? c = if c.isDigit then some (c.toNat - '0'.toNat) else none := by
  have hdigit : ('0' ≤ c ∧ c ≤ '9') ↔ c.isDigit = true := by
    rw [Char.isDigit, Bool.and_eq_true, decide_eq_true_eq, decide_eq_true_eq]
    rfl
  unfold digit?
  exact if_congr hdigit rfl rfl

/-- Digits are read to the last of them or not at all, and their number is the one they stand for. -/
theorem digitsFrom_eq_some {n : Nat} : ∀ {cs : List Char} {acc : Nat},
    digitsFrom acc cs = some n ↔ (∀ c ∈ cs, c.isDigit = true) ∧ Nat.ofDigitChars 10 cs acc = n
  | [], acc => by simp [digitsFrom]
  | c :: cs, acc => by
    rw [digitsFrom, digit?_eq, List.forall_mem_cons, Nat.ofDigitChars_cons, and_assoc]
    by_cases hc : c.isDigit = true
    · rw [if_pos hc]
      exact digitsFrom_eq_some.trans (iff_and_self.2 fun _ => hc)
    · rw [if_neg hc]
      exact iff_of_false (by simp) fun h => hc h.1

theorem digits?_eq_some {cs : List Char} {n : Nat} (h : digits? cs = some n) : ∀ c ∈ cs, c.isDigit = true := by
  cases cs with
  | nil => cases h
  | cons c cs => exact (digitsFrom_eq_some.1 h).1

theorem natural?_toDigits (n : Nat) : natural? (Nat.toDigits 10 n) = some n := by
  have hdigits : ∀ c ∈ Nat.toDigits 10 n, c.isDigit = true := isDigit_of_mem_toDigits
  have hread : digits? (Nat.toDigits 10 n) = some n := by
    have hn : Nat.ofDigitChars 10 (Nat.toDigits 10 n) 0 = n := Nat.ofDigitChars_toDigits (by decide) (by decide)
    have hne : Nat.toDigits 10 n ≠ [] := Nat.toDigits_ne_nil
    revert hdigits hn hne
    generalize Nat.toDigits 10 n = cs
    intro hdigits hn hne
    cases cs with
    | nil => exact absurd rfl hne
    | cons c cs => exact digitsFrom_eq_some.2 ⟨hdigits, hn⟩
  unfold natural?
  split
  · rename_i cs hcs
    have hplus := hdigits '+' (hcs ▸ List.mem_cons_self)
    exact absurd hplus (by decide)
  · exact hread

theorem slash_not_mem_of_natural? {cs : List Char} {n : Nat} (h : natural? cs = some n) : '/' ∉ cs := by
  have hslash : ∀ {ds : List Char}, digits? ds = some n → '/' ∉ ds := by
    intro ds hds hmem
    exact absurd (digits?_eq_some hds '/' hmem) (by decide)
  unfold natural? at h
  split at h
  · intro hmem
    rcases List.mem_cons.1 hmem with hmem | hmem
    · exact absurd hmem (by decide)
    · exact hslash h hmem
  · exact hslash h

end Text

namespace Config

@[simp] theorem after?_append (cs : List Char) : ∀ p : List Char, after? p (p ++ cs) = some cs
  | [] => rfl
  | c :: p => by rw [List.cons_append, after?, if_pos rfl, after?_append cs p]

theorem splitSlash?_eq_none : ∀ {cs : List Char}, splitSlash? cs = none ↔ '/' ∉ cs
  | [] => by simp [splitSlash?]
  | c :: cs => by
    rw [splitSlash?, List.mem_cons, not_or]
    by_cases hc : c = '/'
    · simp [hc]
    · rw [if_neg hc, Option.map_eq_none_iff, splitSlash?_eq_none]
      simp [Ne.symm hc]

theorem splitSlash?_eq_some {name rest : List Char} : ∀ {cs : List Char},
    splitSlash? cs = some (name, rest) ↔ cs = name ++ '/' :: rest ∧ '/' ∉ name
  | [] => by simp [splitSlash?]
  | c :: cs => by
    rw [splitSlash?]
    by_cases hc : c = '/'
    · rw [if_pos hc]
      cases name with
      | nil => simp [hc, eq_comm]
      | cons a name =>
        refine iff_of_false (by simp) fun h => h.2 ?_
        rw [← hc, (List.cons.inj h.1).1]
        exact List.mem_cons_self
    · rw [if_neg hc]
      cases name with
      | nil => simp [hc]
      | cons a name =>
        have htail : splitSlash? cs = some (name, rest) ↔ cs = name ++ '/' :: rest ∧ '/' ∉ name := splitSlash?_eq_some
        simp only [Option.map_eq_some_iff, Prod.exists, Prod.mk.injEq, List.cons.injEq, List.cons_append,
          List.mem_cons, not_or]
        constructor
        · rintro ⟨name', rest', hs, ⟨rfl, rfl⟩, rfl⟩
          exact ⟨⟨rfl, (htail.1 hs).1⟩, Ne.symm hc, (htail.1 hs).2⟩
        · rintro ⟨⟨rfl, hcs⟩, -, hname⟩
          exact ⟨name, rest, htail.2 ⟨hcs, hname⟩, ⟨rfl, rfl⟩, rfl⟩

theorem version?_toDigits (v : UInt32) : version? (Nat.toDigits 10 v.toNat) = some v := by
  unfold version?
  rw [Text.natural?_toDigits, Option.bind_some, if_pos v.toNat_lt, UInt32.ofNat_toNat]

theorem version?_slash {cs : List Char} (h : '/' ∈ cs) : version? cs = none := by
  unfold version?
  cases hn : Text.natural? cs with
  | none => rfl
  | some n => exact absurd h (Text.slash_not_mem_of_natural? hn)

theorem toList_version (v : UInt32) : (toString v.toNat).toList = Nat.toDigits 10 v.toNat := Nat.toList_repr

theorem toList_toUrl (c : Config) :
    c.toUrl.toList = scheme ++ (c.name.toList ++ '/' :: Nat.toDigits 10 c.version.toNat) := by
  unfold toUrl
  rw [String.toList_append, String.toList_append, String.toList_append, String.toList_ofList, List.append_assoc,
    List.append_assoc, toList_version]
  rfl

theorem validated_eq_ok {c d : Config} : (do c.validate; return c : Except Fault Config) = .ok d ↔
    c.validate = .ok () ∧ c = d := by
  cases c.validate with
  | error e => exact iff_of_false (fun h => by cases h) fun h => by cases h.1
  | ok u => exact ⟨fun h => by cases h; exact ⟨rfl, rfl⟩, fun h => by rw [h.2]; rfl⟩

/-- **What is read from a URL**: the text before the first slash with the version after it, or all of the text with
the version 1, as far as it is a valid configuration. -/
theorem ofUrl_eq_ok {url : String} {c : Config} : ofUrl url = .ok c ↔
    ∃ rest, after? scheme url.toList = some rest ∧ c.validate = .ok () ∧
      ((∃ name version v, splitSlash? rest = some (name, version) ∧ version? version = some v ∧
          c = { name := String.ofList name, version := v }) ∨
        (splitSlash? rest = none ∧ c = { name := String.ofList rest })) := by
  unfold ofUrl
  cases hrest : after? scheme url.toList with
  | none => exact iff_of_false (fun h => by cases h) (by simp)
  | some rest =>
    simp only [Option.some.injEq, exists_eq_left']
    cases hsplit : splitSlash? rest with
    | none =>
      refine validated_eq_ok.trans ?_
      constructor
      · rintro ⟨hvalid, rfl⟩
        exact ⟨hvalid, Or.inr ⟨rfl, rfl⟩⟩
      · rintro ⟨hvalid, ⟨_, _, _, h, -⟩ | ⟨-, rfl⟩⟩
        · cases h
        · exact ⟨hvalid, rfl⟩
    | some parts =>
      obtain ⟨name, version⟩ := parts
      dsimp only
      cases hv : version? version with
      | none =>
        refine iff_of_false (fun h => by cases h) ?_
        rintro ⟨-, ⟨_, _, _, h, hv', -⟩ | ⟨h, -⟩⟩
        · cases h
          rw [hv] at hv'
          cases hv'
        · cases h
      | some v =>
        refine validated_eq_ok.trans ?_
        constructor
        · rintro ⟨hvalid, rfl⟩
          exact ⟨hvalid, Or.inl ⟨name, version, v, rfl, hv, rfl⟩⟩
        · rintro ⟨hvalid, ⟨_, _, v', h, hv', rfl⟩ | ⟨h, -⟩⟩
          · cases h
            rw [hv] at hv'
            cases hv'
            exact ⟨hvalid, rfl⟩
          · cases h

theorem ofUrl_badVersion {url : String} {name version : List Char}
    (hurl : url.toList = scheme ++ (name ++ '/' :: version)) (hname : '/' ∉ name) (hversion : version? version = none) :
    ofUrl url = .error (.badVersion (String.ofList version)) := by
  have hsplit : splitSlash? (name ++ '/' :: version) = some (name, version) := splitSlash?_eq_some.2 ⟨rfl, hname⟩
  unfold ofUrl
  simp only [hurl, after?_append, hsplit, hversion]
  rfl

theorem ofUrl_toUrl {c : Config} (h : c.validate = .ok ()) (hname : '/' ∉ c.name.toList) :
    ofUrl c.toUrl = .ok { name := c.name, version := c.version } := by
  have hrest : after? scheme c.toUrl.toList = some (c.name.toList ++ '/' :: Nat.toDigits 10 c.version.toNat) := by
    rw [toList_toUrl, after?_append]
  have hsplit : splitSlash? (c.name.toList ++ '/' :: Nat.toDigits 10 c.version.toNat) =
      some (c.name.toList, Nat.toDigits 10 c.version.toNat) := splitSlash?_eq_some.2 ⟨rfl, hname⟩
  refine ofUrl_eq_ok.2 ⟨_, hrest, h, Or.inl ⟨_, _, c.version, hsplit, version?_toDigits c.version, ?_⟩⟩
  rw [String.ofList_toList]

/-- **A valid configuration's URL gives its name and version again exactly when the name has no slash**; of any other
name all that follows its first slash is taken for the version, and the URL is refused. -/
theorem url_read_back_iff {c : Config} (h : c.validate = .ok ()) :
    (ofUrl c.toUrl = .ok { name := c.name, version := c.version } ↔ '/' ∉ c.name.toList) ∧
      ∀ before after, c.name.toList = before ++ '/' :: after → '/' ∉ before →
        ofUrl c.toUrl = .error (.badVersion (String.ofList after ++ "/" ++ toString c.version.toNat)) := by
  have hrefused : ∀ before after, c.name.toList = before ++ '/' :: after → '/' ∉ before →
      ofUrl c.toUrl = .error (.badVersion (String.ofList after ++ "/" ++ toString c.version.toNat)) := by
    intro before after hname hbefore
    have hurl : c.toUrl.toList = scheme ++ (before ++ '/' :: (after ++ '/' :: Nat.toDigits 10 c.version.toNat)) := by
      rw [toList_toUrl, hname, List.append_assoc]
      rfl
    have htext : String.ofList (after ++ '/' :: Nat.toDigits 10 c.version.toNat) =
        String.ofList after ++ "/" ++ toString c.version.toNat := by
      apply String.toList_inj.1
      rw [String.toList_append, String.toList_append, String.toList_ofList, String.toList_ofList, List.append_assoc,
        toList_version]
      rfl
    rw [← htext]
    exact ofUrl_badVersion hurl hbefore (version?_slash (by simp))
  refine ⟨⟨fun hread hslash => ?_, ofUrl_toUrl h⟩, hrefused⟩
  -- a name with a slash has a first one
  obtain ⟨⟨before, after⟩, hsplit⟩ := Option.ne_none_iff_exists'.1 (mt splitSlash?_eq_none.1 (not_not.2 hslash))
  obtain ⟨hname, hbefore⟩ := splitSlash?_eq_some.1 hsplit
  rw [hrefused before after hname hbefore] at hread
  cases hread

theorem url_read_back_iff_inventory :
    ({ name := "inventory", version := 3 } : Config).validate = .ok () ∧
      ofUrl (toUrl { name := "inventory", version := 3 }) = .ok { name := "inventory", version := 3 } :=
  have hvalid : ({ name := "inventory", version := 3 } : Config).validate = .ok () := rfl
  ⟨hvalid, (url_read_back_iff hvalid).1.2 (by decide)⟩

/-- A valid configuration whose URL is refused. -/
theorem slashed_name_not_read_back :
    ({ name := "a/b", version := 3 } : Config).validate = .ok () ∧
      ofUrl (toUrl { name := "a/b", version := 3 }) = .error (.badVersion "b/3") := by
  decide +kernel

end Config
end Ormap
