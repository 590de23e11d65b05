import Mathlib
import RaceBook.Player

/-!
# Public keys as texts

* `SameLetters` : two texts are equal up to letter case (`toLower_eq_toLower_iff` : their lower
  cases are equal);
* `Spells digit text` : a text is 64 digits with at most a line end behind them; `IsPlainKey` : it
  is 64 digits in lower case, and nothing else;
* `isPublicKey_iff` : which texts are taken for keys;
* `Spells.toLower` : what is kept of them.
-/

namespace RaceBook

/-! ## Letter case -/

/-- The same character, or one of them is the capital of the other. -/
def SameLetter (c d : Char) : Prop := c = d ∨ c.toUpper = d ∨ c = d.toUpper

def SameLetters (s t : String) : Prop := List.Forall₂ SameLetter s.toList t.toList

variable {c d : Char} {s t text : String} {digit : Char → Bool}

theorem toUpper_toLower_of_isUpper (h : c.isUpper = true) : c.toLower.toUpper = c := by
  rw [Char.toUpper_toLower_eq_toUpper]
  exact Char.toUpper_eq_of_not_isLower (Char.not_isLower_of_isUpper h)

theorem sameLetter_iff : SameLetter c d ↔ c.toLower = d.toLower := by
  constructor
  · rintro (rfl | rfl | rfl)
    · rfl
    · rw [Char.toLower_toUpper_eq_toLower]
    · rw [Char.toLower_toUpper_eq_toLower]
  · intro h
    by_cases hc : c.isUpper = true
    · right
      right
      rw [← Char.toUpper_toLower_eq_toUpper, ← h, toUpper_toLower_of_isUpper hc]
    · rw [Char.toLower_eq_of_not_isUpper hc] at h
      by_cases hd : d.isUpper = true
      · exact .inr (.inl (by rw [h, toUpper_toLower_of_isUpper hd]))
      · exact .inl (h.trans (Char.toLower_eq_of_not_isUpper hd))

theorem toList_toLower (s : String) : s.toLower.toList = s.toList.map Char.toLower :=
  String.toList_map

theorem sameLetters_iff :
    SameLetters s t ↔ s.toList.map Char.toLower = t.toList.map Char.toLower := by
  have hsame : SameLetter = fun c d => c.toLower = d.toLower := by
    funext c d
    exact propext sameLetter_iff
  rw [SameLetters, hsame, ← List.forall₂_eq_eq_eq, List.forall₂_map_left_iff,
    List.forall₂_map_right_iff]

theorem toLower_eq_toLower_iff : s.toLower = t.toLower ↔ SameLetters s t := by
  rw [sameLetters_iff, ← String.toList_inj, toList_toLower, toList_toLower]

/-! ## Keys -/

def isLowerHexDigit (c : Char) : Bool := c.isDigit || ('a' ≤ c && c ≤ 'f')

/-- A text of 64 such digits, and at most a line end behind them. -/
def Spells (digit : Char → Bool) (text : String) : Prop :=
  ∃ digits lineEnd, text.toList = digits ++ lineEnd ∧ digits.length = 64 ∧
    (∀ c ∈ digits, digit c = true) ∧ (lineEnd = [] ∨ lineEnd = ['\n'])

def IsPlainKey (text : String) : Prop :=
  text.toList.length = 64 ∧ ∀ c ∈ text.toList, isLowerHexDigit c = true

instance (text : String) : Decidable (IsPlainKey text) := inferInstanceAs (Decidable (_ ∧ _))

theorem isPublicKey_iff : isPublicKey text = true ↔ Spells isHexDigit text := by
  simp only [isPublicKey, Bool.and_eq_true, Bool.or_eq_true, decide_eq_true_eq, List.all_eq_true]
  constructor
  · rintro ⟨⟨hlength, hdigits⟩, hrest⟩
    exact ⟨_, _, (List.take_append_drop 64 text.toList).symm, hlength, hdigits, hrest⟩
  · rintro ⟨digits, lineEnd, htext, hlength, hdigits, hrest⟩
    rw [htext, List.take_left' hlength, List.drop_left' hlength]
    exact ⟨⟨hlength, hdigits⟩, hrest⟩

theorem isLowerHexDigit_iff : isLowerHexDigit c = true ↔
    48 ≤ c.toNat ∧ c.toNat ≤ 57 ∨ 97 ≤ c.toNat ∧ c.toNat ≤ 102 := by
  simp [isLowerHexDigit, Char.isDigit, Char.le_def, UInt32.le_iff_toNat_le]

theorem isHexDigit_iff :
    isHexDigit c = true ↔ isLowerHexDigit c = true ∨ 65 ≤ c.toNat ∧ c.toNat ≤ 70 := by
  simp [isHexDigit, isLowerHexDigit, Char.le_def, UInt32.le_iff_toNat_le]

theorem isUpper_iff : c.isUpper = true ↔ 65 ≤ c.toNat ∧ c.toNat ≤ 90 := by
  simp [Char.isUpper, UInt32.le_iff_toNat_le]

theorem isLowerHexDigit_toLower (h : isHexDigit c = true) : isLowerHexDigit c.toLower = true := by
  rcases isHexDigit_iff.1 h with hlower | ⟨hge, hle⟩
  · have hcodes := isLowerHexDigit_iff.1 hlower
    have hc : ¬c.isUpper = true := fun hupper => by
      have := isUpper_iff.1 hupper
      omega
    rwa [Char.toLower_eq_of_not_isUpper hc]
  · have hc : c.isUpper = true := isUpper_iff.2 ⟨hge, by omega⟩
    have hvalid : (c.toNat + 32).isValidChar := .inl (by omega)
    rw [isLowerHexDigit_iff, Char.toLower_eq_of_isUpper hc, Char.toNat_ofNat, if_pos hvalid]
    omega

theorem Spells.isPlainKey_iff (h : Spells isLowerHexDigit text) :
    IsPlainKey text ↔ '\n' ∉ text.toList := by
  obtain ⟨digits, lineEnd, htext, hlength, hdigits, hrest⟩ := h
  constructor
  · intro hplain hmem
    have hdigit : isLowerHexDigit '\n' = true := hplain.2 _ hmem
    cases hdigit
  · intro hnone
    have hempty : lineEnd = [] := hrest.resolve_right fun hends =>
      hnone (by rw [htext, hends]; exact List.mem_append_right _ (List.mem_singleton.2 rfl))
    rw [hempty, List.append_nil] at htext
    rw [IsPlainKey, htext]
    exact ⟨hlength, hdigits⟩

theorem Spells.toLower (h : Spells isHexDigit text) : Spells isLowerHexDigit text.toLower := by
  obtain ⟨digits, lineEnd, htext, hlength, hdigits, hrest⟩ := h
  refine ⟨digits.map Char.toLower, lineEnd, ?_, by rw [List.length_map, hlength], ?_, hrest⟩
  · rw [toList_toLower, htext, List.map_append]
    rcases hrest with rfl | rfl <;> rfl
  · intro c hc
    obtain ⟨d, hd, rfl⟩ := List.mem_map.1 hc
    exact isLowerHexDigit_toLower (hdigits d hd)

end RaceBook
