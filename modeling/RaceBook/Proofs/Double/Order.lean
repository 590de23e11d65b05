import Mathlib.Data.Prod.Lex
import RaceBook.Proofs.Double.Operations

/-!
# The order of doubles

NaN is neither below nor above any double, so that "not at most" is more than "above".

* `IsNumber` : a double is finite or infinite;
* `lt_iff_not_le`, `le_iff_not_lt` : each comparison is the negation of the other just between
  numbers;
* `place` : numbers in their order are triples of integers in lexicographic order, so that `<` is a
  strict order;
* `isNumber_ofInt` : whole numbers are numbers as doubles, of any size;
* `IsNumber.add_zero` : a number and zero make a number.
-/

namespace RaceBook.Double

open Float.Model Float.Model.UnpackedFloat

/-- The double is finite or infinite. -/
def IsNumber (x : Float) : Prop := Number.reading x ≠ .nan

instance (x : Float) : Decidable (IsNumber x) :=
  inferInstanceAs (Decidable (Number.reading x ≠ .nan))

variable {x y : Float}

theorem isNumber_iff_unpacked : IsNumber x ↔ unpacked (Number.reading x) ≠ .notANumber := by
  unfold IsNumber
  cases Number.reading x with
  | nan => exact iff_of_false (· rfl) (· rfl)
  | infinite negative => exact iff_of_true (by simp) (by simp [unpacked])
  | finite b =>
    refine iff_of_true (by simp) ?_
    rw [unpacked]
    split <;> simp

theorem IsNumber.of_hasSign {s : Sign} (h : HasSign s (unpacked (Number.reading x))) :
    IsNumber x := by
  rw [isNumber_iff_unpacked]
  intro hnan
  rw [hnan] at h
  exact h

theorem IsNumber.hasSign (h : IsNumber x) : ∃ s, HasSign s (unpacked (Number.reading x)) := by
  rw [isNumber_iff_unpacked] at h
  cases hu : unpacked (Number.reading x) with
  | notANumber => exact absurd hu h
  | infinity s => exact ⟨s, rfl⟩
  | zero s => exact ⟨s, rfl⟩
  | finite s m e hm => exact ⟨s, rfl⟩

/-! ## Comparisons -/

theorem lt_iff {x y : Float} :
    x < y ↔ (unpacked (Number.reading x)).lt (unpacked (Number.reading y)) = true := by
  rw [← unpack_toModel, ← unpack_toModel]
  exact decide_eq_true_iff

theorem compare_nan (u : UnpackedFloat) : u.compare .notANumber = none := by
  cases u <;> rfl

theorem compare_then_swap (e₁ e₂ : Int) (m₁ m₂ : Nat) :
    ((compare e₁ e₂).then (compare m₁ m₂)).swap = (compare e₂ e₁).then (compare m₂ m₁) := by
  rw [Ordering.swap_then, Int.compare_swap, Nat.compare_swap]

theorem compare_swap {u v : UnpackedFloat} (hu : u ≠ .notANumber) (hv : v ≠ .notANumber) :
    ∃ o : Ordering, u.compare v = some o ∧ v.compare u = some o.swap := by
  cases u with
  | notANumber => exact absurd rfl hu
  | infinity s => cases v with
    | notANumber => exact absurd rfl hv
    | infinity t => cases s <;> cases t <;> exact ⟨_, rfl, rfl⟩
    | zero t => cases s <;> exact ⟨_, rfl, rfl⟩
    | finite t m e hm => cases s <;> exact ⟨_, rfl, rfl⟩
  | zero s => cases v with
    | notANumber => exact absurd rfl hv
    | infinity t => cases t <;> exact ⟨_, rfl, rfl⟩
    | zero t => exact ⟨_, rfl, rfl⟩
    | finite t m e hm => cases t <;> exact ⟨_, rfl, rfl⟩
  | finite s m e hm => cases v with
    | notANumber => exact absurd rfl hv
    | infinity t => cases t <;> exact ⟨_, rfl, rfl⟩
    | zero t => cases s <;> exact ⟨_, rfl, rfl⟩
    | finite t n f hn =>
      cases s <;> cases t
      case positive.positive =>
        exact ⟨_, rfl, congrArg some (compare_then_swap e f m n).symm⟩
      case negative.negative =>
        exact ⟨_, rfl, congrArg some (congrArg Ordering.swap (compare_then_swap e f m n).symm)⟩
      all_goals exact ⟨_, rfl, rfl⟩

theorem isNumber_of_compare {o : Ordering}
    (h : (unpacked (Number.reading x)).compare (unpacked (Number.reading y)) = some o) :
    IsNumber x ∧ IsNumber y := by
  rw [isNumber_iff_unpacked, isNumber_iff_unpacked]
  constructor <;> intro hnan
  · rw [hnan] at h
    cases h
  · rw [hnan, compare_nan] at h
    cases h

theorem lt_iff_not_le : x < y ↔ IsNumber x ∧ IsNumber y ∧ ¬y ≤ x := by
  rw [lt_iff, le_iff]
  unfold UnpackedFloat.lt UnpackedFloat.le
  by_cases hnumbers : IsNumber x ∧ IsNumber y
  · obtain ⟨o, hxy, hyx⟩ := compare_swap (isNumber_iff_unpacked.1 hnumbers.1)
      (isNumber_iff_unpacked.1 hnumbers.2)
    rw [hxy, hyx]
    cases o <;> simp [hnumbers]
  · refine iff_of_false (fun h => hnumbers ?_) (fun h => hnumbers ⟨h.1, h.2.1⟩)
    exact isNumber_of_compare (eq_of_beq h)

theorem le_iff_not_lt : x ≤ y ↔ IsNumber x ∧ IsNumber y ∧ ¬y < x := by
  rw [lt_iff_not_le]
  refine ⟨fun h => ?_, fun ⟨hx, hy, h⟩ => not_not.1 fun hle => h ⟨hy, hx, hle⟩⟩
  have hnumbers : IsNumber x ∧ IsNumber y := by
    rw [le_iff, UnpackedFloat.le, Option.any_eq_true] at h
    obtain ⟨o, ho, -⟩ := h
    exact isNumber_of_compare ho
  exact ⟨hnumbers.1, hnumbers.2, fun hlt => hlt.2.2 h⟩

theorem isNumber_zero : IsNumber 0.0 := by decide +kernel

/-- A double that is not zero or less is positive when it is a number. -/
theorem pos_iff_isNumber (h : ¬x ≤ 0.0) : 0.0 < x ↔ IsNumber x := by
  rw [lt_iff_not_le]
  exact ⟨fun hpos => hpos.2.1, fun hx => ⟨isNumber_zero, hx, h⟩⟩

/-! ## A strict order -/

/-- Where a number stands: by its sign and whether it is infinite, then by exponent and mantissa,
turned round below zero. -/
def place : UnpackedFloat → Int ×ₗ Int ×ₗ Int
  | .infinity .negative => toLex (-2, toLex (0, 0))
  | .finite .negative m e _ => toLex (-1, toLex (-e, -m))
  | .zero _ | .notANumber => toLex (0, toLex (0, 0))
  | .finite .positive m e _ => toLex (1, toLex (e, m))
  | .infinity .positive => toLex (2, toLex (0, 0))

/-- One number compares as less than another when it stands before it. -/
theorem compare_eq_lt_iff {u v : UnpackedFloat} (hu : u ≠ .notANumber) (hv : v ≠ .notANumber) :
    u.compare v = some .lt ↔ place u < place v := by
  cases u with
  | notANumber => exact absurd rfl hu
  | infinity s => cases v with
    | notANumber => exact absurd rfl hv
    | infinity t => cases s <;> cases t <;> decide
    | zero t => cases s <;> simp [UnpackedFloat.compare, place, Prod.Lex.toLex_lt_toLex]
    | finite t m e hm =>
      cases s <;> cases t <;> simp [UnpackedFloat.compare, place, Prod.Lex.toLex_lt_toLex]
  | zero s => cases v with
    | notANumber => exact absurd rfl hv
    | infinity t => cases t <;> simp [UnpackedFloat.compare, place, Prod.Lex.toLex_lt_toLex]
    | zero t => simp [UnpackedFloat.compare, place]
    | finite t m e hm => cases t <;> simp [UnpackedFloat.compare, place, Prod.Lex.toLex_lt_toLex]
  | finite s m e hm => cases v with
    | notANumber => exact absurd rfl hv
    | infinity t =>
      cases s <;> cases t <;> simp [UnpackedFloat.compare, place, Prod.Lex.toLex_lt_toLex]
    | zero t => cases s <;> simp [UnpackedFloat.compare, place, Prod.Lex.toLex_lt_toLex]
    | finite t n f hn =>
      cases s <;> cases t <;>
        simp [UnpackedFloat.compare, place, Prod.Lex.toLex_lt_toLex, Ordering.then_eq_lt,
          Ordering.then_eq_gt, Ordering.swap_eq_lt, compare_lt_iff_lt, compare_gt_iff_gt]

/-- One double is below another when both are numbers and it stands before it. -/
theorem lt_iff_place : x < y ↔ IsNumber x ∧ IsNumber y ∧
    place (unpacked (Number.reading x)) < place (unpacked (Number.reading y)) := by
  rw [lt_iff, UnpackedFloat.lt, beq_iff_eq]
  constructor
  · intro h
    obtain ⟨hx, hy⟩ := isNumber_of_compare h
    exact ⟨hx, hy, (compare_eq_lt_iff (isNumber_iff_unpacked.1 hx) (isNumber_iff_unpacked.1 hy)).1 h⟩
  · rintro ⟨hx, hy, h⟩
    exact (compare_eq_lt_iff (isNumber_iff_unpacked.1 hx) (isNumber_iff_unpacked.1 hy)).2 h

theorem IsNumber.lt_iff_place_lt (hx : IsNumber x) (hy : IsNumber y) :
    x < y ↔ place (unpacked (Number.reading x)) < place (unpacked (Number.reading y)) :=
  lt_iff_place.trans ⟨fun h => h.2.2, fun h => ⟨hx, hy, h⟩⟩

instance strictOrder : IsStrictOrder Float (· < ·) where
  irrefl x h := lt_irrefl _ (lt_iff_place.1 h).2.2
  trans x y z hxy hyz := by
    obtain ⟨hx, -, hxy⟩ := lt_iff_place.1 hxy
    obtain ⟨-, hz, hyz⟩ := lt_iff_place.1 hyz
    exact lt_iff_place.2 ⟨hx, hz, hxy.trans hyz⟩

theorem isNumber_iff_isNaN : IsNumber x ↔ x.isNaN = false := by
  rw [isNumber_iff_unpacked, ← unpack_toModel]
  change _ ↔ x.toModel.unpack.isNaN = false
  cases x.toModel.unpack <;> simp [UnpackedFloat.isNaN]

/-! ## Whole numbers -/

theorem IsNumber.neg (h : IsNumber x) : IsNumber x.neg := by
  obtain ⟨s, hs⟩ := h.hasSign
  have hneg : HasSign (-s) (unpacked (Number.reading x)).neg := by
    revert hs
    cases unpacked (Number.reading x) with
    | notANumber => exact False.elim
    | _ => rintro rfl; rfl
  rw [← unpack_toModel] at hneg
  exact .of_hasSign hneg.pack

theorem hasSign_mul_finite {m n : Nat} {e f : Int} {hm : 0 < m} {hn : 0 < n} :
    HasSign .positive (UnpackedFloat.mul Format.binary64 (.finite .positive m e hm)
      (.finite .positive n f hn)) :=
  HasSign.roundWithAccuracy

/-- A natural number with more bits than a mantissa is a product, rounded. -/
theorem isNumber_ofNat (n : Nat) : IsNumber (Float.ofNat n) := by
  by_cases hn : n < 2 ^ 53
  · exact .of_hasSign (hasSign_ofNat hn)
  · have hlarge : Float.ofNat n =
        .ofModel (.pack (UnpackedFloat.ofScientific Format.binary64 n 0)) := by
      change Float.ofScientific n false 0 = _
      rw [Float.ofScientific, dif_neg fun h => hn h.1]
      rfl
    rw [hlarge]
    refine .of_hasSign (s := .positive) (HasSign.pack ?_)
    have hbits : (0 : Int) ≤ 2 ^ Format.binary64.exponentBits := by decide
    rw [UnpackedFloat.ofScientific, dif_neg (by omega), if_neg (by omega), if_neg (by omega),
      if_pos (Int.le_refl 0)]
    exact hasSign_mul_finite

theorem isNumber_ofInt (n : Int) : IsNumber (Float.ofInt n) := by
  cases n with
  | ofNat n => exact isNumber_ofNat n
  | negSucc n => exact (isNumber_ofNat n.succ).neg

/-! ## Adding zero -/

theorem unpacked_zero : unpacked (Number.reading 0.0) = .zero .positive := by
  have hreading : Number.reading 0.0 = .finite ⟨false, 0, -1074⟩ := by decide +kernel
  rw [hreading]
  rfl

theorem IsNumber.add_zero (h : IsNumber x) : IsNumber (x + 0.0) := by
  have hsum : ∃ s, HasSign s (UnpackedFloat.add Format.binary64 (unpacked (Number.reading x))
      (.zero .positive)) := by
    rw [isNumber_iff_unpacked] at h
    revert h
    cases unpacked (Number.reading x) with
    | notANumber => exact fun h => absurd rfl h
    | infinity t => exact fun _ => ⟨t, rfl⟩
    | zero t => cases t <;> exact fun _ => ⟨_, rfl⟩
    | finite t m e hm => exact fun _ => ⟨t, rfl⟩
  obtain ⟨s, hs⟩ := hsum
  rw [add_eq, unpacked_zero]
  exact .of_hasSign hs.pack

end RaceBook.Double
