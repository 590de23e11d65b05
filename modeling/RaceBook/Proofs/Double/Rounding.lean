import RaceBook.Proofs.Double.Reading

/-!
# How doubles are rounded

A number is rounded by shifting its mantissa to the right, to the nearest one; when that has one bit
too many it is shifted once more.

* `roundWithAccuracy_exact` : a canonical number with zeros behind its mantissa is rounded to itself;
* `roundWithAccuracy_canonical` : a number with enough bits, that is not too small, is rounded to a
  canonical one whose leading bit is no smaller;
* `div_canonical` : so is a quotient;
* `HasSign.roundWithAccuracy`, `HasSign.normalize` : rounding keeps the sign.
-/

namespace RaceBook.Double

open Float.Model Float.Model.UnpackedFloat

variable {s : Sign} {m : Nat} {e : Int} {a : Accuracy}

/-! ## Shifts -/

theorem mantissa_shiftRight (em : ExtendedMantissa) (k : Nat) :
    (em >>> k).mantissa = em.mantissa / 2 ^ k := by
  change (k.repeat ExtendedMantissa.shiftRightOne em).mantissa = _
  induction k with
  | zero => exact (Nat.div_one _).symm
  | succ k ih =>
    rw [Nat.pow_succ, ← Nat.div_div_eq_div_mul, ← ih]
    rfl

theorem shiftRight_exact (m k : Nat) :
    (⟨m * 2 ^ k, false, false⟩ : ExtendedMantissa) >>> k = ⟨m, false, false⟩ := by
  change k.repeat ExtendedMantissa.shiftRightOne _ = _
  induction k generalizing m with
  | zero => exact congrArg (ExtendedMantissa.mk · false false) (Nat.mul_one m)
  | succ k ih =>
    rw [Nat.repeat, Nat.pow_succ, Nat.mul_comm (2 ^ k), ← Nat.mul_assoc, ih,
      ExtendedMantissa.shiftRightOne]
    simp

theorem mantissa_ofMantissaAndAccuracy :
    (ExtendedMantissa.ofMantissaAndAccuracy m a).mantissa = m := by
  cases a with
  | exact => rfl
  | inexact order => cases order <;> rfl

theorem roundedMantissa_bounds (em : ExtendedMantissa) :
    em.mantissa ≤ em.roundedMantissa ∧ em.roundedMantissa ≤ em.mantissa + 1 := by
  have hround : ∀ a : Accuracy, em.mantissa ≤ a.roundToNearestEven em.mantissa ∧
      a.roundToNearestEven em.mantissa ≤ em.mantissa + 1 := by
    intro a
    cases a with
    | exact => exact ⟨Nat.le_refl _, Nat.le_succ _⟩
    | inexact order => cases order <;> simp only [Accuracy.roundToNearestEven] <;> omega
  exact hround em.accuracy

theorem log2_mono {n : Nat} (hm : 0 < m) (hle : m ≤ n) : m.log2 ≤ n.log2 :=
  (Nat.le_log2 (Nat.ne_of_gt (Nat.lt_of_lt_of_le hm hle))).2
    (Nat.le_trans (Nat.log2_self_le (Nat.ne_of_gt hm)) hle)

theorem log2_mul_two_pow (hm : 0 < m) (k : Nat) : (m * 2 ^ k).log2 = m.log2 + k := by
  have hlow : 2 ^ m.log2 ≤ m := Nat.log2_self_le (Nat.ne_of_gt hm)
  have hhigh : m < 2 ^ (m.log2 + 1) := Nat.lt_log2_self
  refine (Nat.log2_eq_iff (Nat.ne_of_gt (Nat.mul_pos hm (Nat.two_pow_pos k)))).2 ⟨?_, ?_⟩
  · rw [Nat.pow_add]
    exact Nat.mul_le_mul_right _ hlow
  · rw [Nat.add_right_comm, Nat.pow_add]
    exact Nat.mul_lt_mul_of_pos_right hhigh (Nat.two_pow_pos k)

theorem log2_div_two_pow (hm : 0 < m) {k : Nat} (hk : k ≤ m.log2) :
    0 < m / 2 ^ k ∧ (m / 2 ^ k).log2 = m.log2 - k := by
  have hlow : 2 ^ (m.log2 - k) ≤ m / 2 ^ k := by
    rw [Nat.le_div_iff_mul_le (Nat.two_pow_pos k), ← Nat.pow_add, Nat.sub_add_cancel hk]
    exact Nat.log2_self_le (Nat.ne_of_gt hm)
  have hhigh : m / 2 ^ k < 2 ^ (m.log2 - k + 1) := by
    rw [Nat.div_lt_iff_lt_mul (Nat.two_pow_pos k), ← Nat.pow_add, Nat.add_right_comm,
      Nat.sub_add_cancel hk]
    exact Nat.lt_log2_self
  have hpos : 0 < m / 2 ^ k := Nat.lt_of_lt_of_le (Nat.two_pow_pos _) hlow
  exact ⟨hpos, (Nat.log2_eq_iff (Nat.ne_of_gt hpos)).2 ⟨hlow, hhigh⟩⟩

theorem targetExponent_eq (m : Nat) (e : Int) :
    Format.binary64.targetExponent (totalExponent m e) = max (m.log2 + e - 52) (-1074) := by
  change max ((m.log2 : Int) + 1 + e - 53) (-1074) = _
  omega

theorem shiftToTargetExponent_eq (m : Nat) (e : Int) (a : Accuracy) :
    shiftToTargetExponent Format.binary64 m e a =
      (ExtendedMantissa.ofMantissaAndAccuracy m a >>>
        (max (m.log2 + e - 52) (-1074) - e).toNat,
        e + (max (m.log2 + e - 52) (-1074) - e).toNat) := by
  rw [shiftToTargetExponent, targetExponent_eq, shiftToExponent]

theorem log2_le_of_bounded (hm : m < 2 ^ 53) : m.log2 ≤ 52 := by
  rcases Nat.eq_zero_or_pos m with rfl | hpos
  · decide
  · exact Nat.le_of_lt_succ ((Nat.log2_lt (Nat.ne_of_gt hpos)).2 hm)

theorem shiftToTargetExponent_of_bounded (hm : m < 2 ^ 53) (he : -1074 ≤ e) :
    shiftToTargetExponent Format.binary64 m e .exact = (⟨m, false, false⟩, e) := by
  have hlog := log2_le_of_bounded hm
  rw [shiftToTargetExponent_eq, show (max ((m.log2 : Int) + e - 52) (-1074) - e).toNat = 0 by omega,
    Int.natCast_zero, Int.add_zero]
  rfl

theorem shiftToTargetExponent_carry (he : -1074 ≤ e) :
    shiftToTargetExponent Format.binary64 (2 ^ 53) e .exact = (⟨2 ^ 52, false, false⟩, e + 1) := by
  rw [shiftToTargetExponent_eq, Nat.log2_two_pow,
    show (max (((53 : Nat) : Int) + e - 52) (-1074) - e).toNat = 1 by omega]
  rfl

/-! ## Rounding -/

theorem roundWithAccuracy_of_lt {em : ExtendedMantissa} {e₁ : Int}
    (hshift : shiftToTargetExponent Format.binary64 m e a = (em, e₁))
    (hpos : 0 < em.roundedMantissa) (hlt : em.roundedMantissa < 2 ^ 53) (he : -1074 ≤ e₁) :
    roundWithAccuracy Format.binary64 s m e a = .finite s em.roundedMantissa e₁ hpos := by
  rw [roundWithAccuracy, hshift]
  dsimp only
  rw [shiftToTargetExponent_of_bounded hlt he]
  exact dif_neg (Nat.ne_of_gt hpos)

theorem roundWithAccuracy_of_carry {em : ExtendedMantissa} {e₁ : Int}
    (hshift : shiftToTargetExponent Format.binary64 m e a = (em, e₁))
    (hcarry : em.roundedMantissa = 2 ^ 53) (he : -1074 ≤ e₁) :
    roundWithAccuracy Format.binary64 s m e a = .finite s (2 ^ 52) (e₁ + 1) (by decide) := by
  rw [roundWithAccuracy, hshift]
  dsimp only
  rw [hcarry, shiftToTargetExponent_carry he]
  rfl

theorem Canonical.log2_add (h : Canonical m e) (hm : 0 < m) :
    max ((m.log2 : Int) + e - 52) (-1074) = e := by
  obtain ⟨hbounded, hleast, hfull⟩ := h
  have hlog := log2_le_of_bounded hbounded
  rcases hfull with rfl | hfull
  · omega
  · have hlog' : 52 ≤ m.log2 := (Nat.le_log2 (Nat.ne_of_gt hm)).2 hfull
    omega

/-- A canonical number with zeros behind its mantissa is rounded to itself. -/
theorem roundWithAccuracy_exact (h : Canonical m e) (hm : 0 < m) (k : Nat) :
    roundWithAccuracy Format.binary64 s (m * 2 ^ k) (e - k) .exact = .finite s m e hm := by
  have hlog : ((m * 2 ^ k).log2 : Int) + (e - k) = m.log2 + e := by
    rw [log2_mul_two_pow hm]
    omega
  have hshift : shiftToTargetExponent Format.binary64 (m * 2 ^ k) (e - k) .exact =
      (⟨m, false, false⟩, e) := by
    rw [shiftToTargetExponent_eq, hlog, h.log2_add hm, show (e - (e - k)).toNat = k by omega,
      ExtendedMantissa.ofMantissaAndAccuracy, shiftRight_exact, Int.sub_add_cancel]
  exact roundWithAccuracy_of_lt hshift hm h.bounded h.least

/-- A number with enough bits, that is not too small, is rounded to a canonical one. Its leading bit
is no smaller. -/
theorem roundWithAccuracy_canonical (hm : 0 < m) (hbits : 52 ≤ m.log2 ∨ e ≤ -1074)
    (hleast : -1074 ≤ m.log2 + e) :
    ∃ m' e', ∃ hm' : 0 < m', roundWithAccuracy Format.binary64 s m e a = .finite s m' e' hm' ∧
      Canonical m' e' ∧ (m.log2 : Int) + e ≤ m'.log2 + e' := by
  have hshift := shiftToTargetExponent_eq m e a
  generalize hk : (max ((m.log2 : Int) + e - 52) (-1074) - e).toNat = k at hshift
  generalize hem : ExtendedMantissa.ofMantissaAndAccuracy m a >>> k = em at hshift
  have hmantissa : em.mantissa = m / 2 ^ k := by
    rw [← hem, mantissa_shiftRight, mantissa_ofMantissaAndAccuracy]
  obtain ⟨hpos, hlog⟩ := log2_div_two_pow hm (show k ≤ m.log2 by omega)
  obtain ⟨hlow, hhigh⟩ := roundedMantissa_bounds em
  rw [hmantissa] at hlow hhigh
  have hbounded : m / 2 ^ k < 2 ^ 53 :=
    (Nat.log2_lt (Nat.ne_of_gt hpos)).1 (by omega)
  have hfull : e + k = -1074 ∨ 2 ^ 52 ≤ m / 2 ^ k :=
    (show e + k = -1074 ∨ 52 ≤ (m / 2 ^ k).log2 by omega).imp_right
      (Nat.le_log2 (Nat.ne_of_gt hpos)).1
  rcases Nat.lt_or_eq_of_le (show em.roundedMantissa ≤ 2 ^ 53 by omega) with hlt | hcarry
  · have hrounded : 0 < em.roundedMantissa := Nat.lt_of_lt_of_le hpos hlow
    refine ⟨em.roundedMantissa, e + k, hrounded,
      roundWithAccuracy_of_lt hshift hrounded hlt (by omega), ⟨hlt, by omega, ?_⟩, ?_⟩
    · exact hfull.imp_right (Nat.le_trans · hlow)
    · have hleading : m.log2 - k ≤ em.roundedMantissa.log2 := by
        rw [← hlog]
        exact log2_mono hpos hlow
      omega
  · refine ⟨2 ^ 52, e + k + 1, by decide, roundWithAccuracy_of_carry hshift hcarry (by omega),
      ⟨by decide, by omega, .inr (Nat.le_refl _)⟩, ?_⟩
    rw [Nat.log2_two_pow]
    have hlong : (m / 2 ^ k).log2 ≤ 52 := log2_le_of_bounded hbounded
    omega

/-- A quotient that is not too small is rounded to a canonical number. -/
theorem div_canonical {m₁ m₂ : Nat} {e₁ e₂ : Int} (h₁ : 0 < m₁) (h₂ : 0 < m₂)
    (hleast : -1000 ≤ (m₁.log2 : Int) + e₁ - (m₂.log2 + e₂)) :
    ∃ m' e', ∃ hm' : 0 < m', UnpackedFloat.div Format.binary64 (.finite .positive m₁ e₁ h₁)
      (.finite .positive m₂ e₂ h₂) = .finite .positive m' e' hm' ∧ Canonical m' e' := by
  have htarget : min (e₁ - e₂)
      (Format.binary64.targetExponent (totalExponent m₁ e₁ - totalExponent m₂ e₂)) =
        min (e₁ - e₂) ((m₁.log2 : Int) + e₁ - (m₂.log2 + e₂) - 53) := by
    change min (e₁ - e₂) (max ((m₁.log2 : Int) + 1 + e₁ - (m₂.log2 + 1 + e₂) - 53) (-1074)) = _
    omega
  have hdiv : UnpackedFloat.div Format.binary64 (.finite .positive m₁ e₁ h₁)
      (.finite .positive m₂ e₂ h₂) = roundWithAccuracy Format.binary64 .positive
        (divCore Format.binary64 m₁ e₁ m₂ e₂).1 (divCore Format.binary64 m₁ e₁ m₂ e₂).2.1
        (divCore Format.binary64 m₁ e₁ m₂ e₂).2.2 := rfl
  rw [hdiv, divCore, htarget]
  dsimp only
  generalize htarget : min (e₁ - e₂) ((m₁.log2 : Int) + e₁ - (m₂.log2 + e₂) - 53) = target
  generalize hk : (e₁ - e₂ - target).toNat = k
  rw [Nat.shiftLeft_eq]
  -- the shifted mantissa has 53 bits more than the divisor
  have hbits : m₂.log2 + 53 ≤ m₁.log2 + k := by omega
  have hquotient : 2 ^ (m₁.log2 + k - (m₂.log2 + 1)) ≤ m₁ * 2 ^ k / m₂ := by
    refine (Nat.le_div_iff_mul_le h₂).2 ?_
    calc 2 ^ (m₁.log2 + k - (m₂.log2 + 1)) * m₂
        ≤ 2 ^ (m₁.log2 + k - (m₂.log2 + 1)) * 2 ^ (m₂.log2 + 1) :=
          Nat.mul_le_mul_left _ (Nat.le_of_lt Nat.lt_log2_self)
      _ = 2 ^ m₁.log2 * 2 ^ k := by
          rw [← Nat.pow_add, ← Nat.pow_add, Nat.sub_add_cancel (by omega)]
      _ ≤ m₁ * 2 ^ k := Nat.mul_le_mul_right _ (Nat.log2_self_le (Nat.ne_of_gt h₁))
  have hpos : 0 < m₁ * 2 ^ k / m₂ := Nat.lt_of_lt_of_le (Nat.two_pow_pos _) hquotient
  have hlog := (Nat.le_log2 (Nat.ne_of_gt hpos)).2 hquotient
  obtain ⟨m', e', hm', hround, hcanonical, -⟩ := roundWithAccuracy_canonical (s := .positive)
    (a := accuracyOfFraction (m₁ * 2 ^ k % m₂) m₂) (e := target) hpos (.inl (by omega)) (by omega)
  exact ⟨m', e', hm', hround, hcanonical⟩

/-! ## Signs -/

theorem HasSign.roundWithAccuracy : HasSign s (roundWithAccuracy Format.binary64 s m e a) := by
  rw [UnpackedFloat.roundWithAccuracy]
  dsimp only
  split <;> rfl

theorem HasSign.normalize {n : Int} (hn : 0 ≤ n) :
    HasSign .positive (normalize Format.binary64 n e .positive) := by
  rw [UnpackedFloat.normalize]
  split
  next hlt => exact absurd (Int.compare_eq_lt.1 hlt) (Int.not_lt.2 hn)
  next => rfl
  next => exact HasSign.roundWithAccuracy

end RaceBook.Double
