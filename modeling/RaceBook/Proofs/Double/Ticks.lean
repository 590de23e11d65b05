import RaceBook.Proofs.Double.Operations

/-!
# Ticks of positive doubles

* `rest` : what is left of a number when its integer part is taken away; `Positive.hasSign_rest` : it
  is not negative;
* `wholeTicks_nonneg` : a positive number of units has no negative number of ticks;
* `wholeTicks_eq_zero_iff` : it has none just when it is at most half a tick;
* `millionths_beq_zero` : no positive number of millionths is zero.
-/

namespace RaceBook.Double

open Float.Model Float.Model.UnpackedFloat

variable {x : Float} {b : Number.Binary} {perUnit : Nat} {t : Int}

def rest (x : Float) (b : Number.Binary) : Float :=
  if b.exponent < 0 then x - Float.ofInt b.truncated else 0.0

theorem wholeTicks_eq_ok :
    wholeTicks perUnit x = .ok t ↔ ∃ b r, Number.reading x = .finite b ∧
      Number.reading (rest x b * Float.ofNat perUnit) = .finite r ∧
      t = b.truncated * perUnit + nearestWhole r := by
  unfold wholeTicks
  cases hx : Number.reading x with
  | nan => simp
  | infinite negative => simp
  | finite b =>
    simp only [Number.Reading.finite.injEq, exists_and_left, exists_eq_left', rest]
    cases Number.reading ((if b.exponent < 0 then x - Float.ofInt b.truncated else 0.0) *
      Float.ofNat perUnit) with
    | nan => simp
    | infinite negative => simp
    | finite r => simp [eq_comm]

/-! ## The integer part -/

/-- A positive number is at least one just when its leading bit is. -/
theorem denominator_le_numerator_iff (hpos : 0 < b.mantissa) :
    b.denominator ≤ b.numerator ↔ 0 ≤ (b.mantissa.log2 : Int) + b.exponent := by
  rw [Number.Binary.numerator, Number.Binary.denominator, Nat.shiftLeft_eq, Nat.shiftLeft_eq,
    Nat.one_mul]
  rcases Int.lt_or_le b.exponent 0 with hfraction | hwhole
  · rw [show b.exponent.toNat = 0 by omega, Nat.pow_zero, Nat.mul_one,
      ← Nat.le_log2 (Nat.ne_of_gt hpos)]
    omega
  · rw [show (-b.exponent).toNat = 0 by omega]
    exact iff_of_true (Nat.mul_pos hpos (Nat.two_pow_pos _)) (by omega)

namespace Positive

theorem truncated_eq (h : Positive x b) : b.truncated = (b.numerator / b.denominator : Nat) := by
  rw [Number.Binary.truncated, h.negative, if_neg Bool.false_ne_true]

theorem hasSign_sub_whole (h : Positive x b) (hfraction : b.exponent < 0) :
    HasSign .positive (UnpackedFloat.sub Format.binary64 (unpacked (Number.reading x))
      (unpacked (Number.reading (Float.ofNat (b.numerator / b.denominator))))) := by
  obtain ⟨⟨hbounded, -, -⟩, -⟩ := canonical_of_reading h.reading
  have hwhole : b.numerator / b.denominator = b.mantissa / 2 ^ (-b.exponent).toNat := by
    rw [Number.Binary.numerator, Number.Binary.denominator, Nat.shiftLeft_eq, Nat.shiftLeft_eq,
      show b.exponent.toNat = 0 by omega, Nat.pow_zero, Nat.mul_one, Nat.one_mul]
  have hle : b.mantissa / 2 ^ (-b.exponent).toNat * 2 ^ (-b.exponent).toNat ≤ b.mantissa :=
    Nat.div_mul_le_self _ _
  rw [hwhole, h.unpacked_eq]
  generalize b.mantissa / 2 ^ (-b.exponent).toNat = whole at hle
  rcases Nat.eq_zero_or_pos whole with rfl | hpos
  · rw [reading_ofNat_zero]
    rfl
  · have hlt : whole < 2 ^ 53 := Nat.lt_of_le_of_lt
      (Nat.le_trans (Nat.le_mul_of_pos_right _ (Nat.two_pow_pos _)) hle) hbounded
    have hlog := log2_le_of_bounded hlt
    rw [(positive_ofNat hpos hlt).unpacked_eq]
    refine HasSign.sub _ _ ?_
    -- both sides count units of the smaller exponent
    change whole * 2 ^ (52 - whole.log2) *
      2 ^ ((whole.log2 : Int) - 52 - min b.exponent ((whole.log2 : Int) - 52)).toNat ≤
        b.mantissa * 2 ^ (b.exponent - min b.exponent ((whole.log2 : Int) - 52)).toNat
    generalize hmin : min b.exponent ((whole.log2 : Int) - 52) = least
    rw [Nat.mul_assoc, ← Nat.pow_add,
      show 52 - whole.log2 + ((whole.log2 : Int) - 52 - least).toNat =
        (-b.exponent).toNat + (b.exponent - least).toNat by omega, Nat.pow_add, ← Nat.mul_assoc]
    exact Nat.mul_le_mul_right _ hle

theorem hasSign_rest (h : Positive x b) :
    HasSign .positive (unpacked (Number.reading (rest x b))) := by
  rw [rest]
  split
  next hfraction =>
    rw [h.truncated_eq, sub_eq]
    exact (h.hasSign_sub_whole hfraction).pack
  next =>
    rw [reading_zero]
    exact hasSign_unpacked.2 rfl

theorem reading_rest (h : Positive x b) (hsmall : b.numerator < b.denominator) :
    Number.reading (rest x b) = .finite b := by
  obtain ⟨hcanonical, hlarge⟩ := canonical_of_reading h.reading
  have hleading := mt (denominator_le_numerator_iff h.pos).2 (Nat.not_le.2 hsmall)
  have hzero : Float.ofInt b.truncated = Float.ofNat 0 := by
    rw [h.truncated_eq, Nat.div_eq_of_lt hsmall]
    rfl
  rw [rest, if_pos (by omega), hzero, sub_eq, reading_ofNat_zero, h.unpacked_eq]
  refine (reading_pack_finite h.pos hcanonical).trans ?_
  rw [if_pos hlarge, isNegative, ← h.negative]

/-! ## Rounding to ticks -/

theorem mul_ofNat (h : Positive x b) (hunit : 0 < perUnit) (hlt : perUnit < 2 ^ 53) :
    ∃ m e, ∃ hm : 0 < m,
      x * Float.ofNat perUnit = .ofModel (.pack (.finite .positive m e hm)) ∧ Canonical m e ∧
        (b.mantissa.log2 : Int) + b.exponent ≤ m.log2 + e := by
  obtain ⟨⟨-, hleast, -⟩, -⟩ := canonical_of_reading h.reading
  have hlog := log2_le_of_bounded hlt
  have hexponent : (ofNatural perUnit).exponent = perUnit.log2 - 52 := rfl
  have hfull : 2 ^ 52 ≤ (ofNatural perUnit).mantissa :=
    (canonical_ofNatural hunit hlt).full.resolve_left (by omega)
  have hbits : b.mantissa.log2 + 52 ≤ (b.mantissa * (ofNatural perUnit).mantissa).log2 := by
    rw [← log2_mul_two_pow h.pos]
    exact log2_mono (Nat.mul_pos h.pos (Nat.two_pow_pos 52)) (Nat.mul_le_mul_left _ hfull)
  rw [h.mul (positive_ofNat hunit hlt)]
  obtain ⟨m, e, hm, hround, hcanonical, hleading⟩ := roundWithAccuracy_canonical (s := .positive)
    (a := .exact) (e := b.exponent + (ofNatural perUnit).exponent)
    (Nat.mul_pos h.pos (ofNatural_pos hunit)) (.inl (by omega)) (by omega)
  exact ⟨m, e, hm, congrArg (Float.ofModel ∘ Float.Model.pack) hround, hcanonical, by omega⟩

end Positive

theorem nearestWhole_of_positive {r : Number.Binary} (h : Positive x b) (hlt : perUnit < 2 ^ 53)
    (hr : Number.reading (rest x b * Float.ofNat perUnit) = .finite r) :
    nearestWhole r = (Number.roundedQuotient r.numerator r.denominator : Nat) := by
  rw [nearestWhole, negative_of_mul h.hasSign_rest (hasSign_ofNat hlt) hr,
    if_neg Bool.false_ne_true]

theorem wholeTicks_nonneg (hlt : perUnit < 2 ^ 53) (h : ¬x ≤ 0.0)
    (ht : wholeTicks perUnit x = .ok t) : 0 ≤ t := by
  obtain ⟨b, r, hx, hr, rfl⟩ := wholeTicks_eq_ok.1 ht
  have hpositive := Positive.of_not_le_zero h hx
  rw [hpositive.truncated_eq, nearestWhole_of_positive hpositive hlt hr]
  exact Int.add_nonneg (Int.mul_nonneg (Int.natCast_nonneg _) (Int.natCast_nonneg _))
    (Int.natCast_nonneg _)

theorem roundedQuotient_eq_zero {n d : Nat} (hd : 0 < d) :
    Number.roundedQuotient n d = 0 ↔ 2 * n ≤ d := by
  constructor
  · intro h
    have hle := Number.le_two_mul_roundedQuotient n d hd
    rwa [h, Nat.mul_zero, Nat.mul_zero, Nat.zero_add] at hle
  · intro h
    have hn : n < d := by omega
    unfold Number.roundedQuotient
    dsimp only
    rw [Nat.div_eq_of_lt hn, Nat.mod_eq_of_lt hn, if_pos (Nat.zero_mod 2)]
    split
    · rfl
    · exact if_neg (by omega)

theorem not_le_half (h : Positive x b) (hunit : 0 < perUnit) (hlt : perUnit < 2 ^ 53)
    (hwhole : b.denominator ≤ b.numerator) : ¬x * Float.ofNat perUnit ≤ 0.5 := by
  obtain ⟨m, e, hm, hproduct, hcanonical, hleading⟩ := h.mul_ofNat hunit hlt
  rw [hproduct]
  rcases positive_or_infinite hm hcanonical with hpositive | hinfinite
  · have hone := (denominator_le_numerator_iff hpositive.pos).2
      (Int.le_trans ((denominator_le_numerator_iff h.pos).1 hwhole) hleading)
    have hdenominator := Number.Binary.denominator_pos ⟨false, m, e⟩
    rw [hpositive.le_half_iff]
    omega
  · exact not_le_half_of_infinite hinfinite

/-- A positive number of units has no ticks just when it is at most half a tick. -/
theorem wholeTicks_eq_zero_iff (hunit : 0 < perUnit) (hlt : perUnit < 2 ^ 53) (h : ¬x ≤ 0.0)
    (ht : wholeTicks perUnit x = .ok t) : t = 0 ↔ x * Float.ofNat perUnit ≤ 0.5 := by
  obtain ⟨b, r, hx, hr, rfl⟩ := wholeTicks_eq_ok.1 ht
  have hpositive := Positive.of_not_le_zero h hx
  rw [hpositive.truncated_eq, nearestWhole_of_positive hpositive hlt hr]
  rcases Nat.lt_or_ge b.numerator b.denominator with hsmall | hwhole
  · -- nothing is taken away, and what is rounded is the product itself
    have hsame : rest x b * Float.ofNat perUnit = x * Float.ofNat perUnit := by
      rw [mul_eq, hpositive.reading_rest hsmall, mul_eq, hx]
    rw [hsame] at hr
    have hproduct : Positive (x * Float.ofNat perUnit) r := by
      obtain ⟨m, e, hm, hpack, hcanonical, -⟩ := hpositive.mul_ofNat hunit hlt
      rw [hpack] at hr ⊢
      rcases positive_or_infinite hm hcanonical with hfinite | hinfinite
      · cases hfinite.reading.symm.trans hr
        exact hfinite
      · cases hinfinite.symm.trans hr
    rw [hproduct.le_half_iff, Nat.div_eq_of_lt hsmall,
      ← roundedQuotient_eq_zero (Number.Binary.denominator_pos _)]
    omega
  · refine iff_of_false (fun hzero => ?_) (not_le_half hpositive hunit hlt hwhole)
    have hticks : 0 < b.numerator / b.denominator * perUnit :=
      Nat.mul_pos (Nat.div_pos hwhole (Number.Binary.denominator_pos _)) hunit
    omega

/-! ## Millionths -/

theorem ofScientific_millionths {n : Nat} (hpos : 0 < n) :
    ∃ m₁ m₂ e₁ e₂, ∃ (h₁ : 0 < m₁) (h₂ : 0 < m₂), Float.ofScientific n true 6 =
      .ofModel (.pack (UnpackedFloat.div Format.binary64 (.finite .positive m₁ e₁ h₁)
        (.finite .positive m₂ e₂ h₂))) ∧
      -1000 ≤ (m₁.log2 : Int) + e₁ - (m₂.log2 + e₂) := by
  rw [Float.ofScientific]
  by_cases hlt : n < 2 ^ 53
  · have hmillion : Positive Float.exactlyRepresentablePowersOfTen[6]
        ⟨false, 1000000 * 2 ^ 33, -33⟩ := ⟨by decide +kernel, rfl, by decide⟩
    refine ⟨n * 2 ^ (52 - n.log2), 1000000 * 2 ^ 33, n.log2 - 52, -33, ofNatural_pos hpos,
      hmillion.pos, ?_, ?_⟩
    · rw [dif_pos ⟨hlt, by decide⟩]
      dsimp only
      rw [if_pos rfl, div_eq, hmillion.unpacked_eq, (positive_toFloat hpos hlt).unpacked_eq]
      rfl
    · rw [log2_mul_two_pow hpos, show Nat.log2 (1000000 * 2 ^ 33) = 52 by decide +kernel]
      omega
  · refine ⟨n, 1000000, 0, 0, hpos, by decide, ?_, ?_⟩
    · have hscale : ¬Int.negOfNat 6 < -((2 ^ 11 : Int) + n.log2) := by
        change ¬(-6 : Int) < _
        omega
      rw [dif_neg (fun h => hlt h.1)]
      change Float.ofModel (.pack (UnpackedFloat.ofScientific Format.binary64 n (Int.negOfNat 6))) = _
      rw [UnpackedFloat.ofScientific, dif_neg (Nat.ne_of_gt hpos), if_neg (by decide),
        if_neg hscale, if_neg (by decide)]
      rfl
    · rw [show Nat.log2 1000000 = 19 by decide +kernel]
      omega

theorem millionths_beq_zero (ht : 0 < t) : (millionths t == 0.0) = false := by
  obtain ⟨m₁, m₂, e₁, e₂, h₁, h₂, hquotient, hleast⟩ :=
    ofScientific_millionths (n := t.natAbs) (by omega)
  obtain ⟨m, e, hm, hdiv, hcanonical⟩ := div_canonical h₁ h₂ hleast
  rw [millionths, if_neg (by omega), hquotient, hdiv]
  rcases positive_or_infinite hm hcanonical with hpositive | hinfinite
  · exact hpositive.beq_zero
  · exact beq_zero_of_infinite hinfinite

theorem millionths_zero : (millionths 0 == 0.0) = true := by decide +kernel

end RaceBook.Double
