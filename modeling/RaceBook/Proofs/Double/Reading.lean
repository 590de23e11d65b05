import Mathlib
import RaceBook.Arithmetic.Double

/-!
# Doubles, read and unpacked

A double is computed with in its unpacked form, and told by its exact reading.

* `unpacked` : the unpacked form of a reading; `unpack_toModel` : a double, unpacked, is that of its
  reading;
* `Canonical` : mantissas and exponents as doubles have them; `canonical_of_reading`;
* `reading_pack_finite` : a canonical number is read as it was packed, unless it is too large;
* `HasSign` : the sign of an unpacked number; `HasSign.pack` : packing keeps it;
* `Positive` : a double that is a positive number; `Positive.of_not_le_zero`,
  `Positive.le_half_iff`, `Positive.beq_zero` : its comparisons with fixed numbers.
-/

namespace RaceBook.Double

open Float.Model Float.Model.UnpackedFloat

/-! ## Unpacking -/

theorem toNat_unpackMantissa (v : BitVec Format.binary64.numBits) :
    (unpackMantissa v).toNat = v.toNat % 2 ^ 52 := by
  simp [unpackMantissa]

theorem toNat_unpackExponent (v : BitVec Format.binary64.numBits) :
    (unpackExponent v).toNat = (v.toNat >>> 52) % 2048 := by
  simp [unpackExponent]

theorem toNat_unpackSign (v : BitVec Format.binary64.numBits) :
    (unpackSign v).toNat = (v.toNat >>> 63) % 2 := by
  simp [unpackSign]

def signOf (negative : Bool) : Sign := if negative then .negative else .positive

def isNegative : Sign → Bool
  | .negative => true
  | .positive => false

theorem signOf_isNegative (s : Sign) : signOf (isNegative s) = s := by cases s <;> rfl

/-- The unpacked form of what is read off a double. -/
def unpacked : Number.Reading → UnpackedFloat
  | .nan => .notANumber
  | .infinite negative => .infinity (signOf negative)
  | .finite b =>
    if h : b.mantissa = 0 then .zero (signOf b.negative)
    else .finite (signOf b.negative) b.mantissa b.exponent (Nat.pos_of_ne_zero h)

theorem ofBitVec_unpackSign (v : BitVec Format.binary64.numBits) :
    Sign.ofBitVec (unpackSign v) = signOf ((v.toNat >>> 63) % 2 == 1) := by
  have hsign := toNat_unpackSign v
  rcases Nat.mod_two_eq_zero_or_one (v.toNat >>> 63) with h | h
  · have hv : unpackSign v = 0#1 := BitVec.eq_of_toNat_eq (hsign.trans h)
    rw [hv, h]
    rfl
  · have hv : unpackSign v = 1#1 := BitVec.eq_of_toNat_eq (hsign.trans h)
    rw [hv, h]
    rfl

theorem unpack_eq (v : BitVec Format.binary64.numBits) :
    UnpackedFloat.unpack Format.binary64 v = unpacked (Number.readingOfBits v.toNat) := by
  have hmantissa := toNat_unpackMantissa v
  have hexponent := toNat_unpackExponent v
  have hones : unpackExponent v = -1#_ ↔ (v.toNat >>> 52) % 2048 = 2047 := by
    rw [← BitVec.toNat_inj, hexponent]
    rfl
  have hzeros : unpackExponent v = 0#_ ↔ (v.toNat >>> 52) % 2048 = 0 := by
    rw [← BitVec.toNat_inj, hexponent]
    rfl
  have hnone : unpackMantissa v = 0#_ ↔ v.toNat % Number.leadingOne = 0 := by
    rw [← BitVec.toNat_inj, hmantissa]
    rfl
  have hone : (1#1 ++ unpackMantissa v).toNat = Number.leadingOne + v.toNat % Number.leadingOne := by
    rw [BitVec.toNat_append, ← Nat.shiftLeft_add_eq_or_of_lt (unpackMantissa v).isLt, hmantissa]
    rfl
  unfold UnpackedFloat.unpack Number.readingOfBits
  dsimp only
  rw [ofBitVec_unpackSign v]
  by_cases hall : unpackExponent v = -1#_
  · rw [if_pos hall, if_pos (hones.1 hall)]
    by_cases hm : unpackMantissa v = 0#_
    · rw [if_pos hm, if_pos (hnone.1 hm)]
      rfl
    · rw [if_neg hm, if_neg (mt hnone.2 hm)]
      rfl
  · rw [if_neg hall, if_neg (mt hones.2 hall)]
    by_cases hsub : unpackExponent v = 0#_
    · rw [if_pos hsub, if_pos (hzeros.1 hsub)]
      by_cases hm : unpackMantissa v = 0#_
      · rw [dif_pos hm, unpacked, dif_pos (hnone.1 hm)]
      · rw [dif_neg hm, unpacked, dif_neg (mt hnone.2 hm)]
        simp only [hmantissa, hsub]
        rfl
    · rw [if_neg hsub, if_neg (mt hzeros.2 hsub), unpacked,
        dif_neg (Nat.ne_of_gt (Nat.add_pos_left (by decide) _))]
      simp only [hone, hexponent]
      rfl

/-- A double, unpacked, is what it is read as. -/
theorem unpack_toModel (x : Float) : x.toModel.unpack = unpacked (Number.reading x) :=
  unpack_eq x.toModel.toBits.toBitVec

/-! ## Packing -/

theorem unpackSign_packComponents {spec : Format} (s : Sign) (e : BitVec spec.exponentBits)
    (m : BitVec spec.mantissaBitsWithoutImplicit) :
    unpackSign (packComponents spec s e m) = s.toBitVec := by
  ext i hi
  obtain rfl : i = 0 := by omega
  simp [unpackSign, packComponents, BitVec.getLsbD_append, BitVec.getElem_append]

theorem readingOfBits_packComponents (s : Sign) (e : BitVec 11) (m : BitVec 52) :
    Number.readingOfBits (packComponents Format.binary64 s e m).toNat =
      if e.toNat = 2047 then if m.toNat = 0 then .infinite (isNegative s) else .nan
      else if e.toNat = 0 then .finite ⟨isNegative s, m.toNat, -1074⟩
      else .finite ⟨isNegative s, Number.leadingOne + m.toNat, e.toNat - 1075⟩ := by
  have hmantissa := toNat_unpackMantissa (packComponents Format.binary64 s e m)
  have hexponent := toNat_unpackExponent (packComponents Format.binary64 s e m)
  rw [unpackMantissa_packComponents] at hmantissa
  rw [unpackExponent_packComponents] at hexponent
  have hsign : ((packComponents Format.binary64 s e m).toNat >>> 63 % 2 == 1) = isNegative s := by
    rw [← toNat_unpackSign, unpackSign_packComponents]
    cases s <;> rfl
  unfold Number.readingOfBits
  dsimp only
  rw [hsign, ← hexponent,
    show (packComponents Format.binary64 s e m).toNat % Number.leadingOne = m.toNat from
      hmantissa.symm]

/-- A mantissa and an exponent as doubles have them: the mantissa has all of its bits, unless the
exponent is the least one. -/
structure Canonical (mantissa : Nat) (exponent : Int) : Prop where
  bounded : mantissa < 2 ^ 53
  least : -1074 ≤ exponent
  full : exponent = -1074 ∨ 2 ^ 52 ≤ mantissa

theorem canonical_of_reading {x : Float} {b : Number.Binary} (h : Number.reading x = .finite b) :
    Canonical b.mantissa b.exponent ∧ b.exponent ≤ 971 := by
  have hfraction : x.toBits.toNat % Number.leadingOne < 2 ^ 52 := Nat.mod_lt _ (by decide)
  have hone : Number.leadingOne = 2 ^ 52 := rfl
  unfold Number.reading Number.readingOfBits at h
  dsimp only at h
  split at h
  · split at h <;> cases h
  · split at h
    · cases h
      exact ⟨⟨Nat.lt_trans hfraction (by decide), Int.le_refl _, .inl rfl⟩,
        show (-1074 : Int) ≤ 971 by decide⟩
    · cases h
      refine ⟨⟨?_, ?_, .inr ?_⟩, ?_⟩ <;> dsimp only <;> omega

theorem reading_pack (u : UnpackedFloat) :
    Number.reading (.ofModel (.pack u)) =
      Number.readingOfBits (UnpackedFloat.pack Format.binary64 u).toNat := rfl

/-- The bits of an exponent. -/
theorem biasedExponent_eq (e : Int) :
    (e + Format.binary64.exponentBias + Format.binary64.mantissaBitsWithoutImplicit).toNat =
      (e + 1075).toNat :=
  congrArg Int.toNat (Int.add_assoc e 1023 52)

/-- A canonical number is read off the double that it is packed into, unless it is too large. -/
theorem reading_pack_finite {s : Sign} {m : Nat} {e : Int} (hm : 0 < m) (h : Canonical m e) :
    Number.reading (.ofModel (.pack (.finite s m e hm))) =
      if e ≤ 971 then .finite ⟨isNegative s, m, e⟩ else .infinite (isNegative s) := by
  obtain ⟨hbounded, hleast, hfull⟩ := h
  rw [reading_pack, UnpackedFloat.pack]
  dsimp only
  rw [biasedExponent_eq]
  by_cases hlarge : e ≤ 971
  · rw [if_pos hlarge, if_neg (show ¬2 ^ 11 ≤ (e + 1075).toNat + 1 by omega)]
    by_cases hall : 2 ^ 52 ≤ m
    · have hlog : m.log2 = 52 := (Nat.log2_eq_iff (by omega)).2 ⟨hall, hbounded⟩
      have hexponent : (BitVec.ofNat 11 (e + 1075).toNat).toNat = (e + 1075).toNat :=
        Nat.mod_eq_of_lt (by omega)
      have hmantissa : (BitVec.ofNat 52 m).toNat + Number.leadingOne = m := by
        change m % 2 ^ 52 + 2 ^ 52 = m
        omega
      rw [if_pos (by rw [hlog]; rfl)]
      refine (readingOfBits_packComponents s _ _).trans ?_
      rw [hexponent, if_neg (by omega), if_neg (by omega), Nat.add_comm, hmantissa,
        show ((e + 1075).toNat : Int) - 1075 = e by omega]
    · have hlog : m.log2 < 52 := (Nat.log2_lt (by omega)).2 (by omega)
      have hmantissa : (BitVec.ofNat 52 m).toNat = m := Nat.mod_eq_of_lt (by omega)
      have hshort : ¬m.log2 + 1 = Format.binary64.mantissaBits := by
        change ¬m.log2 + 1 = 53
        omega
      rw [if_neg hshort]
      refine (readingOfBits_packComponents s _ _).trans ?_
      rw [hmantissa, hfull.resolve_right hall]
      rfl
  · rw [if_neg hlarge, if_pos (show 2 ^ 11 ≤ (e + 1075).toNat + 1 by omega)]
    exact readingOfBits_packComponents s (-1#11) 0#52

/-! ## Signs -/

def HasSign (s : Sign) : UnpackedFloat → Prop
  | .notANumber => False
  | .infinity t => t = s
  | .zero t => t = s
  | .finite t _ _ _ => t = s

theorem hasSign_unpacked {s : Sign} {b : Number.Binary} :
    HasSign s (unpacked (.finite b)) ↔ b.negative = isNegative s := by
  have hsign : signOf b.negative = s ↔ b.negative = isNegative s := by
    cases b.negative <;> cases s <;> simp [signOf, isNegative]
  rw [unpacked, ← hsign]
  split <;> rfl

theorem HasSign.pack {s : Sign} {u : UnpackedFloat} (h : HasSign s u) :
    HasSign s (unpacked (Number.reading (.ofModel (.pack u)))) := by
  have hinfinity : HasSign s (unpacked (Number.readingOfBits (packedInfinity Format.binary64 s).toNat)) :=
    (congrArg (HasSign s ∘ unpacked) (readingOfBits_packComponents s (-1#11) 0#52)).mpr
      (signOf_isNegative s)
  have hfinite : ∀ (e : BitVec 11) (m : BitVec 52), e.toNat ≠ 2047 →
      HasSign s (unpacked (Number.readingOfBits (packComponents Format.binary64 s e m).toNat)) := by
    intro e m he
    rw [readingOfBits_packComponents, if_neg he]
    split <;> exact hasSign_unpacked.2 rfl
  rw [reading_pack]
  cases u with
  | notANumber => exact h.elim
  | infinity t =>
    cases h
    exact hinfinity
  | zero t =>
    cases h
    exact hfinite 0#11 0#52 (by decide)
  | finite t m e hm =>
    cases h
    rw [UnpackedFloat.pack]
    dsimp only
    rw [biasedExponent_eq]
    split
    next => exact hinfinity
    next hsmall =>
      have hlt : (e + 1075).toNat + 1 < 2 ^ 11 := Nat.not_le.1 hsmall
      have hexponent : (BitVec.ofNat 11 (e + 1075).toNat).toNat = (e + 1075).toNat :=
        Nat.mod_eq_of_lt (by omega)
      split
      · exact hfinite (BitVec.ofNat 11 (e + 1075).toNat) _ (by omega)
      · exact hfinite 0#11 _ (by decide)

/-! ## Comparisons -/

theorem le_iff {x y : Float} :
    x ≤ y ↔ (unpacked (Number.reading x)).le (unpacked (Number.reading y)) = true := by
  rw [← unpack_toModel, ← unpack_toModel]
  exact decide_eq_true_iff

theorem beq_eq (x y : Float) :
    (x == y) = (unpacked (Number.reading x)).beq (unpacked (Number.reading y)) := by
  rw [← unpack_toModel, ← unpack_toModel]
  rfl

theorem reading_zero : Number.reading 0.0 = .finite ⟨false, 0, -1074⟩ := by decide +kernel

/-! ## Positive numbers -/

structure Positive (x : Float) (b : Number.Binary) : Prop where
  reading : Number.reading x = .finite b
  negative : b.negative = false
  pos : 0 < b.mantissa

/-- What is packed of a positive canonical number is that number, or it is infinite. -/
theorem positive_or_infinite {m : Nat} {e : Int} (hm : 0 < m) (h : Canonical m e) :
    Positive (.ofModel (.pack (.finite .positive m e hm))) ⟨false, m, e⟩ ∨
      Number.reading (.ofModel (.pack (.finite .positive m e hm))) = .infinite false := by
  have hread := reading_pack_finite (s := .positive) hm h
  split at hread
  next => exact .inl ⟨hread, rfl, hm⟩
  next => exact .inr hread

namespace Positive

variable {x : Float} {b : Number.Binary}

theorem of_not_le_zero (h : ¬x ≤ 0.0) (hx : Number.reading x = .finite b) : Positive x b := by
  rw [le_iff, hx, reading_zero, unpacked] at h
  split at h
  next => exact absurd rfl h
  next hne =>
    cases hnegative : b.negative with
    | true =>
      rw [hnegative] at h
      exact absurd rfl h
    | false => exact ⟨hx, hnegative, Nat.pos_of_ne_zero hne⟩

theorem unpacked_eq (h : Positive x b) :
    unpacked (Number.reading x) = .finite .positive b.mantissa b.exponent h.pos := by
  rw [h.reading, unpacked, dif_neg (Nat.ne_of_gt h.pos)]
  simp only [h.negative]
  rfl

theorem hasSign (h : Positive x b) : HasSign .positive (unpacked (Number.reading x)) := by
  rw [h.unpacked_eq]
  rfl

theorem half : Positive 0.5 ⟨false, 2 ^ 52, -53⟩ := ⟨by decide +kernel, rfl, by decide⟩

theorem le_half_iff (h : Positive x b) : x ≤ 0.5 ↔ 2 * b.numerator ≤ b.denominator := by
  obtain ⟨⟨hbounded, hleast, hfull⟩, -⟩ := canonical_of_reading h.reading
  rw [le_iff, h.unpacked_eq, half.unpacked_eq]
  change (Option.some ((compare b.exponent (-53)).then (compare b.mantissa (2 ^ 52)))).any (·.isLE) =
    true ↔ _
  rw [Option.any_some, Number.Binary.numerator, Number.Binary.denominator, Nat.shiftLeft_eq,
    Nat.shiftLeft_eq, Nat.one_mul]
  rcases Int.lt_trichotomy b.exponent (-53) with hlt | heq | hgt
  · -- with a smaller exponent it is less than one half
    have hdenominator : 2 ^ 54 ≤ 2 ^ (-b.exponent).toNat :=
      Nat.pow_le_pow_right (by decide) (by omega)
    rw [Int.compare_eq_lt.2 hlt, show b.exponent.toNat = 0 by omega, Nat.pow_zero, Nat.mul_one]
    exact iff_of_true rfl (by omega)
  · rw [heq, Int.compare_eq_eq.2 rfl, Ordering.eq_then, Nat.isLE_compare]
    change b.mantissa ≤ 2 ^ 52 ↔ 2 * (b.mantissa * 2 ^ 0) ≤ 2 ^ 53
    omega
  · have hall : 2 ^ 52 ≤ b.mantissa := hfull.resolve_left (by omega)
    rw [Int.compare_eq_gt.2 hgt]
    refine iff_of_false Bool.false_ne_true (Nat.not_le.2 ?_)
    have hnumerator : b.mantissa ≤ b.mantissa * 2 ^ b.exponent.toNat :=
      Nat.le_mul_of_pos_right _ (Nat.two_pow_pos _)
    have hdenominator : 2 ^ (-b.exponent).toNat ≤ 2 ^ 52 :=
      Nat.pow_le_pow_right (by decide) (by omega)
    omega

theorem beq_zero (h : Positive x b) : (x == 0.0) = false := by
  rw [beq_eq, reading_zero, h.unpacked_eq]
  rfl

end Positive

/-! ## Infinities -/

theorem not_le_half_of_infinite {x : Float} (hx : Number.reading x = .infinite false) :
    ¬x ≤ 0.5 := by
  rw [le_iff, hx, Positive.half.unpacked_eq]
  exact Bool.false_ne_true

theorem beq_zero_of_infinite {x : Float} (hx : Number.reading x = .infinite false) :
    (x == 0.0) = false := by
  rw [beq_eq, hx, reading_zero]
  rfl

end RaceBook.Double
