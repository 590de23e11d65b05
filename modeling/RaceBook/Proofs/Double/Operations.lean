import RaceBook.Proofs.Double.Rounding

/-!
# Operations on doubles

* `add_eq`, `mul_eq`, `sub_eq`, `div_eq` : operations on unpacked numbers;
* `positive_ofNat` : a natural number of at most 53 bits is a double, with its exact value;
* `Positive.mul` : the product of positive numbers is rounded;
* `HasSign.mul`, `HasSign.sub` : when a product and a difference are not negative.
-/

namespace RaceBook.Double

open Float.Model Float.Model.UnpackedFloat

variable {x y : Float} {b c : Number.Binary} {n : Nat}

theorem add_eq (x y : Float) :
    x + y = .ofModel (.pack (UnpackedFloat.add Format.binary64 (unpacked (Number.reading x))
      (unpacked (Number.reading y)))) := by
  rw [← unpack_toModel, ← unpack_toModel]
  rfl

theorem mul_eq (x y : Float) :
    x * y = .ofModel (.pack (UnpackedFloat.mul Format.binary64 (unpacked (Number.reading x))
      (unpacked (Number.reading y)))) := by
  rw [← unpack_toModel, ← unpack_toModel]
  rfl

theorem sub_eq (x y : Float) :
    x - y = .ofModel (.pack (UnpackedFloat.sub Format.binary64 (unpacked (Number.reading x))
      (unpacked (Number.reading y)))) := by
  rw [← unpack_toModel, ← unpack_toModel]
  rfl

theorem div_eq (x y : Float) :
    x / y = .ofModel (.pack (UnpackedFloat.div Format.binary64 (unpacked (Number.reading x))
      (unpacked (Number.reading y)))) := by
  rw [← unpack_toModel, ← unpack_toModel]
  rfl

theorem Positive.mul (hx : Positive x b) (hy : Positive y c) :
    x * y = .ofModel (.pack (roundWithAccuracy Format.binary64 .positive
      (b.mantissa * c.mantissa) (b.exponent + c.exponent) .exact)) := by
  rw [mul_eq, hx.unpacked_eq, hy.unpacked_eq]
  rfl

/-! ## Natural numbers -/

/-- A natural number with the zeros behind it that fill a mantissa. -/
def ofNatural (n : Nat) : Number.Binary := ⟨false, n * 2 ^ (52 - n.log2), n.log2 - 52⟩

theorem ofNatural_pos (hpos : 0 < n) : 0 < (ofNatural n).mantissa :=
  Nat.mul_pos hpos (Nat.two_pow_pos _)

theorem canonical_ofNatural (hpos : 0 < n) (hn : n < 2 ^ 53) :
    Canonical (ofNatural n).mantissa (ofNatural n).exponent := by
  have hlog := log2_le_of_bounded hn
  have hlow : 2 ^ n.log2 ≤ n := Nat.log2_self_le (Nat.ne_of_gt hpos)
  have hhigh : n < 2 ^ (n.log2 + 1) := Nat.lt_log2_self
  refine ⟨?_, show -1074 ≤ (n.log2 : Int) - 52 by omega, .inr ?_⟩
  · calc n * 2 ^ (52 - n.log2) < 2 ^ (n.log2 + 1) * 2 ^ (52 - n.log2) :=
          Nat.mul_lt_mul_of_pos_right hhigh (Nat.two_pow_pos _)
      _ = 2 ^ 53 := by rw [← Nat.pow_add]; congr 1; omega
  · calc 2 ^ 52 = 2 ^ n.log2 * 2 ^ (52 - n.log2) := by rw [← Nat.pow_add]; congr 1; omega
      _ ≤ n * 2 ^ (52 - n.log2) := Nat.mul_le_mul_right _ hlow

/-- What is packed of a canonical natural number is that number. -/
theorem positive_pack_ofNatural (hpos : 0 < n) (hn : n < 2 ^ 53) :
    Positive (.ofModel (.pack (.finite .positive (ofNatural n).mantissa (ofNatural n).exponent
      (ofNatural_pos hpos)))) (ofNatural n) := by
  have hlog := log2_le_of_bounded hn
  have hlarge : (ofNatural n).exponent ≤ 971 := show (n.log2 : Int) - 52 ≤ 971 by omega
  refine ⟨?_, rfl, ofNatural_pos hpos⟩
  rw [reading_pack_finite (ofNatural_pos hpos) (canonical_ofNatural hpos hn), if_pos hlarge]
  rfl

theorem round_natural (hpos : 0 < n) (hn : n < 2 ^ 53) :
    UnpackedFloat.ofNat Format.binary64 n =
      .finite .positive (ofNatural n).mantissa (ofNatural n).exponent (ofNatural_pos hpos) := by
  have hlog := log2_le_of_bounded hn
  rw [UnpackedFloat.ofNat, UnpackedFloat.ofInt, UnpackedFloat.normalize,
    Int.compare_eq_gt.2 (Int.natCast_pos.2 hpos)]
  dsimp only
  rw [UnpackedFloat.round, Int.toNat_natCast, targetExponent_eq, decreaseExponent]
  dsimp only
  rw [show (0 - max ((n.log2 : Int) + 0 - 52) (-1074)).toNat = 52 - n.log2 by omega,
    Nat.shiftLeft_eq, show (0 : Int) - ((52 - n.log2 : Nat) : Int) = n.log2 - 52 by omega]
  have hexact := roundWithAccuracy_exact (s := .positive) (canonical_ofNatural hpos hn)
    (ofNatural_pos hpos) 0
  rwa [Nat.pow_zero, Nat.mul_one, Int.natCast_zero, Int.sub_zero] at hexact

theorem positive_toFloat (hpos : 0 < n) (hn : n < 2 ^ 53) :
    Positive n.toUInt64.toFloat (ofNatural n) := by
  have hsame : n.toUInt64.toNat = n := Nat.mod_eq_of_lt (Nat.lt_trans hn (by decide))
  have hfloat : n.toUInt64.toFloat =
      .ofModel (.pack (UnpackedFloat.ofNat Format.binary64 n.toUInt64.toNat)) := rfl
  rw [hfloat, hsame, round_natural hpos hn]
  exact positive_pack_ofNatural hpos hn

theorem positive_ofNat (hpos : 0 < n) (hn : n < 2 ^ 53) :
    Positive (Float.ofNat n) (ofNatural n) := by
  have hone : Positive Float.exactlyRepresentablePowersOfTen[0] ⟨false, 2 ^ 52, -52⟩ :=
    ⟨by decide +kernel, rfl, by decide⟩
  have hproduct : Float.ofNat n =
      n.toUInt64.toFloat * Float.exactlyRepresentablePowersOfTen[0] := by
    change Float.ofScientific n false 0 = _
    rw [Float.ofScientific, dif_pos ⟨hn, by decide⟩]
    rfl
  have hexact := roundWithAccuracy_exact (s := .positive) (canonical_ofNatural hpos hn)
    (ofNatural_pos hpos) 52
  rw [hproduct, (positive_toFloat hpos hn).mul hone]
  exact (congrArg (fun u => Positive (.ofModel (.pack u)) (ofNatural n)) hexact).mpr
    (positive_pack_ofNatural hpos hn)

theorem reading_ofNat_zero : Number.reading (Float.ofNat 0) = .finite ⟨false, 0, -1074⟩ := by
  decide +kernel

/-! ## Signs -/

theorem hasSign_ofNat (hn : n < 2 ^ 53) :
    HasSign .positive (unpacked (Number.reading (Float.ofNat n))) := by
  rcases Nat.eq_zero_or_pos n with rfl | hpos
  · rw [reading_ofNat_zero]
    exact hasSign_unpacked.2 rfl
  · exact (positive_ofNat hpos hn).hasSign

theorem HasSign.mul {u v : UnpackedFloat} (hu : HasSign .positive u) (hv : HasSign .positive v) :
    UnpackedFloat.mul Format.binary64 u v = .notANumber ∨
      HasSign .positive (UnpackedFloat.mul Format.binary64 u v) := by
  cases u <;> cases v <;> cases hu <;> cases hv
  case finite.finite => exact .inr HasSign.roundWithAccuracy
  all_goals first | exact .inr rfl | exact .inl rfl

theorem negative_of_mul (hx : HasSign .positive (unpacked (Number.reading x)))
    (hy : HasSign .positive (unpacked (Number.reading y)))
    (hb : Number.reading (x * y) = .finite b) : b.negative = false := by
  have hnan : Number.reading (.ofModel (.pack .notANumber)) = .nan := by decide +kernel
  rw [mul_eq] at hb
  rcases hx.mul hy with hmul | hmul
  · rw [hmul, hnan] at hb
    cases hb
  · have hsign := hmul.pack
    rw [hb] at hsign
    exact hasSign_unpacked.1 hsign

theorem HasSign.sub {m₁ m₂ : Nat} {e₁ e₂ : Int} (h₁ : 0 < m₁) (h₂ : 0 < m₂)
    (hle : m₂ * 2 ^ (e₂ - min e₁ e₂).toNat ≤ m₁ * 2 ^ (e₁ - min e₁ e₂).toNat) :
    HasSign .positive (UnpackedFloat.sub Format.binary64 (.finite .positive m₁ e₁ h₁)
      (.finite .positive m₂ e₂ h₂)) := by
  rw [← Nat.shiftLeft_eq, ← Nat.shiftLeft_eq] at hle
  exact HasSign.normalize (Int.sub_nonneg_of_le (Int.ofNat_le.2 hle))

end RaceBook.Double
