import Mathlib.Algebra.Order.Field.Basic
import Mathlib.Algebra.Order.Field.Rat
import Mathlib.Data.Rat.Sqrt
import Mathlib.Tactic.Linarith
import Mathlib.Tactic.NormNum
import RaceBook.Arithmetic
import RaceBook.Number.Decimal

/-!
# Exact numbers

Ratings can be computed with the numbers of an ordered field, where no operation rounds.

* `ExactNumbers` : an ordered field with an exponential and its logarithm;
* `ExactNumbers.arithmetic` : the arithmetic of these numbers, with a fault where an operation has no
  value; `ExactNumbers.quotient_eq`, `ExactNumbers.log_eq` : where two of them have one;
* `ExactNumbers.hyperbolic` : the fractions are such numbers, with an exponential that follows a line
  to the right of zero and a hyperbola to the left of it; in the scope `Fractions` they are what
  ratings are computed with.
-/

namespace RaceBook

/-- An ordered field with an increasing exponential, whose values are positive, and its logarithm.
Of the circle number, of roots and of times nothing is asked. -/
structure ExactNumbers (K : Type) [Field K] [LinearOrder K] where
  exp : K → K
  log : K → K
  exp_pos : ∀ x, 0 < exp x
  strictMono_exp : StrictMono exp
  exp_log : ∀ x, 0 < x → exp (log x) = x
  pi : K
  sqrt : K → Except NumberFault K
  wholeTicks : Nat → K → Except NumberFault Int
  millionths : Int → K

namespace ExactNumbers

variable {K : Type} [Field K] [LinearOrder K]

/-- The operations of the field, with a fault where they have no value. -/
abbrev arithmetic (N : ExactNumbers K) : Arithmetic K where
  ofScientific mantissa negative exponent :=
    if negative then (mantissa : K) / 10 ^ exponent else mantissa * 10 ^ exponent
  beq x y := decide (x = y)
  decidableLT := inferInstance
  decidableLE := inferInstance
  isNaN _ := false
  abs x := |x|
  pi := N.pi
  quotient x y := if y = 0 then .error .divisionByZero else .ok (x / y)
  square x := .ok (x ^ 2)
  exp x := .ok (N.exp x)
  log x := if x ≤ 0 then .error .domain else .ok (N.log x)
  sqrt := N.sqrt
  wholeTicks := N.wholeTicks
  millionths := N.millionths

abbrev quotient (N : ExactNumbers K) (x y : K) : Except NumberFault K :=
  @Arithmetic.quotient K N.arithmetic x y

abbrev log? (N : ExactNumbers K) (x : K) : Except NumberFault K :=
  @Arithmetic.log K N.arithmetic x

variable {N : ExactNumbers K} {x y : K}

theorem quotient_eq (hy : y ≠ 0) : N.quotient x y = .ok (x / y) := if_neg hy

theorem log_eq (hx : 0 < x) : N.log? x = .ok (N.log x) := if_neg (not_le_of_gt hx)

/-! ## Literals -/

omit [LinearOrder K] in
theorem zero_literal : ((0 : Nat) : K) / 10 ^ 1 = 0 := by rw [Nat.cast_zero, zero_div]

theorem two_literal [IsStrictOrderedRing K] : ((20 : Nat) : K) / 10 ^ 1 = 2 := by norm_num

/-! ## Fractions -/

/-- A line to the right of zero and a hyperbola to the left of it. -/
def hyperbolicExp (x : Rat) : Rat := if 0 ≤ x then 1 + x else 1 / (1 - x)

def hyperbolicLog (y : Rat) : Rat := if 1 ≤ y then y - 1 else 1 - 1 / y

theorem hyperbolicExp_pos (x : Rat) : 0 < hyperbolicExp x := by
  unfold hyperbolicExp
  split
  · linarith
  · exact one_div_pos.2 (by linarith)

theorem hyperbolicExp_lt_one {x : Rat} (h : x < 0) : hyperbolicExp x < 1 := by
  rw [hyperbolicExp, if_neg (not_le.2 h)]
  exact (div_lt_one (by linarith)).2 (by linarith)

theorem strictMono_hyperbolicExp : StrictMono hyperbolicExp := by
  intro x y hxy
  by_cases hy : 0 ≤ y
  · rw [hyperbolicExp.eq_1 y, if_pos hy]
    by_cases hx : 0 ≤ x
    · rw [hyperbolicExp, if_pos hx]
      linarith
    · exact (hyperbolicExp_lt_one (not_le.1 hx)).trans_le (by linarith)
  · have hx : ¬0 ≤ x := fun hx => hy (hx.trans hxy.le)
    rw [hyperbolicExp, hyperbolicExp, if_neg hx, if_neg hy]
    exact one_div_lt_one_div_of_lt (by linarith) (by linarith)

theorem hyperbolicExp_hyperbolicLog (y : Rat) (h : 0 < y) : hyperbolicExp (hyperbolicLog y) = y := by
  unfold hyperbolicLog
  split
  next hle =>
    rw [hyperbolicExp, if_pos (sub_nonneg.2 hle), add_sub_cancel]
  next hlt =>
    have hneg : 1 - 1 / y < 0 := sub_neg.2 ((lt_div_iff₀ h).2 (by linarith))
    rw [hyperbolicExp, if_neg (not_le.2 hneg), sub_sub_cancel, one_div_one_div]

/-- Fractions with a line and a hyperbola for an exponential. A root is that of the numerator over that
of the denominator, both rounded down, and so exact on squares. -/
def hyperbolic : ExactNumbers Rat where
  exp := hyperbolicExp
  log := hyperbolicLog
  exp_pos := hyperbolicExp_pos
  strictMono_exp := strictMono_hyperbolicExp
  exp_log := hyperbolicExp_hyperbolicLog
  pi := 355 / 113
  sqrt x := if x < 0 then .error .domain else .ok x.sqrt
  wholeTicks perUnit x :=
    let ticks := Number.roundedQuotient (x.num.natAbs * perUnit) x.den
    .ok (if x < 0 then -ticks else ticks)
  millionths n := n / 1000000

end ExactNumbers

namespace Fractions

scoped instance : Arithmetic Rat := ExactNumbers.hyperbolic.arithmetic

end Fractions

end RaceBook
