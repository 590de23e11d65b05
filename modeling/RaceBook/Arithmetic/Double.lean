import RaceBook.Arithmetic
import RaceBook.Number.Decimal

/-!
# Arithmetic of doubles

Sums, differences and products overflow silently to an infinity. A square and an exponential of
a finite number do not: their overflow is a fault, and so are a division by zero, the logarithm
of a number that is not positive and the root of a negative one.
-/

namespace RaceBook

namespace Double

/-- A result that may not leave the finite numbers when its operand is one of them. -/
def bounded (operand result : Float) : Except NumberFault Float :=
  if result.isInf && operand.isFinite then .error .overflow else .ok result

/-- The part of a product of ticks that `wholeTicks` keeps: the nearest whole number, a half to
the even one. -/
def nearestWhole (b : Number.Binary) : Int :=
  let q : Int := Number.roundedQuotient b.numerator b.denominator
  if b.negative then -q else q

/-- Whole units are counted exactly; only the ticks of the fraction of a unit are rounded. -/
def wholeTicks (perUnit : Nat) (x : Float) : Except NumberFault Int :=
  match Number.reading x with
  | .nan => .error .notANumber
  | .infinite _ => .error .overflow
  | .finite b =>
    let whole := b.truncated
    let rest := if b.exponent < 0 then x - Float.ofInt whole else 0.0
    match Number.reading (rest * Float.ofNat perUnit) with
    | .finite r => .ok (whole * perUnit + nearestWhole r)
    | _ => .error .overflow

/-- So many millionths, correctly rounded. -/
def millionths (n : Int) : Float :=
  let magnitude := Float.ofScientific n.natAbs true 6
  if n < 0 then -magnitude else magnitude

end Double

instance : Arithmetic Float where
  natCast := Float.ofNat
  decidableLT := inferInstance
  decidableLE := inferInstance
  isNaN := Float.isNaN
  abs := Float.abs
  pi := 3.141592653589793
  quotient x y := if y == 0.0 then .error .divisionByZero else .ok (x / y)
  square x := Double.bounded x (x.pow 2.0)
  exp x := Double.bounded x x.exp
  log x := if x ≤ 0.0 then .error .domain else .ok x.log
  sqrt x := if x < 0.0 then .error .domain else .ok x.sqrt
  wholeTicks := Double.wholeTicks
  millionths := Double.millionths

end RaceBook
