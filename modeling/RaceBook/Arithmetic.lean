/-!
# Numbers with partial operations

Ratings are computed over a type `R` of numbers of which only `Arithmetic R` is asked, so that
the same rules can be read over doubles (`RaceBook.Arithmetic.Double`) and over an ordered field.

* `NumberFault` : why an operation has no value;
* `Arithmetic` : the operations; those that may have no value answer in `Except NumberFault`;
* `larger`, `smaller` : the greater and the lesser of two numbers, the first one when the order
  does not decide.
-/

namespace RaceBook

/-- Why an operation on numbers has no value. -/
inductive NumberFault where
  /-- The operands are finite and the result is too large to be represented. -/
  | overflow
  | divisionByZero
  /-- A logarithm of a number that is not positive, or a root of a negative one. -/
  | domain
  /-- A whole number was asked of something that is not a number. -/
  | notANumber
  deriving DecidableEq, Repr

/-- The numbers that ratings are computed with. -/
class Arithmetic (R : Type) extends Add R, Sub R, Mul R, Neg R, OfScientific R, NatCast R, LT R,
    LE R, BEq R where
  decidableLT : DecidableLT R
  decidableLE : DecidableLE R
  /-- Whether this is no number at all. -/
  isNaN : R → Bool
  abs : R → R
  /-- The circle number. -/
  pi : R
  quotient : R → R → Except NumberFault R
  square : R → Except NumberFault R
  exp : R → Except NumberFault R
  log : R → Except NumberFault R
  sqrt : R → Except NumberFault R
  /-- So many units of `perUnit` ticks each, to the nearest whole tick, a half to the even one. -/
  wholeTicks (perUnit : Nat) : R → Except NumberFault Int
  /-- So many millionths. -/
  millionths : Int → R

namespace Arithmetic

variable {R : Type} [Arithmetic R]

instance : DecidableLT R := decidableLT

instance : DecidableLE R := decidableLE

/-- The greater of two numbers, the first when the order does not decide. -/
def larger (x y : R) : R := if x < y then y else x

/-- The lesser of two numbers, the first when the order does not decide. -/
def smaller (x y : R) : R := if y < x then y else x

end Arithmetic

end RaceBook
