/-!
# Doubles as exact fractions

* `Reading` : what a double stands for, `reading` : how it is read off its bits;
* `Binary.numerator`, `Binary.denominator` : a finite double as a quotient of natural numbers.

Every printed number and every rounding to whole units goes through this exact reading, so
nothing depends on the text that a machine would choose.
-/

namespace RaceBook.Number

/-- A finite double: `± mantissa * 2 ^ exponent`. -/
structure Binary where
  negative : Bool
  mantissa : Nat
  exponent : Int
  deriving DecidableEq, Repr

/-- What a double stands for. -/
inductive Reading where
  | nan
  | infinite (negative : Bool)
  | finite (value : Binary)
  deriving DecidableEq, Repr

/-- The leading one of a mantissa, which is not written down. -/
def leadingOne : Nat := 1 <<< 52

/-- The reading of a binary64 pattern: one sign bit, eleven bits of biased exponent, 52 bits of
fraction. Exponent zero marks the subnormal numbers, which have no leading one. -/
def readingOfBits (bits : Nat) : Reading :=
  let negative := (bits >>> 63) % 2 == 1
  let biased : Nat := (bits >>> 52) % 2048
  let fraction : Nat := bits % leadingOne
  if biased = 2047 then
    if fraction = 0 then .infinite negative else .nan
  else if biased = 0 then .finite ⟨negative, fraction, -1074⟩
  else .finite ⟨negative, leadingOne + fraction, biased - 1075⟩

def reading (x : Float) : Reading := readingOfBits x.toBits.toNat

namespace Binary

def numerator (b : Binary) : Nat := b.mantissa <<< b.exponent.toNat

/-- The denominator of the magnitude, a power of two. -/
def denominator (b : Binary) : Nat := 1 <<< (-b.exponent).toNat

theorem denominator_pos (b : Binary) : 0 < b.denominator := by
  rw [denominator, Nat.shiftLeft_eq, Nat.one_mul]
  exact Nat.two_pow_pos _

/-- The integer part: the fraction is dropped, whatever the sign. -/
def truncated (b : Binary) : Int :=
  let whole : Int := (b.numerator / b.denominator : Nat)
  if b.negative then -whole else whole

end Binary

end RaceBook.Number
