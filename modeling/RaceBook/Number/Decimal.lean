import RaceBook.Number.Binary

/-!
# Rounding to decimal digits

* `roundedQuotient` : a quotient to the nearest natural number, a half to the even one;
  `le_two_mul_roundedQuotient` : it is not short by more than half a unit;
* `Decimal` : significant digits with the power of ten of the first one;
* `significant` : a fraction to a given number of significant digits;
* `shortest` : the fewest digits that still name one double.
-/

namespace RaceBook.Number

/-- The quotient rounded to the nearest natural number, a half going to the even one. -/
def roundedQuotient (n d : Nat) : Nat :=
  let q := n / d
  let r := n % d
  if 2 * r < d then q
  else if d < 2 * r then q + 1
  else if q % 2 = 0 then q else q + 1

theorem le_two_mul_roundedQuotient (n d : Nat) (hd : 0 < d) :
    2 * n ≤ 2 * (d * roundedQuotient n d) + d := by
  have h := Nat.div_add_mod n d
  have hr := Nat.mod_lt n hd
  unfold roundedQuotient
  dsimp only
  repeat' split
  all_goals try simp only [Nat.mul_succ]
  all_goals omega

def tenTo (n : Nat) : Nat := Nat.pow 10 n

def digitsOf (n : Nat) : List Char := Nat.toDigits 10 n

/-- A positive decimal number: the coefficient's digits, the first of them counting
`10 ^ exponent`. -/
structure Decimal where
  coefficient : Nat
  exponent : Int
  deriving DecidableEq, Repr

/-- The number `n / d * 10 ^ places`, as a numerator and a denominator. -/
def scaled (n d : Nat) (places : Int) : Nat × Nat :=
  (n * tenTo places.toNat, d * tenTo (-places).toNat)

/-- The power of ten of the first digit of `n / d`, for positive `n` and `d`. The numbers of
digits of `n` and `d` leave two candidates. -/
def leadingExponent (n d : Nat) : Int :=
  let guess : Int := (digitsOf n).length - (digitsOf d).length
  let s := scaled n d (-guess)
  if s.2 ≤ s.1 then guess else guess - 1

/-- The number `n / d` to `count` significant digits, a half going to the even digit. -/
def significant (count : Nat) (n d : Nat) : Decimal :=
  let e := leadingExponent n d
  let s := scaled n d (count - 1 - e)
  let c := roundedQuotient s.1 s.2
  if c = tenTo count then ⟨tenTo (count - 1), e + 1⟩ else ⟨c, e⟩

/-! ## The fewest digits -/

namespace Binary

/-- Four times the magnitude and the two ends of the interval of reals that round to it, over the
common denominator `4 * denominator` : `(low, value, high)`. Below a power of two the grid is
twice as fine. -/
def interval (b : Binary) : Nat × Nat × Nat :=
  let unit := 1 <<< b.exponent.toNat
  let low := if b.mantissa = leadingOne ∧ -1074 < b.exponent then unit else 2 * unit
  (4 * b.numerator - low, 4 * b.numerator, 4 * b.numerator + 2 * unit)

/-- Whether the decimal `c / 10 ^ places` reads back as `b` : it lies in the interval, whose ends
count when the mantissa is even. -/
def readsBack (b : Binary) (c : Nat) (places : Int) : Bool :=
  let d := 4 * b.denominator
  let left := c * d * tenTo (-places).toNat
  let scale := tenTo places.toNat
  let (low, _, high) := b.interval
  if b.mantissa % 2 = 0 then low * scale ≤ left && left ≤ high * scale
  else low * scale < left && left < high * scale

/-- Of the two neighbours of `b` with `count` digits, the one that reads back; of two, the
nearer. -/
def withDigits? (b : Binary) (count : Nat) : Option Decimal :=
  let e := leadingExponent b.numerator b.denominator
  let places : Int := count - 1 - e
  let s := scaled b.numerator b.denominator places
  let below := s.1 / s.2
  let nearest := roundedQuotient s.1 s.2
  let other := if nearest = below then below + 1 else below
  ([nearest, other].find? (b.readsBack · places)).map fun c =>
    if c = tenTo count then ⟨tenTo (count - 1), e + 1⟩ else ⟨c, e⟩

/-- The fewest significant digits that read back as `b`, nearest to `b` among those; seventeen
always do. -/
def shortest (b : Binary) : Decimal :=
  ((List.range 17).findSome? fun k => b.withDigits? (k + 1)).getD
    (significant 17 b.numerator b.denominator)

end Binary

end RaceBook.Number
