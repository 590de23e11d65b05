import RaceBook.Number.Decimal

/-!
# How numbers are written

* `fixed places` : that many places after the point (`1500.00`);
* `scientific places` : one digit, the places, an exponent of at least two digits (`1.5e+03`);
* `general count` : at most `count` significant digits, positional or scientific by size;
* `shortest` : the fewest digits that read back as the same double.

Rounding is exact and half-even. Infinities are `inf` and `-inf`; what is not a number is `nan`,
without a sign.
-/

namespace RaceBook.Number

def withSign (negative : Bool) (magnitude : List Char) : String :=
  String.ofList (if negative then '-' :: magnitude else magnitude)

/-- Writes what is no finite number the same way in every notation. -/
def written (magnitude : Binary → List Char) (x : Float) : String :=
  match reading x with
  | .nan => "nan"
  | .infinite negative => withSign negative "inf".toList
  | .finite b => withSign b.negative (magnitude b)

/-- An integer part and a fraction, with a point between them when there is a fraction. -/
def pointed (whole fraction : List Char) : List Char :=
  if fraction.isEmpty then whole else whole ++ '.' :: fraction

/-- Zeros at the end of a fraction say nothing. -/
def withoutFinalZeros (digits : List Char) : List Char :=
  (digits.reverse.dropWhile (· = '0')).reverse

/-- Splits digits, the first of which counts `10 ^ exponent`, at the decimal point. -/
def atPoint (digits : List Char) (exponent : Int) : List Char × List Char :=
  if exponent < 0 then (['0'], List.replicate (-exponent - 1).toNat '0' ++ digits)
  else
    let k := exponent.toNat + 1
    (digits.take k ++ List.replicate (k - digits.length) '0', digits.drop k)

/-- The exponent, with its sign and at least two digits. -/
def exponentText (exponent : Int) : List Char :=
  let digits := digitsOf exponent.natAbs
  'e' :: (if exponent < 0 then '-' else '+') ::
    (List.replicate (2 - digits.length) '0' ++ digits)

def exponential (digits : List Char) (exponent : Int) : List Char :=
  pointed (digits.take 1) (digits.drop 1) ++ exponentText exponent

/-- A number with exactly `places` digits after the point. -/
def fixed (places : Nat) : Float → String := written fun b =>
  let units := digitsOf (roundedQuotient (b.numerator * tenTo places) b.denominator)
  let padded := List.replicate (places + 1 - units.length) '0' ++ units
  let whole := padded.length - places
  pointed (padded.take whole) (padded.drop whole)

/-- A number as one digit, `places` digits after the point and a power of ten. -/
def scientific (places : Nat) : Float → String := written fun b =>
  if b.mantissa = 0 then exponential (List.replicate (places + 1) '0') 0
  else
    let d := significant (places + 1) b.numerator b.denominator
    exponential (digitsOf d.coefficient) d.exponent

/-- A number with at most `count` significant digits and no zeros at the end: positional from
`1e-04` up to `count` digits before the point, scientific outside. -/
def general (count : Nat) : Float → String := written fun b =>
  if b.mantissa = 0 then ['0']
  else
    let d := significant count b.numerator b.denominator
    let digits := digitsOf d.coefficient
    if -4 ≤ d.exponent ∧ d.exponent < count then
      let (whole, fraction) := atPoint digits d.exponent
      pointed whole (withoutFinalZeros fraction)
    else
      exponential (digits.take 1 ++ withoutFinalZeros (digits.drop 1)) d.exponent

/-- A number with the fewest digits that read back as the same double. It is positional from
`1e-04` up to sixteen digits before the point, and then always has a fraction. -/
def shortest : Float → String := written fun b =>
  if b.mantissa = 0 then "0.0".toList
  else
    let d := b.shortest
    let digits := withoutFinalZeros (digitsOf d.coefficient)
    if -4 ≤ d.exponent ∧ d.exponent < 16 then
      let (whole, fraction) := atPoint digits d.exponent
      pointed whole (if fraction.isEmpty then ['0'] else fraction)
    else exponential digits d.exponent

def padLeft (width : Nat) (s : String) : String :=
  String.ofList (List.replicate (width - s.length) ' ') ++ s

def padRight (width : Nat) (s : String) : String :=
  s ++ String.ofList (List.replicate (width - s.length) ' ')

end RaceBook.Number
