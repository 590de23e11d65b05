import RaceBook.Text.Blank
import RaceBook.Text.DecimalDigit

/-!
# Numbers read from text

A numeral may have blanks around it, a sign, digits of any script, and single underscores between
digits. A decimal may also have a point, a power of ten, or be `nan`, `inf` or `infinity` in any
case.

* `integer` : a whole number, or a `NumeralFault`;
* `decimal?` : a double, correctly rounded.
-/

namespace RaceBook.Number

open Text

/-- A numeral without the blanks around it, in ASCII digits. A question mark, which no numeral
has, stands for every character outside ASCII that is neither a blank nor a digit. -/
def plainNumeral (s : String) : List Char :=
  trim isPlainBlank <| s.toList.map fun c =>
    if c.toNat < 0x7F then c
    else if isWideBlank c then ' '
    else (digitValue? c).elim '?' Nat.digitChar

/-- The digits at the start of a text, without the single underscores between them, and the
rest. -/
def digitRun : List Char → List Char × List Char
  | [] => ([], [])
  | c :: '_' :: d :: rest =>
    if c.isDigit then
      if d.isDigit then
        let (digits, rest) := digitRun (d :: rest)
        (c :: digits, rest)
      else ([c], '_' :: d :: rest)
    else ([], c :: '_' :: d :: rest)
  | c :: rest =>
    if c.isDigit then
      let (digits, rest) := digitRun rest
      (c :: digits, rest)
    else ([], c :: rest)

def ofDigits (digits : List Char) : Nat :=
  digits.foldl (fun n c => 10 * n + (c.toNat - 48)) 0

def signed : List Char → Bool × List Char
  | '-' :: rest => (true, rest)
  | '+' :: rest => (false, rest)
  | cs => (false, cs)

/-- The number of digits up to which a numeral is read as a whole number. -/
def maxDigits : Nat := 4300

inductive NumeralFault where
  | malformed
  | tooLong (digits : Nat)
  deriving DecidableEq, Repr

/-- A whole number. The length of its digits is judged before what stands behind them, but after
an underscore that does not stand between two of them. -/
def integer (s : String) : Except NumeralFault Int :=
  let (negative, rest) := signed (plainNumeral s)
  let (digits, rest) := digitRun rest
  if digits.isEmpty ∨ rest.head? = some '_' then .error .malformed
  else if maxDigits < digits.length then .error (.tooLong digits.length)
  else if !rest.isEmpty then .error .malformed
  else
    let n : Int := ofDigits digits
    .ok (if negative then -n else n)

/-- The double nearest to `n * 10 ^ exponent`. Far outside the range of doubles the exponent does
not matter. -/
def nearestDouble (n : Nat) (exponent : Int) : Float :=
  if n = 0 then 0.0
  else
    let leading : Int := exponent + (Nat.toDigits 10 n).length
    if leading < -400 then 0.0
    else if 400 < leading then 1.0 / 0.0
    else if exponent < 0 then Float.ofScientific n true exponent.natAbs
    else Float.ofScientific n false exponent.natAbs

def power? : List Char → Option Int
  | [] => some 0
  | c :: rest =>
    if c = 'e' ∨ c = 'E' then
      let (negative, rest) := signed rest
      let (digits, rest) := digitRun rest
      if digits.isEmpty ∨ !rest.isEmpty then none
      else
        let n : Int := ofDigits digits
        some (if negative then -n else n)
    else none

/-- The magnitude of a decimal: digits, a point with digits on one side of it at least, and a
power of ten. -/
def magnitude? (cs : List Char) : Option Float := do
  let (whole, rest) := digitRun cs
  let (fraction, rest) := match rest with
    | '.' :: rest => digitRun rest
    | _ => ([], rest)
  if whole.isEmpty ∧ fraction.isEmpty then none
  else
    let power ← power? rest
    return nearestDouble (ofDigits (whole ++ fraction)) (power - fraction.length)

def decimal? (s : String) : Option Float := do
  let (negative, rest) := signed (plainNumeral s)
  let word := String.ofList (rest.map Char.toLower)
  let x ←
    if word = "nan" then some (0.0 / 0.0)
    else if word = "inf" ∨ word = "infinity" then some (1.0 / 0.0)
    else magnitude? rest
  return if negative then -x else x

end RaceBook.Number
