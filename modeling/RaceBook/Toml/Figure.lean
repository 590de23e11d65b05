import RaceBook.Number.Numeral
import RaceBook.Toml.Scanner

/-!
# Numbers, dates and times

* `dateTime?` : a date, alone or with a time of day and an offset from universal time;
* `clock?` : a time of day;
* `number` : whole numbers in base ten, sixteen, eight and two, and decimals.

Single underscores may stand between the digits of a number.
-/

namespace RaceBook.Toml

/-- The number of exactly so many digits, within bounds. -/
def digits? (count low high : Nat) (cs : List Char) : Option (Nat × List Char) :=
  let ds := cs.take count
  let n := Number.ofDigits ds
  if ds.length = count ∧ ds.all Char.isDigit ∧ low ≤ n ∧ n ≤ high then some (n, cs.drop count)
  else none

def char? (p : Char → Bool) : List Char → Option (Char × List Char)
  | [] => none
  | c :: rest => if p c then some (c, rest) else none

/-- The ticks of a fraction of a second; digits beyond the sixth are dropped. -/
def fraction? (cs : List Char) : Option (Nat × List Char) := do
  let (_, rest) ← char? (· = '.') cs
  let ds := rest.takeWhile Char.isDigit
  if ds.isEmpty then none
  else
    let six := ds.take 6
    return (Number.ofDigits six * Number.tenTo (6 - six.length), rest.dropWhile Char.isDigit)

def clock? (cs : List Char) : Option (Clock × List Char) := do
  let (hour, cs) ← digits? 2 0 23 cs
  let (_, cs) ← char? (· = ':') cs
  let (minute, cs) ← digits? 2 0 59 cs
  let (_, cs) ← char? (· = ':') cs
  let (second, cs) ← digits? 2 0 59 cs
  let (fraction, cs) := (fraction? cs).getD (0, cs)
  return (⟨hour, minute, second, fraction⟩, cs)

/-- The minutes ahead of universal time. -/
def offset? (cs : List Char) : Option (Int × List Char) := do
  let (sign, cs) ← char? (· ∈ ['Z', 'z', '+', '-']) cs
  if sign = 'Z' ∨ sign = 'z' then return (0, cs)
  let (hour, cs) ← digits? 2 0 23 cs
  let (_, cs) ← char? (· = ':') cs
  let (minute, cs) ← digits? 2 0 59 cs
  let minutes : Int := hour * 60 + minute
  return (if sign = '-' then -minutes else minutes, cs)

/-- The digits of a date; whether the calendar has it is not asked. -/
def date? (cs : List Char) : Option (Date × List Char) := do
  let (year, cs) ← digits? 4 0 9999 cs
  let (_, cs) ← char? (· = '-') cs
  let (month, cs) ← digits? 2 1 12 cs
  let (_, cs) ← char? (· = '-') cs
  let (day, cs) ← digits? 2 1 31 cs
  return (⟨year, month, day⟩, cs)

def dateTime? (cs : List Char) : Option (Value × List Char) := do
  let (d, cs) ← date? cs
  let timed : Option (Clock × List Char) := do
    let (_, cs) ← char? (· ∈ ['T', 't', ' ']) cs
    clock? cs
  match timed with
  | none => return (.date d, cs)
  | some (t, cs) =>
    match offset? cs with
    | none => return (.dateTime d t none, cs)
    | some (offset, cs) => return (.dateTime d t (some offset), cs)

def isOnCalendar : Value → Bool
  | .date d | .dateTime d .. => d.isValid
  | _ => true

/-! ## Numbers -/

/-- Digits of a class with single underscores between them, at least one digit. -/
def figures? (p : Char → Bool) (cs : List Char) : Option (List Char × List Char) := do
  let (c, rest) ← char? p cs
  let (more, rest) := go rest
  return (c :: more, rest)
where
  go : List Char → List Char × List Char
    | [] => ([], [])
    | '_' :: c :: rest =>
      if p c then
        let (more, rest) := go rest
        (c :: more, rest)
      else ([], '_' :: c :: rest)
    | c :: rest =>
      if p c then
        let (more, rest) := go rest
        (c :: more, rest)
      else ([], c :: rest)

def digitOf (c : Char) : Nat := if c.isDigit then c.toNat - 48 else c.toLower.toNat - 87

/-- A whole number in another base than ten, told by the letter behind a zero. -/
def based? (letter : Char) (base : Nat) (p : Char → Bool) (cs : List Char) :
    Option (Nat × List Char) := do
  let (_, cs) ← char? (· = '0') cs
  let (_, cs) ← char? (· = letter) cs
  let (ds, cs) ← figures? p cs
  return (ds.foldl (fun n c => base * n + digitOf c) 0, cs)

/-- The digits before the point: a zero, or digits that do not begin with one. -/
def wholePart? (cs : List Char) : Option (List Char × List Char) :=
  match cs with
  | '0' :: rest => some (['0'], rest)
  | _ => figures? Char.isDigit cs

def fractionPart? (cs : List Char) : Option (List Char × List Char) := do
  let (_, cs) ← char? (· = '.') cs
  figures? Char.isDigit cs

def powerPart? (cs : List Char) : Option (Int × List Char) := do
  let (_, cs) ← char? (· ∈ ['e', 'E']) cs
  let (negative, cs) := Number.signed cs
  let (ds, cs) ← figures? Char.isDigit cs
  let n : Int := Number.ofDigits ds
  return (if negative then -n else n, cs)

/-- A number in base ten, whole unless it has a point or a power. -/
def decimal? (cs : List Char) : Option (Except Fault Value × List Char) := do
  let (negative, cs) := Number.signed cs
  let (whole, cs) ← wholePart? cs
  let fraction := fractionPart? cs
  let (fractionDigits, cs) := fraction.getD ([], cs)
  let power := powerPart? cs
  let (exponent, cs) := power.getD (0, cs)
  if fraction.isNone ∧ power.isNone then
    let n : Int := Number.ofDigits whole
    if Number.maxDigits < whole.length then return (.error (.numeralTooLong whole.length), cs)
    return (.ok (.integer (if negative then -n else n)), cs)
  else
    let x := Number.nearestDouble (Number.ofDigits (whole ++ fractionDigits))
      (exponent - fractionDigits.length)
    return (.ok (.decimal (if negative then -x else x)), cs)

def special? (cs : List Char) : Option (Value × List Char) :=
  let (negative, rest) := Number.signed cs
  if startsWith rest "inf" then
    some (.decimal (if negative then -1.0 / 0.0 else 1.0 / 0.0), rest.drop 3)
  else if startsWith rest "nan" then some (.decimal (0.0 / 0.0), rest.drop 3)
  else none

namespace Scanner

def figure : Scanner Value := do
  if let some v ← attempt dateTime? then
    if isOnCalendar v then return v else fail
  if let some t ← attempt clock? then return .time t
  if let some n ← attempt (based? 'x' 16 isHexadecimal) then return .integer n
  if let some n ← attempt (based? 'b' 2 fun c => c = '0' || c = '1') then return .integer n
  if let some n ← attempt (based? 'o' 8 fun c => '0' ≤ c && c ≤ '7') then return .integer n
  if let some v ← attempt decimal? then return ← v
  if let some v ← attempt special? then return v
  fail

end Scanner

end RaceBook.Toml
