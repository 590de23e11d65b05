import RaceBook.Text.Printable

/-!
# Quoted text

A text is quoted with apostrophes, or with quotation marks if it has an apostrophe and no
quotation mark. The mark in use, the backslash and what is not printable are escaped.

* `quoted`, `quotedUpTo` : a text in quotes, whole or cut off;
* `bracketed` : a list of written items.
-/

namespace RaceBook.Text

def hexadecimal (width n : Nat) : List Char :=
  let digits := Nat.toDigits 16 n
  List.replicate (width - digits.length) '0' ++ digits

/-- A character between quotes of the given mark. -/
def escaped (mark c : Char) : List Char :=
  if c = mark ∨ c = '\\' then ['\\', c]
  else if c = '\n' then ['\\', 'n']
  else if c = '\r' then ['\\', 'r']
  else if c = '\t' then ['\\', 't']
  else if isPrintable c then [c]
  else if c.toNat < 0x100 then '\\' :: 'x' :: hexadecimal 2 c.toNat
  else if c.toNat < 0x10000 then '\\' :: 'u' :: hexadecimal 4 c.toNat
  else '\\' :: 'U' :: hexadecimal 8 c.toNat

def quoteMark (cs : List Char) : Char :=
  if '\'' ∈ cs ∧ '"' ∉ cs then '"' else '\''

def quoted (s : String) : String :=
  let mark := quoteMark s.toList
  String.ofList (mark :: s.toList.flatMap (escaped mark) ++ [mark])

/-- The first characters of a text in quotes, the quotes included. -/
def quotedUpTo (count : Nat) (s : String) : String := String.ofList ((quoted s).toList.take count)

def bracketed (items : List String) : String := "[" ++ ", ".intercalate items ++ "]"

end RaceBook.Text
