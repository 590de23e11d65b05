import RaceBook.Toml.Value

/-!
# Scanning

A scanner takes a value off the front of a text.

* `Fault` : why a text is no document;
* `Scanner` : scanners, with `peek`, `expect`, `accept` and runs of a class of characters.
-/

namespace RaceBook.Toml

inductive Fault where
  | malformed
  /-- A decimal numeral of more digits than are read. -/
  | numeralTooLong (digits : Nat)
  deriving DecidableEq, Repr

/-- Takes a value off the front of a text. -/
abbrev Scanner := StateT (List Char) (Except Fault)

def startsWith (cs : List Char) (front : String) : Bool := front.toList.isPrefixOf cs

/-- Blanks within a line. -/
def isLineBlank (c : Char) : Bool := c = ' ' || c = '\t'

def isSpace (c : Char) : Bool := isLineBlank c || c = '\n'

/-- Control characters other than the tab do not occur in a line. -/
def isControl (c : Char) : Bool := (c.toNat < 32 && c ≠ '\t') || c.toNat = 127

def isBareKey (c : Char) : Bool := c.isAlphanum || c = '-' || c = '_'

def isHexadecimal (c : Char) : Bool :=
  c.isDigit || ('a' ≤ c && c ≤ 'f') || ('A' ≤ c && c ≤ 'F')

namespace Scanner

def fail {α : Type} : Scanner α := throw .malformed

/-- The next character, which stays. -/
def peek : Scanner (Option Char) := do return (← get).head?

/-- Takes the given characters, if they come next. -/
def accept (front : String) : Scanner Bool := do
  let cs ← get
  if startsWith cs front then
    set (cs.drop front.length)
    return true
  else return false

def expect (front : String) : Scanner Unit := do
  unless ← accept front do fail

def takeWhile (p : Char → Bool) : Scanner (List Char) := do
  let cs ← get
  set (cs.dropWhile p)
  return cs.takeWhile p

def skipBlanks : Scanner Unit := do
  let _ ← takeWhile isLineBlank

def skipComment : Scanner Unit := do
  if ← accept "#" then
    let comment ← takeWhile (· ≠ '\n')
    if comment.any isControl then fail

/-- Skips blanks, line ends and comments, which there are at most `fuel` of. -/
def skipLines : (fuel : Nat) → Scanner Unit
  | 0 => pure ()
  | fuel + 1 => do
    let _ ← takeWhile isSpace
    if (← peek) = some '#' then
      skipComment
      skipLines fuel

def skipSpace : Scanner Unit := do skipLines ((← get).length + 1)

/-- Goes on with what a function finds in the text and leaves of it, if it finds anything. -/
def attempt {α : Type} (f : List Char → Option (α × List Char)) : Scanner (Option α) := do
  match f (← get) with
  | none => return none
  | some (a, rest) =>
    set rest
    return some a

end Scanner

end RaceBook.Toml
