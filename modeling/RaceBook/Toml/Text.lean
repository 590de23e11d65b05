import RaceBook.Toml.Scanner

/-!
# Texts in quotes

A text stands in quotation marks, where the backslash escapes, or in apostrophes, where every
character stands for itself. With three marks on either side a text may span lines; then a line
end right after the opening is dropped, and one or two more marks at the close belong to the text.

* `basicText`, `literalText` : texts on one line;
* `longText` : texts between three marks.
-/

namespace RaceBook.Toml

/-- The character of hexadecimal digits, if Unicode has one there. -/
def scalar? (digits : List Char) : Option Char :=
  if digits.all isHexadecimal then
    let n := digits.foldl (fun n c => 16 * n + hexDigit c) 0
    if n.isValidChar then some (Char.ofNat n) else none
  else none
where
  hexDigit (c : Char) : Nat :=
    if c.isDigit then c.toNat - 48 else c.toLower.toNat - 87

def escape? : Char → Option Char
  | 'b' => some '\x08'
  | 't' => some '\t'
  | 'n' => some '\n'
  | 'f' => some '\x0c'
  | 'r' => some '\r'
  | '"' => some '"'
  | '\\' => some '\\'
  | _ => none

/-- Where the reading of a text is. -/
inductive TextMode where
  /-- Among its characters. -/
  | plain
  /-- Behind a backslash, among blanks that a line end must follow. -/
  | toLineEnd
  /-- Behind a backslash and a line end, among blanks that are dropped. -/
  | skipping
  deriving DecidableEq

/-- The characters up to the closing marks, and what comes after those. `long` texts close with
three marks and may span lines. -/
def basicBody (long : Bool) : TextMode → List Char → Option (List Char × List Char)
  | _, [] => none
  | .toLineEnd, c :: rest =>
    if isLineBlank c then basicBody long .toLineEnd rest
    else if c = '\n' then basicBody long .skipping rest
    else none
  | mode, '\\' :: 'u' :: a :: b :: c :: d :: rest =>
    match scalar? [a, b, c, d], mode with
    | some x, _ => (basicBody long .plain rest).map fun (s, rest) => (x :: s, rest)
    | none, _ => none
  | mode, '\\' :: 'U' :: a :: b :: c :: d :: e :: f :: g :: h :: rest =>
    match scalar? [a, b, c, d, e, f, g, h], mode with
    | some x, _ => (basicBody long .plain rest).map fun (s, rest) => (x :: s, rest)
    | none, _ => none
  | _, '\\' :: c :: rest =>
    if long && isLineBlank c then basicBody long .toLineEnd rest
    else if long && c = '\n' then basicBody long .skipping rest
    else
      match escape? c with
      | some x => (basicBody long .plain rest).map fun (s, rest) => (x :: s, rest)
      | none => none
  | mode, c :: rest =>
    if mode = .skipping && isSpace c then basicBody long .skipping rest
    else if c = '"' && (!long || startsWith rest "\"\"") then
      some ([], if long then rest.drop 2 else rest)
    else if isControl c && !(long && c = '\n') || c = '\\' then none
    else (basicBody long .plain rest).map fun (s, rest) => (c :: s, rest)

/-- The characters up to three apostrophes, and what comes after those. -/
def literalBody : List Char → Option (List Char × List Char)
  | [] => none
  | c :: rest =>
    if startsWith (c :: rest) "'''" then some ([], rest.drop 2)
    else if isControl c && c ≠ '\n' then none
    else (literalBody rest).map fun (s, rest) => (c :: s, rest)

namespace Scanner

/-- What a function finds in the text must be there. -/
def require {α : Type} (f : List Char → Option (α × List Char)) : Scanner α := do
  match ← attempt f with
  | some a => return a
  | none => fail

def basicText : Scanner String := do
  expect "\""
  return String.ofList (← require (basicBody false .plain))

def literalText : Scanner String := do
  expect "'"
  let body ← takeWhile (· ≠ '\'')
  if body.any isControl then fail
  expect "'"
  return String.ofList body

/-- One or two marks at the close of a long text, which belong to it. -/
def extraMarks (mark : String) : Scanner String := do
  if ← accept mark then
    if ← accept mark then return mark ++ mark
    return mark
  return ""

/-- A text between three marks; the flag tells apostrophes. -/
def longText (literal : Bool) : Scanner String := do
  let mark := if literal then "'" else "\""
  expect (mark ++ mark ++ mark)
  let _ ← accept "\n"
  let body ← require (if literal then literalBody else basicBody true .plain)
  return String.ofList body ++ (← extraMarks mark)

end Scanner

end RaceBook.Toml
