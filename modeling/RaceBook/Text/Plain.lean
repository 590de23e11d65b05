/-!
# Plain lines

What is printed has no colours and moves no cursor: control sequences are left out of it. Such a
sequence is an escape character with a bracket, then digits, semicolons and question marks, then
one letter. A line ends at a line feed, with or without a carriage return before it.

* `withoutControls` : a text without its control sequences;
* `linesOf` : the lines of a text;
* `plainLines` : both.
-/

namespace RaceBook.Text

def escape : Char := '\x1b'

/-- A character inside of a control sequence. -/
def isControlParameter (c : Char) : Bool := c.isDigit || c = ';' || c = '?'

/-- The length of the control sequence that stands behind an escape character. -/
def controlLength? : List Char → Option Nat
  | '[' :: rest =>
    let parameters := rest.takeWhile isControlParameter
    match rest.dropWhile isControlParameter with
    | letter :: _ => if letter.isAlpha then some (parameters.length + 2) else none
    | [] => none
  | _ => none

/-- A text without its control sequences and without the first `skipped` characters. -/
def withoutControlsAfter : Nat → List Char → List Char
  | _, [] => []
  | skipped + 1, _ :: rest => withoutControlsAfter skipped rest
  | 0, c :: rest =>
    match if c = escape then controlLength? rest else none with
    | some length => withoutControlsAfter length rest
    | none => c :: withoutControlsAfter 0 rest

def withoutControls (cs : List Char) : List Char := withoutControlsAfter 0 cs

/-- The lines of a text that is printed with a line feed behind it. -/
def linesOf : List Char → List (List Char)
  | [] => [[]]
  | ['\r'] => [[]]
  | '\n' :: rest => [] :: linesOf rest
  | '\r' :: '\n' :: rest => [] :: linesOf rest
  | c :: rest =>
    match linesOf rest with
    | [] => [[c]]
    | line :: more => (c :: line) :: more

def plainLines (s : String) : List String :=
  (linesOf (withoutControls s.toList)).map String.ofList

end RaceBook.Text
