import RaceBook.Number.Numeral

/-!
# Command lines

A command line has options, which begin with two dashes, and operands. The value of an option
stands behind an equals sign or is the next word, whatever that looks like; the last of several
values counts. After a lone pair of dashes all words are operands.

* `CommandLine.read?` : the options and operands, if the line has the right form;
* `CommandLine.integer?`, `CommandLine.decimal?` : the value of an option.
-/

namespace RaceBook

/-- An option that a command knows. -/
structure OptionForm where
  name : String
  takesValue : Bool

/-- A command line in parts. -/
structure CommandLine where
  /-- Options with their values, the last one first. -/
  values : List (String × String)
  /-- Options without values. -/
  switches : List String
  operands : List String

namespace CommandLine

def empty : CommandLine := ⟨[], [], []⟩

def splitWord (word : String) : String × Option String :=
  let cs := word.toList
  let name := String.ofList (cs.takeWhile (· ≠ '='))
  match cs.dropWhile (· ≠ '=') with
  | [] => (name, none)
  | _ :: value => (name, some (String.ofList value))

/-- Whether a word is an operand: it is a lone dash or does not begin with one. -/
def isOperand (word : String) : Bool := word = "-" || word.toList.head? ≠ some '-'

/-- The parts of a command line behind those that were read, if it has the right form. -/
def readFrom (forms : List OptionForm) : List String → CommandLine → Option CommandLine
  | [], line => some line
  | [word], line =>
    if word = "--" then some line
    else if isOperand word then some { line with operands := line.operands ++ [word] }
    else
      match forms.find? (·.name = (splitWord word).1), (splitWord word).2 with
      | some form, none =>
        if form.takesValue then none
        else some { line with switches := form.name :: line.switches }
      | some form, some value =>
        if form.takesValue then some { line with values := (form.name, value) :: line.values }
        else none
      | none, _ => none
  | word :: next :: rest, line =>
    if word = "--" then some { line with operands := line.operands ++ next :: rest }
    else if isOperand word then
      readFrom forms (next :: rest) { line with operands := line.operands ++ [word] }
    else
      match forms.find? (·.name = (splitWord word).1), (splitWord word).2 with
      | some form, none =>
        if form.takesValue then
          readFrom forms rest { line with values := (form.name, next) :: line.values }
        else readFrom forms (next :: rest) { line with switches := form.name :: line.switches }
      | some form, some value =>
        if form.takesValue then
          readFrom forms (next :: rest) { line with values := (form.name, value) :: line.values }
        else none
      | none, _ => none

def read? (forms : List OptionForm) (words : List String) : Option CommandLine :=
  readFrom forms words empty

def value? (line : CommandLine) (name : String) : Option String :=
  (line.values.find? (·.1 = name)).map (·.2)

def has (line : CommandLine) (name : String) : Bool := line.switches.contains name

def wholeNumber? (word : String) : Option Int := (Number.integer word).toOption

/-- The whole number that an option was given; the outer value is missing when it is none. -/
def integer? (line : CommandLine) (name : String) : Option (Option Int) :=
  match line.value? name with
  | none => some none
  | some word => some <$> wholeNumber? word

def decimal? (line : CommandLine) (name : String) : Option (Option Float) :=
  match line.value? name with
  | none => some none
  | some word => some <$> Number.decimal? word

end CommandLine

end RaceBook
