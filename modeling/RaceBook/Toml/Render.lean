import RaceBook.Toml.Scanner

/-!
# Writing documents

* `Value.render` : a value as it stands in a document;
* `renderDocument` : a table as a document, its arrays of tables one header at a time.
-/

namespace RaceBook.Toml

def escaped (c : Char) : List Char :=
  if c = '"' ∨ c = '\\' then ['\\', c]
  else if isControl c then
    let digits := Nat.toDigits 16 c.toNat
    '\\' :: 'u' :: (List.replicate (4 - digits.length) '0' ++ digits)
  else [c]

def renderText (s : String) : String :=
  "\"" ++ String.ofList (s.toList.flatMap escaped) ++ "\""

def renderKey (key : String) : String :=
  if key ≠ "" ∧ key.toList.all isBareKey then key else renderText key

mutual

def Value.render : Value → String
  | .text s => renderText s
  | .integer n => toString n
  | .decimal x => Number.shortest x
  | .boolean b => if b then "true" else "false"
  | .date d => d.text
  | .time t => t.text
  | .dateTime d t offset =>
    d.text ++ "T" ++ t.text ++ (match offset with | none => "" | some minutes => offsetText minutes)
  | .array items => "[" ++ listed (renderItems items) ++ "]"
  | .table entries => "\x7b" ++ listed (renderEntries entries) ++ "\x7d"

def renderItems : List Value → List String
  | [] => []
  | v :: rest => v.render :: renderItems rest

def renderEntries : List (String × Value) → List String
  | [] => []
  | (key, v) :: rest => (renderKey key ++ " = " ++ v.render) :: renderEntries rest

end

/-- The tables of a value that is nothing but tables, and at least one. -/
def tablesOf? : Value → Option (List Table)
  | .array (v :: rest) => (v :: rest).mapM fun
    | .table t => some t
    | _ => none
  | _ => none

def sectionLines (key : String) (t : Table) : List String :=
  "" :: ("[[" ++ renderKey key ++ "]]") :: renderEntries t

/-- A table as a document. What stands under no header comes first. -/
def renderDocument (t : Table) : String :=
  let plain := t.filter fun (_, v) => (tablesOf? v).isNone
  let sections := t.flatMap fun (key, v) => ((tablesOf? v).getD []).flatMap (sectionLines key)
  String.join ((renderEntries plain ++ sections).map (· ++ "\n"))

end RaceBook.Toml
