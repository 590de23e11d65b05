import RaceBook.Toml.Figure
import RaceBook.Toml.Text
import RaceBook.Toml.Tree

/-!
# Documents

A document is a list of lines: a key with its value, the header of a table, or the header of one
more table of an array. `Document.ofText` reads it into one table.

A table is declared once, and nothing is added to a value that was written in place.
-/

namespace RaceBook.Toml

namespace Scanner

def simpleKey : Scanner String := do
  match ← peek with
  | some '\'' => literalText
  | some '"' => basicText
  | _ =>
    let key ← takeWhile isBareKey
    if key.isEmpty then fail
    return String.ofList key

def moreKeys : (fuel : Nat) → Scanner Path
  | 0 => return []
  | fuel + 1 => do
    skipBlanks
    if ← accept "." then
      skipBlanks
      let key ← simpleKey
      return key :: (← moreKeys fuel)
    else return []

def path : Scanner Path := do
  let key ← simpleKey
  return key :: (← moreKeys (← get).length)

/-- The path of a key before its last part, and that part. -/
def splitLast (keys : Path) : Path × String := (keys.dropLast, keys.getLastD "")

def isContainer : Value → Bool
  | .array _ | .table _ => true
  | _ => false

/-- Writes an entry into the table that an inline table becomes. -/
def inlineEntry (keys : Path) (v : Value) (marks : Marks) (t : Table) : Scanner Table := do
  let (parent, key) := splitLast keys
  if marks.isClosed keys then fail
  match t.within false parent (Table.insertNew key v) with
  | some t => return t
  | none => fail

mutual

def value : (fuel : Nat) → Scanner Value
  | 0 => fail
  | fuel + 1 => do
    let cs ← get
    if startsWith cs "\"\"\"" then return .text (← longText false)
    if startsWith cs "\"" then return .text (← basicText)
    if startsWith cs "'''" then return .text (← longText true)
    if startsWith cs "'" then return .text (← literalText)
    if ← accept "true" then return .boolean true
    if ← accept "false" then return .boolean false
    if ← accept "[" then
      skipSpace
      if ← accept "]" then return .array []
      return .array (← items fuel)
    if ← accept "\x7b" then
      skipBlanks
      if ← accept "\x7d" then return .table []
      return .table (← entries fuel .none [])
    figure

def items : (fuel : Nat) → Scanner (List Value)
  | 0 => fail
  | fuel + 1 => do
    let v ← value fuel
    skipSpace
    if ← accept "]" then return [v]
    expect ","
    skipSpace
    if ← accept "]" then return [v]
    return v :: (← items fuel)

def entries : (fuel : Nat) → Marks → Table → Scanner Table
  | 0, _, _ => fail
  | fuel + 1, marks, t => do
    let keys ← path
    expect "="
    skipBlanks
    let v ← value fuel
    let t ← inlineEntry keys v marks t
    skipBlanks
    if ← accept "\x7d" then return t
    expect ","
    skipBlanks
    entries fuel (if isContainer v then marks.close keys else marks) t

end

/-- A key with its value. Every level of nesting takes a character at least, so twice their number
bounds the steps. -/
def keyValue : Scanner (Path × Value) := do
  let keys ← path
  expect "="
  skipBlanks
  return (keys, ← value (2 * (← get).length + 2))

end Scanner

/-- What is known of a document up to some line. -/
structure Document where
  table : Table
  marks : Marks
  /-- Tables made by dotted keys since the last header. -/
  pending : List Path
  /-- The table that keys are now added to. -/
  header : Path

namespace Document

def empty : Document := ⟨[], .none, [], []⟩

def changed (d : Document) (table? : Option Table) : Except Fault Document :=
  match table? with
  | some table => .ok { d with table }
  | none => .error .malformed

/-- The paths to the tables on the way of a dotted key. -/
def between (header : Path) (keys : Path) : List Path :=
  (List.range (keys.length - 1)).map fun i => header ++ keys.take (i + 1)

/-- A key with its value, in the table of the last header. -/
def addEntry (d : Document) (keys : Path) (v : Value) : Except Fault Document := do
  let (parent, key) := Scanner.splitLast keys
  let way := between d.header keys
  if way.any d.marks.isDeclared then throw .malformed
  let home := d.header ++ parent
  if d.marks.isClosed home then throw .malformed
  let d := { d with pending := d.pending ++ way }
  let d ← d.changed (d.table.within true home (Table.insertNew key v))
  return if Scanner.isContainer v then { d with marks := d.marks.close (d.header ++ keys) } else d

def endSection (d : Document) : Document :=
  { d with marks := d.pending.foldl Marks.declare d.marks, pending := [] }

def openTable (d : Document) (keys : Path) : Except Fault Document := do
  if d.marks.isDeclared keys || d.marks.isClosed keys then throw .malformed
  let d := { d with marks := d.marks.declare keys, header := keys }
  d.changed (d.table.within true keys some)

def openArrayTable (d : Document) (keys : Path) : Except Fault Document := do
  if d.marks.isClosed keys then throw .malformed
  let (parent, key) := Scanner.splitLast keys
  let d := { d with marks := (d.marks.forget keys).declare keys, header := keys }
  d.changed (d.table.within true parent (Table.appendTable key))

open Scanner in
def scanLine (d : Document) : Scanner Document := do
  if ← accept "[[" then
    skipBlanks
    let keys ← path
    let d ← d.endSection.openArrayTable keys
    expect "]]"
    return d
  if ← accept "[" then
    skipBlanks
    let keys ← path
    let d ← d.endSection.openTable keys
    expect "]"
    return d
  match ← peek with
  | none | some '\n' | some '#' => return d
  | _ =>
    let (keys, v) ← keyValue
    d.addEntry keys v

open Scanner in
/-- The lines of a document, of which there are at most `fuel`. -/
def scanLines : (fuel : Nat) → Document → Scanner Document
  | 0, d => return d
  | fuel + 1, d => do
    skipBlanks
    let d ← d.scanLine
    skipBlanks
    skipComment
    if (← get).isEmpty then return d
    expect "\n"
    scanLines fuel d

/-- Line ends of two characters are read as one. -/
def joinLineEnds : List Char → List Char
  | '\r' :: '\n' :: rest => '\n' :: joinLineEnds rest
  | c :: rest => c :: joinLineEnds rest
  | [] => []

def ofText (text : String) : Except Fault Table := do
  let cs := joinLineEnds text.toList
  let (d, _) ← (scanLines (cs.length + 1) empty).run cs
  return d.table

end Document

end RaceBook.Toml
