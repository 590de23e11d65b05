import RaceBook.Toml.Value

/-!
# Tables within tables

A path of keys leads from a table to one inside it; where an array of tables is on the way it
leads to the last of them. Tables on the way that do not exist yet are made.

* `Table.within` : a table with the one at the end of a path changed;
* `Table.insertNew`, `Table.appendTable` : a new key, and a new table at the end of an array.
-/

namespace RaceBook.Toml

/-- Keys that lead into tables. -/
abbrev Path := List String

namespace Table

def set (t : Table) (key : String) (v : Value) : Table :=
  if t.any (·.1 = key) then t.map fun e => if e.1 = key then (key, v) else e else t ++ [(key, v)]

/-- The table with the one at the end of a path changed; none when a key on the way has a value
that is no table. Arrays of tables count as their last table if `arrays` says so. -/
def within (arrays : Bool) : Path → (Table → Option Table) → Table → Option Table
  | [], f, t => f t
  | key :: path, f, t =>
    match t.find? key with
    | none => (within arrays path f []).map fun inner => t.set key (.table inner)
    | some (.table inner) => (within arrays path f inner).map fun inner => t.set key (.table inner)
    | some (.array items) =>
      match arrays, items.getLast? with
      | true, some (.table inner) =>
        (within arrays path f inner).map fun inner =>
          t.set key (.array (items.dropLast ++ [.table inner]))
      | _, _ => none
    | some _ => none

def insertNew (key : String) (v : Value) (t : Table) : Option Table :=
  if (t.find? key).isSome then none else some (t ++ [(key, v)])

def appendTable (key : String) (t : Table) : Option Table :=
  match t.find? key with
  | none => some (t ++ [(key, .array [.table []])])
  | some (.array items) => some (t.set key (.array (items ++ [.table []])))
  | some _ => none

end Table

/-- Which paths may not be written to any more. -/
structure Marks where
  /-- Declared by a header or a dotted key: no header may declare it again. -/
  declared : List Path
  /-- Closed with all that is inside. -/
  closed : List Path

namespace Marks

def none : Marks := ⟨[], []⟩

def isDeclared (m : Marks) (path : Path) : Bool := m.declared.contains path

def isClosed (m : Marks) (path : Path) : Bool := m.closed.any (·.isPrefixOf path)

def declare (m : Marks) (path : Path) : Marks := { m with declared := path :: m.declared }

def close (m : Marks) (path : Path) : Marks := { m with closed := path :: m.closed }

/-- Takes back all marks of a path and of what is inside. -/
def forget (m : Marks) (path : Path) : Marks :=
  ⟨m.declared.filter (!path.isPrefixOf ·), m.closed.filter (!path.isPrefixOf ·)⟩

end Marks

end RaceBook.Toml
