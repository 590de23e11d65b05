import RaceBook.Calendar.Moment
import RaceBook.Number.Notation
import RaceBook.Text.Quoted

/-!
# Values of configuration files

* `Value` : the values that a file in TOML notation has;
* `Value.written` : a value as one item among others, texts in quotes;
* `Value.inWords` : a value on its own, a text as it is.
-/

namespace RaceBook.Toml

structure Clock where
  hour : Nat
  minute : Nat
  second : Nat
  /-- The ticks of the last second. -/
  fraction : Nat
  deriving DecidableEq, Repr

/-- A value; a table keeps the order in which its keys came. -/
inductive Value where
  | text (s : String)
  | integer (n : Int)
  | decimal (x : Float)
  | boolean (b : Bool)
  | date (d : Date)
  | time (t : Clock)
  /-- A date with a time, and the minutes ahead of universal time when they are given. -/
  | dateTime (d : Date) (t : Clock) (offset : Option Int)
  | array (items : List Value)
  | table (entries : List (String × Value))

/-- The entries of a table in the order of their keys' appearance. -/
abbrev Table := List (String × Value)

def Table.find? (t : Table) (key : String) : Option Value :=
  (List.find? (·.1 = key) t).map (·.2)

namespace Clock

def ticks (t : Clock) : Nat := Moment.ofClock t.hour t.minute t.second t.fraction

def text (t : Clock) : String :=
  zeroPadded 2 t.hour ++ ":" ++ zeroPadded 2 t.minute ++ ":" ++ zeroPadded 2 t.second ++
    (if t.fraction = 0 then "" else "." ++ zeroPadded 6 t.fraction)

/-- The numbers of a time of day; zero seconds and ticks at the end are left out. -/
def parts (t : Clock) : List Nat :=
  if t.fraction ≠ 0 then [t.hour, t.minute, t.second, t.fraction]
  else if t.second ≠ 0 then [t.hour, t.minute, t.second]
  else [t.hour, t.minute]

end Clock

def listed (items : List String) : String := ", ".intercalate items

def offsetText (offset : Int) : String :=
  (if offset < 0 then "-" else "+") ++ zeroPadded 2 (offset.natAbs / 60) ++ ":" ++
    zeroPadded 2 (offset.natAbs % 60)

/-- A duration below a day, as days and seconds of which only the days may be negative. -/
def offsetWritten (offset : Int) : String :=
  if offset = 0 then "datetime.timezone.utc"
  else
    let days := if offset < 0 then "days=-1, " else ""
    s!"datetime.timezone(datetime.timedelta({days}seconds={offset * 60 % 86400}))"

def booleanText (b : Bool) : String := if b then "True" else "False"

def dateParts (d : Date) : List Nat := [d.year, d.month, d.day]

namespace Value

mutual

/-- A value as one item among others. -/
def written : Value → String
  | text s => Text.quoted s
  | integer n => toString n
  | decimal x => Number.shortest x
  | boolean b => booleanText b
  | date d => "datetime.date(" ++ listed ((dateParts d).map toString) ++ ")"
  | time t => "datetime.time(" ++ listed (t.parts.map toString) ++ ")"
  | dateTime d t offset =>
    let zone := match offset with
      | none => []
      | some minutes => ["tzinfo=" ++ offsetWritten minutes]
    "datetime.datetime(" ++ listed ((dateParts d ++ t.parts).map toString ++ zone) ++ ")"
  | array items => "[" ++ listed (writtenItems items) ++ "]"
  | table entries => "\x7b" ++ listed (writtenEntries entries) ++ "\x7d"

def writtenItems : List Value → List String
  | [] => []
  | v :: rest => written v :: writtenItems rest

def writtenEntries : List (String × Value) → List String
  | [] => []
  | (key, v) :: rest => (Text.quoted key ++ ": " ++ written v) :: writtenEntries rest

end

/-- A value on its own. -/
def inWords : Value → String
  | text s => s
  | date d => d.text
  | time t => t.text
  | dateTime d t offset =>
    d.text ++ " " ++ t.text ++ (match offset with | none => "" | some minutes => offsetText minutes)
  | v => written v

end Value

end RaceBook.Toml
