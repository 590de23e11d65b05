import RaceBook.Arithmetic.Double
import RaceBook.Config.Basic
import RaceBook.Config.Fault
import RaceBook.Sorting
import RaceBook.Toml.Document

/-!
# Loading configurations

A configuration is a document with the sections `system`, `glicko2`, `matchups` and `wagers`.
Settings that are not given have their usual values; those that are given may be written as
numbers, truth values or text. Only then is every bound checked.

* `Config.ofTable` : the configuration of a document;
* `Config.loadFile`, `Config.loadDirectory` : from a file, or from all files of a directory.
-/

namespace RaceBook.Config

open Toml (Value)

/-! ## Settings -/

def decimalOf : Value → Except Fault Float
  | .decimal x => .ok x
  | .integer n =>
    let x := Float.ofInt n
    if x.isInf then .error .tooLarge else .ok x
  | .boolean b => .ok (if b then 1.0 else 0.0)
  | .text s =>
    match Number.decimal? s with
    | some x => .ok x
    | none => .error (.notDecimal s)
  | _ => .error .notNumeric

/-- A value as a whole number; a double loses its fraction. -/
def integerOf : Value → Except Fault Int
  | .integer n => .ok n
  | .decimal x =>
    match Number.reading x with
    | .finite b => .ok b.truncated
    | .infinite _ => .error .tooLarge
    | .nan => .error .nanAsInteger
  | .boolean b => .ok (if b then 1 else 0)
  | .text s =>
    match Number.integer s with
    | .ok n => .ok n
    | .error .malformed => .error (.notInteger s)
    | .error (.tooLong digits) => .error (.numeralTooLong digits)
  | _ => .error .notNumeric

/-- The section of a name, empty when it is not given. -/
def sectionOf (t : Toml.Table) (name : String) : Value := (t.find? name).getD (.table [])

def setting? (sec : Value) (key : String) : Except Fault (Option Value) :=
  match sec with
  | .table t => .ok (Toml.Table.find? t key)
  | _ => .error .sectionWithoutKeys

/-- A setting that is a double, or its usual value. -/
def decimal (sec : Value) (key : String) (usual : Float) : Except Fault Float := do
  match ← setting? sec key with
  | some v => decimalOf v
  | none => return usual

def integer (sec : Value) (key : String) (usual : Int) : Except Fault Int := do
  match ← setting? sec key with
  | some v => integerOf v
  | none => return usual

mutual

/-- Whether a value has a whole number of too many digits inside. -/
def hasLongNumber : Value → Bool
  | .integer n => Number.tenTo Number.maxDigits ≤ n.natAbs
  | .array items => anyLongNumber items
  | .table entries => anyLongEntry entries
  | _ => false

def anyLongNumber : List Value → Bool
  | [] => false
  | v :: rest => hasLongNumber v || anyLongNumber rest

def anyLongEntry : List (String × Value) → Bool
  | [] => false
  | (_, v) :: rest => hasLongNumber v || anyLongEntry rest

end

def wordsOf (v : Value) : Except Fault String :=
  if hasLongNumber v then .error .numberTooLong else .ok v.inWords

/-! ## Sections -/

def glickoOf (sec : Value) : Except Fault (Glicko.Parameters Float) := do
  let usual : Glicko.Parameters Float := .standard
  let rating ← decimal sec "initial_rating" usual.initial.rating
  let deviation ← decimal sec "initial_rd" usual.initial.deviation
  let volatility ← decimal sec "initial_volatility" usual.initial.volatility
  let tau ← decimal sec "tau" usual.solver.tau
  let periodDays ← decimal sec "rating_period_days" usual.periodDays
  let minDeviation ← decimal sec "min_rd" usual.minDeviation
  let maxDeviation ← decimal sec "max_rd" usual.maxDeviation
  let epsilon ← decimal sec "epsilon" usual.solver.epsilon
  let maxIterations ← integer sec "max_iterations" usual.solver.maxIterations
  return {
    initial := ⟨rating, deviation, volatility⟩
    solver := ⟨tau, epsilon, maxIterations⟩
    periodDays, minDeviation, maxDeviation }

/-- The bounds of the rating parameters in the order in which they are checked, each with whether
it is broken. -/
def glickoBounds (p : Glicko.Parameters Float) : List (Bool × Bound) := [
  (p.initial.rating ≤ 0.0, .initialRating),
  (p.initial.deviation ≤ 0.0, .initialDeviation),
  (p.initial.volatility ≤ 0.0, .initialVolatility),
  (p.solver.tau ≤ 0.0, .tau),
  (p.periodDays ≤ 0.0, .periodDays),
  (p.minDeviation ≤ 0.0, .minDeviation),
  (p.maxDeviation ≤ 0.0, .maxDeviation),
  (p.maxDeviation < p.minDeviation, .orderedBand),
  (p.initial.deviation < p.minDeviation ∨ p.maxDeviation < p.initial.deviation, .initialInBand),
  (p.solver.epsilon ≤ 0.0, .epsilon),
  (p.solver.maxIterations ≤ 0, .maxIterations)]

def checkBounds (path : String) (bounds : List (Bool × Bound)) : Except Fault Unit :=
  match bounds.find? (·.1) with
  | some (_, bound) => .error (.outOfBounds path bound)
  | none => .ok ()

def ofTable (path : String) (t : Toml.Table) : Except Fault (Config Float) := do
  let system := sectionOf t "system"
  let name := Text.strip (← wordsOf ((← setting? system "name").getD (.text "")))
  if name = "" then throw (.nameMissing path)
  let description ← (← setting? system "description").mapM wordsOf
  let glicko ← glickoOf (sectionOf t "glicko2")
  checkBounds path (glickoBounds glicko)
  let usual : Config Float := .standard
  let minCancelledFinish ←
    integer (sectionOf t "matchups") "min_cancelled_finish_time" usual.minCancelledFinish
  checkBounds path [(minCancelledFinish < 0, .minCancelledFinish)]
  let wagers := sectionOf t "wagers"
  let graceSeconds ← decimal wagers "grace_seconds" usual.graceSeconds
  let startingBalance ← integer wagers "starting_balance" usual.startingBalance
  checkBounds path [(graceSeconds < 0.0, .graceSeconds), (startingBalance < 0, .startingBalance)]
  return { name, description, glicko, minCancelledFinish, graceSeconds, startingBalance }

/-! ## Files -/

def ofText (path text : String) : Except Fault (Config Float) :=
  match Toml.Document.ofText text with
  | .ok t => ofTable path t
  | .error .malformed => .error .malformed
  | .error (.numeralTooLong digits) => .error (.numeralTooLong digits)

/-- What stands at a path. -/
inductive Node where
  | file (text : String)
  | directory (entries : List (String × Node))

def loadFile (path : String) : Option Node → Except Fault (Config Float)
  | some (.file text) => ofText path text
  | _ => .error (.missingFile path)

def isConfigName (name : String) : Bool := ".toml".toList.isSuffixOf name.toList

/-- The configurations of all files of a directory, by the names of the files in ascending order;
no two of them have one name. -/
def loadDirectory (path : String) : Option Node → Except Fault (List (String × Config Float))
  | none => .error (.missingDirectory path)
  | some (.file _) => .error (.notDirectory path)
  | some (.directory entries) => do
    let found := sortedBy (·.1 ≤ ·.1) (entries.filter (isConfigName ·.1))
    if found.isEmpty then throw (.noFiles path)
    let configs ← found.mapM fun (name, node) => do
      return (name, ← loadFile (path ++ "/" ++ name) (some node))
    let names : List String := configs.map (·.2.name)
    if names.Nodup then return configs else throw (.duplicateNames path names)

end RaceBook.Config
