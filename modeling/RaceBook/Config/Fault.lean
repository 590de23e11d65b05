import RaceBook.Toml.Scanner

/-!
# Why a configuration is refused

* `Bound` : what the settings must satisfy;
* `Config.Fault`, `Config.Fault.message`.
-/

namespace RaceBook.Config

/-- What the settings must satisfy. -/
inductive Bound where
  | initialRating
  | initialDeviation
  | initialVolatility
  | tau
  | periodDays
  | minDeviation
  | maxDeviation
  | orderedBand
  | initialInBand
  | epsilon
  | maxIterations
  | minCancelledFinish
  | graceSeconds
  | startingBalance
  deriving DecidableEq, Repr

namespace Bound

def message : Bound → String
  | initialRating => "[glicko2].initial_rating must be > 0"
  | initialDeviation => "[glicko2].initial_rd must be > 0"
  | initialVolatility => "[glicko2].initial_volatility must be > 0"
  | tau => "[glicko2].tau must be > 0"
  | periodDays => "[glicko2].rating_period_days must be > 0"
  | minDeviation => "[glicko2].min_rd must be > 0"
  | maxDeviation => "[glicko2].max_rd must be > 0"
  | orderedBand => "[glicko2].min_rd must be <= max_rd"
  | initialInBand => "[glicko2].initial_rd must be between min_rd and max_rd"
  | epsilon => "[glicko2].epsilon must be > 0"
  | maxIterations => "[glicko2].max_iterations must be > 0"
  | minCancelledFinish => "[matchups].min_cancelled_finish_time must be >= 0"
  | graceSeconds => "[wagers].grace_seconds must be >= 0"
  | startingBalance => "[wagers].starting_balance must be >= 0"

end Bound

/-- Why a configuration is refused. A `path` is where the file or the directory was looked for. -/
inductive Fault where
  | missingFile (path : String)
  | missingDirectory (path : String)
  | notDirectory (path : String)
  | noFiles (path : String)
  | duplicateNames (path : String) (names : List String)
  | malformed
  | numeralTooLong (digits : Nat)
  /-- A whole number has too many digits to be written. -/
  | numberTooLong
  /-- A section is a value that has no keys. -/
  | sectionWithoutKeys
  /-- A setting is a value that is no number in any way. -/
  | notNumeric
  | notDecimal (text : String)
  | notInteger (text : String)
  | tooLarge
  | nanAsInteger
  | nameMissing (path : String)
  | outOfBounds (path : String) (bound : Bound)
  deriving DecidableEq, Repr

def digitLimit : String := "Exceeds the limit (4300 digits) for integer string conversion"

def liftLimit : String := "; use sys.set_int_max_str_digits() to increase the limit"

/-- The number of characters of a quoted numeral that are shown. -/
def shownCharacters : Nat := 200

def Fault.message : Fault → String
  | missingFile path => s!"Config file not found: {path}"
  | missingDirectory path => s!"Config directory not found: {path}"
  | notDirectory path => s!"Config path is not a directory: {path}"
  | noFiles path => s!"No .toml config files found in: {path}"
  | duplicateNames path names =>
    s!"Duplicate engine config names found in {path}: {Text.bracketed (names.map Text.quoted)}"
  | malformed => "the text is no TOML document"
  | numeralTooLong digits => s!"{digitLimit}: value has {digits} digits{liftLimit}"
  | numberTooLong => digitLimit ++ liftLimit
  | sectionWithoutKeys => "a section has no keys"
  | notNumeric => "a setting is no number"
  | notDecimal text => s!"could not convert string to float: {Text.quoted text}"
  | notInteger text =>
    s!"invalid literal for int() with base 10: {Text.quotedUpTo shownCharacters text}"
  | tooLarge => "a setting is too large"
  | nanAsInteger => "cannot convert float NaN to integer"
  | nameMissing path => s!"{path}: [system].name is required"
  | outOfBounds path bound => s!"{path}: {bound.message}"

end RaceBook.Config
