import RaceBook.Command.Report
import RaceBook.Text.Capitals

/-!
# The log of a process

A command opens the log at the level that its words name, in letters of either case. Only the first
in a process to ask does so: a log that is open stays as it is, and is not asked for a level.

* `Log.Accepts` : when a level may be asked for; `Log.open?` : the failure, if it may not.
-/

namespace RaceBook

/-- Whether something in the process has opened the log. -/
inductive Log where
  | unopened
  | opened
  deriving DecidableEq, Repr

def CommandLine.logLevel (line : CommandLine) : String := (line.value? "--log-level").getD "INFO"

namespace Log

def levels : List String :=
  ["CRITICAL", "FATAL", "ERROR", "WARN", "WARNING", "INFO", "DEBUG", "NOTSET"]

/-- The log is open already, or the level is one of those it may be opened at. -/
def Accepts (log : Log) (level : String) : Prop :=
  log = opened ∨ Text.inCapitals level ∈ levels

instance (log : Log) (level : String) : Decidable (log.Accepts level) :=
  inferInstanceAs (Decidable (_ ∨ _))

def badLevel (level : String) : Failure := .refused (.invalid (.logLevel (Text.inCapitals level)))

/-- Opens the log at a level, unless it is open. -/
def open? (log : Log) (level : String) : Except Failure Unit :=
  if log.Accepts level then .ok () else .error (badLevel level)

theorem open?_of_accepts {log : Log} {level : String} (h : log.Accepts level) :
    log.open? level = .ok () := if_pos h

theorem open?_of_not_accepts {log : Log} {level : String} (h : ¬log.Accepts level) :
    log.open? level = .error (badLevel level) := if_neg h

end Log

end RaceBook
