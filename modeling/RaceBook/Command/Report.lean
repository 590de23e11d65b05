import RaceBook.Command.Options
import RaceBook.Config.Load
import RaceBook.Fault.Message
import RaceBook.Store.Session
import RaceBook.Text.Plain

/-!
# Reports

A command of the command line reads its words, may write to the book and reports in lines. What it
wrote before it failed stays.

* `Report` : the lines of a command and whether it counts as failed; `Report.ofTexts`,
  `Report.saying` : from the texts that it prints;
* `Failure` : why there is no report;
* `Setting` : the configuration and the time that a command runs with;
* `Session.report` : the outcome of a session as that of a command.
-/

namespace RaceBook

/-- What a command prints, in plain lines. -/
structure Report where
  output : List String
  /-- What goes to the error channel. -/
  complaints : List String
  failed : Bool
  deriving DecidableEq, Repr

namespace Report

def ofTexts (said complained : List String) (failed : Bool) : Report :=
  ⟨said.flatMap Text.plainLines, complained.flatMap Text.plainLines, failed⟩

/-- The report of a command that did what it was asked to do. -/
def saying (said : List String) : Report := ofTexts said [] false

end Report

/-- Why a command has no report. -/
inductive Failure where
  /-- The words do not have the form that the command asks for. -/
  | usage
  | config (fault : Config.Fault)
  | refused (fault : Fault Float)

/-- What a command runs with. -/
structure Setting where
  config : Except Config.Fault (Config Float)
  now : Moment

def Setting.configuration (s : Setting) : Except Failure (Config Float) :=
  match s.config with
  | .ok config => .ok config
  | .error fault => .error (.config fault)

/-- A report, or a failure, and the book after it. -/
abbrev Outcomes := Except Failure Report × Book Float

/-- The outcome of a session as that of a command. -/
def Session.report (s : Session Float Report) (book : Book Float) : Outcomes :=
  match s book with
  | .ok report later => (.ok report, later)
  | .error fault later => (.error (.refused fault), later)

end RaceBook
