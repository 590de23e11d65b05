import RaceBook.Archive
import RaceBook.Command.ClosePeriod
import RaceBook.Command.Leaderboard
import RaceBook.Command.Settle

/-!
# Jobs

* `Job` : what can be asked for by name, and how it is run;
* `Invocation` : a job with the files it works on and the words it was given;
* `Failure.message` : what is said of a failure.
-/

namespace RaceBook

/-- What can be asked for by name. -/
inductive Job where
  | showLeaderboard
  | settleBattles
  | closePeriods
  deriving DecidableEq, Repr

namespace Job

def all : List Job := [showLeaderboard, settleBattles, closePeriods]

def name : Job → String
  | showLeaderboard => "show_leaderboard"
  | settleBattles => "settle_battle"
  | closePeriods => "close_rating_period"

def ofName? (s : String) : Option Job := all.find? (·.name = s)

def forms : Job → List OptionForm
  | showLeaderboard => leaderboardForms
  | settleBattles => settleForms
  | closePeriods => closeForms

/-- Runs a job with the words behind its name, in a process whose log is open unless told. -/
def run (job : Job) (setting : Setting) (words : List String) (book : Book Float)
    (log : Log := .opened) : Outcomes :=
  match job with
  | showLeaderboard => RaceBook.showLeaderboard setting words book
  | settleBattles => RaceBook.settleBattles log setting words book
  | closePeriods => RaceBook.closePeriods log setting words book

end Job

/-- A job with the files it works on. -/
structure Invocation where
  job : Job
  bookPath : String
  /-- The configuration file; without one the usual settings hold. -/
  configPath : Option String
  /-- The words behind the name of the job. -/
  words : List String

namespace Invocation

/-- Where a book is kept if no other place is given. -/
def usualBookPath : String := "racebook.toml"

def ofWords? : List String → Option Invocation
  | [] => none
  | name :: words => do
    let job ← Job.ofName? name
    let line ← CommandLine.read? job.forms words
    return ⟨job, (line.value? "--db-url").getD usualBookPath, line.value? "--config-path", words⟩

end Invocation

def Failure.message : Failure → String
  | usage => "the words do not have the form that the job asks for"
  | config fault => fault.message
  | refused fault => fault.message

end RaceBook
