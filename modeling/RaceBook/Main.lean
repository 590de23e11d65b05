import RaceBook.Command.Job
import Std.Time.DateTime.Timestamp

/-!
# Command line

Runs one job on a book that is kept in a file: the words are the name of the job, then its options
and operands. The exit code is 2 when the words do not have the right form, 1 when the job failed,
and 0 otherwise.
-/

namespace RaceBook

def readText? (path : String) : IO (Option String) := do
  try
    let text ← IO.FS.readFile path
    return some text
  catch _ => return none

/-- The moment now, in universal time. -/
def currentMoment? : IO (Option Moment) := do
  let now ← Std.Time.Timestamp.now
  let microseconds := now.toNanosecondsSinceUnixEpoch.val / 1000
  let epoch : Date := ⟨1970, 1, 1⟩
  return Moment.ofTicks? (epoch.dayNumber * dayTicks + microseconds)

def readConfig (path? : Option String) : IO (Except Config.Fault (Config Float)) := do
  match path? with
  | none => return .ok .standard
  | some path => return Config.loadFile path ((← readText? path).map .file)

def fail (complaint : String) (code : UInt32) : IO UInt32 := do
  IO.eprintln complaint
  return code

def conclude : Except Failure Report → IO UInt32
  | .ok report => do
    report.output.forM IO.println
    report.complaints.forM IO.eprintln
    return if report.failed then 1 else 0
  | .error .usage => fail Failure.usage.message 2
  | .error failure => fail failure.message 1

/-- Runs a job on the book at its path, and keeps the book that comes of it. -/
def Invocation.run (call : Invocation) : IO UInt32 := do
  let some now ← currentMoment? | fail "the clock is outside the calendar" 1
  let text? ← readText? call.bookPath
  let some book := text?.elim (some .empty) Book.ofArchive? |
    fail s!"{call.bookPath} holds no book" 1
  let setting : Setting := ⟨← readConfig call.configPath, now⟩
  let (outcome, later) := call.job.run setting call.words book .unopened
  unless later = book do IO.FS.writeFile call.bookPath later.archived
  conclude outcome

end RaceBook

def main (words : List String) : IO UInt32 := do
  let some call := RaceBook.Invocation.ofWords? words |
    RaceBook.fail RaceBook.Failure.usage.message 2
  call.run
