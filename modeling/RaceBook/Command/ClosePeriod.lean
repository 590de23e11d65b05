import RaceBook.Command.Log
import RaceBook.Rating.CatchUp

/-!
# Closing periods from the command line

`closePeriods` closes every period whose full length is over. With `--now` it closes the current
period at once, and with `--period-id` the period of that number.
-/

namespace RaceBook

/-- The line that names the settings in force. -/
def Config.line (c : Config Float) : String :=
  s!"config={c.name} rating_period_days={Number.shortest c.glicko.periodDays} " ++
    s!"tau={Number.shortest c.glicko.solver.tau}"

/-- The line about a close that was asked for. -/
def closingLine : Option ClosingSummary → String
  | none => "No rating period to close."
  | some s =>
    if s.alreadyClosed then
      s!"period_id={s.closed} was already closed new_period_id={numberInWords s.next}"
    else s.announcement

def catchUpLines (ss : List ClosingSummary) : List String :=
  ss.map (·.announcement) ++ [s!"closed_periods={ss.length}"]

def closeForms : List OptionForm :=
  [⟨"--db-url", true⟩, ⟨"--config-path", true⟩, ⟨"--period-id", true⟩, ⟨"--now", false⟩,
    ⟨"--log-level", true⟩]

def closePeriods (log : Log) (setting : Setting) (words : List String) (book : Book Float) :
    Outcomes :=
  let asked : Except Failure (Config Float × Option Int × Bool) := do
    let some line := CommandLine.read? closeForms words | throw .usage
    let some period? := line.integer? "--period-id" | throw .usage
    unless line.operands.isEmpty do throw .usage
    log.open? line.logLevel
    if period?.any (· ≤ 0) then throw .usage
    return (← setting.configuration, period?, line.has "--now")
  match asked with
  | .error failure => (.error failure, book)
  | .ok (config, period?, atOnce) =>
    let closed : Session Float Report := do
      if atOnce ∨ period?.isSome then
        period?.forM Session.checkRange
        let summary ← Session.closePeriod config period? setting.now
        return .saying [config.line, closingLine summary]
      else
        let summaries ← Session.closeElapsed config setting.now
        return .saying (config.line :: catchUpLines summaries)
    closed.report book

end RaceBook
