import RaceBook.Command.Log
import RaceBook.Settlement.Batch

/-!
# Settling battles from the command line

`settleBattles` settles the battles whose numbers are given, or else all that ended and are not
settled yet, and reports a line for each. It counts as failed when a battle was skipped. Before it
looks at the book it opens the log, which may fail. At a number that no row may hold the command
ends without a report; the battles before it stay settled.
-/

namespace RaceBook

def Resolution.victorInWords (r : Resolution) : String := (r.victor.map Team.name).getD "void"

def truthInWords (b : Bool) : String := if b then "True" else "False"

def Resolution.line (r : Resolution) : String :=
  s!"battle_id={r.battle} victor={r.victorInWords} wagers={r.payouts.length} " ++
    s!"staked={r.totalStaked} paid={r.totalPaid} " ++
    s!"already_settled={truthInWords r.alreadySettled}"

namespace BatchItem

def line? : BatchItem → Option String
  | resolved r => some r.line
  | _ => none

/-- The line for the error channel, if the battle was skipped. -/
def complaint? : BatchItem → Option String
  | resolved _ => none
  | notFound battle what => some s!"battle_id={battle} skipped: {what.inWords} not found"
  | notConcluded battle =>
    some s!"battle_id={battle} skipped: battle_id={battle} has not concluded"

end BatchItem

def batchReport (items : List BatchItem) : Report :=
  if items.isEmpty then .saying ["No battles to settle."]
  else
    .ofTexts (items.filterMap (·.line?)) (items.filterMap (·.complaint?)) (items.any (·.isSkipped))

def settleForms : List OptionForm := [⟨"--db-url", true⟩, ⟨"--log-level", true⟩]

/-- Settles the battles whose numbers are given, or else all pending ones. -/
def settleBattles (log : Log) (setting : Setting) (words : List String) (book : Book Float) :
    Outcomes :=
  let asked : Except Failure (List Int) := do
    let some line := CommandLine.read? settleForms words | throw .usage
    let some battleIds := line.operands.mapM CommandLine.wholeNumber? | throw .usage
    log.open? line.logLevel
    return battleIds
  match asked with
  | .error failure => (.error failure, book)
  | .ok battleIds =>
    let settled : Session Float Report := do
      let book ← get
      let targets := if battleIds.isEmpty then book.pendingBattles else battleIds
      let items ← Session.settleEach setting.now (targets.takeWhile Session.isStorable)
      (targets.find? (!Session.isStorable ·)).forM Session.checkRange
      return batchReport items
    settled.report book

end RaceBook
