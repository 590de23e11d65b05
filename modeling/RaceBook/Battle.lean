import RaceBook.Player

/-!
# Battles

A battle takes entrants and results until it is concluded or cancelled; from then on nothing of
it changes.

* `Session.createBattle`, `Session.addParticipant`, `Session.reportResult`,
  `Session.concludeBattle`;
* `Session.battle`, `Session.ongoingBattle` : the battle of a number.
-/

namespace RaceBook.Session

variable {R : Type}

def battle (id : Int) : Session R (Row Battle) := do
  demand ((← get).battles.find? id) (.notFound (.battle id))

/-- The battle of a number, which has not ended. -/
def ongoingBattle (id : Int) : Session R (Row Battle) := do
  let found ← battle id
  check (!found.data.status.isTerminal) (.violation (.battleEnded id found.data.status))
  return found

/-- The participants of a battle; none for a battle that does not exist. -/
def participants (battle : Int) : Session R (List (Row Participant)) :=
  read (·.participantsOf battle)

def team (number : Int) : Session R Team :=
  demand (Team.ofNumber? number) (.invalid (.team number))

/-- Announces a battle on which wagers close at the given time. -/
def createBattle (levelName : String) (closesAt now : Moment) : Session R (Row Battle) := do
  check (now ≤ closesAt) (.invalid (.closesBeforeCreation closesAt now))
  let entry : Battle := ⟨levelName, .ongoing, now, closesAt, none⟩
  let id := (← get).battles.nextId
  modify fun book => { book with battles := book.battles.append entry }
  return ⟨id, entry⟩

/-- Enters a player into a battle for the team of the given number. -/
def addParticipant (battleId playerId teamNumber : Int) : Session R (Row Participant) := do
  let _ ← ongoingBattle battleId
  let _ ← player playerId
  let known? ← read (·.participant? battleId playerId)
  check known?.isNone (.violation (.alreadyParticipates playerId battleId))
  let entry : Participant := ⟨battleId, playerId, ← team teamNumber, .pending⟩
  let id := (← get).participants.nextId
  modify fun book => { book with participants := book.participants.append entry }
  return ⟨id, entry⟩

def reportResult (battleId playerId : Int) (finish : Finish) : Session R (Row Participant) := do
  let _ ← ongoingBattle battleId
  if let some tics := finish.time then
    check (0 ≤ tics) (.invalid (.finishTime tics))
  let known ← demand (← read (·.participant? battleId playerId))
    (.notFound (.participant battleId playerId))
  modify fun book =>
    { book with participants := book.participants.modify known.id ({ · with finish }) }
  return ⟨known.id, { known.data with finish }⟩

def concludeBattle (battleId : Int) (now : Moment) (cancelled : Bool) : Session R (Row Battle) := do
  let known ← ongoingBattle battleId
  let status : BattleStatus := if cancelled then .cancelled else .concluded
  let ended : Battle → Battle := ({ · with status, concludedAt := some now })
  modify fun book => { book with battles := book.battles.modify known.id ended }
  return ⟨known.id, ended known.data⟩

end RaceBook.Session
