/-!
# Teams and what a racer brings home

* `Team` : the two sides of a battle, written `0` and `1` in stored data;
* `Finish` : a racer's time in tics, if any, and whether their run counts at all;
* `BattleStatus` : a battle is ongoing until it is concluded or cancelled for good.
-/

namespace RaceBook

inductive Team where
  | red
  | blue
  deriving DecidableEq, Repr

namespace Team

def number : Team → Int
  | red => 0
  | blue => 1

def ofNumber? (n : Int) : Option Team :=
  if n = 0 then some red else if n = 1 then some blue else none

theorem ofNumber?_number (t : Team) : ofNumber? t.number = some t := by
  cases t <;> rfl

def other : Team → Team
  | red => blue
  | blue => red

def name : Team → String
  | red => "red"
  | blue => "blue"

/-- A team's name where it is called out. -/
def callName : Team → String
  | red => "RED"
  | blue => "BLUE"

end Team

structure Finish where
  /-- The time in tics; none for a racer who did not finish. -/
  time : Option Int
  /-- A no-contest run never beats anyone. -/
  noContest : Bool
  deriving DecidableEq, Repr

namespace Finish

def pending : Finish := ⟨none, false⟩

/-- The time that a finish counts with. -/
def countedTime? (f : Finish) : Option Int := if f.noContest then none else f.time

end Finish

inductive BattleStatus where
  | ongoing
  | concluded
  | cancelled
  deriving DecidableEq, Repr

namespace BattleStatus

/-- A concluded or cancelled battle never changes again. -/
def isTerminal : BattleStatus → Bool
  | ongoing => false
  | concluded | cancelled => true

def name : BattleStatus → String
  | ongoing => "ongoing"
  | concluded => "concluded"
  | cancelled => "cancelled"

end BattleStatus

end RaceBook
