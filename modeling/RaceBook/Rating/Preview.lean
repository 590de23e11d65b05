import RaceBook.Rating.Close

/-!
# Previews

`Session.preview` gives the standing that a player would have if the open period ended now; the
deviation has grown by the part of the period that is over. Nothing is written.
-/

namespace RaceBook

variable {R : Type} [Arithmetic R]

/-- The part of a period of the given length that is over, between zero and one. -/
def elapsedFraction (start now : Moment) (length : Int) : Except NumberFault R := do
  let part ← Arithmetic.quotient (Arithmetic.millionths (now.since start))
    (Arithmetic.millionths length)
  return Arithmetic.smaller (Arithmetic.larger part 0.0) 1.0

/-- The standing that a player would have if the open period ended now; without an open period it
is the current one. -/
def Session.preview (config : Config R) (playerId : Int) (now : Moment) :
    Session R (Standing R) := do
  let _ ← player playerId
  match ← openPeriod? with
  | none => currentStanding playerId
  | some found =>
    let length ← config.periodLength
    let start := found.data.startedAt
    let fraction ← (elapsedFraction start now length : Except NumberFault R)
    let book ← get
    (book.provisional config ⟨start, now⟩ fraction playerId : Except _ _)

end RaceBook
