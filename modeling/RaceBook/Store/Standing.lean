import RaceBook.Store.Session

/-!
# Keeping standings

The store keeps numbers only: what is not a number is refused, and a negative zero is kept as
zero. Deviations and volatilities are positive.
-/

namespace RaceBook

variable {R : Type} [Arithmetic R]

namespace Standing

def missing? (s : Standing R) : Option NumberColumn :=
  if Arithmetic.isNaN s.rating then some .rating
  else if Arithmetic.isNaN s.deviation then some .deviation
  else if Arithmetic.isNaN s.volatility then some .volatility
  else none

/-- A standing as the store keeps it. The other two numbers are positive and stay what they
are. -/
def stored (s : Standing R) : Standing R := { s with rating := s.rating + 0.0 }

end Standing

namespace Session

/-- Refuses what the store refuses in a player's standing. -/
def checkPlayer (s : Standing R) : Session R Unit := do
  if let some column := s.missing? then throw (.constraint (.playerNumber column))
  check (0.0 < s.deviation) (.constraint .playerDeviationPositive)
  check (0.0 < s.volatility) (.constraint .playerVolatilityPositive)

def checkSnapshot (s : Standing R) : Session R Unit := do
  if let some column := s.missing? then throw (.constraint (.snapshotNumber column))
  check (0.0 < s.deviation) (.constraint .snapshotDeviationPositive)
  check (0.0 < s.volatility) (.constraint .snapshotVolatilityPositive)

end Session

end RaceBook
