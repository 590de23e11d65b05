import RaceBook.Arithmetic

/-!
# Standings and rating parameters

* `Standing` : a player's rating, deviation and volatility on the public scale, centred at 1500;
* `Parameters` : what a rating system fixes, with its usual values `Parameters.standard`;
* `Parameters.clamp` : a deviation brought into the band from `minDeviation` to `maxDeviation`.
-/

namespace RaceBook

/-- How strong a player is held to be, how sure that is and how much it fluctuates. -/
structure Standing (R : Type) where
  rating : R
  deviation : R
  volatility : R
  deriving DecidableEq, Repr

namespace Glicko

/-- How the root of the volatility equation is looked for. -/
structure Solver (R : Type) where
  /-- The width of the steps by which the root is bracketed, and the constraint on the change. -/
  tau : R
  /-- A bracket no wider than this ends the search. -/
  epsilon : R
  maxIterations : Int
  deriving DecidableEq, Repr

/-- What a rating system fixes. -/
structure Parameters (R : Type) where
  initial : Standing R
  solver : Solver R
  periodDays : R
  minDeviation : R
  maxDeviation : R
  deriving DecidableEq, Repr

namespace Parameters

variable {R : Type} [Arithmetic R]

/-- The usual values: a new player stands at 1500 with deviation 350 and volatility 0.06, and a
period lasts a day. -/
def standard : Parameters R where
  initial := ⟨1500.0, 350.0, 0.06⟩
  solver := ⟨0.5, 1e-6, 1000⟩
  periodDays := 1.0
  minDeviation := 30.0
  maxDeviation := 350.0

/-- A deviation brought into the band. -/
def clamp (p : Parameters R) (deviation : R) : R :=
  Arithmetic.larger p.minDeviation (Arithmetic.smaller deviation p.maxDeviation)

end Parameters

end Glicko

end RaceBook
