import RaceBook.Glicko.Expected
import RaceBook.Glicko.Volatility

/-!
# One rating period for one player

`update` applies a period's results to a standing. Without results only the deviation grows, by
the elapsed fraction of the period; results that carry no information leave the standing alone.
-/

namespace RaceBook.Glicko

open Arithmetic

variable {R : Type} [Arithmetic R]

/-- One result: the opponent's rating and deviation, and the score against them. -/
structure Result (R : Type) where
  opponentRating : R
  opponentDeviation : R
  score : R
  deriving DecidableEq, Repr

/-- The deviation at the end of the elapsed fraction of a period, before any result counts. -/
def grownDeviation (φ σ fraction : R) : Except NumberFault R := do
  let φ2 ← square φ
  let σ2 ← square σ
  sqrt (φ2 + fraction * σ2)

/-- What one result contributes: its weight, the expected score and the surprise. -/
structure Contribution (R : Type) where
  weight : R
  expected : R
  surprise : R

def Result.contribution (μ : R) (r : Result R) : Except NumberFault (Contribution R) := do
  let μ' ← innerRating r.opponentRating
  let φ' ← innerDeviation r.opponentDeviation
  let g ← weight φ'
  let expected ← winProbability μ μ' φ'
  return ⟨g, expected, r.score - expected⟩

/-- The inverse of the variance of the improvement that the results show. -/
def information (cs : List (Contribution R)) : Except NumberFault R :=
  cs.foldlM (fun acc c => do return acc + (← square c.weight) * c.expected * (1.0 - c.expected)) 0.0

def totalSurprise (cs : List (Contribution R)) : R :=
  cs.foldl (fun acc c => acc + c.weight * c.surprise) 0.0

/-- A standing after a period without results: the deviation grows, up to the ceiling or to where
it already was above it. -/
def idle (current : Standing R) (φ fraction : R) (ceiling : Option R) :
    Except NumberFault (Standing R) := do
  let grown := outerDeviation (← grownDeviation φ current.volatility fraction)
  let deviation := match ceiling with
    | some top => smaller grown (larger top current.deviation)
    | none => grown
  return { current with deviation }

/-- A standing after a period with results of the given information and surprise. -/
def informed (solver : Solver R) (current : Standing R) (μ φ fraction info surprise : R) :
    Except (RatingFault R) (Standing R) := do
  let v ← quotient 1.0 info
  let σ ← solveVolatility solver φ current.volatility (v * surprise) v
  let grown ← grownDeviation φ σ fraction
  let prior ← quotient 1.0 (← square grown)
  let seen ← quotient 1.0 v
  let φ' ← quotient 1.0 (← sqrt (prior + seen))
  let μ' := μ + (← square φ') * surprise
  return ⟨outerRating μ', outerDeviation φ', σ⟩

/-- A standing after the elapsed fraction of one period and its results. -/
def update (solver : Solver R) (fraction : R) (ceiling : Option R) (current : Standing R)
    (results : List (Result R)) : Except (RatingFault R) (Standing R) := do
  unless 0.0 ≤ fraction ∧ fraction ≤ 1.0 do throw (.fractionOutOfRange fraction)
  let μ ← innerRating current.rating
  let φ ← innerDeviation current.deviation
  if results.isEmpty then return ← idle current φ fraction ceiling
  let cs ← (results.mapM (Result.contribution μ) : Except NumberFault _)
  let info ← information cs
  if info ≤ 0.0 then return current
  informed solver current μ φ fraction info (totalSurprise cs)

end RaceBook.Glicko
