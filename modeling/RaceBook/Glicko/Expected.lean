import RaceBook.Glicko.Parameters

/-!
# The rating scale and expected scores

Formulas are stated on an inner scale: `μ` for ratings, centred at zero, and `φ` for deviations.
`expectedScore` is the probability of beating an opponent, damped by the opponent's deviation.
-/

namespace RaceBook.Glicko

variable {R : Type} [Arithmetic R]

open Arithmetic

/-- Points of the public scale per unit of the inner one. -/
def scale : R := 173.7178

def centre : R := 1500.0

/-- A rating on the inner scale. -/
def innerRating (rating : R) : Except NumberFault R := quotient (rating - centre) scale

def innerDeviation (deviation : R) : Except NumberFault R := quotient deviation scale

def outerRating (μ : R) : R := μ * scale + centre

def outerDeviation (φ : R) : R := φ * scale

/-- How much a result against an opponent of deviation `φ` counts: `1 / √(1 + 3φ² / π²)`. -/
def weight (φ : R) : Except NumberFault R := do
  let numerator := 3.0 * (← square φ)
  let ratio ← quotient numerator (← square pi)
  quotient 1.0 (← sqrt (1.0 + ratio))

/-- The probability of beating an opponent at `μ'` with deviation `φ'`. The exponential is taken
of the negative argument, so that it cannot overflow. -/
def winProbability (μ μ' φ' : R) : Except NumberFault R := do
  let exponent := -(← weight φ') * (μ - μ')
  if 0.0 ≤ exponent then
    let e ← exp (-exponent)
    quotient e (1.0 + e)
  else
    let e ← exp exponent
    quotient 1.0 (1.0 + e)

def expectedScore (rating : R) (opponent : Standing R) : Except NumberFault R := do
  let μ ← innerRating rating
  let μ' ← innerRating opponent.rating
  let φ' ← innerDeviation opponent.deviation
  winProbability μ μ' φ'

end RaceBook.Glicko
