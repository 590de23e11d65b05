import RaceBook.Glicko.Parameters

/-!
# The volatility equation

The logarithm of the new variance is the root of `Evidence.objective`. `seekBracket` steps to the
left until the objective changes its sign, `Bracket.step` replaces one end of the bracket by the
secant's root and, when the same end is kept, halves the value remembered there, and `narrow`
repeats that until the bracket is at most `epsilon` wide.

* `RatingFault` : why a rating has no value;
* `Evidence` : what a period says about a player, and `Evidence.objective`;
* `solveVolatility` : the new volatility.
-/

namespace RaceBook.Glicko

open Arithmetic

/-- Why a rating has no value. -/
inductive RatingFault (R : Type) where
  | number (fault : NumberFault)
  /-- No sign change of the volatility equation within the permitted steps. -/
  | unbracketed
  /-- After `limit` steps the bracket was still `gap` wide. -/
  | notConverged (limit : Int) (gap : R)
  /-- A period's elapsed part is a fraction from zero to one. -/
  | fractionOutOfRange (fraction : R)
  | selfPairing (battle player : Int)
  deriving DecidableEq, Repr

/-- Whether the volatility equation was not solved; all other faults are errors of the data. -/
def RatingFault.isDivergence {R : Type} : RatingFault R → Bool
  | .unbracketed | .notConverged .. => true
  | _ => false

instance {R : Type} : MonadLift (Except NumberFault) (Except (RatingFault R)) where
  monadLift
    | .ok x => .ok x
    | .error e => .error (.number e)

variable {R : Type} [Arithmetic R]

/-- What a period says about a player, on the inner scale. -/
structure Evidence (R : Type) where
  /-- The player's deviation `φ`. -/
  deviation : R
  /-- The estimated improvement `δ`. -/
  improvement : R
  /-- The variance `v` of that estimate. -/
  variance : R
  /-- The logarithm of the old variance. -/
  anchor : R
  tau : R

/-- The function of the logarithm of the variance whose root is looked for. -/
def Evidence.objective (e : Evidence R) (x : R) : Except NumberFault R := do
  let ex ← exp x
  let δ2 ← square e.improvement
  let φ2 ← square e.deviation
  let numerator := ex * (δ2 - φ2 - e.variance - ex)
  let denominator := 2.0 * (← square (φ2 + e.variance + ex))
  let pull ← quotient numerator denominator
  let push ← quotient (x - e.anchor) (← square e.tau)
  return pull - push

/-- The `k`-th trial point to the left of the anchor. -/
def Evidence.trial (e : Evidence R) (k : Nat) : R := e.anchor - (k : R) * e.tau

/-- Steps to the left from the `k`-th trial point until the objective is not negative, at most
`remaining` steps. -/
def Evidence.seekBracket (e : Evidence R) : (remaining k : Nat) → Except (RatingFault R) R
  | 0, k => do
    if (← e.objective (e.trial k)) < 0.0 then throw .unbracketed
    return e.trial k
  | remaining + 1, k => do
    if (← e.objective (e.trial k)) < 0.0 then e.seekBracket remaining (k + 1)
    else return e.trial k

/-- The second end of the first bracket; the anchor is the first end. -/
def Evidence.otherEnd (e : Evidence R) (maxIterations : Int) : Except (RatingFault R) R := do
  let δ2 ← square e.improvement
  let φ2 ← square e.deviation
  if φ2 + e.variance < δ2 then return ← log (δ2 - φ2 - e.variance)
  else e.seekBracket (maxIterations - 1).toNat 1

/-- The ends `a` and `b` of a bracket. `fb` is the objective at `b`; `fa` is the objective at
`a`, halved once for every step that kept `a`. -/
structure Bracket (R : Type) where
  a : R
  fa : R
  b : R
  fb : R
  deriving DecidableEq, Repr

/-- The root of the secant, or the midpoint when the secant is level. -/
def Bracket.guess (s : Bracket R) : Except NumberFault R := do
  if s.fb == s.fa then quotient (s.a + s.b) 2.0
  else return s.a + (← quotient ((s.a - s.b) * s.fa) (s.fb - s.fa))

/-- The next bracket. The new end is the guess; the other end is `b` when the objective changes
its sign between the two, and else stays `a`, with half its value. -/
def Bracket.step (e : Evidence R) (s : Bracket R) : Except NumberFault (Bracket R) := do
  let c ← s.guess
  let fc ← e.objective c
  if fc * s.fb ≤ 0.0 then return ⟨s.b, s.fb, c, fc⟩
  else return ⟨s.a, ← quotient s.fa 2.0, c, fc⟩

def Bracket.gap (s : Bracket R) : R := Arithmetic.abs (s.b - s.a)

/-- Narrows a bracket to at most `epsilon`, in at most `remaining` steps of the `limit`. -/
def narrow (e : Evidence R) (epsilon : R) (limit : Int) :
    (remaining : Nat) → Bracket R → Except (RatingFault R) (Bracket R)
  | 0, s => do
    if epsilon < s.gap then throw (.notConverged limit s.gap)
    return s
  | remaining + 1, s => do
    if epsilon < s.gap then narrow e epsilon limit remaining (← s.step e)
    else return s

def firstBracket (e : Evidence R) (maxIterations : Int) : Except (RatingFault R) (Bracket R) := do
  let b ← e.otherEnd maxIterations
  let fa ← e.objective e.anchor
  let fb ← e.objective b
  return ⟨e.anchor, fa, b, fb⟩

/-- The new volatility of a player of deviation `φ` and volatility `σ`, whose results show the
improvement `δ` with variance `v`. -/
def solveVolatility (solver : Solver R) (φ σ δ v : R) : Except (RatingFault R) R := do
  let anchor ← log (← square σ)
  let e : Evidence R := ⟨φ, δ, v, anchor, solver.tau⟩
  let first ← firstBracket e solver.maxIterations
  let last ← narrow e solver.epsilon solver.maxIterations solver.maxIterations.toNat first
  exp (← quotient last.a 2.0)

end RaceBook.Glicko
