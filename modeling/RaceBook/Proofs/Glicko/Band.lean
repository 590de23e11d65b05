import RaceBook.Proofs.Double.Order
import RaceBook.Rating.Matchup

/-!
# The band of deviations

A deviation is clamped by the greater and the lesser of two numbers, each of them the first one when
the order does not decide, as it never does for what is no number.

* `StrictlyOrdered` : numbers of which only `<` is known, and that only as a strict order;
* `Parameters.HasBand`, `Parameters.InBand` : the bounds are in order, and a deviation is a number
  between them; `Parameters.hasBand_iff` : for doubles the bounds are in order by `≤`;
* `Parameters.inBand_clamp`, `Parameters.clamp_clamp` : what a clamp gives is in the band, whatever
  it was given, and stays as it is when clamped again;
* `clamp_deviation_of_rate` : the deviation of a rating update is what a clamp gives.
-/

namespace RaceBook

variable {R : Type} [Arithmetic R]

/-- Numbers in a strict order in which every comparison with what is no number is false. -/
class StrictlyOrdered (R : Type) [Arithmetic R] : Prop extends IsStrictOrder R (· < ·) where
  not_lt_of_isNaN : ∀ x y : R, Arithmetic.isNaN x = true → ¬x < y ∧ ¬y < x

instance : StrictlyOrdered Float where
  not_lt_of_isNaN x y hnan := by
    have hx : ¬Double.IsNumber x := fun h =>
      Bool.false_ne_true ((Double.isNumber_iff_isNaN.1 h).symm.trans hnan)
    exact ⟨fun h => hx (Double.lt_iff_place.1 h).1, fun h => hx (Double.lt_iff_place.1 h).2.1⟩

theorem StrictlyOrdered.isNumber_of_lt [StrictlyOrdered R] {x y : R} (h : x < y) :
    Arithmetic.isNaN y = false :=
  Bool.eq_false_iff.2 fun hnan => (not_lt_of_isNaN y x hnan).2 h

namespace Glicko.Parameters

/-- Both bounds are numbers, and the upper one is not below the lower one. -/
structure HasBand (p : Parameters R) : Prop where
  lower : Arithmetic.isNaN p.minDeviation = false
  upper : Arithmetic.isNaN p.maxDeviation = false
  inOrder : ¬p.maxDeviation < p.minDeviation

/-- The deviation is a number, not below the lower bound and not above the upper one. -/
structure InBand (p : Parameters R) (d : R) : Prop where
  isNumber : Arithmetic.isNaN d = false
  notBelow : ¬d < p.minDeviation
  notAbove : ¬p.maxDeviation < d

theorem hasBand_iff {p : Parameters Float} : p.HasBand ↔ p.minDeviation ≤ p.maxDeviation := by
  rw [Double.le_iff_not_lt, Double.isNumber_iff_isNaN, Double.isNumber_iff_isNaN]
  exact ⟨fun h => ⟨h.lower, h.upper, h.inOrder⟩, fun ⟨hlower, hupper, h⟩ => ⟨hlower, hupper, h⟩⟩

variable [StrictlyOrdered R] {p : Parameters R} {d : R}

theorem clamp_cases (p : Parameters R) (d : R) :
    p.clamp d = p.minDeviation ∨ p.minDeviation < p.clamp d ∧ ¬p.maxDeviation < p.clamp d := by
  have hlesser : ¬p.maxDeviation < Arithmetic.smaller d p.maxDeviation := by
    unfold Arithmetic.smaller
    split
    next => exact irrefl_of (· < ·) p.maxDeviation
    next hnot => exact hnot
  unfold clamp Arithmetic.larger
  split
  next habove => exact .inr ⟨habove, hlesser⟩
  next => exact .inl rfl

/-- What a clamp gives is in the band, also for what is no number. -/
theorem inBand_clamp (h : p.HasBand) (d : R) : p.InBand (p.clamp d) := by
  rcases p.clamp_cases d with hlower | ⟨habove, hnot⟩
  · rw [hlower]
    exact ⟨h.lower, irrefl_of (· < ·) p.minDeviation, h.inOrder⟩
  · exact ⟨StrictlyOrdered.isNumber_of_lt habove, asymm_of (· < ·) habove, hnot⟩

/-- What a clamp gives stays as it is when clamped again; a deviation that is merely in the band need
not, since the order does not tell it from all others. -/
theorem clamp_clamp (h : p.HasBand) (d : R) : p.clamp (p.clamp d) = p.clamp d := by
  have hlesser : Arithmetic.smaller (p.clamp d) p.maxDeviation = p.clamp d :=
    if_neg (inBand_clamp h d).notAbove
  change Arithmetic.larger p.minDeviation (Arithmetic.smaller (p.clamp d) p.maxDeviation) = p.clamp d
  rw [hlesser, Arithmetic.larger]
  rcases p.clamp_cases d with hlower | ⟨habove, -⟩
  · rw [hlower, if_neg (irrefl_of (· < ·) p.minDeviation)]
  · exact if_pos habove

theorem inBand_of_clamp_eq (h : p.HasBand) (hd : p.clamp d = d) : p.InBand d :=
  hd ▸ inBand_clamp h d

end Glicko.Parameters

/-- A rating is the update by the results, with the deviation clamped. -/
theorem exists_update_of_rate {p : Glicko.Parameters R} {player? : Option Int} {fraction : R}
    {current standing : Standing R} {matchups : List (Matchup R)}
    (h : rate p player? fraction current matchups = .ok standing) :
    ∃ new, Glicko.update p.solver fraction (some p.maxDeviation) current
        (matchups.map (·.result)) = .ok new ∧
      standing = { new with deviation := p.clamp new.deviation } := by
  rw [rate] at h
  cases hself : matchups.find? fun m => player? = some m.opponent with
  | some m =>
    rw [hself] at h
    cases h
  | none =>
    rw [hself] at h
    cases hupdate : Glicko.update p.solver fraction (some p.maxDeviation) current
        (matchups.map (·.result)) with
    | error fault =>
      rw [hupdate] at h
      cases h
    | ok new =>
      rw [hupdate] at h
      exact ⟨new, rfl, (Except.ok.inj h).symm⟩

/-- The deviation of a rating is what a clamp gives, whatever the prior, the matchups and the fraction
are, and whatever the update makes of them. -/
theorem clamp_deviation_of_rate [StrictlyOrdered R] {p : Glicko.Parameters R} (h : p.HasBand)
    {player? : Option Int} {fraction : R} {current standing : Standing R}
    {matchups : List (Matchup R)} (hrate : rate p player? fraction current matchups = .ok standing) :
    p.clamp standing.deviation = standing.deviation := by
  obtain ⟨new, -, rfl⟩ := exists_update_of_rate hrate
  exact Glicko.Parameters.clamp_clamp h new.deviation

end RaceBook
