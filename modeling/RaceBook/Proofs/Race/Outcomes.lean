import RaceBook.Arithmetic.Double
import RaceBook.Race.Outcome

/-!
# The two sides of a race

* `Outcome.swapped` : the outcome for the other side; `Outcome.swapped_of` : this is the outcome of
  the two finishes the other way round;
* `Outcome.score_add_swapped` : the two sides share one point.
-/

namespace RaceBook.Outcome

def swapped : Outcome → Outcome
  | win => loss
  | loss => win
  | draw => draw

theorem swapped_ofTimes (mine theirs : Option Int) :
    (ofTimes mine theirs).swapped = ofTimes theirs mine := by
  cases mine with
  | none => cases theirs <;> rfl
  | some s => cases theirs with
    | none => rfl
    | some t =>
      rw [ofTimes, ofTimes]
      rcases Int.lt_trichotomy s t with hlt | rfl | hgt
      · rw [if_pos hlt, if_neg (Int.lt_asymm hlt), if_pos hlt]
        rfl
      · rw [if_neg (Int.lt_irrefl s), if_neg (Int.lt_irrefl s)]
        rfl
      · rw [if_neg (Int.lt_asymm hgt), if_pos hgt, if_pos hgt]
        rfl

/-- Seen from the other side a win is a loss and a draw is a draw. -/
theorem swapped_of (mine theirs : Finish) : (of mine theirs).swapped = of theirs mine := by
  unfold of
  cases mine.noContest <;> cases theirs.noContest
  · exact swapped_ofTimes mine.time theirs.time
  all_goals rfl

theorem score_add_swapped (o : Outcome) : (o.score : Float) + o.swapped.score = 1.0 := by
  cases o <;> decide +kernel

end RaceBook.Outcome
