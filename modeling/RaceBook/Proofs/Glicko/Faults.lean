import RaceBook.Glicko.Update

/-!
# What a rating is refused with

The rating update knows only numbers: whatever it is refused with, it is not that two players are
one (`Unpaired`, `unpaired_update`).
-/

namespace RaceBook.Glicko

variable {R α β : Type}

/-- Not refused as played against oneself. -/
def Unpaired (x : Except (RatingFault R) α) : Prop :=
  ∀ battle player, x ≠ .error (.selfPairing battle player)

theorem unpaired_ok (a : α) : Unpaired (.ok a : Except (RatingFault R) α) := nofun

theorem unpaired_lift (x : Except NumberFault α) :
    Unpaired (MonadLift.monadLift x : Except (RatingFault R) α) := by
  cases x <;> nofun

theorem Unpaired.bind {x : Except (RatingFault R) α} {f : α → Except (RatingFault R) β}
    (hx : Unpaired x) (hf : ∀ a, Unpaired (f a)) : Unpaired (x >>= f) := by
  cases x with
  | error fault => exact fun battle player h => hx battle player (by cases h; rfl)
  | ok a => exact hf a

theorem Unpaired.ite {c : Prop} [Decidable c] {x y : Except (RatingFault R) α} (hx : Unpaired x)
    (hy : Unpaired y) : Unpaired (if c then x else y) := by
  split
  · exact hx
  · exact hy

variable [Arithmetic R]

theorem unpaired_seekBracket (e : Evidence R) (remaining k : Nat) :
    Unpaired (e.seekBracket remaining k) := by
  induction remaining generalizing k with
  | zero => exact (unpaired_lift _).bind fun value => .ite nofun (unpaired_ok _)
  | succ remaining ih =>
    exact (unpaired_lift _).bind fun value => .ite (ih (k + 1)) (unpaired_ok _)

theorem unpaired_otherEnd (e : Evidence R) (maxIterations : Int) :
    Unpaired (e.otherEnd maxIterations) := by
  refine (unpaired_lift _).bind fun δ2 => (unpaired_lift _).bind fun φ2 => .ite ?_ ?_
  · exact unpaired_lift _
  · exact unpaired_seekBracket e _ 1

theorem unpaired_narrow (e : Evidence R) (epsilon : R) (limit : Int) (remaining : Nat)
    (s : Bracket R) : Unpaired (narrow e epsilon limit remaining s) := by
  induction remaining generalizing s with
  | zero => exact .ite nofun (unpaired_ok s)
  | succ remaining ih =>
    exact .ite ((unpaired_lift _).bind fun next => ih next) (unpaired_ok s)

theorem unpaired_firstBracket (e : Evidence R) (maxIterations : Int) :
    Unpaired (firstBracket e maxIterations) :=
  (unpaired_otherEnd e maxIterations).bind fun _ => (unpaired_lift _).bind fun _ =>
    (unpaired_lift _).bind fun _ => unpaired_ok _

theorem unpaired_solveVolatility (solver : Solver R) (φ σ δ v : R) :
    Unpaired (solveVolatility solver φ σ δ v) :=
  (unpaired_lift _).bind fun _ => (unpaired_lift _).bind fun _ =>
    (unpaired_firstBracket _ _).bind fun _ => (unpaired_narrow _ _ _ _ _).bind fun _ =>
      (unpaired_lift _).bind fun _ => unpaired_lift _

theorem unpaired_informed (solver : Solver R) (current : Standing R)
    (μ φ fraction info surprise : R) :
    Unpaired (informed solver current μ φ fraction info surprise) :=
  (unpaired_lift _).bind fun _ => (unpaired_solveVolatility _ _ _ _ _).bind fun _ =>
    (unpaired_lift _).bind fun _ => (unpaired_lift _).bind fun _ => (unpaired_lift _).bind fun _ =>
      (unpaired_lift _).bind fun _ => (unpaired_lift _).bind fun _ =>
      (unpaired_lift _).bind fun _ =>
        (unpaired_lift _).bind fun _ => unpaired_ok _

theorem unpaired_update (solver : Solver R) (fraction : R) (ceiling : Option R)
    (current : Standing R) (results : List (Result R)) :
    Unpaired (update solver fraction ceiling current results) := by
  unfold update
  dsimp only
  refine .ite ?_ nofun
  refine (unpaired_lift _).bind fun μ => (unpaired_lift _).bind fun φ => .ite ?_ ?_
  · exact unpaired_lift _
  · refine (unpaired_lift _).bind fun cs => (unpaired_lift _).bind fun info => .ite ?_ ?_
    · exact unpaired_ok current
    · exact unpaired_informed solver current μ φ fraction info _

end RaceBook.Glicko
