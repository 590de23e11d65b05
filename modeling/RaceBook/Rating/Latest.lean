import RaceBook.Store.Table

/-!
# The latest of a list

`latest? time rows` is the row of the greatest time; of several with that time it is the last in
the list, which in a table is the one with the greatest number.
-/

namespace RaceBook

variable {α : Type} {τ : Type} [LE τ] [DecidableLE τ]

/-- The later of two, the second one when both have the same time. -/
def later (time : α → τ) (x y : α) : α := if time x ≤ time y then y else x

/-- The last of those with the greatest time. -/
def latest? (time : α → τ) : List α → Option α
  | [] => none
  | x :: rest => some (rest.foldl (later time) x)

end RaceBook
