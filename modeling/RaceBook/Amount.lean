/-!
# Sums of amounts

Stakes, payouts and ledger entries are whole numbers of one currency.

* `sumOf` : what amounts add up to.
-/

namespace RaceBook

def sumOf (amounts : List Int) : Int := amounts.foldr (· + ·) 0

@[simp] theorem sumOf_nil : sumOf [] = 0 := rfl

@[simp] theorem sumOf_cons (a : Int) (rest : List Int) : sumOf (a :: rest) = a + sumOf rest := rfl

@[simp] theorem sumOf_append (as bs : List Int) : sumOf (as ++ bs) = sumOf as + sumOf bs := by
  induction as with
  | nil => simp
  | cons a rest ih => simp [ih, Int.add_assoc]

end RaceBook
