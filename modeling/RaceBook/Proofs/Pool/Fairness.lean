import Mathlib.Algebra.Order.Field.Basic
import Mathlib.Algebra.Order.Field.Rat
import Mathlib.Tactic.FieldSimp
import RaceBook.Proofs.Pool.Remainders

/-!
# Fairness between winners

What a winning stake gains is its rounded share and at most one of the units left over (`gain`).

* `LargestRemainders.mem_take_of_ahead` : a stake that is ahead of one with a unit has one too;
* `LargestRemainders.gain_mono` : a larger stake gains no less, for where the rounded shares are
  equal it has the larger remainder;
* `LargestRemainders.gain_equal` : of equal stakes the earlier wager gains no less, and at most one
  unit more;
* `LargestRemainders.winning_mul_gain` : every gain is within one unit of the exact share;
* `split_fair` : so a pool that is shared out is fair to its winners.
-/

namespace RaceBook.Pool

section Gain

variable {losing winning units : Int} {winners order : List Stake} {s t : Stake}

def gain (losing winning : Int) (order : List Stake) (units : Int) (s : Stake) : Int :=
  losing * s.amount / winning + if s ∈ order.take units.toNat then 1 else 0

theorem gain_nonneg (hl : 0 < losing) (hw : 0 < winning) (hs : 0 < s.amount) :
    0 ≤ gain losing winning order units s := by
  have hshare : 0 ≤ losing * s.amount / winning :=
    Int.ediv_nonneg (Int.mul_nonneg (Int.le_of_lt hl) (Int.le_of_lt hs)) (Int.le_of_lt hw)
  unfold gain
  split <;> omega

theorem ahead_asymm (h : Ahead losing winning s t) : ¬Ahead losing winning t s := by
  unfold Ahead at h ⊢
  omega

namespace LargestRemainders

theorem mem_take_of_ahead (h : LargestRemainders losing winning winners order units)
    (hs : s ∈ winners) (ht : t ∈ order.take units.toNat) (hst : Ahead losing winning s t) :
    s ∈ order.take units.toNat := by
  have horder : s ∈ order.take units.toNat ++ order.drop units.toNat := by
    rw [List.take_append_drop]
    exact h.perm.mem_iff.2 hs
  rcases List.mem_append.1 horder with hfirst | hrest
  · exact hfirst
  · have hahead := h.ahead
    rw [← List.take_append_drop units.toNat order, List.pairwise_append] at hahead
    exact absurd (hahead.2.2 t ht s hrest) (ahead_asymm hst)

theorem gain_le_of_ahead (h : LargestRemainders losing winning winners order units)
    (ht : t ∈ winners) (hshare : losing * s.amount / winning = losing * t.amount / winning)
    (hts : Ahead losing winning t s) :
    gain losing winning order units s ≤ gain losing winning order units t := by
  unfold gain
  rw [hshare]
  by_cases hs : s ∈ order.take units.toNat
  · rw [if_pos hs, if_pos (h.mem_take_of_ahead ht hs hts)]
  · rw [if_neg hs]
    split <;> omega

/-- **A larger stake gains no less.** -/
theorem gain_mono (h : LargestRemainders losing winning winners order units) (hl : 0 < losing)
    (hw : 0 < winning) (ht : t ∈ winners) (hst : s.amount < t.amount) :
    gain losing winning order units s ≤ gain losing winning order units t := by
  have hmul : losing * s.amount < losing * t.amount := Int.mul_lt_mul_of_pos_left hst hl
  have hle : losing * s.amount / winning ≤ losing * t.amount / winning :=
    Int.ediv_le_ediv hw (Int.le_of_lt hmul)
  rcases Int.lt_or_eq_of_le hle with hlt | heq
  · -- a whole unit makes up for one that the smaller stake may have got
    unfold gain
    split <;> split <;> omega
  · refine h.gain_le_of_ahead ht heq (.inl ?_)
    have hs := Int.mul_ediv_add_emod (losing * s.amount) winning
    have ht := Int.mul_ediv_add_emod (losing * t.amount) winning
    rw [heq] at hs
    omega

/-- **Of equal stakes the earlier wager gains no less**, and at most one unit more. -/
theorem gain_equal (h : LargestRemainders losing winning winners order units)
    (hs : s ∈ winners) (hst : s.amount = t.amount) (hwager : s.wager < t.wager) :
    gain losing winning order units t ≤ gain losing winning order units s ∧
      gain losing winning order units s ≤ gain losing winning order units t + 1 := by
  refine ⟨h.gain_le_of_ahead hs (by rw [hst]) (.inr ⟨by rw [hst], hwager⟩), ?_⟩
  unfold gain
  rw [hst]
  split <;> split <;> omega

/-- A gain differs from the exact share by less than a unit. -/
theorem winning_mul_gain (h : LargestRemainders losing winning winners order units)
    (hw : 0 < winning) :
    losing * s.amount - winning < winning * gain losing winning order units s ∧
      winning * gain losing winning order units s < losing * s.amount + winning := by
  have hdiv := Int.mul_ediv_add_emod (losing * s.amount) winning
  have hnonneg := Int.emod_nonneg (losing * s.amount) (Int.ne_of_gt hw)
  have hlt := Int.emod_lt_of_pos (losing * s.amount) hw
  unfold gain
  split
  next hs =>
    have hpos := h.remainder_pos s hs
    rw [Int.mul_add]
    omega
  next =>
    rw [Int.add_zero]
    omega

end LargestRemainders

end Gain

/-! ## The winners of a pool -/

/-- What the winners of a pool may expect of their payouts. -/
structure Fair (losing winning : Int) (winners : List Payout) : Prop where
  net_nonneg : ∀ p ∈ winners, 0 ≤ p.net
  net_near : ∀ p ∈ winners, |(p.net : ℚ) - losing * p.stake / winning| < 1
  net_mono : ∀ p ∈ winners, ∀ q ∈ winners, p.stake < q.stake → p.net ≤ q.net ∧ p.paid < q.paid
  net_equal : ∀ p ∈ winners, ∀ q ∈ winners, p.stake = q.stake → p.wager < q.wager →
    q.net ≤ p.net ∧ p.net ≤ q.net + 1

section Split

variable {stakes : List Stake} {team : Team}

theorem exists_of_mem_winners (hd : (stakes.map (·.wager)).Nodup) {p : Payout}
    (hp : p ∈ (distribute team stakes).payouts.filter (·.predicted = team)) :
    ∃ s ∈ backing team stakes, p.stake = s.amount ∧ p.wager = s.wager ∧
      p.paid = s.amount + p.net ∧
      p.net = gain (total (against team stakes)) (total (backing team stakes))
        (ranked (total (against team stakes)) (total (backing team stakes)) (backing team stakes))
        (leftover (total (against team stakes)) (total (backing team stakes))
          (backing team stakes)) s := by
  obtain ⟨hp, hteam⟩ := List.mem_filter.1 hp
  rw [payouts_distribute hd] at hp
  obtain ⟨s, hs, rfl⟩ := List.mem_map.1 hp
  have hpredicted : s.predicted = team := of_decide_eq_true hteam
  refine ⟨s, List.mem_filter.2 ⟨hs, hteam⟩, rfl, rfl, ?_, ?_⟩
  · unfold Payout.net Stake.resolve
    dsimp only
    omega
  · unfold Payout.net Stake.resolve gain
    rw [if_pos hpredicted]
    dsimp only
    omega

/-- What is not refunded is shared out among the stakes on the victor. -/
theorem eq_distribute_of_split {victor : Option Team} {sp : Split}
    (h : split victor stakes = .ok sp) (hshared : sp.refunded = false) :
    ∃ team, victor = some team ∧ 0 < total (backing team stakes) ∧
      0 < total (against team stakes) ∧ sp = distribute team stakes := by
  unfold split at h
  split at h
  · cases h
  cases victor with
  | none =>
    cases h
    cases hshared
  | some team =>
    dsimp only at h
    split at h
    · cases h
      cases hshared
    next hsides =>
      cases h
      exact ⟨team, rfl, by omega, by omega, rfl⟩

theorem fair_distribute (hd : (stakes.map (·.wager)).Nodup) (hpos : ∀ s ∈ stakes, 0 < s.amount)
    (hw : 0 < total (backing team stakes)) (hl : 0 < total (against team stakes)) :
    Fair (total (against team stakes)) (total (backing team stakes))
      ((distribute team stakes).payouts.filter (·.predicted = team)) := by
  have hlargest : LargestRemainders (total (against team stakes)) _ _ _ _ :=
    largestRemainders_ranked (nodup_backing hd) rfl hw
  refine ⟨fun p hp => ?_, fun p hp => ?_, fun p hp q hq hlt => ?_, fun p hp q hq heq hwager => ?_⟩
  · obtain ⟨s, hs, -, -, -, hgain⟩ := exists_of_mem_winners hd hp
    rw [hgain]
    exact gain_nonneg hl hw (hpos s (List.mem_of_mem_filter hs))
  · obtain ⟨s, -, hstake, -, -, hgain⟩ := exists_of_mem_winners hd hp
    obtain ⟨hlow, hhigh⟩ := hlargest.winning_mul_gain (s := s) hw
    rw [← hgain, ← hstake] at hlow hhigh
    have hwinning : (0 : ℚ) < total (backing team stakes) := by exact_mod_cast hw
    have hdiff : (p.net : ℚ) - total (against team stakes) * p.stake / total (backing team stakes) =
        ((total (backing team stakes) * p.net - total (against team stakes) * p.stake : Int) : ℚ) /
          total (backing team stakes) := by
      push_cast
      field_simp
    rw [hdiff, abs_div, abs_of_pos hwinning, div_lt_one hwinning]
    exact_mod_cast abs_lt.2 ⟨by omega, by omega⟩
  · obtain ⟨s, _, hstake, -, hpaid, hgain⟩ := exists_of_mem_winners hd hp
    obtain ⟨t, ht, hstake', -, hpaid', hgain'⟩ := exists_of_mem_winners hd hq
    have hamount : s.amount < t.amount := by rwa [← hstake, ← hstake']
    have hmono := hlargest.gain_mono hl hw ht hamount
    rw [← hgain, ← hgain'] at hmono
    exact ⟨hmono, by omega⟩
  · obtain ⟨s, hs, hstake, hwager', -, hgain⟩ := exists_of_mem_winners hd hp
    obtain ⟨t, -, hstake', hwager'', -, hgain'⟩ := exists_of_mem_winners hd hq
    rw [hgain, hgain']
    exact hlargest.gain_equal hs (by omega) (by omega)

/-- **A pool that is shared out is fair to its winners**, whatever the positive stakes are. -/
theorem split_fair (victor : Option Team) (stakes : List Stake)
    (hd : (stakes.map (·.wager)).Nodup) (hpos : ∀ s ∈ stakes, 0 < s.amount) :
    ∃ sp, split victor stakes = .ok sp ∧ sp.payouts.map (·.origin) = stakes ∧
      (sp.refunded = false → ∃ team, victor = some team ∧ 0 < total (backing team stakes) ∧
        Fair (total (against team stakes)) (total (backing team stakes))
          (sp.payouts.filter (·.predicted = team))) := by
  obtain ⟨sp, hsp⟩ := exists_split victor hpos
  refine ⟨sp, hsp, map_origin_payouts hsp, fun hshared => ?_⟩
  obtain ⟨team, hvictor, hw, hl, rfl⟩ := eq_distribute_of_split hsp hshared
  exact ⟨team, hvictor, hw, fair_distribute hd hpos hw hl⟩

/-- Three stakes of one unit and one of two share three units. -/
def smallStakes : List Stake :=
  [⟨5, 50, .blue, 3⟩, ⟨4, 40, .red, 1⟩, ⟨3, 30, .red, 2⟩, ⟨2, 20, .red, 1⟩, ⟨1, 10, .red, 1⟩]

/-- Two of the stakes of one unit net as much as the stake of two, and the last wager nothing. -/
theorem split_fair_smallStakes :
    (smallStakes.map (·.wager)).Nodup ∧ (∀ s ∈ smallStakes, 0 < s.amount) ∧
      ∃ sp, split (some .red) smallStakes = .ok sp ∧ sp.refunded = false ∧
        (sp.payouts.filter (·.predicted = .red)).map (·.net) = [0, 1, 1, 1] ∧
        Fair 3 5 (sp.payouts.filter (·.predicted = .red)) := by
  have hd : (smallStakes.map (·.wager)).Nodup := by decide
  have hpos : ∀ s ∈ smallStakes, 0 < s.amount := by decide
  obtain ⟨sp, hsp, -, hfair⟩ := split_fair (some .red) smallStakes hd hpos
  have hrun : split (some .red) smallStakes = .ok
      ⟨[⟨5, 50, .blue, 3, 0⟩, ⟨4, 40, .red, 1, 1⟩, ⟨3, 30, .red, 2, 3⟩, ⟨2, 20, .red, 1, 2⟩,
        ⟨1, 10, .red, 1, 2⟩], false⟩ := by decide
  obtain rfl := Except.ok.inj (hsp.symm.trans hrun)
  obtain ⟨team, hteam, -, hfair⟩ := hfair rfl
  cases hteam
  exact ⟨hd, hpos, _, hrun, rfl, rfl, hfair⟩

end Split

end RaceBook.Pool
