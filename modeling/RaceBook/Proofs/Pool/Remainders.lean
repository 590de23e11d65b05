import RaceBook.Proofs.Pool.Apportionment

/-!
# The largest remainders

Over stakes of different wagers the winning stakes have one order in which the units left over are
handed out (`ahead_ranked`): the larger remainder first, then the smaller wager.

* `remainder_pos_of_mem_take` : the stakes that get a unit more are ones that rounding took something
  from, for the remainders of fewer stakes could not make up as many units;
* `count_favoured` : no stake gets more than one of them;
* `split_largestRemainders` : a pool is split by these rules, or is not split exactly when one of its
  stakes is not positive.
-/

namespace RaceBook.Pool

section Ranking

variable {losing winning : Int} {winners : List Stake}

/-- The order in which units are handed out: the larger remainder first, then the smaller wager. -/
def Ahead (losing winning : Int) (s t : Stake) : Prop :=
  losing * t.amount % winning < losing * s.amount % winning ∨
    losing * s.amount % winning = losing * t.amount % winning ∧ s.wager < t.wager

theorem precedes_iff {s t : Stake} : precedes losing winning s t = true ↔
    remainder losing winning t < remainder losing winning s ∨
      remainder losing winning s = remainder losing winning t ∧ s.wager ≤ t.wager := by
  simp [precedes]

theorem precedes_total (s t : Stake) :
    precedes losing winning s t || precedes losing winning t s := by
  rw [Bool.or_eq_true, precedes_iff, precedes_iff]
  omega

theorem precedes_trans (s t u : Stake) (hst : precedes losing winning s t)
    (htu : precedes losing winning t u) : precedes losing winning s u := by
  rw [precedes_iff] at hst htu ⊢
  omega

theorem pairwise_ranked :
    (ranked losing winning winners).Pairwise (precedes losing winning · ·) :=
  pairwise_sortedBy precedes_total precedes_trans winners

theorem nodup_ranked (hd : (winners.map (·.wager)).Nodup) :
    ((ranked losing winning winners).map (·.wager)).Nodup :=
  ((perm_sortedBy winners).map _).nodup_iff.2 hd

theorem ahead_ranked (hd : (winners.map (·.wager)).Nodup) :
    (ranked losing winning winners).Pairwise (Ahead losing winning) := by
  have hne : (ranked losing winning winners).Pairwise (·.wager ≠ ·.wager) :=
    List.pairwise_map.1 (nodup_ranked hd)
  refine pairwise_ranked.imp₂ ?_ hne
  intro s t hst hwager
  have hst := precedes_iff.1 hst
  unfold remainder at hst
  unfold Ahead
  omega

theorem length_take_ranked (hd : (winners.map (·.wager)).Nodup) (ht : total winners = winning)
    (hw : 0 < winning) :
    (((ranked losing winning winners).take (leftover losing winning winners).toNat).length : Int) =
      leftover losing winning winners := by
  have h : ((favoured losing winning winners).length : Int) = leftover losing winning winners :=
    length_favoured hd ht hw
  rwa [favoured, List.length_map] at h

/-- In a list in order whose remainders make up a unit for each of the first stakes, these stakes
have a remainder each: the others would have to make up more than they can. -/
theorem remainder_pos_of_append {first rest : List Stake} (hw : 0 < winning)
    (horder : (first ++ rest).Pairwise (precedes losing winning · ·))
    (hsum : sumOf ((first ++ rest).map (remainder losing winning)) = winning * first.length)
    {s : Stake} (hs : s ∈ first) : 0 < remainder losing winning s := by
  by_contra hzero
  -- what follows a stake without remainder has none either
  have hrest : sumOf (rest.map (remainder losing winning)) = 0 := by
    apply sumOf_map_zero
    intro t ht
    have hst := precedes_iff.1 ((List.pairwise_append.1 horder).2.2 s hs t ht)
    have : 0 ≤ remainder losing winning t := remainder_nonneg hw t
    omega
  have hfirst : sumOf (first.map (remainder losing winning)) < winning * first.length :=
    sumOf_map_lt (List.ne_nil_of_mem hs) fun t _ => remainder_lt hw t
  rw [List.map_append, sumOf_append] at hsum
  omega

/-- Only stakes that rounding took something from get a unit more. -/
theorem remainder_pos_of_mem_take (hd : (winners.map (·.wager)).Nodup)
    (ht : total winners = winning) (hw : 0 < winning) {s : Stake}
    (hs : s ∈ (ranked losing winning winners).take (leftover losing winning winners).toNat) :
    0 < remainder losing winning s := by
  have happend := List.take_append_drop (leftover losing winning winners).toNat
    (ranked losing winning winners)
  refine remainder_pos_of_append hw (happend.symm ▸ pairwise_ranked) ?_ hs
  rw [happend, length_take_ranked hd ht hw, winning_mul_leftover hd ht]
  exact sumOf_perm ((perm_sortedBy winners).map _)

theorem count_favoured (hd : (winners.map (·.wager)).Nodup) {s : Stake} (hs : s ∈ winners) :
    (favoured losing winning winners).count s.wager =
      if s ∈ (ranked losing winning winners).take (leftover losing winning winners).toNat then 1
      else 0 := by
  have hnodup : (favoured losing winning winners).Nodup :=
    (nodup_ranked hd).sublist ((List.take_sublist _ _).map _)
  have hmem : s.wager ∈ favoured losing winning winners ↔
      s ∈ (ranked losing winning winners).take (leftover losing winning winners).toNat := by
    constructor
    · intro h
      obtain ⟨t, ht, he⟩ := List.mem_map.1 h
      rwa [← List.inj_on_of_nodup_map hd (mem_sortedBy.1 (List.mem_of_mem_take ht)) hs he]
    · intro h
      exact List.mem_map_of_mem h
  simp only [hnodup.count, hmem]

end Ranking

/-! ## A split by largest remainders -/

/-- The winning stakes in the order in which the units that the rounded shares leave over are handed
out, and the number of these units. -/
structure LargestRemainders (losing winning : Int) (winners order : List Stake) (units : Int) :
    Prop where
  perm : order.Perm winners
  ahead : order.Pairwise (Ahead losing winning)
  units_eq : units = losing - sumOf (winners.map fun s => losing * s.amount / winning)
  units_nonneg : 0 ≤ units
  units_lt : units < winners.length
  remainder_pos : ∀ s ∈ order.take units.toNat, 0 < losing * s.amount % winning

theorem largestRemainders_ranked {losing winning : Int} {winners : List Stake}
    (hd : (winners.map (·.wager)).Nodup) (ht : total winners = winning) (hw : 0 < winning) :
    LargestRemainders losing winning winners (ranked losing winning winners)
      (leftover losing winning winners) where
  perm := perm_sortedBy winners
  ahead := ahead_ranked hd
  units_eq := by
    rw [leftover, lastOfEach_eq_self hd]
    rfl
  units_nonneg := leftover_nonneg hd ht hw
  units_lt := leftover_lt_length hd ht hw
  remainder_pos := fun _ hs => remainder_pos_of_mem_take hd ht hw hs

section Split

variable {stakes : List Stake} {team : Team}

theorem exists_split_error {victor : Option Team} :
    (∃ bad, split victor stakes = .error bad) ↔ ∃ s ∈ stakes, s.amount ≤ 0 := by
  constructor
  · rintro ⟨bad, h⟩
    by_contra hnone
    have hpos : ∀ s ∈ stakes, 0 < s.amount := fun s hs => Int.not_le.1 fun hle => hnone ⟨s, hs, hle⟩
    obtain ⟨sp, hok⟩ := exists_split victor hpos
    rw [hok] at h
    cases h
  · rintro ⟨s, hs, hle⟩
    cases hfind : stakes.find? (·.amount ≤ 0) with
    | none => exact absurd (decide_eq_true hle) (List.find?_eq_none.1 hfind s hs)
    | some bad =>
      unfold split
      rw [hfind]
      exact ⟨_, rfl⟩

theorem total_nonneg (h : ∀ s ∈ stakes, 0 < s.amount) : 0 ≤ total stakes :=
  sumOf_map_nonneg fun s hs => Int.le_of_lt (h s hs)

/-- With an empty side, or without a victor, the stakes are returned. -/
theorem split_of_oneSided {victor : Option Team} (h : ∀ s ∈ stakes, 0 < s.amount)
    (hside : ∀ team, victor = some team →
      total (backing team stakes) = 0 ∨ total (against team stakes) = 0) :
    split victor stakes = .ok (refund stakes) := by
  unfold split
  rw [find?_bad_eq_none h]
  cases victor with
  | none => rfl
  | some team =>
    have := hside team rfl
    dsimp only
    rw [if_pos (by omega)]

/-- With stakes on both sides the losing ones are shared out. -/
theorem split_of_twoSided (h : ∀ s ∈ stakes, 0 < s.amount)
    (hw : total (backing team stakes) ≠ 0) (hl : total (against team stakes) ≠ 0) :
    split (some team) stakes = .ok (distribute team stakes) := by
  have hbacking : 0 ≤ total (backing team stakes) :=
    total_nonneg fun s hs => h s (List.mem_of_mem_filter hs)
  have hagainst : 0 ≤ total (against team stakes) :=
    total_nonneg fun s hs => h s (List.mem_of_mem_filter hs)
  unfold split
  rw [find?_bad_eq_none h]
  dsimp only
  rw [if_neg (by omega)]

theorem payouts_distribute (hd : (stakes.map (·.wager)).Nodup) :
    (distribute team stakes).payouts = stakes.map fun s => s.resolve <|
      if s.predicted = team then
        s.amount + total (against team stakes) * s.amount / total (backing team stakes) +
          if s ∈ (ranked (total (against team stakes)) (total (backing team stakes))
              (backing team stakes)).take
            (leftover (total (against team stakes)) (total (backing team stakes))
              (backing team stakes)).toNat then 1 else 0
      else 0 := by
  unfold distribute
  apply List.map_congr_left
  intro s hs
  rw [paid_distribute hd hs]
  congr 1
  split
  next hteam =>
    have hmem : s ∈ backing team stakes := List.mem_filter.2 ⟨hs, decide_eq_true hteam⟩
    rw [count_favoured (nodup_backing hd) hmem, share]
    split <;> omega
  next => rfl

/-- **A pool is split by largest remainders**; it is refused exactly for a stake that is not
positive, and returned where a side is empty or nobody won. -/
theorem split_largestRemainders (victor : Option Team) (stakes : List Stake)
    (hd : (stakes.map (·.wager)).Nodup) :
    ((∃ bad, split victor stakes = .error bad) ↔ ∃ s ∈ stakes, s.amount ≤ 0) ∧
      ((∀ s ∈ stakes, 0 < s.amount) → ∃ sp, split victor stakes = .ok sp ∧
        sp.payouts.map (·.origin) = stakes ∧
        sumOf (sp.payouts.map (·.paid)) = total stakes ∧
        ((∀ team, victor = some team →
            total (backing team stakes) = 0 ∨ total (against team stakes) = 0) →
          sp.refunded = true ∧ ∀ p ∈ sp.payouts, p.paid = p.stake) ∧
        ∀ team losing winning, victor = some team → losing = total (against team stakes) →
          winning = total (backing team stakes) → losing ≠ 0 → winning ≠ 0 →
          sp.refunded = false ∧ ∃ order units,
            LargestRemainders losing winning (backing team stakes) order units ∧
            sp.payouts = stakes.map fun s => s.resolve <|
              if s.predicted = team then
                s.amount + losing * s.amount / winning +
                  if s ∈ order.take units.toNat then 1 else 0
              else 0) := by
  refine ⟨exists_split_error, fun hpos => ?_⟩
  obtain ⟨sp, hsp⟩ := exists_split victor hpos
  refine ⟨sp, hsp, map_origin_payouts hsp, sumOf_paid hsp hd, ?_, ?_⟩
  · intro hside
    rw [split_of_oneSided hpos hside] at hsp
    cases hsp
    refine ⟨rfl, fun p hp => ?_⟩
    obtain ⟨s, _, rfl⟩ := List.mem_map.1 hp
    rfl
  · rintro team losing winning rfl rfl rfl hl hw
    rw [split_of_twoSided hpos hw hl] at hsp
    cases hsp
    have hwinning : 0 < total (backing team stakes) := by
      have : 0 ≤ total (backing team stakes) :=
        total_nonneg fun s hs => hpos s (List.mem_of_mem_filter hs)
      omega
    exact ⟨rfl, _, _, largestRemainders_ranked (nodup_backing hd) rfl hwinning,
      payouts_distribute hd⟩

/-- One stake against three equal ones, listed from the last wager to the first. -/
def evenStakes : List Stake :=
  [⟨4, 40, .blue, 2⟩, ⟨3, 30, .red, 1⟩, ⟨2, 20, .red, 1⟩, ⟨1, 10, .red, 1⟩]

/-- The two units that three equal winning stakes share go to the first two wagers. -/
theorem split_largestRemainders_evenStakes :
    (evenStakes.map (·.wager)).Nodup ∧ ∃ sp, split (some .red) evenStakes = .ok sp ∧
      sp.refunded = false ∧ sumOf (sp.payouts.map (·.paid)) = 5 ∧
      sp.payouts.map (·.paid) = [0, 1, 2, 2] := by
  have hd : (evenStakes.map (·.wager)).Nodup := by decide
  obtain ⟨_, hok⟩ := split_largestRemainders (some .red) evenStakes hd
  obtain ⟨sp, hsp, -, hsum, -, hshared⟩ := hok (by decide)
  refine ⟨hd, sp, hsp, (hshared .red 2 3 rfl rfl rfl (by decide) (by decide)).1, hsum, ?_⟩
  have hrun : split (some .red) evenStakes = .ok
      ⟨[⟨4, 40, .blue, 2, 0⟩, ⟨3, 30, .red, 1, 1⟩, ⟨2, 20, .red, 1, 2⟩, ⟨1, 10, .red, 1, 2⟩],
        false⟩ := by decide
  rw [hrun] at hsp
  cases hsp
  rfl

end Split

end RaceBook.Pool
