import RaceBook.Proofs.Pool.Remainders

/-!
# The order of the stakes does not matter

* `ranked_perm` : different wagers are ranked in one way only, however they are listed, since no two
  of them have the same remainder and the same number;
* `total_perm`, `leftover_perm` : sums do not hang on the order;
* `split_perm_stake` : so each stake is paid the same in every order;
* `split_perm` : and since wagers tell the stakes apart, each wager is.
-/

namespace RaceBook.Pool

section Ranking

variable {losing winning : Int} {winners winners' : List Stake}

/-- Different wagers are ranked in one way only. -/
theorem ranked_perm (h : winners.Perm winners') (hd : (winners.map (·.wager)).Nodup) :
    ranked losing winning winners = ranked losing winning winners' := by
  have hd' : (winners'.map (·.wager)).Nodup := (h.map _).nodup_iff.1 hd
  have hperm : (ranked losing winning winners).Perm (ranked losing winning winners') :=
    (perm_sortedBy winners).trans (h.trans (perm_sortedBy winners').symm)
  refine List.Perm.eq_of_pairwise ?_ (ahead_ranked hd) (ahead_ranked hd') hperm
  intro s t _ _ hst hts
  unfold Ahead at hst hts
  omega

theorem leftover_perm (h : winners.Perm winners') (hd : (winners.map (·.wager)).Nodup) :
    leftover losing winning winners = leftover losing winning winners' := by
  have hd' : (winners'.map (·.wager)).Nodup := (h.map _).nodup_iff.1 hd
  rw [leftover, leftover, lastOfEach_eq_self hd, lastOfEach_eq_self hd', sumOf_perm (h.map _)]

end Ranking

variable {stakes stakes' : List Stake}

theorem total_perm (h : stakes.Perm stakes') : total stakes = total stakes' :=
  sumOf_perm (h.map _)

theorem distribute_perm (team : Team) (h : stakes.Perm stakes')
    (hd : (stakes.map (·.wager)).Nodup) :
    ∃ f : Stake → Int, distribute team stakes = ⟨stakes.map fun s => s.resolve (f s), false⟩ ∧
      distribute team stakes' = ⟨stakes'.map fun s => s.resolve (f s), false⟩ := by
  have hd' : (stakes'.map (·.wager)).Nodup := (h.map _).nodup_iff.1 hd
  have hbacking : (backing team stakes).Perm (backing team stakes') := h.filter _
  have hagainst : (against team stakes).Perm (against team stakes') := h.filter _
  have hpayouts : (distribute team stakes').payouts = _ := payouts_distribute hd'
  rw [← ranked_perm hbacking (nodup_backing hd), ← leftover_perm hbacking (nodup_backing hd),
    ← total_perm hbacking, ← total_perm hagainst] at hpayouts
  exact ⟨_, congrArg (Split.mk · false) (payouts_distribute hd),
    congrArg (Split.mk · false) hpayouts⟩

theorem split_perm_stake (victor : Option Team) (h : stakes.Perm stakes')
    (hd : (stakes.map (·.wager)).Nodup) (hpos : ∀ s ∈ stakes, 0 < s.amount) :
    ∃ (f : Stake → Int) (refunded : Bool),
      split victor stakes = .ok ⟨stakes.map fun s => s.resolve (f s), refunded⟩ ∧
      split victor stakes' = .ok ⟨stakes'.map fun s => s.resolve (f s), refunded⟩ := by
  have hpos' : ∀ s ∈ stakes', 0 < s.amount := fun s hs => hpos s (h.mem_iff.2 hs)
  have hbacking : ∀ team, total (backing team stakes') = total (backing team stakes) :=
    fun team => total_perm (h.symm.filter _)
  have hagainst : ∀ team, total (against team stakes') = total (against team stakes) :=
    fun team => total_perm (h.symm.filter _)
  by_cases hside : ∀ team, victor = some team →
      total (backing team stakes) = 0 ∨ total (against team stakes) = 0
  · refine ⟨(·.amount), true, split_of_oneSided hpos hside, split_of_oneSided hpos' ?_⟩
    simpa only [hbacking, hagainst] using hside
  · simp only [not_forall, not_or] at hside
    obtain ⟨team, rfl, hw, hl⟩ := hside
    obtain ⟨f, hsplit, hsplit'⟩ := distribute_perm team h hd
    refine ⟨f, false, ?_, ?_⟩
    · rw [split_of_twoSided hpos hw hl, hsplit]
    · rw [split_of_twoSided hpos' ((hbacking team).trans_ne hw) ((hagainst team).trans_ne hl), hsplit']

/-- What is said of stakes of different wagers can be said of the wagers. -/
theorem exists_byWager (hd : (stakes.map (·.wager)).Nodup) (f : Stake → Int) :
    ∃ paid : Int → Int, ∀ s ∈ stakes, f s = paid s.wager := by
  refine ⟨fun wager => ((stakes.find? (·.wager = wager)).map f).getD 0, fun s hs => ?_⟩
  dsimp only
  rw [find?_of_nodup_map hd hs, Option.map_some, Option.getD_some]

/-- **The order of the stakes does not matter.** Positive stakes of different wagers and the same
stakes in another order are both split, and both returned or both shared out. Each wager is paid the
same, so that the payouts are in another order as the stakes are. -/
theorem split_perm (victor : Option Team) (stakes stakes' : List Stake) (h : stakes.Perm stakes')
    (hd : (stakes.map (·.wager)).Nodup) (hpos : ∀ s ∈ stakes, 0 < s.amount) :
    ∃ (paid : Int → Int) (refunded : Bool),
      split victor stakes = .ok ⟨stakes.map fun s => s.resolve (paid s.wager), refunded⟩ ∧
      split victor stakes' = .ok ⟨stakes'.map fun s => s.resolve (paid s.wager), refunded⟩ := by
  obtain ⟨f, refunded, hsplit, hsplit'⟩ := split_perm_stake victor h hd hpos
  obtain ⟨paid, hpaid⟩ := exists_byWager hd f
  have hresolve : ∀ s ∈ stakes, s.resolve (f s) = s.resolve (paid s.wager) :=
    fun s hs => congrArg s.resolve (hpaid s hs)
  refine ⟨paid, refunded, ?_, ?_⟩
  · rw [hsplit, List.map_congr_left hresolve]
  · rw [hsplit', List.map_congr_left fun s hs => hresolve s (h.mem_iff.2 hs)]

/-- Two stakes that draw for the one unit left over, with the stake against them in between. -/
def drawnStakes : List Stake := [⟨7, 20, .blue, 1⟩, ⟨9, 30, .red, 5⟩, ⟨2, 10, .blue, 1⟩]

/-- The smaller wager gets the unit wherever it stands. -/
theorem split_perm_drawnStakes :
    drawnStakes.reverse.Perm drawnStakes ∧ (drawnStakes.reverse.map (·.wager)).Nodup ∧
      (∀ s ∈ drawnStakes.reverse, 0 < s.amount) ∧
      ∃ (paid : Int → Int), paid 2 = 4 ∧ paid 7 = 3 ∧ paid 9 = 0 ∧
        split (some .blue) drawnStakes.reverse =
          .ok ⟨drawnStakes.reverse.map fun s => s.resolve (paid s.wager), false⟩ ∧
        split (some .blue) drawnStakes =
          .ok ⟨drawnStakes.map fun s => s.resolve (paid s.wager), false⟩ := by
  have hperm : drawnStakes.reverse.Perm drawnStakes := drawnStakes.reverse_perm
  have hd : (drawnStakes.reverse.map (·.wager)).Nodup := by decide
  have hpos : ∀ s ∈ drawnStakes.reverse, 0 < s.amount := by decide
  obtain ⟨paid, refunded, hsplit, hsplit'⟩ := split_perm (some .blue) _ _ hperm hd hpos
  have hrun : split (some .blue) drawnStakes =
      .ok ⟨[⟨7, 20, .blue, 1, 3⟩, ⟨9, 30, .red, 5, 0⟩, ⟨2, 10, .blue, 1, 4⟩], false⟩ := by decide
  have hsame := Except.ok.inj (hsplit'.symm.trans hrun)
  simp only [drawnStakes, List.map_cons, List.map_nil, Stake.resolve, Split.mk.injEq,
    List.cons.injEq, Payout.mk.injEq, true_and, and_true] at hsame
  obtain ⟨⟨h7, h9, h2⟩, rfl⟩ := hsame
  exact ⟨hperm, hd, hpos, paid, h2, h7, h9, hsplit, hsplit'⟩

end RaceBook.Pool
