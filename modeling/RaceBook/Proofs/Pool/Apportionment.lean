import Mathlib.Data.List.Nodup
import RaceBook.Pool
import RaceBook.Proofs.Lists

/-!
# Nothing is lost in a split

Over stakes of different wagers:

* `winning_mul_leftover` : the units that rounding leaves over make up the remainders, so there are
  fewer of them than winning stakes (`leftover_lt_length`) and each goes to one of these
  (`length_favoured`, `mem_of_mem_favoured`);
* `map_origin_payouts` : a split resolves every stake once, in the order of the stakes;
* `sumOf_paid` : the payouts add up to the stakes;
* `exists_split`, `paid_nonneg` : positive stakes are split, and none is paid less than nothing.
-/

namespace RaceBook.Pool

def Payout.origin (p : Payout) : Stake := ⟨p.wager, p.user, p.predicted, p.stake⟩

@[simp] theorem paid_resolve (s : Stake) (paid : Int) : (s.resolve paid).paid = paid := rfl

theorem lastOfEach_eq_self {stakes : List Stake} (h : (stakes.map (·.wager)).Nodup) :
    lastOfEach stakes = stakes := by
  induction stakes with
  | nil => rfl
  | cons s rest ih =>
    obtain ⟨hs, hrest⟩ := List.nodup_cons.1 h
    have hnone : ¬ (rest.any (·.wager = s.wager)) = true := by
      intro hany
      obtain ⟨t, ht, he⟩ := List.any_eq_true.1 hany
      exact hs (List.mem_map.2 ⟨t, ht, of_decide_eq_true he⟩)
    rw [lastOfEach, if_neg hnone, ih hrest]

/-! ## Shares and remainders -/

section Shares

variable {losing winning : Int} {winners : List Stake}

theorem winning_mul_share (s : Stake) :
    winning * share losing winning s = losing * s.amount - remainder losing winning s := by
  have := Int.mul_ediv_add_emod (losing * s.amount) winning
  unfold share remainder
  omega

theorem remainder_nonneg (hw : 0 < winning) (s : Stake) : 0 ≤ remainder losing winning s :=
  Int.emod_nonneg _ (by omega)

theorem remainder_lt (hw : 0 < winning) (s : Stake) : remainder losing winning s < winning :=
  Int.emod_lt_of_pos _ hw

theorem winning_mul_leftover (hd : (winners.map (·.wager)).Nodup) (ht : total winners = winning) :
    winning * leftover losing winning winners =
      sumOf (winners.map (remainder losing winning)) := by
  have hshares := sumOf_map_mul winning (share losing winning) winners
  have hstakes : sumOf (winners.map fun s => losing * s.amount) = losing * total winners :=
    sumOf_map_mul losing (·.amount) winners
  simp only [winning_mul_share] at hshares
  rw [sumOf_map_sub, hstakes, ht, Int.mul_comm losing] at hshares
  rw [leftover, lastOfEach_eq_self hd, Int.mul_sub]
  omega

theorem leftover_nonneg (hd : (winners.map (·.wager)).Nodup) (ht : total winners = winning)
    (hw : 0 < winning) : 0 ≤ leftover losing winning winners := by
  have hsum : 0 ≤ winning * leftover losing winning winners := by
    rw [winning_mul_leftover hd ht]
    exact sumOf_map_nonneg fun s _ => remainder_nonneg hw s
  exact Int.le_of_mul_le_mul_left (by rwa [Int.mul_zero]) hw

theorem leftover_lt_length (hd : (winners.map (·.wager)).Nodup) (ht : total winners = winning)
    (hw : 0 < winning) : leftover losing winning winners < winners.length := by
  have hne : winners ≠ [] := by
    rintro rfl
    rw [← ht] at hw
    exact absurd hw (by decide)
  have hsum : winning * leftover losing winning winners < winning * winners.length := by
    rw [winning_mul_leftover hd ht]
    exact sumOf_map_lt hne fun s _ => remainder_lt hw s
  exact Int.lt_of_mul_lt_mul_left hsum (by omega)

/-- There are enough winning stakes for all the units that rounding leaves over. -/
theorem length_favoured (hd : (winners.map (·.wager)).Nodup) (ht : total winners = winning)
    (hw : 0 < winning) :
    ((favoured losing winning winners).length : Int) = leftover losing winning winners := by
  have hnonneg : 0 ≤ leftover losing winning winners := leftover_nonneg hd ht hw
  have hlt : leftover losing winning winners < winners.length := leftover_lt_length hd ht hw
  have hranked : (ranked losing winning winners).length = winners.length :=
    (perm_sortedBy winners).length_eq
  rw [favoured, List.length_map, List.length_take, hranked]
  omega

theorem mem_of_mem_favoured {wager : Int} (h : wager ∈ favoured losing winning winners) :
    wager ∈ winners.map (·.wager) := by
  obtain ⟨s, hs, rfl⟩ := List.mem_map.1 h
  exact List.mem_map_of_mem (mem_sortedBy.1 (List.mem_of_mem_take hs))

theorem award?_of_mem {s : Stake} (hd : (winners.map (·.wager)).Nodup) (hs : s ∈ winners) :
    award? losing winning winners s.wager =
      some (share losing winning s + (favoured losing winning winners).count s.wager) := by
  rw [award?, lastOfEach_eq_self hd, find?_of_nodup_map hd hs, Option.map_some]

theorem award?_of_not_mem {wager : Int} (hd : (winners.map (·.wager)).Nodup)
    (h : wager ∉ winners.map (·.wager)) : award? losing winning winners wager = none := by
  rw [award?, lastOfEach_eq_self hd, Option.map_eq_none_iff, List.find?_eq_none]
  intro s hs he
  exact h (List.mem_map.2 ⟨s, hs, of_decide_eq_true he⟩)

/-- Beside their stakes the winners get what the others staked. -/
theorem sumOf_awards (hd : (winners.map (·.wager)).Nodup) (ht : total winners = winning)
    (hw : 0 < winning) :
    sumOf (winners.map fun s =>
      share losing winning s + ((favoured losing winning winners).count s.wager : Int)) =
        losing := by
  have hfavoured : ∀ wager ∈ favoured losing winning winners, wager ∈ winners.map (·.wager) :=
    fun _ => mem_of_mem_favoured
  have hunits := sumOf_map_count hd hfavoured
  rw [List.map_map, length_favoured hd ht hw, leftover, lastOfEach_eq_self hd] at hunits
  rw [sumOf_map_add]
  change _ + sumOf (winners.map ((fun w => ((favoured losing winning winners).count w : Int)) ∘
    (·.wager))) = losing
  omega

end Shares

/-! ## The payouts of a split -/

section Split

variable {stakes : List Stake} {team : Team}

theorem total_backing_add_against :
    total (backing team stakes) + total (against team stakes) = total stakes := by
  unfold total backing against
  rw [sumOf_map_filter, sumOf_map_filter, ← sumOf_map_add]
  congr 1
  apply List.map_congr_left
  intro s _
  by_cases h : s.predicted = team <;> simp [h]

theorem nodup_backing (hd : (stakes.map (·.wager)).Nodup) :
    ((backing team stakes).map (·.wager)).Nodup :=
  hd.sublist (List.filter_sublist.map _)

theorem paid_distribute {s : Stake} (hd : (stakes.map (·.wager)).Nodup) (hs : s ∈ stakes) :
    ((award? (total (against team stakes)) (total (backing team stakes)) (backing team stakes)
        s.wager).map (s.amount + ·)).getD 0 =
      if s.predicted = team then
        s.amount + (share (total (against team stakes)) (total (backing team stakes)) s +
          (favoured (total (against team stakes)) (total (backing team stakes))
            (backing team stakes)).count s.wager)
      else 0 := by
  split
  next hteam =>
    have hmem : s ∈ backing team stakes := List.mem_filter.2 ⟨hs, decide_eq_true hteam⟩
    rw [award?_of_mem (nodup_backing hd) hmem, Option.map_some, Option.getD_some]
  next hteam =>
    have hnot : s.wager ∉ (backing team stakes).map (·.wager) := by
      intro hmem
      obtain ⟨t, ht, he⟩ := List.mem_map.1 hmem
      obtain ⟨ht, hteam'⟩ := List.mem_filter.1 ht
      rw [List.inj_on_of_nodup_map hd ht hs he] at hteam'
      exact hteam (of_decide_eq_true hteam')
    rw [award?_of_not_mem (nodup_backing hd) hnot]
    rfl

theorem sumOf_paid_distribute (hd : (stakes.map (·.wager)).Nodup)
    (hw : 0 < total (backing team stakes)) :
    sumOf ((distribute team stakes).payouts.map (·.paid)) = total stakes := by
  have hawards : sumOf ((backing team stakes).map fun s =>
      share (total (against team stakes)) (total (backing team stakes)) s +
        ((favoured (total (against team stakes)) (total (backing team stakes))
          (backing team stakes)).count s.wager : Int)) = total (against team stakes) :=
    sumOf_awards (nodup_backing hd) rfl hw
  have hsides : total (backing team stakes) + total (against team stakes) = total stakes :=
    total_backing_add_against
  have hsplit := sumOf_map_filter (fun s => decide (s.predicted = team)) (fun s =>
    s.amount + (share (total (against team stakes)) (total (backing team stakes)) s +
      ((favoured (total (against team stakes)) (total (backing team stakes))
        (backing team stakes)).count s.wager : Int))) stakes
  change sumOf ((backing team stakes).map _) = _ at hsplit
  rw [sumOf_map_add, hawards] at hsplit
  change total (backing team stakes) + _ = _ at hsplit
  rw [distribute, List.map_map, ← hsides, hsplit]
  congr 1
  apply List.map_congr_left
  intro s hs
  rw [Function.comp_apply, paid_resolve, paid_distribute hd hs]
  simp only [decide_eq_true_eq]

theorem map_origin_payouts {victor : Option Team} {s : Split} (h : split victor stakes = .ok s) :
    s.payouts.map (·.origin) = stakes := by
  have hresolve : ∀ f : Stake → Int, (stakes.map fun t => t.resolve (f t)).map (·.origin) = stakes :=
    fun f => (List.map_map ..).trans (List.map_id _)
  unfold split at h
  split at h
  · cases h
  split at h
  · cases h
    exact hresolve _
  split at h
  · cases h
    exact hresolve _
  · cases h
    exact hresolve _

/-- **The payouts add up to the stakes.** -/
theorem sumOf_paid {victor : Option Team} {s : Split} (h : split victor stakes = .ok s)
    (hd : (stakes.map (·.wager)).Nodup) : sumOf (s.payouts.map (·.paid)) = total stakes := by
  have hrefund : sumOf ((refund stakes).payouts.map (·.paid)) = total stakes := by
    rw [refund, List.map_map]
    rfl
  unfold split at h
  split at h
  · cases h
  split at h
  · cases h
    exact hrefund
  split at h
  · cases h
    exact hrefund
  next hsides =>
    cases h
    exact sumOf_paid_distribute hd (by omega)

theorem find?_bad_eq_none (h : ∀ s ∈ stakes, 0 < s.amount) :
    stakes.find? (·.amount ≤ 0) = none :=
  List.find?_eq_none.2 fun s hs he => Int.not_le.2 (h s hs) (of_decide_eq_true he)

theorem exists_split (victor : Option Team) (h : ∀ s ∈ stakes, 0 < s.amount) :
    ∃ s, split victor stakes = .ok s := by
  unfold split
  rw [find?_bad_eq_none h]
  cases victor with
  | none => exact ⟨_, rfl⟩
  | some team =>
    dsimp only
    split
    · exact ⟨_, rfl⟩
    · exact ⟨_, rfl⟩

theorem share_nonneg {losing winning : Int} {s : Stake} (hlosing : 0 ≤ losing)
    (hwinning : 0 ≤ winning) (hs : 0 < s.amount) : 0 ≤ share losing winning s :=
  Int.ediv_nonneg (Int.mul_nonneg hlosing (Int.le_of_lt hs)) hwinning

theorem paid_nonneg {victor : Option Team} {s : Split} (h : split victor stakes = .ok s)
    (hd : (stakes.map (·.wager)).Nodup) (hpos : ∀ t ∈ stakes, 0 < t.amount) :
    ∀ p ∈ s.payouts, 0 ≤ p.paid := by
  have hrefund : ∀ p ∈ (refund stakes).payouts, 0 ≤ p.paid := by
    intro p hp
    obtain ⟨t, ht, rfl⟩ := List.mem_map.1 hp
    exact Int.le_of_lt (hpos t ht)
  unfold split at h
  split at h
  · cases h
  cases victor with
  | none =>
    cases h
    exact hrefund
  | some team =>
    dsimp only at h
    split at h
    · cases h
      exact hrefund
    next hsides =>
      cases h
      intro p hp
      obtain ⟨t, ht, rfl⟩ := List.mem_map.1 hp
      have hshare : 0 ≤ share (total (against team stakes)) (total (backing team stakes)) t :=
        share_nonneg (by omega) (by omega) (hpos t ht)
      have := hpos t ht
      rw [paid_resolve, paid_distribute hd ht]
      split <;> omega

end Split

end RaceBook.Pool
