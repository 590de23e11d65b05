import RaceBook.Proofs.Settlement.Batch

/-!
# What a batch of settlements comes to

* `Book.PaysEach` : the payouts of the pending battles of a list are recorded, and nothing else was
  paid out (`Clears.paysEach`);
* `Book.SettledAlike` : two books agree on balances, marks and payouts; so do the books after lists
  of the same numbers (`Clears.settledAlike`);
* `Clears.pendingBattles_eq_nil` : no pending battle is left after all of them;
* `Book.Skips` : a battle that does not exist or has not ended; the others are answered with the
  payouts of all their stakes (`Book.any_isSkipped_answers`, `Book.totalPaid_of_mem_answers`);
* `Book.answers_pendingBattles` : all pending battles are settled for the first time.
-/

namespace RaceBook

variable {R : Type} {book later other : Book R} {ids ids' before : List Int} {id : Int}
  {now : Moment}

namespace Book

/-! ## All pending battles -/

theorem pendingBattles_eq :
    book.pendingBattles = (book.battles.rows.filter book.isPending).map (·.id) := rfl

theorem mem_pendingBattles {found : Row Battle} (hmem : found ∈ book.battles.rows) :
    found.id ∈ book.pendingBattles ↔ book.isPending found = true := by
  rw [pendingBattles_eq, List.mem_map]
  constructor
  · rintro ⟨b, hb, hid⟩
    obtain ⟨hb, hpending⟩ := List.mem_filter.1 hb
    exact Table.eq_of_id_eq hb hmem hid ▸ hpending
  · exact fun hpending => ⟨found, List.mem_filter.2 ⟨hmem, hpending⟩, rfl⟩

theorem Clears.pendingBattles_eq_nil (h : book.Clears later book.pendingBattles now) :
    later.pendingBattles = [] := by
  rw [pendingBattles_eq, h.battles, List.map_eq_nil_iff, List.filter_eq_nil_iff]
  intro b hb hpending
  obtain ⟨hended, hunmarked⟩ := isPending_iff.1 hpending
  have hmarks := h.isSome_settlement? hb hended
  rw [hunmarked, Option.isSome_none, eq_comm, Bool.or_eq_false_iff] at hmarks
  have hbefore : book.isPending b = true := isPending_iff.2 ⟨hended, by simpa using hmarks.1⟩
  have hlisted := List.contains_iff_mem.2 ((mem_pendingBattles hb).2 hbefore)
  rw [hlisted] at hmarks
  cases hmarks.2

/-! ## Answers -/

def Skips (book : Book R) (id : Int) : Prop :=
  ∀ found, book.battles.find? id = some found → found.data.status = .ongoing

theorem isSkipped_answer : (book.answer before id).isSkipped = true ↔ book.Skips id := by
  unfold Skips
  cases hfound : book.battles.find? id with
  | none => simp [answer_of_unknown hfound, BatchItem.isSkipped]
  | some found =>
    cases hstatus : found.data.status with
    | ongoing =>
      simp [answer_of_ongoing hfound (by rw [hstatus]; rfl), BatchItem.isSkipped, hstatus]
    | concluded | cancelled =>
      simp [answer_of_ended hfound (by rw [hstatus]; rfl), BatchItem.isSkipped, hstatus]

theorem any_isSkipped_answers :
    (book.answers before ids).any (·.isSkipped) = true ↔ ∃ id ∈ ids, book.Skips id := by
  induction ids generalizing before with
  | nil => simp [answers]
  | cons id rest ih =>
    rw [answers, List.any_cons, Bool.or_eq_true, isSkipped_answer, ih]
    simp only [List.mem_cons, exists_eq_or_imp]

theorem exists_answer {item : BatchItem} (h : item ∈ book.answers before ids) :
    ∃ before', ∃ id ∈ ids, item = book.answer before' id := by
  induction ids generalizing before with
  | nil => cases h
  | cons id rest ih =>
    rcases List.mem_cons.1 h with rfl | h
    · exact ⟨before, id, List.mem_cons_self, rfl⟩
    · obtain ⟨before', id', hid, hitem⟩ := ih h
      exact ⟨before', id', List.mem_cons_of_mem id hid, hitem⟩

theorem answers_map_pending {l : List (Row Battle)} (hd : (l.map (·.id)).Nodup)
    (hnew : ∀ b ∈ l, b.id ∉ before)
    (hpending : ∀ b ∈ l, b ∈ book.battles.rows ∧ book.isPending b = true) :
    book.answers before (l.map (·.id)) =
      l.map fun b => .resolved ⟨b.id, book.victorOf b, book.payoutsOn b, false⟩ := by
  induction l generalizing before with
  | nil => rfl
  | cons b rest ih =>
    obtain ⟨hb, hrest⟩ := List.nodup_cons.1 hd
    obtain ⟨hmem, hbpending⟩ := hpending b List.mem_cons_self
    obtain ⟨hended, hunmarked⟩ := isPending_iff.1 hbpending
    have hfirst : ((book.settlement? b.id).isSome || before.contains b.id) = false := by
      simpa [hunmarked] using hnew b List.mem_cons_self
    have hlater : ∀ c ∈ rest, c.id ∉ before ++ [b.id] := by
      intro c hc hlisted
      rcases List.mem_append.1 hlisted with hlisted | hlisted
      · exact hnew c (List.mem_cons_of_mem b hc) hlisted
      · exact hb (List.mem_map.2 ⟨c, hc, List.mem_singleton.1 hlisted⟩)
    rw [List.map_cons, answers, List.map_cons, answer_of_ended (Table.find?_of_mem hmem) hended,
      hfirst, ih hrest hlater fun c hc => hpending c (List.mem_cons_of_mem b hc)]

theorem answers_pendingBattles :
    book.answers [] book.pendingBattles = (book.battles.rows.filter book.isPending).map fun b =>
      .resolved ⟨b.id, book.victorOf b, book.payoutsOn b, false⟩ := by
  rw [pendingBattles_eq]
  refine answers_map_pending ?_ (fun _ _ => List.not_mem_nil) fun b hb => List.mem_filter.1 hb
  exact book.battles.nodup_ids.sublist (List.filter_sublist.map _)

variable [Arithmetic R]

theorem totalPaid_of_mem_answers (h : Reachable book) {r : Resolution}
    (hr : .resolved r ∈ book.answers before ids) : r.totalPaid = r.totalStaked := by
  obtain ⟨before', id, -, hanswer⟩ := exists_answer hr
  cases hfound : book.battles.find? id with
  | none =>
    rw [answer_of_unknown hfound] at hanswer
    cases hanswer
  | some found =>
    obtain rfl := Table.id_of_find? hfound
    cases hended : found.data.status.isTerminal with
    | false =>
      rw [answer_of_ongoing hfound hended] at hanswer
      cases hanswer
    | true =>
      rw [answer_of_ended hfound hended] at hanswer
      cases hanswer
      obtain ⟨split, hsplit⟩ := h.exists_split found
      have hstakes : sumOf (split.payouts.map (·.stake)) =
          Pool.total ((book.wagersOn found.id).map (·.stake)) := by
        rw [Pool.total, ← Pool.map_origin_payouts hsplit, List.map_map]
        rfl
      rw [Resolution.totalPaid, Resolution.totalStaked, payoutsOn_of_split hsplit, hstakes]
      exact Pool.sumOf_paid hsplit (nodup_wager_stakes found.id)

/-! ## Payouts -/

/-- The payouts of the pending battles of a list are recorded on their wagers, and for the other
wagers it is recorded what was recorded before. -/
structure PaysEach (book later : Book R) (ids : List Int) : Prop where
  paid : ∀ found ∈ book.pendingIn ids, ∀ p ∈ book.payoutsOn found,
    later.payoutOf p.wager = some p
  unpaid : ∀ wager, (∀ found ∈ book.pendingIn ids, ∀ p ∈ book.payoutsOn found, p.wager ≠ wager) →
    later.payoutOf wager = book.payoutOf wager

/-- Two books agree on what users have, which battles are settled, and what was paid for wagers. -/
structure SettledAlike (book later : Book R) : Prop where
  balances : ∀ user, later.balanceOf user = book.balanceOf user
  marks : ∀ battle, later.settlement? battle = book.settlement? battle
  payouts : ∀ wager, later.payoutOf wager = book.payoutOf wager

theorem Clears.paysEach (h : book.Clears later ids now) (hbook : Reachable book)
    (hlater : Reachable later) : book.PaysEach later ids := by
  constructor
  case paid =>
    intro found hfound p hp
    have hknown : later.battles.find? found.id = some found :=
      h.battles ▸ Table.find?_of_mem (mem_pendingIn.1 hfound).1
    exact hlater.payoutOf_of_marked hknown (Option.isSome_of_eq_some (h.settled found hfound)) p
      (h.payoutsOn found ▸ hp)
  case unpaid =>
    intro wager hnone
    have hterms := map_terms_find? h.terms wager
    cases hw : book.wagers.find? wager with
    | none =>
      rw [hw, Option.map_none, Option.map_eq_none_iff] at hterms
      rw [payoutOf, payoutOf, hterms, hw]
      rfl
    | some w =>
      rw [hw, Option.map_some, Option.map_eq_some_iff] at hterms
      obtain ⟨w', hw', hsame⟩ := hterms
      obtain rfl := Table.id_of_find? hw
      have hbattle : w'.data.battle = w.data.battle := congrArg (·.2) hsame
      have hon : ∀ found : Row Battle, found.id = w.data.battle → w ∈ book.wagersOn found.id :=
        fun found hid =>
          List.mem_filter.2 ⟨Table.mem_of_find? hw, decide_eq_true hid.symm⟩
      -- no pending battle of the list has a wager without a payout
      have hmark : later.settlement? w.data.battle = book.settlement? w.data.battle :=
        h.others _ fun found hfound hid => by
          obtain ⟨p, hp, hwager⟩ := hbook.exists_payout (hon found hid)
          exact hnone found hfound p hp hwager
      cases hbefore : book.settlement? w.data.battle with
      | none =>
        have hlaterNone : later.payoutOf w'.id = none :=
          hlater.payoutOf_of_unmarked (Table.mem_of_find? hw') (hbattle ▸ hmark.trans hbefore)
        rw [hbook.payoutOf_of_unmarked (Table.mem_of_find? hw) hbefore, ← Table.id_of_find? hw']
        exact hlaterNone
      | some mark =>
        obtain ⟨found, split, haudits⟩ := hbook.audits mark (mem_of_settlement? hbefore)
        have hid : found.id = w.data.battle :=
          (Table.id_of_find? haudits.known).trans (battle_of_settlement? hbefore)
        have hfound : book.battles.find? found.id = some found :=
          (Table.id_of_find? haudits.known).symm ▸ haudits.known
        obtain ⟨p, hp, hwager⟩ := hbook.exists_payout (hon found hid)
        have hmarked : (book.settlement? found.id).isSome = true :=
          Option.isSome_of_eq_some (hid ▸ hbefore)
        have hmarkedLater : (later.settlement? found.id).isSome = true := by
          rw [hid, hmark, ← hid]
          exact hmarked
        rw [← hwager, hbook.payoutOf_of_marked hfound hmarked p hp]
        exact hlater.payoutOf_of_marked (h.battles ▸ hfound) hmarkedLater p (h.payoutsOn found ▸ hp)

/-! ## Lists of the same numbers -/

/-- The books after lists of the same numbers agree, whatever the order and however often. -/
theorem Clears.settledAlike (h : book.Clears later ids now) (h' : book.Clears other ids' now)
    (hids : ∀ id, id ∈ ids' ↔ id ∈ ids) (hbook : Reachable book) (hlater : Reachable later)
    (hother : Reachable other) : later.SettledAlike other := by
  have hpending : book.pendingIn ids' = book.pendingIn ids := pendingIn_congr hids
  have hpays := h.paysEach hbook hlater
  have hpays' := h'.paysEach hbook hother
  constructor
  case balances =>
    intro user
    rw [h.balances, h'.balances, dueTo, dueTo, hpending]
  case marks =>
    intro battle
    by_cases hin : ∃ found ∈ book.pendingIn ids, found.id = battle
    · obtain ⟨found, hfound, rfl⟩ := hin
      rw [h.settled found hfound, h'.settled found (hpending ▸ hfound)]
    · have hout : ∀ found ∈ book.pendingIn ids, found.id ≠ battle :=
        fun found hfound hid => hin ⟨found, hfound, hid⟩
      rw [h.others battle hout, h'.others battle (hpending ▸ hout)]
  case payouts =>
    intro wager
    by_cases hin : ∃ found ∈ book.pendingIn ids, ∃ p ∈ book.payoutsOn found, p.wager = wager
    · obtain ⟨found, hfound, p, hp, rfl⟩ := hin
      rw [hpays.paid found hfound p hp, hpays'.paid found (hpending ▸ hfound) p hp]
    · have hout : ∀ found ∈ book.pendingIn ids, ∀ p ∈ book.payoutsOn found, p.wager ≠ wager :=
        fun found hfound p hp hid => hin ⟨found, hfound, p, hp, hid⟩
      rw [hpays.unpaid wager hout, hpays'.unpaid wager (hpending ▸ hout)]

end Book

end RaceBook
