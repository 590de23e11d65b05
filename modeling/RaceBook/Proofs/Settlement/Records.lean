import RaceBook.Proofs.Settlement.Backlog

/-!
# What is recorded of settlements

* `Book.map_terms_find?` : wagers with the same terms have the same numbers;
* `Reachable.resolution?_eq` : what is recorded of a settled battle is the split of its wagers;
* `Book.payoutOf` : the payout that is recorded for a wager: that of its battle when that is settled
  (`Reachable.payoutOf_of_marked`), and otherwise none (`Reachable.payoutOf_of_unmarked`).
-/

namespace RaceBook

variable {R : Type} {book later : Book R} {found : Row Battle}

namespace Book

/-- The payout that is recorded for the wager of a number. -/
def payoutOf (book : Book R) (wager : Int) : Option Pool.Payout :=
  (book.wagers.find? wager).bind book.recordedPayout?

/-- What was paid for a wager is what its payout says. -/
theorem paid_payoutOf {w : Row Wager} (hw : w ∈ book.wagers.rows) :
    ((book.payoutOf w.id).map (·.paid)).getD 0 = book.paidOut w := by
  rw [payoutOf, Table.find?_of_mem hw]
  rfl

theorem map_terms_find? (h : later.wagers.rows.map Row.terms = book.wagers.rows.map Row.terms)
    (wager : Int) :
    (later.wagers.find? wager).map Row.terms = (book.wagers.find? wager).map Row.terms := by
  have hterms : ∀ b : Book R, (b.wagers.find? wager).map Row.terms =
      (b.wagers.rows.map Row.terms).find? (·.1.wager = wager) := by
    intro b
    rw [List.find?_map]
    rfl
  rw [hterms, hterms, h]

variable {mark : Settlement} {split : Pool.Split}

theorem Audits.recorded (h : book.Audits mark found split) :
    ∀ w ∈ book.wagersOn mark.battle, ∃ p ∈ split.payouts,
      p.wager = w.id ∧ book.recordedPayout? w = some p := by
  intro w hw
  obtain ⟨p, hp, hstake, entry, hsettled, -, hamount⟩ := h.paid w hw
  refine ⟨p, hp, congrArg (·.wager) hstake, ?_⟩
  rw [hsettled.recordedPayout?_eq, ← hstake, hamount]
  rfl

end Book

section

variable [Arithmetic R]

/-- A mark stands for the split of the wagers of its battle. -/
theorem Reachable.exists_audits (h : Reachable book)
    (hfound : book.battles.find? found.id = some found)
    (hmark : (book.settlement? found.id).isSome = true) :
    ∃ mark split, book.settlement? found.id = some mark ∧ mark.battle = found.id ∧
      book.Audits mark found split ∧ book.payoutsOn found = split.payouts := by
  obtain ⟨mark, hmark⟩ := Option.isSome_iff_exists.1 hmark
  have hbattle := Book.battle_of_settlement? hmark
  obtain ⟨found', split, haudits⟩ := h.audits mark (Book.mem_of_settlement? hmark)
  obtain rfl : found' = found := by
    have hknown := haudits.known
    rw [hbattle, hfound] at hknown
    exact (Option.some.inj hknown).symm
  refine ⟨mark, split, hmark, hbattle, haudits, Book.payoutsOn_of_split ?_⟩
  rw [← haudits.victor, ← hbattle]
  exact haudits.divided

/-- What is recorded of a settled battle is the split of its wagers. -/
theorem Reachable.resolution?_eq (h : Reachable book)
    (hfound : book.battles.find? found.id = some found)
    (hmark : (book.settlement? found.id).isSome = true) :
    book.resolution? found.id =
      some ⟨found.id, book.victorOf found, book.payoutsOn found, true⟩ := by
  obtain ⟨mark, split, hmark, hbattle, haudits, hpayouts⟩ := h.exists_audits hfound hmark
  have hrecorded : (book.wagersOn mark.battle).filterMap book.recordedPayout? = split.payouts :=
    filterMap_eq_of_keys haudits.map_id_wagersOn haudits.nodup_payouts haudits.recorded
  rw [Book.resolution?, hmark, Option.map_some, Book.recorded, hrecorded, haudits.victor, hbattle,
    hpayouts]

theorem Reachable.exists_payout (h : Reachable book) {w : Row Wager}
    (hw : w ∈ book.wagersOn found.id) : ∃ p ∈ book.payoutsOn found, p.wager = w.id := by
  obtain ⟨split, hsplit⟩ := h.exists_split found
  have hmem : w.stake ∈ split.payouts.map (·.origin) := by
    rw [Pool.map_origin_payouts hsplit]
    exact List.mem_map_of_mem hw
  obtain ⟨p, hp, hstake⟩ := List.mem_map.1 hmem
  rw [Book.payoutsOn_of_split hsplit]
  exact ⟨p, hp, congrArg (·.wager) hstake⟩

/-- The payouts of a settled battle are what was paid out. -/
theorem Reachable.payoutOf_of_marked (h : Reachable book)
    (hfound : book.battles.find? found.id = some found)
    (hmark : (book.settlement? found.id).isSome = true) :
    ∀ p ∈ book.payoutsOn found, book.payoutOf p.wager = some p := by
  intro p hp
  obtain ⟨mark, split, -, hbattle, haudits, hpayouts⟩ := h.exists_audits hfound hmark
  rw [hpayouts] at hp
  have hid : p.wager ∈ (book.wagersOn mark.battle).map (·.id) :=
    haudits.map_id_wagersOn ▸ List.mem_map_of_mem hp
  obtain ⟨w, hw, hid⟩ := List.mem_map.1 hid
  obtain ⟨q, hq, hwager, hrecorded⟩ := haudits.recorded w hw
  obtain rfl : q = p :=
    List.inj_on_of_nodup_map haudits.nodup_payouts hq hp (hwager.trans hid)
  rw [Book.payoutOf, ← hid, Table.find?_of_mem (List.mem_of_mem_filter hw), Option.bind_some,
    hrecorded]

/-- For a wager on a battle that is not settled nothing was paid out. -/
theorem Reachable.payoutOf_of_unmarked (h : Reachable book) {w : Row Wager}
    (hw : w ∈ book.wagers.rows) (hmark : book.settlement? w.data.battle = none) :
    book.payoutOf w.id = none := by
  have hunsettled : w.data.settledBy = none :=
    h.settlesInOrder.unsettled _ hmark w (List.mem_filter.2 ⟨hw, decide_eq_true rfl⟩)
  rw [Book.payoutOf, Table.find?_of_mem hw, Option.bind_some, Book.recordedPayout?, hunsettled]
  rfl

end

end RaceBook
