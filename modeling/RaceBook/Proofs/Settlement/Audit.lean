import RaceBook.Proofs.Settlement.Once
import RaceBook.Proofs.Wager.Terms

/-!
# Settlements can be audited

* `Book.SettlesApart` : every settled wager has an entry of the ledger of its own;
* `Book.Audits` : a mark stands for the victor and the split that the stored battle gives, and the
  entries of the wagers are the payouts of that split;
* `Event.settlesApart_apply`, `Event.audits_apply` : events keep both, and a settlement adds a mark
  that can be audited (`Book.audits_settled`);
* `settlement_audit` : so it is in every reachable book.
-/

namespace RaceBook

variable {R : Type} {book later : Book R}

namespace Book

/-! ## Entries of their own -/

/-- Every settled wager has an entry of the ledger, and different wagers have different ones. -/
structure SettlesApart (book : Book R) : Prop where
  entered : ∀ w ∈ book.wagers.rows, ∀ id, w.data.settledBy = some id →
    ∃ entry, book.ledger.find? id = some entry
  apart : ∀ v ∈ book.wagers.rows, ∀ w ∈ book.wagers.rows, ∀ id, v.data.settledBy = some id →
    w.data.settledBy = some id → v = w

namespace SettlesApart

theorem of_kept (h : book.SettlesApart)
    (hkept : ∀ w ∈ later.wagers.rows, ∀ id, w.data.settledBy = some id →
      ∃ w₀ ∈ book.wagers.rows, w.id = w₀.id ∧ w₀.data.settledBy = some id)
    (hledger : ∀ id entry, book.ledger.find? id = some entry → later.ledger.find? id = some entry) :
    later.SettlesApart := by
  refine ⟨fun w hw id hid => ?_, fun v hv w hw id hvid hwid => ?_⟩
  · obtain ⟨w₀, hw₀, -, hid₀⟩ := hkept w hw id hid
    obtain ⟨entry, hentry⟩ := h.entered w₀ hw₀ id hid₀
    exact ⟨entry, hledger id entry hentry⟩
  · obtain ⟨v₀, hv₀, hv, hvid₀⟩ := hkept v hv id hvid
    obtain ⟨w₀, hw₀, hw, hwid₀⟩ := hkept w hw id hwid
    have hsame : v₀ = w₀ := h.apart v₀ hv₀ w₀ hw₀ id hvid₀ hwid₀
    exact Table.eq_of_id_eq ‹_› ‹_› (by rw [hv, hw, hsame])

section

variable {battle : Int} {kind : EntryKind} {now : Moment}

theorem pay (h : book.SettlesApart) (p : Pool.Payout) :
    (book.pay battle kind now p).SettlesApart := by
  have hrows : ∀ w ∈ (book.pay battle kind now p).wagers.rows,
      w ∈ book.wagers.rows ∨ w.id = p.wager ∧ w.data.settledBy = some book.ledger.nextId := by
    intro w hw
    obtain ⟨w₀, hw₀, rfl⟩ := List.mem_map.1 hw
    split
    next hid => exact .inr ⟨hid, rfl⟩
    next => exact .inl hw₀
  have hfresh : ∀ w ∈ book.wagers.rows, w.data.settledBy ≠ some book.ledger.nextId := by
    intro w hw hid
    obtain ⟨entry, hentry⟩ := h.entered w hw _ hid
    exact Table.ne_nextId_of_find? hentry rfl
  refine ⟨fun w hw id hid => ?_, fun v hv w hw id hvid hwid => ?_⟩
  · rcases hrows w hw with hw | ⟨-, hnew⟩
    · obtain ⟨entry, hentry⟩ := h.entered w hw id hid
      exact ⟨entry, Table.find?_append_of_find? hentry⟩
    · obtain rfl : book.ledger.nextId = id := Option.some.inj (hnew.symm.trans hid)
      exact ⟨_, Table.find?_append_nextId⟩
  · rcases hrows v hv with hv₀ | ⟨hvp, hvnew⟩ <;> rcases hrows w hw with hw₀ | ⟨hwp, hwnew⟩
    · exact h.apart v hv₀ w hw₀ id hvid hwid
    · exact absurd (hvid.trans (hwid.symm.trans hwnew)) (hfresh v hv₀)
    · exact absurd (hwid.trans (hvid.symm.trans hvnew)) (hfresh w hw₀)
    · exact Table.eq_of_id_eq hv hw (hvp.trans hwp.symm)

theorem payAll (h : book.SettlesApart) (ps : List Pool.Payout) :
    (book.payAll battle kind now ps).SettlesApart := by
  induction ps generalizing book with
  | nil => exact h
  | cons p rest ih => exact ih (h.pay p)

end

end SettlesApart

/-! ## Audits -/

/-- A mark can be audited: its battle has ended, it has the victor of the stored battle, and the
payouts of the split of the stored wagers are what the ledger entries of the wagers pay. -/
structure Audits (book : Book R) (mark : Settlement) (found : Row Battle) (split : Pool.Split) :
    Prop where
  known : book.battles.find? mark.battle = some found
  ended : found.data.status.isTerminal = true
  victor : mark.victor = book.victorOf found
  divided : Pool.split mark.victor ((book.wagersOn mark.battle).map (·.stake)) = .ok split
  paid : ∀ w ∈ book.wagersOn mark.battle, ∃ p ∈ split.payouts, p.origin = w.stake ∧
    ∃ entry, book.SettledBy w entry ∧ entry.data.kind = split.kind ∧ entry.data.amount = p.paid

/-- What the ledger paid for a wager; nothing before it is settled. -/
def paidOut (book : Book R) (w : Row Wager) : Int :=
  ((book.recordedPayout? w).map (·.paid)).getD 0

theorem SettledBy.paidOut_eq {w : Row Wager} {entry : Row Entry} (h : book.SettledBy w entry) :
    book.paidOut w = entry.data.amount := by
  rw [paidOut, h.recordedPayout?_eq, Option.map_some, Pool.paid_resolve, Option.getD_some]

theorem nodup_id_wagersOn (battle : Int) : ((book.wagersOn battle).map (·.id)).Nodup :=
  book.wagers.nodup_ids.sublist (List.filter_sublist.map _)

theorem nodup_wager_stakes (battle : Int) :
    (((book.wagersOn battle).map (·.stake)).map (·.wager)).Nodup := by
  rw [List.map_map]
  exact nodup_id_wagersOn battle

theorem map_stake_wagersOn (battle : Int) :
    (book.wagersOn battle).map (·.stake) =
      ((book.wagers.rows.map Row.terms).filter (·.2 = battle)).map Prod.fst := by
  rw [List.filter_map, List.map_map]
  rfl

variable {mark : Settlement} {found : Row Battle} {split : Pool.Split}

theorem Audits.map_id_wagersOn (h : book.Audits mark found split) :
    (book.wagersOn mark.battle).map (·.id) = split.payouts.map (·.wager) := by
  have hmap := congrArg (List.map (·.wager)) (Pool.map_origin_payouts h.divided)
  rw [List.map_map, List.map_map] at hmap
  exact hmap.symm

theorem Audits.nodup_payouts (h : book.Audits mark found split) :
    (split.payouts.map (·.wager)).Nodup :=
  h.map_id_wagersOn ▸ nodup_id_wagersOn mark.battle

theorem Audits.sumOf_paidOut (h : book.Audits mark found split) :
    sumOf ((book.wagersOn mark.battle).map book.paidOut) =
      sumOf ((book.wagersOn mark.battle).map (·.data.stake)) := by
  have hpaid : (book.wagersOn mark.battle).map book.paidOut = split.payouts.map (·.paid) := by
    refine map_eq_of_keys h.map_id_wagersOn h.nodup_payouts fun w hw => ?_
    obtain ⟨p, hp, hstake, entry, hsettled, -, hamount⟩ := h.paid w hw
    exact ⟨p, hp, congrArg (·.wager) hstake, hsettled.paidOut_eq.trans hamount⟩
  rw [hpaid, Pool.sumOf_paid h.divided (nodup_wager_stakes mark.battle), Pool.total, List.map_map]
  rfl

/-- A mark can be audited as long as its battle, with the participants and the wagers, and the
entries of the ledger stay. -/
theorem Audits.of_same (h : book.Audits mark found split)
    (hknown : later.battles.find? mark.battle = some found)
    (hparticipants : later.participantsOf mark.battle = book.participantsOf mark.battle)
    (hwagers : later.wagersOn mark.battle = book.wagersOn mark.battle)
    (hledger : ∀ id entry, book.ledger.find? id = some entry → later.ledger.find? id = some entry) :
    later.Audits mark found split := by
  refine ⟨hknown, h.ended, ?_, ?_, ?_⟩
  · rw [h.victor, victorOf, victorOf, Table.id_of_find? h.known, hparticipants]
  · rw [hwagers]
    exact h.divided
  · intro w hw
    rw [hwagers] at hw
    obtain ⟨p, hp, hstake, entry, hsettled, hentry⟩ := h.paid w hw
    exact ⟨p, hp, hstake, entry, hsettled.of_ledger hledger, hentry⟩

theorem audits_settled {now : Moment} (h : book.Settles found split now)
    (hall : book.unsettledOn found.id = book.wagersOn found.id) :
    (book.settled found split now).Audits ⟨found.id, book.victorOf found, now⟩ found split := by
  have hpays : OnlyPays book (book.payAll found.id split.kind now split.payouts) :=
    onlyPays_payAll book split.payouts
  refine ⟨?_, h.ended, ?_, ?_, carried_wagers_settled h hall⟩
  · exact (congrArg (Table.find? · found.id) hpays.battles).trans h.known
  · change _ = (book.payAll found.id split.kind now split.payouts).victorOf found
    rw [victorOf, victorOf, participantsOf, participantsOf, hpays.participants]
  · have hstakes : ((book.settled found split now).wagersOn found.id).map (·.stake) =
        (book.wagersOn found.id).map (·.stake) := by
      rw [map_stake_wagersOn, map_stake_wagersOn]
      exact congrArg _ (congrArg _ terms_payAll)
    rw [hstakes, ← hall]
    exact h.divided

end Book

section

variable [Arithmetic R]

namespace Event

theorem settlesApart_apply {e : Event R} (h : e.Enabled book) (hbook : book.SettlesApart) :
    (e.apply book).SettlesApart := by
  -- events other than payouts settle no wager
  have hkeep : (∀ w ∈ (e.apply book).wagers.rows, ∀ id, w.data.settledBy = some id →
      ∃ w₀ ∈ book.wagers.rows, w.id = w₀.id ∧ w₀.data.settledBy = some id) →
        (e.apply book).SettlesApart :=
    fun hkept => hbook.of_kept hkept fun _ _ => e.entry_apply
  cases e with
  | battleSettled found split now =>
    exact (hbook.payAll split.payouts).of_kept (fun w hw id hid => ⟨w, hw, rfl, hid⟩)
      fun _ _ hentry => hentry
  | wagerPlaced placed =>
    refine hkeep fun w hw id hid => ?_
    rcases List.mem_append.1 hw with hw | hw
    · exact ⟨w, hw, rfl, hid⟩
    · rw [List.mem_singleton.1 hw] at hid
      exact nomatch h.2.2.1.symm.trans hid
  | wagerReplaced known team stake now =>
    refine hkeep fun w hw id hid => ?_
    obtain ⟨w₀, hw₀, rfl⟩ := List.mem_map.1 hw
    refine ⟨w₀, hw₀, ?_, ?_⟩
    · split <;> rfl
    · split at hid <;> exact hid
  | periodOpened | periodMarked | periodClosed | snapshotTaken | cacheRefreshed =>
    refine hkeep fun w hw id hid => ?_
    rw [(sameRaces_apply (by trivial) book).wagers] at hw
    exact ⟨w, hw, rfl, hid⟩
  | _ => exact hkeep fun w hw id hid => ⟨w, hw, rfl, hid⟩

/-- A mark that can be audited can be audited after any event. -/
theorem audits_apply {e : Event R} {mark : Settlement} {found : Row Battle} {split : Pool.Split}
    (h : e.Enabled book) (hmark : mark ∈ book.settlements) (hbook : book.Audits mark found split) :
    (e.apply book).Audits mark found split := by
  have hother : ∀ settled split now, e = .battleSettled settled split now →
      settled.id ≠ mark.battle := by
    rintro settled split now rfl hid
    exact List.find?_eq_none.1 h.unmarked mark hmark (decide_eq_true hid.symm)
  exact hbook.of_same (battle_apply h hbook.known hbook.ended)
    (participantsOf_apply h hbook.known hbook.ended)
    (wagersOn_apply h hbook.known hbook.ended hother) fun _ _ => e.entry_apply

theorem mem_settlements_apply {e : Event R} {mark : Settlement}
    (h : mark ∈ (e.apply book).settlements) :
    mark ∈ book.settlements ∨ ∃ found split now, e = .battleSettled found split now ∧
      mark = ⟨found.id, book.victorOf found, now⟩ := by
  rw [settlements_apply] at h
  cases e with
  | battleSettled found split now =>
    rcases List.mem_append.1 h with hold | hnew
    · exact .inl ((List.takeWhile_sublist _).subset hold)
    · rcases List.mem_cons.1 hnew with rfl | hold
      · exact .inr ⟨found, split, now, rfl, rfl⟩
      · exact .inl ((List.dropWhile_sublist _).subset hold)
  | _ => exact .inl h

end Event

/-! ## Reachable books -/

theorem Reachable.settlesApart (h : Reachable book) : book.SettlesApart := by
  refine h.induct ⟨?_, ?_⟩ fun book e hbook he => Event.settlesApart_apply he hbook
  · exact fun _ hw => nomatch hw
  · exact fun _ hv => nomatch hv

/-- Every mark of a reachable book can be audited. -/
theorem Reachable.audits (h : Reachable book) :
    ∀ mark ∈ book.settlements, ∃ found split, book.Audits mark found split := by
  -- what a settlement pays is all of the wagers only because none was settled before the mark
  refine (Reachable.induct (P := fun b => b.SettlesInOrder ∧
    ∀ mark ∈ b.settlements, ∃ found split, b.Audits mark found split) ?_ ?_ h).2
  · exact ⟨Reachable.empty.settlesInOrder, fun _ hmark => nomatch hmark⟩
  · rintro book e ⟨horder, hbook⟩ he
    refine ⟨Event.settlesInOrder_apply he horder, fun mark hmark => ?_⟩
    rcases Event.mem_settlements_apply hmark with hold | ⟨found, split, now, rfl, rfl⟩
    · obtain ⟨found, split, haudits⟩ := hbook mark hold
      exact ⟨found, split, Event.audits_apply he hold haudits⟩
    · exact ⟨found, split, Book.audits_settled he (horder.unsettledOn_eq he.unmarked)⟩

/-- **Settlements can be audited** in every reachable book: a mark stands for the victor and the
split that the stored battle gives, and the entries of the wagers, all different, are its payouts.
-/
theorem settlement_audit (book : Book R) (h : Reachable book) :
    (∀ battle, book.settlement? battle = none →
      ∀ w ∈ book.wagersOn battle, w.data.settledBy = none) ∧
    (∀ mark ∈ book.settlements, (∃ found split, book.Audits mark found split) ∧
      sumOf ((book.wagersOn mark.battle).map book.paidOut) =
        sumOf ((book.wagersOn mark.battle).map (·.data.stake))) ∧
    (∀ v ∈ book.wagers.rows, ∀ w ∈ book.wagers.rows, ∀ id, v.data.settledBy = some id →
      w.data.settledBy = some id → v = w) ∧
    (∀ v ∈ book.wagers.rows, ∀ w ∈ book.wagers.rows, v.data.user = w.data.user →
      v.data.battle = w.data.battle → v = w) ∧
    ∀ w ∈ book.wagers.rows, 0 < w.data.stake ∧
      ∃ p ∈ book.participantsOf w.data.battle, p.data.team = w.data.victor := by
  have hlegal : book.WagersLegal := h.wagersLegal
  refine ⟨h.settlesInOrder.unsettled, fun mark hmark => ?_, h.settlesApart.apart, hlegal.single,
    fun w hw => ⟨hlegal.positive w hw, hlegal.backed w hw⟩⟩
  obtain ⟨found, split, haudits⟩ := h.audits mark hmark
  exact ⟨⟨found, split, haudits⟩, haudits.sumOf_paidOut⟩

def settledDerby : Book Float := Operation.run (derby ++ [.settle 1 (.ofTicks 7)]) .empty

/-- The mark of the derby can be audited: its entries pay eighty and nothing, which were the stakes. -/
theorem settlement_audit_settledDerby :
    Reachable settledDerby ∧ ∃ mark ∈ settledDerby.settlements, mark.battle = 1 ∧
      (∃ found split, settledDerby.Audits mark found split) ∧
      (settledDerby.wagersOn 1).map settledDerby.paidOut = [80, 0] ∧
      sumOf ((settledDerby.wagersOn 1).map (·.data.stake)) = 80 := by
  have hreachable : Reachable settledDerby := Reachable.empty.run _
  have hmark : (settledDerby.settlement? 1).isSome = true := by decide +kernel
  have hpaid : (settledDerby.wagersOn 1).map settledDerby.paidOut = [80, 0] := by decide +kernel
  obtain ⟨mark, hmark⟩ := Option.isSome_iff_exists.1 hmark
  have hbattle : mark.battle = 1 := Book.battle_of_settlement? hmark
  have hmem : mark ∈ settledDerby.settlements := Book.mem_of_settlement? hmark
  obtain ⟨haudits, hsum⟩ := (settlement_audit settledDerby hreachable).2.1 mark hmem
  rw [hbattle, hpaid] at hsum
  exact ⟨hreachable, mark, hmem, hbattle, haudits, hpaid, hsum.symm⟩

end

end RaceBook
