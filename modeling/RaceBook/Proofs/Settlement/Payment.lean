import RaceBook.Settlement
import RaceBook.Proofs.Pool.Apportionment
import RaceBook.Proofs.Wager.Placing

/-!
# Paying out a pool

* `Book.pay`, `Book.payAll` : the book after one payout, and after several of them;
* `Book.Pays` : the ledger accepts every one of them in turn;
* `Book.settled` : the book after a settlement;
* `Book.Owes`, `Book.Settles.owes` : the wagers that a settlement pays out were not paid out before;
* `Session.settle_eq_ok` : a request to settle pays the split of the pool and leaves a mark, or
  repeats what was recorded.
-/

namespace RaceBook

variable {R : Type} {book later : Book R}

def Pool.Payout.movement (p : Payout) (battle : Int) (kind : EntryKind) (now : Moment) : Movement :=
  ⟨p.user, p.paid, kind, some battle, now⟩

def Pool.Split.kind (s : Split) : EntryKind := if s.refunded then .refund else .payout

namespace Book

section Payouts

variable (battle : Int) (kind : EntryKind) (now : Moment)

/-- The book after a payout: it is credited, and its wager carries the entry. -/
def pay (book : Book R) (p : Pool.Payout) : Book R :=
  { book.post (p.movement battle kind now) with
    wagers := book.wagers.modify p.wager ({ · with settledBy := some book.ledger.nextId }) }

def payAll (book : Book R) (ps : List Pool.Payout) : Book R := ps.foldl (pay battle kind now) book

def Pays : Book R → List Pool.Payout → Prop
  | _, [] => True
  | book, p :: rest =>
    0 ≤ p.paid ∧ book.Accepts (p.movement battle kind now) ∧ Pays (book.pay battle kind now p) rest

end Payouts

def settled (book : Book R) (found : Row Battle) (split : Pool.Split) (now : Moment) : Book R :=
  (book.payAll found.id split.kind now split.payouts).mark ⟨found.id, book.victorOf found, now⟩

/-- The wagers of an ended battle that is not settled yet are resolved by this split. -/
structure Settles (book : Book R) (found : Row Battle) (split : Pool.Split) (now : Moment) :
    Prop where
  known : book.battles.find? found.id = some found
  ended : found.data.status.isTerminal = true
  unmarked : book.settlement? found.id = none
  divided : Pool.split (book.victorOf found) ((book.unsettledOn found.id).map (·.stake)) = .ok split
  pays : Pays found.id split.kind now book split.payouts

@[simp] theorem payAll_nil {battle : Int} {kind : EntryKind} {now : Moment} :
    book.payAll battle kind now [] = book := rfl

@[simp] theorem payAll_cons {battle : Int} {kind : EntryKind} {now : Moment} {p : Pool.Payout}
    {rest : List Pool.Payout} :
    book.payAll battle kind now (p :: rest) =
      (book.pay battle kind now p).payAll battle kind now rest := rfl

theorem resolution?_eq_none {battle : Int} :
    book.resolution? battle = none ↔ book.settlement? battle = none := by
  rw [resolution?, Option.map_eq_none_iff]

/-! ## The wagers of a settlement -/

/-- The wager of a payout is on the battle and not paid out yet. -/
def Owes (book : Book R) (battle : Int) (p : Pool.Payout) : Prop :=
  ∃ w, book.wagers.find? p.wager = some w ∧ w.data.battle = battle ∧ w.data.settledBy = none ∧
    w.stake = p.origin

theorem Owes.pay {p q : Pool.Payout} {battle : Int} {kind : EntryKind} {now : Moment}
    (h : book.Owes battle q) (hne : q.wager ≠ p.wager) :
    (book.pay battle kind now p).Owes battle q := by
  obtain ⟨w, hw, hbattle, hunsettled, hstake⟩ := h
  exact ⟨w, (Table.find?_modify_of_ne hne).trans hw, hbattle, hunsettled, hstake⟩

theorem Owes.payRest {p : Pool.Payout} {rest : List Pool.Payout} {battle : Int} {kind : EntryKind}
    {now : Moment} (howes : ∀ q ∈ p :: rest, book.Owes battle q)
    (hp : p.wager ∉ rest.map (·.wager)) :
    ∀ q ∈ rest, (book.pay battle kind now p).Owes battle q := by
  intro q hq
  exact (howes q (List.mem_cons_of_mem p hq)).pay fun he => hp (List.mem_map.2 ⟨q, hq, he⟩)

namespace Settles

variable {found : Row Battle} {split : Pool.Split} {now : Moment}

theorem map_origin_payouts (h : book.Settles found split now) :
    split.payouts.map (·.origin) = (book.unsettledOn found.id).map (·.stake) :=
  Pool.map_origin_payouts h.divided

theorem map_wager_payouts (h : book.Settles found split now) :
    split.payouts.map (·.wager) = (book.unsettledOn found.id).map (·.id) := by
  have hmap := congrArg (List.map (·.wager)) h.map_origin_payouts
  rw [List.map_map, List.map_map] at hmap
  exact hmap

theorem nodup_wagers (h : book.Settles found split now) : (split.payouts.map (·.wager)).Nodup := by
  rw [h.map_wager_payouts]
  exact book.wagers.nodup_ids.sublist ((List.filter_sublist.trans List.filter_sublist).map _)

/-- What a settlement pays out was still to be paid out. -/
theorem owes (h : book.Settles found split now) :
    ∀ p ∈ split.payouts, book.Owes found.id p := by
  intro p hp
  have horigin : p.origin ∈ (book.unsettledOn found.id).map (·.stake) :=
    h.map_origin_payouts ▸ List.mem_map_of_mem hp
  obtain ⟨w, hw, hstake⟩ := List.mem_map.1 horigin
  obtain ⟨hw, hunsettled⟩ := List.mem_filter.1 hw
  have hid : w.id = p.wager := congrArg (·.wager) hstake
  obtain ⟨hw, hbattle⟩ := List.mem_filter.1 hw
  refine ⟨w, ?_, of_decide_eq_true hbattle, Option.isNone_iff_eq_none.1 hunsettled, hstake⟩
  rw [← hid]
  exact Table.find?_of_mem hw

end Settles

end Book

namespace Session

theorem pay_eq_ok {battle : Int} {kind : EntryKind} {now : Moment} {p : Pool.Payout} {u : Unit} :
    pay battle kind now p book = .ok u later ↔
      0 ≤ p.paid ∧ book.Accepts (p.movement battle kind now) ∧
        later = book.pay battle kind now p := by
  simp only [pay, bind_eq_ok, credit_eq_ok, modify_eq_ok, and_assoc, exists_and_left,
    exists_eq_left]
  refine and_congr_right fun _ => and_congr_right fun _ => ?_
  rw [@eq_comm _ later]
  rfl

theorem forM_pay_eq_ok {battle : Int} {kind : EntryKind} {now : Moment} {ps : List Pool.Payout}
    {u : Unit} :
    ps.forM (pay battle kind now) book = .ok u later ↔
      Book.Pays battle kind now book ps ∧ later = book.payAll battle kind now ps := by
  induction ps generalizing book with
  | nil =>
    rw [forM_nil_eq_ok, Book.payAll_nil, eq_comm]
    exact (true_and _).symm ▸ Iff.rfl
  | cons p rest ih =>
    simp only [forM_cons_eq_ok, pay_eq_ok, ih, Book.Pays, Book.payAll_cons, and_assoc,
      exists_and_left, exists_eq_left]

theorem splitPool_eq_ok {victor : Option Team} {stakes : List Pool.Stake} {split : Pool.Split} :
    splitPool victor stakes book = .ok split later ↔
      Pool.split victor stakes = .ok split ∧ book = later := by
  unfold splitPool
  cases Pool.split victor stakes <;> simp

theorem settleFirst_eq_ok {found : Row Battle} {now : Moment} {r : Resolution} :
    settleFirst found now book = .ok r later ↔
      ∃ split, Pool.split (book.victorOf found) ((book.unsettledOn found.id).map (·.stake)) =
          .ok split ∧
        Book.Pays found.id split.kind now book split.payouts ∧
        r = ⟨found.id, book.victorOf found, split.payouts, false⟩ ∧
        later = book.settled found split now := by
  simp only [settleFirst, bind_eq_ok, read_eq_ok, splitPool_eq_ok, forM_pay_eq_ok, modify_eq_ok,
    pure_eq_ok, and_assoc, exists_and_left, exists_eq_left', exists_eq_left, exists_const]
  constructor
  · rintro ⟨split, hsplit, hpays, rfl, rfl⟩
    exact ⟨split, hsplit, hpays, rfl, rfl⟩
  · rintro ⟨split, hsplit, hpays, rfl, rfl⟩
    exact ⟨split, hsplit, hpays, rfl, rfl⟩

/-- An ended battle is settled once; later requests repeat what was recorded. -/
theorem settle_eq_ok {battleId : Int} {now : Moment} {r : Resolution} :
    settle battleId now book = .ok r later ↔
      (∃ found, found.id = battleId ∧ ∃ split, book.Settles found split now ∧
        r = ⟨battleId, book.victorOf found, split.payouts, false⟩ ∧
        later = book.settled found split now) ∨
      (∃ found, book.battles.find? battleId = some found ∧ found.data.status.isTerminal = true ∧
        book.resolution? battleId = some r ∧ later = book) := by
  simp only [settle, bind_eq_ok, battle_eq_ok, check_eq_ok, read_eq_ok, and_assoc, exists_and_left,
    exists_eq_left', exists_const]
  constructor
  · rintro ⟨found, hfound, hended, hrun⟩
    obtain rfl := Table.id_of_find? hfound
    cases hrecorded : book.resolution? found.id with
    | none =>
      rw [hrecorded, settleFirst_eq_ok] at hrun
      obtain ⟨split, hsplit, hpays, rfl, rfl⟩ := hrun
      have hunmarked := Book.resolution?_eq_none.1 hrecorded
      exact .inl ⟨found, rfl, split, ⟨hfound, hended, hunmarked, hsplit, hpays⟩, rfl, rfl⟩
    | some known =>
      simp only [hrecorded, pure_eq_ok] at hrun
      obtain ⟨rfl, rfl⟩ := hrun
      exact .inr ⟨found, hfound, hended, rfl, rfl⟩
  · rintro (⟨found, rfl, split, hs, rfl, rfl⟩ | ⟨found, hfound, hended, hrecorded, rfl⟩)
    · refine ⟨found, hs.known, hs.ended, ?_⟩
      rw [Book.resolution?_eq_none.2 hs.unmarked, settleFirst_eq_ok]
      exact ⟨split, hs.divided, hs.pays, rfl, rfl⟩
    · refine ⟨found, hfound, hended, ?_⟩
      rw [hrecorded]
      exact pure_eq_ok.2 ⟨rfl, rfl⟩

end Session

end RaceBook
