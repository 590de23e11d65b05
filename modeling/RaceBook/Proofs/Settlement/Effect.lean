import RaceBook.Proofs.Ledger.Account
import RaceBook.Proofs.Settlement.Paid

/-!
# What paying out a pool does to each table

* `Book.ledger_payAll`, `Book.users_payAll`, `Book.wagers_payAll` : the tables after payouts to
  different users for different wagers, told by the book before the first one
  (`Book.wagersOn_payAll` : and the wagers on one battle);
* `Book.PaysOut` : a book in which the wagers on a battle were paid out, and nothing else happened;
* `Book.Settles.paysOut` : a first settlement leads to such a book.
-/

namespace RaceBook

variable {R : Type} {book later : Book R}

def Row.credited (u : Row User) (ps : List Pool.Payout) (now : Moment) : Row User :=
  match ps.find? (·.user = u.id) with
  | some p => ⟨u.id, { u.data with balance := u.data.balance + p.paid, updatedAt := now }⟩
  | none => u

def Row.stamped (w : Row Wager) (ps : List Pool.Payout) (first : Int) : Row Wager :=
  match ps.findIdx? (·.wager = w.id) with
  | some k => ⟨w.id, { w.data with settledBy := some (first + k) }⟩
  | none => w

namespace Book

variable {battle : Int} {kind : EntryKind} {now : Moment} {p : Pool.Payout} {ps : List Pool.Payout}

theorem balanceOf_of_mem {u : Row User} (h : u ∈ book.users.rows) :
    book.balanceOf u.id = u.data.balance := by
  rw [balanceOf, Table.find?_of_mem h]
  rfl

theorem balanceOf_pay_of_ne {user : Int} (h : user ≠ p.user) :
    (book.pay battle kind now p).balanceOf user = book.balanceOf user := by
  have hfound : (book.pay battle kind now p).users.find? user = book.users.find? user :=
    Table.find?_modify_of_ne h
  rw [balanceOf, hfound, balanceOf]

/-- Payouts to different users are entered with the balances of the book before the first one. -/
theorem ledger_payAll (hd : (ps.map (·.user)).Nodup) :
    (book.payAll battle kind now ps).ledger =
      book.ledger.appendAll (ps.map fun p =>
        ⟨p.user, some battle, kind, p.paid, book.balanceOf p.user + p.paid, now⟩) := by
  induction ps generalizing book with
  | nil => rfl
  | cons p rest ih =>
    obtain ⟨hp, hrest⟩ := List.nodup_cons.1 hd
    have hbalances : ∀ q ∈ rest, (book.pay battle kind now p).balanceOf q.user =
        book.balanceOf q.user :=
      fun q hq => balanceOf_pay_of_ne fun he => hp (List.mem_map.2 ⟨q, hq, he⟩)
    rw [payAll_cons, ih hrest, List.map_congr_left fun q hq => by rw [hbalances q hq]]
    rfl

/-- Payouts to different users raise each of their balances once. -/
theorem users_payAll (hd : (ps.map (·.user)).Nodup) :
    (book.payAll battle kind now ps).users.rows = book.users.rows.map (·.credited ps now) := by
  induction ps generalizing book with
  | nil => exact (List.map_id _).symm
  | cons p rest ih =>
    obtain ⟨hp, hrest⟩ := List.nodup_cons.1 hd
    rw [payAll_cons, ih hrest]
    change (book.users.modify p.user _).rows.map _ = _
    rw [Table.rows_modify, List.map_map]
    refine List.map_congr_left fun u hu => ?_
    rw [Function.comp_apply]
    by_cases hid : u.id = p.user
    · have hnone : rest.find? (·.user = u.id) = none :=
        List.find?_eq_none.2 fun q hq he =>
          hp (List.mem_map.2 ⟨q, hq, (of_decide_eq_true he).trans hid⟩)
      have hbalance : book.balanceOf p.user = u.data.balance := hid ▸ balanceOf_of_mem hu
      rw [if_pos hid, Row.credited, hnone, Row.credited, List.find?_cons_of_pos (by simp [hid])]
      change _ = (⟨u.id, _⟩ : Row User)
      rw [← hbalance]
      rfl
    · rw [if_neg hid, Row.credited, Row.credited, List.find?_cons_of_neg (by simp [Ne.symm hid])]

theorem wagers_payAll (hd : (ps.map (·.wager)).Nodup) :
    (book.payAll battle kind now ps).wagers.rows =
      book.wagers.rows.map (·.stamped ps book.ledger.nextId) := by
  induction ps generalizing book with
  | nil => exact (List.map_id _).symm
  | cons p rest ih =>
    obtain ⟨hp, hrest⟩ := List.nodup_cons.1 hd
    have hnext : (book.pay battle kind now p).ledger.nextId = book.ledger.nextId + 1 :=
      Table.nextId_append
    rw [payAll_cons, ih hrest, hnext]
    change (book.wagers.modify p.wager _).rows.map _ = _
    rw [Table.rows_modify, List.map_map]
    refine List.map_congr_left fun w hw => ?_
    rw [Function.comp_apply]
    by_cases hid : w.id = p.wager
    · have hnone : rest.findIdx? (·.wager = w.id) = none :=
        List.findIdx?_eq_none_iff.2 fun q hq =>
          decide_eq_false fun he => hp (List.mem_map.2 ⟨q, hq, he.trans hid⟩)
      rw [if_pos hid, Row.stamped, hnone, Row.stamped, List.findIdx?_cons, if_pos (by simp [hid])]
      simp
    · rw [if_neg hid, Row.stamped, Row.stamped, List.findIdx?_cons, if_neg (by simp [Ne.symm hid])]
      cases rest.findIdx? (·.wager = w.id) with
      | none => rfl
      | some k =>
        have hplace : book.ledger.nextId + 1 + (k : Int) = book.ledger.nextId + (k + 1 : Nat) := by
          omega
        rw [Option.map_some]
        dsimp only
        rw [hplace]

theorem wagersOn_payAll {b : Int} (hd : (ps.map (·.wager)).Nodup) :
    (book.payAll battle kind now ps).wagersOn b =
      (book.wagersOn b).map (·.stamped ps book.ledger.nextId) := by
  rw [wagersOn, wagers_payAll hd, List.filter_map, wagersOn]
  congr 1
  apply List.filter_congr
  intro w _
  rw [Function.comp_apply, Row.stamped]
  split <;> rfl

/-! ## A first settlement -/

/-- The wagers on a battle were paid out by this split, in the order of their numbers: each has an
entry that carries the balance it leads to. Nothing else happened but the mark. -/
structure PaysOut (book later : Book R) (found : Row Battle) (split : Pool.Split) (now : Moment) :
    Prop where
  /-- Every wager on the battle is paid once, and no user twice. -/
  payouts : split.payouts.map (·.origin) = (book.wagersOn found.id).map (·.stake)
  once : (split.payouts.map (·.user)).Nodup
  ledger : later.ledger = book.ledger.appendAll (split.payouts.map fun p =>
    ⟨p.user, some found.id, if split.refunded then .refund else .payout, p.paid,
      book.balanceOf p.user + p.paid, now⟩)
  wagers : later.wagers.rows = book.wagers.rows.map (·.stamped split.payouts book.ledger.nextId)
  users : later.users.rows = book.users.rows.map (·.credited split.payouts now)
  marks : ∃ before after, book.settlements = before ++ after ∧
    later.settlements = before ++ ⟨found.id, book.victorOf found, now⟩ :: after
  players : later.players = book.players
  battles : later.battles = book.battles
  participants : later.participants = book.participants
  periods : later.periods = book.periods
  snapshots : later.snapshots = book.snapshots

theorem Settles.paysOut {found : Row Battle} {split : Pool.Split} (h : book.Settles found split now)
    (hall : book.unsettledOn found.id = book.wagersOn found.id)
    (honce : (split.payouts.map (·.user)).Nodup) :
    book.PaysOut (book.settled found split now) found split now := by
  have hpays : book.OnlyPays (book.payAll found.id split.kind now split.payouts) :=
    onlyPays_payAll book split.payouts
  exact {
    payouts := hall ▸ h.map_origin_payouts
    once := honce
    ledger := ledger_payAll honce
    wagers := wagers_payAll h.nodup_wagers
    users := users_payAll honce
    marks := ⟨_, _, by rw [List.takeWhile_append_dropWhile, hpays.settlements], rfl⟩
    players := hpays.players
    battles := hpays.battles
    participants := hpays.participants
    periods := hpays.periods
    snapshots := hpays.snapshots }

end Book

end RaceBook
