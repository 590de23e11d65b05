import RaceBook.Proofs.Settlement.Payment

/-!
# What a settlement leaves behind

* `Book.settlement?_mark_self`, `Book.settlement?_mark_of_ne` : the marks after one more;
* `Book.OnlyPays` : a book that differs at most in balances, ledger and settled wagers;
* `Row.terms` : what payouts leave of a wager (`Book.terms_payAll`);
* `Book.SettledBy`, `Book.Carries` : the ledger entry that settles a wager, and that it is the one of
  a payout; payouts leave that of all wagers that they pay (`Book.carries_payAll`);
* `Book.wagersOn_payAll_of_ne` : the wagers on other battles stay as they are;
* `Book.recorded_settled` : what is recorded of a settlement is what it paid.
-/

namespace RaceBook

variable {R : Type} {book later : Book R}

/-- What a wager is about, whether it is settled or not. -/
def Row.terms (w : Row Wager) : Pool.Stake × Int := (w.stake, w.data.battle)

namespace Book

/-- A wager is settled by this entry of its user and its battle. -/
structure SettledBy (book : Book R) (w : Row Wager) (entry : Row Entry) : Prop where
  refers : w.data.settledBy = some entry.id
  entered : entry ∈ book.ledger.rows
  user : entry.data.user = w.data.user
  battle : entry.data.battle = some w.data.battle

theorem SettledBy.of_ledger {w : Row Wager} {entry : Row Entry} (h : book.SettledBy w entry)
    (hledger : ∀ id entry, book.ledger.find? id = some entry → later.ledger.find? id = some entry) :
    later.SettledBy w entry :=
  ⟨h.refers, Table.mem_of_find? (hledger _ _ (Table.find?_of_mem h.entered)), h.user, h.battle⟩

/-! ## Marks -/

theorem battle_of_settlement? {battle : Int} {mark : Settlement}
    (h : book.settlement? battle = some mark) : mark.battle = battle := by
  have := List.find?_some h
  exact of_decide_eq_true this

theorem mem_of_settlement? {battle : Int} {mark : Settlement}
    (h : book.settlement? battle = some mark) : mark ∈ book.settlements :=
  List.mem_of_find?_eq_some h

theorem settlement?_mark_of_ne {s : Settlement} {battle : Int} (h : s.battle ≠ battle) :
    (book.mark s).settlement? battle = book.settlement? battle := by
  have hskip : ∀ rest : List Settlement, List.find? (·.battle = battle) (s :: rest) =
      List.find? (·.battle = battle) rest :=
    fun rest => List.find?_cons_of_neg (by simp [h])
  unfold settlement? mark
  rw [List.find?_append, hskip, ← List.find?_append, List.takeWhile_append_dropWhile]

theorem settlement?_mark_self {s : Settlement} (h : book.settlement? s.battle = none) :
    (book.mark s).settlement? s.battle = some s := by
  unfold settlement? at h
  unfold settlement? mark
  rw [List.find?_append]
  have hnone : (book.settlements.takeWhile (·.battle < s.battle)).find? (·.battle = s.battle) =
      none := by
    rw [List.find?_eq_none] at h ⊢
    exact fun t ht => h t (List.takeWhile_sublist _ |>.subset ht)
  rw [hnone, Option.none_or, List.find?_cons_of_pos (by simp)]

/-! ## Payouts -/

/-- A book that differs from another one at most in users, ledger and wagers, where the ledger only
grew and wagers were only settled. -/
structure OnlyPays (book later : Book R) : Prop where
  players : later.players = book.players
  battles : later.battles = book.battles
  participants : later.participants = book.participants
  periods : later.periods = book.periods
  snapshots : later.snapshots = book.snapshots
  settlements : later.settlements = book.settlements
  ledger : ∀ id entry, book.ledger.find? id = some entry → later.ledger.find? id = some entry
  wagerIds : ∀ battle, (later.wagersOn battle).map (·.id) = (book.wagersOn battle).map (·.id)

theorem OnlyPays.refl (book : Book R) : OnlyPays book book :=
  ⟨rfl, rfl, rfl, rfl, rfl, rfl, fun _ _ h => h, fun _ => rfl⟩

theorem OnlyPays.trans {a b c : Book R} (h₁ : OnlyPays a b) (h₂ : OnlyPays b c) : OnlyPays a c :=
  ⟨h₂.players.trans h₁.players, h₂.battles.trans h₁.battles,
    h₂.participants.trans h₁.participants, h₂.periods.trans h₁.periods,
    h₂.snapshots.trans h₁.snapshots, h₂.settlements.trans h₁.settlements,
    fun id entry h => h₂.ledger id entry (h₁.ledger id entry h),
    fun battle => (h₂.wagerIds battle).trans (h₁.wagerIds battle)⟩

section Payouts

variable {battle : Int} {kind : EntryKind} {now : Moment}

theorem wagersOn_pay {p : Pool.Payout} {b : Int} :
    (book.pay battle kind now p).wagersOn b =
      (book.wagersOn b).map fun w => if w.id = p.wager then
        ⟨w.id, { w.data with settledBy := some book.ledger.nextId }⟩ else w :=
  Table.filter_modify_of_stable fun _ => rfl

theorem onlyPays_pay (book : Book R) (p : Pool.Payout) :
    OnlyPays book (book.pay battle kind now p) := by
  refine ⟨rfl, rfl, rfl, rfl, rfl, rfl, fun id entry h => Table.find?_append_of_find? h,
    fun b => ?_⟩
  rw [wagersOn_pay, List.map_map]
  apply List.map_congr_left
  intro w _
  rw [Function.comp_apply]
  split <;> rfl

theorem onlyPays_payAll (book : Book R) (ps : List Pool.Payout) :
    OnlyPays book (book.payAll battle kind now ps) := by
  induction ps generalizing book with
  | nil => exact .refl book
  | cons p rest ih => exact (onlyPays_pay book p).trans (ih _)

theorem wager_payAll_of_not_mem {id : Int} {ps : List Pool.Payout}
    (h : id ∉ ps.map (·.wager)) :
    (book.payAll battle kind now ps).wagers.find? id = book.wagers.find? id := by
  induction ps generalizing book with
  | nil => rfl
  | cons p rest ih =>
    rw [List.map_cons, List.mem_cons, not_or] at h
    rw [payAll_cons, ih h.2]
    exact Table.find?_modify_of_ne h.1

theorem wagersOn_payAll_of_ne {b : Int} {ps : List Pool.Payout} (hb : b ≠ battle)
    (hd : (ps.map (·.wager)).Nodup) (howes : ∀ p ∈ ps, book.Owes battle p) :
    (book.payAll battle kind now ps).wagersOn b = book.wagersOn b := by
  induction ps generalizing book with
  | nil => rfl
  | cons p rest ih =>
    obtain ⟨hp, hrest⟩ := List.nodup_cons.1 hd
    rw [payAll_cons, ih hrest (Owes.payRest howes hp)]
    apply Table.filter_modify
    intro w hw
    obtain ⟨w', hw', rfl, -⟩ := howes p List.mem_cons_self
    rw [hw, Option.some.injEq] at hw'
    subst hw'
    have hne : w.data.battle ≠ b := fun he => hb he.symm
    exact ⟨decide_eq_false hne, decide_eq_false hne⟩

theorem terms_payAll {ps : List Pool.Payout} :
    (book.payAll battle kind now ps).wagers.rows.map Row.terms = book.wagers.rows.map Row.terms := by
  induction ps generalizing book with
  | nil => rfl
  | cons p rest ih => exact ih.trans (Table.map_rows_modify_of_stable fun _ => rfl)

/-! ## What the ledger records -/

/-- What an entry of the ledger records of a wager is recorded as long as the ledger grows. -/
theorem recordedPayout?_of_ledger {w : Row Wager} {p : Pool.Payout}
    (hledger : ∀ id entry, book.ledger.find? id = some entry → later.ledger.find? id = some entry)
    (h : book.recordedPayout? w = some p) : later.recordedPayout? w = some p := by
  unfold recordedPayout? at h ⊢
  cases hsettled : w.data.settledBy with
  | none => rw [hsettled] at h; cases h
  | some id =>
    rw [hsettled] at h
    cases hentry : book.ledger.find? id with
    | none => simp [hentry] at h
    | some entry =>
      simp only [Option.bind_eq_bind, Option.bind_some, hentry, hledger id entry hentry] at h ⊢
      exact h

theorem SettledBy.recordedPayout?_eq {w : Row Wager} {entry : Row Entry}
    (h : book.SettledBy w entry) :
    book.recordedPayout? w = some (w.stake.resolve entry.data.amount) := by
  unfold recordedPayout?
  rw [h.refers]
  simp only [Option.bind_eq_bind, Option.bind_some, Table.find?_of_mem h.entered]
  rfl

/-- The wager of a payout is settled by an entry of this kind, which pays what the payout says. -/
def Carries (book : Book R) (kind : EntryKind) (p : Pool.Payout) : Prop :=
  ∃ w entry, book.wagers.find? p.wager = some w ∧ w.stake = p.origin ∧ book.SettledBy w entry ∧
    entry.data.kind = kind ∧ entry.data.amount = p.paid

theorem carries_pay {p : Pool.Payout} (h : book.Owes battle p) :
    (book.pay battle kind now p).Carries kind p := by
  obtain ⟨w, hw, hbattle, -, hstake⟩ := h
  have huser : w.data.user = p.user := congrArg (·.user) hstake
  refine ⟨⟨w.id, { w.data with settledBy := some book.ledger.nextId }⟩,
    ⟨book.ledger.nextId, book.entry (p.movement battle kind now)⟩, Table.find?_modify_self hw,
    hstake, ⟨rfl, ?_, huser.symm, congrArg some hbattle.symm⟩, rfl, rfl⟩
  exact List.mem_append_right _ (List.mem_singleton.2 rfl)

theorem Carries.payAll {p : Pool.Payout} {ps : List Pool.Payout} (h : book.Carries kind p)
    (hp : p.wager ∉ ps.map (·.wager)) : (book.payAll battle kind now ps).Carries kind p := by
  obtain ⟨w, entry, hw, hstake, hsettled, hentry⟩ := h
  exact ⟨w, entry, (wager_payAll_of_not_mem hp).trans hw, hstake,
    hsettled.of_ledger (onlyPays_payAll book ps).ledger, hentry⟩

/-- After the payouts every wager that they were for carries its entry. -/
theorem carries_payAll {ps : List Pool.Payout} (hd : (ps.map (·.wager)).Nodup)
    (howes : ∀ p ∈ ps, book.Owes battle p) :
    ∀ p ∈ ps, (book.payAll battle kind now ps).Carries kind p := by
  induction ps generalizing book with
  | nil => exact fun p hp => nomatch hp
  | cons p rest ih =>
    obtain ⟨hp, hrest⟩ := List.nodup_cons.1 hd
    rw [payAll_cons, List.forall_mem_cons]
    exact ⟨(carries_pay (howes p List.mem_cons_self)).payAll hp, ih hrest (Owes.payRest howes hp)⟩

end Payouts

/-! ## The record of a settlement -/

section Settlement

variable {found : Row Battle} {split : Pool.Split} {now : Moment}

theorem settlement?_settled_of_ne {battle : Int} (h : found.id ≠ battle) :
    (book.settled found split now).settlement? battle = book.settlement? battle := by
  rw [settled, settlement?_mark_of_ne h, settlement?, settlement?,
    (onlyPays_payAll book split.payouts).settlements]

theorem settlement?_settled_self (h : book.Settles found split now) :
    (book.settled found split now).settlement? found.id =
      some ⟨found.id, book.victorOf found, now⟩ := by
  have hunmarked : (book.payAll found.id split.kind now split.payouts).settlement? found.id =
      none := by
    rw [settlement?, (onlyPays_payAll book split.payouts).settlements]
    exact h.unmarked
  exact settlement?_mark_self hunmarked

theorem wagersOn_settled_of_ne {battle : Int} (h : book.Settles found split now)
    (hne : battle ≠ found.id) :
    (book.settled found split now).wagersOn battle = book.wagersOn battle :=
  wagersOn_payAll_of_ne hne h.nodup_wagers h.owes

/-- When no wager on the battle was settled before, all of them are settled by the entries of the
payouts. -/
theorem carried_wagers_settled (h : book.Settles found split now)
    (hall : book.unsettledOn found.id = book.wagersOn found.id) :
    ∀ w ∈ (book.settled found split now).wagersOn found.id, ∃ p ∈ split.payouts,
      p.origin = w.stake ∧ ∃ entry, (book.settled found split now).SettledBy w entry ∧
        entry.data.kind = split.kind ∧ entry.data.amount = p.paid := by
  intro w hw
  have hids : w.id ∈ split.payouts.map (·.wager) := by
    rw [h.map_wager_payouts, hall, ← (onlyPays_payAll book split.payouts).wagerIds found.id]
    exact List.mem_map_of_mem hw
  obtain ⟨p, hp, hid⟩ := List.mem_map.1 hids
  have hcarries : (book.payAll found.id split.kind now split.payouts).Carries split.kind p :=
    carries_payAll h.nodup_wagers h.owes p hp
  obtain ⟨w', entry, hw', hstake, hsettled, hentry⟩ := hcarries
  have hwfound := Table.find?_of_mem (List.mem_of_mem_filter hw)
  rw [hid] at hw'
  obtain rfl : w' = w := Option.some.inj (hw'.symm.trans hwfound)
  exact ⟨p, hp, hstake.symm, entry, ⟨hsettled.refers, hsettled.entered, hsettled.user,
    hsettled.battle⟩, hentry⟩

theorem recorded_wagers_settled (h : book.Settles found split now)
    (hall : book.unsettledOn found.id = book.wagersOn found.id) :
    ∀ w ∈ (book.settled found split now).wagersOn found.id, ∃ p ∈ split.payouts,
      p.wager = w.id ∧ (book.settled found split now).recordedPayout? w = some p := by
  intro w hw
  obtain ⟨p, hp, hstake, entry, hsettled, -, hamount⟩ := carried_wagers_settled h hall w hw
  refine ⟨p, hp, congrArg (·.wager) hstake, ?_⟩
  rw [hsettled.recordedPayout?_eq, ← hstake, hamount]
  rfl

theorem resolution?_settled (h : book.Settles found split now)
    (hall : book.unsettledOn found.id = book.wagersOn found.id) :
    (book.settled found split now).resolution? found.id =
      some ⟨found.id, book.victorOf found, split.payouts, true⟩ := by
  have hkeys : ((book.settled found split now).wagersOn found.id).map (·.id) =
      split.payouts.map (·.wager) := by
    rw [h.map_wager_payouts, hall]
    exact (onlyPays_payAll book split.payouts).wagerIds found.id
  have hpayouts := filterMap_eq_of_keys hkeys h.nodup_wagers (recorded_wagers_settled h hall)
  rw [resolution?, settlement?_settled_self h, Option.map_some, recorded, hpayouts]

end Settlement

end Book

end RaceBook
