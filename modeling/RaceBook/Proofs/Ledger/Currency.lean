import RaceBook.Proofs.Operations

/-!
# The currency of a book

* `Book.currency` : all balances and all stakes that are still to be paid out;
* `Book.currency_post`, `Book.currency_placeFirst`, `Book.currency_replaceWager`,
  `Book.currency_settled` : what a movement, a wager and a settlement do to it;
* `Event.currency_apply` : only a movement on its own changes it;
* `currency_perform` : operations on the ledger change it by their amounts, all others leave it, and
  so does every refusal.
-/

namespace RaceBook

variable {R : Type} {book later : Book R}

/-- What a wager still has in the pool. -/
def Wager.pending (w : Wager) : Int := if w.settledBy.isNone then w.stake else 0

namespace Book

def balances (book : Book R) : Int := sumOf (book.users.rows.map (·.data.balance))

def staked (book : Book R) : Int :=
  sumOf ((book.wagers.rows.filter (·.data.settledBy.isNone)).map (·.data.stake))

/-- All that users have, on their balances and in the pools. -/
def currency (book : Book R) : Int := book.balances + book.staked

theorem staked_eq_sumOf_pending : book.staked = sumOf (book.wagers.rows.map (·.data.pending)) :=
  sumOf_map_filter _ _ _

theorem currency_congr (husers : later.users = book.users) (hwagers : later.wagers = book.wagers) :
    later.currency = book.currency := by
  rw [currency, currency, balances, balances, staked, staked, husers, hwagers]

/-! ## Movements and wagers -/

theorem balances_post {m : Movement} (h : book.Accepts m) :
    (book.post m).balances = book.balances + m.amount := by
  obtain ⟨known, hknown⟩ := Option.isSome_iff_exists.1 h.known
  have hbalance : book.balanceOf m.user = known.data.balance := by
    rw [balanceOf, hknown, Option.map_some, Option.getD_some]
  have hsum : (book.post m).balances =
      book.balances + (book.balanceOf m.user + m.amount - known.data.balance) :=
    Table.sumOf_modify _ hknown
  rw [hsum, hbalance]
  omega

theorem currency_post {m : Movement} (h : book.Accepts m) :
    (book.post m).currency = book.currency + m.amount := by
  rw [currency, currency, balances_post h]
  change book.balances + m.amount + book.staked = _
  omega

theorem currency_enterUser {username : String} {now : Moment} :
    (book.enterUser username now).currency = book.currency := by
  have husers : (book.enterUser username now).balances = book.balances := by
    rw [balances, enterUser, Table.sumOf_append, balances]
    exact Int.add_zero _
  rw [currency, husers]
  rfl

/-- A wager moves its stake from the balance into the pool. -/
theorem currency_placeFirst {w : Wager} (h : book.Accepts w.taking) (hw : w.settledBy = none) :
    (book.placeFirst w).currency = book.currency := by
  have hbalances : (book.placeFirst w).balances = book.balances + -w.stake := balances_post h
  have hstaked : (book.placeFirst w).staked = book.staked + w.pending := by
    rw [staked_eq_sumOf_pending, staked_eq_sumOf_pending]
    exact Table.sumOf_append _
  rw [currency, hbalances, hstaked, currency, Wager.pending, hw, Option.isNone_none, if_pos rfl]
  omega

/-- A wager that is replaced returns its old stake and takes the new one. -/
theorem currency_replaceWager {known : Row Wager} {team : Team} {stake : Int} {now : Moment}
    (hknown : book.wagers.find? known.id = some known) (hw : known.data.settledBy = none)
    (hreturns : book.Accepts (known.data.returning now))
    (htakes : (book.post (known.data.returning now)).Accepts
      (known.data.replaced team stake now).taking) :
    (book.replaceWager known team stake now).currency = book.currency := by
  have hbalances : (book.replaceWager known team stake now).balances =
      book.balances + known.data.stake + -stake :=
    (balances_post htakes).trans (congrArg (· + -stake) (balances_post hreturns))
  have hstaked : (book.replaceWager known team stake now).staked =
      book.staked + ((known.data.replaced team stake now).pending - known.data.pending) := by
    rw [staked_eq_sumOf_pending, staked_eq_sumOf_pending]
    exact Table.sumOf_modify _ hknown
  have hnew : (known.data.replaced team stake now).settledBy = none := hw
  rw [currency, hbalances, hstaked, currency, Wager.pending, Wager.pending, hnew, hw,
    Option.isNone_none, if_pos rfl, if_pos rfl]
  change _ + (_ + (stake - _)) = _
  omega

/-! ## Settlements -/

/-- A payout takes the stake out of the pool and adds what is paid to the balance. -/
theorem currency_pay {battle : Int} {kind : EntryKind} {now : Moment} {p : Pool.Payout}
    (howes : book.Owes battle p) (haccepts : book.Accepts (p.movement battle kind now)) :
    (book.pay battle kind now p).currency = book.currency + p.net := by
  obtain ⟨w, hw, -, hunsettled, hstake⟩ := howes
  have hamount : w.data.stake = p.stake := congrArg (·.amount) hstake
  have hbalances : (book.pay battle kind now p).balances = book.balances + p.paid :=
    balances_post haccepts
  have hstaked : (book.pay battle kind now p).staked = book.staked + (0 - w.data.pending) := by
    rw [staked_eq_sumOf_pending, staked_eq_sumOf_pending]
    exact Table.sumOf_modify _ hw
  rw [currency, hbalances, hstaked, currency, Wager.pending, hunsettled, Option.isNone_none,
    if_pos rfl, hamount, Pool.Payout.net]
  omega

theorem currency_payAll {battle : Int} {kind : EntryKind} {now : Moment} {ps : List Pool.Payout}
    (hd : (ps.map (·.wager)).Nodup) (howes : ∀ p ∈ ps, book.Owes battle p)
    (hpays : Pays battle kind now book ps) :
    (book.payAll battle kind now ps).currency = book.currency + sumOf (ps.map (·.net)) := by
  induction ps generalizing book with
  | nil => exact (Int.add_zero _).symm
  | cons p rest ih =>
    obtain ⟨hp, hrest⟩ := List.nodup_cons.1 hd
    obtain ⟨-, haccepts, hpays⟩ := hpays
    have hfirst := currency_pay (howes p List.mem_cons_self) haccepts
    rw [payAll_cons, ih hrest (Owes.payRest howes hp) hpays, hfirst, List.map_cons, sumOf_cons]
    omega

/-- A settlement pays out what is in the pool, to the unit. -/
theorem currency_settled {found : Row Battle} {split : Pool.Split} {now : Moment}
    (h : book.Settles found split now) : (book.settled found split now).currency = book.currency := by
  have hstakes : Pool.total (split.payouts.map (·.origin)) = sumOf (split.payouts.map (·.stake)) := by
    rw [Pool.total, List.map_map]
    rfl
  have hwagers : ((book.unsettledOn found.id).map (·.stake)).map (·.wager) =
      split.payouts.map (·.wager) := by
    rw [List.map_map, h.map_wager_payouts]
    rfl
  have hpaid := Pool.sumOf_paid h.divided (hwagers ▸ h.nodup_wagers)
  rw [← h.map_origin_payouts, hstakes] at hpaid
  have hnet : sumOf (split.payouts.map (·.net)) = 0 := by
    have hsub := sumOf_map_sub (fun p : Pool.Payout => p.paid) (fun p => p.stake) split.payouts
    unfold Pool.Payout.net
    omega
  have hall := currency_payAll h.nodup_wagers h.owes h.pays
  rw [hnet, Int.add_zero] at hall
  exact hall

/-! ## Ratings -/

theorem OnlyRates.currency_eq (h : OnlyRates book later) : later.currency = book.currency :=
  currency_congr h.users h.wagers

end Book

section

variable [Arithmetic R]

def Event.issue : Event R → Int
  | .posted m => m.amount
  | _ => 0

/-- Only a movement on its own changes the currency of a book. -/
theorem Event.currency_apply {e : Event R} (h : e.Enabled book) :
    (e.apply book).currency = book.currency + e.issue := by
  cases e with
  | posted m => exact Book.currency_post h
  | userEntered username now => exact Book.currency_enterUser.trans (Int.add_zero _).symm
  | wagerPlaced w =>
    obtain ⟨-, -, hw, -, haccepts⟩ := h
    exact (Book.currency_placeFirst haccepts hw).trans (Int.add_zero _).symm
  | wagerReplaced known team stake now =>
    obtain ⟨-, -, hknown, hw, hreturns, htakes⟩ := h
    have hfound := Table.find?_of_mem (List.mem_of_mem_filter (Book.of_wager?_eq_some hknown).1)
    exact (Book.currency_replaceWager hfound hw hreturns htakes).trans (Int.add_zero _).symm
  | battleSettled found split now =>
    exact (Book.currency_settled h).trans (Int.add_zero _).symm
  | periodMarked found =>
    have hmarked : (book.marked found).currency = book.currency := by
      unfold Book.marked
      split <;> rfl
    exact hmarked.trans (Int.add_zero _).symm
  | periodClosed config found endedAt =>
    have hrates := Book.onlyRates_withSnapshots book (book.snapshotsOfClose config found endedAt)
    exact hrates.currency_eq.trans (Int.add_zero _).symm
  | snapshotTaken s =>
    exact (Book.onlyRates_withSnapshot book s).currency_eq.trans (Int.add_zero _).symm
  | cacheRefreshed player =>
    exact (Book.onlyRates_refreshed book player).currency_eq.trans (Int.add_zero _).symm
  | playerEntered | playerRenamed | battleCreated | participantEntered | resultReported
  | battleEnded | periodOpened => exact (Int.add_zero _).symm

theorem Event.Steps.currency_eq {allowed : Event R → Prop} (h : Event.Steps allowed book later)
    (hissue : ∀ e, allowed e → e.issue = 0) : later.currency = book.currency := by
  refine h.invariant (P := fun b => b.currency = book.currency) ?_ rfl
  intro mid e ha hmid he
  rw [Event.currency_apply he, hissue e ha, hmid, Int.add_zero]

/-! ## Operations -/

/-- What an operation that ends well adds to the currency. -/
def Operation.issue : Operation R → Int
  | .command (.createUser _ startingBalance _) => max startingBalance 0
  | .command (.credit _ amount _ _ _) => amount
  | .command (.grant _ amount _) => amount
  | .command (.debit _ amount _ _ _) => -amount
  | _ => 0

theorem Command.currency_of_run {c : Command R} {reply : Reply R}
    (h : c.run book = .ok reply later) :
    later.currency = book.currency + (Operation.command c).issue := by
  have hsteps := Command.steps_of_run h
  have hsame : (∀ e : Event R, c.Explains e → e.issue = 0) →
      later.currency = book.currency + 0 :=
    fun hissue => (hsteps.currency_eq hissue).trans (Int.add_zero _).symm
  cases c with
  | createUser name start now =>
    obtain ⟨row, hrun, -⟩ := Session.map_eq_ok.1 h
    obtain ⟨-, -, -, hrun⟩ := Session.createUser_eq_ok.1 hrun
    by_cases hpos : 0 < start
    · simp only [if_pos hpos] at hrun
      obtain ⟨haccepts, rfl⟩ := hrun
      rw [Book.currency_post haccepts, Book.currency_enterUser]
      change book.currency + start = book.currency + max start 0
      omega
    · simp only [if_neg hpos] at hrun
      rw [hrun, Book.currency_enterUser]
      change _ = _ + max start 0
      omega
  | credit user amount kind battle? now =>
    obtain ⟨row, hrun, -⟩ := Session.map_eq_ok.1 h
    obtain ⟨-, haccepts, -, rfl⟩ := Session.credit_eq_ok.1 hrun
    exact Book.currency_post haccepts
  | debit user amount kind battle? now =>
    obtain ⟨row, hrun, -⟩ := Session.map_eq_ok.1 h
    obtain ⟨-, haccepts, -, rfl⟩ := Session.debit_eq_ok.1 hrun
    exact Book.currency_post haccepts
  | grant user amount now =>
    obtain ⟨row, hrun, -⟩ := Session.map_eq_ok.1 h
    obtain ⟨-, haccepts, -, rfl⟩ := Session.credit_eq_ok.1 hrun
    exact Book.currency_post haccepts
  | register key name initial =>
    apply hsame
    rintro e (⟨_, _, _, rfl⟩ | ⟨_, _, rfl⟩) <;> rfl
  | addParticipant battle player number =>
    apply hsame
    rintro e ⟨team, rfl⟩
    rfl
  | reportResult battle player finish =>
    apply hsame
    rintro e ⟨known, -, -, rfl⟩
    rfl
  | placeWager user battle number stake grace now =>
    apply hsame
    rintro e (⟨team, rfl⟩ | ⟨known, team, -, -, rfl⟩) <;> rfl
  | createBattle | concludeBattle | ensureOpenPeriod | appendSnapshot | refreshCache =>
    apply hsame
    rintro e rfl
    rfl

theorem Operation.currency_after {op : Operation R} (hop : ∀ c, op ≠ .command c) :
    (op.after book).currency = book.currency ∧ op.issue = 0 := by
  have hsteps := op.steps_after book
  cases op with
  | command c => exact absurd rfl (hop c)
  | query q => exact ⟨hsteps.currency_eq fun e he => he.elim, rfl⟩
  | openFirstPeriod now =>
    refine ⟨hsteps.currency_eq ?_, rfl⟩
    rintro e rfl
    rfl
  | settle battle now =>
    refine ⟨hsteps.currency_eq ?_, rfl⟩
    rintro e ⟨found, split, -, rfl⟩
    rfl
  | closePeriod config period? endedAt =>
    refine ⟨hsteps.currency_eq ?_, rfl⟩
    rintro e (⟨found, rfl⟩ | ⟨found, rfl⟩) <;> rfl
  | closeElapsed config now =>
    refine ⟨hsteps.currency_eq ?_, rfl⟩
    rintro e (rfl | ⟨found, rfl⟩ | ⟨found, endedAt, rfl⟩) <;> rfl

theorem Operation.currency_of_ok {op : Operation R} {reply : Reply R}
    (h : op.perform book = .ok reply later) : later.currency = book.currency + op.issue := by
  by_cases hop : ∃ c, op = .command c
  · obtain ⟨c, rfl⟩ := hop
    exact Command.currency_of_run (Session.atomically_eq_ok.1 h)
  · obtain ⟨hsame, hissue⟩ : (op.after book).currency = book.currency ∧ op.issue = 0 :=
      currency_after fun c he => hop ⟨c, he⟩
    rw [hissue, ← hsame, Operation.after, Session.after, h, Int.add_zero]

theorem Operation.currency_of_error {op : Operation R} {fault : Fault R}
    (h : op.perform book = .error fault later) : later.currency = book.currency := by
  by_cases hop : ∃ c, op = .command c
  · obtain ⟨c, rfl⟩ := hop
    rw [(Session.atomically_eq_error.1 h).2]
  · obtain ⟨hsame, -⟩ : (op.after book).currency = book.currency ∧ op.issue = 0 :=
      currency_after fun c he => hop ⟨c, he⟩
    rw [← hsame, Operation.after, Session.after, h]

/-- **The currency of a book is conserved**: an operation that ends well adds what it issues, which
only the ledger's own operations do, and an operation that is refused changes nothing. -/
theorem currency_perform (book : Book R) (op : Operation R) :
    match op.perform book with
    | .ok _ later => later.currency = book.currency + op.issue
    | .error _ later => later.currency = book.currency := by
  cases h : op.perform book with
  | ok reply later => exact Operation.currency_of_ok h
  | error fault later => exact Operation.currency_of_error h

def Operation.issued (op : Operation R) (book : Book R) : Int :=
  match op.perform book with
  | .ok _ _ => op.issue
  | .error _ _ => 0

def Operation.issuedBy : List (Operation R) → Book R → Int
  | [], _ => 0
  | op :: rest, book => op.issued book + issuedBy rest (op.after book)

/-- Over a whole run the currency of a book is what was issued into it. -/
theorem Operation.currency_run (ops : List (Operation R)) (book : Book R) :
    (Operation.run ops book).currency = book.currency + Operation.issuedBy ops book := by
  induction ops generalizing book with
  | nil => exact (Int.add_zero _).symm
  | cons op rest ih =>
    have hstep : (op.after book).currency = book.currency + op.issued book := by
      unfold Operation.after Session.after Operation.issued
      cases h : op.perform book with
      | ok reply later => exact Operation.currency_of_ok h
      | error fault later => exact (Operation.currency_of_error h).trans (Int.add_zero _).symm
    rw [Operation.run_cons, ih, hstep, Operation.issuedBy]
    omega

end

end RaceBook
