import Mathlib.Logic.Relation
import RaceBook.Proofs.Rating.Closing
import RaceBook.Proofs.Settlement.Paid

/-!
# Events

What operations do to a book is made of a few kinds of events, each with a condition and an effect.

* `Event`, `Event.Enabled`, `Event.apply` : the events, when they can happen and what they write;
* `Event.battles_apply`, `Event.participants_apply`, `Event.periods_apply`,
  `Event.snapshots_apply`, `Event.settlements_apply` : which events write to these tables, and what;
* `Event.Steps allowed` : one book becomes another by allowed events;
* `Event.Steps.invariant` : what every allowed event keeps is kept by all of them together.
-/

namespace RaceBook

/-- What can happen to a book in one go. -/
inductive Event (R : Type) where
  | playerEntered (key displayName : String) (initial : Standing R)
  | playerRenamed (player : Int) (displayName : String)
  | userEntered (username : String) (now : Moment)
  | posted (m : Movement)
  | battleCreated (levelName : String) (closesAt now : Moment)
  | participantEntered (battle player : Int) (team : Team)
  | resultReported (known : Row Participant) (finish : Finish)
  | battleEnded (battle : Int) (cancelled : Bool) (now : Moment)
  | wagerPlaced (w : Wager)
  | wagerReplaced (known : Row Wager) (team : Team) (stake : Int) (now : Moment)
  | battleSettled (found : Row Battle) (split : Pool.Split) (now : Moment)
  | periodOpened (now : Moment)
  | periodMarked (found : Row Period)
  | periodClosed (config : Config R) (found : Row Period) (endedAt : Moment)
  | snapshotTaken (s : Snapshot R)
  | cacheRefreshed (player : Int)

namespace Book

variable {R : Type}

def endStatus (cancelled : Bool) : BattleStatus := if cancelled then .cancelled else .concluded

/-- A book that differs from another one at most in players, periods and snapshots. -/
structure SameRaces (book later : Book R) : Prop where
  users : later.users = book.users
  battles : later.battles = book.battles
  participants : later.participants = book.participants
  ledger : later.ledger = book.ledger
  wagers : later.wagers = book.wagers
  settlements : later.settlements = book.settlements

theorem OnlyRates.sameRaces {book later : Book R} (h : OnlyRates book later) :
    book.SameRaces later :=
  ⟨h.users, h.battles, h.participants, h.ledger, h.wagers, h.settlements⟩

theorem sameRaces_marked (book : Book R) (found : Row Period) :
    book.SameRaces (book.marked found) := by
  unfold marked
  split <;> exact ⟨rfl, rfl, rfl, rfl, rfl, rfl⟩

end Book

variable {R : Type} [Arithmetic R]

namespace Event

variable {allowed : Event R → Prop} {book later : Book R}

def Enabled (book : Book R) : Event R → Prop
  | playerEntered key _ initial =>
    isPublicKey key = true ∧ (∀ p ∈ book.players.rows, p.data.publicKey ≠ key.toLower) ∧
      initial.IsStorable
  | playerRenamed player _ => (book.players.find? player).isSome = true
  | userEntered username _ =>
    username ≠ "" ∧ ∀ u ∈ book.users.rows, u.data.username ≠ username
  | posted m => book.Accepts m
  | battleCreated _ closesAt now => now ≤ closesAt
  | participantEntered battle player _ =>
    book.Ongoing battle ∧ (book.players.find? player).isSome = true ∧
      book.participant? battle player = none
  | resultReported known finish =>
    book.Ongoing known.data.battle ∧ (∀ tics ∈ finish.time, 0 ≤ tics) ∧
      book.participant? known.data.battle known.data.player = some known
  | battleEnded battle _ _ => book.Ongoing battle
  | wagerPlaced w =>
    book.TakesWagers w.battle w.victor ∧ 0 < w.stake ∧ w.settledBy = none ∧
      book.wager? w.user w.battle = none ∧ book.Accepts w.taking
  | wagerReplaced known team stake now =>
    book.TakesWagers known.data.battle team ∧ 0 < stake ∧
      book.wager? known.data.user known.data.battle = some known ∧ known.data.settledBy = none ∧
      book.Accepts (known.data.returning now) ∧
      (book.post (known.data.returning now)).Accepts (known.data.replaced team stake now).taking
  | battleSettled found split now => book.Settles found split now
  | periodOpened _ => book.periods.rows = []
  | periodMarked found =>
    book.periods.find? found.id = some found ∧ found.data.status = .opened
  | periodClosed config found endedAt => book.Closes config found endedAt
  | snapshotTaken s => book.TakesSnapshot s
  | cacheRefreshed player => (book.players.find? player).isSome = true

def apply (book : Book R) : Event R → Book R
  | playerEntered key displayName initial =>
    { book with players := book.players.append ⟨key.toLower, displayName, initial.stored, none⟩ }
  | playerRenamed player displayName =>
    { book with players := book.players.modify player ({ · with displayName }) }
  | userEntered username now => book.enterUser username now
  | posted m => book.post m
  | battleCreated levelName closesAt now =>
    { book with battles := book.battles.append ⟨levelName, .ongoing, now, closesAt, none⟩ }
  | participantEntered battle player team =>
    { book with participants := book.participants.append ⟨battle, player, team, .pending⟩ }
  | resultReported known finish =>
    { book with participants := book.participants.modify known.id ({ · with finish }) }
  | battleEnded battle cancelled now =>
    { book with
      battles := book.battles.modify battle
        ({ · with status := Book.endStatus cancelled, concludedAt := some now }) }
  | wagerPlaced w => book.placeFirst w
  | wagerReplaced known team stake now => book.replaceWager known team stake now
  | battleSettled found split now => book.settled found split now
  | periodOpened now => book.withPeriod now
  | periodMarked found => book.marked found
  | periodClosed config found endedAt => book.closed config found endedAt
  | snapshotTaken s => book.withSnapshot s
  | cacheRefreshed player => book.refreshed player

/-! ## What events write -/

/-- The events that write periods, snapshots and standings. -/
def IsRating : Event R → Prop
  | periodOpened _ | periodMarked _ | periodClosed .. | snapshotTaken _ | cacheRefreshed _ => True
  | _ => False

theorem sameRaces_apply {e : Event R} (h : e.IsRating) (book : Book R) :
    book.SameRaces (e.apply book) := by
  cases e with
  | periodOpened now => exact ⟨rfl, rfl, rfl, rfl, rfl, rfl⟩
  | periodMarked found => exact Book.sameRaces_marked book found
  | periodClosed config found endedAt =>
    have h := Book.onlyRates_withSnapshots book (book.snapshotsOfClose config found endedAt)
    exact ⟨h.users, h.battles, h.participants, h.ledger, h.wagers, h.settlements⟩
  | snapshotTaken s => exact (Book.onlyRates_withSnapshot book s).sameRaces
  | cacheRefreshed player => exact (Book.onlyRates_refreshed book player).sameRaces
  | _ => exact h.elim

theorem battles_apply (e : Event R) (book : Book R) :
    (e.apply book).battles = match e with
      | battleCreated levelName closesAt now =>
        book.battles.append ⟨levelName, .ongoing, now, closesAt, none⟩
      | battleEnded battle cancelled now =>
        book.battles.modify battle
          ({ · with status := Book.endStatus cancelled, concludedAt := some now })
      | _ => book.battles := by
  cases e with
  | battleSettled found split now => exact (Book.onlyPays_payAll book split.payouts).battles
  | periodOpened | periodMarked | periodClosed | snapshotTaken | cacheRefreshed =>
    exact (sameRaces_apply (by trivial) book).battles
  | _ => rfl

theorem participants_apply (e : Event R) (book : Book R) :
    (e.apply book).participants = match e with
      | participantEntered battle player team =>
        book.participants.append ⟨battle, player, team, .pending⟩
      | resultReported known finish => book.participants.modify known.id ({ · with finish })
      | _ => book.participants := by
  cases e with
  | battleSettled found split now => exact (Book.onlyPays_payAll book split.payouts).participants
  | periodOpened | periodMarked | periodClosed | snapshotTaken | cacheRefreshed =>
    exact (sameRaces_apply (by trivial) book).participants
  | _ => rfl

theorem settlements_apply (e : Event R) (book : Book R) :
    (e.apply book).settlements = match e with
      | battleSettled found _ now =>
        (book.mark ⟨found.id, book.victorOf found, now⟩).settlements
      | _ => book.settlements := by
  cases e with
  | battleSettled found split now =>
    change ((book.payAll found.id split.kind now split.payouts).mark _).settlements = _
    unfold Book.mark
    rw [(Book.onlyPays_payAll book split.payouts).settlements]
  | periodOpened | periodMarked | periodClosed | snapshotTaken | cacheRefreshed =>
    exact (sameRaces_apply (by trivial) book).settlements
  | _ => rfl

theorem periods_apply (e : Event R) (book : Book R) :
    (e.apply book).periods = match e with
      | periodOpened now => book.periods.append ⟨.opened, now, none⟩
      | periodMarked found => (book.marked found).periods
      | periodClosed _ found endedAt =>
        (book.periods.modify found.id (·.ended endedAt)).append ⟨.opened, endedAt, none⟩
      | _ => book.periods := by
  cases e with
  | battleSettled found split now => exact (Book.onlyPays_payAll book split.payouts).periods
  | snapshotTaken s => exact (Book.onlyRates_withSnapshot book s).periods
  | cacheRefreshed player => exact (Book.onlyRates_refreshed book player).periods
  | _ => rfl

theorem snapshots_apply (e : Event R) (book : Book R) :
    (e.apply book).snapshots = match e with
      | snapshotTaken s => book.snapshots.append s.stored
      | periodClosed config found endedAt =>
        book.snapshots.appendAll ((book.snapshotsOfClose config found endedAt).map (·.stored))
      | _ => book.snapshots := by
  cases e with
  | battleSettled found split now => exact (Book.onlyPays_payAll book split.payouts).snapshots
  | periodMarked found => exact Book.snapshots_marked
  | periodClosed config found endedAt => exact book.snapshots_withSnapshots _
  | snapshotTaken s => exact Book.snapshots_withSnapshot
  | cacheRefreshed player => exact book.snapshots_refreshed player
  | _ => rfl

/-- Entries stay in the ledger as they are. -/
theorem entry_apply (e : Event R) {id : Int} {entry : Row Entry}
    (h : book.ledger.find? id = some entry) : (e.apply book).ledger.find? id = some entry := by
  cases e with
  | posted m => exact Table.find?_append_of_find? h
  | wagerPlaced w => exact Table.find?_append_of_find? h
  | wagerReplaced known team stake now =>
    exact Table.find?_append_of_find? (Table.find?_append_of_find? h)
  | battleSettled found split now =>
    exact (Book.onlyPays_payAll book split.payouts).ledger id entry h
  | periodOpened | periodMarked | periodClosed | snapshotTaken | cacheRefreshed =>
    rw [(sameRaces_apply (by trivial) book).ledger]
    exact h
  | _ => exact h

/-! ## Several events -/

def Step (allowed : Event R → Prop) (book later : Book R) : Prop :=
  ∃ e, allowed e ∧ e.Enabled book ∧ later = e.apply book

abbrev Steps (allowed : Event R → Prop) : Book R → Book R → Prop :=
  Relation.ReflTransGen (Step allowed)

theorem Steps.single {e : Event R} (ha : allowed e) (he : e.Enabled book) :
    Steps allowed book (e.apply book) := Relation.ReflTransGen.single ⟨e, ha, he, rfl⟩

/-- What every allowed event keeps is kept by any number of them. -/
theorem Steps.invariant {P : Book R → Prop} (h : Steps allowed book later)
    (hstep : ∀ book e, allowed e → P book → e.Enabled book → P (e.apply book)) (hP : P book) :
    P later := by
  induction h with
  | refl => exact hP
  | tail _ hlast ih =>
    obtain ⟨e, ha, he, rfl⟩ := hlast
    exact hstep _ e ha ih he

end Event

end RaceBook
