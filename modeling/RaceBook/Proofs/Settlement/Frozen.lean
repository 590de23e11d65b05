import RaceBook.Proofs.Settlement.Total

/-!
# A battle that ended is frozen

* `Row.SettledSince` : a wager that is the same later on, settled since or not;
* `Book.Frozen` : between two books a battle, its participants and the terms of its wagers stay;
* `Event.frozen_apply`, `Operation.frozen_run` : so they do from the end of the battle on, whatever
  happens;
* `Book.Timed`, `Book.EntersOnce` : a battle has the time of its end once it ended, and a player is
  in it once; `Reachable.timed`, `Reachable.entersOnce`;
* `ended_frozen` : all of this, and that it does not matter for the payouts when a battle is settled.
-/

namespace RaceBook

variable {R : Type} {book later : Book R}

/-- A later wager is this one, which may have been settled in between. -/
def Row.SettledSince (w later : Row Wager) : Prop :=
  later = w ∨ w.data.settledBy = none ∧
    ∃ entry, later = ⟨w.id, { w.data with settledBy := some entry }⟩

namespace Row.SettledSince

variable {u v w : Row Wager}

theorem refl (w : Row Wager) : w.SettledSince w := .inl rfl

theorem trans (h₁ : u.SettledSince v) (h₂ : v.SettledSince w) : u.SettledSince w := by
  rcases h₂ with rfl | ⟨hunsettled, hsettled⟩
  · exact h₁
  · rcases h₁ with rfl | ⟨-, entry, rfl⟩
    · exact .inr ⟨hunsettled, hsettled⟩
    · cases hunsettled

theorem stake_eq (h : v.SettledSince w) : w.stake = v.stake := by
  rcases h with rfl | ⟨-, entry, rfl⟩ <;> rfl

end Row.SettledSince

namespace Book

/-- Between two books a battle and its participants stay as they are, and so do its wagers, except
that they may be settled. -/
structure Frozen (book later : Book R) (battle : Int) : Prop where
  row : later.battles.find? battle = book.battles.find? battle
  participants : later.participantsOf battle = book.participantsOf battle
  wagers : List.Forall₂ Row.SettledSince (book.wagersOn battle) (later.wagersOn battle)

namespace Frozen

variable {battle : Int}

theorem refl (book : Book R) (battle : Int) : book.Frozen book battle :=
  ⟨rfl, rfl, List.forall₂_same.2 fun w _ => .refl w⟩

theorem trans {a b c : Book R} (h₁ : a.Frozen b battle) (h₂ : b.Frozen c battle) :
    a.Frozen c battle :=
  ⟨h₂.row.trans h₁.row, h₂.participants.trans h₁.participants,
    forall₂_trans (fun _ _ _ => .trans) h₁.wagers h₂.wagers⟩

theorem victorOf {found : Row Battle} (h : book.Frozen later found.id) :
    later.victorOf found = book.victorOf found := by
  rw [Book.victorOf, Book.victorOf, h.participants]

theorem stakes (h : book.Frozen later battle) :
    (later.wagersOn battle).map (·.stake) = (book.wagersOn battle).map (·.stake) := by
  have hstakes : List.Forall₂ (·.stake = ·.stake) (book.wagersOn battle) (later.wagersOn battle) :=
    h.wagers.imp fun _ _ hw => hw.stake_eq.symm
  rw [← List.forall₂_map_right_iff, ← List.forall₂_map_left_iff, List.forall₂_eq_eq_eq] at hstakes
  exact hstakes.symm

end Frozen

theorem Settles.settledSince {found : Row Battle} {split : Pool.Split} {now : Moment}
    (h : book.Settles found split now) :
    List.Forall₂ Row.SettledSince (book.wagersOn found.id)
      ((book.settled found split now).wagersOn found.id) := by
  have hstamped : (book.settled found split now).wagersOn found.id =
      (book.wagersOn found.id).map (·.stamped split.payouts book.ledger.nextId) :=
    wagersOn_payAll h.nodup_wagers
  rw [hstamped, List.forall₂_map_right_iff, List.forall₂_same]
  intro w hw
  rw [Row.stamped]
  split
  next k hk =>
    -- a payout for the wager, which was therefore to be paid out
    obtain ⟨hlt, hwager, -⟩ := List.findIdx?_eq_some_iff_getElem.1 hk
    obtain ⟨w', hw', -, hunsettled, -⟩ := h.owes _ (List.getElem_mem hlt)
    have hid : (split.payouts[k]).wager = w.id := of_decide_eq_true hwager
    rw [hid, Table.find?_of_mem (List.mem_of_mem_filter hw), Option.some.injEq] at hw'
    exact .inr ⟨hw' ▸ hunsettled, _, rfl⟩
  next => exact .refl w

end Book

section

variable [Arithmetic R] {battle : Int} {found : Row Battle}

/-- **An event leaves an ended battle as it is**, except that it may settle its wagers. -/
theorem Event.frozen_apply {e : Event R} (h : e.Enabled book)
    (hfound : book.battles.find? battle = some found) (hended : found.data.status.isTerminal = true) :
    book.Frozen (e.apply book) battle where
  row := (battle_apply h hfound hended).trans hfound.symm
  participants := participantsOf_apply h hfound hended
  wagers := by
    by_cases hsettles : ∃ settled split now, e = .battleSettled settled split now ∧
        settled.id = battle
    · obtain ⟨settled, split, now, rfl, rfl⟩ := hsettles
      exact Book.Settles.settledSince h
    · rw [wagersOn_apply h hfound hended fun settled split now he hid =>
        hsettles ⟨settled, split, now, he, hid⟩]
      exact List.forall₂_same.2 fun w _ => .refl w

theorem Operation.frozen_run (ops : List (Operation R))
    (hfound : book.battles.find? battle = some found)
    (hended : found.data.status.isTerminal = true) :
    book.Frozen (Operation.run ops book) battle := by
  have hstep : ∀ mid e, book.Frozen mid battle → Event.Enabled mid e →
      book.Frozen (e.apply mid) battle :=
    fun _ _ hmid he => hmid.trans (Event.frozen_apply he (hmid.row.trans hfound) hended)
  exact Operation.run_of_events ops hstep (.refl book battle)

end

/-! ## Ends and entrants -/

namespace Book

/-- A battle has the time of its end exactly when it ended. -/
def Timed (book : Book R) : Prop :=
  ∀ b ∈ book.battles.rows, b.data.concludedAt = none ↔ b.data.status = .ongoing

def EntersOnce (book : Book R) : Prop :=
  ∀ p ∈ book.participants.rows, ∀ q ∈ book.participants.rows, p.data.battle = q.data.battle →
    p.data.player = q.data.player → p = q

theorem player_ne_of_participant?_eq_none {battle player : Int} {p : Row Participant}
    (h : book.participant? battle player = none) (hp : p ∈ book.participants.rows)
    (hbattle : p.data.battle = battle) : p.data.player ≠ player := by
  have hin : p ∈ book.participantsOf battle := List.mem_filter.2 ⟨hp, decide_eq_true hbattle⟩
  simpa using List.find?_eq_none.1 h p hin

end Book

section

variable [Arithmetic R]

theorem Event.timed_apply (e : Event R) (hbook : book.Timed) : (e.apply book).Timed := by
  intro b hb
  rw [battles_apply] at hb
  cases e with
  | battleCreated name closesAt now =>
    rw [Table.rows_append, List.mem_append, List.mem_singleton] at hb
    rcases hb with hb | rfl
    · exact hbook b hb
    · exact iff_of_true rfl rfl
  | battleEnded other cancelled now =>
    obtain ⟨b₀, hb₀, rfl⟩ := List.mem_map.1 hb
    split
    · refine iff_of_false (Option.some_ne_none now) ?_
      cases cancelled <;> exact nofun
    · exact hbook b₀ hb₀
  | _ => exact hbook b hb

theorem Event.entersOnce_apply {e : Event R} (h : e.Enabled book) (hbook : book.EntersOnce) :
    (e.apply book).EntersOnce := by
  intro p hp q hq hbattle hplayer
  rw [participants_apply] at hp hq
  cases e with
  | participantEntered other player team =>
    obtain ⟨-, -, hnew⟩ := h
    rw [Table.rows_append, List.mem_append, List.mem_singleton] at hp hq
    rcases hp with hp | rfl <;> rcases hq with hq | rfl
    · exact hbook p hp q hq hbattle hplayer
    · exact absurd hplayer (Book.player_ne_of_participant?_eq_none hnew hp hbattle)
    · exact absurd hplayer.symm (Book.player_ne_of_participant?_eq_none hnew hq hbattle.symm)
    · rfl
  | resultReported known finish =>
    obtain ⟨p₀, hp₀, rfl⟩ := List.mem_map.1 hp
    obtain ⟨q₀, hq₀, rfl⟩ := List.mem_map.1 hq
    -- a reported result leaves the battle and the player
    have hsame : p₀ = q₀ := by
      apply hbook p₀ hp₀ q₀ hq₀
      · split at hbattle <;> split at hbattle <;> exact hbattle
      · split at hplayer <;> split at hplayer <;> exact hplayer
    rw [hsame]
  | _ => exact hbook p hp q hq hbattle hplayer

theorem Reachable.timed (h : Reachable book) : book.Timed :=
  h.induct (fun _ hb => nomatch hb) fun _ e hbook _ => e.timed_apply hbook

theorem Reachable.entersOnce (h : Reachable book) : book.EntersOnce :=
  h.induct (fun _ hp => nomatch hp) fun _ _ hbook he => Event.entersOnce_apply he hbook

/-! ## Settling later -/

/-- A request to settle is answered with this resolution, or it is refused because a balance would
leave the range of what a row may hold. -/
def Book.ResolvesTo (book : Book R) (r : Resolution) : Prop :=
  ∀ now, (book.Bears r.payouts → ∃ settled,
      (Operation.settle r.battle now).perform book = .ok (.resolution r) settled) ∧
    (¬book.Bears r.payouts → ∃ n, Session.isStorable n = false ∧
      (Operation.settle r.battle now).perform book = .error (.outOfRange n) book)

section Unmarked

variable {found : Row Battle} {split : Pool.Split}
  (hfound : book.battles.find? found.id = some found)
  (hended : found.data.status.isTerminal = true) (hunmarked : book.settlement? found.id = none)
  (hsplit : Pool.split (book.victorOf found) ((book.wagersOn found.id).map (·.stake)) = .ok split)

include hfound hended hunmarked hsplit

theorem Reachable.resolvesTo (h : Reachable book) :
    book.ResolvesTo ⟨found.id, book.victorOf found, split.payouts, false⟩ := by
  refine fun now => ⟨fun hbears => ?_, fun hbears => ?_⟩
  · obtain ⟨hsettle, -⟩ := h.settle_of_bears hfound hended hunmarked hsplit now hbears
    exact ⟨_, Operation.settle_eq_ok.2 hsettle⟩
  · obtain ⟨n, mid, hn, hsettle⟩ :=
      h.settle_of_not_bears hfound hended hunmarked hsplit now hbears
    exact ⟨n, hn, Operation.settle_eq_error.2 ⟨⟨mid, hsettle⟩, rfl⟩⟩

theorem Reachable.resolvesTo_run (h : Reachable book) {ops : List (Operation R)}
    (hnever : Operation.NeverSettle found.id ops book) :
    (Operation.run ops book).ResolvesTo
      ⟨found.id, book.victorOf found, split.payouts, false⟩ := by
  have hfrozen := Operation.frozen_run ops hfound hended
  have hunmarked' := (Operation.settlement?_run hnever).trans hunmarked
  -- the same stakes are split for the same victor
  rw [← hfrozen.victorOf, ← hfrozen.stakes] at hsplit
  rw [← hfrozen.victorOf]
  exact (h.run ops).resolvesTo (hfrozen.row.trans hfound) hended hunmarked' hsplit

end Unmarked

/-- **A battle that ended is frozen**, and later operations make no difference to how it is settled,
unless a balance would leave the range of what a row may hold. -/
theorem ended_frozen (book : Book R) (h : Reachable book) :
    book.Timed ∧ book.EntersOnce ∧
    ∀ found ∈ book.battles.rows, found.data.status.isTerminal = true → ∀ ops : List (Operation R),
      book.Frozen (Operation.run ops book) found.id ∧
      (book.settlement? found.id = none → Operation.NeverSettle found.id ops book → ∃ split,
        Pool.split (book.victorOf found) ((book.wagersOn found.id).map (·.stake)) = .ok split ∧
        book.ResolvesTo ⟨found.id, book.victorOf found, split.payouts, false⟩ ∧
        (Operation.run ops book).ResolvesTo
          ⟨found.id, book.victorOf found, split.payouts, false⟩) := by
  refine ⟨h.timed, h.entersOnce, fun found hmem hended ops => ?_⟩
  have hfound := Table.find?_of_mem hmem
  refine ⟨Operation.frozen_run ops hfound hended, fun hunmarked hnever => ?_⟩
  obtain ⟨split, hsplit⟩ := h.exists_split found
  exact ⟨split, hsplit, h.resolvesTo hfound hended hunmarked hsplit,
    h.resolvesTo_run hfound hended hunmarked hsplit hnever⟩

/-- After the derby one user is granted more, and another one tries to raise the stake. -/
def aftermath : List (Operation Float) :=
  [.command (.grant 1 500 (.ofTicks 8)),
    .command (.placeWager 2 1 0 20 3.0 (.ofTicks 8)),
    .command (.createBattle "loop" (.ofTicks 20) (.ofTicks 9))]

/-- The derby is settled the same way right away and after more has happened. -/
theorem ended_frozen_aftermath :
    Reachable derbyBook ∧ Operation.NeverSettle 1 aftermath derbyBook ∧
    derbyBook.Frozen (Operation.run aftermath derbyBook) 1 ∧
    (∃ settled, (Operation.settle 1 (.ofTicks 7)).perform derbyBook =
      .ok (.resolution ⟨1, some .red, derbySplit.payouts, false⟩) settled) ∧
    ∃ settled, (Operation.settle 1 (.ofTicks 11)).perform (Operation.run aftermath derbyBook) =
      .ok (.resolution ⟨1, some .red, derbySplit.payouts, false⟩) settled := by
  have hreachable : Reachable derbyBook := Reachable.empty.run derby
  have hnever : Operation.NeverSettle 1 aftermath derbyBook := by
    simp [aftermath, Operation.NeverSettle, Operation.Settles]
  have hlater : (Operation.run aftermath derbyBook).Bears derbySplit.payouts := by decide +kernel
  obtain ⟨hfound, hunmarked, hvictor, hsplit, hbears⟩ := derbyBook_unsettled
  obtain ⟨hfrozen, hsettle⟩ := (ended_frozen derbyBook hreachable).2.2 endedDerby
    (Table.mem_of_find? hfound) rfl aftermath
  obtain ⟨split, hsplit', hnow, hthen⟩ := hsettle hunmarked hnever
  rw [hvictor] at hsplit' hnow hthen
  cases hsplit.symm.trans hsplit'
  exact ⟨hreachable, hnever, hfrozen, (hnow _).1 hbears, (hthen _).1 hlater⟩

/-- The winner of the derby is granted all that a balance may still take. -/
def windfall : List (Operation Float) :=
  [.command (.grant 1 9223372036854775737 (.ofTicks 8))]

/-- Right away the derby can be settled, but not any more after the windfall: the payout would take
the winner's balance out of the range of what a row may hold. -/
theorem windfall_refused :
    Reachable derbyBook ∧ derbyBook.battles.find? 1 = some endedDerby ∧
    derbyBook.settlement? 1 = none ∧ Operation.NeverSettle 1 windfall derbyBook ∧
    (∃ settled, (Operation.settle 1 (.ofTicks 9)).perform derbyBook =
      .ok (.resolution ⟨1, some .red, derbySplit.payouts, false⟩) settled) ∧
    ∃ n, (Operation.settle 1 (.ofTicks 9)).perform (Operation.run windfall derbyBook) =
      .error (.outOfRange n) (Operation.run windfall derbyBook) := by
  have hreachable : Reachable derbyBook := Reachable.empty.run derby
  have hnever : Operation.NeverSettle 1 windfall derbyBook := by
    simp [windfall, Operation.NeverSettle, Operation.Settles]
  have hlater : ¬(Operation.run windfall derbyBook).Bears derbySplit.payouts := by decide +kernel
  obtain ⟨hfound, hunmarked, hvictor, hsplit, hbears⟩ := derbyBook_unsettled
  have hknown : derbyBook.battles.find? endedDerby.id = some endedDerby := hfound
  rw [← hvictor] at hsplit ⊢
  have hnow := hreachable.resolvesTo hknown rfl hunmarked hsplit
  have hthen := hreachable.resolvesTo_run hknown rfl hunmarked hsplit hnever
  obtain ⟨n, -, hrefused⟩ := (hthen (.ofTicks 9)).2 hlater
  exact ⟨hreachable, hfound, hunmarked, hnever, (hnow (.ofTicks 9)).1 hbears, n, hrefused⟩

end

end RaceBook
