import RaceBook.Arithmetic.Double
import RaceBook.Proofs.Operations
import RaceBook.Proofs.Race.Ended

/-!
# A battle is settled once

* `Event.wagersOn_apply`, `Event.settlement?_apply` : an event leaves the wagers on an ended battle
  and the marks of other battles as they are;
* `Book.Keeps` : the book keeps a recorded resolution; `Event.keeps_apply` : so it does after any
  event;
* `Book.SettlesInOrder` : no wager is settled before its battle is marked, and every recorded
  resolution is kept; `Reachable.settlesInOrder`;
* `settle_once` : the first settlement of a battle pays the split of its pool, and whatever happens
  later every further one repeats it and writes nothing.
-/

namespace RaceBook

variable {R : Type} {book later : Book R}

/-! ## What events leave alone -/

namespace Event

variable [Arithmetic R] {e : Event R} {battle : Int}

/-- Nothing but its settlement changes the wagers on an ended battle. -/
theorem wagersOn_apply (h : e.Enabled book) {found : Row Battle}
    (hfound : book.battles.find? battle = some found) (hended : found.data.status.isTerminal = true)
    (hother : ∀ settled split now, e = .battleSettled settled split now → settled.id ≠ battle) :
    (e.apply book).wagersOn battle = book.wagersOn battle := by
  cases e with
  | wagerPlaced w =>
    have hne := h.1.ongoing.ne_of_ended hfound hended
    change (book.wagers.append w).rows.filter _ = _
    rw [Table.rows_append, List.filter_append, List.filter_singleton]
    simp [hne, Book.wagersOn]
  | wagerReplaced known team stake now =>
    have hne := h.1.ongoing.ne_of_ended hfound hended
    obtain ⟨-, -, hknown, -⟩ := h
    have hrow := Table.find?_of_mem (List.mem_of_mem_filter (Book.of_wager?_eq_some hknown).1)
    apply Table.filter_modify
    intro w hw
    rw [hrow, Option.some.injEq] at hw
    subst hw
    exact ⟨decide_eq_false hne, decide_eq_false hne⟩
  | battleSettled settled split now =>
    exact Book.wagersOn_settled_of_ne h (hother settled split now rfl).symm
  | periodOpened | periodMarked | periodClosed | snapshotTaken | cacheRefreshed =>
    rw [Book.wagersOn, (sameRaces_apply (by trivial) book).wagers]
    rfl
  | _ => rfl

theorem settlement?_apply
    (hother : ∀ settled split now, e = .battleSettled settled split now → settled.id ≠ battle) :
    (e.apply book).settlement? battle = book.settlement? battle := by
  cases e with
  | battleSettled settled split now =>
    exact Book.settlement?_settled_of_ne (hother settled split now rfl)
  | _ => rw [Book.settlement?, settlements_apply]; rfl

end Event

/-! ## Recorded resolutions -/

namespace Book

/-- The book keeps a recorded resolution: its battle has ended, it is what is recorded of that
battle, and every wager on the battle is settled by an entry of the ledger. -/
structure Keeps (book : Book R) (r : Resolution) : Prop where
  ended : ∃ found, book.battles.find? r.battle = some found ∧ found.data.status.isTerminal = true
  recorded : book.resolution? r.battle = some r
  paid : ∀ w ∈ book.wagersOn r.battle, ∃ p, book.recordedPayout? w = some p

theorem battle_of_resolution?_eq_some {battle : Int} {r : Resolution}
    (h : book.resolution? battle = some r) :
    r.battle = battle ∧ r.alreadySettled = true ∧ ∃ mark, book.settlement? battle = some mark := by
  obtain ⟨mark, hmark, rfl⟩ := Option.map_eq_some_iff.1 h
  exact ⟨battle_of_settlement? hmark, rfl, mark, hmark⟩

theorem Keeps.of_same {r : Resolution} (h : book.Keeps r)
    (hended : ∃ found, later.battles.find? r.battle = some found ∧
      found.data.status.isTerminal = true)
    (hmark : later.settlement? r.battle = book.settlement? r.battle)
    (hwagers : later.wagersOn r.battle = book.wagersOn r.battle)
    (hledger : ∀ id entry, book.ledger.find? id = some entry → later.ledger.find? id = some entry) :
    later.Keeps r := by
  have hsame : ∀ w ∈ book.wagersOn r.battle, later.recordedPayout? w = book.recordedPayout? w := by
    intro w hw
    obtain ⟨p, hp⟩ := h.paid w hw
    rw [hp, recordedPayout?_of_ledger hledger hp]
  refine ⟨hended, ?_, ?_⟩
  · have hrecorded := h.recorded
    obtain ⟨mark, hfound, hr⟩ := Option.map_eq_some_iff.1 hrecorded
    have hbattle : mark.battle = r.battle := congrArg (·.battle) hr
    rw [resolution?, hmark, hfound, Option.map_some, ← hr]
    unfold Book.recorded
    rw [hbattle, hwagers, List.filterMap_congr hsame]
  · intro w hw
    rw [hwagers] at hw
    obtain ⟨p, hp⟩ := h.paid w hw
    exact ⟨p, (hsame w hw).trans hp⟩

/-- A settlement that is recorded is repeated, and nothing is written. -/
theorem Keeps.settle_eq_ok {r : Resolution} (h : book.Keeps r) (now : Moment) :
    Session.settle r.battle now book = .ok r book := by
  obtain ⟨found, hfound, hended⟩ := h.ended
  exact Session.settle_eq_ok.2 (.inr ⟨found, hfound, hended, h.recorded, rfl⟩)

theorem keeps_settled {found : Row Battle} {split : Pool.Split} {now : Moment}
    (h : book.Settles found split now)
    (hall : book.unsettledOn found.id = book.wagersOn found.id) :
    (book.settled found split now).Keeps ⟨found.id, book.victorOf found, split.payouts, true⟩ := by
  refine ⟨⟨found, ?_, h.ended⟩, resolution?_settled h hall, fun w hw => ?_⟩
  · rw [settled]
    exact (congrArg (Table.find? · found.id)
      (onlyPays_payAll book split.payouts).battles).trans h.known
  · obtain ⟨p, -, -, hp⟩ := recorded_wagers_settled h hall w hw
    exact ⟨p, hp⟩

end Book

/-- **What is recorded of a settlement stays recorded**, whatever happens. -/
theorem Event.keeps_apply [Arithmetic R] {e : Event R} {r : Resolution} (h : e.Enabled book)
    (hkeeps : book.Keeps r) : (e.apply book).Keeps r := by
  obtain ⟨found, hfound, hended⟩ := hkeeps.ended
  have hother : ∀ settled split now, e = .battleSettled settled split now →
      settled.id ≠ r.battle := by
    rintro settled split now rfl hid
    obtain ⟨-, -, mark, hmark⟩ := Book.battle_of_resolution?_eq_some hkeeps.recorded
    have hunmarked := h.unmarked
    rw [hid, hmark] at hunmarked
    cases hunmarked
  exact hkeeps.of_same ⟨found, battle_apply h hfound hended, hended⟩ (settlement?_apply hother)
    (wagersOn_apply h hfound hended hother) fun _ _ => e.entry_apply

/-! ## Reachable books -/

/-- No wager is settled before its battle is marked, and every recorded resolution is kept. -/
structure Book.SettlesInOrder (book : Book R) : Prop where
  unsettled : ∀ battle, book.settlement? battle = none →
    ∀ w ∈ book.wagersOn battle, w.data.settledBy = none
  kept : ∀ battle r, book.resolution? battle = some r → book.Keeps r

theorem Book.SettlesInOrder.unsettledOn_eq {battle : Int} (h : book.SettlesInOrder)
    (hmark : book.settlement? battle = none) : book.unsettledOn battle = book.wagersOn battle := by
  apply List.filter_eq_self.2
  intro w hw
  rw [h.unsettled battle hmark w hw, Option.isNone_none]

/-- A settlement that ended well is kept from then on. -/
theorem keeps_of_settle (hbook : book.SettlesInOrder) {battle : Int} {now : Moment} {r : Resolution}
    (h : Session.settle battle now book = .ok r later) :
    r.battle = battle ∧ later.Keeps { r with alreadySettled := true } := by
  rcases Session.settle_eq_ok.1 h with ⟨found, rfl, split, hsettles, rfl, rfl⟩ |
    ⟨found, hfound, hended, hr, rfl⟩
  · exact ⟨rfl, Book.keeps_settled hsettles (hbook.unsettledOn_eq hsettles.unmarked)⟩
  · obtain ⟨hbattle, halready, -⟩ := Book.battle_of_resolution?_eq_some hr
    have hsame : { r with alreadySettled := true } = r := by rw [← halready]
    exact ⟨hbattle, hsame ▸ hbook.kept battle r hr⟩

section

variable [Arithmetic R]

theorem Event.unsettled_apply {e : Event R} {battle : Int} (h : e.Enabled book)
    (hbook : ∀ w ∈ book.wagersOn battle, w.data.settledBy = none)
    (hother : ∀ settled split now, e = .battleSettled settled split now → settled.id ≠ battle) :
    ∀ w ∈ (e.apply book).wagersOn battle, w.data.settledBy = none := by
  intro w hw
  cases e with
  | wagerPlaced placed =>
    obtain ⟨hw, hbattle⟩ := List.mem_filter.1 hw
    change w ∈ (book.wagers.append placed).rows at hw
    rw [Table.rows_append, List.mem_append, List.mem_singleton] at hw
    rcases hw with hw | rfl
    · exact hbook w (List.mem_filter.2 ⟨hw, hbattle⟩)
    · exact h.2.2.1
  | wagerReplaced known team stake now =>
    obtain ⟨hw, hbattle⟩ := List.mem_filter.1 hw
    change w ∈ (book.wagers.modify known.id (·.replaced team stake now)).rows at hw
    rw [Table.rows_modify] at hw
    obtain ⟨v, hv, rfl⟩ := List.mem_map.1 hw
    by_cases hid : v.id = known.id
    · rw [if_pos hid] at hbattle ⊢
      exact hbook v (List.mem_filter.2 ⟨hv, hbattle⟩)
    · rw [if_neg hid] at hbattle ⊢
      exact hbook v (List.mem_filter.2 ⟨hv, hbattle⟩)
  | battleSettled settled split now =>
    rw [show (Event.battleSettled settled split now).apply book = book.settled settled split now
      from rfl, Book.wagersOn_settled_of_ne h (hother settled split now rfl).symm] at hw
    exact hbook w hw
  | periodOpened | periodMarked | periodClosed | snapshotTaken | cacheRefreshed =>
    rw [Book.wagersOn, (Event.sameRaces_apply (by trivial) book).wagers] at hw
    exact hbook w hw
  | _ => exact hbook w hw

theorem Event.settlesInOrder_apply {e : Event R} (h : e.Enabled book) (hbook : book.SettlesInOrder) :
    (e.apply book).SettlesInOrder := by
  -- either the event settles the battle, or it leaves the mark
  have hcases : ∀ battle, (∃ settled split now, e = .battleSettled settled split now ∧
      settled.id = battle) ∨
        ∀ settled split now, e = .battleSettled settled split now → settled.id ≠ battle := by
    intro battle
    by_cases hsettles : ∃ settled split now, e = .battleSettled settled split now ∧
        settled.id = battle
    · exact .inl hsettles
    · exact .inr fun settled split now he hid => hsettles ⟨settled, split, now, he, hid⟩
  constructor
  · intro battle hmark
    rcases hcases battle with ⟨settled, split, now, rfl, rfl⟩ | hother
    · exact nomatch (Book.settlement?_settled_self h).symm.trans hmark
    · rw [settlement?_apply hother] at hmark
      exact unsettled_apply h (hbook.unsettled battle hmark) hother
  · intro battle r hr
    rcases hcases battle with ⟨settled, split, now, rfl, rfl⟩ | hother
    · have hkeeps := Book.keeps_settled h (hbook.unsettledOn_eq h.unmarked)
      have hsame := hkeeps.recorded.symm.trans hr
      rw [Option.some.injEq] at hsame
      exact hsame ▸ hkeeps
    · obtain ⟨rfl, -, mark, hmark⟩ := Book.battle_of_resolution?_eq_some hr
      rw [settlement?_apply hother] at hmark
      have hrecorded : book.resolution? r.battle = some (book.recorded mark) := by
        rw [Book.resolution?, hmark, Option.map_some]
      have hkeeps := keeps_apply h (hbook.kept _ _ hrecorded)
      have hsame := hkeeps.recorded
      rw [show (book.recorded mark).battle = r.battle from Book.battle_of_settlement? hmark, hr,
        Option.some.injEq] at hsame
      exact hsame ▸ hkeeps

theorem Reachable.settlesInOrder (h : Reachable book) : book.SettlesInOrder := by
  refine h.induct ⟨?_, ?_⟩ fun book e hbook he => Event.settlesInOrder_apply he hbook
  · exact fun _ _ w hw => nomatch hw
  · exact fun _ _ hr => nomatch hr

/-! ## Settling again -/

theorem Book.Keeps.run {r : Resolution} (h : book.Keeps r) (ops : List (Operation R)) :
    (Operation.run ops book).Keeps r :=
  Operation.run_of_events ops (fun _ _ hmid he => Event.keeps_apply he hmid) h

def Operation.Settles (op : Operation R) (battle : Int) (book : Book R) : Prop :=
  ∃ now r later, op = .settle battle now ∧ op.perform book = .ok (.resolution r) later

def Operation.NeverSettle (battle : Int) : List (Operation R) → Book R → Prop
  | [], _ => True
  | op :: rest, book => ¬op.Settles battle book ∧ NeverSettle battle rest (op.after book)

theorem Operation.settle_eq_ok {battle : Int} {now : Moment} {r : Resolution} :
    (Operation.settle battle now).perform book = .ok (.resolution r) later ↔
      Session.settle battle now book = .ok r later := by
  simp only [Operation.perform, Session.map_eq_ok, Session.atomically_eq_ok,
    Reply.resolution.injEq, exists_eq_right]

theorem Operation.settlement?_after {op : Operation R} {battle : Int}
    (h : ¬op.Settles battle book) :
    (op.after book).settlement? battle = book.settlement? battle := by
  by_cases hop : ∃ now, op = .settle battle now
  · -- this settlement is refused and leaves no trace
    obtain ⟨now, rfl⟩ := hop
    cases hrun : Session.settle battle now book with
    | ok r later => exact absurd ⟨now, r, later, rfl, Operation.settle_eq_ok.2 hrun⟩ h
    | error fault mid =>
      have hafter : (Operation.settle battle now).after book = book := by
        simp only [Operation.after, Session.after, Operation.perform, Functor.map, EStateM.map,
          Session.atomically, hrun]
      rw [hafter]
  · refine (op.steps_after book).invariant
      (P := fun b => b.settlement? battle = book.settlement? battle) ?_ rfl
    intro mid e hexplained hmid _
    refine (Event.settlement?_apply ?_).trans hmid
    rintro settled split now rfl rfl
    exact hop ⟨now, Operation.eq_settle_of_explains hexplained⟩

theorem Operation.settlement?_run {ops : List (Operation R)} {battle : Int}
    (h : Operation.NeverSettle battle ops book) :
    (Operation.run ops book).settlement? battle = book.settlement? battle := by
  induction ops generalizing book with
  | nil => rfl
  | cons op rest ih => exact (ih h.2).trans (Operation.settlement?_after h.1)

/-- **A battle is settled once.** The first operation that settles it pays the split of its pool;
whatever happens afterwards, every later one gives the same answer again and writes nothing. -/
theorem settle_once (before after : List (Operation R)) (battle : Int) (now now' : Moment)
    (r : Resolution) (later : Book R) (hfirst : Operation.NeverSettle battle before .empty)
    (hsettle : (Operation.settle battle now).perform (Operation.run before .empty) =
      .ok (.resolution r) later) :
    (∃ found split, (Operation.run before .empty).battles.find? battle = some found ∧
      found.data.status.isTerminal = true ∧
      Pool.split ((Operation.run before .empty).victorOf found)
        (((Operation.run before .empty).wagersOn battle).map (·.stake)) = .ok split ∧
      r = ⟨battle, (Operation.run before .empty).victorOf found, split.payouts, false⟩) ∧
    (Operation.settle battle now').perform (Operation.run after later) =
      .ok (.resolution { r with alreadySettled := true }) (Operation.run after later) := by
  have hbook : (Operation.run before .empty).SettlesInOrder :=
    (Reachable.empty.run before).settlesInOrder
  have hunmarked : (Operation.run before .empty).settlement? battle = none :=
    Operation.settlement?_run hfirst
  rw [Operation.settle_eq_ok] at hsettle
  constructor
  · rcases Session.settle_eq_ok.1 hsettle with ⟨found, rfl, split, hsettles, rfl, -⟩ |
      ⟨_, _, _, hr, _⟩
    · refine ⟨found, split, hsettles.known, hsettles.ended, ?_, rfl⟩
      rw [← hbook.unsettledOn_eq hunmarked]
      exact hsettles.divided
    · rw [Book.resolution?_eq_none.2 hunmarked] at hr
      cases hr
  · obtain ⟨rfl, hkeeps⟩ := keeps_of_settle hbook hsettle
    exact Operation.settle_eq_ok.2 ((hkeeps.run after).settle_eq_ok now')

/-- A race on which two users wager against each other. -/
def derby : List (Operation Float) :=
  let key (c : Char) := String.ofList (List.replicate 64 c)
  [.command (.register (key 'a') "Ann" ⟨1500.0, 350.0, 0.06⟩),
    .command (.register (key 'b') "Bob" ⟨1500.0, 350.0, 0.06⟩),
    .command (.createUser "carl" 100 (.ofTicks 1)),
    .command (.createUser "dora" 100 (.ofTicks 1)),
    .command (.createBattle "loop" (.ofTicks 5) (.ofTicks 2)),
    .command (.addParticipant 1 1 0),
    .command (.addParticipant 1 2 1),
    .command (.placeWager 1 1 0 30 3.0 (.ofTicks 3)),
    .command (.placeWager 2 1 1 50 3.0 (.ofTicks 3)),
    .command (.reportResult 1 1 ⟨some 700, false⟩),
    .command (.reportResult 1 2 ⟨some 800, false⟩),
    .command (.concludeBattle 1 (.ofTicks 6) false)]

/-- The winner of the derby is paid eighty, once. -/
theorem settle_once_derby :
    ∃ r later, (Operation.settle 1 (.ofTicks 7)).perform (Operation.run derby .empty) =
        .ok (.resolution r) later ∧ r.payouts.map (·.paid) = [80, 0] ∧
      (Operation.settle 1 (.ofTicks 9)).perform (Operation.run derby later) =
        .ok (.resolution { r with alreadySettled := true }) (Operation.run derby later) := by
  have hpaid : (Session.settle 1 (.ofTicks 7)).yields (·.payouts.map (·.paid) = [80, 0])
      (Operation.run derby .empty) = true := by decide +kernel
  obtain ⟨r, later, hsettle, htest⟩ := Session.exists_of_yields hpaid
  have hperform := Operation.settle_eq_ok.2 hsettle
  have hfirst : Operation.NeverSettle 1 derby .empty := by
    simp [derby, Operation.NeverSettle, Operation.Settles]
  exact ⟨r, later, hperform, of_decide_eq_true htest,
    (settle_once derby derby 1 _ _ r later hfirst hperform).2⟩

end

end RaceBook
