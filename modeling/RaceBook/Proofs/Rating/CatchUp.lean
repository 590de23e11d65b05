import RaceBook.Proofs.Rating.Succession

/-!
# Catching up with the clock

* `Book.Due`, `Book.UpToDate` : the full length of the latest period is over, or it is not;
* `Book.ClosesInTurn` : closes one after the other, each of a period that was due by a time;
* `elapsedLengths` : how often the length of a period is over since a start;
* `Book.ClosesInTurn.length_le_elapsed`, `Book.ClosesInTurn.length_lt_elapsed` : when periods have a
  length, it is over for every close; and so the rounds are enough for all of them;
* `Session.closeElapsed_eq_ok` : a request to catch up closes what is due until nothing is.
-/

namespace RaceBook

theorem Moment.ticks_of_add? {m stop : Moment} {duration : Int}
    (h : m.add? duration = some stop) : (stop.ticks : Int) = m.ticks + duration := by
  unfold add? ofTicks? at h
  split at h
  next hin =>
    cases h
    exact Int.toNat_of_nonneg hin.1
  next => cases h

/-- How often a length of time is over since a start, and never before it. -/
def elapsedLengths (start now : Moment) (length : Int) : Nat := (now.since start / length).toNat

theorem elapsedLengths_le_roundsUntil {start now : Moment} {length : Int} (hpos : 1 ≤ length) :
    elapsedLengths start now length ≤ Session.roundsUntil start now length := by
  rw [elapsedLengths, Session.roundsUntil, if_neg (by omega)]
  omega

theorem le_elapsedLengths {start now : Moment} {length : Int} {n : Nat} (hpos : 1 ≤ length)
    (h : (start.ticks : Int) + n * length ≤ now.ticks) : n ≤ elapsedLengths start now length := by
  have hn : (n : Int) ≤ now.since start / length := by
    refine Int.le_ediv_of_mul_le (by omega) ?_
    rw [Moment.since]
    omega
  rw [elapsedLengths]
  omega

variable {R : Type} [Arithmetic R] {book later : Book R} {config : Config R} {length : Int}
  {now : Moment} {ss : List ClosingSummary}

namespace Book

/-- The full length of the latest period is over, which is not closed. -/
structure Due (book : Book R) (length : Int) (now : Moment) (found : Row Period) (stop : Moment) :
    Prop where
  latest : book.latestPeriod? = some found
  notClosed : found.data.status ≠ .closed
  ends : found.data.startedAt.add? length = some stop
  elapsed : stop ≤ now

def UpToDate (book : Book R) (length : Int) (now : Moment) : Prop :=
  ∀ last, book.latestPeriod? = some last → last.data.status = .closed ∨
    ∃ stop, last.data.startedAt.add? length = some stop ∧ now < stop

/-- Periods are closed one after the other, each when its full length is over. -/
inductive ClosesInTurn (config : Config R) (length : Int) (now : Moment) :
    Book R → List ClosingSummary → Book R → Prop
  | done (book : Book R) : ClosesInTurn config length now book [] book
  | close {book later : Book R} {found : Row Period} {stop : Moment} {rest : List ClosingSummary} :
      book.Due length now found stop → book.Closes config found stop →
      ClosesInTurn config length now (book.closed config found stop) rest later →
      ClosesInTurn config length now book (book.summary config found stop :: rest) later

/-- After a close the latest period is the one that it opened. -/
theorem Closes.latestPeriod?_closed {found : Row Period} {stop : Moment}
    (h : book.Closes config found stop) (hchain : book.Chained) :
    (book.closed config found stop).latestPeriod? =
      some ⟨book.periods.nextId, ⟨.opened, stop, none⟩⟩ := by
  have hlater : (book.closed config found stop).Chained :=
    Event.chained_apply (e := .periodClosed config found stop) h hchain
  rw [hlater.latestPeriod?_eq, closed, Table.rows_append, List.getLast?_concat,
    Table.nextId_modify]

theorem Closes.chained_closed {found : Row Period} {stop : Moment}
    (h : book.Closes config found stop) (hchain : book.Chained) :
    (book.closed config found stop).Chained ∧ ∃ next,
      (book.closed config found stop).latestPeriod? = some next ∧ next.data.startedAt = stop :=
  ⟨Event.chained_apply (e := .periodClosed config found stop) h hchain, _,
    h.latestPeriod?_closed hchain, rfl⟩

namespace ClosesInTurn

theorem mono {time : Moment} (h : ClosesInTurn config length now book ss later) (hle : now ≤ time) :
    ClosesInTurn config length time book ss later := by
  induction h with
  | done book => exact .done book
  | close hdue hcloses _ ih =>
    exact .close ⟨hdue.latest, hdue.notClosed, hdue.ends, Nat.le_trans hdue.elapsed hle⟩ hcloses ih

theorem append {mid : Book R} {ss' : List ClosingSummary}
    (h : ClosesInTurn config length now book ss mid)
    (h' : ClosesInTurn config length now mid ss' later) :
    ClosesInTurn config length now book (ss ++ ss') later := by
  induction h with
  | done book => exact h'
  | close hdue hcloses _ ih => exact .close hdue hcloses (ih h')

/-- Each close moves the start of the latest period on by one length, and none beyond now. -/
theorem eq_nil_or_le (h : ClosesInTurn config length now book ss later) (hchain : book.Chained)
    {last : Row Period} (hlast : book.latestPeriod? = some last) :
    ss = [] ∨ (last.data.startedAt.ticks : Int) + ss.length * length ≤ now.ticks := by
  induction h generalizing last with
  | done book => exact .inl rfl
  | @close book later found stop rest hdue hcloses _ ih =>
    right
    obtain rfl : found = last := Option.some.inj (hdue.latest.symm.trans hlast)
    obtain ⟨hlater, next, hnext, hstart⟩ := hcloses.chained_closed hchain
    have hstop := Moment.ticks_of_add? hdue.ends
    have hover : stop.ticks ≤ now.ticks := hdue.elapsed
    rw [List.length_cons, Int.natCast_add, Int.add_mul, Int.natCast_one, Int.one_mul]
    rcases ih hlater hnext with hnil | hle
    · rw [hnil, List.length_nil, Int.natCast_zero, Int.zero_mul]
      omega
    · rw [hstart] at hle
      omega

theorem due_le (h : ClosesInTurn config length now book ss later) (hchain : book.Chained)
    {last found : Row Period} {stop : Moment} (hlast : book.latestPeriod? = some last)
    (hdue : later.Due length now found stop) :
    (last.data.startedAt.ticks : Int) + ss.length * length + length ≤ now.ticks := by
  induction h generalizing last with
  | done book =>
    obtain rfl : found = last := Option.some.inj (hdue.latest.symm.trans hlast)
    have hstop := Moment.ticks_of_add? hdue.ends
    have hover : stop.ticks ≤ now.ticks := hdue.elapsed
    rw [List.length_nil, Int.natCast_zero, Int.zero_mul]
    omega
  | @close book later closed ended rest hended hcloses _ ih =>
    obtain rfl : closed = last := Option.some.inj (hended.latest.symm.trans hlast)
    obtain ⟨hlater, next, hnext, hstart⟩ := hcloses.chained_closed hchain
    have hstop := Moment.ticks_of_add? hended.ends
    have hle := ih hlater hnext hdue
    rw [hstart] at hle
    rw [List.length_cons, Int.natCast_add, Int.add_mul, Int.natCast_one, Int.one_mul]
    omega

theorem length_le_elapsed (h : ClosesInTurn config length now book ss later) (hchain : book.Chained)
    (hpos : 1 ≤ length) {last : Row Period} (hlast : book.latestPeriod? = some last) :
    ss.length ≤ elapsedLengths last.data.startedAt now length := by
  rcases h.eq_nil_or_le hchain hlast with hnil | hle
  · rw [hnil]
    exact Nat.zero_le _
  · exact le_elapsedLengths hpos hle

/-- The length is over once more than there were closes, when another period is due. -/
theorem length_lt_elapsed (h : ClosesInTurn config length now book ss later) (hchain : book.Chained)
    (hpos : 1 ≤ length) {last found : Row Period} {stop : Moment}
    (hlast : book.latestPeriod? = some last) (hdue : later.Due length now found stop) :
    ss.length < elapsedLengths last.data.startedAt now length := by
  refine le_elapsedLengths hpos (Int.le_trans (Int.le_of_eq ?_) (h.due_le hchain hlast hdue))
  rw [Int.natCast_succ, Int.add_mul, Int.one_mul, Int.add_assoc]

theorem length_le (h : ClosesInTurn config length now book ss later) (hchain : book.Chained)
    (hpos : 1 ≤ length) {last : Row Period} (hlast : book.latestPeriod? = some last) :
    ss.length ≤ Session.roundsUntil last.data.startedAt now length :=
  Nat.le_trans (h.length_le_elapsed hchain hpos hlast) (elapsedLengths_le_roundsUntil hpos)

theorem length_lt (h : ClosesInTurn config length now book ss later) (hchain : book.Chained)
    (hpos : 1 ≤ length) {last found : Row Period} {stop : Moment}
    (hlast : book.latestPeriod? = some last) (hdue : later.Due length now found stop) :
    ss.length < Session.roundsUntil last.data.startedAt now length :=
  Nat.lt_of_lt_of_le (h.length_lt_elapsed hchain hpos hlast hdue)
    (elapsedLengths_le_roundsUntil hpos)

end ClosesInTurn

end Book

namespace Session

omit [Arithmetic R] in
theorem dueEnd?_eq_ok {due? : Option (Int × Moment)} :
    dueEnd? length now book = .ok due? later ↔
      ((due? = none ∧ book.UpToDate length now) ∨
        ∃ found stop, book.Due length now found stop ∧ due? = some (found.id, stop)) ∧
      later = book := by
  simp only [dueEnd?, bind_eq_ok, read_eq_ok, and_assoc, exists_and_left, exists_eq_left']
  have hlast : ∀ {last : Option (Row Period)}, book.latestPeriod? = last →
      ∀ {found}, book.latestPeriod? = some found → last = some found :=
    fun h _ hfound => h.symm.trans hfound
  cases hlatest : book.latestPeriod? with
  | none =>
    simp only [pure_eq_ok]
    constructor
    · rintro ⟨rfl, rfl⟩
      refine ⟨.inl ⟨rfl, fun last h => ?_⟩, rfl⟩
      cases hlast hlatest h
    · rintro ⟨⟨rfl, -⟩ | ⟨found, stop, hdue, -⟩, rfl⟩
      · exact ⟨rfl, rfl⟩
      · cases hlast hlatest hdue.latest
  | some last =>
    by_cases hclosed : last.data.status = .closed
    · simp only [if_pos hclosed, pure_eq_ok]
      constructor
      · rintro ⟨rfl, rfl⟩
        refine ⟨.inl ⟨rfl, fun found h => .inl ?_⟩, rfl⟩
        cases hlast hlatest h
        exact hclosed
      · rintro ⟨⟨rfl, -⟩ | ⟨found, stop, hdue, -⟩, rfl⟩
        · exact ⟨rfl, rfl⟩
        · cases hlast hlatest hdue.latest
          exact absurd hclosed hdue.notClosed
    · simp only [if_neg hclosed, bind_eq_ok, demand_eq_ok, pure_eq_ok, and_assoc, exists_and_left,
        exists_eq_left']
      constructor
      · rintro ⟨stop, hstop, rfl, rfl⟩
        by_cases hnow : now < stop
        · refine ⟨.inl ⟨if_pos hnow, fun found h => .inr ?_⟩, rfl⟩
          cases hlast hlatest h
          exact ⟨stop, hstop, hnow⟩
        · exact ⟨.inr ⟨last, stop, ⟨hlatest, hclosed, hstop, Nat.not_lt.1 hnow⟩, if_neg hnow⟩, rfl⟩
      · rintro ⟨⟨rfl, hupto⟩ | ⟨found, stop, hdue, rfl⟩, rfl⟩
        · rcases hupto last hlatest with h | ⟨stop, hstop, hnow⟩
          · exact absurd h hclosed
          · exact ⟨stop, hstop, if_pos hnow, rfl⟩
        · cases hlast hlatest hdue.latest
          exact ⟨stop, hdue.ends, if_neg (Nat.not_lt.2 hdue.elapsed), rfl⟩

theorem closeDue_eq_ok {summary? : Option ClosingSummary} :
    closeDue config length now book = .ok summary? later ↔
      (summary? = none ∧ book.UpToDate length now ∧ later = book) ∨
      ∃ found stop, book.Due length now found stop ∧ book.Closes config found stop ∧
        summary? = some (book.summary config found stop) ∧
        later = book.closed config found stop := by
  simp only [closeDue, bind_eq_ok, dueEnd?_eq_ok]
  constructor
  · rintro ⟨_, _, ⟨⟨rfl, hupto⟩ | ⟨found, stop, hdue, rfl⟩, rfl⟩, hrun⟩
    · obtain ⟨rfl, rfl⟩ := pure_eq_ok.1 hrun
      exact .inl ⟨rfl, hupto, rfl⟩
    · have hfound := Book.find?_of_latestPeriod? hdue.latest
      rcases closePeriod_eq_ok.1 hrun with ⟨hnone, -⟩ | ⟨picked, ⟨hid, hpicked⟩ | ⟨hnone, -⟩, hdone⟩
      · cases hnone
      · rw [← Option.some.inj hid, hfound, Option.some.injEq] at hpicked
        subst hpicked
        rcases hdone with ⟨hcloses, rfl, rfl⟩ | ⟨hclosed, -⟩
        · exact .inr ⟨found, stop, hdue, hcloses, rfl, rfl⟩
        · exact absurd hclosed hdue.notClosed
      · cases hnone
  · rintro (⟨rfl, hupto, rfl⟩ | ⟨found, stop, hdue, hcloses, rfl, rfl⟩)
    · exact ⟨none, later, ⟨.inl ⟨rfl, hupto⟩, rfl⟩, pure_eq_ok.2 ⟨rfl, rfl⟩⟩
    · have hpicks : book.Picks (some found.id) found :=
        .inl ⟨rfl, Book.find?_of_latestPeriod? hdue.latest⟩
      exact ⟨some (found.id, stop), book, ⟨.inr ⟨found, stop, hdue, rfl⟩, rfl⟩,
        closePeriod_eq_ok.2 (.inr ⟨found, hpicks, .inl ⟨hcloses, rfl, rfl⟩⟩)⟩

/-- So many rounds close at most so many periods, until nothing is due. -/
theorem closeDueRepeatedly_eq_ok {rounds : Nat} :
    closeDueRepeatedly config length now rounds book = .ok ss later ↔
      book.ClosesInTurn config length now ss later ∧ later.UpToDate length now ∧
        ss.length ≤ rounds := by
  induction rounds generalizing book ss with
  | zero =>
    simp only [closeDueRepeatedly, bind_eq_ok, dueEnd?_eq_ok, check_eq_ok, pure_eq_ok]
    constructor
    · rintro ⟨_, _, ⟨⟨rfl, hupto⟩ | ⟨_, _, -, rfl⟩, rfl⟩, _, _, ⟨hnone, rfl⟩, rfl, rfl⟩
      · exact ⟨.done _, hupto, Nat.le_refl 0⟩
      · cases hnone
    · rintro ⟨hcloses, hupto, hle⟩
      obtain rfl : ss = [] := List.eq_nil_of_length_eq_zero (Nat.le_zero.1 hle)
      cases hcloses
      exact ⟨none, _, ⟨.inl ⟨rfl, hupto⟩, rfl⟩, (), _, ⟨rfl, rfl⟩, rfl, rfl⟩
  | succ rounds ih =>
    simp only [closeDueRepeatedly, bind_eq_ok, closeDue_eq_ok]
    constructor
    · rintro ⟨_, _, ⟨rfl, hupto, rfl⟩ | ⟨found, stop, hdue, hcloses, rfl, rfl⟩, hrun⟩
      · obtain ⟨rfl, rfl⟩ := pure_eq_ok.1 hrun
        exact ⟨.done _, hupto, Nat.zero_le _⟩
      · obtain ⟨rest, mid, hrest, hreply⟩ := bind_eq_ok.1 hrun
        obtain ⟨rfl, rfl⟩ := pure_eq_ok.1 hreply
        obtain ⟨hrest, hupto, hle⟩ := ih.1 hrest
        exact ⟨.close hdue hcloses hrest, hupto, Nat.succ_le_succ hle⟩
    · rintro ⟨hturn, hupto, hle⟩
      cases hturn with
      | done => exact ⟨none, _, .inl ⟨rfl, hupto, rfl⟩, pure_eq_ok.2 ⟨rfl, rfl⟩⟩
      | close hdue hcloses hrest =>
        have hrounds := ih.2 ⟨hrest, hupto, Nat.le_of_succ_le_succ hle⟩
        exact ⟨_, _, .inr ⟨_, _, hdue, hcloses, rfl, rfl⟩,
          bind_eq_ok.2 ⟨_, _, hrounds, pure_eq_ok.2 ⟨rfl, rfl⟩⟩⟩

/-- Whatever a request to catch up tells of was closed in turn. -/
theorem closesInTurn_of_closeElapsed (h : closeElapsed config now book = .ok ss later) :
    ss = [] ∨ ∃ length, book.ClosesInTurn config length now ss later := by
  simp only [closeElapsed, bind_eq_ok, liftNumber_eq_ok, read_eq_ok, and_assoc, exists_and_left,
    exists_eq_left'] at h
  obtain ⟨length, -, h⟩ := h
  cases hlatest : book.latestPeriod? with
  | none =>
    simp only [hlatest, bind_eq_ok, pure_eq_ok] at h
    obtain ⟨_, _, -, hnil, -⟩ := h
    exact .inl hnil.symm
  | some last =>
    simp only [hlatest] at h
    exact .inr ⟨length, (closeDueRepeatedly_eq_ok.1 h).1⟩

/-- **A request to catch up closes what is due until nothing is.** -/
theorem closeElapsed_eq_ok (hchain : book.Chained) (hperiods : book.periods.rows ≠ [])
    (hlength : config.periodLength = .ok length) (hpos : 1 ≤ length) :
    closeElapsed config now book = .ok ss later ↔
      book.ClosesInTurn config length now ss later ∧ later.UpToDate length now := by
  obtain ⟨last, hlast⟩ : ∃ last, book.latestPeriod? = some last :=
    Option.ne_none_iff_exists'.1 fun h => hperiods (Book.latestPeriod?_eq_none.1 h)
  simp only [closeElapsed, bind_eq_ok, liftNumber_eq_ok, hlength, read_eq_ok, hlast, and_assoc,
    exists_and_left, exists_eq_left', Except.ok.injEq, closeDueRepeatedly_eq_ok]
  constructor
  · rintro ⟨hturn, hupto, -⟩
    exact ⟨hturn, hupto⟩
  · rintro ⟨hturn, hupto⟩
    exact ⟨hturn, hupto, hturn.length_le hchain hpos hlast⟩

end Session

end RaceBook
