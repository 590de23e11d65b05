import RaceBook.Proofs.Rating.CatchUp
import RaceBook.Proofs.Rating.Preview

/-!
# Closes that fail

* `Session.closeBy` : a close with any work in place of the rating; `Session.closeBy_eq_error` : when
  it fails it has left at most the mark of the period;
* `Session.closeBy_marked` : a close does the same whether the period was marked before or not;
* `Session.closeElapsed_eq_error` : a request to catch up that fails has closed what came before, and
  fails as the close that is next;
* `failed_close_retryable` : so a failed close does no harm and can be tried again.
-/

namespace RaceBook

variable {R : Type} {book later mid : Book R} {fault : Fault R}

/-! ## One close -/

namespace Session

/-- A close with any work in place of the rating: the period is marked for good, then the work is
done, all or nothing. -/
def closeBy (work : Int → Session R ClosingSummary) (period? : Option Int) :
    Session R (Option ClosingSummary) := do
  match ← atomically (beginClosing period?) with
  | none => return none
  | some id => return some (← atomically (work id))

theorem closePeriod_eq_closeBy [Arithmetic R] (config : Config R) (period? : Option Int)
    (endedAt : Moment) :
    closePeriod config period? endedAt =
      closeBy (fun id => finishClosing config id endedAt) period? := rfl

theorem period_eq_error {id : Int} :
    period id book = .error fault later ↔
      book.periods.find? id = none ∧ fault = .notFound (.period id) ∧ later = book := by
  simp only [period, bind_eq_error, get_eq_error, false_or, get_eq_ok, demand_eq_error, and_assoc,
    exists_and_left, exists_eq_left']
  rw [eq_comm (a := fault), eq_comm (a := later)]

theorem markClosing_eq_error {found : Row Period} :
    markClosing found book = .error fault later ↔ False := by
  unfold markClosing
  split
  · exact modify_eq_error
  · exact pure_eq_error

theorem beginClosing_eq_error {period? : Option Int} :
    beginClosing period? book = .error fault later ↔
      ∃ id, period? = some id ∧ book.periods.find? id = none ∧ fault = .notFound (.period id) ∧
        later = book := by
  cases period? with
  | some id =>
    simp only [beginClosing, bind_eq_error, period_eq_error, markClosing_eq_error, pure_eq_error,
      or_false, and_false, exists_false, Option.some.injEq, exists_eq_left']
  | none =>
    simp only [beginClosing, bind_eq_error, read_eq_error, read_eq_ok, false_or, and_assoc,
      exists_and_left, exists_eq_left', reduceCtorEq, false_and, exists_false, iff_false]
    cases book.latestPeriod? with
    | none => simp
    | some last => by_cases hclosed : last.data.status = .closed <;> simp [hclosed, markClosing_eq_error]

/-- A close that fails does so for an unknown period, or it has left the mark of its period and
nothing else. -/
theorem closeBy_eq_error {work : Int → Session R ClosingSummary} {period? : Option Int} :
    closeBy work period? book = .error fault later ↔
      (∃ id, period? = some id ∧ book.periods.find? id = none ∧ fault = .notFound (.period id) ∧
        later = book) ∨
      ∃ found, book.Picks period? found ∧ later = book.marked found ∧
        ∃ mid, work found.id (book.marked found) = .error fault mid := by
  simp only [closeBy, bind_eq_error, atomically_eq_error, beginClosing_eq_error, atomically_eq_ok,
    beginClosing_eq_ok]
  constructor
  · rintro (⟨⟨_, id, hid, hnone, hfault, -⟩, rfl⟩ | ⟨_, _, ⟨-, -, rfl, rfl⟩ |
      ⟨found, hpicks, rfl, rfl⟩, hrun⟩)
    · exact .inl ⟨id, hid, hnone, hfault, rfl⟩
    · cases hrun
    · simp only [bind_eq_error, atomically_eq_error, pure_eq_error, and_false, exists_false,
        or_false] at hrun
      obtain ⟨hmid, rfl⟩ := hrun
      exact .inr ⟨found, hpicks, rfl, hmid⟩
  · rintro (⟨id, hid, hnone, hfault, rfl⟩ | ⟨found, hpicks, rfl, hmid⟩)
    · exact .inl ⟨⟨_, id, hid, hnone, hfault, rfl⟩, rfl⟩
    · refine .inr ⟨_, _, .inr ⟨found, hpicks, rfl, rfl⟩, ?_⟩
      exact bind_eq_error.2 (.inl (atomically_eq_error.2 ⟨hmid, rfl⟩))

end Session

section

variable [Arithmetic R] {found : Row Period}

theorem Book.Chained.marked (h : book.Chained) (hfound : found ∈ book.periods.rows) :
    (book.marked found).Chained := by
  by_cases hopened : found.data.status = .opened
  · exact Event.chained_apply (e := .periodMarked found) ⟨Table.find?_of_mem hfound, hopened⟩ h
  · rwa [Book.marked, if_neg hopened]

/-- **A close does the same whether its period was marked before or not.** -/
theorem Session.closeBy_marked {work : Int → Session R ClosingSummary} {period? : Option Int}
    (h : book.Chained) (hfound : found ∈ book.periods.rows) (hrunning : found.data.status ≠ .closed)
    (hperiod : ∀ id ∈ period?, id = found.id) :
    closeBy work period? (book.marked found) = closeBy work period? book := by
  have hrow := Book.find?_marked (Table.find?_of_mem hfound) hrunning
  have hagain : (book.marked found).marked ⟨found.id, found.data.marked⟩ = book.marked found :=
    if_neg nofun
  have hbegin : beginClosing period? book = .ok (some found.id) (book.marked found) :=
    beginClosing_eq_ok.2 (.inr ⟨found, h.picks_of_notClosed hfound hrunning hperiod, rfl, rfl⟩)
  have hbegin' : beginClosing period? (book.marked found) =
      .ok (some found.id) (book.marked found) :=
    beginClosing_eq_ok.2 (.inr ⟨⟨found.id, found.data.marked⟩, (h.marked hfound).picks_of_notClosed
      (Table.mem_of_find? hrow) Book.marked_ne_closed hperiod, rfl, hagain.symm⟩)
  simp only [closeBy, bind, EStateM.bind, atomically, hbegin, hbegin']

end

/-! ## Catching up -/

/-- The full length of the latest period, which is not closed, leads beyond the calendar. -/
def Book.OffCalendar (book : Book R) (length : Int) : Prop :=
  ∃ last, book.latestPeriod? = some last ∧ last.data.status ≠ .closed ∧
    last.data.startedAt.add? length = none

namespace Session

variable {config : Config R} {length : Int} {now : Moment}

theorem dueEnd?_eq_error :
    dueEnd? length now book = .error fault later ↔
      book.OffCalendar length ∧ fault = .calendar ∧ later = book := by
  unfold Book.OffCalendar
  simp only [dueEnd?, bind_eq_error, read_eq_error, false_or, read_eq_ok, and_assoc,
    exists_and_left, exists_eq_left']
  cases book.latestPeriod? with
  | none => simp
  | some last =>
    by_cases hclosed : last.data.status = .closed
    · simp [hclosed]
    · simp only [if_neg hclosed, bind_eq_error, demand_eq_error, pure_eq_error, and_false,
        exists_false, or_false, Option.some.injEq, exists_eq_left', and_assoc]
      rw [and_iff_right hclosed, eq_comm (a := fault), eq_comm (a := later)]

variable [Arithmetic R]

/-- A round fails when the end of the latest period cannot be told, or as the close that is due. -/
theorem closeDue_eq_error :
    closeDue config length now book = .error fault later ↔
      (book.OffCalendar length ∧ fault = .calendar ∧ later = book) ∨
      ∃ found stop, book.Due length now found stop ∧
        closePeriod config (some found.id) stop book = .error fault later := by
  simp only [closeDue, bind_eq_error, dueEnd?_eq_error, dueEnd?_eq_ok]
  refine or_congr_right ?_
  constructor
  · rintro ⟨_, _, ⟨⟨rfl, -⟩ | ⟨found, stop, hdue, rfl⟩, rfl⟩, hrun⟩
    · cases hrun
    · exact ⟨found, stop, hdue, hrun⟩
  · rintro ⟨found, stop, hdue, hrun⟩
    exact ⟨_, book, ⟨.inr ⟨found, stop, hdue, rfl⟩, rfl⟩, hrun⟩

/-- So many rounds fail after some of them closed their periods: the next close fails, or the end of
its period cannot be told, or there is one left when all rounds are done. -/
theorem closeDueRepeatedly_eq_error {rounds : Nat} :
    closeDueRepeatedly config length now rounds book = .error fault later ↔
      ∃ ss mid, book.ClosesInTurn config length now ss mid ∧
        ((ss.length < rounds ∧ ∃ found stop, mid.Due length now found stop ∧
            closePeriod config (some found.id) stop mid = .error fault later) ∨
          (ss.length ≤ rounds ∧ mid.OffCalendar length ∧ fault = .calendar ∧ later = mid) ∨
          (ss.length = rounds ∧ (∃ found stop, mid.Due length now found stop) ∧
            fault = .endlessCatchUp ∧ later = mid)) := by
  induction rounds generalizing book with
  | zero =>
    simp only [closeDueRepeatedly, bind_eq_error, dueEnd?_eq_error, dueEnd?_eq_ok, check_eq_error,
      pure_eq_error, and_false, exists_false, or_false]
    constructor
    · rintro (⟨hoff, rfl, rfl⟩ | ⟨_, _, ⟨⟨rfl, -⟩ | ⟨found, stop, hdue, rfl⟩, rfl⟩, hsome, rfl, rfl⟩)
      · exact ⟨[], _, .done _, .inr (.inl ⟨Nat.le_refl 0, hoff, rfl, rfl⟩)⟩
      · cases hsome
      · exact ⟨[], _, .done _, .inr (.inr ⟨rfl, ⟨found, stop, hdue⟩, rfl, rfl⟩)⟩
    · rintro ⟨ss, mid, hturn, ⟨hlt, -⟩ | ⟨hle, hoff, rfl, rfl⟩ | ⟨hlength, ⟨found, stop, hdue⟩, rfl, rfl⟩⟩
      · exact absurd hlt (Nat.not_lt_zero _)
      · obtain rfl : ss = [] := List.eq_nil_of_length_eq_zero (Nat.le_zero.1 hle)
        cases hturn
        exact .inl ⟨hoff, rfl, rfl⟩
      · obtain rfl : ss = [] := List.eq_nil_of_length_eq_zero hlength
        cases hturn
        exact .inr ⟨_, _, ⟨.inr ⟨found, stop, hdue, rfl⟩, rfl⟩, rfl, rfl, rfl⟩
  | succ rounds ih =>
    simp only [closeDueRepeatedly, bind_eq_error, closeDue_eq_error, closeDue_eq_ok]
    constructor
    · rintro ((⟨hoff, rfl, rfl⟩ | ⟨found, stop, hdue, hrun⟩) |
        ⟨_, _, ⟨rfl, -, rfl⟩ | ⟨found, stop, hdue, hcloses, rfl, rfl⟩, hrun⟩)
      · exact ⟨[], _, .done _, .inr (.inl ⟨Nat.zero_le _, hoff, rfl, rfl⟩)⟩
      · exact ⟨[], _, .done _, .inl ⟨Nat.succ_pos _, found, stop, hdue, hrun⟩⟩
      · cases hrun
      · simp only [bind_eq_error, pure_eq_error, and_false, exists_false, or_false] at hrun
        obtain ⟨ss, mid, hturn, hfails⟩ := ih.1 hrun
        refine ⟨_, mid, .close hdue hcloses hturn, ?_⟩
        simpa only [List.length_cons, Nat.succ_lt_succ_iff, Nat.succ_le_succ_iff,
          Nat.succ_inj] using hfails
    · rintro ⟨ss, mid, hturn, hfails⟩
      cases hturn with
      | done =>
        rcases hfails with ⟨-, hnext⟩ | ⟨-, hoff⟩ | ⟨hlength, -⟩
        · exact .inl (.inr hnext)
        · exact .inl (.inl hoff)
        · cases hlength
      | close hdue hcloses hrest =>
        simp only [List.length_cons, Nat.succ_lt_succ_iff, Nat.succ_le_succ_iff,
          Nat.succ_inj] at hfails
        have hrounds := ih.2 ⟨_, _, hrest, hfails⟩
        exact .inr ⟨_, _, .inr ⟨_, _, hdue, hcloses, rfl, rfl⟩, bind_eq_error.2 (.inl hrounds)⟩

theorem closeElapsed_eq_error :
    closeElapsed config now book = .error fault later ↔
      (∃ bad, config.periodLength = .error bad ∧ fault = .rating (.number bad) ∧ later = book) ∨
      ∃ length last, config.periodLength = .ok length ∧ book.latestPeriod? = some last ∧
        closeDueRepeatedly config length now (roundsUntil last.data.startedAt now length) book =
          .error fault later := by
  simp only [closeElapsed, bind_eq_error, liftNumber_eq_error, liftNumber_eq_ok, read_eq_error,
    read_eq_ok, false_or, and_assoc, exists_and_left, exists_eq_left']
  refine or_congr ?_ (exists_congr fun length => and_congr_right fun _ => ?_)
  · simp only [eq_comm]
  · cases hlatest : book.latestPeriod? with
    | none =>
      have hrows := Book.latestPeriod?_eq_none.1 hlatest
      have hopened : openFirstPeriod now book = .ok _ (book.withPeriod now) :=
        atomically_eq_ok.2 (ensureOpenPeriod_eq_ok.2 (.inr ⟨hrows, rfl, rfl⟩))
      simp [hopened]
    | some last => simp

end Session

/-! ## What a failed close leaves -/

/-- A book in which at most the period that the request is about was marked as closing, if it was
open. -/
def Book.MarksAtMost (book : Book R) (period? : Option Int) (later : Book R) : Prop :=
  later = book ∨ ∃ found, book.Picks period? found ∧ found.data.status = .opened ∧
    later = { book with periods := book.periods.modify found.id ({ · with status := .closing }) }

theorem Session.marksAtMost_of_closeBy {work : Int → Session R ClosingSummary} {period? : Option Int}
    (h : closeBy work period? book = .error fault later) : book.MarksAtMost period? later := by
  rcases closeBy_eq_error.1 h with ⟨_, -, -, -, rfl⟩ | ⟨found, hpicks, rfl, -⟩
  · exact .inl rfl
  · by_cases hopened : found.data.status = .opened
    · exact .inr ⟨found, hpicks, hopened, if_pos hopened⟩
    · exact .inl (if_neg hopened)

variable [Arithmetic R] {config : Config R} {length : Int} {now : Moment}
  {ss : List ClosingSummary}

theorem Operation.closePeriod_eq_error {period? : Option Int} {endedAt : Moment} :
    (Operation.closePeriod config period? endedAt).perform book = .error fault later ↔
      Session.closePeriod config period? endedAt book = .error fault later :=
  Session.map_eq_error

theorem Operation.closeElapsed_eq_error :
    (Operation.closeElapsed config now).perform book = .error fault later ↔
      Session.closeElapsed config now book = .error fault later :=
  Session.map_eq_error

namespace Book

theorem ClosesInTurn.run_closes (h : book.ClosesInTurn config length now ss later) :
    Operation.run (ss.map fun s => .closePeriod config (some s.closed) s.endedAt) book = later := by
  induction h with
  | done book => rfl
  | @close book later found stop rest hdue hcloses _ ih =>
    have hrun : Session.closePeriod config (some found.id) stop book =
        .ok (some (book.summary config found stop)) (book.closed config found stop) :=
      Session.closePeriod_eq_ok.2
        (.inr ⟨found, .inl ⟨rfl, find?_of_latestPeriod? hdue.latest⟩, .inl ⟨hcloses, rfl, rfl⟩⟩)
    have hafter : (Operation.closePeriod config (some found.id) stop).after book =
        book.closed config found stop :=
      Operation.after_of_ok (Session.map_eq_ok.2 ⟨_, hrun, rfl⟩)
    rw [List.map_cons, Operation.run_cons]
    exact (congrArg (Operation.run _) hafter).trans ih

/-- When the close of a period that is due fails, the period is closing. -/
theorem Due.find?_of_failed {found : Row Period} {stop : Moment} (h : book.Due length now found stop)
    (hfails : Session.closePeriod config (some found.id) stop book = .error fault later) :
    later = book.marked found ∧
      later.periods.find? found.id = some ⟨found.id, { found.data with status := .closing }⟩ := by
  have hfound := find?_of_latestPeriod? h.latest
  rw [Session.closePeriod_eq_closeBy] at hfails
  rcases Session.closeBy_eq_error.1 hfails with ⟨_, ⟨⟩, hnone, -⟩ |
    ⟨picked, ⟨hid, hpicked⟩ | ⟨⟨⟩, -⟩, rfl, -⟩
  · cases hnone.symm.trans hfound
  · rw [← Option.some.inj hid, hfound, Option.some.injEq] at hpicked
    subst hpicked
    exact ⟨rfl, find?_marked hfound h.notClosed⟩

end Book

/-- **A failed close does no harm and can be tried again**: it leaves at most the mark of its
period, which makes no difference to the next try. A request to catch up keeps the closes before the
failed one. -/
theorem failed_close_retryable (book : Book R) (h : Reachable book) (config : Config R) :
    (∀ (work : Int → Session R ClosingSummary) period? fault later,
      Session.closeBy work period? book = .error fault later → book.MarksAtMost period? later) ∧
    (∀ period? endedAt fault later,
      (Operation.closePeriod config period? endedAt).perform book = .error fault later →
        book.MarksAtMost period? later) ∧
    (∀ found ∈ book.periods.rows, found.data.status = .opened →
      ∀ period?, (period? = none ∨ period? = some found.id) → ∀ endedAt,
        (Operation.closePeriod config period? endedAt).perform
            { book with
              periods := book.periods.modify found.id ({ · with status := .closing }) } =
          (Operation.closePeriod config period? endedAt).perform book) ∧
    (∀ now fault later, (Operation.closeElapsed config now).perform book = .error fault later →
      (later = book ∧ ∃ bad, config.periodLength = .error bad ∧ fault = .rating (.number bad)) ∨
      ∃ length ss mid, config.periodLength = .ok length ∧
        book.ClosesInTurn config length now ss mid ∧
        Operation.run (ss.map fun s => .closePeriod config (some s.closed) s.endedAt) book = mid ∧
        ((∃ found stop, mid.Due length now found stop ∧
            (Operation.closePeriod config (some found.id) stop).perform mid = .error fault later ∧
            later = mid.marked found ∧
            later.periods.find? found.id =
              some ⟨found.id, { found.data with status := .closing }⟩) ∨
          (later = mid ∧ mid.OffCalendar length ∧ fault = .calendar) ∨
          (later = mid ∧ length ≤ 0 ∧ fault = .endlessCatchUp))) ∧
    ∀ now length ss mid found stop fault later, config.periodLength = .ok length → 1 ≤ length →
      book.ClosesInTurn config length now ss mid → mid.Due length now found stop →
      (Operation.closePeriod config (some found.id) stop).perform mid = .error fault later →
        (Operation.closeElapsed config now).perform book = .error fault later := by
  have hchain : book.Chained := h.chained
  refine ⟨fun work period? fault later hfails => Session.marksAtMost_of_closeBy hfails,
    fun period? endedAt fault later hfails => ?_, fun found hfound hopened period? hperiod endedAt => ?_,
    fun now fault later hfails => ?_,
    fun now length ss mid found stop fault later hlength hpos hturn hdue hfails => ?_⟩
  · exact Session.marksAtMost_of_closeBy (Operation.closePeriod_eq_error.1 hfails)
  · have hrunning : found.data.status ≠ .closed := by rw [hopened]; decide
    have hmarked : book.marked found = { book with
        periods := book.periods.modify found.id ({ · with status := .closing }) } := if_pos hopened
    have hsame : Session.closeBy (fun id => Session.finishClosing config id endedAt) period?
        (book.marked found) =
          Session.closeBy (fun id => Session.finishClosing config id endedAt) period? book :=
      Session.closeBy_marked hchain hfound hrunning (by rcases hperiod with rfl | rfl <;> simp)
    rw [← hmarked]
    simp only [Operation.perform, Session.closePeriod_eq_closeBy, Functor.map, EStateM.map, hsame]
  · rcases Session.closeElapsed_eq_error.1 (Operation.closeElapsed_eq_error.1 hfails) with
      ⟨bad, hlength, hfault, hlater⟩ | ⟨length, last, hlength, hlast, hrounds⟩
    · exact .inl ⟨hlater, bad, hlength, hfault⟩
    · obtain ⟨ss, mid, hturn, hnext⟩ := Session.closeDueRepeatedly_eq_error.1 hrounds
      refine .inr ⟨length, ss, mid, hlength, hturn, hturn.run_closes, ?_⟩
      rcases hnext with ⟨-, found, stop, hdue, hclose⟩ | ⟨-, hoff, hfault, hlater⟩ |
        ⟨hrounds, ⟨found, stop, hdue⟩, hfault, hlater⟩
      · exact .inl ⟨found, stop, hdue, Operation.closePeriod_eq_error.2 hclose,
          hdue.find?_of_failed hclose⟩
      · exact .inr (.inl ⟨hlater, hoff, hfault⟩)
      · refine .inr (.inr ⟨hlater, ?_, hfault⟩)
        -- with a length of at least one tick the rounds would not have run out
        by_contra hpos
        exact Nat.ne_of_lt (hturn.length_lt hchain (by omega) hlast hdue) hrounds
  · obtain ⟨last, hlast⟩ : ∃ last, book.latestPeriod? = some last := by
      cases hturn with
      | done => exact ⟨found, hdue.latest⟩
      | close hfirst => exact ⟨_, hfirst.latest⟩
    exact Operation.closeElapsed_eq_error.2 (Session.closeElapsed_eq_error.2 (.inr ⟨length, last,
      hlength, hlast, Session.closeDueRepeatedly_eq_error.2 ⟨ss, mid, hturn,
        .inl ⟨hturn.length_lt hchain hpos hlast hdue, found, stop, hdue,
          Operation.closePeriod_eq_error.1 hfails⟩⟩⟩))

section HalfRated

open scoped Fractions

/-- Two players who rest in an open period, from which the second one has a snapshot already. -/
def halfRated : Book Rat :=
  Operation.run (resting ++
    [.command (.register (String.ofList (List.replicate 64 'b')) "Bob" ⟨1500, 350, 0.06⟩),
      .command (.appendSnapshot ⟨2, 2, ⟨1500, 173.7178 * 0.3, 0.4⟩, 0, .ofTicks 4⟩)]) .empty

/-- The close rates the first player and fails at the second one. It leaves the mark and no snapshot,
and fails again in the same way. -/
theorem failed_close_retryable_halfRated :
    Reachable halfRated ∧
    ∃ fault later, (Operation.closePeriod .standard none (.ofTicks 9)).perform halfRated =
        .error fault later ∧
      halfRated.MarksAtMost none later ∧
      later.periods.rows.map (·.data.status) = [.closed, .closing] ∧
      later.snapshots.rows.map (·.data.player) = [1, 2] ∧
      (Operation.closePeriod .standard none (.ofTicks 9)).perform later = .error fault later := by
  have hreachable : Reachable halfRated := Reachable.empty.run _
  have hrefused : (Operation.closePeriod .standard none (.ofTicks 9)).perform.refused halfRated =
      true := by decide +kernel
  obtain ⟨fault, later, hrun⟩ := Session.exists_of_refused hrefused
  have hafter : (Operation.closePeriod .standard none (.ofTicks 9)).after halfRated = later :=
    Operation.after_of_error hrun
  obtain ⟨hopened, hclosing, hsnapshots⟩ :
      halfRated.periods.rows.map (·.data.status) = [.closed, .opened] ∧
      ((Operation.closePeriod .standard none (.ofTicks 9)).after halfRated).periods.rows.map
        (·.data.status) = [.closed, .closing] ∧
      ((Operation.closePeriod .standard none (.ofTicks 9)).after halfRated).snapshots.rows.map
        (·.data.player) = [1, 2] := by decide +kernel
  rw [hafter] at hclosing hsnapshots
  obtain ⟨-, hharmless, hretry, -⟩ := failed_close_retryable halfRated hreachable .standard
  have hmarks := hharmless none (.ofTicks 9) fault later hrun
  refine ⟨hreachable, fault, later, hrun, hmarks, hclosing, hsnapshots, ?_⟩
  rcases hmarks with rfl | ⟨found, hpicks, hstatus, rfl⟩
  · cases hopened.symm.trans hclosing
  · rw [hretry found (Table.mem_of_find? (Book.find?_of_picks hpicks)) hstatus none (.inl rfl)]
    exact hrun

end HalfRated

end RaceBook
