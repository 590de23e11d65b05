import RaceBook.Proofs.Rating.Retry
import RaceBook.Proofs.Rating.Schedule

/-!
# What catching up closes

* `Book.ClosesInTurn.latest` : so many closes later the latest period starts so many lengths later;
* `ConsecutiveCloses` : closes of periods of one length, one behind the other from a start on;
  `Book.ClosesInTurn.consecutive` : closes in turn are such;
* `Book.ClosesInTurn.length_eq_elapsed` : when nothing is left to close, there is one for each
  length that is over;
* `Session.closeDueRepeatedly_eq_closeElapsed` : the number of rounds makes no difference beyond that;
* `catchUp_elapsed` : so a request to catch up closes exactly the periods that are over.
-/

namespace RaceBook

namespace Moment

theorem add?_isSome {m : Moment} {duration : Int} :
    (m.add? duration).isSome ↔ 0 ≤ m.ticks + duration ∧ m.ticks + duration < calendarTicks := by
  unfold add? ofTicks?
  split
  next hin => exact ⟨fun _ => hin, fun _ => rfl⟩
  next hout => exact ⟨fun h => absurd h Bool.false_ne_true, fun hin => absurd hin hout⟩

theorem exists_add?_of_le {m : Moment} {long : Int} (h : (m.add? long).isSome) (n : Moment)
    (short : Int) (hle : (n.ticks : Int) + short ≤ m.ticks + long) (hpos : 0 ≤ short) :
    ∃ stop, n.add? short = some stop := by
  obtain ⟨-, hlong⟩ := add?_isSome.1 h
  exact Option.isSome_iff_exists.1 (add?_isSome.2 ⟨by omega, by omega⟩)

end Moment

/-- Closes of periods of the given length, one behind the other from a start on, each of the period
that the one before it opened. -/
structure ConsecutiveCloses (start : Moment) (length : Int) (ss : List ClosingSummary) : Prop where
  startedAt : ∀ (k : Nat) s, ss[k]? = some s → (s.startedAt.ticks : Int) = start.ticks + k * length
  endedAt : ∀ (k : Nat) s, ss[k]? = some s → (s.endedAt.ticks : Int) = start.ticks + (k + 1) * length
  fresh : ∀ s ∈ ss, s.alreadyClosed = false
  linked : ss.IsChain fun s t => s.next = some t.closed

theorem ConsecutiveCloses.nil (start : Moment) (length : Int) :
    ConsecutiveCloses start length [] := ⟨nofun, nofun, nofun, .nil⟩

theorem ConsecutiveCloses.cons {start stop : Moment} {length : Int} {s : ClosingSummary}
    {ss : List ClosingSummary} (h : ConsecutiveCloses stop length ss)
    (hstop : (stop.ticks : Int) = start.ticks + length) (hstartedAt : s.startedAt = start)
    (hendedAt : s.endedAt = stop) (hfresh : s.alreadyClosed = false)
    (hnext : ∀ t ∈ ss.head?, s.next = some t.closed) :
    ConsecutiveCloses start length (s :: ss) where
  startedAt := by
    rintro (_ | k) t ht
    · cases ht
      rw [hstartedAt, Int.natCast_zero, Int.zero_mul, Int.add_zero]
    · rw [h.startedAt k t ht, hstop, Int.natCast_succ, Int.add_mul, Int.one_mul]
      omega
  endedAt := by
    rintro (_ | k) t ht
    · cases ht
      rw [hendedAt, hstop, Int.natCast_zero, Int.zero_add, Int.one_mul]
    · rw [h.endedAt k t ht, hstop, Int.natCast_succ, Int.add_mul (k + 1 : Int), Int.one_mul]
      omega
  fresh := List.forall_mem_cons.2 ⟨hfresh, h.fresh⟩
  linked := List.isChain_cons.2 ⟨hnext, h.linked⟩

variable {R : Type} [Arithmetic R] {book later : Book R} {config : Config R} {length : Int}
  {now : Moment} {ss : List ClosingSummary}

namespace Book.ClosesInTurn

theorem closed_head (h : ClosesInTurn config length now book ss later) {last : Row Period}
    (hlast : book.latestPeriod? = some last) : ∀ s ∈ ss.head?, s.closed = last.id := by
  cases h with
  | done => exact fun _ hs => nomatch hs
  | close hdue =>
    rintro _ ⟨⟩
    exact congrArg Row.id (Option.some.inj (hdue.latest.symm.trans hlast))

/-- Closes in turn are of periods one behind the other from the start of the latest one. -/
theorem consecutive (h : ClosesInTurn config length now book ss later) (hchain : book.Chained)
    {last : Row Period} (hlast : book.latestPeriod? = some last) :
    ConsecutiveCloses last.data.startedAt length ss := by
  induction h generalizing last with
  | done book => exact .nil _ _
  | @close book later found stop rest hdue hcloses hrest ih =>
    obtain rfl : found = last := Option.some.inj (hdue.latest.symm.trans hlast)
    have hnext := hcloses.latestPeriod?_closed hchain
    refine (ih (hcloses.chained_closed hchain).1 hnext).cons (Moment.ticks_of_add? hdue.ends) rfl rfl
      rfl fun t ht => ?_
    exact congrArg some (hrest.closed_head hnext t ht).symm

/-- So many closes later the latest period starts so many lengths later; the last close opened it, if
there was one. -/
theorem latest (h : ClosesInTurn config length now book ss later) (hchain : book.Chained)
    {last : Row Period} (hlast : book.latestPeriod? = some last) :
    later.Chained ∧ ∃ next, later.latestPeriod? = some next ∧
      (next.data.startedAt.ticks : Int) = last.data.startedAt.ticks + ss.length * length ∧
      (ss = [] ∨ next.data.status = .opened) := by
  induction h generalizing last with
  | done book =>
    refine ⟨hchain, last, hlast, ?_, .inl rfl⟩
    rw [List.length_nil, Int.natCast_zero, Int.zero_mul, Int.add_zero]
  | @close book later found stop rest hdue hcloses hrest ih =>
    obtain rfl : found = last := Option.some.inj (hdue.latest.symm.trans hlast)
    have hopened := hcloses.latestPeriod?_closed hchain
    obtain ⟨hlater, next, hnext, hstart, hstatus⟩ := ih (hcloses.chained_closed hchain).1 hopened
    refine ⟨hlater, next, hnext, ?_, .inr ?_⟩
    · rw [hstart, Moment.ticks_of_add? hdue.ends, List.length_cons, Int.natCast_succ, Int.add_mul,
        Int.one_mul]
      omega
    · rcases hstatus with rfl | hstatus
      · cases hrest
        cases hopened.symm.trans hnext
        rfl
      · exact hstatus

/-- When nothing is left to close, there was one close for each length that is over, and the latest
period has begun and has run for less than its length, unless nothing was closed. -/
theorem length_eq_elapsed (h : ClosesInTurn config length now book ss later) (hchain : book.Chained)
    (hpos : 1 ≤ length) (hupto : later.UpToDate length now) {last next : Row Period}
    (hlast : book.latestPeriod? = some last) (hnext : later.latestPeriod? = some next) :
    ss.length = elapsedLengths last.data.startedAt now length ∧
      now.since next.data.startedAt < length ∧ (ss = [] ∨ next.data.startedAt ≤ now) := by
  obtain ⟨hlater, _, hlatest, hstart, -⟩ := h.latest hchain hlast
  cases hlatest.symm.trans hnext
  have hrunning : next.data.status ≠ .closed :=
    hlater.lastRuns next (hlater.latestPeriod?_eq.symm.trans hnext) |>.1
  obtain ⟨stop, hstop, hbefore⟩ := (hupto next hnext).resolve_left hrunning
  have hend := Moment.ticks_of_add? hstop
  have hlt : now.ticks < stop.ticks := hbefore
  have hshort : now.since next.data.startedAt < length := by
    rw [Moment.since]
    omega
  refine ⟨Nat.le_antisymm (h.length_le_elapsed hchain hpos hlast) ?_, hshort, ?_⟩
  · -- one length more than was closed is not over
    have hover : now.since last.data.startedAt / length < ss.length + 1 := by
      refine Int.ediv_lt_of_lt_mul (by omega) ?_
      rw [Moment.since] at hshort ⊢
      rw [Int.add_mul, Int.one_mul]
      omega
    rw [elapsedLengths]
    omega
  · refine (h.eq_nil_or_le hchain hlast).imp_right fun hle => ?_
    have hticks : next.data.startedAt.ticks ≤ now.ticks := by omega
    exact hticks

/-- A moment in the calendar one length behind all that is over is behind the end of the latest
period after any closes. -/
theorem not_offCalendar (h : ClosesInTurn config length now book ss later) (hchain : book.Chained)
    (hpos : 1 ≤ length) {last : Row Period} (hlast : book.latestPeriod? = some last)
    (hcalendar : (last.data.startedAt.add?
      ((elapsedLengths last.data.startedAt now length + 1) * length)).isSome) :
    ¬later.OffCalendar length := by
  rintro ⟨found, hfound, -, hnone⟩
  obtain ⟨-, _, hlatest, hstart, -⟩ := h.latest hchain hlast
  cases hlatest.symm.trans hfound
  have hcount := h.length_le_elapsed hchain hpos hlast
  have hlengths : (ss.length : Int) * length ≤
      elapsedLengths last.data.startedAt now length * length :=
    Int.mul_le_mul_of_nonneg_right (Int.ofNat_le.2 hcount) (by omega)
  obtain ⟨stop, hstop⟩ := Moment.exists_add?_of_le hcalendar found.data.startedAt length
    (by rw [hstart, Int.add_mul, Int.one_mul]; omega) (by omega)
  cases hnone.symm.trans hstop

end Book.ClosesInTurn

/-! ## Rounds -/

namespace Session

theorem closeDueRepeatedly_eq {rounds more : Nat}
    (hle : ∀ ss mid, book.ClosesInTurn config length now ss mid → ss.length ≤ rounds)
    (hlt : ∀ ss mid found stop, book.ClosesInTurn config length now ss mid →
      mid.Due length now found stop → ss.length < rounds)
    (hmore : rounds ≤ more) :
    closeDueRepeatedly config length now more book =
      closeDueRepeatedly config length now rounds book := by
  symm
  cases hrun : closeDueRepeatedly config length now more book with
  | ok ss later =>
    obtain ⟨hturn, hupto, -⟩ := closeDueRepeatedly_eq_ok.1 hrun
    exact closeDueRepeatedly_eq_ok.2 ⟨hturn, hupto, hle ss later hturn⟩
  | error fault later =>
    obtain ⟨ss, mid, hturn, ⟨-, found, stop, hdue, hfails⟩ | ⟨-, hoff⟩ |
      ⟨hrounds, ⟨found, stop, hdue⟩, -⟩⟩ := closeDueRepeatedly_eq_error.1 hrun
    · exact closeDueRepeatedly_eq_error.2 ⟨ss, mid, hturn,
        .inl ⟨hlt ss mid found stop hturn hdue, found, stop, hdue, hfails⟩⟩
    · exact closeDueRepeatedly_eq_error.2 ⟨ss, mid, hturn, .inr (.inl ⟨hle ss mid hturn, hoff⟩)⟩
    · exact absurd (hlt ss mid found stop hturn hdue) (by omega)

/-- Without any period a request to catch up opens the first one. -/
theorem closeElapsed_of_latestPeriod?_eq_none (hlength : config.periodLength = .ok length)
    (hnone : book.latestPeriod? = none) :
    closeElapsed config now book = .ok [] (book.withPeriod now) := by
  have hopened : openFirstPeriod now book = .ok _ (book.withPeriod now) :=
    atomically_eq_ok.2
      (ensureOpenPeriod_eq_ok.2 (.inr ⟨Book.latestPeriod?_eq_none.1 hnone, rfl, rfl⟩))
  simp only [closeElapsed, bind_eq_ok, liftNumber_eq_ok, hlength, read_eq_ok, hnone, and_assoc,
    exists_and_left, exists_eq_left', Except.ok.injEq, pure_eq_ok]
  exact ⟨_, _, hopened, trivial, rfl⟩

theorem closeElapsed_eq_closeDueRepeatedly (hlength : config.periodLength = .ok length)
    {last : Row Period} (hlast : book.latestPeriod? = some last) :
    closeElapsed config now book =
      closeDueRepeatedly config length now (roundsUntil last.data.startedAt now length) book := by
  cases hrun : closeDueRepeatedly config length now (roundsUntil last.data.startedAt now length) book
    with
  | error fault later => exact closeElapsed_eq_error.2 (.inr ⟨length, last, hlength, hlast, hrun⟩)
  | ok ss later =>
    simp only [closeElapsed, bind_eq_ok, liftNumber_eq_ok, hlength, read_eq_ok, hlast, and_assoc,
      exists_and_left, exists_eq_left', Except.ok.injEq]
    exact hrun

/-- A request to catch up comes to the same in any number of rounds that is large enough for the
lengths that are over. -/
theorem closeDueRepeatedly_eq_closeElapsed (hchain : book.Chained)
    (hlength : config.periodLength = .ok length) (hpos : 1 ≤ length) {last : Row Period}
    (hlast : book.latestPeriod? = some last) {rounds : Nat}
    (hrounds : elapsedLengths last.data.startedAt now length ≤ rounds) :
    closeDueRepeatedly config length now rounds book = closeElapsed config now book := by
  have hle : ∀ ss mid, book.ClosesInTurn config length now ss mid →
      ss.length ≤ elapsedLengths last.data.startedAt now length :=
    fun ss mid hturn => hturn.length_le_elapsed hchain hpos hlast
  have hlt : ∀ ss mid found stop, book.ClosesInTurn config length now ss mid →
      mid.Due length now found stop → ss.length < elapsedLengths last.data.startedAt now length :=
    fun ss mid found stop hturn hdue => hturn.length_lt_elapsed hchain hpos hlast hdue
  rw [closeElapsed_eq_closeDueRepeatedly hlength hlast, closeDueRepeatedly_eq hle hlt hrounds,
    closeDueRepeatedly_eq hle hlt (elapsedLengths_le_roundsUntil hpos)]

end Session

/-! ## A request to catch up -/

/-- What a request to catch up tells and leaves when so many lengths are over since the start of the
latest period: it has closed a period for each of them, the one after the last of them is open and not
over, and there is nothing more to do at this time. -/
structure CaughtUp (config : Config R) (now start : Moment) (length : Int) (n : Nat)
    (ss : List ClosingSummary) (later : Book R) : Prop where
  count : ss.length = n
  consecutive : ConsecutiveCloses start length ss
  current : 0 < n → ∃ next, later.latestPeriod? = some next ∧ next.data.status = .opened ∧
    (next.data.startedAt.ticks : Int) = start.ticks + n * length ∧ next.data.startedAt ≤ now ∧
    now.since next.data.startedAt < length
  again : (Operation.closeElapsed config now).perform later = .ok (.summaries []) later

theorem Book.ClosesInTurn.caughtUp (h : ClosesInTurn config length now book ss later)
    (hchain : book.Chained) (hlength : config.periodLength = .ok length) (hpos : 1 ≤ length)
    (hupto : later.UpToDate length now) {last : Row Period}
    (hlast : book.latestPeriod? = some last) :
    CaughtUp config now last.data.startedAt length
      (elapsedLengths last.data.startedAt now length) ss later := by
  obtain ⟨hlater, next, hnext, hstart, hopened⟩ := h.latest hchain hlast
  obtain ⟨hcount, hshort, hbegun⟩ := h.length_eq_elapsed hchain hpos hupto hlast hnext
  refine ⟨hcount, h.consecutive hchain hlast, fun hsome => ?_, ?_⟩
  · have hne : ss ≠ [] := List.ne_nil_of_length_pos (hcount ▸ hsome)
    exact ⟨next, hnext, hopened.resolve_left hne, hcount ▸ hstart, hbegun.resolve_left hne, hshort⟩
  · have hperiods : later.periods.rows ≠ [] := fun hnil => by
      cases (latestPeriod?_eq_none.2 hnil).symm.trans hnext
    exact Operation.closeElapsed_eq_ok.2 ⟨[],
      (Session.closeElapsed_eq_ok hlater hperiods hlength hpos).2 ⟨.done later, hupto⟩, rfl⟩

/-- **A request to catch up closes exactly the periods that are over**, the latest one open or
closing, or fails as one of these closes fails after those before it. -/
theorem catchUp_elapsed (book : Book R) (h : Reachable book) (config : Config R) (length : Int)
    (hlength : config.periodLength = .ok length) (hpos : 1 ≤ length) (now : Moment) :
    (∀ last n, book.latestPeriod? = some last →
      n = elapsedLengths last.data.startedAt now length →
      (∀ ss mid, book.ClosesInTurn config length now ss mid → ss.length ≤ n) ∧
      (∀ rounds, n ≤ rounds → Session.closeDueRepeatedly config length now rounds book =
        Session.closeElapsed config now book) ∧
      ((last.data.startedAt.add? ((n + 1) * length)).isSome →
        (∃ ss later, (Operation.closeElapsed config now).perform book = .ok (.summaries ss) later ∧
          CaughtUp config now last.data.startedAt length n ss later) ∨
        ∃ ss mid found stop fault later, book.ClosesInTurn config length now ss mid ∧
          mid.Due length now found stop ∧
          (Operation.closePeriod config (some found.id) stop).perform mid = .error fault later ∧
          (Operation.closeElapsed config now).perform book = .error fault later)) ∧
    (book.latestPeriod? = none → (Operation.closeElapsed config now).perform book =
      .ok (.summaries []) { book with periods := book.periods.append ⟨.opened, now, none⟩ }) := by
  have hchain : book.Chained := h.chained
  refine ⟨?_, fun hnone => Operation.closeElapsed_eq_ok.2
    ⟨[], Session.closeElapsed_of_latestPeriod?_eq_none hlength hnone, rfl⟩⟩
  rintro last _ hlast rfl
  have hle : ∀ ss mid, book.ClosesInTurn config length now ss mid →
      ss.length ≤ elapsedLengths last.data.startedAt now length :=
    fun ss mid hturn => hturn.length_le_elapsed hchain hpos hlast
  have hsame : ∀ rounds, elapsedLengths last.data.startedAt now length ≤ rounds →
      Session.closeDueRepeatedly config length now rounds book =
        Session.closeElapsed config now book :=
    fun rounds => Session.closeDueRepeatedly_eq_closeElapsed hchain hlength hpos hlast
  refine ⟨hle, hsame, fun hcalendar => ?_⟩
  cases hrun : Session.closeElapsed config now book with
  | ok ss later =>
    left
    have hrounds := (hsame _ (Nat.le_refl _)).trans hrun
    obtain ⟨hturn, hupto, -⟩ := Session.closeDueRepeatedly_eq_ok.1 hrounds
    exact ⟨ss, later, Operation.closeElapsed_eq_ok.2 ⟨ss, hrun, rfl⟩,
      hturn.caughtUp hchain hlength hpos hupto hlast⟩
  | error fault later =>
    right
    have hrounds := (hsame _ (Nat.le_refl _)).trans hrun
    obtain ⟨ss, mid, hturn, ⟨-, found, stop, hdue, hfails⟩ | ⟨-, hoff, -⟩ |
      ⟨hspent, ⟨found, stop, hdue⟩, -⟩⟩ := Session.closeDueRepeatedly_eq_error.1 hrounds
    · exact ⟨ss, mid, found, stop, fault, later, hturn, hdue,
        Operation.closePeriod_eq_error.2 hfails, Operation.closeElapsed_eq_error.2 hrun⟩
    · exact absurd hoff (hturn.not_offCalendar hchain hpos hlast hcalendar)
    · exact absurd (hturn.length_lt_elapsed hchain hpos hlast hdue) (by omega)

section StuckPaddock

open scoped Fractions

/-- The race of two, with its period left closing by a request that it end before it started. -/
def stuckPaddock : Book Rat :=
  Operation.run (duelists Rat ++ [.closePeriod .tolerant (some 1) (.ofTicks 0)]) .empty

/-- At the very end of the second day two periods are over, the one that is closing first. -/
theorem catchUp_elapsed_stuckPaddock :
    Reachable stuckPaddock ∧ (Config.tolerant : Config Rat).periodLength = .ok dayTicks ∧
    stuckPaddock.latestPeriod? = some ⟨1, ⟨.closing, .ofTicks 1, none⟩⟩ ∧
    ∃ ss later, (Operation.closeElapsed .tolerant (.ofTicks (2 * dayTicks + 1))).perform
        stuckPaddock = .ok (.summaries ss) later ∧
      CaughtUp .tolerant (.ofTicks (2 * dayTicks + 1)) (.ofTicks 1) dayTicks 2 ss later := by
  have hreachable : Reachable stuckPaddock := Reachable.empty.run _
  have hlength : (Config.tolerant : Config Rat).periodLength = .ok dayTicks := by decide +kernel
  have hlatest : stuckPaddock.latestPeriod? = some ⟨1, ⟨.closing, .ofTicks 1, none⟩⟩ := by
    decide +kernel
  have hdone : (Operation.closeElapsed .tolerant (.ofTicks (2 * dayTicks + 1))).perform.refused
      stuckPaddock = false := by decide +kernel
  refine ⟨hreachable, hlength, hlatest, ?_⟩
  obtain ⟨-, -, houtcome⟩ := (catchUp_elapsed stuckPaddock hreachable .tolerant dayTicks hlength
    (by decide) (.ofTicks (2 * dayTicks + 1))).1 _ 2 hlatest (by decide +kernel)
  rcases houtcome (by decide +kernel) with hcaughtUp |
    ⟨ss, mid, found, stop, fault, later, -, -, -, hfails⟩
  · exact hcaughtUp
  · rw [Session.refused, hfails] at hdone
    cases hdone

end StuckPaddock

end RaceBook
