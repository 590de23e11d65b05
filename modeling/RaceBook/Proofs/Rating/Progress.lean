import RaceBook.Proofs.Config.Accepted
import RaceBook.Proofs.Double.Ticks
import RaceBook.Proofs.Rating.Elapsed
import RaceBook.Proofs.Rating.Preview

/-!
# Periods that make progress

* `MakesProgress` : with periods of a length a request to catch up comes to an end, and a preview
  tells which part of the period is over; `makesProgress_of_pos` : this is so when the length is at
  least one tick;
* `Stalls` : neither is so; `stalls_of_zero` : this is what periods without length do;
* `accepted_progress` : the length that an accepted configuration gives is not negative, and which of
  the two it is, the days of a period tell.
-/

namespace RaceBook

variable {R : Type} [Arithmetic R] {config : Config R} {length : Int}

/-- Wherever the clock stands, only so many closes are due one after the other as lengths are over,
and as many rounds are enough. Some part of the period is over at any time. -/
structure MakesProgress (config : Config R) (length : Int) : Prop where
  bounded : ∀ book, Reachable book → ∀ last, book.latestPeriod? = some last → ∀ now ss mid,
    book.ClosesInTurn config length now ss mid →
      ss.length ≤ elapsedLengths last.data.startedAt now length
  ends : ∀ book, Reachable book → ∀ last, book.latestPeriod? = some last → ∀ now rounds,
    elapsedLengths last.data.startedAt now length ≤ rounds →
      Session.closeDueRepeatedly config length now rounds book =
        Session.closeElapsed config now book
  part : ∀ start now, ∃ part : R, elapsedFraction start now length = .ok part

/-- Once the latest period has started, no number of rounds is enough: another close is due after all
of them, unless one has failed. Every preview while a period is open is refused. -/
structure Stalls (config : Config R) (length : Int) : Prop where
  endless : ∀ book, Reachable book → ∀ last, book.latestPeriod? = some last → ∀ now,
    last.data.startedAt ≤ now → ∀ rounds,
      (∃ ss mid found stop, book.ClosesInTurn config length now ss mid ∧ ss.length = rounds ∧
        mid.Due length now found stop) ∨
      ∃ ss mid found stop fault later, book.ClosesInTurn config length now ss mid ∧
        ss.length < rounds ∧ mid.Due length now found stop ∧
        (Operation.closePeriod config (some found.id) stop).perform mid = .error fault later
  noPreview : ∀ (book : Book R) player found now, (book.players.find? player).isSome →
    book.openPeriods = [found] →
      (Operation.query (.preview config player now)).perform book =
        .error (.rating (.number .divisionByZero)) book

/-! ## Rounds without end -/

theorem Moment.add?_zero (m : Moment) : m.add? 0 = some m := by
  have hin : 0 ≤ (m.ticks : Int) ∧ (m.ticks : Int) < calendarTicks :=
    ⟨Int.natCast_nonneg _, Int.ofNat_lt.2 m.inCalendar⟩
  rw [add?, Int.add_zero, ofTicks?, dif_pos hin]
  rfl

/-- Closes of periods without length leave one that is due. -/
theorem Book.ClosesInTurn.due_of_zero {book mid : Book R} {now : Moment} {ss : List ClosingSummary}
    (h : book.ClosesInTurn config 0 now ss mid) (hchain : book.Chained) {last : Row Period}
    (hlast : book.latestPeriod? = some last) (hstarted : last.data.startedAt ≤ now) :
    ∃ found stop, mid.Due 0 now found stop := by
  obtain ⟨hmid, found, hfound, hstart, -⟩ := h.latest hchain hlast
  have hrunning : found.data.status ≠ .closed :=
    hmid.lastRuns found (hmid.latestPeriod?_eq.symm.trans hfound) |>.1
  have hticks : last.data.startedAt.ticks ≤ now.ticks := hstarted
  have hover : found.data.startedAt.ticks ≤ now.ticks := by omega
  exact ⟨found, found.data.startedAt, hfound, hrunning, Moment.add?_zero _, hover⟩

theorem endless_of_zero {book : Book R} (hchain : book.Chained) {last : Row Period}
    (hlast : book.latestPeriod? = some last) {now : Moment} (hstarted : last.data.startedAt ≤ now)
    (rounds : Nat) :
    (∃ ss mid found stop, book.ClosesInTurn config 0 now ss mid ∧ ss.length = rounds ∧
      mid.Due 0 now found stop) ∨
    ∃ ss mid found stop fault later, book.ClosesInTurn config 0 now ss mid ∧
      ss.length < rounds ∧ mid.Due 0 now found stop ∧
      (Operation.closePeriod config (some found.id) stop).perform mid = .error fault later := by
  cases hrun : Session.closeDueRepeatedly config 0 now rounds book with
  | ok ss later =>
    obtain ⟨hturn, hupto, -⟩ := Session.closeDueRepeatedly_eq_ok.1 hrun
    obtain ⟨found, stop, hdue⟩ := hturn.due_of_zero hchain hlast hstarted
    rcases hupto found hdue.latest with hclosed | ⟨stop', hstop, hbefore⟩
    · exact absurd hclosed hdue.notClosed
    · cases hdue.ends.symm.trans hstop
      exact absurd hdue.elapsed (Nat.not_le.2 hbefore)
  | error fault later =>
    obtain ⟨ss, mid, hturn, ⟨hlt, found, stop, hdue, hfails⟩ | ⟨-, ⟨found, hfound, hrunning, hoff⟩, -⟩ |
      ⟨hrounds, ⟨found, stop, hdue⟩, -⟩⟩ := Session.closeDueRepeatedly_eq_error.1 hrun
    · exact .inr ⟨ss, mid, found, stop, fault, later, hturn, hlt, hdue,
        Operation.closePeriod_eq_error.2 hfails⟩
    · cases (Moment.add?_zero _).symm.trans hoff
    · exact .inl ⟨ss, mid, found, stop, hturn, hrounds, hdue⟩

/-! ## Previews -/

theorem Operation.perform_preview_eq_error {book : Book R} {player : Int} {p : Row (Player R)}
    {found : Row Period} {now : Moment} {bad : NumberFault}
    (hplayer : book.players.find? player = some p) (hopen : book.openPeriods = [found])
    (hlength : config.periodLength = .ok length)
    (hpart : elapsedFraction (R := R) found.data.startedAt now length = .error bad) :
    (Operation.query (.preview config player now)).perform book =
      .error (.rating (.number bad)) book := by
  refine Session.atomically_eq_error.2 ⟨⟨book, Session.map_eq_error.2 ?_⟩, rfl⟩
  refine Session.bind_eq_error.2 (.inr ⟨p, book, Session.player_eq_ok.2 ⟨hplayer, rfl⟩, ?_⟩)
  refine Session.bind_eq_error.2
    (.inr ⟨some found, book, Session.openPeriod?_eq_ok.2 ⟨hopen, rfl⟩, ?_⟩)
  refine Session.bind_eq_error.2
    (.inr ⟨length, book, Session.liftNumber_eq_ok.2 ⟨hlength, rfl⟩, ?_⟩)
  exact Session.bind_eq_error.2 (.inl (Session.liftNumber_eq_error.2 ⟨bad, hpart, rfl, rfl⟩))

theorem elapsedFraction_of_pos (hpos : 0 < length) (start now : Moment) :
    ∃ part : Float, elapsedFraction start now length = .ok part := by
  have hlength : ¬(Double.millionths length == 0.0) = true :=
    Bool.eq_false_iff.1 (Double.millionths_beq_zero hpos)
  have hquotient : Arithmetic.quotient (Arithmetic.millionths (now.since start))
      (Arithmetic.millionths length : Float) = .ok _ := if_neg hlength
  rw [elapsedFraction, hquotient]
  exact ⟨_, rfl⟩

theorem elapsedFraction_zero (start now : Moment) :
    elapsedFraction (R := Float) start now 0 = .error .divisionByZero := by
  have hquotient : Arithmetic.quotient (Arithmetic.millionths (now.since start))
      (Arithmetic.millionths 0 : Float) = .error .divisionByZero := if_pos Double.millionths_zero
  rw [elapsedFraction, hquotient]
  rfl

/-! ## Accepted configurations -/

theorem makesProgress_of_pos {config : Config Float} (hpos : 0 < length)
    (hlength : config.periodLength = .ok length) : MakesProgress config length where
  bounded := fun _ hbook _ hlast _ _ _ hturn => hturn.length_le_elapsed hbook.chained hpos hlast
  ends := fun _ hbook _ hlast _ _ =>
    Session.closeDueRepeatedly_eq_closeElapsed hbook.chained hlength hpos hlast
  part := elapsedFraction_of_pos hpos

/-- Periods of doubles without length stall. -/
theorem stalls_of_zero {config : Config Float} (hlength : config.periodLength = .ok 0) :
    Stalls config 0 where
  endless := fun _ hbook _ hlast _ => endless_of_zero hbook.chained hlast
  noPreview := fun _ _ _ _ hplayer hopen => by
    obtain ⟨p, hp⟩ := Option.isSome_iff_exists.1 hplayer
    exact Operation.perform_preview_eq_error hp hopen hlength (elapsedFraction_zero _ _)

theorem Config.wholeTicks_of_periodLength {config : Config Float}
    (hlength : config.periodLength = .ok length) :
    Double.wholeTicks dayTicks config.glicko.periodDays = .ok length := by
  change durationOf dayTicks config.glicko.periodDays = .ok length at hlength
  obtain ⟨ticks, hticks, hduration⟩ := Config.bind_eq_ok.1 hlength
  split at hduration
  next =>
    cases hduration
    exact hticks
  next => cases hduration

/-- **An accepted configuration makes progress unless its periods are at most half a tick long**:
then they have no length and stall, although every bound was checked. -/
theorem accepted_progress (path : String) (node : Option Config.Node) (config : Config Float)
    (haccepted : Config.loadFile path node = .ok config) (length : Int)
    (hlength : config.periodLength = .ok length) :
    (1 ≤ length ∧ ¬config.glicko.periodDays * Float.ofNat dayTicks ≤ 0.5 ∧
      MakesProgress config length) ∨
    (length = 0 ∧ config.glicko.periodDays * Float.ofNat dayTicks ≤ 0.5 ∧ Stalls config length) := by
  have hdays := (Config.breaksNoBound_of_loadFile haccepted).periodDays
  have hticks := Config.wholeTicks_of_periodLength hlength
  have hnonneg : 0 ≤ length := Double.wholeTicks_nonneg (by decide) hdays hticks
  have hzero := Double.wholeTicks_eq_zero_iff (by decide) (by decide) hdays hticks
  rcases Int.lt_or_eq_of_le hnonneg with hpos | rfl
  · exact .inl ⟨hpos, fun hsmall => absurd (hzero.2 hsmall) (by omega),
      makesProgress_of_pos hpos hlength⟩
  · exact .inr ⟨rfl, hzero.1 rfl, stalls_of_zero hlength⟩

/-- A file that gives a period a tiny part of a day. -/
def fleetingPeriods : String :=
  "[system]\nname = \"sprint\"\n[glicko2]\nrating_period_days = 1e-12\n"

theorem Config.exists_of_length {path : String} {node : Option Config.Node}
    (h : (Config.loadFile path node).toOption.bind (·.periodLength.toOption) = some length) :
    ∃ config, Config.loadFile path node = .ok config ∧ config.periodLength = .ok length := by
  cases hload : Config.loadFile path node with
  | error fault =>
    rw [hload] at h
    cases h
  | ok config =>
    rw [hload] at h
    refine ⟨config, rfl, ?_⟩
    change config.periodLength.toOption = some length at h
    cases hlength : config.periodLength with
    | error bad =>
      rw [hlength] at h
      cases h
    | ok ticks =>
      rw [hlength] at h
      cases h
      rfl

theorem exists_accepted_fleetingPeriods :
    ∃ config, Config.loadFile "sprint.toml" (some (.file fleetingPeriods)) = .ok config ∧
      config.periodLength = .ok 0 := Config.exists_of_length (by decide +kernel)

/-- With these periods no request to catch up comes to an end, and a preview in an open period is
refused. -/
theorem accepted_progress_fleetingPeriods :
    ∃ config, Config.loadFile "sprint.toml" (some (.file fleetingPeriods)) = .ok config ∧
      config.periodLength = .ok 0 ∧ Stalls config 0 ∧
      (Operation.query (.preview config 1 (.ofTicks 5))).perform (paddock Float) =
        .error (.rating (.number .divisionByZero)) (paddock Float) := by
  obtain ⟨config, haccepted, hlength⟩ := exists_accepted_fleetingPeriods
  obtain ⟨found, hopen⟩ : ∃ found, (paddock Float).openPeriods = [found] :=
    List.length_eq_one_iff.1 (by decide +kernel)
  rcases accepted_progress _ _ config haccepted 0 hlength with ⟨hpos, -⟩ | ⟨-, -, hstalls⟩
  · exact absurd hpos (by decide)
  · exact ⟨config, haccepted, hlength, hstalls,
      hstalls.noPreview (paddock Float) 1 found (.ofTicks 5) (by decide +kernel) hopen⟩

/-- So that the bound on the days was checked does not give every period a length. -/
theorem accepted_without_length :
    ¬∀ path node (config : Config Float), Config.loadFile path node = .ok config →
      ∀ length, config.periodLength = .ok length → 0 < length := by
  intro h
  obtain ⟨config, haccepted, hlength⟩ := exists_accepted_fleetingPeriods
  exact absurd (h _ _ config haccepted 0 hlength) (by decide)

end RaceBook
