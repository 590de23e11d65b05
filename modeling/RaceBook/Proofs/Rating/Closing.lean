import RaceBook.Proofs.Rating.Periods
import RaceBook.Proofs.Rating.Windows

/-!
# Closing a period

* `Book.closingSnapshot?`, `Book.skips` : what a close takes of a player, and whom it skips;
* `Book.assess_congr` : what a close finds for a player does not hang on the snapshots that it takes
  of others;
* `Session.foldlM_closePlayer_eq_ok` : the players may be rated in any order;
* `Book.marked`, `Book.closed` : the book in which a period is closing, and after its close;
* `Session.finishClosing_eq_ok`, `Session.beginClosing_eq_ok`, `Session.closePeriod_eq_ok`.
-/

namespace RaceBook

variable {R : Type} [Arithmetic R] {book later : Book R} {config : Config R} {w : Window}

namespace Book

/-! ## What a close finds for a player -/

def closingSnapshot? (book : Book R) (config : Config R) (period : Int) (w : Window)
    (player : Int) : Option (Snapshot R) :=
  match book.assess config w player with
  | .ok (.rated standing count) => some ⟨period, player, standing, count, w.stop⟩
  | .ok .absent | .ok .diverged | .error _ => none

def skips (book : Book R) (config : Config R) (w : Window) (player : Int) : Bool :=
  match book.assess config w player with
  | .ok .diverged => true
  | .ok .absent | .ok (.rated ..) | .error _ => false

theorem of_closingSnapshot?_eq_some {period player : Int} {s : Snapshot R}
    (h : book.closingSnapshot? config period w player = some s) :
    s.period = period ∧ s.player = player ∧ s.createdAt = w.stop := by
  unfold closingSnapshot? at h
  split at h
  · cases h
    exact ⟨rfl, rfl, rfl⟩
  · cases h
  · cases h
  · cases h

/-- What a close finds for a player hangs on the battles of the period, on their participants, on
the snapshots made before its end and on the player's latest one. -/
theorem assess_congr {player : Int} (hbattles : later.battlesIn w = book.battlesIn w)
    (hparticipants : ∀ b ∈ book.battlesIn w, later.participantsOf b.id = book.participantsOf b.id)
    (hsnapshots : ∀ opponent time, time < w.stop →
      later.latestSnapshot? opponent (some time) = book.latestSnapshot? opponent (some time))
    (hlatest : later.latestSnapshot? player (some w.stop) =
      book.latestSnapshot? player (some w.stop)) :
    later.assess config w player = book.assess config w player := by
  have hmatchups : later.matchupsBy config player w = book.matchupsBy config player w :=
    matchups_congr hbattles hparticipants hsnapshots
  have hprior : later.prior? config player w.stop = book.prior? config player w.stop := by
    rw [prior?, prior?, hlatest]
  unfold assess provisional
  rw [hmatchups, hprior]

theorem assess_withSnapshot {s : Snapshot R} {player : Int} (hstop : s.createdAt = w.stop)
    (hplayer : s.player ≠ player) :
    (book.withSnapshot s).assess config w player = book.assess config w player := by
  have hsame := onlyRates_withSnapshot book s
  have hrows : (book.withSnapshot s).snapshots.rows =
      book.snapshots.rows ++ [⟨book.snapshots.nextId, s.stored⟩] := by
    rw [snapshots_withSnapshot, Table.rows_append]
  apply assess_congr
  · rw [battlesIn, battlesIn, hsame.battles]
  · intro b _
    rw [participantsOf, participantsOf, hsame.participants]
  · intro opponent time htime
    apply latestSnapshot?_of_rows hrows
    intro r hr _ hle
    rw [List.mem_singleton] at hr
    subst hr
    change s.createdAt.ticks ≤ time.ticks at hle
    change time.ticks < w.stop.ticks at htime
    rw [hstop] at hle
    omega
  · apply latestSnapshot?_of_rows hrows
    intro r hr hother
    rw [List.mem_singleton] at hr
    subst hr
    exact absurd hother hplayer

theorem assess_withSnapshots {ss : List (Snapshot R)} {player : Int}
    (h : ∀ s ∈ ss, s.createdAt = w.stop ∧ s.player ≠ player) :
    (book.withSnapshots ss).assess config w player = book.assess config w player := by
  induction ss generalizing book with
  | nil => rfl
  | cons s rest ih =>
    obtain ⟨hstop, hplayer⟩ := h s List.mem_cons_self
    rw [withSnapshots_cons, ih fun t ht => h t (List.mem_cons_of_mem s ht),
      assess_withSnapshot hstop hplayer]

def afterPlayer (book : Book R) (config : Config R) (period : Int) (w : Window) (player : Int) :
    Book R :=
  book.withSnapshots (book.closingSnapshot? config period w player).toList

/-- Rating one player changes nothing that a close finds for another. -/
theorem assess_afterPlayer {period player other : Int} (h : player ≠ other) :
    (book.afterPlayer config period w player).assess config w other =
      book.assess config w other := by
  unfold afterPlayer
  cases hs : book.closingSnapshot? config period w player with
  | none => rfl
  | some s =>
    obtain ⟨-, hplayer, hstop⟩ := of_closingSnapshot?_eq_some hs
    exact assess_withSnapshot hstop (hplayer ▸ h)

theorem closingSnapshot?_afterPlayer {period player other : Int} (h : player ≠ other) :
    (book.afterPlayer config period w player).closingSnapshot? config period w other =
      book.closingSnapshot? config period w other := by
  unfold closingSnapshot?
  rw [assess_afterPlayer h]

theorem skips_afterPlayer {period player other : Int} (h : player ≠ other) :
    (book.afterPlayer config period w player).skips config w other =
      book.skips config w other := by
  unfold skips
  rw [assess_afterPlayer h]

theorem takesSnapshot_afterPlayer {period player : Int} {s : Snapshot R} (h : player ≠ s.player) :
    (book.afterPlayer config period w player).TakesSnapshot s ↔ book.TakesSnapshot s := by
  unfold afterPlayer
  cases hs : book.closingSnapshot? config period w player with
  | none => exact Iff.rfl
  | some t =>
    obtain ⟨-, hplayer, -⟩ := of_closingSnapshot?_eq_some hs
    exact takesSnapshot_withSnapshot (hplayer ▸ h)

def closingSnapshots (book : Book R) (config : Config R) (period : Int) (w : Window)
    (players : List Int) : List (Snapshot R) :=
  players.filterMap (book.closingSnapshot? config period w)

theorem closingSnapshots_cons {period player : Int} {rest : List Int} :
    book.closingSnapshots config period w (player :: rest) =
      (book.closingSnapshot? config period w player).toList ++
        book.closingSnapshots config period w rest := by
  unfold closingSnapshots
  cases h : book.closingSnapshot? config period w player with
  | none => rw [List.filterMap_cons_none h, Option.toList_none, List.nil_append]
  | some s => rw [List.filterMap_cons_some h, Option.toList_some, List.singleton_append]

theorem mem_closingSnapshots {period : Int} {players : List Int} {s : Snapshot R} :
    s ∈ book.closingSnapshots config period w players ↔
      s.player ∈ players ∧ book.closingSnapshot? config period w s.player = some s := by
  rw [closingSnapshots, List.mem_filterMap]
  constructor
  · rintro ⟨player, hplayer, hs⟩
    obtain ⟨-, rfl, -⟩ := of_closingSnapshot?_eq_some hs
    exact ⟨hplayer, hs⟩
  · rintro ⟨hplayer, hs⟩
    exact ⟨s.player, hplayer, hs⟩

end Book

namespace Session

/-! ## Rating everyone -/

theorem closePlayer_eq_ok {period player : Int} {tally tally' : Tally} :
    closePlayer config period w tally player book = .ok tally' later ↔
      (∃ found, book.assess config w player = .ok found) ∧
      (∀ s, book.closingSnapshot? config period w player = some s → book.TakesSnapshot s) ∧
      tally' = ⟨tally.rated + (book.closingSnapshot? config period w player).toList.length,
        tally.skipped ++ if book.skips config w player then [player] else []⟩ ∧
      later = book.withSnapshots (book.closingSnapshot? config period w player).toList := by
  unfold Book.closingSnapshot? Book.skips
  simp only [closePlayer, bind_eq_ok, get_eq_ok, liftRating_eq_ok, and_assoc, exists_and_left,
    exists_eq_left']
  cases book.assess config w player with
  | error fault =>
    constructor
    · rintro ⟨_, hfault, -⟩
      cases hfault
    · rintro ⟨⟨_, hfault⟩, -⟩
      cases hfault
  | ok found =>
    simp only [Except.ok.injEq, exists_eq_left', exists_eq', true_and]
    cases found with
    | absent =>
      rw [pure_eq_ok, eq_comm, @eq_comm _ book]
      simp
    | diverged =>
      rw [pure_eq_ok, eq_comm, @eq_comm _ book]
      simp
    | rated standing count =>
      simp only [bind_eq_ok, appendSnapshot_eq_ok, pure_eq_ok, Option.toList_some,
        Book.withSnapshots_cons, Book.withSnapshots_nil, Option.some.injEq, forall_eq']
      constructor
      · rintro ⟨_, _, ⟨htakes, -, rfl⟩, rfl, rfl⟩
        exact ⟨htakes, by simp, rfl⟩
      · rintro ⟨htakes, rfl, rfl⟩
        exact ⟨_, _, ⟨htakes, rfl, rfl⟩, by simp, rfl⟩

/-- **The players of a close may be rated in any order**: what is found for each of them is what the
book shows before the first one is rated. -/
theorem foldlM_closePlayer_eq_ok {period : Int} {order : List Int} (hd : order.Nodup)
    {tally tally' : Tally} :
    order.foldlM (closePlayer config period w) tally book = .ok tally' later ↔
      (∀ player ∈ order, ∃ found, book.assess config w player = .ok found) ∧
      (∀ s ∈ book.closingSnapshots config period w order, book.TakesSnapshot s) ∧
      tally' = ⟨tally.rated + (book.closingSnapshots config period w order).length,
        tally.skipped ++ order.filter (book.skips config w)⟩ ∧
      later = book.withSnapshots (book.closingSnapshots config period w order) := by
  induction order generalizing book tally with
  | nil =>
    rw [List.foldlM_nil, pure_eq_ok, eq_comm, @eq_comm _ book]
    simp [Book.closingSnapshots]
  | cons player rest ih =>
    obtain ⟨hplayer, hrest⟩ := List.nodup_cons.1 hd
    have hne : ∀ other ∈ rest, player ≠ other := by
      rintro other hother rfl
      exact hplayer hother
    -- the rest is found and taken as in the book before
    have hfound : (∀ other ∈ rest, ∃ found,
        (book.afterPlayer config period w player).assess config w other = .ok found) ↔
          ∀ other ∈ rest, ∃ found, book.assess config w other = .ok found :=
      forall₂_congr fun other h => by rw [Book.assess_afterPlayer (hne other h)]
    have hsnapshots : (book.afterPlayer config period w player).closingSnapshots config period w rest =
        book.closingSnapshots config period w rest :=
      List.filterMap_congr fun other h => Book.closingSnapshot?_afterPlayer (hne other h)
    have hskips : rest.filter ((book.afterPlayer config period w player).skips config w) =
        rest.filter (book.skips config w) :=
      List.filter_congr fun other h => Book.skips_afterPlayer (hne other h)
    have htakes : (∀ s ∈ book.closingSnapshots config period w rest,
        (book.afterPlayer config period w player).TakesSnapshot s) ↔
          ∀ s ∈ book.closingSnapshots config period w rest, book.TakesSnapshot s :=
      forall₂_congr fun s h =>
        Book.takesSnapshot_afterPlayer (hne _ (Book.mem_closingSnapshots.1 h).1)
    rw [List.foldlM_cons, bind_eq_ok]
    simp only [closePlayer_eq_ok, and_assoc, exists_and_left, exists_eq_left]
    change _ ∧ _ ∧ rest.foldlM (closePlayer config period w) _
      (book.afterPlayer config period w player) = .ok tally' later ↔ _
    rw [ih hrest, hsnapshots, hskips, hfound, htakes, Book.closingSnapshots_cons]
    have hskipped : (player :: rest).filter (book.skips config w) =
        (if book.skips config w player then [player] else []) ++
          rest.filter (book.skips config w) := by
      rw [List.filter_cons]
      split <;> rfl
    rw [hskipped, List.length_append, Book.withSnapshots_append, List.forall_mem_cons,
      List.forall_mem_append, ← List.append_assoc, ← Nat.add_assoc]
    simp only [Option.mem_toList]
    constructor
    · rintro ⟨hfound, htakes, hfounds, htakess, htally, hlater⟩
      exact ⟨⟨hfound, hfounds⟩, ⟨htakes, htakess⟩, htally, hlater⟩
    · rintro ⟨⟨hfound, hfounds⟩, ⟨htakes, htakess⟩, htally, hlater⟩
      exact ⟨hfound, htakes, hfounds, htakess, htally, hlater⟩

end Session

/-! ## The book after a close -/

def Period.windowTo (p : Period) (endedAt : Moment) : Window := ⟨p.startedAt, endedAt⟩

namespace Book

section Close

variable (config : Config R) (found : Row Period) (endedAt : Moment)

def snapshotsOfClose (book : Book R) : List (Snapshot R) :=
  book.closingSnapshots config found.id (found.data.windowTo endedAt)
    (book.candidates (found.data.windowTo endedAt))

/-- The book after a period closed: everyone is rated, and the next period is open. -/
def closed (book : Book R) : Book R :=
  { book.withSnapshots (book.snapshotsOfClose config found endedAt) with
    periods := (book.periods.modify found.id (·.ended endedAt)).append ⟨.opened, endedAt, none⟩ }

def summary (book : Book R) : ClosingSummary where
  closed := found.id
  next := some book.periods.nextId
  startedAt := found.data.startedAt
  endedAt
  ratedPlayers := (book.snapshotsOfClose config found endedAt).length
  skippedPlayers := (book.candidates (found.data.windowTo endedAt)).filter
    (book.skips config (found.data.windowTo endedAt))
  alreadyClosed := false

/-- A period that is not closed can be closed: it does not end before it starts, every player of it
can be rated, and no other period is open. -/
structure Closes (book : Book R) : Prop where
  known : book.periods.find? found.id = some found
  notClosed : found.data.status ≠ .closed
  order : found.data.startedAt ≤ endedAt
  assessed : ∀ player ∈ book.candidates (found.data.windowTo endedAt),
    ∃ result, book.assess config (found.data.windowTo endedAt) player = .ok result
  taken : ∀ s ∈ book.snapshotsOfClose config found endedAt, book.TakesSnapshot s
  alone : ∀ p ∈ book.periods.rows, p.data.status = .opened → p.id = found.id

end Close

omit [Arithmetic R] in
theorem nodup_candidates : (book.candidates w).Nodup := nodup_ascending _

omit [Arithmetic R] in
theorem mem_candidates {player : Int} :
    player ∈ book.candidates w ↔
      (∃ s ∈ book.snapshots.rows, s.data.player = player) ∨ player ∈ book.participantsIn w := by
  rw [candidates, mem_ascending, List.mem_append, ratedPlayers, mem_ascending, List.mem_map]

/-- Once a period closed, no other one stands in the way of the next. -/
theorem no_open_after_ended {periods : Table Period} {id : Int} {endedAt : Moment} :
    (∀ p ∈ (periods.modify id (·.ended endedAt)).rows, p.data.status ≠ .opened) ↔
      ∀ p ∈ periods.rows, p.data.status = .opened → p.id = id := by
  rw [Table.rows_modify, List.forall_mem_map]
  refine forall₂_congr fun p _ => ?_
  by_cases hid : p.id = id
  · simp [hid, Period.ended]
  · simp [hid]

theorem find?_closed {found : Row Period} {endedAt : Moment}
    (h : book.Closes config found endedAt) :
    (book.closed config found endedAt).periods.find? found.id =
      some ⟨found.id, found.data.ended endedAt⟩ :=
  Table.find?_append_of_find? (Table.find?_modify_self h.known)

end Book

namespace Session

theorem finishClosing_of_notClosed {found : Row Period} {endedAt : Moment} {r : ClosingSummary}
    (hfound : book.periods.find? found.id = some found) (hclosed : found.data.status ≠ .closed) :
    finishClosing config found.id endedAt book = .ok r later ↔
      book.Closes config found endedAt ∧ r = book.summary config found endedAt ∧
        later = book.closed config found endedAt := by
  simp only [finishClosing, bind_eq_ok, period_eq_ok, hfound, Option.some.injEq, if_neg hclosed,
    check_eq_ok, read_eq_ok, decide_eq_true_eq, foldlM_closePlayer_eq_ok Book.nodup_candidates,
    modify_eq_ok, insertPeriod_eq_ok, pure_eq_ok, Book.openPeriods_eq_nil,
    Book.periods_withSnapshots, Nat.zero_add, List.nil_append, Table.nextId_modify, forall_const,
    and_assoc, exists_and_left, exists_eq_left', exists_eq_left, exists_const]
  constructor
  · rintro ⟨horder, hassessed, htaken, halone, rfl, rfl⟩
    exact ⟨⟨hfound, hclosed, horder, hassessed, htaken, Book.no_open_after_ended.1 halone⟩,
      rfl, rfl⟩
  · rintro ⟨⟨-, -, horder, hassessed, htaken, halone⟩, rfl, rfl⟩
    exact ⟨horder, hassessed, htaken, Book.no_open_after_ended.2 halone, rfl, rfl⟩

/-- Of a period that is closed the record is repeated. -/
theorem finishClosing_of_closed {found : Row Period} {endedAt : Moment} {r : ClosingSummary}
    (hfound : book.periods.find? found.id = some found) (hclosed : found.data.status = .closed) :
    finishClosing config found.id endedAt book = .ok r later ↔
      ∃ recorded, found.data.endedAt = some recorded ∧
        r = book.recordedSummary found recorded ∧ later = book := by
  simp only [finishClosing, bind_eq_ok, period_eq_ok, hfound, Option.some.injEq, if_pos hclosed,
    recordedClose_eq_ok, and_assoc, exists_and_left, exists_eq_left']

end Session

/-! ## Marking a period first -/

namespace Book

variable {found : Row Period} {endedAt : Moment}

theorem closed_setPeriods {periods : Table Period} {p : Period}
    (hstart : p.startedAt = found.data.startedAt) :
    { book with periods }.closed config ⟨found.id, p⟩ endedAt =
      { book.withSnapshots (book.snapshotsOfClose config found endedAt) with
        periods := (periods.modify found.id (·.ended endedAt)).append ⟨.opened, endedAt, none⟩ } := by
  have hsnapshots : { book with periods }.snapshotsOfClose config ⟨found.id, p⟩ endedAt =
      book.snapshotsOfClose config found endedAt := by
    unfold snapshotsOfClose Period.windowTo
    rw [hstart]
    rfl
  unfold closed
  rw [hsnapshots, withSnapshots_setPeriods]

/-- A period that is marked first closes as it would have without the mark. -/
theorem closed_marked (hclosed : found.data.status ≠ .closed) :
    (book.marked found).closed config ⟨found.id, found.data.marked⟩ endedAt =
      book.closed config found endedAt := by
  rcases marked_cases book hclosed with ⟨hbook, hrow⟩ | hbook
  · rw [hbook, hrow]
  · rw [hbook]
    refine (closed_setPeriods rfl).trans ?_
    rw [Table.modify_modify]
    rfl

theorem summary_marked (hclosed : found.data.status ≠ .closed) :
    (book.marked found).summary config ⟨found.id, found.data.marked⟩ endedAt =
      book.summary config found endedAt := by
  rcases marked_cases book hclosed with ⟨hbook, hrow⟩ | hbook
  · rw [hbook, hrow]
  · rw [hbook, summary, Table.nextId_modify]
    rfl

omit [Arithmetic R] in
theorem candidates_marked : (book.marked found).candidates w = book.candidates w := by
  unfold marked
  split <;> rfl

theorem assess_marked {player : Int} :
    (book.marked found).assess config w player = book.assess config w player := by
  unfold marked
  split <;> rfl

omit [Arithmetic R] in
theorem snapshots_marked : (book.marked found).snapshots = book.snapshots := by
  unfold marked
  split <;> rfl

theorem snapshotsOfClose_marked :
    (book.marked found).snapshotsOfClose config ⟨found.id, found.data.marked⟩ endedAt =
      book.snapshotsOfClose config found endedAt := by
  unfold marked
  split <;> rfl

theorem closes_marked (hfound : book.periods.find? found.id = some found)
    (hclosed : found.data.status ≠ .closed) :
    (book.marked found).Closes config ⟨found.id, found.data.marked⟩ endedAt ↔
      book.Closes config found endedAt := by
  have hmarked := find?_marked hfound hclosed
  rcases marked_cases book hclosed with ⟨hbook, hrow⟩ | hbook
  · rw [hbook, hrow]
  rw [hbook] at hmarked ⊢
  have htakes : ∀ s, { book with periods := book.periods.modify found.id Period.marked
      }.TakesSnapshot s ↔ book.TakesSnapshot s := by
    intro s
    have hperiod : ((book.periods.modify found.id Period.marked).find? s.period).isSome =
        (book.periods.find? s.period).isSome := Table.isSome_find?_modify
    constructor
    · rintro ⟨hstorable, hcount, hfresh, hisPeriod, hplayer⟩
      exact ⟨hstorable, hcount, hfresh, hperiod ▸ hisPeriod, hplayer⟩
    · rintro ⟨hstorable, hcount, hfresh, hisPeriod, hplayer⟩
      exact ⟨hstorable, hcount, hfresh, hperiod.trans hisPeriod, hplayer⟩
  have halone : (∀ p ∈ (book.periods.modify found.id Period.marked).rows,
      p.data.status = .opened → p.id = found.id) ↔
        ∀ p ∈ book.periods.rows, p.data.status = .opened → p.id = found.id := by
    rw [Table.rows_modify, List.forall_mem_map]
    refine forall₂_congr fun p _ => ?_
    by_cases hid : p.id = found.id <;> simp [hid]
  constructor
  · rintro ⟨-, -, horder, hassessed, htaken, hopen⟩
    exact ⟨hfound, hclosed, horder, hassessed, fun s hs => (htakes s).1 (htaken s hs),
      halone.1 hopen⟩
  · rintro ⟨-, -, horder, hassessed, htaken, hopen⟩
    exact ⟨hmarked, marked_ne_closed, horder, hassessed,
      fun s hs => (htakes s).2 (htaken s hs), halone.2 hopen⟩

end Book

/-! ## Requests to close -/

/-- A request to close finds nothing to do, or closes the period it picks, or repeats what was
recorded of it. -/
theorem Session.closePeriod_eq_ok {period? : Option Int} {endedAt : Moment}
    {s? : Option ClosingSummary} :
    closePeriod config period? endedAt book = .ok s? later ↔
      (period? = none ∧ book.NothingToClose ∧ s? = none ∧ later = book) ∨
      (∃ found, book.Picks period? found ∧
        ((book.Closes config found endedAt ∧ s? = some (book.summary config found endedAt) ∧
            later = book.closed config found endedAt) ∨
          (found.data.status = .closed ∧ ∃ recorded, found.data.endedAt = some recorded ∧
            s? = some (book.recordedSummary found recorded) ∧ later = book))) := by
  have hfinish : ∀ found, book.Picks period? found → ∀ s,
      finishClosing config found.id endedAt (book.marked found) = .ok s later ↔
        (book.Closes config found endedAt ∧ s = book.summary config found endedAt ∧
          later = book.closed config found endedAt) ∨
        (found.data.status = .closed ∧ ∃ recorded, found.data.endedAt = some recorded ∧
          s = book.recordedSummary found recorded ∧ later = book) := by
    intro found hpicks s
    have hfound := Book.find?_of_picks hpicks
    by_cases hclosed : found.data.status = .closed
    · have hbook : book.marked found = book := by rw [Book.marked, hclosed, if_neg (by decide)]
      rw [hbook, finishClosing_of_closed hfound hclosed]
      constructor
      · exact fun h => .inr ⟨hclosed, h⟩
      · rintro (⟨hcloses, -⟩ | ⟨-, h⟩)
        · exact absurd hclosed hcloses.notClosed
        · exact h
    · have hmarked := Book.find?_marked hfound hclosed
      change finishClosing config (⟨found.id, found.data.marked⟩ : Row Period).id endedAt _ = _ ↔ _
      rw [finishClosing_of_notClosed hmarked Book.marked_ne_closed,
        Book.closes_marked hfound hclosed, Book.closed_marked hclosed, Book.summary_marked hclosed]
      constructor
      · exact .inl
      · rintro (h | ⟨h, -⟩)
        · exact h
        · exact absurd h hclosed
  simp only [closePeriod, bind_eq_ok, atomically_eq_ok, beginClosing_eq_ok]
  constructor
  · rintro ⟨id?, mid, ⟨hnone, hnothing, rfl, rfl⟩ | ⟨found, hpicks, rfl, rfl⟩, hrun⟩
    · obtain ⟨rfl, rfl⟩ := pure_eq_ok.1 hrun
      exact .inl ⟨hnone, hnothing, rfl, rfl⟩
    · simp only [bind_eq_ok, atomically_eq_ok, pure_eq_ok] at hrun
      obtain ⟨s, _, hrun, rfl, rfl⟩ := hrun
      refine .inr ⟨found, hpicks, ?_⟩
      simpa only [Option.some.injEq] using (hfinish found hpicks s).1 hrun
  · rintro (⟨hnone, hnothing, rfl, rfl⟩ | ⟨found, hpicks, hdone⟩)
    · exact ⟨none, later, .inl ⟨hnone, hnothing, rfl, rfl⟩, pure_eq_ok.2 ⟨rfl, rfl⟩⟩
    · refine ⟨some found.id, _, .inr ⟨found, hpicks, rfl, rfl⟩, ?_⟩
      simp only [bind_eq_ok, atomically_eq_ok, pure_eq_ok]
      rcases hdone with ⟨hcloses, rfl, hlater⟩ | ⟨hclosed, recorded, hended, rfl, hlater⟩
      · exact ⟨_, later, (hfinish found hpicks _).2 (.inl ⟨hcloses, rfl, hlater⟩), rfl, rfl⟩
      · exact ⟨_, later, (hfinish found hpicks _).2 (.inr ⟨hclosed, recorded, hended, rfl, hlater⟩),
          rfl, rfl⟩

end RaceBook
