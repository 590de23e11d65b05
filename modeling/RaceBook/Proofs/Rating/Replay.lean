import RaceBook.Proofs.Race.Ended
import RaceBook.Proofs.Rating.Chain
import RaceBook.Proofs.Rating.Simultaneous

/-!
# Ratings can be computed again

* `Book.entering?`, `Book.replayed` : the standing with which a player enters a period, and the
  rating update of that period, from what the book has now;
* `Book.Accounts` : the snapshots of a period are what this update gives;
* `Book.Replays` : they are so for every closed period; `Event.replays_apply` : every event keeps
  that, as long as snapshots come from closes under one configuration and no battle ends before the
  end of a closed period;
* `Operation.AllRespect` : operations of which this holds; `Operation.replays_run` : they keep it;
* `ratings_replayable` : so ratings can be computed again in every book that such operations lead
  to, and every battle that ended between the first period's start and the last one's is in one
  closed period.
-/

namespace RaceBook

variable {R : Type} [Arithmetic R] {book later : Book R} {config : Config R} {w : Window}
  {period player : Int}

namespace Book

/-- A player's snapshot of the latest period before another one. -/
def lastBefore? (book : Book R) (player period : Int) : Option (Row (Snapshot R)) :=
  latest? (·.data.period) ((book.snapshotsOf player).filter (·.data.period < period))

/-- The standing with which a player who was rated before enters a period. -/
def entering? (book : Book R) (config : Config R) (player period : Int) : Option (Standing R) :=
  (book.lastBefore? player period).map fun s =>
    { s.data.standing with deviation := config.glicko.clamp s.data.standing.deviation }

/-- A player's rating update of a period, from what the book has now. -/
def replayed (book : Book R) (config : Config R) (period : Int) (w : Window) (player : Int) :
    Except (Glicko.RatingFault R) (Standing R) :=
  rate config.glicko (some player) 1.0
    ((book.entering? config player period).getD config.glicko.initial)
    (book.matchupsBy config player w)

/-- What a player has of a period of the given span is what the book accounts for now: a snapshot
when they were rated before or had a matchup, and their volatility is found; and in it the standing
of the rating update, as the store keeps it, and the number of their matchups. -/
structure Accounts (book : Book R) (config : Config R) (period : Int) (w : Window) (player : Int) :
    Prop where
  rated_iff : (∃ s ∈ book.snapshots.rows, s.data.period = period ∧ s.data.player = player) ↔
    ((∃ s ∈ book.snapshots.rows, s.data.player = player ∧ s.data.period < period) ∨
      book.matchupsBy config player w ≠ []) ∧
    ¬∃ fault, book.replayed config period w player = .error fault ∧ fault.isDivergence = true
  rating : ∀ s ∈ book.snapshots.rows, s.data.period = period → s.data.player = player →
    s.data.createdAt = w.stop ∧
      s.data.matchupCount = (book.matchupsBy config player w).length ∧
      ∃ standing, book.replayed config period w player = .ok standing ∧
        s.data.standing = standing.stored

omit [Arithmetic R] in
theorem lastBefore?_of_rows {added : List (Row (Snapshot R))}
    (hrows : later.snapshots.rows = book.snapshots.rows ++ added)
    (hadded : ∀ s ∈ added, ¬s.data.period < period) :
    later.lastBefore? player period = book.lastBefore? player period := by
  have hnone : (added.filter (·.data.player = player)).filter (·.data.period < period) = [] := by
    rw [List.filter_eq_nil_iff]
    intro s hs
    simpa using hadded s (List.mem_of_mem_filter hs)
  rw [lastBefore?, lastBefore?, snapshotsOf, snapshotsOf, hrows, List.filter_append,
    List.filter_append, hnone, List.append_nil]

/-- Snapshots of later periods change nothing of an earlier one. -/
theorem Accounts.of_rows (h : book.Accounts config period w player)
    (hmatchups : later.matchupsBy config player w = book.matchupsBy config player w)
    {added : List (Row (Snapshot R))}
    (hrows : later.snapshots.rows = book.snapshots.rows ++ added)
    (hadded : ∀ s ∈ added, period < s.data.period) : later.Accounts config period w player := by
  have hlast : later.lastBefore? player period = book.lastBefore? player period :=
    lastBefore?_of_rows hrows fun s hs => by have := hadded s hs; omega
  have hreplayed : later.replayed config period w player =
      book.replayed config period w player := by
    rw [replayed, replayed, hmatchups, entering?, entering?, hlast]
  have hmem : ∀ s, s.data.period ≤ period →
      (s ∈ later.snapshots.rows ↔ s ∈ book.snapshots.rows) := by
    intro s hle
    rw [hrows, List.mem_append, or_iff_left]
    intro hs
    have := hadded s hs
    omega
  constructor
  · rw [hreplayed, hmatchups]
    refine Iff.trans ?_ (h.rated_iff.trans (and_congr_left fun _ => or_congr_left ?_))
    · exact exists_congr fun s => ⟨fun ⟨hs, hp, hq⟩ => ⟨(hmem s (by omega)).1 hs, hp, hq⟩,
        fun ⟨hs, hp, hq⟩ => ⟨(hmem s (by omega)).2 hs, hp, hq⟩⟩
    · exact exists_congr fun s => ⟨fun ⟨hs, hp, hq⟩ => ⟨(hmem s (by omega)).2 hs, hp, hq⟩,
        fun ⟨hs, hp, hq⟩ => ⟨(hmem s (by omega)).1 hs, hp, hq⟩⟩
  · intro s hs hperiod hplayer
    rw [hreplayed, hmatchups]
    exact h.rating s ((hmem s (by omega)).1 hs) hperiod hplayer

/-- The snapshots and the closed periods of a book fit together: every snapshot is dated by the end
of its period, they come in the order of the periods, and every period is accounted for. -/
structure Replays (book : Book R) (config : Config R) : Prop where
  chained : book.Chained
  dated : ∀ s ∈ book.snapshots.rows, ∃ p, book.periods.find? s.data.period = some p ∧
    p.data.status = .closed ∧ p.data.endedAt = some s.data.createdAt
  inOrder : book.snapshots.rows.Pairwise fun r s =>
    r.data.period ≤ s.data.period ∧ r.data.createdAt ≤ s.data.createdAt
  accounted : ∀ p ∈ book.periods.rows, p.data.status = .closed →
    ∀ endedAt, p.data.endedAt = some endedAt →
      ∀ player, book.Accounts config p.id (p.data.windowTo endedAt) player

end Book

/-! ## Events keep the account -/

namespace Event

variable {e : Event R}

/-- The event takes no snapshot but in a close under the configuration, and ends no battle before
the end of a closed period. -/
def Respects (config : Config R) (book : Book R) : Event R → Prop
  | snapshotTaken _ => False
  | periodClosed c _ _ => c = config
  | battleEnded _ _ now =>
    ∀ p ∈ book.periods.rows, ∀ endedAt, p.data.endedAt = some endedAt → endedAt ≤ now
  | _ => True

/-- The snapshots after an event that takes none but in a close. -/
theorem exists_rows_apply (hr : e.Respects config book) :
    ∃ added, (e.apply book).snapshots.rows = book.snapshots.rows ++ added ∧
      ∀ s ∈ added, ∃ found endedAt, e = .periodClosed config found endedAt ∧
        s.data.period = found.id ∧ s.data.createdAt = endedAt := by
  cases e with
  | snapshotTaken s => exact hr.elim
  | periodClosed c found endedAt =>
    obtain rfl : c = config := hr
    obtain ⟨added, hrows, -, hadded⟩ := book.exists_rows_closed c found endedAt
    exact ⟨added, hrows, fun s hs => ⟨found, endedAt, rfl, hadded s hs⟩⟩
  | _ =>
    refine ⟨[], ?_, fun _ hs => nomatch hs⟩
    rw [snapshots_apply]
    exact (List.append_nil _).symm

/-- The matchups in a window are the same after an event that ends no battle in it and takes no
snapshot before its end. -/
theorem matchupsBy_apply (h : e.Enabled book)
    (hnow : ∀ battle cancelled now, e = .battleEnded battle cancelled now → w.stop ≤ now)
    {added : List (Row (Snapshot R))}
    (hrows : (e.apply book).snapshots.rows = book.snapshots.rows ++ added)
    (hadded : ∀ s ∈ added, w.stop ≤ s.data.createdAt) :
    (e.apply book).matchupsBy config player w = book.matchupsBy config player w := by
  apply Book.matchups_congr (battlesIn_apply h hnow)
  · intro b hb
    obtain ⟨hb, hcovers⟩ := Book.mem_battlesIn.1 hb
    exact participantsOf_apply h (Table.find?_of_mem hb) (Window.covers_iff.1 hcovers).1
  · intro opponent time htime
    apply Book.latestSnapshot?_of_rows hrows
    intro s hs _ hle
    exact absurd (Nat.le_trans (hadded s hs) hle) (Nat.not_le.2 htime)

theorem accounts_apply (h : e.Enabled book) (hr : e.Respects config book) (hbook : book.Chained)
    {p : Row Period} (hp : p ∈ book.periods.rows) (hclosed : p.data.status = .closed)
    {endedAt : Moment} (hended : p.data.endedAt = some endedAt)
    (haccounts : book.Accounts config p.id (p.data.windowTo endedAt) player) :
    (e.apply book).Accounts config p.id (p.data.windowTo endedAt) player := by
  obtain ⟨added, hrows, hadded⟩ := exists_rows_apply hr
  -- what a close adds belongs to a later period
  have hlater : ∀ s ∈ added, p.id < s.data.period ∧ endedAt ≤ s.data.createdAt := by
    intro s hs
    obtain ⟨found, stop, rfl, hperiod, hcreated⟩ := hadded s hs
    obtain ⟨hid, -, ended, hended', -, hle⟩ :=
      hbook.before_of_closed hp hclosed (Table.mem_of_find? h.known) h.notClosed
    rw [hended, Option.some.injEq] at hended'
    subst hended'
    rw [hperiod, hcreated]
    exact ⟨hid, Nat.le_trans hle h.order⟩
  have hnow : ∀ battle cancelled now, e = .battleEnded battle cancelled now → endedAt ≤ now := by
    rintro battle cancelled now rfl
    exact hr p hp endedAt hended
  exact haccounts.of_rows (matchupsBy_apply h hnow hrows fun s hs => (hlater s hs).2) hrows
    fun s hs => (hlater s hs).1

end Event

/-! ## The account of a new closed period -/

section Close

variable {found : Row Period} {endedAt : Moment}

namespace Book

/-- Before a close all snapshots are of earlier periods and not later than its period's start. -/
theorem Replays.snapshots_before (h : book.Replays config) (hcloses : book.Closes config found endedAt)
    {s : Row (Snapshot R)} (hs : s ∈ book.snapshots.rows) :
    s.data.period < found.id ∧ s.data.createdAt ≤ endedAt := by
  obtain ⟨p, hp, hclosed, hended⟩ := h.dated s hs
  obtain ⟨hid, -, ended, hended', -, hle⟩ := h.chained.before_of_closed (Table.mem_of_find? hp)
    hclosed (Table.mem_of_find? hcloses.known) hcloses.notClosed
  rw [hended, Option.some.injEq] at hended'
  rw [Table.id_of_find? hp] at hid
  exact ⟨hid, hended' ▸ Nat.le_trans hle hcloses.order⟩

/-- A player enters a close with the standing that the book shows afterwards as the one before that
period. -/
theorem Replays.entering?_closed (h : book.Replays config)
    (hcloses : book.Closes config found endedAt) {added : List (Row (Snapshot R))}
    (hrows : later.snapshots.rows = book.snapshots.rows ++ added)
    (hadded : ∀ s ∈ added, s.data.period = found.id) :
    later.entering? config player found.id = book.prior? config player endedAt := by
  have hbefore : later.lastBefore? player found.id = book.lastBefore? player found.id :=
    lastBefore?_of_rows hrows fun s hs => by rw [hadded s hs]; exact Int.lt_irrefl _
  have hall : (book.snapshotsOf player).filter (·.data.period < found.id) =
      book.snapshotsOf player :=
    List.filter_eq_self.2 fun s hs =>
      decide_eq_true (h.snapshots_before hcloses (List.mem_of_mem_filter hs)).1
  have hall' : (book.snapshotsOf player).filter (·.data.createdAt ≤ endedAt) =
      book.snapshotsOf player :=
    List.filter_eq_self.2 fun s hs =>
      decide_eq_true (h.snapshots_before hcloses (List.mem_of_mem_filter hs)).2
  have hordered : (book.snapshotsOf player).Pairwise fun r s =>
      r.data.period ≤ s.data.period ∧ r.data.createdAt ≤ s.data.createdAt :=
    h.inOrder.sublist List.filter_sublist
  rw [entering?, prior?, hbefore, lastBefore?, latestSnapshot?_some, hall, hall',
    latest?_eq_getLast? (hordered.imp fun hle => hle.1),
    latest?_eq_getLast? (hordered.imp fun hle => hle.2)]

section

variable {added : List (Row (Snapshot R))}
  (hrows : (book.closed config found endedAt).snapshots.rows = book.snapshots.rows ++ added)
  (hadded : ∀ s ∈ added, s.data.period = found.id ∧ s.data.createdAt = endedAt)

include hrows hadded

theorem Replays.replayed_closed (h : book.Replays config)
    (hcloses : book.Closes config found endedAt) (player : Int) :
    (book.closed config found endedAt).matchupsBy config player (found.data.windowTo endedAt) =
        book.matchupsBy config player (found.data.windowTo endedAt) ∧
      (book.closed config found endedAt).replayed config found.id (found.data.windowTo endedAt)
          player =
        book.provisional config (found.data.windowTo endedAt) 1.0 player := by
  have hmatchups : (book.closed config found endedAt).matchupsBy config player
      (found.data.windowTo endedAt) = book.matchupsBy config player (found.data.windowTo endedAt) :=
    Event.matchupsBy_apply (e := .periodClosed config found endedAt) hcloses
      (fun _ _ _ he => nomatch he) hrows fun s hs => by
        rw [(hadded s hs).2]
        exact Nat.le_refl _
  refine ⟨hmatchups, ?_⟩
  rw [replayed, provisional, hmatchups,
    h.entering?_closed hcloses hrows fun s hs => (hadded s hs).1]
  rfl

theorem Replays.mem_added_iff (h : book.Replays config)
    (hcloses : book.Closes config found endedAt) {s : Row (Snapshot R)} :
    s ∈ (book.closed config found endedAt).snapshots.rows ∧ s.data.period = found.id ↔
      s ∈ added := by
  rw [hrows, List.mem_append]
  constructor
  · rintro ⟨hs, hperiod⟩
    refine hs.resolve_left fun hs => ?_
    have := (h.snapshots_before hcloses hs).1
    omega
  · intro hs
    exact ⟨.inr hs, (hadded s hs).1⟩

/-- The snapshots of earlier periods are those from before the close. -/
theorem Replays.rated_before_iff (h : book.Replays config)
    (hcloses : book.Closes config found endedAt) :
    (∃ s ∈ (book.closed config found endedAt).snapshots.rows,
        s.data.player = player ∧ s.data.period < found.id) ↔
      ∃ s ∈ book.snapshots.rows, s.data.player = player ∧ s.data.createdAt ≤ endedAt := by
  simp only [hrows, List.mem_append]
  constructor
  · rintro ⟨s, hs | hs, hplayer, hlt⟩
    · exact ⟨s, hs, hplayer, (h.snapshots_before hcloses hs).2⟩
    · rw [(hadded s hs).1] at hlt
      exact absurd hlt (Int.lt_irrefl _)
  · rintro ⟨s, hs, hplayer, -⟩
    exact ⟨s, .inl hs, hplayer, (h.snapshots_before hcloses hs).1⟩

end

/-- A close accounts for its own period. -/
theorem Replays.accounts_closed (h : book.Replays config)
    (hcloses : book.Closes config found endedAt) :
    (book.closed config found endedAt).Accounts config found.id (found.data.windowTo endedAt)
      player := by
  obtain ⟨added, hrows, hdata, hadded⟩ := book.exists_rows_closed config found endedAt
  obtain ⟨hmatchups, hreplayed⟩ := h.replayed_closed hrows hadded hcloses player
  have hrated : (∃ s ∈ (book.closed config found endedAt).snapshots.rows,
      s.data.period = found.id ∧ s.data.player = player) ↔
        ∃ t ∈ book.snapshotsOfClose config found endedAt, t.player = player := by
    simp only [← and_assoc, h.mem_added_iff hrows hadded hcloses]
    constructor
    · rintro ⟨s, hs, rfl⟩
      obtain ⟨t, ht, hst⟩ := exists_of_map_eq hdata hs
      exact ⟨t, ht, hst ▸ rfl⟩
    · rintro ⟨t, ht, rfl⟩
      obtain ⟨s, hs, hst⟩ := exists_of_map_eq hdata.symm ht
      exact ⟨s, hs, hst ▸ rfl⟩
  constructor
  · rw [hreplayed, hmatchups, hrated, h.rated_before_iff hrows hadded hcloses]
    exact hcloses.exists_mem_iff
  · intro s hs hperiod hplayer
    obtain ⟨t, ht, hst⟩ :=
      exists_of_map_eq hdata ((h.mem_added_iff hrows hadded hcloses).1 ⟨hs, hperiod⟩)
    obtain ⟨-, hcreated, hcount, hrate⟩ := of_mem_snapshotsOfClose ht
    have htplayer : t.player = player := by rw [← hplayer, hst]; rfl
    rw [hreplayed, hmatchups, hst, ← htplayer]
    exact ⟨hcreated, hcount, t.standing, hrate, rfl⟩

end Book

end Close

/-- Every event keeps the account of all closed periods, and a close adds that of one more. -/
theorem Event.replays_apply {e : Event R} (he : e.Enabled book) (hr : e.Respects config book)
    (h : book.Replays config) : (e.apply book).Replays config := by
  obtain ⟨added, hrows, hadded⟩ := exists_rows_apply hr
  refine ⟨chained_apply he h.chained, fun s hs => ?_, ?_, fun p hp hclosed ended hended player => ?_⟩
  · rw [hrows, List.mem_append] at hs
    rcases hs with hs | hs
    · obtain ⟨p, hp, hclosed, hended⟩ := h.dated s hs
      exact ⟨p, period_apply he hp hclosed, hclosed, hended⟩
    · obtain ⟨found, endedAt, rfl, hperiod, hcreated⟩ := hadded s hs
      rw [hperiod, hcreated]
      exact ⟨_, Book.find?_closed he, rfl, rfl⟩
  · rw [hrows, List.pairwise_append]
    -- all that is added is of one period, and everything before is earlier
    refine ⟨h.inOrder, List.pairwise_of_forall_mem_list fun r hrow s hs => ?_,
      fun r hrow s hs => ?_⟩
    · obtain ⟨found, endedAt, rfl, hrperiod, hrcreated⟩ := hadded r hrow
      obtain ⟨_, _, he', hsperiod, hscreated⟩ := hadded s hs
      cases he'
      rw [hrperiod, hrcreated, hsperiod, hscreated]
      exact ⟨Int.le_refl _, Nat.le_refl _⟩
    · obtain ⟨found, endedAt, rfl, hperiod, hcreated⟩ := hadded s hs
      obtain ⟨hlt, hle⟩ := h.snapshots_before he hrow
      rw [hperiod, hcreated]
      exact ⟨Int.le_of_lt hlt, hle⟩
  · rcases closed_of_apply he hp hclosed with hp | ⟨c, found, endedAt, rfl, rfl⟩
    · exact accounts_apply he hr h.chained hp hclosed hended (h.accounted p hp hclosed ended hended player)
    · obtain rfl : c = config := hr
      cases hended
      exact h.accounts_closed he

/-! ## Operations keep the account -/

theorem Event.Steps.closed_persists {allowed : Event R → Prop} (h : Steps allowed book later)
    {p : Row Period} (hp : p ∈ book.periods.rows) (hclosed : p.data.status = .closed) :
    p ∈ later.periods.rows :=
  Table.mem_of_find? <| h.invariant
    (P := fun book => book.periods.find? p.id = some p)
    (fun _ _ _ hp he => period_apply he hp hclosed) (Table.find?_of_mem hp)

theorem Event.Steps.replays {allowed : Event R → Prop} (h : Steps allowed book later)
    (hallowed : ∀ e book, allowed e → e.Respects config book ∨
      ∃ c found endedAt, e = .periodClosed c found endedAt)
    (hsame : ∀ p ∈ later.periods.rows, p.data.status = .closed → p ∈ book.periods.rows)
    (hbook : book.Replays config) : later.Replays config := by
  induction h using Relation.ReflTransGen.head_induction_on with
  | refl => exact hbook
  | @head book mid hstep hrest ih =>
    obtain ⟨e, ha, he, rfl⟩ := hstep
    have hr : e.Respects config book := by
      rcases hallowed e book ha with hr | ⟨c, found, endedAt, rfl⟩
      · exact hr
      · -- the period that it closes is closed in the end, but was not before
        have hclosed := Table.mem_of_find? (Book.find?_closed he)
        have hbefore := hsame _ (closed_persists hrest hclosed rfl) rfl
        have hrow := Table.eq_of_id_eq hbefore (Table.mem_of_find? he.known) rfl
        exact absurd (congrArg (·.data.status) hrow.symm) he.notClosed
    refine ih (fun p hp hclosed => ?_) (replays_apply he hr hbook)
    exact Table.mem_of_find? (period_apply he (Table.find?_of_mem (hsame p hp hclosed)) hclosed)

namespace Operation

/-- The operation takes a snapshot only in a close under the configuration, and ends a battle only
at a time that is not before the end of a closed period. -/
def Respects (config : Config R) (book : Book R) (op : Operation R) : Prop :=
  match op with
  | command (.appendSnapshot _) => op.after book = book
  | command (.concludeBattle _ now _) =>
    op.after book = book ∨
      ∀ p ∈ book.periods.rows, ∀ endedAt, p.data.endedAt = some endedAt → endedAt ≤ now
  | closePeriod c _ _ | closeElapsed c _ =>
    c = config ∨
      ∀ p ∈ (op.after book).periods.rows, p.data.status = .closed → p ∈ book.periods.rows
  | _ => True

def AllRespect (config : Config R) : List (Operation R) → Book R → Prop
  | [], _ => True
  | op :: rest, book => op.Respects config book ∧ AllRespect config rest (op.after book)

theorem replays_after {op : Operation R} (hr : op.Respects config book)
    (h : book.Replays config) : (op.after book).Replays config := by
  have hsteps := op.steps_after book
  have hfree (hall : ∀ e book, op.Explains e → e.Respects config book) :
      (op.after book).Replays config :=
    hsteps.invariant (fun book e he h hen => e.replays_apply hen (hall e book he) h) h
  cases op with
  | query q => exact hfree fun _ _ he => he.elim
  | openFirstPeriod now =>
    refine hfree ?_
    rintro _ _ rfl
    trivial
  | settle battle now =>
    refine hfree ?_
    rintro _ _ ⟨_, _, -, rfl⟩
    trivial
  | closePeriod c period? endedAt =>
    rcases hr with rfl | hsame
    · refine hfree ?_
      rintro _ _ (⟨_, rfl⟩ | ⟨_, rfl⟩)
      · trivial
      · rfl
    · refine hsteps.replays ?_ hsame h
      rintro _ _ (⟨_, rfl⟩ | ⟨_, rfl⟩)
      · exact .inl trivial
      · exact .inr ⟨_, _, _, rfl⟩
  | closeElapsed c now =>
    rcases hr with rfl | hsame
    · refine hfree ?_
      rintro _ _ (rfl | ⟨_, rfl⟩ | ⟨_, _, rfl⟩)
      · trivial
      · trivial
      · rfl
    · refine hsteps.replays ?_ hsame h
      rintro _ _ (rfl | ⟨_, rfl⟩ | ⟨_, _, rfl⟩)
      · exact .inl trivial
      · exact .inl trivial
      · exact .inr ⟨_, _, _, rfl⟩
  | command c =>
    cases c with
    | appendSnapshot s =>
      rw [show (command (.appendSnapshot s)).after book = book from hr]
      exact h
    | concludeBattle battle now cancelled =>
      rcases hr with hr | hends
      · rw [hr]
        exact h
      · -- no period changes on the way
        refine (hsteps.invariant
          (P := fun later => later.Replays config ∧ later.periods = book.periods)
          (fun later e he hlater hen => ?_) ⟨h, rfl⟩).1
        obtain rfl : e = .battleEnded battle cancelled now := he
        refine ⟨Event.replays_apply hen (fun p hp endedAt => ?_) hlater.1, hlater.2⟩
        exact hends p (hlater.2 ▸ hp) endedAt
    | _ =>
      refine hfree fun e _ he => ?_
      cases e <;> first | trivial | simp [Explains, Command.Explains] at he

theorem replays_run {ops : List (Operation R)} (hops : AllRespect config ops book)
    (h : book.Replays config) : (run ops book).Replays config := by
  induction ops generalizing book with
  | nil => exact h
  | cons op rest ih => exact ih hops.2 (replays_after hops.1 h)

end Operation

/-! ## The account of a whole run -/

namespace Book

theorem replays_empty : (empty : Book R).Replays config :=
  ⟨Reachable.empty.chained, fun _ hs => (nomatch hs), .nil, fun _ hp => nomatch hp⟩

/-- A closed period in whose span a battle ended. -/
def Rates (book : Book R) (p : Row Period) (b : Row Battle) : Prop :=
  p.data.status = .closed ∧
    ∃ endedAt, p.data.endedAt = some endedAt ∧ b ∈ book.battlesIn (p.data.windowTo endedAt)

omit [Arithmetic R] in
theorem rates_iff {p : Row Period} {b : Row Battle} {time : Moment} (hb : b ∈ book.battles.rows)
    (hterminal : b.data.status.isTerminal = true) (htime : b.data.concludedAt = some time) :
    book.Rates p b ↔ p.data.Holds time := by
  refine and_congr_right fun _ => exists_congr fun endedAt => and_congr_right fun _ => ?_
  rw [mem_battlesIn, Window.covers_iff]
  constructor
  · rintro ⟨-, -, _, hended, hstart, hstop⟩
    rw [htime] at hended
    cases hended
    exact ⟨hstart, hstop⟩
  · rintro ⟨hstart, hstop⟩
    exact ⟨hb, hterminal, time, htime, hstart, hstop⟩

end Book

/-- **Ratings can be computed again** from what the book has now, and every battle that ended
between the start of the first period and that of the last is rated by exactly one closed period. -/
theorem ratings_replayable (config : Config R) (ops : List (Operation R))
    (hops : Operation.AllRespect config ops .empty) :
    let book := Operation.run ops .empty
    (∀ p ∈ book.periods.rows, p.data.status = .closed → ∃ endedAt,
      p.data.endedAt = some endedAt ∧
        ∀ player, book.Accounts config p.id (p.data.windowTo endedAt) player) ∧
    ∀ first ∈ book.periods.rows.head?, ∀ last ∈ book.periods.rows.getLast?,
      last.data.status ≠ .closed ∧
        ∀ b ∈ book.battles.rows, b.data.status.isTerminal = true → ∀ time,
          b.data.concludedAt = some time → first.data.startedAt ≤ time →
            time < last.data.startedAt → ∃ p ∈ book.periods.rows, book.Rates p b ∧
              ∀ q ∈ book.periods.rows, book.Rates q b → q = p := by
  intro book
  have h : book.Replays config := Operation.replays_run hops Book.replays_empty
  refine ⟨fun p hp hclosed => ?_, fun first hfirst last hlast => ⟨(h.chained.lastRuns last hlast).1,
    fun b hb hterminal time htime hstart hstop => ?_⟩⟩
  · obtain ⟨endedAt, hended⟩ := h.chained.exists_endedAt hp hclosed
    exact ⟨endedAt, hended, h.accounted p hp hclosed endedAt hended⟩
  · obtain ⟨p, hp, hholds, hunique⟩ := h.chained.existsUnique_window hfirst hlast hstart hstop
    have hrates := fun q => Book.rates_iff (p := q) hb hterminal htime
    exact ⟨p, hp, (hrates p).2 hholds, fun q hq hq' => hunique q hq ((hrates q).1 hq')⟩

/-- The race of two, another one after the close of its period, and the close of the next period. -/
def rematch (R : Type) [Arithmetic R] : List (Operation R) :=
  duelists R ++
    [.closePeriod .tolerant none (.ofTicks 8),
      .command (.createBattle "loop" (.ofTicks 11) (.ofTicks 9)),
      .command (.addParticipant 2 1 0),
      .command (.addParticipant 2 2 1),
      .command (.reportResult 2 2 ⟨some 650, false⟩),
      .command (.concludeBattle 2 (.ofTicks 10) false),
      .closePeriod .tolerant none (.ofTicks 12)]

section Rematch

open scoped Fractions

/-- After the rematch both closed periods, in each of which both were rated for one matchup, are
accounted for, and the second race is rated by the second one only. -/
theorem ratings_replayable_rematch :
    let book := Operation.run (rematch Rat) .empty
    Operation.AllRespect .tolerant (rematch Rat) .empty ∧
      book.snapshots.rows.map (fun s => (s.data.period, s.data.player, s.data.matchupCount)) =
        [(1, 1, 1), (1, 2, 1), (2, 1, 1), (2, 2, 1)] ∧
      (∀ player, book.Accounts .tolerant 1 ⟨.ofTicks 1, .ofTicks 8⟩ player) ∧
      (∀ player, book.Accounts .tolerant 2 ⟨.ofTicks 8, .ofTicks 12⟩ player) ∧
      ∃ b ∈ book.battles.rows, b.id = 2 ∧ ∃ p ∈ book.periods.rows, p.id = 2 ∧ book.Rates p b ∧
        ∀ q ∈ book.periods.rows, book.Rates q b → q = p := by
  have hends {book : Book Rat} {now : Moment}
      (hall : (book.periods.rows.all fun p => p.data.endedAt.all (· ≤ now)) = true) :
      ∀ p ∈ book.periods.rows, ∀ endedAt, p.data.endedAt = some endedAt → endedAt ≤ now := by
    intro p hp endedAt hended
    have hle := List.all_eq_true.1 hall p hp
    rw [hended] at hle
    exact of_decide_eq_true hle
  have hops : Operation.AllRespect .tolerant (rematch Rat) .empty := by
    simp only [rematch, duelists, List.cons_append, List.nil_append, Operation.AllRespect,
      Operation.Respects, true_and, and_true, true_or]
    exact ⟨.inr (hends (by decide +kernel)), .inr (hends (by decide +kernel))⟩
  obtain ⟨hsnapshots, hperiods, hbattle⟩ :
      (Operation.run (rematch Rat) .empty).snapshots.rows.map
          (fun s => (s.data.period, s.data.player, s.data.matchupCount)) =
        [(1, 1, 1), (1, 2, 1), (2, 1, 1), (2, 2, 1)] ∧
      (Operation.run (rematch Rat) .empty).periods.rows =
        [⟨1, .closed, .ofTicks 1, some (.ofTicks 8)⟩,
          ⟨2, .closed, .ofTicks 8, some (.ofTicks 12)⟩, ⟨3, .opened, .ofTicks 12, none⟩] ∧
      (Operation.run (rematch Rat) .empty).battles.rows.getLast? =
        some ⟨2, "loop", .concluded, .ofTicks 9, .ofTicks 11, some (.ofTicks 10)⟩ := by
    decide +kernel
  obtain ⟨haccounts, hrates⟩ := ratings_replayable .tolerant (rematch Rat) hops
  rw [hperiods, List.forall_mem_cons, List.forall_mem_cons] at haccounts
  obtain ⟨hfirst, hsecond, -⟩ := haccounts
  obtain ⟨_, hended, hfirst⟩ := hfirst rfl
  cases hended
  obtain ⟨_, hended, hsecond⟩ := hsecond rfl
  cases hended
  have hb := List.mem_of_getLast? hbattle
  obtain ⟨-, hrated⟩ := hrates _ (by rw [hperiods]; rfl) _ (by rw [hperiods]; rfl)
  obtain ⟨p, hp, hholds, hunique⟩ := hrated _ hb rfl _ rfl (by decide) (by decide)
  have hsame := hunique ⟨2, .closed, .ofTicks 8, some (.ofTicks 12)⟩ (by rw [hperiods]; simp)
    ((Book.rates_iff hb rfl rfl).2 ⟨rfl, _, rfl, by decide, by decide⟩)
  exact ⟨hops, hsnapshots, hfirst, hsecond, _, hb, rfl, p, hp, hsame ▸ rfl, hholds, hunique⟩

end Rematch

end RaceBook
