import RaceBook.Proofs.Rating.CatchUp
import RaceBook.Proofs.Rating.Replay

/-!
# What is recorded of a close

* `Book.RatesClosed` : all snapshots are of closed periods;
* `Operation.SnapshotsFromCloses` : operations of which only closes take snapshots;
  `Operation.run_of_snapshotsFromCloses` : they keep what every event keeps but a snapshot taken by
  hand;
* `Book.Records` : a book holds what was told of a close, and answers with it;
  `Event.records_apply` : events keep it;
* `Book.Closes.records`, `Book.ClosesInTurn.records` : it is there after a close, and after several;
* `Book.Chained.closePeriod_none` : what a close without a number does;
* `close_recorded` : what was told of a close is told again, whatever happened since.
-/

namespace RaceBook

variable {R : Type} [Arithmetic R] {book later : Book R} {config : Config R} {found : Row Period}
  {endedAt : Moment} {s : ClosingSummary}

/-! ## Snapshots of closed periods -/

def Book.RatesClosed (book : Book R) : Prop :=
  ∀ t ∈ book.snapshots.rows, ∃ p,
    book.periods.find? t.data.period = some p ∧ p.data.status = .closed

namespace Event

variable {e : Event R}

/-- A snapshot that is not taken by hand is of a period that closes with it. -/
theorem ratesClosed_apply (he : e.Enabled book) (hhand : ∀ t, e ≠ snapshotTaken t)
    (h : book.RatesClosed) : (e.apply book).RatesClosed := by
  have hold : ∀ t ∈ book.snapshots.rows, ∃ p,
      (e.apply book).periods.find? t.data.period = some p ∧ p.data.status = .closed := by
    intro t ht
    obtain ⟨p, hp, hclosed⟩ := h t ht
    exact ⟨p, period_apply he hp hclosed, hclosed⟩
  intro t ht
  have hsnapshots := e.snapshots_apply book
  cases e with
  | snapshotTaken t => exact absurd rfl (hhand t)
  | periodClosed config found endedAt =>
    obtain ⟨added, hrows, -, hadded⟩ := book.exists_rows_closed config found endedAt
    rcases List.mem_append.1 (hrows ▸ ht) with ht | ht
    · exact hold t ht
    · rw [(hadded t ht).1]
      exact ⟨_, Book.find?_closed he, rfl⟩
  | _ =>
    rw [hsnapshots] at ht
    exact hold t ht

/-- The snapshots of a closed period stay as they are. -/
theorem snapshotsIn_apply (he : e.Enabled book) (hhand : ∀ t, e ≠ snapshotTaken t) {id : Int}
    {p : Row Period} (hp : book.periods.find? id = some p) (hclosed : p.data.status = .closed) :
    (e.apply book).snapshotsIn id = book.snapshotsIn id := by
  have hsnapshots := e.snapshots_apply book
  unfold Book.snapshotsIn
  cases e with
  | snapshotTaken t => exact absurd rfl (hhand t)
  | periodClosed config found endedAt =>
    obtain ⟨added, hrows, -, hadded⟩ := book.exists_rows_closed config found endedAt
    have hnone : added.filter (·.data.period = id) = [] := by
      refine List.filter_eq_nil_iff.2 fun t ht hid => he.notClosed ?_
      obtain rfl : found.id = id := (hadded t ht).1.symm.trans (of_decide_eq_true hid)
      rw [← Option.some.inj (hp.symm.trans he.known)]
      exact hclosed
    change sortedBy _ ((book.closed config found endedAt).snapshots.rows.filter _) = _
    rw [hrows, List.filter_append, hnone, List.append_nil]
  | _ => rw [hsnapshots]

theorem periodIds_prefix_apply (e : Event R) (book : Book R) :
    book.periods.rows.map (·.id) <+: (e.apply book).periods.rows.map (·.id) := by
  rw [periods_apply]
  cases e with
  | periodOpened now =>
    rw [Table.rows_append, List.map_append]
    exact List.prefix_append _ _
  | periodMarked found =>
    have hids : (book.marked found).periods.rows.map (·.id) = book.periods.rows.map (·.id) := by
      unfold Book.marked
      split
      · exact Table.map_rows_modify_of_stable fun _ => rfl
      · rfl
    exact hids.symm ▸ List.prefix_refl _
  | periodClosed config found endedAt =>
    rw [Table.rows_append, List.map_append, Table.map_rows_modify_of_stable fun _ => rfl]
    exact List.prefix_append _ _
  | _ => exact List.prefix_refl _

end Event

namespace Operation

omit [Arithmetic R] in
theorem eq_appendSnapshot_of_explains {op : Operation R} {t : Snapshot R}
    (h : op.Explains (.snapshotTaken t)) : op = .command (.appendSnapshot t) := by
  cases op with
  | command c => cases c <;> simp_all [Explains, Command.Explains]
  | _ => simp [Explains] at h

/-- Only closes take snapshots: a request to append one by hand leaves the book as it is. -/
def SnapshotsFromCloses : List (Operation R) → Book R → Prop
  | [], _ => True
  | op :: rest, book =>
    (∀ t, op = .command (.appendSnapshot t) → op.after book = book) ∧
      SnapshotsFromCloses rest (op.after book)

theorem snapshotsFromCloses_append {ops rest : List (Operation R)} :
    SnapshotsFromCloses (ops ++ rest) book ↔
      SnapshotsFromCloses ops book ∧ SnapshotsFromCloses rest (run ops book) := by
  induction ops generalizing book with
  | nil => exact (and_iff_right trivial).symm
  | cons op ops ih => exact (and_congr_right fun _ => ih).trans and_assoc.symm

/-- When only closes take snapshots, what is kept by every event but a snapshot taken by hand is
kept by all operations together. -/
theorem run_of_snapshotsFromCloses {P : Book R → Prop} {ops : List (Operation R)}
    (hops : SnapshotsFromCloses ops book)
    (hstep : ∀ book e, (∀ t, e ≠ .snapshotTaken t) → P book → Event.Enabled book e →
      P (e.apply book)) (h : P book) : P (run ops book) := by
  induction ops generalizing book with
  | nil => exact h
  | cons op rest ih =>
    obtain ⟨hhand, hrest⟩ := hops
    have hfirst : P (op.after book) := by
      by_cases happend : ∃ t, op = .command (.appendSnapshot t)
      · obtain ⟨t, ht⟩ := happend
        rwa [hhand t ht]
      · refine (op.steps_after book).invariant (fun mid e hexplained hP he => ?_) h
        refine hstep mid e ?_ hP he
        rintro t rfl
        exact happend ⟨t, eq_appendSnapshot_of_explains hexplained⟩
    exact ih hrest hfirst

theorem ratesClosed_run {ops : List (Operation R)} (hops : SnapshotsFromCloses ops .empty) :
    (run ops .empty : Book R).RatesClosed :=
  run_of_snapshotsFromCloses hops (fun _ _ hhand h he => Event.ratesClosed_apply he hhand h)
    fun _ ht => nomatch ht

end Operation

/-! ## The record of a close -/

namespace Book

/-- A book holds what was told of a close: the period with its span, the one opened in its place,
and as many snapshots as players were rated. -/
structure Records (book : Book R) (s : ClosingSummary) : Prop where
  period : book.periods.find? s.closed = some ⟨s.closed, .closed, s.startedAt, some s.endedAt⟩
  next : ∃ id, (book.nextPeriod? s.closed).map (·.id) = some id ∧ s.next = some id
  rated : (book.snapshotsIn s.closed).length = s.ratedPlayers

omit [Arithmetic R] in
/-- The period opened in the place of another one stays that. -/
theorem map_id_nextPeriod?_of_prefix
    (h : book.periods.rows.map (·.id) <+: later.periods.rows.map (·.id)) {id next : Int}
    (hnext : (book.nextPeriod? id).map (·.id) = some next) :
    (later.nextPeriod? id).map (·.id) = some next := by
  have hids : ∀ b : Book R, (b.nextPeriod? id).map (·.id) =
      (b.periods.rows.map (·.id)).find? (id < ·) := fun b => by rw [List.find?_map]; rfl
  rw [hids] at hnext ⊢
  exact h.find?_eq_some hnext

/-- A request to close the period again is answered by the record, and changes nothing. -/
theorem Records.closePeriod_eq (h : book.Records s) (config : Config R) (endedAt : Moment) :
    (Operation.closePeriod config (some s.closed) endedAt).perform book =
      .ok (.summary? (some { s with skippedPlayers := [], alreadyClosed := true })) book := by
  obtain ⟨id, hnext, hid⟩ := h.next
  have hrun : Session.closePeriod config (some s.closed) endedAt book =
      .ok (some (book.recordedSummary ⟨s.closed, .closed, s.startedAt, some s.endedAt⟩ s.endedAt))
        book :=
    Session.closePeriod_eq_ok.2
      (.inr ⟨_, .inl ⟨rfl, h.period⟩, .inr ⟨rfl, s.endedAt, rfl, rfl, rfl⟩⟩)
  refine Session.map_eq_ok.2 ⟨_, hrun, ?_⟩
  rw [recordedSummary, hnext, ← hid, h.rated]

end Book

theorem Event.records_apply {e : Event R} (he : e.Enabled book) (hhand : ∀ t, e ≠ .snapshotTaken t)
    (h : book.Records s) : (e.apply book).Records s := by
  obtain ⟨id, hnext, hid⟩ := h.next
  refine ⟨period_apply he h.period rfl, ⟨id, ?_, hid⟩, ?_⟩
  · exact Book.map_id_nextPeriod?_of_prefix (e.periodIds_prefix_apply book) hnext
  · rw [snapshotsIn_apply he hhand h.period rfl]
    exact h.rated

namespace Book

theorem Closes.records (h : book.Closes config found endedAt) (hchain : book.Chained)
    (hrates : book.RatesClosed) :
    (book.closed config found endedAt).Records (book.summary config found endedAt) := by
  refine ⟨find?_closed h, ⟨book.periods.nextId, ?_, rfl⟩, ?_⟩
  · obtain ⟨before, hrows⟩ := hchain.eq_append_of_notClosed (Table.mem_of_find? h.known) h.notClosed
    have hlater : (book.closed config found endedAt).periods.rows =
        before ++ ⟨found.id, found.data.ended endedAt⟩ ::
          ⟨book.periods.nextId, ⟨.opened, endedAt, none⟩⟩ :: [] := by
      rw [closed, Table.rows_append, Table.rows_modify_last hrows, Table.nextId_modify,
        List.append_assoc]
      rfl
    exact congrArg (Option.map (·.id)) (nextPeriod?_eq hlater)
  · obtain ⟨added, hrows, hdata, hadded⟩ := book.exists_rows_closed config found endedAt
    -- the period was not closed, so it had no snapshots before
    have hnone : book.snapshots.rows.filter (·.data.period = found.id) = [] := by
      refine List.filter_eq_nil_iff.2 fun t ht hid => ?_
      obtain ⟨p, hp, hclosed⟩ := hrates t ht
      rw [of_decide_eq_true hid, h.known, Option.some.injEq] at hp
      exact h.notClosed (hp ▸ hclosed)
    have hall : added.filter (·.data.period = found.id) = added :=
      List.filter_eq_self.2 fun t ht => decide_eq_true (hadded t ht).1
    have hlength := congrArg List.length hdata
    rw [List.length_map, List.length_map] at hlength
    refine (perm_sortedBy _).length_eq.trans ?_
    change ((book.closed config found endedAt).snapshots.rows.filter
      (·.data.period = found.id)).length = _
    rw [hrows, List.filter_append, hnone, hall, List.nil_append, hlength]
    rfl

theorem ClosesInTurn.records {length : Int} {now : Moment} {ss : List ClosingSummary}
    (h : book.ClosesInTurn config length now ss later) (hchain : book.Chained)
    (hrates : book.RatesClosed) :
    (∀ s, book.Records s → later.Records s) ∧ ∀ s ∈ ss, later.Records s := by
  induction h with
  | done book => exact ⟨fun _ h => h, fun _ hs => nomatch hs⟩
  | @close book later found stop rest _ hcloses _ ih =>
    have hhand : ∀ t, Event.periodClosed config found stop ≠ .snapshotTaken t := nofun
    obtain ⟨hkept, hrest⟩ := ih (hcloses.chained_closed hchain).1
      (Event.ratesClosed_apply (e := .periodClosed config found stop) hcloses hhand hrates)
    refine ⟨fun s hs => hkept s ?_, fun s hs => ?_⟩
    · exact Event.records_apply (e := .periodClosed config found stop) hcloses hhand hs
    · rcases List.mem_cons.1 hs with rfl | hs
      · exact hkept _ (hcloses.records hchain hrates)
      · exact hrest s hs

end Book

/-- The reply to an operation tells of a close, one that was asked for or one of those that were
due. -/
def Operation.Tells (op : Operation R) (book : Book R) (s : ClosingSummary) : Prop :=
  match op with
  | closePeriod .. => ∃ later, op.perform book = .ok (.summary? (some s)) later
  | closeElapsed .. => ∃ ss later, op.perform book = .ok (.summaries ss) later ∧ s ∈ ss
  | _ => False

/-- What is told of a new close is recorded with it. -/
theorem Operation.Tells.records {op : Operation R} (h : op.Tells book s)
    (hnew : s.alreadyClosed = false) (hchain : book.Chained) (hrates : book.RatesClosed) :
    (op.after book).Records s := by
  cases op with
  | closePeriod config period? endedAt =>
    obtain ⟨later, hrun⟩ := h
    rw [after_of_ok hrun]
    obtain ⟨_, hrun, hreply⟩ := Session.map_eq_ok.1 hrun
    cases hreply
    rcases Session.closePeriod_eq_ok.1 hrun with ⟨-, -, hnone, -⟩ |
      ⟨found, -, ⟨hcloses, hs, rfl⟩ | ⟨-, recorded, -, hs, -⟩⟩
    · cases hnone
    · cases hs
      exact hcloses.records hchain hrates
    · cases hs
      cases hnew
  | closeElapsed config now =>
    obtain ⟨ss, later, hrun, hs⟩ := h
    rw [after_of_ok hrun]
    obtain ⟨_, hrun, hreply⟩ := Session.map_eq_ok.1 hrun
    cases hreply
    rcases Session.closesInTurn_of_closeElapsed hrun with rfl | ⟨length, hturn⟩
    · cases hs
    · exact (hturn.records hchain hrates).2 s hs
  | _ => exact h.elim

/-! ## Closes without a number -/

/-- Without a number there is nothing to close when there is no period at all; else the one that is
not closed is closed now, or the request is refused. -/
theorem Book.Chained.closePeriod_none (h : book.Chained) (config : Config R) (endedAt : Moment) :
    (book.periods.rows = [] ∧
      (Operation.closePeriod config none endedAt).perform book = .ok (.summary? none) book) ∨
    ∃ found ∈ book.periods.rows, found.data.status ≠ .closed ∧
      (∀ p ∈ book.periods.rows, p.data.status ≠ .closed → p = found) ∧
      ((∃ fault later, (Operation.closePeriod config none endedAt).perform book =
          .error fault later) ∨
        book.Closes config found endedAt ∧
          (Operation.closePeriod config none endedAt).perform book =
            .ok (.summary? (some (book.summary config found endedAt)))
              (book.closed config found endedAt)) := by
  cases hlatest : book.latestPeriod? with
  | none =>
    refine .inl ⟨latestPeriod?_eq_none.1 hlatest, Session.map_eq_ok.2 ⟨none,
      Session.closePeriod_eq_ok.2 (.inl ⟨rfl, fun last hlast => ?_, rfl, rfl⟩), rfl⟩⟩
    cases hlatest.symm.trans hlast
  | some found =>
    have hrunning : found.data.status ≠ .closed := by
      rw [h.latestPeriod?_eq] at hlatest
      exact (h.lastRuns found hlatest).1
    have hfound := mem_of_latest? hlatest
    refine .inr ⟨found, hfound, hrunning,
      fun p hp hnot => h.eq_of_notClosed hp hfound hnot hrunning, ?_⟩
    cases hrun : (Operation.closePeriod config none endedAt).perform book with
    | error fault later => exact .inl ⟨fault, later, rfl⟩
    | ok reply later =>
      obtain ⟨_, hclose, rfl⟩ := Session.map_eq_ok.1 hrun
      rcases Session.closePeriod_eq_ok.1 hclose with ⟨-, hnothing, -⟩ | ⟨picked, hpicks, hdone⟩
      · exact absurd (hnothing found hlatest) hrunning
      · obtain rfl := h.eq_of_picks hfound hrunning (by rintro _ ⟨⟩) hpicks
        rcases hdone with ⟨hcloses, rfl, rfl⟩ | ⟨hclosed, -⟩
        · exact .inr ⟨hcloses, rfl⟩
        · exact absurd hclosed hrunning

/-- **What was told of a close is told again**, after any operations of which only closes take
snapshots. A close without a number closes the one period that is not closed, if there is any
period. -/
theorem close_recorded (ops : List (Operation R))
    (hops : Operation.SnapshotsFromCloses ops .empty) :
    (∀ before op rest, ops = before ++ op :: rest →
      ∀ s, op.Tells (Operation.run before .empty) s → s.alreadyClosed = false →
        let book := Operation.run ops .empty
        ∀ config endedAt,
          (Operation.closePeriod config (some s.closed) endedAt).perform book =
            .ok (.summary? (some { s with skippedPlayers := [], alreadyClosed := true })) book) ∧
    ∀ book : Book R, Reachable book → ∀ config endedAt,
      (∀ reply later,
        (Operation.closePeriod config none endedAt).perform book = .ok reply later →
          (reply = .summary? none ∧ later = book) ∨
            ∃ s, reply = .summary? (some s) ∧ s.alreadyClosed = false ∧
              ∃ found ∈ book.periods.rows, found.data.status ≠ .closed ∧
                (∀ p ∈ book.periods.rows, p.data.status ≠ .closed → p = found) ∧
                s.closed = found.id ∧ later.periods.find? found.id =
                  some ⟨found.id, .closed, found.data.startedAt, some endedAt⟩) ∧
      ((∃ later, (Operation.closePeriod config none endedAt).perform book =
          .ok (.summary? none) later) ↔ book.periods.rows = []) := by
  refine ⟨?_, fun book hbook config endedAt => ⟨fun reply later hrun => ?_, ?_⟩⟩
  · rintro before op rest rfl s htells hnew book config endedAt
    obtain ⟨hbefore, -, hrest⟩ := Operation.snapshotsFromCloses_append.1 hops
    have hrecords := htells.records hnew (Reachable.empty.run before).chained
      (Operation.ratesClosed_run hbefore)
    have hbook : book = Operation.run rest (op.after (Operation.run before .empty)) :=
      Operation.run_append
    have hkept : book.Records s := by
      rw [hbook]
      exact Operation.run_of_snapshotsFromCloses hrest
        (fun _ _ hhand h he => Event.records_apply he hhand h) hrecords
    exact hkept.closePeriod_eq config endedAt
  · rcases hbook.chained.closePeriod_none config endedAt with ⟨-, hnothing⟩ |
      ⟨found, hfound, hrunning, hunique, ⟨fault, mid, hfails⟩ | ⟨hcloses, hdone⟩⟩
    · cases hrun.symm.trans hnothing
      exact .inl ⟨rfl, rfl⟩
    · cases hrun.symm.trans hfails
    · cases hrun.symm.trans hdone
      exact .inr ⟨_, rfl, rfl, found, hfound, hrunning, hunique, rfl, Book.find?_closed hcloses⟩
  · rcases hbook.chained.closePeriod_none config endedAt with ⟨hrows, hnothing⟩ |
      ⟨found, hfound, -, -, ⟨fault, mid, hfails⟩ | ⟨-, hdone⟩⟩
    · exact iff_of_true ⟨book, hnothing⟩ hrows
    · refine iff_of_false ?_ (List.ne_nil_of_mem hfound)
      rintro ⟨later, hrun⟩
      cases hrun.symm.trans hfails
    · refine iff_of_false ?_ (List.ne_nil_of_mem hfound)
      rintro ⟨later, hrun⟩
      cases hrun.symm.trans hdone

section Rematch

open scoped Fractions

/-- After the rematch the close that rated both after the first race is told again, also as of a time
before it began, and a close without a number would not be one of nothing. -/
theorem close_recorded_rematch :
    ∃ s, (Operation.closePeriod .tolerant none (.ofTicks 8)).Tells
        (Operation.run (duelists Rat) .empty) s ∧
      s.alreadyClosed = false ∧ s.closed = 1 ∧ s.endedAt = .ofTicks 8 ∧ s.ratedPlayers = 2 ∧
      (Operation.closePeriod .tolerant (some s.closed) (.ofTicks 0)).perform
        (Operation.run (rematch Rat) .empty) =
          .ok (.summary? (some { s with skippedPlayers := [], alreadyClosed := true }))
            (Operation.run (rematch Rat) .empty) ∧
      ¬∃ later, (Operation.closePeriod .tolerant none (.ofTicks 15)).perform
        (Operation.run (rematch Rat) .empty) = .ok (.summary? none) later := by
  have hrun : (Session.closePeriod .tolerant none (.ofTicks 8)).yields
      (·.any fun s => s.alreadyClosed = false ∧ s.closed = 1 ∧ s.endedAt = .ofTicks 8 ∧
        s.ratedPlayers = 2)
      (Operation.run (duelists Rat) .empty) = true := by decide +kernel
  obtain ⟨s, later, hperform, htest⟩ := Operation.exists_summary_of_yields hrun
  obtain ⟨hnew, hclosed, hended, hrated⟩ := of_decide_eq_true htest
  have htells : (Operation.closePeriod .tolerant none (.ofTicks 8)).Tells
      (Operation.run (duelists Rat) .empty) s := ⟨later, hperform⟩
  have hops : Operation.SnapshotsFromCloses (rematch Rat) .empty := by
    simp [rematch, duelists, Operation.SnapshotsFromCloses]
  have hperiods : (Operation.run (rematch Rat) .empty).periods.rows ≠ [] := by decide +kernel
  obtain ⟨hagain, hnone⟩ := close_recorded (rematch Rat) hops
  exact ⟨s, htells, hnew, hclosed, hended, hrated,
    hagain (duelists Rat) _ _ rfl s htells hnew .tolerant _,
    fun h => hperiods ((hnone _ (Reachable.empty.run _) .tolerant _).2.1 h)⟩

end Rematch

end RaceBook
