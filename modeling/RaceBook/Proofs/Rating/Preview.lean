import RaceBook.Proofs.Rating.Cache
import RaceBook.Proofs.Rating.Succession

/-!
# Previews and closes

* `Session.preview_eq` : what a preview answers while a period is open;
* `Book.HandsOver` : the snapshot that a close hands to the store when a player's turn comes;
* `Book.Closes.handsOver` : it holds the player's standing as the book before the close gives it;
* `preview_agrees_with_close` : when a whole period is over, that is what a preview answers.
-/

namespace RaceBook

variable {R : Type} [Arithmetic R] {book later : Book R} {config : Config R} {player : Int}
  {found : Row Period} {now : Moment}

/-! ## What a preview answers -/

/-- While a period is open, a preview answers the standing after the elapsed part of it. -/
theorem Session.preview_eq {p : Row (Player R)} {length : Int} {fraction : R}
    (hplayer : book.players.find? player = some p) (hopen : book.openPeriods = [found])
    (hlength : config.periodLength = .ok length)
    (hfraction : elapsedFraction found.data.startedAt now length = .ok fraction) :
    preview config player now book =
      match book.provisional config (found.data.windowTo now) fraction player with
      | .ok standing => .ok standing book
      | .error fault => .error (.rating fault) book := by
  have hfound : Session.player player book = .ok p book := player_eq_ok.2 ⟨hplayer, rfl⟩
  have hperiod : openPeriod? book = .ok (some found) book := openPeriod?_eq_ok.2 ⟨hopen, rfl⟩
  have hdays : (liftM config.periodLength : Session R Int) book = .ok length book :=
    liftNumber_eq_ok.2 ⟨hlength, rfl⟩
  have hpart : (liftM (elapsedFraction (R := R) found.data.startedAt now length) : Session R R) book =
      .ok fraction book := liftNumber_eq_ok.2 ⟨hfraction, rfl⟩
  simp only [preview, bind, EStateM.bind, hfound, hperiod, hdays, hpart]
  change (liftM (book.provisional config (found.data.windowTo now) fraction player) : Session R _)
    book = _
  cases book.provisional config (found.data.windowTo now) fraction player <;> rfl

theorem Operation.perform_preview_eq {p : Row (Player R)} {length : Int} {fraction : R}
    (hplayer : book.players.find? player = some p) (hopen : book.openPeriods = [found])
    (hlength : config.periodLength = .ok length)
    (hfraction : elapsedFraction found.data.startedAt now length = .ok fraction) :
    (Operation.query (.preview config player now)).perform book =
      match book.provisional config (found.data.windowTo now) fraction player with
      | .ok standing => .ok (.standing standing) book
      | .error fault => .error (.rating fault) book := by
  change Session.atomically (Reply.standing <$> Session.preview config player now) book = _
  simp only [Session.atomically, Functor.map, EStateM.map,
    Session.preview_eq hplayer hopen hlength hfraction]
  cases book.provisional config (found.data.windowTo now) fraction player <;> rfl

namespace Book

omit [Arithmetic R] in
theorem RefersToKnown.isPlayer_of_isDue {w : Window} (hbook : book.RefersToKnown)
    (h : book.IsDue config w player) : (book.players.find? player).isSome = true := by
  rcases h with ⟨s, hs, rfl, -⟩ | hmatchups
  · exact hbook.rated s hs
  · obtain ⟨b, -, p, hp, rfl⟩ := mem_participantsIn.1 (mem_participantsIn_of_matchups hmatchups)
    exact hbook.racing p (List.mem_of_mem_filter hp)

omit [Arithmetic R] in
theorem Chained.openPeriods_of_opened (h : book.Chained) (hfound : found ∈ book.periods.rows)
    (hopened : found.data.status = .opened) : book.openPeriods = [found] := by
  obtain ⟨before, hrows⟩ := h.eq_append_of_notClosed hfound (by rw [hopened]; decide)
  rw [h.openPeriods_eq, hrows, List.getLast?_concat]
  simp [hopened, Option.filter]

omit [Arithmetic R] in
theorem Chained.latestPeriod?_of_opened (h : book.Chained) (hfound : found ∈ book.periods.rows)
    (hopened : found.data.status = .opened) : book.latestPeriod? = some found :=
  h.latestPeriod?_of_notClosed hfound (by rw [hopened]; decide)

omit [Arithmetic R] in
theorem Chained.picks_of_opened (h : book.Chained) (hfound : found ∈ book.periods.rows)
    (hopened : found.data.status = .opened) {period? : Option Int}
    (hperiod : ∀ id ∈ period?, id = found.id) {picked : Row Period}
    (hpicks : book.Picks period? picked) : picked = found :=
  h.eq_of_picks hfound (by rw [hopened]; decide) hperiod hpicks

/-! ## What a close hands to the store -/

/-- When the player's turn comes in the close of the period, a snapshot with this standing and this
number of matchups is appended for them. -/
def HandsOver (book : Book R) (config : Config R) (found : Row Period) (endedAt : Moment)
    (player : Int) (standing : Standing R) (count : Nat) : Prop :=
  ∃ before after tally mid row next,
    book.candidates (found.data.windowTo endedAt) = before ++ player :: after ∧
    before.foldlM (Session.closePlayer config found.id (found.data.windowTo endedAt)) ⟨0, []⟩
      (book.marked found) = .ok tally mid ∧
    mid.assess config (found.data.windowTo endedAt) player = .ok (.rated standing count) ∧
    Session.appendSnapshot ⟨found.id, player, standing, count, endedAt⟩ mid = .ok row next ∧
    Session.closePlayer config found.id (found.data.windowTo endedAt) tally player mid =
      .ok { tally with rated := tally.rated + 1 } next

/-- The standing handed over for a player is the one that the book before the close gives. -/
theorem Closes.handsOver (h : book.Closes config found now) {standing : Standing R}
    (hdue : book.IsDue config (found.data.windowTo now) player)
    (hrate : book.provisional config (found.data.windowTo now) 1.0 player = .ok standing) :
    book.HandsOver config found now player standing
      (book.matchupsBy config player (found.data.windowTo now)).length := by
  obtain ⟨before, after, hsplit⟩ := List.append_of_mem (mem_candidates_of_isDue hdue)
  obtain ⟨hd, hplayer⟩ : before.Nodup ∧ player ∉ before := by
    have hd : (book.candidates (found.data.windowTo now)).Nodup := nodup_candidates
    rw [hsplit, List.nodup_append] at hd
    exact ⟨hd.1, fun hmem => hd.2.2 player hmem player List.mem_cons_self rfl⟩
  have horder : (before ++ player :: after).Perm
      ((book.marked found).candidates (found.data.windowTo now)) := by
    rw [candidates_marked, hsplit]
  obtain ⟨tally', ss, hrun, -⟩ := ((closes_marked h.known h.notClosed).2 h).foldlM_perm horder
  change (before ++ player :: after).foldlM
    (Session.closePlayer config found.id (found.data.windowTo now)) _ _ = _ at hrun
  rw [List.foldlM_append, Session.bind_eq_ok] at hrun
  obtain ⟨tally, mid, hbefore, hrest⟩ := hrun
  rw [List.foldlM_cons, Session.bind_eq_ok] at hrest
  obtain ⟨tally'', next, hstep, -⟩ := hrest
  -- what is found for the player is what was found before the first turn
  have hassess : mid.assess config (found.data.windowTo now) player =
      .ok (.rated standing (book.matchupsBy config player (found.data.windowTo now)).length) := by
    obtain ⟨-, -, -, rfl⟩ := (Session.foldlM_closePlayer_eq_ok hd).1 hbefore
    rw [assess_withSnapshots, assess_marked, assess_of_isDue hdue, hrate]
    intro s hs
    obtain ⟨hmem, hs⟩ := mem_closingSnapshots.1 hs
    obtain ⟨-, -, hstop⟩ := of_closingSnapshot?_eq_some hs
    exact ⟨hstop, fun he => hplayer (he ▸ hmem)⟩
  have hsnapshot : mid.closingSnapshot? config found.id (found.data.windowTo now) player =
      some ⟨found.id, player, standing,
        (book.matchupsBy config player (found.data.windowTo now)).length, now⟩ := by
    rw [closingSnapshot?, hassess]
    rfl
  have hskips : mid.skips config (found.data.windowTo now) player = false := by
    rw [skips, hassess]
  obtain ⟨-, htakes, htally, hnext⟩ := Session.closePlayer_eq_ok.1 hstep
  rw [hsnapshot] at htakes htally hnext
  have hpast : tally'' = { tally with rated := tally.rated + 1 } := by simpa [hskips] using htally
  exact ⟨before, after, tally, mid, _, next, hsplit, hbefore, hassess,
    Session.appendSnapshot_eq_ok.2 ⟨htakes _ rfl, rfl, hnext⟩, hpast ▸ hstep⟩

/-- What a close took of a player is a new row, and their latest snapshot if none of theirs was made
later than the close. -/
theorem exists_row_closed {s : Snapshot R} (hs : s ∈ book.snapshotsOfClose config found now) :
    ∃ row ∈ (book.closed config found now).snapshots.rows, row ∉ book.snapshots.rows ∧
      row.data = s.stored ∧
      ((∀ t ∈ book.snapshots.rows, t.data.player = s.player → t.data.createdAt ≤ now) →
        (book.closed config found now).IsLatest s.player row) := by
  obtain ⟨added, hrows, hdata, hof⟩ := book.exists_rows_closed config found now
  obtain ⟨row, hrow, hstored⟩ := exists_of_map_eq hdata.symm hs
  obtain ⟨-, hcreated⟩ := hof row hrow
  have hids := (book.closed config found now).snapshots.pairwise_ids
  rw [hrows, List.pairwise_append] at hids
  have hnew : ∀ t ∈ book.snapshots.rows, t.id < row.id := fun t ht => hids.2.2 t ht row hrow
  have honce : (added.map (·.data.player)).Nodup := by
    have hplayers := congrArg (List.map (·.player)) hdata
    rw [List.map_map, List.map_map] at hplayers
    exact hplayers ▸ nodup_snapshotsOfClose
  have hmem : row ∈ (book.closed config found now).snapshots.rows :=
    hrows ▸ List.mem_append_right _ hrow
  refine ⟨row, hmem, fun hold => Int.lt_irrefl _ (hnew row hold), hstored.symm, fun hearlier => ?_⟩
  refine ⟨hmem, by rw [← hstored, Snapshot.player_stored], fun t ht hplayer => ?_⟩
  rw [hrows, List.mem_append] at ht
  rw [hcreated]
  rcases ht with ht | ht
  · exact (Moment.lt_or_eq_of_le (hearlier t ht hplayer)).imp_right
      fun heq => ⟨heq, Int.le_of_lt (hnew t ht)⟩
  · have hsame : t.data.player = row.data.player := by
      rw [hplayer, ← hstored, Snapshot.player_stored]
    rw [List.inj_on_of_nodup_map honce ht hrow hsame]
    exact .inr ⟨hcreated, Int.le_refl _⟩

end Book

/-- **A preview agrees with the close**: once a whole period is over it answers what a close at that
time hands to the store, and diverges just when that close skips the player. -/
theorem preview_agrees_with_close (hbook : Reachable book) (config : Config R) (now : Moment)
    (player : Int) (hfound : found ∈ book.periods.rows) (hopened : found.data.status = .opened)
    {length : Int} (hlength : config.periodLength = .ok length)
    (hover : elapsedFraction found.data.startedAt now length = .ok (1.0 : R))
    (hdue : book.IsDue config (found.data.windowTo now) player)
    {period? : Option Int} (hperiod : ∀ id ∈ period?, id = found.id) {reply : Reply R}
    (hclose : (Operation.closePeriod config period? now).perform book = .ok reply later) :
    ∃ summary, reply = .summary? (some summary) ∧ summary.closed = found.id ∧
      (player ∉ summary.skippedPlayers → ∃ standing count,
        (Operation.query (.preview config player now)).perform book =
          .ok (.standing standing) book ∧
        book.HandsOver config found now player standing count ∧
        (∃ row ∈ later.snapshots.rows, row ∉ book.snapshots.rows ∧ row.data =
          Snapshot.stored ⟨found.id, player, standing, count, now⟩) ∧
        ((∀ t ∈ book.snapshots.rows, t.data.player = player → t.data.createdAt ≤ now) →
          (Operation.query (.currentStanding player)).perform later =
            .ok (.standing standing.stored) later)) ∧
      (player ∈ summary.skippedPlayers ↔ ∃ fault, fault.isDivergence = true ∧
        (Operation.query (.preview config player now)).perform book =
          .error (.rating fault) book) := by
  have hlater : Reachable later := by
    have hafter : (Operation.closePeriod config period? now).after book = later := by
      rw [Operation.after, Session.after, hclose]
    exact hafter ▸ hbook.step _
  obtain ⟨p, hp⟩ := Option.isSome_iff_exists.1 (hbook.refersToKnown.isPlayer_of_isDue hdue)
  have hpreview := Operation.perform_preview_eq hp
    (hbook.chained.openPeriods_of_opened hfound hopened) hlength hover
  obtain ⟨summary?, hrun, rfl⟩ := Session.map_eq_ok.1 hclose
  rcases Session.closePeriod_eq_ok.1 hrun with ⟨-, hnothing, -⟩ | ⟨picked, hpicks, hdone⟩
  · have hclosed := hnothing found (hbook.chained.latestPeriod?_of_opened hfound hopened)
    rw [hopened] at hclosed
    cases hclosed
  obtain rfl := hbook.chained.picks_of_opened hfound hopened hperiod hpicks
  rcases hdone with ⟨hcloses, rfl, rfl⟩ | ⟨hclosed, -⟩
  · refine ⟨_, rfl, rfl, fun hrated => ?_, ?_⟩
    · have hconverges : ¬book.Diverges config (picked.data.windowTo now) player :=
        fun hdiverges => hrated (Book.Closes.mem_skipped_iff.2 ⟨hdue, hdiverges⟩)
      obtain ⟨s, hs, rfl⟩ := hcloses.exists_mem_iff.2 ⟨hdue, hconverges⟩
      obtain ⟨hid, hcreated, hcount, hrate⟩ := Book.of_mem_snapshotsOfClose hs
      rw [hrate] at hpreview
      obtain ⟨row, hrow, hnew, hdata, hlatest⟩ := Book.exists_row_closed hs
      refine ⟨s.standing, _, hpreview, hcloses.handsOver hdue hrate, ⟨row, hrow, hnew, ?_⟩,
        fun hearlier => ?_⟩
      · rw [hdata, ← hcount, ← hid, ← hcreated]
      · rw [hlater.currentStanding_eq (hlatest hearlier), hdata]
        rfl
    · rw [Book.Closes.mem_skipped_iff, and_iff_right hdue, Book.Diverges, hpreview]
      cases book.provisional config (picked.data.windowTo now) 1.0 player with
      | ok standing => simp
      | error fault => simp [and_comm]
  · rw [hopened] at hclosed
    cases hclosed

section Resting

open scoped Fractions

/-- A player with a snapshot at the start of an open period, who does not race in it. -/
def resting : List (Operation Rat) :=
  let key := String.ofList (List.replicate 64 'a')
  [.openFirstPeriod (.ofTicks 3), .closePeriod .standard none (.ofTicks 4),
    .command (.register key "Ann" ⟨1500, 350, 0.06⟩),
    .command (.appendSnapshot ⟨1, 1, ⟨1620, 173.7178 * 0.3, 0.4⟩, 4, .ofTicks 4⟩)]

/-- After a day the deviation has grown from 0.3 to 0.5 on the inner scale, which the preview says
and the close writes. -/
theorem preview_agrees_with_close_resting :
    ∃ summary later, (Operation.closePeriod .standard none (.ofTicks 86400000004)).perform
        (Operation.run resting .empty) = .ok (.summary? (some summary)) later ∧
      summary.ratedPlayers = 1 ∧
      (Operation.query (.preview .standard 1 (.ofTicks 86400000004))).perform
        (Operation.run resting .empty) =
          .ok (.standing ⟨1620, 173.7178 * 0.5, 0.4⟩) (Operation.run resting .empty) ∧
      (Operation.query (.currentStanding 1)).perform later =
        .ok (.standing (Standing.stored ⟨1620, 173.7178 * 0.5, 0.4⟩)) later := by
  have hclose : (Session.closePeriod .standard none (.ofTicks 86400000004)).yields
      (·.any fun summary => summary.ratedPlayers = 1 ∧ summary.skippedPlayers = [])
      (Operation.run resting .empty) = true := by decide +kernel
  obtain ⟨summary, later, hperform, htest⟩ := Operation.exists_summary_of_yields hclose
  obtain ⟨hrated, hskipped⟩ := of_decide_eq_true htest
  obtain ⟨hperiods, hsnapshots⟩ : (Operation.run resting .empty).periods.rows =
        [⟨1, .closed, .ofTicks 3, some (.ofTicks 4)⟩, ⟨2, .opened, .ofTicks 4, none⟩] ∧
      (Operation.run resting .empty).snapshots.rows =
        [⟨1, 1, 1, ⟨1620, 173.7178 * 0.3, 0.4⟩, 4, .ofTicks 4⟩] := by decide +kernel
  have hfound : (⟨2, .opened, .ofTicks 4, none⟩ : Row Period) ∈
      (Operation.run resting .empty).periods.rows := by
    rw [hperiods]
    exact List.mem_cons_of_mem _ List.mem_cons_self
  have hdue : (Operation.run resting .empty).IsDue .standard
      ⟨.ofTicks 4, .ofTicks 86400000004⟩ 1 :=
    .inl ⟨_, hsnapshots ▸ List.mem_cons_self, rfl, by decide⟩
  have hshown : (Session.preview .standard 1 (.ofTicks 86400000004)).yields
      (· = ⟨1620, 173.7178 * 0.5, 0.4⟩) (Operation.run resting .empty) = true := by decide +kernel
  obtain ⟨shown, mid, hpreview, hshown⟩ := Session.exists_of_yields hshown
  obtain rfl := of_decide_eq_true hshown
  have hlength : (Config.standard : Config Rat).periodLength = .ok 86400000000 := by decide +kernel
  obtain ⟨_, hreply, -, hagrees, -⟩ := preview_agrees_with_close (Reachable.empty.run resting)
    .standard (.ofTicks 86400000004) 1 hfound rfl hlength (by decide +kernel) hdue
    (by rintro _ ⟨⟩) hperform
  cases hreply
  obtain ⟨standing, count, hagrees, -, -, hcurrent⟩ := hagrees (hskipped ▸ List.not_mem_nil)
  obtain ⟨_, hrun, hstanding⟩ := Session.map_eq_ok.1 (Session.atomically_eq_ok.1 hagrees)
  cases hstanding
  cases hpreview.symm.trans hrun
  refine ⟨summary, later, hperform, hrated, hagrees, hcurrent fun t ht _ => ?_⟩
  rw [hsnapshots, List.mem_singleton] at ht
  rw [ht]
  decide

end Resting

end RaceBook
