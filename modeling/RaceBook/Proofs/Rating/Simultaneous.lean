import RaceBook.Proofs.Glicko.Exact
import RaceBook.Proofs.Operations

/-!
# A close rates everyone at once

* `Book.IsDue` : who was rated by the end of a period or had a matchup in it;
* `Book.Diverges` : whose new volatility is not found;
* `Book.closingSnapshot?_eq_some`, `Book.skips_iff` : what a close takes of a player, and whom it
  skips, in these terms;
* `Book.cached_withSnapshots` : snapshots that are the latest of their players are their caches;
* `Book.RatesAtOnce` : what a close did, told by the book before it;
* `closePeriod_simultaneous` : every close of a period does that, whatever the order of the players.
-/

namespace RaceBook

variable {R : Type} [Arithmetic R] {book later : Book R} {config : Config R} {w : Window}
  {player : Int}

namespace Book

/-- The player was rated by the end of the period or had a matchup in it. -/
def IsDue (book : Book R) (config : Config R) (w : Window) (player : Int) : Prop :=
  (∃ s ∈ book.snapshots.rows, s.data.player = player ∧ s.data.createdAt ≤ w.stop) ∨
    book.matchupsBy config player w ≠ []

/-- The player's volatility after the period is not found. -/
def Diverges (book : Book R) (config : Config R) (w : Window) (player : Int) : Prop :=
  ∃ fault, book.provisional config w 1.0 player = .error fault ∧ fault.isDivergence = true

omit [Arithmetic R] in
theorem latestSnapshot?_isSome {time : Moment} :
    (book.latestSnapshot? player (some time)).isSome = true ↔
      ∃ s ∈ book.snapshots.rows, s.data.player = player ∧ s.data.createdAt ≤ time := by
  rw [Option.isSome_iff_ne_none, Ne, latestSnapshot?_some, latest?_eq_none]
  constructor
  · intro hne
    obtain ⟨s, hs⟩ := List.exists_mem_of_ne_nil _ hne
    obtain ⟨hs, hle⟩ := List.mem_filter.1 hs
    obtain ⟨hs, hplayer⟩ := List.mem_filter.1 hs
    exact ⟨s, hs, of_decide_eq_true hplayer, of_decide_eq_true hle⟩
  · rintro ⟨s, hs, hplayer, hle⟩
    have hof : s ∈ book.snapshotsOf player := List.mem_filter.2 ⟨hs, decide_eq_true hplayer⟩
    exact List.ne_nil_of_mem (List.mem_filter.2 ⟨hof, decide_eq_true hle⟩)

theorem not_isDue_iff :
    ((book.prior? config player w.stop).isNone && (book.matchupsBy config player w).isEmpty) = true ↔
      ¬book.IsDue config w player := by
  have hprior : (book.prior? config player w.stop).isNone = true ↔
      ¬∃ s ∈ book.snapshots.rows, s.data.player = player ∧ s.data.createdAt ≤ w.stop := by
    rw [← latestSnapshot?_isSome, prior?, Option.isNone_map]
    simp
  rw [Bool.and_eq_true, hprior, List.isEmpty_iff, IsDue, not_or, not_not]

/-- What a close finds for a player who is due. -/
theorem assess_of_isDue (h : book.IsDue config w player) :
    book.assess config w player =
      match book.provisional config w 1.0 player with
      | .ok standing => .ok (.rated standing (book.matchupsBy config player w).length)
      | .error fault => if fault.isDivergence then .ok .diverged else .error fault := by
  refine (if_neg fun hnot => not_isDue_iff.1 hnot h).trans ?_
  cases book.provisional config w 1.0 player <;> rfl

theorem assess_of_not_isDue (h : ¬book.IsDue config w player) :
    book.assess config w player = .ok .absent := by
  unfold assess
  rw [if_pos (not_isDue_iff.2 h)]

theorem closingSnapshot?_eq_some {period : Int} {s : Snapshot R} :
    book.closingSnapshot? config period w player = some s ↔
      book.IsDue config w player ∧ ∃ standing,
        book.provisional config w 1.0 player = .ok standing ∧
        s = ⟨period, player, standing, (book.matchupsBy config player w).length, w.stop⟩ := by
  unfold closingSnapshot?
  by_cases hdue : book.IsDue config w player
  · rw [assess_of_isDue hdue]
    cases hrate : book.provisional config w 1.0 player with
    | ok standing => simp [hdue, eq_comm]
    | error fault => by_cases hdiverges : fault.isDivergence = true <;> simp [hdiverges]
  · rw [assess_of_not_isDue hdue]
    simp [hdue]

theorem skips_iff :
    book.skips config w player = true ↔
      book.IsDue config w player ∧ book.Diverges config w player := by
  unfold skips Diverges
  by_cases hdue : book.IsDue config w player
  · rw [assess_of_isDue hdue]
    cases hrate : book.provisional config w 1.0 player with
    | ok standing => simp
    | error fault => by_cases hdiverges : fault.isDivergence = true <;> simp [hdiverges, hdue]
  · rw [assess_of_not_isDue hdue]
    simp [hdue]

theorem closingSnapshot?_isSome {period : Int}
    (hassessed : ∃ found, book.assess config w player = .ok found) :
    (∃ s, book.closingSnapshot? config period w player = some s) ↔
      book.IsDue config w player ∧ ¬book.Diverges config w player := by
  obtain ⟨found, hfound⟩ := hassessed
  simp only [closingSnapshot?_eq_some]
  constructor
  · rintro ⟨_, hdue, standing, hrate, -⟩
    refine ⟨hdue, ?_⟩
    rintro ⟨fault, hfault, -⟩
    rw [hrate] at hfault
    cases hfault
  · rintro ⟨hdue, hconverges⟩
    rw [assess_of_isDue hdue] at hfound
    cases hrate : book.provisional config w 1.0 player with
    | ok standing => exact ⟨_, hdue, standing, rfl, rfl⟩
    | error fault =>
      rw [hrate] at hfound
      by_cases hdiverges : fault.isDivergence = true
      · exact absurd ⟨fault, hrate, hdiverges⟩ hconverges
      · simp [hdiverges] at hfound

omit [Arithmetic R] in
/-- A close looks at everyone who is due. -/
theorem mem_candidates_of_isDue (h : book.IsDue config w player) : player ∈ book.candidates w := by
  rw [mem_candidates]
  rcases h with ⟨s, hs, hplayer, -⟩ | hmatchups
  · exact .inl ⟨s, hs, hplayer⟩
  · exact .inr (mem_participantsIn_of_matchups hmatchups)

/-- A close takes a snapshot of everyone who is due and converges. -/
theorem exists_closingSnapshots {period : Int} {players : List Int}
    (hall : ∀ player, book.IsDue config w player → player ∈ players)
    (hassessed : ∀ player ∈ players, ∃ found, book.assess config w player = .ok found) :
    (∃ s ∈ book.closingSnapshots config period w players, s.player = player) ↔
      book.IsDue config w player ∧ ¬book.Diverges config w player := by
  constructor
  · rintro ⟨s, hs, rfl⟩
    obtain ⟨hplayer, hs⟩ := mem_closingSnapshots.1 hs
    exact (closingSnapshot?_isSome (hassessed _ hplayer)).1 ⟨s, hs⟩
  · intro h
    have hplayer := hall player h.1
    obtain ⟨s, hs⟩ : ∃ s, book.closingSnapshot? config period w player = some s :=
      (closingSnapshot?_isSome (hassessed _ hplayer)).2 h
    obtain ⟨-, rfl, -⟩ := of_closingSnapshot?_eq_some hs
    exact ⟨s, mem_closingSnapshots.2 ⟨hplayer, hs⟩, rfl⟩

theorem nodup_closingSnapshots {period : Int} {players : List Int} (hd : players.Nodup) :
    ((book.closingSnapshots config period w players).map (·.player)).Nodup := by
  have hmap : (book.closingSnapshots config period w players).map (·.player) =
      players.filter fun player => (book.closingSnapshot? config period w player).isSome := by
    unfold closingSnapshots
    induction players with
    | nil => rfl
    | cons player rest ih =>
      cases hs : book.closingSnapshot? config period w player with
      | none => simp [hs, ih (List.nodup_cons.1 hd).2]
      | some s =>
        obtain ⟨-, hplayer, -⟩ := of_closingSnapshot?_eq_some hs
        simp [hs, hplayer, ih (List.nodup_cons.1 hd).2]
  rw [hmap]
  exact hd.filter _

/-! ## Caches -/

omit [Arithmetic R] in
theorem refreshed_players_of_ne {other : Int} (h : other ≠ player) :
    (book.refreshed player).players.find? other = book.players.find? other := by
  unfold refreshed
  split
  · rfl
  · exact Table.find?_modify_of_ne h

theorem players_withSnapshot_of_ne {s : Snapshot R} (h : player ≠ s.player) :
    (book.withSnapshot s).players.find? player = book.players.find? player :=
  refreshed_players_of_ne h

theorem players_withSnapshots_of_ne {ss : List (Snapshot R)}
    (h : player ∉ ss.map (·.player)) :
    (book.withSnapshots ss).players.find? player = book.players.find? player := by
  induction ss generalizing book with
  | nil => rfl
  | cons s rest ih =>
    rw [List.map_cons, List.mem_cons, not_or] at h
    rw [withSnapshots_cons, ih h.2, players_withSnapshot_of_ne h.1]

theorem cached_withSnapshot {s : Snapshot R} {known : Row (Player R)}
    (hknown : book.players.find? s.player = some known)
    (hlatest : ∀ r ∈ book.snapshots.rows, r.data.player = s.player → r.data.createdAt ≤ s.createdAt) :
    (book.withSnapshot s).players.find? s.player = some ⟨known.id, known.data.cached s.stored⟩ := by
  have hlast : latestSnapshot? { book with snapshots := book.snapshots.append s.stored } s.player
      none = some ⟨book.snapshots.nextId, s.stored⟩ := by
    have hrows : snapshotsOf { book with snapshots := book.snapshots.append s.stored } s.player =
        book.snapshotsOf s.player ++ [⟨book.snapshots.nextId, s.stored⟩] := by
      rw [snapshotsOf_append, if_pos s.player_stored]
    rw [latestSnapshot?_none, hrows, latest?_concat]
    cases hold : latest? (·.data.createdAt) (book.snapshotsOf s.player) with
    | none => rfl
    | some r =>
      obtain ⟨hr, hplayer⟩ := List.mem_filter.1 (mem_of_latest? hold)
      have hle : r.data.createdAt ≤ s.stored.createdAt := hlatest r hr (of_decide_eq_true hplayer)
      rw [Option.elim_some, RaceBook.later, if_pos hle]
  unfold withSnapshot refreshed
  rw [hlast]
  exact Table.find?_modify_self hknown

/-- Snapshots of different players, all made at a time no earlier than any other, are cached. -/
theorem cached_withSnapshots {ss : List (Snapshot R)} {time : Moment}
    (hd : (ss.map (·.player)).Nodup) (htime : ∀ s ∈ ss, s.createdAt = time)
    (hearlier : ∀ r ∈ book.snapshots.rows, r.data.createdAt ≤ time) {s : Snapshot R} (hs : s ∈ ss)
    {known : Row (Player R)} (hknown : book.players.find? s.player = some known) :
    (book.withSnapshots ss).players.find? s.player =
      some ⟨known.id, known.data.cached s.stored⟩ := by
  induction ss generalizing book with
  | nil => cases hs
  | cons t rest ih =>
    obtain ⟨ht, hrest⟩ := List.nodup_cons.1 hd
    have htrest : ∀ u ∈ rest, u.createdAt = time := fun u hu => htime u (List.mem_cons_of_mem t hu)
    rw [withSnapshots_cons]
    rcases List.mem_cons.1 hs with rfl | hs
    · -- the others are of other players
      rw [players_withSnapshots_of_ne ht]
      refine cached_withSnapshot hknown fun r hr _ => ?_
      rw [htime s List.mem_cons_self]
      exact hearlier r hr
    · have hne : s.player ≠ t.player := fun he => ht (List.mem_map.2 ⟨s, hs, he⟩)
      refine ih hrest htrest ?_ hs ?_
      · intro r hr
        rw [snapshots_withSnapshot, Table.rows_append, List.mem_append, List.mem_singleton] at hr
        rcases hr with hr | rfl
        · exact hearlier r hr
        · change t.createdAt ≤ time
          rw [htime t List.mem_cons_self]
          exact Nat.le_refl _
      · exact (players_withSnapshot_of_ne hne).trans hknown

/-! ## The snapshots of a close -/

section Close

variable {found : Row Period} {endedAt : Moment}

theorem nodup_snapshotsOfClose :
    ((book.snapshotsOfClose config found endedAt).map (·.player)).Nodup :=
  nodup_closingSnapshots nodup_candidates

theorem of_mem_snapshotsOfClose {s : Snapshot R}
    (h : s ∈ book.snapshotsOfClose config found endedAt) :
    s.period = found.id ∧ s.createdAt = endedAt ∧
      s.matchupCount =
        (book.matchupsBy config s.player (found.data.windowTo endedAt)).length ∧
      book.provisional config (found.data.windowTo endedAt) 1.0 s.player = .ok s.standing := by
  obtain ⟨-, hs⟩ := mem_closingSnapshots.1 h
  obtain ⟨-, standing, hrate, hs⟩ := closingSnapshot?_eq_some.1 hs
  rw [hs]
  exact ⟨rfl, rfl, rfl, hrate⟩

theorem exists_rows_closed (book : Book R) (config : Config R) (found : Row Period)
    (endedAt : Moment) :
    ∃ added, (book.closed config found endedAt).snapshots.rows = book.snapshots.rows ++ added ∧
      added.map (·.data) = (book.snapshotsOfClose config found endedAt).map (·.stored) ∧
      ∀ s ∈ added, s.data.period = found.id ∧ s.data.createdAt = endedAt := by
  obtain ⟨added, hrows, hdata⟩ :=
    book.exists_rows_withSnapshots (book.snapshotsOfClose config found endedAt)
  refine ⟨added, hrows, hdata, fun s hs => ?_⟩
  obtain ⟨t, ht, hst⟩ := exists_of_map_eq hdata hs
  obtain ⟨hperiod, hcreated, -⟩ := of_mem_snapshotsOfClose ht
  rw [hst]
  exact ⟨hperiod, hcreated⟩

namespace Closes

theorem exists_mem_iff (h : book.Closes config found endedAt) :
    (∃ s ∈ book.snapshotsOfClose config found endedAt, s.player = player) ↔
      book.IsDue config (found.data.windowTo endedAt) player ∧
        ¬book.Diverges config (found.data.windowTo endedAt) player :=
  exists_closingSnapshots (fun _ => mem_candidates_of_isDue) h.assessed

theorem mem_skipped_iff :
    player ∈ (book.summary config found endedAt).skippedPlayers ↔
      book.IsDue config (found.data.windowTo endedAt) player ∧
        book.Diverges config (found.data.windowTo endedAt) player := by
  change player ∈ List.filter _ _ ↔ _
  rw [List.mem_filter, skips_iff]
  exact ⟨fun h => h.2, fun h => ⟨mem_candidates_of_isDue h.1, h⟩⟩

/-- The players may be rated in any order. -/
theorem foldlM_perm (h : book.Closes config found endedAt) {order : List Int}
    (horder : order.Perm (book.candidates (found.data.windowTo endedAt))) :
    ∃ tally ss, order.foldlM (Session.closePlayer config found.id (found.data.windowTo endedAt))
        ⟨0, []⟩ book = .ok tally (book.withSnapshots ss) ∧
      tally.rated = (book.summary config found endedAt).ratedPlayers ∧
      tally.skipped.Perm (book.summary config found endedAt).skippedPlayers ∧
      ss.Perm (book.snapshotsOfClose config found endedAt) := by
  have hperm : (book.closingSnapshots config found.id (found.data.windowTo endedAt) order).Perm
      (book.snapshotsOfClose config found endedAt) := horder.filterMap _
  refine ⟨⟨_, _⟩, _, (Session.foldlM_closePlayer_eq_ok (horder.nodup_iff.2 nodup_candidates)).2
    ⟨fun player hplayer => ?_, fun s hs => ?_, rfl, rfl⟩, ?_, ?_, hperm⟩
  · exact h.assessed player (horder.mem_iff.1 hplayer)
  · exact h.taken s (hperm.mem_iff.1 hs)
  · change 0 + _ = _
    rw [Nat.zero_add, hperm.length_eq]
    rfl
  · exact horder.filter _

theorem cached (h : book.Closes config found endedAt)
    (hearlier : ∀ r ∈ book.snapshots.rows, r.data.createdAt ≤ endedAt) {s : Snapshot R}
    (hs : s ∈ book.snapshotsOfClose config found endedAt) :
    ∃ known, (book.closed config found endedAt).players.find? s.player = some known ∧
      known.data.standing = s.standing.stored ∧ known.data.period = some found.id := by
  obtain ⟨known, hknown⟩ := Option.isSome_iff_exists.1 (h.taken s hs).isPlayer
  have htime : ∀ t ∈ book.snapshotsOfClose config found endedAt, t.createdAt = endedAt :=
    fun t ht => (of_mem_snapshotsOfClose ht).2.1
  exact ⟨_, cached_withSnapshots nodup_snapshotsOfClose htime hearlier hs hknown, rfl,
    congrArg some (of_mem_snapshotsOfClose hs).1⟩

end Closes

/-- What a close did, told by the book before it: one snapshot for everyone who was due and did not
diverge, by the rating update, and the same in any order of the players. -/
structure RatesAtOnce (book later : Book R) (config : Config R) (found : Row Period)
    (endedAt : Moment) (summary : ClosingSummary) (added : List (Row (Snapshot R))) : Prop where
  rows : later.snapshots.rows = book.snapshots.rows ++ added
  once : (added.map (·.data.player)).Nodup
  rated_iff : ∀ player, (∃ s ∈ added, s.data.player = player) ↔
    book.IsDue config (found.data.windowTo endedAt) player ∧
      ¬book.Diverges config (found.data.windowTo endedAt) player
  skipped_iff : ∀ player, player ∈ summary.skippedPlayers ↔
    book.IsDue config (found.data.windowTo endedAt) player ∧
      book.Diverges config (found.data.windowTo endedAt) player
  ratings : ∀ s ∈ added, s.data.period = found.id ∧ s.data.createdAt = endedAt ∧
    s.data.matchupCount =
      (book.matchupsBy config s.data.player (found.data.windowTo endedAt)).length ∧
    ∃ standing, rate config.glicko (some s.data.player) 1.0
        ((book.prior? config s.data.player endedAt).getD config.glicko.initial)
        (book.matchupsBy config s.data.player (found.data.windowTo endedAt)) = .ok standing ∧
      s.data.standing = standing.stored
  anyOrder : ∀ order : List Int, order.Perm (book.candidates (found.data.windowTo endedAt)) →
    ∃ tally mid others,
      order.foldlM (Session.closePlayer config found.id (found.data.windowTo endedAt)) ⟨0, []⟩
        (book.marked found) = .ok tally mid ∧
      tally.rated = summary.ratedPlayers ∧ tally.skipped.Perm summary.skippedPlayers ∧
      mid.snapshots.rows = book.snapshots.rows ++ others ∧
      (others.map (·.data)).Perm (added.map (·.data))
  uncached : ∀ player, player ∉ added.map (·.data.player) →
    later.players.find? player = book.players.find? player
  cached : (∀ s ∈ book.snapshots.rows, s.data.createdAt ≤ endedAt) →
    ∀ s ∈ added, ∃ known, later.players.find? s.data.player = some known ∧
      known.data.standing = s.data.standing ∧ known.data.period = some found.id

theorem Closes.ratesAtOnce (h : book.Closes config found endedAt) :
    ∃ added, book.RatesAtOnce (book.closed config found endedAt) config found endedAt
      (book.summary config found endedAt) added := by
  obtain ⟨added, hrows, hdata, -⟩ := book.exists_rows_closed config found endedAt
  have hplayers : added.map (·.data.player) =
      (book.snapshotsOfClose config found endedAt).map (·.player) := by
    have hmap := congrArg (List.map (·.player)) hdata
    rwa [List.map_map, List.map_map] at hmap
  refine ⟨added, ⟨hrows, hplayers ▸ nodup_snapshotsOfClose, fun player => ?_,
    fun player => mem_skipped_iff, fun s hs => ?_, fun order horder => ?_,
    fun player hplayer => players_withSnapshots_of_ne (hplayers ▸ hplayer),
    fun hearlier s hs => ?_⟩⟩
  · rw [← h.exists_mem_iff, ← List.mem_map, ← List.mem_map, hplayers]
  · obtain ⟨t, ht, hst⟩ := exists_of_map_eq hdata hs
    obtain ⟨hperiod, hcreated, hcount, hrate⟩ := of_mem_snapshotsOfClose ht
    rw [hst]
    exact ⟨hperiod, hcreated, hcount, t.standing, hrate, rfl⟩
  · have hmarked := (closes_marked h.known h.notClosed).2 h
    obtain ⟨tally, ss, hrun, hrated, hskipped, hperm⟩ :=
      hmarked.foldlM_perm (candidates_marked ▸ horder)
    rw [summary_marked h.notClosed] at hrated hskipped
    rw [snapshotsOfClose_marked] at hperm
    obtain ⟨others, hothers, hss⟩ := (book.marked found).exists_rows_withSnapshots ss
    rw [snapshots_marked] at hothers
    refine ⟨tally, _, others, hrun, hrated, hskipped, hothers, ?_⟩
    rw [hss, hdata]
    exact hperm.map _
  · obtain ⟨t, ht, hst⟩ := exists_of_map_eq hdata hs
    obtain ⟨known, hknown, hcached⟩ := h.cached hearlier ht
    rw [hst]
    exact ⟨known, hknown, hcached⟩

end Close

end Book

/-- **A close rates everyone at once**: a request that closes a period does what the book before it
tells, in whatever order the players are rated. -/
theorem closePeriod_simultaneous (book : Book R) (config : Config R) (period? : Option Int)
    (endedAt : Moment) (summary : ClosingSummary) (later : Book R)
    (hclose : (Operation.closePeriod config period? endedAt).perform book =
      .ok (.summary? (some summary)) later) (hnew : summary.alreadyClosed = false) :
    ∃ found, book.Picks period? found ∧ found.data.status ≠ .closed ∧ summary.closed = found.id ∧
      ∃ added, book.RatesAtOnce later config found endedAt summary added := by
  obtain ⟨_, hclose, hreply⟩ := Session.map_eq_ok.1 hclose
  cases hreply
  rcases Session.closePeriod_eq_ok.1 hclose with ⟨-, -, hnone, -⟩ |
    ⟨found, hpicks, ⟨hcloses, hsummary, rfl⟩ | ⟨-, recorded, -, hsummary, -⟩⟩
  · cases hnone
  · cases hsummary
    exact ⟨found, hpicks, hcloses.notClosed, rfl, hcloses.ratesAtOnce⟩
  · cases hsummary
    cases hnew

/-- A close whose summary passes a test replies with that summary. -/
theorem Operation.exists_summary_of_yields {period? : Option Int} {endedAt : Moment}
    {test : ClosingSummary → Bool}
    (h : (Session.closePeriod config period? endedAt).yields (·.any test) book = true) :
    ∃ summary later, (closePeriod config period? endedAt).perform book =
      .ok (.summary? (some summary)) later ∧ test summary = true := by
  obtain ⟨summary?, later, hclose, htest⟩ := Session.exists_of_yields h
  obtain ⟨summary, rfl, htest⟩ := (Option.any_eq_true _ _).1 htest
  exact ⟨summary, later, Session.map_eq_ok.2 ⟨_, hclose, rfl⟩, htest⟩

/-- The usual settings with a wide tolerance: the bracket that the search for a volatility starts with
is narrow enough unless its ends are very far apart. -/
def Config.tolerant : Config R :=
  { Config.standard with
    glicko := { Glicko.Parameters.standard with solver := ⟨0.5, 1e9, 1⟩ } }

/-- A race of two in an open period. -/
def duelists (R : Type) [Arithmetic R] : List (Operation R) :=
  let key (c : Char) := String.ofList (List.replicate 64 c)
  [.command (.register (key 'a') "Ann" ⟨1500.0, 350.0, 0.06⟩),
    .command (.register (key 'b') "Bob" ⟨1500.0, 350.0, 0.06⟩),
    .command (.ensureOpenPeriod (.ofTicks 1)),
    .command (.createBattle "loop" (.ofTicks 5) (.ofTicks 2)),
    .command (.addParticipant 1 1 0),
    .command (.addParticipant 1 2 1),
    .command (.reportResult 1 1 ⟨some 700, false⟩),
    .command (.concludeBattle 1 (.ofTicks 6) false)]

section Upset

open scoped Fractions

/-- When both are rated, Bob loses to someone who is held to be slow, and very steady at that. -/
def upset : List (Operation Rat) :=
  duelists Rat ++
    [.closePeriod .tolerant none (.ofTicks 8),
      .command (.register (String.ofList (List.replicate 64 'c')) "Cid" ⟨1500.0, 350.0, 0.06⟩),
      .command (.appendSnapshot ⟨1, 3, ⟨500.0, 50.0, 1e-6⟩, 0, .ofTicks 8⟩),
      .command (.createBattle "loop" (.ofTicks 11) (.ofTicks 9)),
      .command (.addParticipant 2 2 0),
      .command (.addParticipant 2 3 1),
      .command (.reportResult 2 3 ⟨some 800, false⟩),
      .command (.concludeBattle 2 (.ofTicks 12) false)]

/-- The close after the upset rates Ann, who rested, and Bob, and skips the third player. -/
theorem closePeriod_simultaneous_upset :
    ∃ summary later, (Operation.closePeriod .tolerant none (.ofTicks 16)).perform
        (Operation.run upset .empty) = .ok (.summary? (some summary)) later ∧
      summary.closed = 2 ∧ summary.ratedPlayers = 2 ∧ summary.skippedPlayers = [3] ∧
      ∃ found added, (Operation.run upset .empty).RatesAtOnce later .tolerant found
          (.ofTicks 16) summary added ∧
        added.map (fun s => (s.data.player, s.data.matchupCount)) = [(1, 0), (2, 1)] := by
  have hrun : (Session.closePeriod .tolerant none (.ofTicks 16)).yields
      (·.any fun summary => summary.alreadyClosed = false ∧ summary.closed = 2 ∧
        summary.ratedPlayers = 2 ∧ summary.skippedPlayers = [3])
      (Operation.run upset .empty) = true := by decide +kernel
  obtain ⟨summary, later, hperform, htest⟩ := Operation.exists_summary_of_yields hrun
  obtain ⟨hnew, hclosed, hrated, hskipped⟩ := of_decide_eq_true htest
  obtain ⟨found, -, -, -, added, hrates⟩ :=
    closePeriod_simultaneous _ .tolerant none _ summary later hperform hnew
  refine ⟨summary, later, hperform, hclosed, hrated, hskipped, found, added, hrates, ?_⟩
  -- three snapshots are older than this close
  obtain ⟨hbefore, hafter⟩ : (Operation.run upset .empty).snapshots.rows.length = 3 ∧
      (((Operation.closePeriod .tolerant none (.ofTicks 16)).after
        (Operation.run upset .empty)).snapshots.rows.drop 3).map
          (fun s => (s.data.player, s.data.matchupCount)) = [(1, 0), (2, 1)] := by decide +kernel
  rw [Operation.after_of_ok hperform, hrates.rows, ← hbefore, List.drop_left] at hafter
  exact hafter

end Upset

end RaceBook
