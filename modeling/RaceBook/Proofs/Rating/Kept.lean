import RaceBook.Proofs.Double.Order
import RaceBook.Proofs.Rating.Cache

/-!
# The ratings that are kept

Snapshots may come from closes or be added by hand; the store takes a standing only if its numbers are
numbers, and one for each player and period.

* `Standing.IsKept`, `Standing.IsKept.isNumber` : what the store took, and that its rating is a number;
* `Book.KeepsSnapshots` : every snapshot was taken, and is the only one of its player and period;
* `Event.keepsSnapshots_apply`, `Reachable.keepsSnapshots` : every event keeps it so;
* `Operation.isKept_standing` : what players are cached with was taken, too.
-/

namespace RaceBook

variable {R : Type} [Arithmetic R] {book later : Book R}

/-- The standing is one that the store took, as it was stored. -/
def Standing.IsKept (s : Standing R) : Prop :=
  ∃ given : Standing R, given.IsStorable ∧ s = given.stored

theorem Standing.IsKept.isNumber {s : Standing Float} (h : s.IsKept) :
    Double.IsNumber s.rating := by
  obtain ⟨given, hstorable, rfl⟩ := h
  have hnumber : Double.IsNumber given.rating := by
    rw [Double.isNumber_iff_isNaN, Bool.eq_false_iff]
    intro hnan
    have hmissing : given.missing? = some .rating := if_pos hnan
    cases hstorable.numbers.symm.trans hmissing
  exact hnumber.add_zero

namespace Book

/-- Every snapshot is of a standing that the store took, and the only one of its player and period. -/
structure KeepsSnapshots (book : Book R) : Prop where
  kept : ∀ s ∈ book.snapshots.rows, s.data.standing.IsKept
  once : (book.snapshots.rows.map fun s => (s.data.period, s.data.player)).Nodup

theorem KeepsSnapshots.congr (h : book.KeepsSnapshots) (hsnapshots : later.snapshots = book.snapshots) :
    later.KeepsSnapshots := ⟨hsnapshots ▸ h.kept, hsnapshots ▸ h.once⟩

theorem KeepsSnapshots.withSnapshots (h : book.KeepsSnapshots) {ss : List (Snapshot R)}
    (htaken : ∀ s ∈ ss, book.TakesSnapshot s)
    (hd : (ss.map fun s => (s.period, s.player)).Nodup) : (book.withSnapshots ss).KeepsSnapshots := by
  obtain ⟨added, hrows, hdata⟩ := book.exists_rows_withSnapshots ss
  constructor
  · intro r hr
    rw [hrows, List.mem_append] at hr
    rcases hr with hr | hr
    · exact h.kept r hr
    · obtain ⟨s, hs, hstored⟩ := exists_of_map_eq hdata hr
      exact ⟨s.standing, (htaken s hs).storable, congrArg (·.standing) hstored⟩
  · have hkeys : (added.map fun r => (r.data.period, r.data.player)) =
        ss.map fun s => (s.period, s.player) := by
      have hmap := congrArg (List.map fun s : Snapshot R => (s.period, s.player)) hdata
      rwa [List.map_map, List.map_map] at hmap
    rw [hrows, List.map_append, hkeys, List.nodup_append]
    refine ⟨h.once, hd, ?_⟩
    rintro _ hold _ hnew rfl
    obtain ⟨t, ht, htkey⟩ := List.mem_map.1 hold
    obtain ⟨s, hs, hskey⟩ := List.mem_map.1 hnew
    obtain ⟨hperiod, hplayer⟩ := Prod.mk.inj (htkey.trans hskey.symm)
    exact (htaken s hs).fresh t ht hperiod hplayer

end Book

theorem Event.keepsSnapshots_apply {e : Event R} (he : e.Enabled book) (h : book.KeepsSnapshots) :
    (e.apply book).KeepsSnapshots := by
  cases e with
  | snapshotTaken s =>
    exact h.withSnapshots (fun t ht => List.mem_singleton.1 ht ▸ he) (List.nodup_singleton _)
  | periodClosed config found endedAt =>
    have hd : ((book.snapshotsOfClose config found endedAt).map fun s => (s.period, s.player)).Nodup :=
      .of_map Prod.snd (by rw [List.map_map]; exact Book.nodup_snapshotsOfClose)
    exact (h.withSnapshots he.taken hd).congr rfl
  | _ => exact h.congr (snapshots_apply _ book)

theorem Reachable.keepsSnapshots (h : Reachable book) : book.KeepsSnapshots :=
  h.induct (P := Book.KeepsSnapshots) ⟨fun _ hs => (nomatch hs), List.nodup_nil⟩
    fun _ _ hbook he => Event.keepsSnapshots_apply he hbook

/-- What a player is cached with was taken by the store, as a snapshot or when they were entered. -/
theorem Operation.isKept_standing (ops : List (Operation R)) {p : Row (Player R)}
    (hp : p ∈ (run ops .empty).players.rows) : p.data.standing.IsKept := by
  rcases cache_cases ops hp with ⟨s, hlast, hstanding, -⟩ | ⟨-, initial, henters, hstanding, -⟩
  · rw [hstanding]
    exact (Reachable.empty.run ops).keepsSnapshots.kept s (Book.latestSnapshot?_eq_some.1 hlast).mem
  · exact ⟨initial, henters.storable, hstanding⟩

end RaceBook
