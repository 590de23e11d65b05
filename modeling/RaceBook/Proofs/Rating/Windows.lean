import Mathlib.Data.List.Basic
import RaceBook.Rating.Matchup
import RaceBook.Proofs.Rating.Snapshots

/-!
# Windows and what is seen in them

* `Book.mem_battlesIn`, `Book.mem_participantsIn` : the battles that ended in a window and who took
  part in them;
* `Book.mem_participantsIn_of_matchups` : only those have matchups in it;
* `Book.matchups_congr` : the matchups in a window hang on its battles, on their participants and
  on the snapshots made before its end.
-/

namespace RaceBook

variable {R : Type} {book later : Book R} {w : Window}

theorem Window.covers_iff {b : Battle} :
    w.covers b = true ↔
      b.status.isTerminal = true ∧ ∃ time, b.concludedAt = some time ∧ w.start ≤ time ∧
        time < w.stop := by
  simp only [Window.covers, Bool.and_eq_true, Option.any_eq_true, decide_eq_true_eq]

namespace Book

theorem mem_battlesIn {b : Row Battle} :
    b ∈ book.battlesIn w ↔ b ∈ book.battles.rows ∧ w.covers b.data = true := by
  rw [battlesIn, mem_sortedBy, List.mem_filter]

theorem mem_participantsIn {player : Int} :
    player ∈ book.participantsIn w ↔
      ∃ b ∈ book.battlesIn w, ∃ p ∈ book.participantsOf b.id, p.data.player = player := by
  rw [participantsIn, mem_ascending, List.mem_map]
  constructor
  · rintro ⟨p, hp, rfl⟩
    obtain ⟨hp, hcovered⟩ := List.mem_filter.1 hp
    obtain ⟨b, hb, hcovers⟩ := (Option.any_eq_true _ _).1 hcovered
    refine ⟨b, mem_battlesIn.2 ⟨Table.mem_of_find? hb, hcovers⟩, p, ?_, rfl⟩
    exact List.mem_filter.2 ⟨hp, decide_eq_true (Table.id_of_find? hb).symm⟩
  · rintro ⟨b, hb, p, hp, rfl⟩
    obtain ⟨hb, hcovers⟩ := mem_battlesIn.1 hb
    obtain ⟨hp, hbattle⟩ := List.mem_filter.1 hp
    refine ⟨p, List.mem_filter.2 ⟨hp, ?_⟩, rfl⟩
    rw [of_decide_eq_true hbattle, Table.find?_of_mem hb]
    exact hcovers

theorem mem_participantsIn_of_matchups {player : Int} {initial : Standing R} {minimum : Int}
    (h : book.matchups player w initial minimum ≠ []) : player ∈ book.participantsIn w := by
  obtain ⟨m, hm⟩ := List.exists_mem_of_ne_nil _ h
  obtain ⟨b, hb, hmatch⟩ := List.mem_filterMap.1 hm
  unfold matchup? at hmatch
  obtain ⟨me, hme, -⟩ := Option.bind_eq_some_iff.1 hmatch
  obtain ⟨hp, hplayer, -⟩ := of_participant?_eq_some hme
  exact mem_participantsIn.2 ⟨b, hb, me, hp, hplayer⟩

/-- The matchups in a window hang on its battles, on their participants and on the snapshots made
before its end. -/
theorem matchups_congr {player : Int} {initial : Standing R} {minimum : Int}
    (hbattles : later.battlesIn w = book.battlesIn w)
    (hparticipants : ∀ b ∈ book.battlesIn w, later.participantsOf b.id = book.participantsOf b.id)
    (hsnapshots : ∀ opponent time, time < w.stop →
      later.latestSnapshot? opponent (some time) = book.latestSnapshot? opponent (some time)) :
    later.matchups player w initial minimum = book.matchups player w initial minimum := by
  unfold matchups
  rw [hbattles]
  apply List.filterMap_congr
  intro b hb
  obtain ⟨-, hcovers⟩ := mem_battlesIn.1 hb
  obtain ⟨-, time, htime, -, hstop⟩ := Window.covers_iff.1 hcovers
  have hstanding : ∀ opponent, later.standingAt opponent time initial =
      book.standingAt opponent time initial := by
    intro opponent
    rw [standingAt, standingAt, hsnapshots opponent time hstop]
  unfold matchup? participant?
  rw [hparticipants b hb, htime]
  simp only [Option.pure_def, Option.bind_eq_bind, Option.bind_some, hstanding]

end Book

end RaceBook
