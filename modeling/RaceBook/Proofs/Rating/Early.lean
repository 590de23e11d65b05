import RaceBook.Proofs.Race.Ended
import RaceBook.Proofs.Rating.Overlay

/-!
# Closing a period early

* `Book.SeesSame` : a close of a window finds the same in a later book;
* `Operation.seesSame_after` : so it does after races, as long as no battle ends in the window;
* `Operation.after_withSnapshots` : races do the same before and after snapshots are taken;
* `Book.Closes.of_seesSame`, `Operation.after_closed` : a period that can be closed before such
  races can be closed after them, and the book is the same in the end.
-/

namespace RaceBook

variable {R : Type} {book later : Book R} {w : Window}

namespace Book

/-- A book with the same periods and snapshots, which still has the players. -/
structure KeepsRatings (book later : Book R) : Prop where
  periods : later.periods = book.periods
  snapshots : later.snapshots = book.snapshots
  isPlayer : ∀ id, (book.players.find? id).isSome = true → (later.players.find? id).isSome = true

/-- A close of a window finds the same battles, participants and snapshots. -/
structure SeesSame (w : Window) (book later : Book R) : Prop where
  battles : later.battlesIn w = book.battlesIn w
  participants : ∀ b ∈ book.battlesIn w, later.participantsOf b.id = book.participantsOf b.id

theorem KeepsRatings.refl (book : Book R) : KeepsRatings book book := ⟨rfl, rfl, fun _ h => h⟩

theorem KeepsRatings.trans {a b c : Book R} (h₁ : KeepsRatings a b) (h₂ : KeepsRatings b c) :
    KeepsRatings a c :=
  ⟨h₂.periods.trans h₁.periods, h₂.snapshots.trans h₁.snapshots,
    fun id h => h₂.isPlayer id (h₁.isPlayer id h)⟩

theorem SeesSame.refl (book : Book R) : SeesSame w book book := ⟨rfl, fun _ _ => rfl⟩

theorem SeesSame.trans {a b c : Book R} (h₁ : SeesSame w a b) (h₂ : SeesSame w b c) :
    SeesSame w a c := by
  refine ⟨h₂.battles.trans h₁.battles, fun known hknown => ?_⟩
  rw [h₂.participants known (h₁.battles ▸ hknown), h₁.participants known hknown]

/-! ## What a close finds -/

section Close

variable [Arithmetic R] {config : Config R} {found : Row Period} {stop : Moment}

omit [Arithmetic R] in
theorem SeesSame.candidates_eq (hsees : SeesSame w book later)
    (hkeeps : KeepsRatings book later) : later.candidates w = book.candidates w := by
  have hparticipants : later.participantsIn w = book.participantsIn w := by
    refine eq_of_pairwise_lt (pairwise_ascending _) (pairwise_ascending _) fun player => ?_
    rw [mem_participantsIn, mem_participantsIn, hsees.battles]
    refine exists_congr fun b => and_congr_right fun hb => ?_
    rw [hsees.participants b hb]
  rw [candidates, candidates, hparticipants, ratedPlayers, ratedPlayers, hkeeps.snapshots]

theorem SeesSame.assess_eq (hsees : SeesSame w book later) (hkeeps : KeepsRatings book later)
    (player : Int) : later.assess config w player = book.assess config w player := by
  have hlatest : ∀ player at?,
      later.latestSnapshot? player at? = book.latestSnapshot? player at? := by
    intro player at?
    unfold latestSnapshot? snapshotsOf
    rw [hkeeps.snapshots]
  exact assess_congr hsees.battles hsees.participants (fun _ _ _ => hlatest _ _) (hlatest _ _)

theorem SeesSame.snapshotsOfClose_eq (hsees : SeesSame (found.data.windowTo stop) book later)
    (hkeeps : KeepsRatings book later) :
    later.snapshotsOfClose config found stop = book.snapshotsOfClose config found stop := by
  unfold snapshotsOfClose closingSnapshots
  rw [hsees.candidates_eq hkeeps]
  refine List.filterMap_congr fun player _ => ?_
  unfold closingSnapshot?
  rw [hsees.assess_eq hkeeps]

theorem SeesSame.summary_eq (hsees : SeesSame (found.data.windowTo stop) book later)
    (hkeeps : KeepsRatings book later) :
    later.summary config found stop = book.summary config found stop := by
  have hskips : later.skips config (found.data.windowTo stop) =
      book.skips config (found.data.windowTo stop) := by
    funext player
    unfold skips
    rw [hsees.assess_eq hkeeps]
  unfold summary
  rw [hsees.snapshotsOfClose_eq hkeeps, hsees.candidates_eq hkeeps, hskips, hkeeps.periods]

/-- A period can be closed as long as its close finds the same. -/
theorem Closes.of_seesSame (h : book.Closes config found stop)
    (hsees : SeesSame (found.data.windowTo stop) book later) (hkeeps : KeepsRatings book later) :
    later.Closes config found stop := by
  refine ⟨hkeeps.periods ▸ h.known, h.notClosed, h.order, fun player hplayer => ?_, fun s hs => ?_,
    hkeeps.periods ▸ h.alone⟩
  · rw [hsees.candidates_eq hkeeps] at hplayer
    rw [hsees.assess_eq hkeeps]
    exact h.assessed player hplayer
  · rw [hsees.snapshotsOfClose_eq hkeeps] at hs
    obtain ⟨hstorable, hcount, hfresh, hperiod, hplayer⟩ := h.taken s hs
    exact ⟨hstorable, hcount, hkeeps.snapshots ▸ hfresh, hkeeps.periods ▸ hperiod,
      hkeeps.isPlayer _ hplayer⟩

end Close

theorem exists_overlay_withSnapshot [Arithmetic R] (book : Book R) (s : Snapshot R) :
    ∃ o : Overlay R, (∀ c ∈ o.cache, c.1 = s.player) ∧ ∀ later : Book R,
      later.periods = book.periods → later.snapshots = book.snapshots →
        later.withSnapshot s = later.overlaid o := by
  obtain ⟨last?, hlast⟩ : ∃ last?, latest? (·.data.createdAt)
      ((book.snapshots.append s.stored).rows.filter (·.data.player = s.player)) = last? := ⟨_, rfl⟩
  refine ⟨⟨book.periods, book.snapshots.append s.stored,
    last?.map fun last => (s.player, last.data)⟩, fun c hc => ?_, ?_⟩
  · obtain ⟨last, -, rfl⟩ := Option.map_eq_some_iff.1 hc
    rfl
  · intro later hperiods hsnapshots
    rw [← hperiods, ← hsnapshots]
    rw [← hsnapshots] at hlast
    have hlatest : latestSnapshot? { later with snapshots := later.snapshots.append s.stored }
        s.player none = last? := hlast
    unfold withSnapshot refreshed
    rw [hlatest]
    cases last? <;> rfl

end Book

/-! ## Races -/

variable [Arithmetic R]

namespace Event

variable {e : Event R}

theorem keepsRatings_apply (h : ¬e.IsRating) (book : Book R) :
    book.KeepsRatings (e.apply book) := by
  refine ⟨?_, ?_, fun id hid => ?_⟩
  · rw [periods_apply]
    cases e with
    | periodOpened | periodMarked | periodClosed => exact absurd trivial h
    | _ => rfl
  · rw [snapshots_apply]
    cases e with
    | snapshotTaken | periodClosed => exact absurd trivial h
    | _ => rfl
  · cases e with
    | playerEntered key name initial =>
      obtain ⟨p, hp⟩ := Option.isSome_iff_exists.1 hid
      exact Option.isSome_of_eq_some (Table.find?_append_of_find? hp)
    | playerRenamed player name => exact Table.isSome_find?_modify.trans hid
    | battleSettled found split now =>
      change ((book.payAll found.id split.kind now split.payouts).players.find? id).isSome = true
      rw [(Book.onlyPays_payAll book split.payouts).players]
      exact hid
    | periodOpened | periodMarked | periodClosed | snapshotTaken | cacheRefreshed =>
      exact absurd trivial h
    | _ => exact hid

/-- A close of a window finds the same as long as no battle ends within it. -/
theorem seesSame_apply (h : e.Enabled book)
    (hnow : ∀ battle cancelled now, e = .battleEnded battle cancelled now → w.stop ≤ now) :
    book.SeesSame w (e.apply book) := by
  refine ⟨battlesIn_apply h hnow, fun b hb => ?_⟩
  obtain ⟨hb, hcovers⟩ := Book.mem_battlesIn.1 hb
  exact participantsOf_apply h (Table.find?_of_mem hb) (Window.covers_iff.1 hcovers).1

end Event

namespace Operation

variable {op : Operation R}

/-- The time by which the end of a battle, or a request to catch up, goes. -/
def clock? : Operation R → Option Moment
  | .command (.concludeBattle _ now _) => some now
  | .closeElapsed _ now => some now
  | _ => none

omit [Arithmetic R] in
theorem of_explains (hop : op.isRace = true) {e : Event R} (h : op.Explains e) :
    ¬e.IsRating ∧ ∀ battle cancelled now, e = .battleEnded battle cancelled now →
      op.clock? = some now := by
  have hother : ∀ {e : Event R}, (∀ battle cancelled now, e ≠ .battleEnded battle cancelled now) →
      ∀ battle cancelled now, e = .battleEnded battle cancelled now → op.clock? = some now :=
    fun hne battle cancelled now he => absurd he (hne battle cancelled now)
  cases op with
  | query q => exact h.elim
  | settle battle now =>
    obtain ⟨found, split, -, rfl⟩ := h
    exact ⟨id, hother (by simp)⟩
  | openFirstPeriod | closePeriod | closeElapsed => cases hop
  | command c =>
    cases c with
    | register => rcases h with ⟨_, _, _, rfl⟩ | ⟨_, _, rfl⟩ <;> exact ⟨id, hother (by simp)⟩
    | createUser => rcases h with ⟨_, rfl⟩ | ⟨-, _, rfl⟩ <;> exact ⟨id, hother (by simp)⟩
    | placeWager =>
      rcases h with ⟨_, rfl⟩ | ⟨_, _, -, -, rfl⟩ <;> exact ⟨id, hother (by simp)⟩
    | addParticipant =>
      obtain ⟨_, rfl⟩ := h
      exact ⟨id, hother (by simp)⟩
    | reportResult =>
      obtain ⟨_, -, -, rfl⟩ := h
      exact ⟨id, hother (by simp)⟩
    | concludeBattle battle now cancelled =>
      obtain rfl : e = .battleEnded battle cancelled now := h
      refine ⟨id, ?_⟩
      rintro _ _ _ ⟨⟩
      rfl
    | credit | debit | grant | createBattle =>
      cases h
      exact ⟨id, hother (by simp)⟩
    | ensureOpenPeriod | appendSnapshot | refreshCache => cases hop

theorem keepsRatings_after (hop : op.isRace = true) (book : Book R) :
    book.KeepsRatings (op.after book) :=
  (op.steps_after book).invariant (P := book.KeepsRatings)
    (fun mid e he hmid _ => hmid.trans (e.keepsRatings_apply (of_explains hop he).1 mid))
    (.refl book)

theorem seesSame_after (hop : op.isRace = true) (hnow : ∀ now ∈ op.clock?, w.stop ≤ now)
    (book : Book R) : book.SeesSame w (op.after book) := by
  refine (op.steps_after book).invariant (P := book.SeesSame w) (fun mid e he hmid henabled => ?_)
    (.refl book)
  exact hmid.trans (Event.seesSame_apply henabled fun battle cancelled now hended =>
    hnow now ((of_explains hop he).2 battle cancelled now hended))

/-! ## Races and closes change places -/

/-- Races do the same before and after a snapshot of a known player is taken. -/
theorem after_withSnapshot (hop : op.isRace = true) {s : Snapshot R}
    (hplayer : (book.players.find? s.player).isSome = true) :
    op.after (book.withSnapshot s) = (op.after book).withSnapshot s := by
  obtain ⟨o, hcache, hover⟩ := book.exists_overlay_withSnapshot s
  have hkeeps : book.KeepsRatings (op.after book) := keepsRatings_after hop book
  have hknown : ∀ c ∈ o.cache, c.1 ≠ book.players.nextId := by
    intro c hc
    obtain ⟨p, hp⟩ := Option.isSome_iff_exists.1 hplayer
    rw [hcache c hc]
    exact Table.ne_nextId_of_find? hp
  rw [hover book rfl rfl, after_overlaid hop hknown, hover _ hkeeps.periods hkeeps.snapshots]

theorem after_withSnapshots (hop : op.isRace = true) {ss : List (Snapshot R)}
    (hplayers : ∀ s ∈ ss, (book.players.find? s.player).isSome = true) :
    op.after (book.withSnapshots ss) = (op.after book).withSnapshots ss := by
  induction ss generalizing book with
  | nil => rfl
  | cons s rest ih =>
    obtain ⟨hplayer, hrest⟩ := List.forall_mem_cons.1 hplayers
    have hsame := (Book.onlyRates_withSnapshot book s).isPlayer
    rw [Book.withSnapshots_cons, ih fun t ht => (hsame _).trans (hrest t ht),
      after_withSnapshot hop hplayer, Book.withSnapshots_cons]

/-- **A period may be closed before races or after them**, as long as no battle ends in it. -/
theorem after_closed (hop : op.isRace = true) {config : Config R} {found : Row Period}
    {stop : Moment} (hnow : ∀ now ∈ op.clock?, stop ≤ now) (h : book.Closes config found stop) :
    op.after (book.closed config found stop) = (op.after book).closed config found stop := by
  have hkeeps : book.KeepsRatings (op.after book) := keepsRatings_after hop book
  have hsees : book.SeesSame (found.data.windowTo stop) (op.after book) :=
    seesSame_after hop hnow book
  have hplayers : ∀ s ∈ book.snapshotsOfClose config found stop,
      (book.players.find? s.player).isSome = true := fun s hs => (h.taken s hs).isPlayer
  have hsnapshots : ((op.after book).withSnapshots
      (book.snapshotsOfClose config found stop)).snapshots =
        (book.withSnapshots (book.snapshotsOfClose config found stop)).snapshots := by
    rw [Book.snapshots_withSnapshots, Book.snapshots_withSnapshots, hkeeps.snapshots]
  -- behind its snapshots a close lays the new periods over the book
  have hover : book.closed config found stop =
      (book.withSnapshots (book.snapshotsOfClose config found stop)).overlaid
        ⟨(book.periods.modify found.id (·.ended stop)).append ⟨.opened, stop, none⟩,
          (book.withSnapshots (book.snapshotsOfClose config found stop)).snapshots, none⟩ := rfl
  rw [hover, after_overlaid hop (by simp), after_withSnapshots hop hplayers, Book.overlaid,
    ← hsnapshots, Book.closed, hsees.snapshotsOfClose_eq hkeeps, hkeeps.periods]
  rfl

end Operation

end RaceBook
