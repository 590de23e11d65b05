import RaceBook.Proofs.Wager.Terms

/-!
# What rows refer to exists

* `Event.isPlayer_apply`, `Event.isUser_apply` : nobody leaves the book;
* `Book.RefersToKnown` : the players of snapshots and of participants and the users of wagers exist;
* `Event.refersToKnown_apply`, `Reachable.refersToKnown` : so they do in every reachable book.
-/

namespace RaceBook

variable {R : Type} {book later : Book R}

namespace Book

/-- The players of snapshots and of participants, and the users of wagers, exist. -/
structure RefersToKnown (book : Book R) : Prop where
  rated : ∀ s ∈ book.snapshots.rows, (book.players.find? s.data.player).isSome = true
  racing : ∀ p ∈ book.participants.rows, (book.players.find? p.data.player).isSome = true
  wagering : ∀ w ∈ book.wagers.rows, (book.users.find? w.data.user).isSome = true

theorem isUser_post {m : Movement} {id : Int} :
    ((book.post m).users.find? id).isSome = (book.users.find? id).isSome :=
  Table.isSome_find?_modify

theorem isUser_payAll {battle : Int} {kind : EntryKind} {now : Moment} {ps : List Pool.Payout}
    {id : Int} :
    ((book.payAll battle kind now ps).users.find? id).isSome = (book.users.find? id).isSome := by
  induction ps generalizing book with
  | nil => rfl
  | cons p rest ih => exact ih.trans isUser_post

end Book

variable [Arithmetic R]

namespace Event

theorem isPlayer_apply (e : Event R) {id : Int} (h : (book.players.find? id).isSome = true) :
    ((e.apply book).players.find? id).isSome = true := by
  cases e with
  | playerEntered key name initial =>
    obtain ⟨p, hp⟩ := Option.isSome_iff_exists.1 h
    exact Option.isSome_of_eq_some (Table.find?_append_of_find? hp)
  | playerRenamed player name => exact Table.isSome_find?_modify.trans h
  | battleSettled found split now =>
    rw [← (Book.onlyPays_payAll book split.payouts).players] at h
    exact h
  | periodMarked found =>
    change ((book.marked found).players.find? id).isSome = true
    unfold Book.marked
    split <;> exact h
  | periodClosed config found endedAt =>
    exact ((Book.onlyRates_withSnapshots book _).isPlayer id).trans h
  | snapshotTaken s => exact ((Book.onlyRates_withSnapshot book s).isPlayer id).trans h
  | cacheRefreshed player => exact ((Book.onlyRates_refreshed book player).isPlayer id).trans h
  | _ => exact h

theorem isUser_apply (e : Event R) {id : Int} (h : (book.users.find? id).isSome = true) :
    ((e.apply book).users.find? id).isSome = true := by
  cases e with
  | userEntered username now =>
    obtain ⟨u, hu⟩ := Option.isSome_iff_exists.1 h
    exact Option.isSome_of_eq_some (Table.find?_append_of_find? hu)
  | posted m => exact Book.isUser_post.trans h
  | wagerPlaced w => exact Book.isUser_post.trans h
  | wagerReplaced known team stake now => exact Book.isUser_post.trans (Book.isUser_post.trans h)
  | battleSettled found split now => exact Book.isUser_payAll.trans h
  | periodOpened | periodMarked | periodClosed | snapshotTaken | cacheRefreshed =>
    rw [(sameRaces_apply (by trivial) book).users]
    exact h
  | _ => exact h

/-! ## References -/

theorem rated_apply {e : Event R} (h : e.Enabled book)
    (hbook : ∀ s ∈ book.snapshots.rows, (book.players.find? s.data.player).isSome = true) :
    ∀ s ∈ (e.apply book).snapshots.rows, (book.players.find? s.data.player).isSome = true := by
  intro s hs
  rw [snapshots_apply] at hs
  cases e with
  | snapshotTaken taken =>
    rw [Table.rows_append, List.mem_append, List.mem_singleton] at hs
    rcases hs with hs | rfl
    · exact hbook s hs
    · exact h.isPlayer
  | periodClosed config found endedAt =>
    obtain ⟨added, hrows, hdata⟩ := Table.exists_rows_appendAll book.snapshots
      ((book.snapshotsOfClose config found endedAt).map (·.stored))
    rw [hrows, List.mem_append] at hs
    rcases hs with hs | hs
    · exact hbook s hs
    · have hmem : s.data ∈ (book.snapshotsOfClose config found endedAt).map (·.stored) :=
        hdata ▸ List.mem_map_of_mem hs
      obtain ⟨t, ht, hst⟩ := List.mem_map.1 hmem
      rw [← hst]
      exact (h.taken t ht).isPlayer
  | _ => exact hbook s hs

theorem racing_apply {e : Event R} (h : e.Enabled book)
    (hbook : ∀ p ∈ book.participants.rows, (book.players.find? p.data.player).isSome = true) :
    ∀ p ∈ (e.apply book).participants.rows, (book.players.find? p.data.player).isSome = true := by
  intro p hp
  rw [participants_apply] at hp
  cases e with
  | participantEntered battle player team =>
    rw [Table.rows_append, List.mem_append, List.mem_singleton] at hp
    rcases hp with hp | rfl
    · exact hbook p hp
    · exact h.2.1
  | resultReported known finish =>
    obtain ⟨q, hq, rfl⟩ := List.mem_map.1 hp
    split <;> exact hbook q hq
  | _ => exact hbook p hp

theorem wagering_apply {e : Event R} (h : e.Enabled book)
    (hbook : ∀ w ∈ book.wagers.rows, (book.users.find? w.data.user).isSome = true) :
    ∀ w ∈ (e.apply book).wagers.rows, (book.users.find? w.data.user).isSome = true := by
  intro w hw
  cases e with
  | wagerPlaced placed =>
    rcases List.mem_append.1 hw with hw | hw
    · exact hbook w hw
    · rw [List.mem_singleton.1 hw]
      exact h.2.2.2.2.known
  | wagerReplaced known team stake now =>
    obtain ⟨v, hv, rfl⟩ := List.mem_map.1 hw
    split <;> exact hbook v hv
  | _ =>
    -- all other events leave what wagers are about
    obtain ⟨v, hv, hterms⟩ := exists_of_map_eq (terms_apply (by simp) (by simp)) hw
    have huser : w.data.user = v.data.user := congrArg (·.1.user) hterms
    exact huser ▸ hbook v hv

theorem refersToKnown_apply {e : Event R} (h : e.Enabled book) (hbook : book.RefersToKnown) :
    (e.apply book).RefersToKnown where
  rated s hs := e.isPlayer_apply (rated_apply h hbook.rated s hs)
  racing p hp := e.isPlayer_apply (racing_apply h hbook.racing p hp)
  wagering w hw := e.isUser_apply (wagering_apply h hbook.wagering w hw)

end Event

/-- What the rows of a reachable book refer to exists. -/
theorem Reachable.refersToKnown (h : Reachable book) : book.RefersToKnown := by
  refine h.induct ⟨?_, ?_, ?_⟩ fun _ _ hbook he => Event.refersToKnown_apply he hbook
  · exact fun _ hs => nomatch hs
  · exact fun _ hp => nomatch hp
  · exact fun _ hw => nomatch hw

end RaceBook
