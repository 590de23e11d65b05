import RaceBook.Proofs.Event

/-!
# What has ended stays

An event leaves an ended battle (`Event.battle_apply`) and its participants
(`Event.participantsOf_apply`) as they are, and the battles that ended in a window too, unless one
ends within it (`Event.battlesIn_apply`).
-/

namespace RaceBook.Event

variable {R : Type} [Arithmetic R] {book : Book R} {e : Event R} {battle : Int}
  {found : Row Battle}

/-- An ended battle stays as it is. -/
theorem battle_apply (h : e.Enabled book) (hfound : book.battles.find? battle = some found)
    (hended : found.data.status.isTerminal = true) :
    (e.apply book).battles.find? battle = some found := by
  rw [battles_apply]
  cases e with
  | battleCreated name closesAt now => exact Table.find?_append_of_find? hfound
  | battleEnded other cancelled now =>
    have hongoing : book.Ongoing other := h
    exact (Table.find?_modify_of_ne (hongoing.ne_of_ended hfound hended).symm).trans hfound
  | _ => exact hfound

theorem participantsOf_apply (h : e.Enabled book) (hfound : book.battles.find? battle = some found)
    (hended : found.data.status.isTerminal = true) :
    (e.apply book).participantsOf battle = book.participantsOf battle := by
  rw [Book.participantsOf, participants_apply]
  cases e with
  | participantEntered other player team =>
    have hne := h.1.ne_of_ended hfound hended
    rw [Table.rows_append, List.filter_append, List.filter_singleton]
    simp [hne, Book.participantsOf]
  | resultReported known finish =>
    obtain ⟨hongoing, -, hknown⟩ := h
    have hne := hongoing.ne_of_ended hfound hended
    have hrow := Table.find?_of_mem (List.mem_of_mem_filter (Book.of_participant?_eq_some hknown).1)
    apply Table.filter_modify
    intro p hp
    rw [hrow, Option.some.injEq] at hp
    subst hp
    exact ⟨decide_eq_false hne, decide_eq_false hne⟩
  | _ => rfl

/-- The battles that ended in a window stay the same as long as none ends within it. -/
theorem battlesIn_apply {w : Window} (h : e.Enabled book)
    (hnow : ∀ battle cancelled now, e = .battleEnded battle cancelled now → w.stop ≤ now) :
    (e.apply book).battlesIn w = book.battlesIn w := by
  rw [Book.battlesIn, Book.battlesIn, battles_apply]
  congr 1
  cases e with
  | battleCreated name closesAt now =>
    rw [Table.rows_append, List.filter_append, List.filter_singleton]
    exact List.append_nil _
  | battleEnded other cancelled now =>
    obtain ⟨known, hknown, hongoing⟩ := h
    apply Table.filter_modify
    intro b hb
    rw [hknown, Option.some.injEq] at hb
    subst hb
    constructor
    · rw [Window.covers, hongoing]
      rfl
    · rw [Bool.eq_false_iff]
      intro hcovers
      obtain ⟨-, time, htime, -, hstop⟩ := Window.covers_iff.1 hcovers
      cases htime
      exact absurd (hnow other cancelled now rfl) (Nat.not_le.2 hstop)
  | _ => rfl

end RaceBook.Event
