import Mathlib.Data.List.Chain
import Mathlib.Data.List.Pairwise
import RaceBook.Proofs.Operations

/-!
# The chain of periods

* `Period.Precedes` : one period is over before another begins;
* `Book.Chained` : the periods follow one another without gaps, and only the last one is not closed;
* `Event.chained_apply`, `Reachable.chained` : so they do in every reachable book;
* `Event.period_apply`, `Event.closed_of_apply` : closed periods stay as they are, and only a close
  makes another one;
* `Book.Chained.existsUnique_window` : a time between the first period's start and the last one's is
  in one closed period.
-/

namespace RaceBook

variable {R : Type} {book later : Book R}

/-- A period is closed, and another one does not begin before its end. -/
def Period.Precedes (p q : Period) : Prop :=
  p.status = .closed ∧ ∃ endedAt, p.endedAt = some endedAt ∧ p.startedAt ≤ endedAt ∧
    endedAt ≤ q.startedAt

/-- A period is closed and covers a time. -/
def Period.Holds (p : Period) (time : Moment) : Prop :=
  p.status = .closed ∧ ∃ endedAt, p.endedAt = some endedAt ∧ p.startedAt ≤ time ∧ time < endedAt

theorem Period.Precedes.not_holds {p q : Period} {time : Moment} (h : p.Precedes q)
    (hp : p.Holds time) : ¬q.Holds time := by
  rintro ⟨-, _, -, hstart, -⟩
  obtain ⟨-, endedAt, hended, -, hle⟩ := h
  obtain ⟨-, stop, hstop, -, hlt⟩ := hp
  rw [hended, Option.some.injEq] at hstop
  subst hstop
  exact Nat.lt_irrefl _ (Nat.lt_of_lt_of_le hlt (Nat.le_trans hle hstart))

namespace Book

/-- The periods follow one another, each begins where the one before it ended, and the last one is
not closed. -/
structure Chained (book : Book R) : Prop where
  ordered : book.periods.rows.Pairwise fun p q => p.data.Precedes q.data
  linked : book.periods.rows.IsChain fun p q => p.data.endedAt = some q.data.startedAt
  lastRuns : ∀ last ∈ book.periods.rows.getLast?,
    last.data.status ≠ .closed ∧ last.data.endedAt = none

namespace Chained

/-- A period that is not closed is the last one. -/
theorem eq_append_of_notClosed (h : book.Chained) {p : Row Period} (hp : p ∈ book.periods.rows)
    (hrunning : p.data.status ≠ .closed) : ∃ before, book.periods.rows = before ++ [p] := by
  obtain ⟨before, after, hrows⟩ := List.append_of_mem hp
  have hordered := h.ordered
  rw [hrows, List.pairwise_append, List.pairwise_cons] at hordered
  cases after with
  | nil => exact ⟨before, hrows⟩
  | cons q rest => exact absurd (hordered.2.1.1 q List.mem_cons_self).1 hrunning

end Chained

theorem chained_iff_of_append {before : List (Row Period)} {last : Row Period}
    (hrows : book.periods.rows = before ++ [last]) :
    book.Chained ↔
      (before.Pairwise fun p q => p.data.Precedes q.data) ∧
      (before.IsChain fun p q => p.data.endedAt = some q.data.startedAt) ∧
      (∀ p ∈ before, p.data.Precedes last.data) ∧
      (∀ p ∈ before.getLast?, p.data.endedAt = some last.data.startedAt) ∧
      last.data.status ≠ .closed ∧ last.data.endedAt = none := by
  constructor
  · rintro ⟨hordered, hlinked, hlast⟩
    rw [hrows, List.pairwise_append] at hordered
    rw [hrows, List.isChain_append] at hlinked
    rw [hrows, List.getLast?_concat] at hlast
    exact ⟨hordered.1, hlinked.1, fun p hp => hordered.2.2 p hp last (List.mem_singleton.2 rfl),
      fun p hp => hlinked.2.2 p hp last rfl, hlast last rfl⟩
  · rintro ⟨hordered, hlinked, hbefore, hlink, hlast⟩
    refine ⟨?_, ?_, ?_⟩
    · rw [hrows, List.pairwise_append]
      refine ⟨hordered, List.pairwise_singleton _ _, fun p hp q hq => ?_⟩
      rw [List.mem_singleton.1 hq]
      exact hbefore p hp
    · rw [hrows, List.isChain_append]
      refine ⟨hlinked, List.isChain_singleton _, fun p hp q hq => ?_⟩
      cases hq
      exact hlink p hp
    · rw [hrows, List.getLast?_concat]
      rintro _ ⟨⟩
      exact hlast

/-- A closed period comes before one that is not closed, and ends before that one begins. -/
theorem Chained.before_of_closed (h : book.Chained) {p q : Row Period}
    (hp : p ∈ book.periods.rows) (hclosed : p.data.status = .closed)
    (hq : q ∈ book.periods.rows) (hrunning : q.data.status ≠ .closed) :
    p.id < q.id ∧ p.data.Precedes q.data := by
  obtain ⟨before, hrows⟩ := h.eq_append_of_notClosed hq hrunning
  have hpbefore : p ∈ before := by
    rw [hrows, List.mem_append, List.mem_singleton] at hp
    rcases hp with hp | rfl
    · exact hp
    · exact absurd hclosed hrunning
  exact ⟨Table.id_lt_last hrows hpbefore, ((chained_iff_of_append hrows).1 h).2.2.1 p hpbefore⟩

theorem Chained.exists_endedAt (h : book.Chained) {p : Row Period} (hp : p ∈ book.periods.rows)
    (hclosed : p.data.status = .closed) : ∃ endedAt, p.data.endedAt = some endedAt := by
  cases hlast : book.periods.rows.getLast? with
  | none =>
    rw [List.getLast?_eq_none_iff.1 hlast] at hp
    cases hp
  | some last =>
    obtain ⟨-, -, endedAt, hended, -⟩ := h.before_of_closed hp hclosed
      (List.mem_of_getLast? hlast) (h.lastRuns last hlast).1
    exact ⟨endedAt, hended⟩

theorem chained_congr (h : later.periods = book.periods) : later.Chained ↔ book.Chained := by
  constructor
  · rintro ⟨hordered, hlinked, hlast⟩
    exact ⟨h ▸ hordered, h ▸ hlinked, h ▸ hlast⟩
  · rintro ⟨hordered, hlinked, hlast⟩
    exact ⟨h ▸ hordered, h ▸ hlinked, h ▸ hlast⟩

end Book

/-! ## Events keep the chain -/

section

variable [Arithmetic R]

theorem Event.chained_apply {e : Event R} (h : e.Enabled book) (hbook : book.Chained) :
    (e.apply book).Chained := by
  have hperiods := e.periods_apply book
  have hopened : PeriodStatus.opened ≠ .closed := by decide
  cases e with
  | periodOpened now =>
    have hrows : (book.withPeriod now).periods.rows =
        [] ++ [⟨book.periods.nextId, ⟨.opened, now, none⟩⟩] := by
      rw [Book.withPeriod, Table.rows_append, show book.periods.rows = [] from h]
    refine (Book.chained_iff_of_append hrows).2 ⟨.nil, .nil, ?_, ?_, hopened, rfl⟩
    · exact fun _ hp => nomatch hp
    · exact fun _ hp => nomatch hp
  | periodMarked found =>
    obtain ⟨hfound, hstatus⟩ := h
    have hrunning : found.data.status ≠ .closed := by rwa [hstatus]
    obtain ⟨before, hrows⟩ := hbook.eq_append_of_notClosed (Table.mem_of_find? hfound) hrunning
    have hlater : (book.marked found).periods.rows =
        before ++ [⟨found.id, found.data.marked⟩] := by
      rw [Book.marked, if_pos hstatus]
      exact Table.rows_modify_last hrows
    obtain ⟨hordered, hlinked, hbefore, hlink, -, hnone⟩ := (Book.chained_iff_of_append hrows).1 hbook
    exact (Book.chained_iff_of_append hlater).2
      ⟨hordered, hlinked, hbefore, hlink, Book.marked_ne_closed, hnone⟩
  | periodClosed config found endedAt =>
    obtain ⟨before, hrows⟩ :=
      hbook.eq_append_of_notClosed (Table.mem_of_find? h.known) h.notClosed
    obtain ⟨hordered, hlinked, hbefore, hlink, -⟩ := (Book.chained_iff_of_append hrows).1 hbook
    have hlater : (book.closed config found endedAt).periods.rows =
        (before ++ [⟨found.id, found.data.ended endedAt⟩]) ++
          [⟨book.periods.nextId, ⟨.opened, endedAt, none⟩⟩] := by
      rw [Book.closed, Table.rows_append, Table.rows_modify_last hrows, Table.nextId_modify]
    refine (Book.chained_iff_of_append hlater).2 ⟨?_, ?_, ?_, ?_, hopened, rfl⟩
    · rw [List.pairwise_append]
      refine ⟨hordered, List.pairwise_singleton _ _, fun p hp q hq => ?_⟩
      rw [List.mem_singleton.1 hq]
      exact hbefore p hp
    · rw [List.isChain_append]
      refine ⟨hlinked, List.isChain_singleton _, fun p hp q hq => ?_⟩
      cases hq
      exact hlink p hp
    · intro p hp
      rcases List.mem_append.1 hp with hp | hp
      · obtain ⟨hclosed, ended, hended, hstart, hle⟩ := hbefore p hp
        exact ⟨hclosed, ended, hended, hstart, Nat.le_trans hle h.order⟩
      · rw [List.mem_singleton.1 hp]
        exact ⟨rfl, endedAt, rfl, h.order, Nat.le_refl _⟩
    · rw [List.getLast?_concat]
      rintro _ ⟨⟩
      rfl
  | _ => exact (Book.chained_congr hperiods).2 hbook

/-- A closed period stays as it is. -/
theorem Event.period_apply {e : Event R} (h : e.Enabled book) {id : Int} {p : Row Period}
    (hp : book.periods.find? id = some p) (hclosed : p.data.status = .closed) :
    (e.apply book).periods.find? id = some p := by
  have hne : ∀ found, book.periods.find? found.id = some found → found.data.status ≠ .closed →
      id ≠ found.id := by
    rintro found hfound hrunning rfl
    rw [hp, Option.some.injEq] at hfound
    exact hrunning (hfound ▸ hclosed)
  rw [e.periods_apply book]
  cases e with
  | periodOpened now => exact Table.find?_append_of_find? hp
  | periodMarked found =>
    obtain ⟨hfound, hstatus⟩ := h
    have hrunning : found.data.status ≠ .closed := by rw [hstatus]; decide
    have hmarked : (book.marked found).periods =
        book.periods.modify found.id Period.marked := by rw [Book.marked, if_pos hstatus]
    exact (congrArg (Table.find? · id) hmarked).trans
      ((Table.find?_modify_of_ne (hne found hfound hrunning)).trans hp)
  | periodClosed config found endedAt =>
    exact Table.find?_append_of_find?
      ((Table.find?_modify_of_ne (hne found h.known h.notClosed)).trans hp)
  | _ => exact hp

theorem Event.closed_of_apply {e : Event R} (h : e.Enabled book) {p : Row Period}
    (hp : p ∈ (e.apply book).periods.rows) (hclosed : p.data.status = .closed) :
    p ∈ book.periods.rows ∨ ∃ config found endedAt, e = .periodClosed config found endedAt ∧
      p = ⟨found.id, found.data.ended endedAt⟩ := by
  rw [e.periods_apply book] at hp
  cases e with
  | periodOpened now =>
    rw [Table.rows_append, List.mem_append, List.mem_singleton] at hp
    rcases hp with hp | rfl
    · exact .inl hp
    · cases hclosed
  | periodMarked found =>
    obtain ⟨hfound, hstatus⟩ := h
    have hmarked : (book.marked found).periods =
        book.periods.modify found.id Period.marked := by rw [Book.marked, if_pos hstatus]
    change p ∈ (book.marked found).periods.rows at hp
    rw [hmarked, Table.rows_modify] at hp
    obtain ⟨q, hq, rfl⟩ := List.mem_map.1 hp
    by_cases hid : q.id = found.id
    · rw [if_pos hid] at hclosed
      exact absurd hclosed Book.marked_ne_closed
    · rw [if_neg hid]
      exact .inl hq
  | periodClosed config found endedAt =>
    rw [Table.rows_append, List.mem_append, List.mem_singleton] at hp
    rcases hp with hp | rfl
    · rw [Table.rows_modify] at hp
      obtain ⟨q, hq, rfl⟩ := List.mem_map.1 hp
      by_cases hid : q.id = found.id
      · have hsame := Table.eq_of_id_eq hq (Table.mem_of_find? h.known) hid
        subst hsame
        rw [if_pos rfl]
        exact .inr ⟨config, q, endedAt, rfl, rfl⟩
      · rw [if_neg hid]
        exact .inl hq
    · cases hclosed
  | _ => exact .inl hp

theorem Reachable.chained (h : Reachable book) : book.Chained :=
  h.induct ⟨.nil, .nil, fun _ hlast => nomatch hlast⟩
    fun _ _ hbook he => Event.chained_apply he hbook

end

/-! ## The period of a time -/

namespace Book.Chained

/-- From the start of one period to that of a later one every time is in some period between. -/
theorem exists_holds {l : List (Row Period)} {first last : Row Period} {time : Moment}
    (hlinked : l.IsChain fun p q => p.data.endedAt = some q.data.startedAt)
    (hfirst : l.head? = some first) (hlast : l.getLast? = some last)
    (hstart : first.data.startedAt ≤ time) (hstop : time < last.data.startedAt) :
    ∃ p ∈ l, ∃ endedAt, p.data.endedAt = some endedAt ∧ p.data.startedAt ≤ time ∧
      time < endedAt := by
  induction l generalizing first with
  | nil => cases hfirst
  | cons p rest ih =>
    cases hfirst
    cases rest with
    | nil =>
      cases hlast
      exact absurd hstop (Nat.not_lt.2 hstart)
    | cons q more =>
      rw [List.isChain_cons_cons] at hlinked
      by_cases hq : time < q.data.startedAt
      · exact ⟨p, List.mem_cons_self, _, hlinked.1, hstart, hq⟩
      · rw [List.getLast?_cons_cons] at hlast
        obtain ⟨r, hr, hholds⟩ := ih hlinked.2 rfl hlast (Nat.not_lt.1 hq)
        exact ⟨r, List.mem_cons_of_mem _ hr, hholds⟩

theorem eq_of_holds {l : List (Row Period)} {time : Moment}
    (hordered : l.Pairwise fun p q => p.data.Precedes q.data) {p q : Row Period} (hp : p ∈ l)
    (hq : q ∈ l) (hpholds : p.data.Holds time) (hqholds : q.data.Holds time) : p = q := by
  induction l with
  | nil => cases hp
  | cons r rest ih =>
    obtain ⟨hr, hrest⟩ := List.pairwise_cons.1 hordered
    rcases List.mem_cons.1 hp with rfl | hprest
    · rcases List.mem_cons.1 hq with rfl | hqrest
      · rfl
      · exact absurd hqholds ((hr q hqrest).not_holds hpholds)
    · rcases List.mem_cons.1 hq with rfl | hqrest
      · exact absurd hpholds ((hr p hprest).not_holds hqholds)
      · exact ih hrest hprest hqrest

/-- A time between the first period's start and the last one's is in one closed period. -/
theorem existsUnique_window (h : book.Chained) {first last : Row Period} {time : Moment}
    (hfirst : book.periods.rows.head? = some first) (hlast : book.periods.rows.getLast? = some last)
    (hstart : first.data.startedAt ≤ time) (hstop : time < last.data.startedAt) :
    ∃ p ∈ book.periods.rows, p.data.Holds time ∧
      ∀ q ∈ book.periods.rows, q.data.Holds time → q = p := by
  obtain ⟨p, hp, endedAt, hended, hle, hlt⟩ := exists_holds h.linked hfirst hlast hstart hstop
  have hclosed : p.data.status = .closed := by
    by_contra hrunning
    obtain ⟨before, hrows⟩ := h.eq_append_of_notClosed hp hrunning
    have hnone := (chained_iff_of_append hrows).1 h |>.2.2.2.2.2
    rw [hended] at hnone
    cases hnone
  have hholds : p.data.Holds time := ⟨hclosed, endedAt, hended, hle, hlt⟩
  exact ⟨p, hp, hholds, fun q hq hqholds => eq_of_holds h.ordered hq hp hqholds hholds⟩

end Book.Chained

end RaceBook
