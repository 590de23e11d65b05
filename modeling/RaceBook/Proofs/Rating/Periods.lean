import RaceBook.Rating.CatchUp
import RaceBook.Proofs.Rating.Latest
import RaceBook.Proofs.Store.Rows
import RaceBook.Proofs.Store.Sessions

/-!
# Writing periods

* `Period.marked`, `Period.ended`, `Book.marked` : a period that is closing, a period that closed,
  and the book in which an open period is marked;
* `Book.recordedSummary` : what is told of a period that was closed before;
* `Session.insertPeriod_eq_ok`, `Session.ensureOpenPeriod_eq_ok`, `Session.beginClosing_eq_ok`,
  `Session.recordedClose_eq_ok`.
-/

namespace RaceBook

variable {R : Type} {book later : Book R}

def Period.marked (p : Period) : Period := { p with status := .closing }

def Period.ended (p : Period) (endedAt : Moment) : Period :=
  { p with status := .closed, endedAt := some endedAt }

namespace Book

def withPeriod (book : Book R) (startedAt : Moment) : Book R :=
  { book with periods := book.periods.append ⟨.opened, startedAt, none⟩ }

/-- The book in which an open period is marked as closing. -/
def marked (book : Book R) (found : Row Period) : Book R :=
  if found.data.status = .opened then
    { book with periods := book.periods.modify found.id Period.marked }
  else book

/-- The period that a request to close is about: the one of the given number, or else the latest,
if that is not closed. -/
def Picks (book : Book R) (period? : Option Int) (found : Row Period) : Prop :=
  period? = some found.id ∧ book.periods.find? found.id = some found ∨
    period? = none ∧ book.latestPeriod? = some found ∧ found.data.status ≠ .closed

/-- Nothing is picked without a number when there is no period or the latest one is closed. -/
def NothingToClose (book : Book R) : Prop :=
  ∀ found, book.latestPeriod? = some found → found.data.status = .closed

def recordedSummary (book : Book R) (found : Row Period) (endedAt : Moment) : ClosingSummary where
  closed := found.id
  next := (book.nextPeriod? found.id).map (·.id)
  startedAt := found.data.startedAt
  endedAt
  ratedPlayers := (book.snapshotsIn found.id).length
  skippedPlayers := []
  alreadyClosed := true

theorem openPeriods_eq_nil :
    book.openPeriods = [] ↔ ∀ p ∈ book.periods.rows, p.data.status ≠ .opened := by
  simp [openPeriods]

theorem latestPeriod?_eq_none : book.latestPeriod? = none ↔ book.periods.rows = [] :=
  latest?_eq_none

theorem find?_of_latestPeriod? {last : Row Period} (h : book.latestPeriod? = some last) :
    book.periods.find? last.id = some last := Table.find?_of_mem (mem_of_latest? h)

theorem find?_of_picks {period? : Option Int} {found : Row Period} (h : book.Picks period? found) :
    book.periods.find? found.id = some found := by
  rcases h with ⟨-, hfound⟩ | ⟨-, hlatest, -⟩
  · exact hfound
  · exact find?_of_latestPeriod? hlatest

theorem marked_ne_closed {p : Period} : p.marked.status ≠ .closed := by
  rintro ⟨⟩

theorem marked_cases (book : Book R) {found : Row Period} (hclosed : found.data.status ≠ .closed) :
    (book.marked found = book ∧ (⟨found.id, found.data.marked⟩ : Row Period) = found) ∨
      book.marked found = { book with periods := book.periods.modify found.id Period.marked } := by
  unfold marked
  cases hstatus : found.data.status with
  | opened => exact .inr (if_pos rfl)
  | closing =>
    refine .inl ⟨if_neg (by decide), ?_⟩
    rw [Period.marked, ← hstatus]
  | closed => exact absurd hstatus hclosed

theorem find?_marked {found : Row Period} (hfound : book.periods.find? found.id = some found)
    (hclosed : found.data.status ≠ .closed) :
    (book.marked found).periods.find? found.id = some ⟨found.id, found.data.marked⟩ := by
  rcases marked_cases book hclosed with ⟨hbook, hrow⟩ | hbook
  · rw [hbook, hrow, hfound]
  · rw [hbook]
    exact Table.find?_modify_self hfound

end Book

namespace Session

theorem period_eq_ok {id : Int} {row : Row Period} :
    period id book = .ok row later ↔ book.periods.find? id = some row ∧ book = later := by
  simp only [period, bind_eq_ok, get_eq_ok, demand_eq_ok, and_assoc, exists_and_left,
    exists_eq_left']

theorem openPeriod?_eq_ok {row? : Option (Row Period)} :
    openPeriod? book = .ok row? later ↔ book.openPeriods = row?.toList ∧ book = later := by
  simp only [openPeriod?, bind_eq_ok, read_eq_ok, and_assoc, exists_and_left, exists_eq_left']
  rcases book.openPeriods with _ | ⟨found, _ | ⟨second, rest⟩⟩
  · cases row? <;> simp
  · cases row? <;> simp
  · cases row? <;> simp

theorem insertPeriod_eq_ok {entry : Period} {row : Row Period} :
    insertPeriod entry book = .ok row later ↔
      (entry.status = .opened → book.openPeriods = []) ∧ row = ⟨book.periods.nextId, entry⟩ ∧
        later = { book with periods := book.periods.append entry } := by
  have hcheck : (entry.status ≠ .opened || book.openPeriods.isEmpty) = true ↔
      (entry.status = .opened → book.openPeriods = []) := by
    by_cases hstatus : entry.status = .opened <;> simp [hstatus]
  simp only [insertPeriod, bind_eq_ok, get_eq_ok, check_eq_ok, set_eq_ok, pure_eq_ok, hcheck,
    and_assoc, exists_and_left, exists_eq_left', exists_const]
  rw [eq_comm (a := row), eq_comm (a := later)]

/-- The open period is found, or the first one of all is opened. -/
theorem ensureOpenPeriod_eq_ok {now : Moment} {row : Row Period} :
    ensureOpenPeriod now book = .ok row later ↔
      (book.openPeriods = [row] ∧ later = book) ∨
      (book.periods.rows = [] ∧ row = ⟨book.periods.nextId, ⟨.opened, now, none⟩⟩ ∧
        later = book.withPeriod now) := by
  simp only [ensureOpenPeriod, bind_eq_ok, openPeriod?_eq_ok, and_assoc]
  constructor
  · rintro ⟨open?, _, hopen, rfl, hrun⟩
    cases open? with
    | some found =>
      obtain ⟨rfl, rfl⟩ := pure_eq_ok.1 hrun
      exact .inl ⟨hopen, rfl⟩
    | none =>
      simp only [bind_eq_ok, read_eq_ok, and_assoc, exists_and_left, exists_eq_left'] at hrun
      cases hlatest : book.latestPeriod? with
      | some last => simp [hlatest] at hrun
      | none =>
        rw [hlatest] at hrun
        obtain ⟨-, hrow, hlater⟩ := insertPeriod_eq_ok.1 hrun
        exact .inr ⟨Book.latestPeriod?_eq_none.1 hlatest, hrow, hlater⟩
  · rintro (⟨hopen, rfl⟩ | ⟨hrows, hrow, hlater⟩)
    · exact ⟨some row, later, hopen, rfl, pure_eq_ok.2 ⟨rfl, rfl⟩⟩
    · have hopen : book.openPeriods = [] := by rw [Book.openPeriods, hrows, List.filter_nil]
      refine ⟨none, book, hopen, rfl, ?_⟩
      simp only [bind_eq_ok, read_eq_ok, and_assoc, exists_and_left, exists_eq_left',
        Book.latestPeriod?_eq_none.2 hrows]
      exact insertPeriod_eq_ok.2 ⟨fun _ => hopen, hrow, hlater⟩

/-! ## Closing -/

theorem recordedClose_eq_ok {found : Row Period} {r : ClosingSummary} :
    recordedClose found book = .ok r later ↔
      ∃ endedAt, found.data.endedAt = some endedAt ∧ r = book.recordedSummary found endedAt ∧
        later = book := by
  simp only [recordedClose, bind_eq_ok, get_eq_ok, demand_eq_ok, pure_eq_ok, and_assoc,
    exists_and_left, exists_eq_left']
  refine exists_congr fun endedAt => and_congr_right fun _ => ?_
  rw [eq_comm, eq_comm (a := later)]
  rfl

theorem markClosing_eq_ok {found : Row Period} {u : Unit} :
    markClosing found book = .ok u later ↔ later = book.marked found := by
  unfold markClosing Book.marked
  split
  · rw [modify_eq_ok, eq_comm]
    rfl
  · simp [eq_comm]

/-- The period of the given number is marked; without a number it is the latest one, if that is
not closed. -/
theorem beginClosing_eq_ok {period? id? : Option Int} :
    beginClosing period? book = .ok id? later ↔
      (period? = none ∧ book.NothingToClose ∧ id? = none ∧ later = book) ∨
      (∃ found, book.Picks period? found ∧ id? = some found.id ∧ later = book.marked found) := by
  unfold Book.Picks Book.NothingToClose
  cases period? with
  | some id =>
    simp only [beginClosing, bind_eq_ok, period_eq_ok, markClosing_eq_ok, pure_eq_ok, and_assoc,
      exists_and_left, exists_eq_left', exists_eq_left, exists_const]
    constructor
    · rintro ⟨found, hfound, rfl, rfl⟩
      obtain rfl := Table.id_of_find? hfound
      exact .inr ⟨found, .inl ⟨rfl, hfound⟩, rfl, rfl⟩
    · rintro (⟨hnone, -⟩ | ⟨found, ⟨hid, hfound⟩ | ⟨hnone, -⟩, rfl, rfl⟩)
      · cases hnone
      · cases hid
        exact ⟨found, hfound, rfl, rfl⟩
      · cases hnone
  | none =>
    simp only [beginClosing, bind_eq_ok, read_eq_ok, and_assoc, exists_and_left, exists_eq_left']
    cases hlatest : book.latestPeriod? with
    | none => simp [eq_comm]
    | some last =>
      by_cases hclosed : last.data.status = .closed
      · simp [hclosed, eq_comm]
      · simp only [bind_eq_ok, if_neg hclosed, markClosing_eq_ok, pure_eq_ok]
        constructor
        · rintro ⟨_, _, rfl, rfl, rfl⟩
          exact .inr ⟨last, .inr ⟨trivial, rfl, hclosed⟩, rfl, rfl⟩
        · rintro (⟨-, hlast, -⟩ | ⟨found, ⟨hid, -⟩ | ⟨-, hfound, -⟩, rfl, rfl⟩)
          · exact absurd (hlast last rfl) hclosed
          · cases hid
          · cases hfound
            exact ⟨(), _, rfl, rfl, rfl⟩

end Session

end RaceBook
