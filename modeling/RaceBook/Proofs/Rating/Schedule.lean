import RaceBook.Proofs.Rating.CatchUp
import RaceBook.Proofs.Rating.Early
import RaceBook.Proofs.Rating.Simultaneous

/-!
# The schedule of catching up

* `Book.ClosesInTurn.after` : races may come before closes in turn or after them;
* `Operation.InOrder` : no battle ends, and no request to catch up comes, before the time of an
  earlier request to catch up;
* `Operation.closed?`, `Operation.closedBy?` : what requests to catch up tell, if none is refused;
* `Book.ClosesInTurn.run` : races with requests to catch up between them close the periods in turn
  that are due after the races;
* `catchUp_schedule` : so one request in the end does the same.
-/

namespace RaceBook

variable {R : Type} [Arithmetic R] {book later : Book R} {config : Config R} {length : Int}
  {now : Moment} {ss : List ClosingSummary}

/-! ## Races and closes in turn -/

theorem Book.ClosesInTurn.after {op : Operation R}
    (h : ClosesInTurn config length now book ss later) (hop : op.isRace = true)
    (hclock : ∀ time ∈ op.clock?, now ≤ time) :
    ClosesInTurn config length now (op.after book) ss (op.after later) := by
  induction h with
  | done book => exact .done (op.after book)
  | @close book later found stop rest hdue hcloses _ ih =>
    have hkeeps : book.KeepsRatings (op.after book) := Operation.keepsRatings_after hop book
    have hstop : ∀ time ∈ op.clock?, stop ≤ time :=
      fun time htime => Nat.le_trans hdue.elapsed (hclock time htime)
    have hsees : book.SeesSame (found.data.windowTo stop) (op.after book) :=
      Operation.seesSame_after hop hstop book
    -- the race moves in front of this close, which finds the same behind it
    rw [Operation.after_closed hop hstop hcloses] at ih
    rw [← hsees.summary_eq hkeeps]
    refine .close ⟨?_, hdue.notClosed, hdue.ends, hdue.elapsed⟩
      (hcloses.of_seesSame hsees hkeeps) ih
    rw [latestPeriod?, hkeeps.periods]
    exact hdue.latest

theorem Book.ClosesInTurn.periods_ne_nil (h : ClosesInTurn config length now book ss later)
    (hbook : book.periods.rows ≠ []) : later.periods.rows ≠ [] := by
  induction h with
  | done book => exact hbook
  | close _ _ _ ih => exact ih (List.append_ne_nil_of_right_ne_nil _ (by simp))

namespace Operation

/-! ## Runs with requests to catch up -/

def catchUpTime? : Operation R → Option Moment
  | .closeElapsed _ now => some now
  | _ => none

/-- The second operation neither ends a battle nor catches up before the time up to which the first
one caught up. -/
def InOrder (first second : Operation R) : Prop :=
  ∀ time ∈ first.catchUpTime?, ∀ clock ∈ second.clock?, time ≤ clock

instance (first second : Operation R) : Decidable (first.InOrder second) :=
  inferInstanceAs (Decidable (∀ time ∈ first.catchUpTime?, ∀ clock ∈ second.clock?, time ≤ clock))

/-- What an operation tells of the periods that a request to catch up closes; none when that is
refused. -/
def closed? (op : Operation R) (book : Book R) : Option (List ClosingSummary) :=
  match op with
  | .closeElapsed config now =>
    match Session.closeElapsed config now book with
    | .ok ss _ => some ss
    | .error .. => none
  | _ => some []

def closedBy? : List (Operation R) → Book R → Option (List ClosingSummary)
  | [], _ => some []
  | op :: rest, book => do return (← op.closed? book) ++ (← closedBy? rest (op.after book))

theorem closed?_of_isRace {op : Operation R} (hop : op.isRace = true) :
    op.closed? book = some [] := by
  cases op with
  | closeElapsed => cases hop
  | _ => rfl

theorem closedBy?_cons {op : Operation R} {rest : List (Operation R)} :
    closedBy? (op :: rest) book = some ss ↔
      ∃ first second, op.closed? book = some first ∧ closedBy? rest (op.after book) = some second ∧
        ss = first ++ second := by
  simp only [closedBy?, Option.bind_eq_bind, Option.bind_eq_some_iff, Option.pure_def,
    Option.some.injEq]
  constructor
  · rintro ⟨first, hfirst, second, hsecond, rfl⟩
    exact ⟨first, second, hfirst, hsecond, rfl⟩
  · rintro ⟨first, second, hfirst, hsecond, rfl⟩
    exact ⟨first, hfirst, second, hsecond, rfl⟩

theorem closedBy?_append {ops rest : List (Operation R)}
    (h : closedBy? (ops ++ rest) book = some ss) :
    ∃ first second, closedBy? ops book = some first ∧
      closedBy? rest (run ops book) = some second ∧ ss = first ++ second := by
  induction ops generalizing book ss with
  | nil => exact ⟨[], ss, rfl, h, rfl⟩
  | cons op ops ih =>
    obtain ⟨head, tail, hhead, htail, rfl⟩ := closedBy?_cons.1 h
    obtain ⟨first, second, hfirst, hsecond, rfl⟩ := ih htail
    exact ⟨head ++ first, second, closedBy?_cons.2 ⟨head, first, hhead, hfirst, rfl⟩, hsecond,
      (List.append_assoc ..).symm⟩

theorem closeElapsed_eq_ok {reply : Reply R} :
    (Operation.closeElapsed config now).perform book = .ok reply later ↔
      ∃ ss, Session.closeElapsed config now book = .ok ss later ∧ reply = .summaries ss := by
  rw [perform, Session.map_eq_ok]
  constructor
  · rintro ⟨ss, hrun, rfl⟩
    exact ⟨ss, hrun, rfl⟩
  · rintro ⟨ss, hrun, rfl⟩
    exact ⟨ss, hrun, rfl⟩

theorem closed?_closeElapsed :
    (Operation.closeElapsed config now).closed? book = some ss ↔
      Session.closeElapsed config now book =
        .ok ss ((Operation.closeElapsed config now).after book) := by
  simp only [closed?, after, Session.after, perform, Functor.map, EStateM.map]
  cases Session.closeElapsed config now book <;> simp

/-- Races keep periods and snapshots. -/
theorem keepsRatings_run (ops : List (Operation R)) (book : Book R) :
    book.KeepsRatings (run (ops.filter (·.isRace)) book) := by
  induction ops generalizing book with
  | nil => exact .refl book
  | cons op rest ih =>
    by_cases hop : op.isRace = true
    · rw [List.filter_cons_of_pos hop, run_cons]
      exact (keepsRatings_after hop book).trans (ih _)
    · rw [List.filter_cons_of_neg hop]
      exact ih book

end Operation

/-- Races with requests to catch up between them do what the races alone do, and then close in turn
what the requests closed. -/
theorem Book.ClosesInTurn.run {mid : Book R} {time : Moment}
    (h : ClosesInTurn config length time book ss mid) (hmid : Reachable mid)
    (hperiods : mid.periods.rows ≠ []) (hlength : config.periodLength = .ok length)
    (hpos : 1 ≤ length) {schedule : List (Operation R)}
    (hops : ∀ op ∈ schedule, op.isRace = true ∨ ∃ time, op = .closeElapsed config time)
    (hclocks : ∀ op ∈ schedule, ∀ clock ∈ op.clock?, time ≤ clock)
    (horder : schedule.Pairwise Operation.InOrder) (hnow : time ≤ now)
    (hlast : ∀ op ∈ schedule, ∀ time ∈ op.catchUpTime?, time ≤ now) {ss' : List ClosingSummary}
    (hclosed : Operation.closedBy? schedule mid = some ss') :
    ClosesInTurn config length now (Operation.run (schedule.filter (·.isRace)) book) (ss ++ ss')
      (Operation.run schedule mid) ∧ (Operation.run schedule mid).periods.rows ≠ [] := by
  induction schedule generalizing book mid time ss ss' with
  | nil =>
    cases hclosed
    rw [List.append_nil]
    exact ⟨h.mono hnow, hperiods⟩
  | cons op rest ih =>
    obtain ⟨hop, hrest⟩ := List.forall_mem_cons.1 hops
    obtain ⟨hclock, hclocks⟩ := List.forall_mem_cons.1 hclocks
    obtain ⟨horder, horders⟩ := List.pairwise_cons.1 horder
    obtain ⟨htime, hlasts⟩ := List.forall_mem_cons.1 hlast
    obtain ⟨first, second, hfirst, hsecond, rfl⟩ := Operation.closedBy?_cons.1 hclosed
    rcases hop with hrace | ⟨stop, rfl⟩
    · -- a race may come before all the closes so far
      obtain rfl : [] = first :=
        Option.some.inj ((Operation.closed?_of_isRace hrace).symm.trans hfirst)
      have hkeeps : mid.KeepsRatings (op.after mid) := Operation.keepsRatings_after hrace mid
      rw [List.filter_cons_of_pos hrace, Operation.run_cons, Operation.run_cons, List.nil_append]
      exact ih (h.after hrace hclock) (hmid.step op) (hkeeps.periods ▸ hperiods) hrest hclocks
        horders hnow hlasts hsecond
    · -- what a request closes comes behind the closes so far
      rw [Operation.closed?_closeElapsed,
        Session.closeElapsed_eq_ok hmid.chained hperiods hlength hpos] at hfirst
      obtain ⟨hturn, -⟩ := hfirst
      have hboth := (h.mono (hclock stop rfl)).append hturn
      rw [List.filter_cons_of_neg (by simp [Operation.isRace]), Operation.run_cons,
        ← List.append_assoc]
      exact ih hboth (hmid.step _) (hturn.periods_ne_nil hperiods) hrest
        (fun op hop clock hclock => horder op hop stop rfl clock hclock) horders (htime stop rfl)
        hlasts hsecond

/-- **The schedule of catching up does not matter**: when no request is refused, the last one alone
leaves the same book behind the same races and tells of the same closes. -/
theorem catchUp_schedule (book : Book R) (h : Reachable book) (hperiods : book.periods.rows ≠ [])
    (config : Config R) (length : Int) (hlength : config.periodLength = .ok length)
    (hpos : 1 ≤ length) (schedule : List (Operation R)) (now : Moment)
    (hops : ∀ op ∈ schedule, op.isRace = true ∨ ∃ time, op = .closeElapsed config time)
    (horder : (schedule ++ [Operation.closeElapsed config now]).Pairwise Operation.InOrder)
    (summaries : List ClosingSummary)
    (hclosed : Operation.closedBy? (schedule ++ [Operation.closeElapsed config now]) book =
      some summaries) :
    (Operation.closeElapsed config now).perform
        (Operation.run (schedule.filter (·.isRace)) book) =
      .ok (.summaries summaries)
        (Operation.run (schedule ++ [Operation.closeElapsed config now]) book) := by
  obtain ⟨first, second, hfirst, hsecond, rfl⟩ := Operation.closedBy?_append hclosed
  obtain ⟨last, _, hlast, hnil, rfl⟩ := Operation.closedBy?_cons.1 hsecond
  cases hnil
  obtain ⟨horders, -, hbefore⟩ := List.pairwise_append.1 horder
  have hlasts : ∀ op ∈ schedule, ∀ time ∈ op.catchUpTime?, time ≤ now :=
    fun op hop time htime => hbefore op hop _ (List.mem_singleton.2 rfl) time htime now rfl
  -- nothing is closed yet, at the first moment of the calendar
  have hdone : Book.ClosesInTurn config length ⟨0, by decide⟩ book [] book := .done book
  obtain ⟨hturn, hnonempty⟩ := hdone.run h hperiods hlength hpos hops
    (fun _ _ _ _ => Nat.zero_le _) horders (Nat.zero_le now.ticks) hlasts hfirst
  rw [Operation.closed?_closeElapsed,
    Session.closeElapsed_eq_ok (h.run schedule).chained hnonempty hlength hpos] at hlast
  obtain ⟨hlastTurn, hupto⟩ := hlast
  have hraces : (Operation.run (schedule.filter (·.isRace)) book).periods.rows ≠ [] := by
    rw [(Operation.keepsRatings_run schedule book).periods]
    exact hperiods
  refine Operation.closeElapsed_eq_ok.2 ⟨first ++ last,
    (Session.closeElapsed_eq_ok (h.run _).chained hraces hlength hpos).2 ⟨?_, ?_⟩, by simp⟩
  · rw [Operation.run_append]
    exact hturn.append hlastTurn
  · rw [Operation.run_append]
    exact hupto

/-- Two players in a period that starts at the first tick. -/
def paddock (R : Type) [Arithmetic R] : Book R := Operation.run ((duelists R).take 3) .empty

section EagerDays

open scoped Fractions

/-- The race of two, caught up with at the very end of its day, when another one ends too. -/
def eagerDays : List (Operation Rat) :=
  (duelists Rat).drop 3 ++
    [.command (.createBattle "loop" (.ofTicks 9) (.ofTicks 7)),
      .command (.addParticipant 2 1 0),
      .command (.addParticipant 2 2 1),
      .command (.reportResult 2 2 ⟨some 650, false⟩),
      .closeElapsed .tolerant (.ofTicks (dayTicks + 1)),
      .command (.concludeBattle 2 (.ofTicks (dayTicks + 1)) false),
      .command (.createUser "Dee" 50 (.ofTicks (dayTicks + 2))),
      .closeElapsed .tolerant (.ofTicks (2 * dayTicks))]

/-- One request after three days closes the three periods that three requests close, each of which
rates both players. -/
theorem catchUp_schedule_eagerDays :
    ∃ summaries, (Operation.closeElapsed .tolerant (.ofTicks (3 * dayTicks + 1))).perform
        (Operation.run (eagerDays.filter (·.isRace)) (paddock Rat)) =
      .ok (.summaries summaries)
        (Operation.run (eagerDays ++ [.closeElapsed .tolerant (.ofTicks (3 * dayTicks + 1))])
          (paddock Rat)) ∧
      summaries.map (fun s => (s.closed, s.ratedPlayers)) = [(1, 2), (2, 2), (3, 2)] := by
  have hreachable : Reachable (paddock Rat) := Reachable.empty.run _
  have hperiods : (paddock Rat).periods.rows ≠ [] := by decide +kernel
  have hlength : (Config.tolerant : Config Rat).periodLength = .ok 86400000000 := by
    decide +kernel
  have hops : ∀ op ∈ eagerDays, op.isRace = true ∨ ∃ time, op = .closeElapsed .tolerant time := by
    simp [eagerDays, duelists, Operation.isRace, Command.isRace]
  have hclosed : (Operation.closedBy?
      (eagerDays ++ [.closeElapsed .tolerant (.ofTicks (3 * dayTicks + 1))]) (paddock Rat)).map
        (·.map fun s => (s.closed, s.ratedPlayers)) = some [(1, 2), (2, 2), (3, 2)] := by
    decide +kernel
  obtain ⟨summaries, hclosed, hrated⟩ := Option.map_eq_some_iff.1 hclosed
  exact ⟨summaries, catchUp_schedule (paddock Rat) hreachable hperiods .tolerant _ hlength
    (by decide) eagerDays _ hops (by decide +kernel) summaries hclosed, hrated⟩

end EagerDays

end RaceBook
