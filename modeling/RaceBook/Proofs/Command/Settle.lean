import Mathlib.Data.List.TakeWhile
import RaceBook.Arithmetic.Double
import RaceBook.Command.Settle
import RaceBook.Proofs.Settlement.Cleared

/-!
# Settling battles from the command line

* `askedBattles?` : the level and the numbers that the words give, no numbers to ask for all pending
  battles;
* `settleBattles_of_settleEach` : the command reports what comes of its battles;
  `settleBattles_of_not_accepts` : it does nothing when it cannot open the log;
* `Book.InRange` : the numbers of a list and the balances to come are such as rows may hold;
* `settleBattles_exact` : what the command reports, what it writes, and that neither the order of
  the numbers nor their repetitions matter for the book after it.
-/

namespace RaceBook

/-- The level of the log that the words name, and the numbers of battles that they give. -/
def askedBattles? (words : List String) : Option (String × List Int) := do
  let line ← CommandLine.read? settleForms words
  let ids ← line.operands.mapM CommandLine.wholeNumber?
  return (line.logLevel, ids)

variable {log : Log} {setting : Setting} {words : List String} {level : String} {ids : List Int}
  {items : List BatchItem} {book later : Book Float}

/-! ## The command -/

def Book.targets (book : Book Float) (ids : List Int) : List Int :=
  if ids.isEmpty then book.pendingBattles else ids

theorem Session.report_of_ok {s : Session Float Report} {report : Report}
    (h : s book = .ok report later) : s.report book = (.ok report, later) := by
  rw [Session.report, h]

theorem failed_batchReport (items : List BatchItem) :
    (batchReport items).failed = items.any (·.isSkipped) := by
  cases items <;> rfl

theorem askedBattles?_eq_some : askedBattles? words = some (level, ids) ↔
    ∃ line, CommandLine.read? settleForms words = some line ∧ line.logLevel = level ∧
      line.operands.mapM CommandLine.wholeNumber? = some ids := by
  simp only [askedBattles?, Option.bind_eq_bind, Option.bind_eq_some_iff, Option.pure_def,
    Option.some.injEq, Prod.mk.injEq]
  constructor
  · rintro ⟨line, hline, _, hnumbers, rfl, rfl⟩
    exact ⟨line, hline, rfl, hnumbers⟩
  · rintro ⟨line, hline, rfl, hnumbers⟩
    exact ⟨line, hline, ids, hnumbers, rfl, rfl⟩

/-- Nothing is looked at when the log cannot be opened. -/
theorem settleBattles_of_not_accepts (hwords : askedBattles? words = some (level, ids))
    (hlevel : ¬log.Accepts level) :
    settleBattles log setting words book = (.error (Log.badLevel level), book) := by
  obtain ⟨line, hline, rfl, hnumbers⟩ := askedBattles?_eq_some.1 hwords
  simp only [settleBattles, hline, hnumbers, Log.open?_of_not_accepts hlevel]
  rfl

/-- The command reports what comes of its battles, when rows may hold their numbers. -/
theorem settleBattles_of_settleEach (hwords : askedBattles? words = some (level, ids))
    (hlevel : log.Accepts level) (hids : ∀ id ∈ book.targets ids, Session.isStorable id = true)
    (hsettle : Session.settleEach setting.now (book.targets ids) book = .ok items later) :
    settleBattles log setting words book = (.ok (batchReport items), later) := by
  obtain ⟨line, hline, rfl, hnumbers⟩ := askedBattles?_eq_some.1 hwords
  have htake : (book.targets ids).takeWhile Session.isStorable = book.targets ids :=
    List.takeWhile_eq_self_iff.2 hids
  have hfind : (book.targets ids).find? (!Session.isStorable ·) = none :=
    List.find?_eq_none.2 fun id hid => by simp [hids id hid]
  simp only [settleBattles, hline, hnumbers, Log.open?_of_accepts hlevel]
  refine Session.report_of_ok (Session.bind_eq_ok.2 ⟨book, book, rfl, Session.bind_eq_ok.2
    ⟨items, later, ?_, Session.bind_eq_ok.2 ⟨(), later, ?_, rfl⟩⟩⟩)
  · exact (congrArg (Session.settleEach setting.now · book) htake).trans hsettle
  · change ((book.targets ids).find? (!Session.isStorable ·)).forM Session.checkRange later =
      .ok () later
    rw [hfind]
    rfl

/-- The numbers of a list are such as rows may hold, and so are the balances after the pending
battles among them are settled. -/
structure Book.InRange (book : Book Float) (ids : List Int) : Prop where
  storable : ∀ id ∈ ids, Session.isStorable id = true
  balances : book.BearsAll ids

/-- Battles are reported as told by the book before the command, and settled. -/
theorem Reachable.settleBattles_eq (h : Reachable book) (setting : Setting)
    (hwords : askedBattles? words = some (level, ids)) (hlevel : log.Accepts level)
    (hrange : book.InRange (book.targets ids)) :
    ∃ later, settleBattles log setting words book =
        (.ok (batchReport (book.answers [] (book.targets ids))), later) ∧
      Reachable later ∧ book.Clears later (book.targets ids) setting.now := by
  obtain ⟨hsettle, hclears⟩ :=
    (Book.Clears.refl book setting.now).settleEach_eq h h hrange.balances
  exact ⟨_, settleBattles_of_settleEach hwords hlevel hrange.storable hsettle, h.run _, hclears⟩

/-- **Settling several battles.** When the log takes its level and no number is out of range, each
battle of a list is reported in turn, the pending ones are settled once, and neither order nor
repetition matters. Without a list all pending battles are settled, and none is left. -/
theorem settleBattles_exact (log : Log) (setting : Setting) (book : Book Float)
    (h : Reachable book) :
    (∀ words level ids, askedBattles? words = some (level, ids) → ¬log.Accepts level →
      settleBattles log setting words book = (.error (Log.badLevel level), book)) ∧
    (∀ words level ids, askedBattles? words = some (level, ids) → log.Accepts level → ids ≠ [] →
      book.InRange ids →
      ∃ later, settleBattles log setting words book =
          (.ok (batchReport (book.answers [] ids)), later) ∧
        ((batchReport (book.answers [] ids)).failed = true ↔ ∃ id ∈ ids, book.Skips id) ∧
        (∀ r, .resolved r ∈ book.answers [] ids → r.totalPaid = r.totalStaked) ∧
        book.Clears later ids setting.now ∧ book.PaysEach later ids ∧
        ∀ log' words' level' ids', askedBattles? words' = some (level', ids') →
          log'.Accepts level' → (∀ id, id ∈ ids' ↔ id ∈ ids) →
          ∃ report other, settleBattles log' setting words' book = (.ok report, other) ∧
            later.SettledAlike other) ∧
    ∀ words level, askedBattles? words = some (level, []) → log.Accepts level →
      book.InRange book.pendingBattles →
      let items := (book.battles.rows.filter book.isPending).map fun b =>
        BatchItem.resolved ⟨b.id, book.victorOf b, book.payoutsOn b, false⟩
      ∃ later, settleBattles log setting words book = (.ok (batchReport items), later) ∧
        (batchReport items).failed = false ∧
        book.Clears later book.pendingBattles setting.now ∧
        book.PaysEach later book.pendingBattles ∧ later.pendingBattles = [] ∧
        ∀ log' setting' words' level', askedBattles? words' = some (level', []) →
          log'.Accepts level' →
          settleBattles log' setting' words' later =
            (.ok (.saying ["No battles to settle."]), later) := by
  refine ⟨fun words level ids => settleBattles_of_not_accepts, ?_, ?_⟩
  · intro words level ids hwords hlevel hne hrange
    have htargets : ∀ ids : List Int, ids ≠ [] → book.targets ids = ids :=
      fun ids hne => if_neg (by simpa using hne)
    obtain ⟨later, hrun, hlater, hclears⟩ :=
      h.settleBattles_eq setting hwords hlevel ((htargets ids hne).symm ▸ hrange)
    rw [htargets ids hne] at hrun hclears
    refine ⟨later, hrun, ?_, fun r => Book.totalPaid_of_mem_answers h, hclears,
      hclears.paysEach h hlater, fun log' words' level' ids' hwords' hlevel' hids => ?_⟩
    · rw [failed_batchReport, Book.any_isSkipped_answers]
    · have hne' : ids' ≠ [] := by
        rintro rfl
        obtain ⟨id, hid⟩ := List.exists_mem_of_ne_nil ids hne
        cases (hids id).2 hid
      have hrange' : book.InRange ids' := ⟨fun id hid => hrange.storable id ((hids id).1 hid),
        h.bearsAll_mono (fun id => (hids id).1) hrange.balances⟩
      obtain ⟨other, hrun', hother, hclears'⟩ :=
        h.settleBattles_eq setting hwords' hlevel' ((htargets ids' hne').symm ▸ hrange')
      rw [htargets ids' hne'] at hclears'
      exact ⟨_, other, hrun', hclears.settledAlike hclears' hids h hlater hother⟩
  · intro words level hwords hlevel hrange items
    have hitems : book.answers [] book.pendingBattles = items := Book.answers_pendingBattles
    obtain ⟨later, hrun, hlater, hclears⟩ := h.settleBattles_eq setting hwords hlevel hrange
    have hnone : later.pendingBattles = [] := hclears.pendingBattles_eq_nil
    refine ⟨later, hitems ▸ hrun, ?_, hclears, hclears.paysEach h hlater, hnone,
      fun log' setting' words' level' hwords' hlevel' => ?_⟩
    · rw [failed_batchReport, List.any_map, List.any_eq_false]
      exact fun _ _ => Bool.false_ne_true
    · have htargets : later.targets [] = [] := hnone
      have hnothing : batchReport [] = .saying ["No battles to settle."] := rfl
      rw [← hnothing]
      refine settleBattles_of_settleEach hwords' hlevel' ?_ ?_
      · rw [htargets]
        exact fun _ hid => nomatch hid
      · rw [htargets]
        exact Session.settleEach_nil

/-- After the derby the same players race again, with wagers the other way round, and a third race is
announced. -/
def doubleHeader : List (Operation Float) := derby ++ [
  .command (.createBattle "oval" (.ofTicks 15) (.ofTicks 7)),
  .command (.addParticipant 2 1 0),
  .command (.addParticipant 2 2 1),
  .command (.placeWager 1 2 1 20 3.0 (.ofTicks 8)),
  .command (.placeWager 2 2 0 45 3.0 (.ofTicks 8)),
  .command (.reportResult 2 1 ⟨some 900, false⟩),
  .command (.reportResult 2 2 ⟨some 850, false⟩),
  .command (.concludeBattle 2 (.ofTicks 16) false),
  .command (.createBattle "night" (.ofTicks 25) (.ofTicks 17))]

/-- The second race is named twice, with one that does not exist and the third one. Another order
leads to the same balances, without numbers both races are settled at once, and at a level that no
log has none is. -/
theorem settleBattles_exact_doubleHeader :
    let book := Operation.run doubleHeader .empty
    let setting : Setting := ⟨.ok .standard, .ofTicks 30⟩
    settleBattles .unopened setting ["--log-level", "Loud", "1"] book =
      (.error (.refused (.invalid (.logLevel "LOUD"))), book) ∧
    ∃ report later report' other report'' last,
      settleBattles .unopened setting ["--log-level", "Debug", "2", "9", "1", "2", "3"] book =
        (.ok report, later) ∧ report.failed = true ∧
      report.output = ["battle_id=2 victor=blue wagers=2 staked=65 paid=65 already_settled=False",
        "battle_id=1 victor=red wagers=2 staked=80 paid=80 already_settled=False",
        "battle_id=2 victor=blue wagers=2 staked=65 paid=65 already_settled=True"] ∧
      later.balanceOf 1 = 195 ∧ later.balanceOf 2 = 5 ∧
      settleBattles .unopened setting ["3", "1", "2", "9"] book = (.ok report', other) ∧
      later.SettledAlike other ∧
      settleBattles .unopened setting [] book = (.ok report'', last) ∧ report''.failed = false ∧
      settleBattles .unopened setting [] last =
        (.ok (.saying ["No battles to settle."]), last) := by
  intro book setting
  have hbook : Reachable book := Reachable.empty.run doubleHeader
  obtain ⟨hranges, hpending, hunknown, hcarl, hdora⟩ :
      (∀ ids ∈ [[2, 9, 1, 2, 3], [1, 2]], (∀ id ∈ ids, Session.isStorable id = true) ∧
        book.BearsAll ids) ∧
      book.pendingBattles = [1, 2] ∧ book.battles.find? 9 = none ∧
      book.balanceOf 1 + book.dueTo [2, 9, 1, 2, 3] 1 = 195 ∧
      book.balanceOf 2 + book.dueTo [2, 9, 1, 2, 3] 2 = 5 := by decide +kernel
  have hwords : askedBattles? ["--log-level", "Debug", "2", "9", "1", "2", "3"] =
      some ("Debug", [2, 9, 1, 2, 3]) := by decide +kernel
  have hwords' : askedBattles? ["3", "1", "2", "9"] = some ("INFO", [3, 1, 2, 9]) := by
    decide +kernel
  have hinfo : Log.unopened.Accepts "INFO" := .inr (by decide +kernel)
  obtain ⟨hrefused, hnumbers, hnone⟩ := settleBattles_exact .unopened setting book hbook
  have hloud := hrefused ["--log-level", "Loud", "1"] "Loud" [1] (by decide +kernel)
    (by decide +kernel)
  obtain ⟨later, hrun, hfailed, -, hclears, -, hsame⟩ := hnumbers _ _ _ hwords
    (.inr (by decide +kernel)) (by decide) ⟨(hranges _ (by decide)).1, (hranges _ (by decide)).2⟩
  have hids : ∀ id : Int, id ∈ [3, 1, 2, 9] ↔ id ∈ [2, 9, 1, 2, 3] := by
    intro id
    simp only [List.mem_cons, List.not_mem_nil, or_false]
    omega
  obtain ⟨report', other, hrun', halike⟩ := hsame _ _ _ _ hwords' hinfo hids
  have hall : book.InRange book.pendingBattles := by
    rw [hpending]
    exact ⟨(hranges _ (by decide)).1, (hranges _ (by decide)).2⟩
  obtain ⟨last, hrun'', hgood, -, -, -, hagain⟩ := hnone [] "INFO" rfl hinfo hall
  have hcapitals : Text.inCapitals "Loud" = "LOUD" := by decide +kernel
  refine ⟨by rw [hloud, Log.badLevel, hcapitals], _, later, report', other, _, last, hrun,
    hfailed.2 ⟨9, by decide, ?_⟩, by decide +kernel, ?_, ?_, hrun', halike, hrun'', hgood,
    hagain .unopened setting [] "INFO" rfl hinfo⟩
  · intro found hfound
    rw [hunknown] at hfound
    cases hfound
  · rw [hclears.balances, hcarl]
  · rw [hclears.balances, hdora]

end RaceBook
