import RaceBook.Arithmetic.Double
import RaceBook.Command.Leaderboard
import RaceBook.Proofs.Rating.Leaderboard

/-!
# The leaderboard on the command line

* `Session.report_listLeaders` : the places in lines, if rows may hold the number of them;
* `showLeaderboard_of_asked` : the command is that session, with what the words ask for;
* `showLeaderboard_exact` : who is listed in which order, and where the numbers of a line come from.
-/

namespace RaceBook

variable {setting : Setting} {words : List String} {config : Config Float} {count : Int}
  {limit : Float}

theorem Session.report_listLeaders (name : String) (count : Int) (limit : Float)
    (book : Book Float) :
    (listLeaders name count limit).report book =
      (if isStorable count then
        .ok (.saying (leaderboardLines name count limit (book.leaderboard count.toNat limit)))
      else .error (.refused (.outOfRange count)), book) := by
  unfold report listLeaders checkRange check
  cases isStorable count <;> rfl

theorem showLeaderboard_of_asked
    (h : (leadersAsked setting words).toOption = some (config, count, limit)) (book : Book Float) :
    showLeaderboard setting words book =
      (Session.listLeaders config.name count limit).report book := by
  unfold showLeaderboard
  cases hasked : leadersAsked setting words with
  | error failure =>
    rw [hasked] at h
    cases h
  | ok asked =>
    rw [hasked] at h
    cases Option.some.inj h
    rfl

/-- **The leaderboard is the top of the current ratings**, whatever operations led to the book: each
line is all of one player's latest snapshot, or what they were entered with. More places than a row
may number are refused. -/
theorem showLeaderboard_exact (ops : List (Operation Float)) (count : Int) (limit : Float)
    (hcount : 0 < count) :
    let book := Operation.run ops .empty
    let leaders := book.leaderboard count.toNat limit
    book.IsTop count limit (leaders.map (·.player)) ∧
    (∀ l ∈ leaders,
      (∃ s, book.IsLatest l.player.id s ∧ l.ShowsSnapshot s) ∨
        book.snapshotsOf l.player.id = [] ∧
          ∃ initial, Operation.Enters ops l.player.id initial ∧ l.ShowsStart initial.stored) ∧
    (∀ name, (Session.listLeaders name count limit).report book =
      (if Session.isStorable count then .ok (.saying (leaderboardLines name count limit leaders))
        else .error (.refused (.outOfRange count)), book)) ∧
    ∀ setting words config,
      (leadersAsked setting words).toOption = some (config, count, limit) →
      showLeaderboard setting words book =
        (Session.listLeaders config.name count limit).report book := by
  intro book leaders
  exact ⟨Operation.isTop_leaderboard ops (Int.le_of_lt hcount) limit,
    fun l hl => Leader.of_mem_leaderboard ops hl,
    fun name => Session.report_listLeaders name count limit book,
    fun setting words config hasked => showLeaderboard_of_asked hasked book⟩

/-- Two players have the same rating, one from the later of two snapshots and one from the start. A third
one is rated higher, with a deviation that is too high, and a fourth one lower. -/
def crowdedField : List (Operation Float) :=
  let key (digit : Char) := String.ofList (List.replicate 64 digit)
  [.openFirstPeriod (.ofTicks 3), .closePeriod .standard none (.ofTicks 4),
    .command (.register (key 'a') "Ann" ⟨1500.0, 350.0, 0.06⟩),
    .command (.register (key 'b') "Bob" ⟨1620.0, 350.0, 0.06⟩),
    .command (.register (key 'c') "Cid" ⟨1900.0, 365.0, 0.06⟩),
    .command (.register (key 'd') "Dot" ⟨1500.0, 350.0, 0.06⟩),
    .command (.appendSnapshot ⟨1, 1, ⟨1620.0, 200.0, 0.06⟩, 4, .ofTicks 9⟩),
    .command (.appendSnapshot ⟨2, 1, ⟨1780.0, 190.0, 0.06⟩, 2, .ofTicks 5⟩)]

/-- The smaller number comes first, with the later snapshot, and the fourth player is left out. -/
theorem showLeaderboard_exact_crowdedField :
    let book := Operation.run crowdedField .empty
    let setting : Setting := ⟨.ok .standard, .ofTicks 30⟩
    let leaders := book.leaderboard 2 360.0
    ∃ report, showLeaderboard setting ["--top-n", "2", "--max-rd", "360"] book =
        (.ok report, book) ∧
      report.output = ["config=default top_n=2 max_rd=360.00",
        " 1. Ann                  rating= 1620.00 rd= 200.00 vol=0.06000 period_id=1 matchups=  4",
        " 2. Bob                  rating= 1620.00 rd= 350.00 vol=0.06000 period_id=None matchups=  0"] ∧
      book.IsTop 2 360.0 (leaders.map (·.player)) ∧ leaders.map (·.player.id) = [1, 2] ∧
      ∃ l ∈ leaders, ∃ s, book.IsLatest l.player.id s ∧ l.ShowsSnapshot s := by
  intro book setting leaders
  have hasked : (leadersAsked setting ["--top-n", "2", "--max-rd", "360"]).toOption =
      some (.standard, 2, 360.0) := by decide +kernel
  obtain ⟨hplaces, hlines⟩ :
      leaders.map (fun l => (l.player.id, l.snapshot?.isSome)) = [(1, true), (2, false)] ∧
      (Report.saying (leaderboardLines "default" 2 360.0 leaders)).output =
        ["config=default top_n=2 max_rd=360.00",
          " 1. Ann                  rating= 1620.00 rd= 200.00 vol=0.06000 period_id=1 matchups=  4",
          " 2. Bob                  rating= 1620.00 rd= 350.00 vol=0.06000 period_id=None matchups=  0"]
      := by decide +kernel
  obtain ⟨htop, hshown, hlisted, hrun⟩ := showLeaderboard_exact crowdedField 2 360.0 (by decide)
  refine ⟨_, (hrun setting _ .standard hasked).trans (hlisted _), hlines, htop, ?_, ?_⟩
  · have hids := congrArg (List.map (·.1)) hplaces
    rwa [List.map_map] at hids
  · obtain ⟨first, rest, hleaders, hfirst, -⟩ := List.map_eq_cons_iff.1 hplaces
    have hmem : first ∈ leaders := hleaders ▸ List.mem_cons_self
    refine ⟨first, hmem, ?_⟩
    rcases hshown first hmem with hsnapshot | ⟨-, _, -, hstart⟩
    · exact hsnapshot
    · rw [hstart.snapshot] at hfirst
      exact absurd (congrArg (·.2) hfirst) Bool.false_ne_true

/-- A number of places that no row may have is refused, though it is positive and there is someone to
list. -/
theorem farPlaces_refused :
    let book := Operation.run [.command
      (.register (String.ofList (List.replicate 64 'a')) "Ann" ⟨1500.0, 350.0, 0.06⟩)] .empty
    let setting : Setting := ⟨.ok .standard, .ofTicks 30⟩
    let words := ["--top-n", "9223372036854775808", "--max-rd", "400"]
    Reachable book ∧ (∃ p ∈ book.players.rows, p.data.standing.deviation < 400.0) ∧
      (leadersAsked setting words).toOption = some (.standard, 9223372036854775808, 400.0) ∧
      showLeaderboard setting words book =
        (.error (.refused (.outOfRange 9223372036854775808)), book) := by
  intro book setting words
  have hasked : (leadersAsked setting words).toOption =
      some (.standard, 9223372036854775808, 400.0) := by decide +kernel
  have hrange : Session.isStorable 9223372036854775808 = false := by decide
  refine ⟨Reachable.empty.run _, by decide +kernel, hasked, ?_⟩
  rw [showLeaderboard_of_asked hasked, Session.report_listLeaders, hrange]
  rfl

end RaceBook
