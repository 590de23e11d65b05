import RaceBook.Battle
import RaceBook.Proofs.Store.Rows

/-!
# Reports of players and battles

When a player is registered, a battle is announced, an entrant joins, a result is reported and a
battle is ended, and what each of these writes (`Session.register_eq_ok`,
`Session.createBattle_eq_ok`, `Session.addParticipant_eq_ok`, `Session.reportResult_eq_ok`,
`Session.concludeBattle_eq_ok`). All but the first two are about an ongoing battle.
-/

namespace RaceBook

variable {R : Type} {book later : Book R}

/-- The store takes a standing: all three are numbers, and the last two are positive. -/
structure Standing.IsStorable [Arithmetic R] (s : Standing R) : Prop where
  numbers : s.missing? = none
  deviation_pos : 0.0 < s.deviation
  volatility_pos : 0.0 < s.volatility

def Book.Ongoing (book : Book R) (battle : Int) : Prop :=
  ∃ found, book.battles.find? battle = some found ∧ found.data.status = .ongoing

theorem Book.Ongoing.ne_of_ended {battle ended : Int} {found : Row Battle}
    (h : book.Ongoing battle) (hfound : book.battles.find? ended = some found)
    (hended : found.data.status.isTerminal = true) : battle ≠ ended := by
  rintro rfl
  obtain ⟨known, hknown, hongoing⟩ := h
  rw [hfound, Option.some.injEq] at hknown
  rw [hknown, hongoing] at hended
  cases hended

theorem Book.of_participant?_eq_some {battle player : Int} {p : Row Participant}
    (h : book.participant? battle player = some p) :
    p ∈ book.participantsOf battle ∧ p.data.player = player ∧ p.data.battle = battle := by
  have hp := List.mem_of_find?_eq_some h
  have hplayer := List.find?_some h
  exact ⟨hp, of_decide_eq_true hplayer, of_decide_eq_true (List.mem_filter.1 hp).2⟩

namespace Session

theorem standingChecks_eq_ok [Arithmetic R] {s : Standing R} {u : Unit}
    {missing : NumberColumn → Fault R} {deviation volatility : Fault R} :
    (do
      if let some column := s.missing? then throw (missing column)
      check (0.0 < s.deviation) deviation
      check (0.0 < s.volatility) volatility : Session R Unit) book = .ok u later ↔
        s.IsStorable ∧ book = later := by
  cases hmissing : s.missing? with
  | some column =>
    simp only [bind_eq_ok, throw_eq_ok, false_and, exists_false, false_iff]
    rintro ⟨⟨hnone, -, -⟩, -⟩
    rw [hmissing] at hnone
    cases hnone
  | none =>
    simp only [bind_eq_ok, check_eq_ok, decide_eq_true_eq, and_assoc, exists_and_left,
      exists_eq_left', exists_const]
    constructor
    · rintro ⟨hdeviation, hvolatility, rfl⟩
      exact ⟨⟨hmissing, hdeviation, hvolatility⟩, rfl⟩
    · rintro ⟨⟨-, hdeviation, hvolatility⟩, rfl⟩
      exact ⟨hdeviation, hvolatility, rfl⟩

theorem checkPlayer_eq_ok [Arithmetic R] {s : Standing R} {u : Unit} :
    checkPlayer s book = .ok u later ↔ s.IsStorable ∧ book = later := standingChecks_eq_ok

theorem checkSnapshot_eq_ok [Arithmetic R] {s : Standing R} {u : Unit} :
    checkSnapshot s book = .ok u later ↔ s.IsStorable ∧ book = later := standingChecks_eq_ok

theorem battle_eq_ok {id : Int} {row : Row Battle} :
    battle id book = .ok row later ↔ book.battles.find? id = some row ∧ book = later := by
  simp only [battle, bind_eq_ok, get_eq_ok, demand_eq_ok, and_assoc, exists_and_left,
    exists_eq_left']

theorem ongoingBattle_eq_ok {id : Int} {row : Row Battle} :
    ongoingBattle id book = .ok row later ↔
      book.battles.find? id = some row ∧ row.data.status = .ongoing ∧ book = later := by
  have hongoing : ∀ status : BattleStatus, (!status.isTerminal) = true ↔ status = .ongoing := by
    intro status
    cases status <;> decide
  simp only [ongoingBattle, bind_eq_ok, battle_eq_ok, check_eq_ok, pure_eq_ok, hongoing, and_assoc,
    exists_and_left, exists_eq_left', exists_const]
  grind

theorem player_eq_ok {id : Int} {row : Row (Player R)} :
    player id book = .ok row later ↔ book.players.find? id = some row ∧ book = later := by
  simp only [player, bind_eq_ok, get_eq_ok, demand_eq_ok, and_assoc, exists_and_left,
    exists_eq_left']

theorem team_eq_ok {number : Int} {team' : Team} :
    team number book = .ok team' later ↔ Team.ofNumber? number = some team' ∧ book = later := by
  rw [team, demand_eq_ok]

/-! ## Players -/

/-- A known key gets the new name; a new one enters a player. -/
theorem register_eq_ok [Arithmetic R] {key name : String} {initial : Standing R}
    {row : Row (Player R)} :
    register key name initial book = .ok row later ↔
      isPublicKey key = true ∧
      match book.players.rows.find? (·.data.publicKey = key.toLower) with
      | some known =>
        row = ⟨known.id, { known.data with displayName := name }⟩ ∧
          later = { book with
            players := book.players.modify known.id ({ · with displayName := name }) }
      | none =>
        initial.IsStorable ∧ row = ⟨book.players.nextId, ⟨key.toLower, name, initial, none⟩⟩ ∧
          later = { book with
            players := book.players.append ⟨key.toLower, name, initial.stored, none⟩ } := by
  simp only [register, bind_eq_ok, check_eq_ok, get_eq_ok, and_assoc, exists_and_left,
    exists_eq_left', exists_const]
  refine and_congr_right fun _ => ?_
  cases book.players.rows.find? (·.data.publicKey = key.toLower) with
  | some known =>
    simp only [bind_eq_ok, modify_eq_ok, pure_eq_ok, exists_eq_left', exists_const]
    grind
  | none =>
    simp only [bind_eq_ok, checkPlayer_eq_ok, get_eq_ok, modify_eq_ok, pure_eq_ok, and_assoc,
      exists_and_left, exists_eq_left', exists_const]
    grind

/-! ## Battles -/

theorem createBattle_eq_ok {name : String} {closesAt now : Moment} {row : Row Battle} :
    createBattle name closesAt now book = .ok row later ↔
      now ≤ closesAt ∧ row = ⟨book.battles.nextId, ⟨name, .ongoing, now, closesAt, none⟩⟩ ∧
        later = { book with
          battles := book.battles.append ⟨name, .ongoing, now, closesAt, none⟩ } := by
  simp only [createBattle, bind_eq_ok, check_eq_ok, get_eq_ok, modify_eq_ok, pure_eq_ok,
    decide_eq_true_eq, and_assoc, exists_and_left, exists_eq_left', exists_const]
  grind

theorem addParticipant_eq_ok {battleId playerId number : Int} {row : Row Participant} :
    addParticipant battleId playerId number book = .ok row later ↔
      book.Ongoing battleId ∧
      (book.players.find? playerId).isSome = true ∧
      book.participant? battleId playerId = none ∧
      ∃ team, Team.ofNumber? number = some team ∧
        row = ⟨book.participants.nextId, ⟨battleId, playerId, team, .pending⟩⟩ ∧
        later = { book with
          participants := book.participants.append ⟨battleId, playerId, team, .pending⟩ } := by
  unfold Book.Ongoing
  simp only [addParticipant, bind_eq_ok, ongoingBattle_eq_ok, player_eq_ok, read_eq_ok, check_eq_ok,
    team_eq_ok, get_eq_ok, modify_eq_ok, pure_eq_ok, and_assoc, exists_and_left, exists_eq_left',
    exists_const, Option.isNone_iff_eq_none, Option.isSome_iff_exists]
  grind

theorem reportResult_eq_ok {battleId playerId : Int} {finish : Finish} {row : Row Participant} :
    reportResult battleId playerId finish book = .ok row later ↔
      book.Ongoing battleId ∧
      (∀ tics ∈ finish.time, 0 ≤ tics) ∧
      ∃ known, book.participant? battleId playerId = some known ∧
        row = ⟨known.id, { known.data with finish }⟩ ∧
        later = { book with
          participants := book.participants.modify known.id ({ · with finish }) } := by
  unfold Book.Ongoing
  cases htime : finish.time with
  | none =>
    simp only [reportResult, htime, bind_eq_ok, ongoingBattle_eq_ok, read_eq_ok, demand_eq_ok,
      modify_eq_ok, pure_eq_ok, and_assoc, exists_and_left, exists_eq_left', exists_const]
    grind
  | some tics =>
    simp only [reportResult, htime, bind_eq_ok, ongoingBattle_eq_ok, read_eq_ok, demand_eq_ok,
      check_eq_ok, modify_eq_ok, pure_eq_ok, and_assoc, exists_and_left, exists_eq_left',
      exists_const, decide_eq_true_eq, Option.mem_some_iff, forall_eq']
    grind

/-- The battle gets its final status and the time at which it ended. -/
theorem concludeBattle_eq_ok {battleId : Int} {now : Moment} {cancelled : Bool}
    {row : Row Battle} :
    concludeBattle battleId now cancelled book = .ok row later ↔
      ∃ known, book.battles.find? battleId = some known ∧ known.data.status = .ongoing ∧
        let status := if cancelled then .cancelled else .concluded
        row = ⟨battleId, { known.data with status, concludedAt := some now }⟩ ∧
        later = { book with
          battles := book.battles.modify battleId
            ({ · with status, concludedAt := some now }) } := by
  simp only [concludeBattle, bind_eq_ok, ongoingBattle_eq_ok, modify_eq_ok, pure_eq_ok, and_assoc,
    exists_and_left, exists_eq_left', exists_const]
  constructor
  · rintro ⟨known, hfound, hongoing, rfl, rfl⟩
    refine ⟨known, hfound, hongoing, ?_⟩
    rw [Table.id_of_find? hfound]
    exact ⟨rfl, rfl⟩
  · rintro ⟨known, hfound, hongoing, rfl, rfl⟩
    refine ⟨known, hfound, hongoing, ?_⟩
    rw [Table.id_of_find? hfound]
    exact ⟨rfl, rfl⟩

end Session

end RaceBook
