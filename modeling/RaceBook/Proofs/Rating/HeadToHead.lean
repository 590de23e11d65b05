import RaceBook.Proofs.Race.Outcomes
import RaceBook.Proofs.Rating.Matchups

/-!
# A battle of two, seen from both sides

A cancelled battle counts for a player by the opponent's time, if the opponent has one. So two who
both finished may be told apart by the minimum, and then the battle counts for one of them only.

* `Book.Counts` : a battle is among a player's matchups; `Book.counts_iff_finishTime`;
* `Book.Divided` : a cancelled battle in which the minimum stands between the two times;
* `headToHead_mirrored` : any other battle of two counts for both or for neither, a divided one for
  the one whose opponent's time is beyond the minimum, and what both have is mirrored.
-/

namespace RaceBook

variable {R : Type} {book : Book R} {b : Row Battle} {mine theirs mine' theirs' : Row Participant}
  {player minimum : Int} {initial : Standing R} {w : Window}

namespace Book

def Counts (book : Book R) (player : Int) (w : Window) (initial : Standing R) (minimum : Int)
    (battle : Int) : Prop :=
  ∃ m ∈ book.matchups player w initial minimum, m.battle = battle

/-- The battle of two was cancelled, both have a time, and just one of the times is beyond the
minimum. -/
def Divided (minimum : Int) (b : Row Battle) (mine theirs : Row Participant) : Prop :=
  b.data.status = .cancelled ∧ ∃ s t, mine.data.finish.time = some s ∧
    theirs.data.finish.time = some t ∧ (s ≤ minimum ∧ minimum < t ∨ t ≤ minimum ∧ minimum < s)

theorem duel_of_participantsOf (h : book.EntersOnce) {battle : Int}
    (htwo : book.participantsOf battle = [mine, theirs]) : book.Duel battle mine theirs := by
  have hmine : mine ∈ book.participantsOf battle := by simp [htwo]
  have htheirs : theirs ∈ book.participantsOf battle := by simp [htwo]
  refine ⟨hmine, htheirs, fun hsame => ?_, fun p hp => by simpa [htwo] using hp⟩
  have hnodup := nodup_participantsOf book battle
  have hfirst := (participant?_eq_some_iff h).2 ⟨hmine, rfl⟩
  rw [(participant?_eq_some_iff h).2 ⟨htheirs, hsame⟩] at hfirst
  rw [htwo, Option.some.inj hfirst] at hnodup
  simp at hnodup

theorem Duel.unique {battle : Int} (h : book.Duel battle mine theirs)
    (h' : book.Duel battle mine' theirs') (hplayer : mine'.data.player = mine.data.player) :
    mine' = mine ∧ theirs' = theirs := by
  have hmine : mine' = mine :=
    (h.only mine' h'.mine_mem).resolve_right fun heq => h.distinct (heq ▸ hplayer)
  subst hmine
  exact ⟨rfl, (h.only theirs' h'.theirs_mem).resolve_left fun heq => h'.distinct (heq ▸ rfl)⟩

/-- Whether a battle of two counts is decided by its end, the status and one time. -/
theorem counts_iff_finishTime (h : book.EntersOnce) (hb : b ∈ book.battles.rows)
    (hduel : book.Duel b.id mine theirs) (w : Window) (initial : Standing R) (minimum : Int) :
    book.Counts mine.data.player w initial minimum b.id ↔
      w.covers b.data = true ∧
        b.data.counts (theirs.data.finish.time <|> mine.data.finish.time) minimum = true := by
  rw [Counts, exists_mem_matchups h hb, Window.covers_iff, BattleStatus.isTerminal_iff,
    Battle.counts_iff]
  constructor
  · rintro ⟨mine', theirs', ended, hplayer, heligible⟩
    obtain ⟨rfl, rfl⟩ := hduel.unique heligible.duel hplayer
    exact ⟨⟨heligible.terminal, ended, heligible.ended_at, heligible.started, heligible.stopped⟩,
      heligible.counts⟩
  · rintro ⟨⟨hterminal, ended, hended, hstarted, hstopped⟩, hcounts⟩
    exact ⟨mine, theirs, ended, rfl, hb, hterminal, hended, hstarted, hstopped, hduel, hcounts⟩

theorem mirrored (h : book.EntersOnce) (hduel : book.Duel b.id mine theirs) {m n : Matchup R}
    (hm : m ∈ book.matchups mine.data.player w initial minimum) (hmb : m.battle = b.id)
    (hn : n ∈ book.matchups theirs.data.player w initial minimum) (hnb : n.battle = b.id) :
    m.opponent = theirs.data.player ∧ n.opponent = mine.data.player ∧
      n.outcome = m.outcome.swapped := by
  obtain ⟨c, mine', theirs', _, hplayer, heligible, hview⟩ := (mem_matchups h).1 hm
  obtain ⟨d, theirs'', mine'', _, hplayer', heligible', hview'⟩ := (mem_matchups h).1 hn
  have hc := heligible.duel
  have hd := heligible'.duel
  rw [← hview.battle, hmb] at hc
  rw [← hview'.battle, hnb] at hd
  obtain ⟨rfl, rfl⟩ := hduel.unique hc hplayer
  obtain ⟨rfl, rfl⟩ := hduel.symm.unique hd hplayer'
  refine ⟨hview.opponent, hview'.opponent, ?_⟩
  rw [hview.outcome, hview'.outcome, Outcome.swapped_of]

theorem counts_comm (hended : b.data.status.isTerminal = true)
    (h : ¬Divided minimum b mine theirs) :
    b.data.counts (theirs.data.finish.time <|> mine.data.finish.time) minimum = true ↔
      b.data.counts (mine.data.finish.time <|> theirs.data.finish.time) minimum = true := by
  rw [Battle.counts_iff, Battle.counts_iff]
  rcases BattleStatus.isTerminal_iff.1 hended with hstatus | hstatus
  · exact iff_of_true (.inl hstatus) (.inl hstatus)
  · refine or_congr_right ?_
    unfold Divided at h
    cases hmine : mine.data.finish.time with
    | none => cases theirs.data.finish.time <;> exact Iff.rfl
    | some s => cases htheirs : theirs.data.finish.time with
      | none => exact Iff.rfl
      | some t =>
        have hsame : minimum < t ↔ minimum < s := by
          by_contra hne
          exact h ⟨hstatus, s, t, hmine, htheirs, by omega⟩
        simpa using hsame

theorem Divided.counts_iff (h : Divided minimum b mine theirs) :
    b.data.counts (theirs.data.finish.time <|> mine.data.finish.time) minimum = true ↔
      ∃ t, theirs.data.finish.time = some t ∧ minimum < t := by
  obtain ⟨hstatus, s, t, -, htheirs, -⟩ := h
  rw [Battle.counts_iff, hstatus, htheirs]
  simp

theorem Divided.symm (h : Divided minimum b mine theirs) : Divided minimum b theirs mine := by
  obtain ⟨hstatus, s, t, hmine, htheirs, hbetween⟩ := h
  exact ⟨hstatus, t, s, htheirs, hmine, hbetween.symm⟩

end Book

/-- A battle of two counts for both or for neither, and then with mirrored outcomes, unless it is
divided: then it counts for the one whose opponent was longer on the way. -/
theorem headToHead_mirrored [Arithmetic R] (h : Reachable book) (hb : b ∈ book.battles.rows)
    (htwo : book.participantsOf b.id = [mine, theirs]) (w : Window) (initial : Standing R)
    (minimum : Int) :
    (¬Book.Divided minimum b mine theirs →
      (book.Counts mine.data.player w initial minimum b.id ↔
        book.Counts theirs.data.player w initial minimum b.id)) ∧
    (Book.Divided minimum b mine theirs →
      (book.Counts mine.data.player w initial minimum b.id ↔
        w.covers b.data = true ∧ ∃ t, theirs.data.finish.time = some t ∧ minimum < t) ∧
      (book.Counts theirs.data.player w initial minimum b.id ↔
        w.covers b.data = true ∧ ∃ s, mine.data.finish.time = some s ∧ minimum < s)) ∧
    ∀ m ∈ book.matchups mine.data.player w initial minimum,
      ∀ n ∈ book.matchups theirs.data.player w initial minimum,
        m.battle = b.id → n.battle = b.id →
          m.opponent = theirs.data.player ∧ n.opponent = mine.data.player ∧
            n.outcome = m.outcome.swapped ∧
            (m.outcome.score : Float) + n.outcome.score = 1.0 := by
  have hduel := Book.duel_of_participantsOf h.entersOnce htwo
  have hmine := Book.counts_iff_finishTime h.entersOnce hb hduel w initial minimum
  have htheirs := Book.counts_iff_finishTime h.entersOnce hb hduel.symm w initial minimum
  refine ⟨fun hdivided => ?_, fun hdivided => ⟨?_, ?_⟩, fun m hm n hn hmb hnb => ?_⟩
  · rw [hmine, htheirs]
    exact and_congr_right fun hcovers =>
      Book.counts_comm (Window.covers_iff.1 hcovers).1 hdivided
  · rw [hmine, hdivided.counts_iff]
  · rw [htheirs, hdivided.symm.counts_iff]
  · obtain ⟨hopponent, hopponent', hswapped⟩ := Book.mirrored h.entersOnce hduel hm hmb hn hnb
    refine ⟨hopponent, hopponent', hswapped, ?_⟩
    rw [hswapped]
    exact m.outcome.score_add_swapped

/-- Ann and Bob both finish, and then their battle is cancelled. -/
def abandoned : List (Operation Float) :=
  let key (c : Char) := String.ofList (List.replicate 64 c)
  [.command (.register (key 'a') "Ann" ⟨1500.0, 350.0, 0.06⟩),
    .command (.register (key 'b') "Bob" ⟨1500.0, 350.0, 0.06⟩),
    .command (.createBattle "loop" (.ofTicks 9) (.ofTicks 1)),
    .command (.addParticipant 1 1 0), .command (.addParticipant 1 2 1),
    .command (.reportResult 1 1 ⟨some 700, false⟩),
    .command (.reportResult 1 2 ⟨some 1100, false⟩),
    .command (.concludeBattle 1 (.ofTicks 5) true)]

def abandonedBattle : Row Battle :=
  ⟨1, ⟨"loop", .cancelled, .ofTicks 1, .ofTicks 9, some (.ofTicks 5)⟩⟩

theorem abandoned_rows :
    (Operation.run abandoned .empty).battles.rows = [abandonedBattle] ∧
      (Operation.run abandoned .empty).participantsOf 1 =
        [⟨1, ⟨1, 1, .red, ⟨some 700, false⟩⟩⟩, ⟨2, ⟨1, 2, .blue, ⟨some 1100, false⟩⟩⟩] := by
  decide +kernel

/-- The battle is among Ann's matchups, since Bob took long enough, and not among Bob's. -/
theorem headToHead_mirrored_abandoned :
    let book := Operation.run abandoned .empty
    let w : Window := ⟨.ofTicks 2, .ofTicks 6⟩
    Reachable book ∧ book.Counts 1 w ⟨1500.0, 350.0, 0.06⟩ 1050 1 ∧
      ¬book.Counts 2 w ⟨1500.0, 350.0, 0.06⟩ 1050 1 := by
  obtain ⟨hbattles, htwo⟩ := abandoned_rows
  have hreachable : Reachable (Operation.run abandoned .empty) := Reachable.empty.run _
  have hmem : abandonedBattle ∈ (Operation.run abandoned .empty).battles.rows := by simp [hbattles]
  have hdivided : Book.Divided 1050 abandonedBattle ⟨1, ⟨1, 1, .red, ⟨some 700, false⟩⟩⟩
      ⟨2, ⟨1, 2, .blue, ⟨some 1100, false⟩⟩⟩ :=
    ⟨rfl, 700, 1100, rfl, rfl, .inl ⟨by decide, by decide⟩⟩
  obtain ⟨-, hcounts, -⟩ := headToHead_mirrored hreachable hmem htwo ⟨.ofTicks 2, .ofTicks 6⟩
    ⟨1500.0, 350.0, 0.06⟩ 1050
  obtain ⟨hann, hbob⟩ := hcounts hdivided
  refine ⟨hreachable, hann.2 ⟨by decide, 1100, rfl, by decide⟩, fun hlisted => ?_⟩
  obtain ⟨-, s, hs, hlong⟩ := hbob.1 hlisted
  cases hs
  exact absurd hlong (by decide)

/-- So a battle of two does not always count for both or for neither. -/
theorem headToHead_one_sided :
    ¬∀ book : Book Float, Reachable book →
      ∀ b ∈ book.battles.rows, b.data.status.isTerminal = true → ∀ mine theirs, book.participantsOf b.id = [mine, theirs] →
        ∀ (w : Window) (initial : Standing Float) (minimum : Int), 0 ≤ minimum →
          (book.Counts mine.data.player w initial minimum b.id ↔
            book.Counts theirs.data.player w initial minimum b.id) := by
  intro h
  obtain ⟨hbattles, htwo⟩ := abandoned_rows
  have hsame := h _ (Reachable.empty.run abandoned) abandonedBattle (by simp [hbattles]) rfl _ _
    htwo ⟨.ofTicks 2, .ofTicks 6⟩ ⟨1500.0, 350.0, 0.06⟩ 1050 (by decide)
  have hlists : (((Operation.run abandoned .empty).matchups 1 ⟨.ofTicks 2, .ofTicks 6⟩
      ⟨1500.0, 350.0, 0.06⟩ 1050).map (·.battle) = [1]) ∧
      (Operation.run abandoned .empty).matchups 2 ⟨.ofTicks 2, .ofTicks 6⟩
        ⟨1500.0, 350.0, 0.06⟩ 1050 = [] := by decide +kernel
  have hann : (Operation.run abandoned .empty).Counts 1 ⟨.ofTicks 2, .ofTicks 6⟩
      ⟨1500.0, 350.0, 0.06⟩ 1050 1 := List.mem_map.1 (hlists.1 ▸ List.mem_singleton.2 rfl)
  obtain ⟨m, hm, -⟩ := hsame.1 hann
  rw [show _ = [] from hlists.2] at hm
  cases hm

end RaceBook
