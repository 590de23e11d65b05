import Mathlib.Data.List.Nodup
import RaceBook.Proofs.Glicko.Faults
import RaceBook.Proofs.Rating.Latest
import RaceBook.Proofs.Rating.Windows
import RaceBook.Proofs.Settlement.Frozen

/-!
# Which matchups a player has

* `Book.Duel` : two entrants of a battle, and no one else was in it; `Duel.filter_others`;
* `Book.StoodAt` : a player's standing at a time, by their snapshots; `Book.standingAt_eq_iff`;
* `Book.IsMatchup` : what a battle was for one of two, told by the rows of the book;
  `Book.mem_matchups` : just these are listed;
* `Row.MadeBefore`, `Book.pairwise_battlesIn`, `Book.battlesIn_split` : the battles of a window in
  order, and those of two windows that meet;
* `rate_ne_selfPairing` : matchups against others are never refused as played against oneself;
* `matchups_exact` : all of this for the books that operations lead to.
-/

namespace RaceBook

variable {R : Type} {book : Book R} {b c : Row Battle} {mine theirs p : Row Participant}
  {player minimum : Int} {initial standing : Standing R} {w : Window} {m : Matchup R}
  {ended : Moment}

/-! ## Battles that count -/

theorem BattleStatus.isTerminal_iff {status : BattleStatus} :
    status.isTerminal = true ↔ status = .concluded ∨ status = .cancelled := by
  cases status <;> decide

theorem Battle.counts_iff {b : Battle} {finishTime : Option Int} :
    b.counts finishTime minimum = true ↔
      b.status = .concluded ∨ ∃ time, finishTime = some time ∧ minimum < time := by
  rw [counts, Bool.or_eq_true, decide_eq_true_eq, Option.any_eq_true]
  simp only [decide_eq_true_eq]

/-! ## Two in a battle -/

namespace Book

/-- The two entrants took part in the battle, and no one else did. -/
structure Duel (book : Book R) (battle : Int) (mine theirs : Row Participant) : Prop where
  mine_mem : mine ∈ book.participantsOf battle
  theirs_mem : theirs ∈ book.participantsOf battle
  distinct : theirs.data.player ≠ mine.data.player
  only : ∀ p ∈ book.participantsOf battle, p = mine ∨ p = theirs

theorem Duel.symm {battle : Int} (h : book.Duel battle mine theirs) :
    book.Duel battle theirs mine :=
  ⟨h.theirs_mem, h.mine_mem, h.distinct.symm, fun p hp => (h.only p hp).symm⟩

theorem nodup_participantsOf (book : Book R) (battle : Int) :
    (book.participantsOf battle).Nodup := by
  refine List.Pairwise.imp ?_ (book.participants.pairwise_ids.filter _)
  rintro p _ hlt rfl
  exact Int.lt_irrefl _ hlt

theorem participant?_eq_some_iff (h : book.EntersOnce) {battle : Int} :
    book.participant? battle player = some p ↔
      p ∈ book.participantsOf battle ∧ p.data.player = player := by
  refine ⟨fun hp => ⟨(of_participant?_eq_some hp).1, (of_participant?_eq_some hp).2.1⟩, ?_⟩
  rintro ⟨hp, rfl⟩
  cases hfound : book.participant? battle p.data.player with
  | none =>
    exact absurd rfl (player_ne_of_participant?_eq_none hfound (List.mem_filter.1 hp).1
      (of_decide_eq_true (List.mem_filter.1 hp).2))
  | some q =>
    obtain ⟨hq, hplayer, hbattle⟩ := of_participant?_eq_some hfound
    have hsame : q = p := h q (List.mem_filter.1 hq).1 p (List.mem_filter.1 hp).1
      (hbattle.trans (of_decide_eq_true (List.mem_filter.1 hp).2).symm) hplayer
    rw [hsame]

theorem Duel.filter_others {battle : Int} (h : book.Duel battle mine theirs) :
    (book.participantsOf battle).filter (·.data.player ≠ mine.data.player) = [theirs] := by
  rw [← List.perm_singleton, List.perm_ext_iff_of_nodup
    ((nodup_participantsOf book battle).filter _) (List.nodup_singleton theirs)]
  intro p
  rw [List.mem_filter, List.mem_singleton, decide_eq_true_eq]
  constructor
  · rintro ⟨hp, hne⟩
    exact (h.only p hp).resolve_left fun heq => hne (heq ▸ rfl)
  · rintro rfl
    exact ⟨h.theirs_mem, h.distinct⟩

theorem duel_of_filter_others {battle : Int} (h : book.EntersOnce)
    (hmine : book.participant? battle player = some mine)
    (hothers : (book.participantsOf battle).filter (·.data.player ≠ player) = [theirs]) :
    book.Duel battle mine theirs := by
  obtain ⟨hmem, rfl⟩ := (participant?_eq_some_iff h).1 hmine
  have hother : ∀ p, p ∈ book.participantsOf battle ∧ p.data.player ≠ mine.data.player ↔
      p = theirs := by
    intro p
    rw [← List.mem_singleton, ← hothers, List.mem_filter, decide_eq_true_eq]
  obtain ⟨htheirs, hne⟩ := (hother theirs).2 rfl
  refine ⟨hmem, htheirs, hne, fun p hp => ?_⟩
  by_cases hplayer : p.data.player = mine.data.player
  · have hfound := (participant?_eq_some_iff h).2 ⟨hp, hplayer⟩
    exact .inl (Option.some.inj (hfound.symm.trans hmine))
  · exact .inr ((hother p).1 ⟨hp, hplayer⟩)

/-! ## Standings at a time -/

/-- The standing is that of the player's snapshot of the greatest time up to the given one and, of
that time, of the greatest number; before the first snapshot it is `initial`. -/
inductive StoodAt (book : Book R) (player : Int) (time : Moment) (initial : Standing R) :
    Standing R → Prop
  | rated (s : Row (Snapshot R)) (mem : s ∈ book.snapshots.rows) (is_of : s.data.player = player)
      (madeBy : s.data.createdAt ≤ time)
      (greatest : ∀ t ∈ book.snapshots.rows, t.data.player = player → t.data.createdAt ≤ time →
        t.data.createdAt < s.data.createdAt ∨
          t.data.createdAt = s.data.createdAt ∧ t.id ≤ s.id) :
      StoodAt book player time initial s.data.standing
  | unrated (none : ∀ s ∈ book.snapshots.rows, s.data.player = player → ¬s.data.createdAt ≤ time) :
      StoodAt book player time initial initial

theorem stoodAt_standingAt (book : Book R) (player : Int) (time : Moment) (initial : Standing R) :
    book.StoodAt player time initial (book.standingAt player time initial) := by
  have hids : ((book.snapshotsOf player).filter (·.data.createdAt ≤ time)).Pairwise
      fun s t => s.id < t.id := (book.snapshots.pairwise_ids.filter _).filter _
  have hmem : ∀ s, s ∈ (book.snapshotsOf player).filter (·.data.createdAt ≤ time) ↔
      s ∈ book.snapshots.rows ∧ s.data.player = player ∧ s.data.createdAt ≤ time := by
    intro s
    rw [List.mem_filter, snapshotsOf, List.mem_filter, decide_eq_true_eq, decide_eq_true_eq,
      and_assoc]
  rw [standingAt]
  cases hlatest : book.latestSnapshot? player (some time) with
  | none =>
    rw [latestSnapshot?_some, latest?_eq_none] at hlatest
    refine .unrated fun s hs hof hle => ?_
    have hin := (hmem s).2 ⟨hs, hof, hle⟩
    rw [hlatest] at hin
    cases hin
  | some s =>
    rw [latestSnapshot?_some, latest?_eq_some_iff hids] at hlatest
    obtain ⟨hs, hof, hle⟩ := (hmem s).1 hlatest.1
    exact .rated s hs hof hle fun t ht htof htle => hlatest.2 t ((hmem t).2 ⟨ht, htof, htle⟩)

/-- At a time a player has one standing. -/
theorem StoodAt.unique {time : Moment} {x y : Standing R} (hx : book.StoodAt player time initial x)
    (hy : book.StoodAt player time initial y) : x = y := by
  cases hx with
  | rated s hs hof hle hgreatest => cases hy with
    | rated t ht htof htle htgreatest =>
      have hst := hgreatest t ht htof htle
      have hts := htgreatest s hs hof hle
      have hid : s.id = t.id := by
        rcases hst with hlt | ⟨heq, hid⟩ <;> rcases hts with hlt' | ⟨heq', hid'⟩
        · exact absurd hlt' (Nat.lt_asymm hlt)
        · exact absurd hlt (heq' ▸ Nat.lt_irrefl _)
        · exact absurd hlt' (heq ▸ Nat.lt_irrefl _)
        · exact Int.le_antisymm hid' hid
      rw [Table.eq_of_id_eq hs ht hid]
    | unrated hnone => exact absurd hle (hnone s hs hof)
  | unrated hnone => cases hy with
    | rated t ht htof htle _ => exact absurd htle (hnone t ht htof)
    | unrated _ => rfl

theorem standingAt_eq_iff {time : Moment} :
    book.standingAt player time initial = standing ↔ book.StoodAt player time initial standing :=
  ⟨fun h => h ▸ stoodAt_standingAt book player time initial,
    fun h => (stoodAt_standingAt book player time initial).unique h⟩

/-! ## What a battle was for one of two -/

/-- The battle of two ended in the window and counts: it was concluded, or it was cancelled and the
opponent's time, or else the player's own, is beyond the minimum. -/
structure Eligible (book : Book R) (w : Window) (minimum : Int) (b : Row Battle)
    (mine theirs : Row Participant) (ended : Moment) : Prop where
  mem : b ∈ book.battles.rows
  terminal : b.data.status = .concluded ∨ b.data.status = .cancelled
  ended_at : b.data.concludedAt = some ended
  started : w.start ≤ ended
  stopped : ended < w.stop
  duel : book.Duel b.id mine theirs
  counts : b.data.status = .concluded ∨
    ∃ time, (theirs.data.finish.time <|> mine.data.finish.time) = some time ∧ minimum < time

/-- The matchup is the battle as the first of the two sees it. -/
structure View (book : Book R) (initial : Standing R) (b : Row Battle)
    (mine theirs : Row Participant) (ended : Moment) (m : Matchup R) : Prop where
  battle : m.battle = b.id
  opponent : m.opponent = theirs.data.player
  stood : book.StoodAt theirs.data.player ended initial m.opponentStanding
  outcome : m.outcome = .of mine.data.finish theirs.data.finish
  noContest : m.noContest = mine.data.finish.noContest
  opponentNoContest : m.opponentNoContest = theirs.data.finish.noContest
  finishTime : m.finishTime = (theirs.data.finish.time <|> mine.data.finish.time)

theorem exists_view (book : Book R) (initial : Standing R) (b : Row Battle)
    (mine theirs : Row Participant) (ended : Moment) :
    ∃ m, book.View initial b mine theirs ended m :=
  ⟨⟨_, _, _, _, _, _, _⟩, rfl, rfl, stoodAt_standingAt book theirs.data.player ended initial,
    rfl, rfl, rfl, rfl⟩

theorem matchup?_eq_some_iff (h : book.EntersOnce) :
    book.matchup? player initial minimum b = some m ↔
      ∃ mine theirs ended, mine.data.player = player ∧ book.Duel b.id mine theirs ∧
        b.data.concludedAt = some ended ∧
        b.data.counts (theirs.data.finish.time <|> mine.data.finish.time) minimum = true ∧
        book.View initial b mine theirs ended m := by
  unfold matchup?
  constructor
  · intro hmatch
    obtain ⟨mine, hmine, hmatch⟩ := Option.bind_eq_some_iff.1 hmatch
    split at hmatch
    next theirs hothers =>
      dsimp only at hmatch
      split at hmatch
      next hcounts =>
        obtain ⟨ended, hended, hm⟩ := Option.bind_eq_some_iff.1 hmatch
        cases hm
        exact ⟨mine, theirs, ended, (of_participant?_eq_some hmine).2.1,
          duel_of_filter_others h hmine hothers, hended, hcounts, rfl, rfl,
          stoodAt_standingAt book _ ended initial, rfl, rfl, rfl, rfl⟩
      next => cases hmatch
    next => cases hmatch
  · rintro ⟨mine, theirs, ended, rfl, hduel, hended, hcounts, hview⟩
    have hmine := (participant?_eq_some_iff h).2 ⟨hduel.mine_mem, rfl⟩
    obtain ⟨battle, opponent, opponentStanding, outcome, noContest, opponentNoContest, time⟩ := m
    obtain ⟨rfl, rfl, hstood, rfl, rfl, rfl, rfl⟩ := hview
    rw [hmine, Option.bind_eq_bind, Option.bind_some, hduel.filter_others, hended]
    dsimp only
    rw [if_pos hcounts, Option.bind_eq_bind, Option.bind_some, standingAt_eq_iff.2 hstood]
    rfl

theorem mem_matchups (h : book.EntersOnce) :
    m ∈ book.matchups player w initial minimum ↔
      ∃ b mine theirs ended, mine.data.player = player ∧
        book.Eligible w minimum b mine theirs ended ∧ book.View initial b mine theirs ended m := by
  rw [matchups, List.mem_filterMap]
  constructor
  · rintro ⟨b, hb, hmatch⟩
    obtain ⟨hb, hcovers⟩ := mem_battlesIn.1 hb
    obtain ⟨hstatus, time, htime, hstart, hstop⟩ := Window.covers_iff.1 hcovers
    obtain ⟨mine, theirs, ended, hplayer, hduel, hended, hcounts, hview⟩ :=
      (matchup?_eq_some_iff h).1 hmatch
    obtain rfl : time = ended := Option.some.inj (htime.symm.trans hended)
    exact ⟨b, mine, theirs, time, hplayer, ⟨hb, BattleStatus.isTerminal_iff.1 hstatus, htime,
      hstart, hstop, hduel, Battle.counts_iff.1 hcounts⟩, hview⟩
  · rintro ⟨b, mine, theirs, ended, hplayer, heligible, hview⟩
    have hcovers : w.covers b.data = true := Window.covers_iff.2
      ⟨BattleStatus.isTerminal_iff.2 heligible.terminal, ended, heligible.ended_at,
        heligible.started, heligible.stopped⟩
    exact ⟨b, mem_battlesIn.2 ⟨heligible.mem, hcovers⟩, (matchup?_eq_some_iff h).2
      ⟨mine, theirs, ended, hplayer, heligible.duel, heligible.ended_at,
        Battle.counts_iff.2 heligible.counts, hview⟩⟩

theorem exists_mem_matchups (h : book.EntersOnce) (hb : b ∈ book.battles.rows) :
    (∃ m ∈ book.matchups player w initial minimum, m.battle = b.id) ↔
      ∃ mine theirs ended, mine.data.player = player ∧
        book.Eligible w minimum b mine theirs ended := by
  constructor
  · rintro ⟨m, hm, hid⟩
    obtain ⟨c, mine, theirs, ended, hplayer, heligible, hview⟩ := (mem_matchups h).1 hm
    obtain rfl : c = b := Table.eq_of_id_eq heligible.mem hb (hview.battle.symm.trans hid)
    exact ⟨mine, theirs, ended, hplayer, heligible⟩
  · rintro ⟨mine, theirs, ended, hplayer, heligible⟩
    obtain ⟨m, hview⟩ := exists_view book initial b mine theirs ended
    exact ⟨m, (mem_matchups h).2 ⟨b, mine, theirs, ended, hplayer, heligible, hview⟩, hview.battle⟩

end Book

/-! ## Order -/

/-- One battle was made before the other, or at the same time with a smaller number. -/
def Row.MadeBefore (b c : Row Battle) : Prop :=
  b.data.createdAt < c.data.createdAt ∨ b.data.createdAt = c.data.createdAt ∧ b.id < c.id

namespace Book

theorem createdBefore_iff :
    createdBefore b c = true ↔
      b.data.createdAt < c.data.createdAt ∨ b.data.createdAt = c.data.createdAt ∧ b.id ≤ c.id := by
  simp only [createdBefore, Bool.or_eq_true, Bool.and_eq_true, decide_eq_true_eq]

theorem createdBefore_total (b c : Row Battle) : createdBefore b c || createdBefore c b := by
  rw [Bool.or_eq_true, createdBefore_iff, createdBefore_iff]
  rcases Nat.lt_trichotomy b.data.createdAt.ticks c.data.createdAt.ticks with hlt | heq | hgt
  · exact .inl (.inl hlt)
  · have hsame : b.data.createdAt = c.data.createdAt :=
      (Moment.lt_or_eq_of_le (Nat.le_of_eq heq)).resolve_left fun hlt => Nat.ne_of_lt hlt heq
    exact (Int.le_total b.id c.id).imp (fun hid => .inr ⟨hsame, hid⟩)
      fun hid => .inr ⟨hsame.symm, hid⟩
  · exact .inr (.inl hgt)

theorem createdBefore_trans (b c d : Row Battle) (hbc : createdBefore b c)
    (hcd : createdBefore c d) : createdBefore b d := by
  rw [createdBefore_iff] at *
  rcases hbc with hbc | ⟨hbc, hid⟩
  · rcases hcd with hcd | ⟨hcd, -⟩
    · exact .inl (Nat.lt_trans hbc hcd)
    · exact .inl (hcd ▸ hbc)
  · rw [hbc]
    exact hcd.imp_right fun hcd => ⟨hcd.1, Int.le_trans hid hcd.2⟩

theorem nodup_ids_battlesIn (book : Book R) (w : Window) :
    (book.battlesIn w).Pairwise fun b c => b.id ≠ c.id := by
  have hids : (book.battles.rows.filter (w.covers ·.data)).Pairwise fun b c => b.id ≠ c.id :=
    (book.battles.pairwise_ids.filter _).imp Int.ne_of_lt
  exact (perm_sortedBy _).symm.pairwise hids fun h => h.symm

theorem pairwise_battlesIn (book : Book R) (w : Window) :
    (book.battlesIn w).Pairwise Row.MadeBefore := by
  have hsorted := pairwise_sortedBy createdBefore_total createdBefore_trans
    (book.battles.rows.filter (w.covers ·.data))
  refine (hsorted.and (nodup_ids_battlesIn book w)).imp fun ⟨hbefore, hne⟩ => ?_
  exact (createdBefore_iff.1 hbefore).imp_right
    fun ⟨hsame, hle⟩ => ⟨hsame, Int.lt_iff_le_and_ne.2 ⟨hle, hne⟩⟩

theorem pairwise_matchups (h : book.EntersOnce) :
    (book.matchups player w initial minimum).Pairwise fun m n =>
      ∃ b ∈ book.battles.rows, ∃ c ∈ book.battles.rows,
        m.battle = b.id ∧ n.battle = c.id ∧ b.MadeBefore c := by
  rw [matchups, List.pairwise_filterMap]
  refine (pairwise_battlesIn book w).imp_of_mem fun {b c} hb hc hbefore m hm n hn => ?_
  obtain ⟨_, _, _, _, _, _, _, hm⟩ := (matchup?_eq_some_iff h).1 hm
  obtain ⟨_, _, _, _, _, _, _, hn⟩ := (matchup?_eq_some_iff h).1 hn
  exact ⟨b, (mem_battlesIn.1 hb).1, c, (mem_battlesIn.1 hc).1, hm.battle, hn.battle, hbefore⟩

theorem nodup_matchups (h : book.EntersOnce) :
    ((book.matchups player w initial minimum).map (·.battle)).Nodup := by
  rw [List.nodup_iff_pairwise_ne, List.pairwise_map]
  refine (pairwise_matchups h).imp ?_
  rintro m n ⟨b, hb, c, hc, hm, hn, hbefore⟩ hsame
  obtain rfl : b = c := Table.eq_of_id_eq hb hc (hm.symm.trans (hsame.trans hn))
  rcases hbefore with hlt | ⟨-, hlt⟩
  · exact Nat.lt_irrefl _ hlt
  · exact Int.lt_irrefl _ hlt

/-! ## Windows that meet -/

variable {start middle stop : Moment}

theorem covers_iff_or (hstart : start ≤ middle) (hstop : middle ≤ stop) {b : Battle} :
    Window.covers ⟨start, stop⟩ b = true ↔
      Window.covers ⟨start, middle⟩ b = true ∨ Window.covers ⟨middle, stop⟩ b = true := by
  simp only [Window.covers_iff]
  constructor
  · rintro ⟨hended, time, htime, hfrom, hto⟩
    rcases Nat.lt_or_ge time.ticks middle.ticks with hlt | hge
    · exact .inl ⟨hended, time, htime, hfrom, hlt⟩
    · exact .inr ⟨hended, time, htime, hge, hto⟩
  · rintro (⟨hended, time, htime, hfrom, hto⟩ | ⟨hended, time, htime, hfrom, hto⟩)
    · exact ⟨hended, time, htime, hfrom, Nat.lt_of_lt_of_le hto hstop⟩
    · exact ⟨hended, time, htime, Nat.le_trans hstart hfrom, hto⟩

/-- No battle ended in both parts, not even one that ended in the middle. -/
theorem not_covers_both {b : Battle} (hbefore : Window.covers ⟨start, middle⟩ b = true)
    (hafter : Window.covers ⟨middle, stop⟩ b = true) : False := by
  obtain ⟨-, time, htime, -, hlt⟩ := Window.covers_iff.1 hbefore
  obtain ⟨-, same, hsame, hge, -⟩ := Window.covers_iff.1 hafter
  obtain rfl : time = same := Option.some.inj (htime.symm.trans hsame)
  exact Nat.not_le_of_lt hlt hge

theorem nodup_battlesIn (book : Book R) (w : Window) : (book.battlesIn w).Nodup :=
  (nodup_ids_battlesIn book w).imp fun hne heq => hne (congrArg Row.id heq)

/-- The battles of a window are those of its two parts. -/
theorem battlesIn_split (book : Book R) (hstart : start ≤ middle) (hstop : middle ≤ stop) :
    (book.battlesIn ⟨start, stop⟩).Perm
      (book.battlesIn ⟨start, middle⟩ ++ book.battlesIn ⟨middle, stop⟩) := by
  have hparts : (book.battlesIn ⟨start, middle⟩ ++ book.battlesIn ⟨middle, stop⟩).Nodup :=
    (nodup_battlesIn book _).append (nodup_battlesIn book _) fun b hbefore hafter =>
      not_covers_both (mem_battlesIn.1 hbefore).2 (mem_battlesIn.1 hafter).2
  rw [List.perm_ext_iff_of_nodup (nodup_battlesIn book _) hparts]
  intro b
  rw [List.mem_append, mem_battlesIn, mem_battlesIn, mem_battlesIn, covers_iff_or hstart hstop,
    and_or_left]

theorem matchups_split (book : Book R) (player : Int) (initial : Standing R) (minimum : Int)
    (hstart : start ≤ middle) (hstop : middle ≤ stop) :
    (book.matchups player ⟨start, stop⟩ initial minimum).Perm
      (book.matchups player ⟨start, middle⟩ initial minimum ++
        book.matchups player ⟨middle, stop⟩ initial minimum) := by
  rw [matchups, matchups, matchups, ← List.filterMap_append]
  exact (battlesIn_split book hstart hstop).filterMap _

end Book

/-! ## Rating them -/

theorem rate_ne_selfPairing [Arithmetic R] {ms : List (Matchup R)}
    (h : ∀ m ∈ ms, m.opponent ≠ player) (p : Glicko.Parameters R) (fraction : R)
    (current : Standing R) (battle opponent : Int) :
    rate p (some player) fraction current ms ≠ .error (.selfPairing battle opponent) := by
  have hnone : ms.find? (fun m => (some player : Option Int) = some m.opponent) = none := by
    rw [List.find?_eq_none]
    intro m hm hsame
    exact h m hm (Option.some.inj (of_decide_eq_true hsame)).symm
  have hupdate : Glicko.Unpaired (Glicko.update p.solver fraction (some p.maxDeviation) current
      (ms.map (·.result)) >>= fun new =>
        .ok { new with deviation := p.clamp new.deviation }) :=
    (Glicko.unpaired_update _ _ _ _ _).bind fun _ => Glicko.unpaired_ok _
  rw [rate, hnone]
  exact hupdate battle opponent

/-! ## Every battle once, in order, and window by window -/

/-- The list is that of a player's matchups in the window: each battle that counts is on it once, in
the order in which they were made, as the player sees it, against someone else who stood as they did
when the battle ended. -/
structure Book.Lists [Arithmetic R] (book : Book R) (player : Int) (initial : Standing R)
    (minimum : Int) (w : Window) (l : List (Matchup R)) : Prop where
  nodup : (l.map (·.battle)).Nodup
  ordered : l.Pairwise fun m n => ∃ b ∈ book.battles.rows, ∃ c ∈ book.battles.rows,
    m.battle = b.id ∧ n.battle = c.id ∧ b.MadeBefore c
  listed : ∀ b ∈ book.battles.rows, (∃ m ∈ l, m.battle = b.id) ↔
    ∃ mine theirs ended, mine.data.player = player ∧ book.Eligible w minimum b mine theirs ended
  seen : ∀ m ∈ l, ∃ b mine theirs ended, mine.data.player = player ∧
    book.Eligible w minimum b mine theirs ended ∧ book.View initial b mine theirs ended m
  unpaired : ∀ (p : Glicko.Parameters R) fraction current battle opponent,
    rate p (some player) fraction current l ≠ .error (.selfPairing battle opponent)
  took_part : l ≠ [] → player ∈ book.participantsIn w

theorem Reachable.lists_matchups [Arithmetic R] (h : Reachable book) (player : Int)
    (initial : Standing R) (minimum : Int) (w : Window) :
    book.Lists player initial minimum w (book.matchups player w initial minimum) where
  nodup := Book.nodup_matchups h.entersOnce
  ordered := Book.pairwise_matchups h.entersOnce
  listed _ hb := Book.exists_mem_matchups h.entersOnce hb
  seen _ hm := (Book.mem_matchups h.entersOnce).1 hm
  unpaired := by
    refine rate_ne_selfPairing fun m hm => ?_
    obtain ⟨b, mine, theirs, ended, hplayer, heligible, hview⟩ :=
      (Book.mem_matchups h.entersOnce).1 hm
    rw [hview.opponent, ← hplayer]
    exact heligible.duel.distinct
  took_part := Book.mem_participantsIn_of_matchups

/-- In every book that operations lead to, a player's matchups in a window list each battle that
counts once and in order, and are those of the two parts of the window taken together. -/
theorem matchups_exact [Arithmetic R] (h : Reachable book) (player : Int) (initial : Standing R)
    (minimum : Int) {start middle stop : Moment} (hstart : start ≤ middle) (hstop : middle ≤ stop) :
    book.Lists player initial minimum ⟨start, stop⟩
        (book.matchups player ⟨start, stop⟩ initial minimum) ∧
      (book.matchups player ⟨start, stop⟩ initial minimum).Perm
        (book.matchups player ⟨start, middle⟩ initial minimum ++
          book.matchups player ⟨middle, stop⟩ initial minimum) :=
  ⟨h.lists_matchups player initial minimum ⟨start, stop⟩,
    Book.matchups_split book player initial minimum hstart hstop⟩

/-- Ann races Bob, then Cid, in a battle that was made later and ends earlier; a race of three and
a race cancelled after one second are for nobody. -/
def season : List (Operation Float) :=
  let key (c : Char) := String.ofList (List.replicate 64 c)
  [.command (.register (key 'a') "Ann" ⟨1500.0, 350.0, 0.06⟩),
    .command (.register (key 'b') "Bob" ⟨1500.0, 350.0, 0.06⟩),
    .command (.register (key 'c') "Cid" ⟨1500.0, 350.0, 0.06⟩),
    .command (.createBattle "loop" (.ofTicks 9) (.ofTicks 1)),
    .command (.createBattle "loop" (.ofTicks 9) (.ofTicks 2)),
    .command (.createBattle "loop" (.ofTicks 9) (.ofTicks 2)),
    .command (.createBattle "loop" (.ofTicks 9) (.ofTicks 3)),
    .command (.addParticipant 1 1 0), .command (.addParticipant 1 2 1),
    .command (.addParticipant 2 3 0), .command (.addParticipant 2 1 1),
    .command (.addParticipant 3 1 0), .command (.addParticipant 3 2 1),
    .command (.addParticipant 3 3 1),
    .command (.addParticipant 4 1 0), .command (.addParticipant 4 2 1),
    .command (.reportResult 2 3 ⟨some 900, false⟩),
    .command (.concludeBattle 2 (.ofTicks 4) false),
    .command (.reportResult 1 1 ⟨some 800, false⟩),
    .command (.concludeBattle 1 (.ofTicks 6) false),
    .command (.concludeBattle 3 (.ofTicks 7) false),
    .command (.reportResult 4 1 ⟨some 35, false⟩),
    .command (.concludeBattle 4 (.ofTicks 7) true)]

/-- Ann's two matchups come in the order in which the battles were made; the one that ended in the
middle of the window belongs to its second part. -/
theorem matchups_exact_season :
    let book := Operation.run season .empty
    let listed (start stop : Nat) :=
      book.matchups 1 ⟨.ofTicks start, .ofTicks stop⟩ ⟨1500.0, 350.0, 0.06⟩ 1050
    Reachable book ∧ (listed 3 8).map (·.battle) = [1, 2] ∧ (listed 3 6).map (·.battle) = [2] ∧
      (listed 6 8).map (·.battle) = [1] ∧
      book.Lists 1 ⟨1500.0, 350.0, 0.06⟩ 1050 ⟨.ofTicks 3, .ofTicks 8⟩ (listed 3 8) ∧
      (listed 3 8).Perm (listed 3 6 ++ listed 6 8) := by
  have hreachable : Reachable (Operation.run season .empty) := Reachable.empty.run _
  exact ⟨hreachable, by decide +kernel, by decide +kernel, by decide +kernel,
    matchups_exact hreachable 1 _ 1050 (by decide) (by decide)⟩

end RaceBook
