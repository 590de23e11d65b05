import RaceBook.Proofs.Rating.Kept
import RaceBook.Rating.Leaderboard

/-!
# The best players

A cache has the player and the period of one snapshot only, the latest one, so that joining the players
with the snapshots repeats nobody; and the ratings that are kept are numbers, so that sorting by them
orders the players.

* `Reachable.leadersOf_eq`, `Reachable.leaderboard_eq` : the leaderboard as a list of players;
* `ranksBefore_iff` : the order of the leaderboard is that of a key, on players whose rating is a number;
* `Outranks`, `Book.IsTop` : a list holds the first players in that order;
* `Operation.isTop_leaderboard` : the leaderboard is such a list;
* `Leader.ShowsSnapshot`, `Leader.of_mem_leaderboard` : what is shown of a player is of one snapshot.
-/

namespace RaceBook

/-! ## The join -/

section

variable {R : Type} [Arithmetic R] {book : Book R} {p : Row (Player R)}

theorem Reachable.cachedSnapshots_eq (h : Reachable book) (hp : p ∈ book.players.rows) :
    book.cachedSnapshots p = (book.latestSnapshot? p.id none).toList := by
  have hcaches := h.caches p hp
  unfold Book.cachedSnapshots
  cases hlast : book.latestSnapshot? p.id none with
  | none =>
    rw [hcaches.unrated hlast]
    simp
  | some s =>
    have hlatest := Book.latestSnapshot?_eq_some.1 hlast
    rw [(hcaches.rated s hlast).2, ← hlatest.is_of, Option.toList_some,
      ← filter_of_nodup_map h.keepsSnapshots.once hlatest.mem]
    exact List.filter_congr fun t _ => by simp [Bool.and_comm]

theorem Reachable.leadersOf_eq (h : Reachable book) (hp : p ∈ book.players.rows) :
    book.leadersOf p = [⟨p, book.latestSnapshot? p.id none⟩] := by
  rw [Book.leadersOf, h.cachedSnapshots_eq hp]
  cases book.latestSnapshot? p.id none <;> rfl

def Book.ranked (book : Book R) (limit : R) : List (Row (Player R)) :=
  sortedBy ranksBefore (book.players.rows.filter (·.data.standing.deviation < limit))

/-- The leaderboard holds the first of them, each with their latest snapshot. -/
theorem Reachable.leaderboard_eq (h : Reachable book) (count : Nat) (limit : R) :
    book.leaderboard count limit =
      ((book.ranked limit).take count).map fun p => ⟨p, book.latestSnapshot? p.id none⟩ := by
  let shown := book.players.rows.filter (·.data.standing.deviation < limit)
  let leader : Row (Player R) → Leader R := fun p => ⟨p, book.latestSnapshot? p.id none⟩
  have hjoin : shown.flatMap book.leadersOf = shown.map leader := by
    rw [List.map_eq_flatMap]
    exact List.flatMap_congr fun p hp => h.leadersOf_eq (List.mem_filter.1 hp).1
  calc book.leaderboard count limit
      = (sortedBy (fun l m => Book.ranksBefore l.player m.player) (shown.flatMap book.leadersOf)).take
          count := rfl
    _ = ((book.ranked limit).map leader).take count := by rw [hjoin, ← map_sortedBy]; rfl
    _ = ((book.ranked limit).take count).map leader := List.map_take.symm

theorem Book.mem_ranked {limit : R} :
    p ∈ book.ranked limit ↔ p ∈ book.players.rows ∧ p.data.standing.deviation < limit := by
  rw [ranked, mem_sortedBy, List.mem_filter, decide_eq_true_eq]

theorem Book.nodup_ranked (book : Book R) (limit : R) :
    ((book.ranked limit).map (·.id)).Nodup :=
  ((perm_sortedBy _).map _).nodup_iff.2 (book.players.nodup_ids.sublist (List.filter_sublist.map _))

theorem Book.pairwise_ranked_of_forall (good : Row (Player R) → Prop)
    (total : ∀ p q, good p → good q → ranksBefore p q || ranksBefore q p)
    (trans : ∀ p q r, good p → good q → good r → ranksBefore p q → ranksBefore q r →
      ranksBefore p r) (h : ∀ p ∈ book.players.rows, good p) {limit : R} :
    (book.ranked limit).Pairwise (ranksBefore · ·) :=
  pairwise_sortedBy_of_forall good total trans fun p hp => h p (List.mem_of_mem_filter hp)

/-! ## What is shown of a player -/

/-- The standing, the period and the matchups that are shown are those of one snapshot. -/
structure Leader.ShowsSnapshot (l : Leader R) (s : Row (Snapshot R)) : Prop where
  snapshot : l.snapshot? = some s
  standing : l.player.data.standing = s.data.standing
  period : l.player.data.period = some s.data.period
  matchups : l.matchupCount = s.data.matchupCount

/-- A standing without a snapshot is shown, with no period and no matchups. -/
structure Leader.ShowsStart (l : Leader R) (initial : Standing R) : Prop where
  snapshot : l.snapshot? = none
  standing : l.player.data.standing = initial
  period : l.player.data.period = none
  matchups : l.matchupCount = 0

/-- A player is shown with their latest snapshot, or with what they were entered with. -/
theorem Leader.of_mem_leaderboard (ops : List (Operation R)) {count : Nat} {limit : R} {l : Leader R}
    (hl : l ∈ (Operation.run ops .empty).leaderboard count limit) :
    (∃ s, (Operation.run ops .empty).IsLatest l.player.id s ∧ l.ShowsSnapshot s) ∨
      (Operation.run ops .empty).snapshotsOf l.player.id = [] ∧
        ∃ initial, Operation.Enters ops l.player.id initial ∧ l.ShowsStart initial.stored := by
  rw [(Reachable.empty.run ops).leaderboard_eq] at hl
  obtain ⟨p, hp, rfl⟩ := List.mem_map.1 hl
  rcases Operation.cache_cases ops (Book.mem_ranked.1 (List.mem_of_mem_take hp)).1 with
    ⟨s, hlast, hstanding, hperiod⟩ | ⟨hlast, initial, henters, hstanding, hperiod⟩
  · refine .inl ⟨s, Book.latestSnapshot?_eq_some.1 hlast, hlast, hstanding, hperiod, ?_⟩
    rw [Leader.matchupCount, hlast]
    rfl
  · refine .inr ⟨Book.latestSnapshot?_eq_none.1 hlast, initial, henters, hlast, hstanding, hperiod, ?_⟩
    rw [Leader.matchupCount, hlast]
    rfl

end

/-! ## The order -/

open Double

variable {book : Book Float} {p q : Row (Player Float)} {limit : Float}

/-- Higher rated than the other, or no lower and of a smaller number. -/
def Outranks (p q : Row (Player Float)) : Prop :=
  q.data.standing.rating < p.data.standing.rating ∨
    q.data.standing.rating ≤ p.data.standing.rating ∧ p.id < q.id

/-- The key that the leaderboard is sorted by: higher ratings first, then smaller numbers. -/
def rankKey (p : Row (Player Float)) : (Int ×ₗ Int ×ₗ Int)ᵒᵈ ×ₗ Int :=
  toLex (OrderDual.toDual (place (unpacked (Number.reading p.data.standing.rating))), p.id)

theorem ranksBefore_iff (hp : IsNumber p.data.standing.rating)
    (hq : IsNumber q.data.standing.rating) :
    Book.ranksBefore p q = true ↔ rankKey p ≤ rankKey q := by
  simp only [Book.ranksBefore, Bool.or_eq_true, Bool.and_eq_true, Bool.not_eq_true',
    decide_eq_true_eq, decide_eq_false_iff_not, hp.lt_iff_place_lt hq, hq.lt_iff_place_lt hp,
    rankKey, Prod.Lex.toLex_le_toLex, OrderDual.toDual_lt_toDual, OrderDual.toDual_inj]
  rcases lt_trichotomy (place (unpacked (Number.reading p.data.standing.rating)))
    (place (unpacked (Number.reading q.data.standing.rating))) with h | h | h
  · simp [h, h.ne, h.not_gt]
  · simp [h]
  · simp [h]

theorem outranks_of_ranksBefore (hp : IsNumber p.data.standing.rating)
    (hq : IsNumber q.data.standing.rating) (h : Book.ranksBefore p q = true) (hne : p.id ≠ q.id) :
    Outranks p q := by
  simp only [Book.ranksBefore, Bool.or_eq_true, Bool.and_eq_true, Bool.not_eq_true',
    decide_eq_true_eq, decide_eq_false_iff_not] at h
  exact h.imp_right fun ⟨hle, hid⟩ => ⟨le_iff_not_lt.2 ⟨hq, hp, hle⟩, by omega⟩

namespace Book

/-- The list holds the first `count` players of those with a deviation below the limit, each once. -/
structure IsTop (book : Book Float) (count : Int) (limit : Float) (ps : List (Row (Player Float))) :
    Prop where
  shown : ∀ p ∈ ps, p ∈ book.players.rows ∧ p.data.standing.deviation < limit
  once : (ps.map (·.id)).Nodup
  ordered : ps.Pairwise Outranks
  length_le : ps.length ≤ count
  /-- Who is left out has no room, and comes after all who are not. -/
  first : ∀ q ∈ book.players.rows, q.data.standing.deviation < limit → q ∉ ps →
    ps.length = count ∧ ∀ p ∈ ps, Outranks p q

theorem pairwise_ranked (hnumbers : ∀ p ∈ book.players.rows, IsNumber p.data.standing.rating)
    (limit : Float) : (book.ranked limit).Pairwise Outranks := by
  have hbefore : (book.ranked limit).Pairwise (ranksBefore · ·) := by
    refine pairwise_ranked_of_forall (fun p => IsNumber p.data.standing.rating)
      (fun p q hp hq => ?_) (fun p q r hp hq hr hpq hqr => ?_) hnumbers
    · rw [Bool.or_eq_true, ranksBefore_iff hp hq, ranksBefore_iff hq hp]
      exact le_total _ _
    · rw [ranksBefore_iff hp hq] at hpq
      rw [ranksBefore_iff hq hr] at hqr
      exact (ranksBefore_iff hp hr).2 (hpq.trans hqr)
  have hne := List.pairwise_map.1 (book.nodup_ranked limit)
  refine (hbefore.and hne).imp_of_mem fun {p q} hp hq ⟨hpq, hid⟩ => ?_
  exact outranks_of_ranksBefore (hnumbers p (mem_ranked.1 hp).1) (hnumbers q (mem_ranked.1 hq).1)
    hpq hid

theorem isTop_take_ranked (hnumbers : ∀ p ∈ book.players.rows, IsNumber p.data.standing.rating)
    {count : Int} (hcount : 0 ≤ count) (limit : Float) :
    book.IsTop count limit ((book.ranked limit).take count.toNat) := by
  have hsorted := pairwise_ranked hnumbers limit
  refine ⟨fun p hp => ?_, (book.nodup_ranked limit).sublist ((List.take_sublist _ _).map _),
    hsorted.sublist (List.take_sublist _ _), ?_, fun q hq hdeviation hout => ?_⟩
  · have hranked := mem_ranked.1 (List.mem_of_mem_take hp)
    exact hranked
  · rw [List.length_take]
    omega
  · -- who is ranked and not taken is among the rest
    have hrest : q ∈ (book.ranked limit).drop count.toNat := by
      have hmem : q ∈ book.ranked limit := mem_ranked.2 ⟨hq, hdeviation⟩
      rw [← List.take_append_drop count.toNat (book.ranked limit), List.mem_append] at hmem
      exact hmem.resolve_left hout
    have hlength := List.length_pos_of_mem hrest
    rw [List.length_drop] at hlength
    rw [← List.take_append_drop count.toNat (book.ranked limit), List.pairwise_append] at hsorted
    refine ⟨?_, fun p hp => hsorted.2.2 p hp q hrest⟩
    rw [List.length_take]
    omega

end Book

/-- The leaderboard is the top of the ratings, whatever operations led to the book. -/
theorem Operation.isTop_leaderboard (ops : List (Operation Float)) {count : Int} (hcount : 0 ≤ count)
    (limit : Float) : (run ops .empty).IsTop count limit
      (((run ops .empty).leaderboard count.toNat limit).map (·.player)) := by
  have hnumbers : ∀ p ∈ (run ops .empty).players.rows, IsNumber p.data.standing.rating :=
    fun p hp => (isKept_standing ops hp).isNumber
  have hplayers : ((run ops .empty).leaderboard count.toNat limit).map (·.player) =
      ((run ops .empty).ranked limit).take count.toNat := by
    rw [(Reachable.empty.run ops).leaderboard_eq, List.map_map]
    exact List.map_id _
  rw [hplayers]
  exact Book.isTop_take_ranked hnumbers hcount limit

end RaceBook
