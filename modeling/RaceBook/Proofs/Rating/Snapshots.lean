import RaceBook.Rating.Snapshot
import RaceBook.Proofs.Race.Reports

/-!
# Taking snapshots

* `mem_ascending`, `pairwise_ascending`, `eq_of_pairwise_lt` : the ascending list of some numbers;
* `Book.refreshed`, `Book.withSnapshot`, `Book.withSnapshots` : the book whose cache of a player is
  refreshed, and the book with one more snapshot or several of them;
* `Book.TakesSnapshot` : the store takes the snapshot;
* `Session.appendSnapshot_eq_ok`, `Session.refreshCache_eq_ok`;
* `Book.latestSnapshot?_withSnapshots` : a look-up as of a time does not see later snapshots.
-/

namespace RaceBook

/-! ## Ascending lists -/

theorem mem_insertAscending {n m : Int} {l : List Int} :
    m ∈ insertAscending n l ↔ m = n ∨ m ∈ l := by
  induction l with
  | nil => simp [insertAscending]
  | cons k rest ih =>
    rw [insertAscending]
    split
    · simp
    split
    next hnk => simp [hnk]
    next => simp only [List.mem_cons, ih]; grind

theorem mem_ascending {m : Int} {l : List Int} : m ∈ ascending l ↔ m ∈ l := by
  induction l with
  | nil => exact Iff.rfl
  | cons n rest ih =>
    rw [ascending, List.foldr_cons, mem_insertAscending, List.mem_cons]
    exact or_congr_right ih

theorem pairwise_insertAscending {n : Int} {l : List Int} (h : l.Pairwise (· < ·)) :
    (insertAscending n l).Pairwise (· < ·) := by
  induction l with
  | nil => simp [insertAscending]
  | cons k rest ih =>
    obtain ⟨hk, hrest⟩ := List.pairwise_cons.1 h
    rw [insertAscending]
    split
    next hnk =>
      refine List.pairwise_cons.2 ⟨fun m hm => ?_, h⟩
      rcases List.mem_cons.1 hm with rfl | hm
      · exact hnk
      · exact Int.lt_trans hnk (hk m hm)
    split
    · exact h
    · refine List.pairwise_cons.2 ⟨fun m hm => ?_, ih hrest⟩
      rcases mem_insertAscending.1 hm with rfl | hm
      · omega
      · exact hk m hm

theorem pairwise_ascending (l : List Int) : (ascending l).Pairwise (· < ·) := by
  induction l with
  | nil => exact .nil
  | cons n rest ih => exact pairwise_insertAscending ih

theorem nodup_ascending (l : List Int) : (ascending l).Nodup :=
  (pairwise_ascending l).imp fun h => by omega

theorem eq_of_pairwise_lt {l m : List Int} (hl : l.Pairwise (· < ·)) (hm : m.Pairwise (· < ·))
    (h : ∀ n, n ∈ l ↔ n ∈ m) : l = m := by
  have hperm : l.Perm m :=
    (List.perm_ext_iff_of_nodup (hl.imp fun hlt => by omega) (hm.imp fun hlt => by omega)).2 h
  exact hperm.eq_of_pairwise (fun a b _ _ hab hba => by omega) hl hm

/-! ## The book with more snapshots -/

variable {R : Type}

def Snapshot.stored [Arithmetic R] (s : Snapshot R) : Snapshot R :=
  { s with standing := s.standing.stored }

@[simp] theorem Snapshot.player_stored [Arithmetic R] (s : Snapshot R) :
    s.stored.player = s.player := rfl

def Player.cached (p : Player R) (s : Snapshot R) : Player R :=
  { p with standing := s.standing, period := some s.period }

namespace Book

variable {book later : Book R}

theorem latestSnapshot?_some (book : Book R) (player : Int) (time : Moment) :
    book.latestSnapshot? player (some time) =
      latest? (·.data.createdAt) ((book.snapshotsOf player).filter (·.data.createdAt ≤ time)) := rfl

theorem latestSnapshot?_none (book : Book R) (player : Int) :
    book.latestSnapshot? player none = latest? (·.data.createdAt) (book.snapshotsOf player) := rfl

/-- The book in which a player's cache is that of their latest snapshot. -/
def refreshed (book : Book R) (player : Int) : Book R :=
  match book.latestSnapshot? player none with
  | none => book
  | some last => { book with players := book.players.modify player (·.cached last.data) }

/-- A book that differs from another one at most in the snapshots and the players' caches. -/
structure OnlyRates (book later : Book R) : Prop where
  users : later.users = book.users
  battles : later.battles = book.battles
  participants : later.participants = book.participants
  periods : later.periods = book.periods
  ledger : later.ledger = book.ledger
  wagers : later.wagers = book.wagers
  settlements : later.settlements = book.settlements
  isPlayer : ∀ id, (later.players.find? id).isSome = (book.players.find? id).isSome

theorem OnlyRates.refl (book : Book R) : OnlyRates book book :=
  ⟨rfl, rfl, rfl, rfl, rfl, rfl, rfl, fun _ => rfl⟩

theorem OnlyRates.trans {a b c : Book R} (h₁ : OnlyRates a b) (h₂ : OnlyRates b c) :
    OnlyRates a c :=
  ⟨h₂.users.trans h₁.users, h₂.battles.trans h₁.battles, h₂.participants.trans h₁.participants,
    h₂.periods.trans h₁.periods, h₂.ledger.trans h₁.ledger, h₂.wagers.trans h₁.wagers,
    h₂.settlements.trans h₁.settlements, fun id => (h₂.isPlayer id).trans (h₁.isPlayer id)⟩

theorem onlyRates_refreshed (book : Book R) (player : Int) :
    OnlyRates book (book.refreshed player) := by
  unfold refreshed
  split
  · exact .refl book
  · exact ⟨rfl, rfl, rfl, rfl, rfl, rfl, rfl, fun _ => Table.isSome_find?_modify⟩

@[simp] theorem snapshots_refreshed (book : Book R) (player : Int) :
    (book.refreshed player).snapshots = book.snapshots := by
  unfold refreshed
  split <;> rfl

theorem snapshotsOf_append (book : Book R) (s : Snapshot R) (player : Int) :
    snapshotsOf { book with snapshots := book.snapshots.append s } player =
      book.snapshotsOf player ++ if s.player = player then [⟨book.snapshots.nextId, s⟩] else [] := by
  rw [snapshotsOf, Table.rows_append, List.filter_append]
  by_cases h : s.player = player <;> simp [h, snapshotsOf]

/-- A look-up as of a time sees none of the snapshots that were made later. -/
theorem latestSnapshot?_of_rows {added : List (Row (Snapshot R))} {player : Int} {time : Moment}
    (hrows : later.snapshots.rows = book.snapshots.rows ++ added)
    (hadded : ∀ r ∈ added, r.data.player = player → ¬ r.data.createdAt ≤ time) :
    later.latestSnapshot? player (some time) = book.latestSnapshot? player (some time) := by
  have hnone : (added.filter (·.data.player = player)).filter (·.data.createdAt ≤ time) = [] := by
    rw [List.filter_eq_nil_iff]
    intro r hr
    obtain ⟨hr, hplayer⟩ := List.mem_filter.1 hr
    simpa using hadded r hr (of_decide_eq_true hplayer)
  rw [latestSnapshot?_some, latestSnapshot?_some, snapshotsOf, snapshotsOf, hrows,
    List.filter_append, List.filter_append, hnone, List.append_nil]

section Taking

variable [Arithmetic R]

/-- The store takes a snapshot of an existing player for an existing period, once. -/
structure TakesSnapshot (book : Book R) (s : Snapshot R) : Prop where
  storable : s.standing.IsStorable
  count_nonneg : 0 ≤ s.matchupCount
  fresh : ∀ t ∈ book.snapshots.rows, t.data.period = s.period → t.data.player ≠ s.player
  isPeriod : (book.periods.find? s.period).isSome = true
  isPlayer : (book.players.find? s.player).isSome = true

/-- The book with one more snapshot and the player's cache refreshed. -/
def withSnapshot (book : Book R) (s : Snapshot R) : Book R :=
  { book with snapshots := book.snapshots.append s.stored }.refreshed s.player

def withSnapshots (book : Book R) (ss : List (Snapshot R)) : Book R := ss.foldl withSnapshot book

@[simp] theorem withSnapshots_nil : book.withSnapshots [] = book := rfl

@[simp] theorem withSnapshots_cons {s : Snapshot R} {rest : List (Snapshot R)} :
    book.withSnapshots (s :: rest) = (book.withSnapshot s).withSnapshots rest := rfl

theorem withSnapshots_append {ss ts : List (Snapshot R)} :
    book.withSnapshots (ss ++ ts) = (book.withSnapshots ss).withSnapshots ts := List.foldl_append

@[simp] theorem snapshots_withSnapshot {s : Snapshot R} :
    (book.withSnapshot s).snapshots = book.snapshots.append s.stored :=
  snapshots_refreshed _ _

theorem onlyRates_withSnapshot (book : Book R) (s : Snapshot R) :
    OnlyRates book (book.withSnapshot s) := by
  have happend : OnlyRates book { book with snapshots := book.snapshots.append s.stored } :=
    ⟨rfl, rfl, rfl, rfl, rfl, rfl, rfl, fun _ => rfl⟩
  exact happend.trans (onlyRates_refreshed _ _)

theorem onlyRates_withSnapshots (book : Book R) (ss : List (Snapshot R)) :
    OnlyRates book (book.withSnapshots ss) := by
  induction ss generalizing book with
  | nil => exact .refl book
  | cons s rest ih => exact (onlyRates_withSnapshot book s).trans (ih _)

@[simp] theorem periods_withSnapshots {ss : List (Snapshot R)} :
    (book.withSnapshots ss).periods = book.periods := (onlyRates_withSnapshots book ss).periods

theorem snapshots_withSnapshots (book : Book R) (ss : List (Snapshot R)) :
    (book.withSnapshots ss).snapshots = book.snapshots.appendAll (ss.map (·.stored)) := by
  induction ss generalizing book with
  | nil => rfl
  | cons s rest ih =>
    rw [withSnapshots_cons, ih, snapshots_withSnapshot]
    rfl

theorem withSnapshot_setPeriods {periods : Table Period} {s : Snapshot R} :
    { book with periods }.withSnapshot s = { book.withSnapshot s with periods } := by
  unfold withSnapshot refreshed
  change (match latestSnapshot? { book with snapshots := book.snapshots.append s.stored } s.player
    none with | none => _ | some last => _) = _
  cases latestSnapshot? { book with snapshots := book.snapshots.append s.stored } s.player none <;>
    rfl

theorem withSnapshots_setPeriods {periods : Table Period} {ss : List (Snapshot R)} :
    { book with periods }.withSnapshots ss = { book.withSnapshots ss with periods } := by
  induction ss generalizing book with
  | nil => rfl
  | cons s rest ih => rw [withSnapshots_cons, withSnapshot_setPeriods, ih, withSnapshots_cons]

theorem exists_rows_withSnapshots (book : Book R) (ss : List (Snapshot R)) :
    ∃ added, (book.withSnapshots ss).snapshots.rows = book.snapshots.rows ++ added ∧
      added.map (·.data) = ss.map (·.stored) := by
  rw [snapshots_withSnapshots]
  exact Table.exists_rows_appendAll _ _

theorem takesSnapshot_withSnapshot {s t : Snapshot R} (h : s.player ≠ t.player) :
    (book.withSnapshot s).TakesSnapshot t ↔ book.TakesSnapshot t := by
  have hsame := onlyRates_withSnapshot book s
  constructor
  · rintro ⟨hstorable, hcount, hfresh, hperiod, hplayer⟩
    refine ⟨hstorable, hcount, fun r hr => hfresh r ?_, hsame.periods ▸ hperiod,
      hsame.isPlayer _ ▸ hplayer⟩
    rw [snapshots_withSnapshot, Table.rows_append]
    exact List.mem_append_left _ hr
  · rintro ⟨hstorable, hcount, hfresh, hperiod, hplayer⟩
    refine ⟨hstorable, hcount, fun r hr => ?_, hsame.periods ▸ hperiod,
      (hsame.isPlayer _).trans hplayer⟩
    rw [snapshots_withSnapshot, Table.rows_append, List.mem_append, List.mem_singleton] at hr
    rcases hr with hr | rfl
    · exact hfresh r hr
    · exact fun _ => h

end Taking

end Book

namespace Session

variable {book later : Book R}

theorem refreshCache_eq_ok {playerId : Int} {row : Row (Player R)} :
    refreshCache playerId book = .ok row later ↔
      ∃ known, book.players.find? playerId = some known ∧
        row = ⟨known.id, ((book.latestSnapshot? playerId none).map
          (known.data.cached ·.data)).getD known.data⟩ ∧
        later = book.refreshed playerId := by
  simp only [refreshCache, bind_eq_ok, player_eq_ok, read_eq_ok, and_assoc, exists_and_left,
    exists_eq_left']
  unfold Book.refreshed
  cases book.latestSnapshot? playerId none with
  | none =>
    simp only [pure_eq_ok, Option.map_none, Option.getD_none]
    refine exists_congr fun known => and_congr_right fun _ => ?_
    rw [eq_comm, @eq_comm _ later]
  | some last =>
    simp only [bind_eq_ok, modify_eq_ok, pure_eq_ok, exists_eq_left', exists_const,
      Option.map_some, Option.getD_some]
    refine exists_congr fun known => and_congr_right fun _ => ?_
    rw [eq_comm, @eq_comm _ later]
    rfl

theorem appendSnapshot_eq_ok [Arithmetic R] {s : Snapshot R} {row : Row (Snapshot R)} :
    appendSnapshot s book = .ok row later ↔
      book.TakesSnapshot s ∧ row = ⟨book.snapshots.nextId, s⟩ ∧ later = book.withSnapshot s := by
  have hfresh : (!book.snapshots.rows.any fun t =>
      t.data.period = s.period && t.data.player = s.player) = true ↔
        ∀ t ∈ book.snapshots.rows, t.data.period = s.period → t.data.player ≠ s.player := by
    simp
  simp only [appendSnapshot, bind_eq_ok, checkSnapshot_eq_ok, check_eq_ok, get_eq_ok, set_eq_ok,
    refreshCache_eq_ok, pure_eq_ok, and_assoc, exists_and_left, exists_eq_left', exists_const,
    decide_eq_true_eq, hfresh, Bool.and_eq_true]
  constructor
  · rintro ⟨hstorable, hcount, hfresh, hperiod, hplayer, _, _, ⟨known, hknown, rfl, rfl⟩, rfl, rfl⟩
    exact ⟨⟨hstorable, hcount, hfresh, hperiod, hplayer⟩, rfl, rfl⟩
  · rintro ⟨⟨hstorable, hcount, hfresh, hperiod, hplayer⟩, rfl, rfl⟩
    obtain ⟨known, hknown⟩ := Option.isSome_iff_exists.1 hplayer
    exact ⟨hstorable, hcount, hfresh, hperiod, hplayer, _, _, ⟨known, hknown, rfl, rfl⟩, rfl, rfl⟩

end Session

end RaceBook
