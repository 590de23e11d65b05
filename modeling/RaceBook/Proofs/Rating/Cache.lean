import RaceBook.Arithmetic.Double
import RaceBook.Proofs.Rating.Simultaneous
import RaceBook.Proofs.Store.References

/-!
# The cached standings

* `Book.IsLatest`, `Book.latestSnapshot?_eq_some` : the snapshot that a cache is to follow;
* `Book.Caches` : a player's cache is that of their latest snapshot;
* `Event.caches_apply`, `Reachable.caches` : every event keeps all caches so;
* `Event.cache?_apply` : until the first snapshot a player's cache stays as it was entered;
* `Operation.cache_cases` : where the cache of a player comes from;
* `caches_follow_snapshots` : the caches after any operations.
-/

namespace RaceBook

variable {R : Type} {book later : Book R} {player : Int}

namespace Book

/-- The player's snapshot of the greatest time and, of that time, of the greatest number. -/
structure IsLatest (book : Book R) (player : Int) (s : Row (Snapshot R)) : Prop where
  mem : s ∈ book.snapshots.rows
  is_of : s.data.player = player
  greatest : ∀ t ∈ book.snapshots.rows, t.data.player = player →
    t.data.createdAt < s.data.createdAt ∨ t.data.createdAt = s.data.createdAt ∧ t.id ≤ s.id

theorem latestSnapshot?_eq_some {s : Row (Snapshot R)} :
    book.latestSnapshot? player none = some s ↔ book.IsLatest player s := by
  have hids : (book.snapshotsOf player).Pairwise fun s t => s.id < t.id :=
    book.snapshots.pairwise_ids.filter _
  have hmem : ∀ t, t ∈ book.snapshotsOf player ↔ t ∈ book.snapshots.rows ∧ t.data.player = player :=
    fun t => by rw [snapshotsOf, List.mem_filter, decide_eq_true_eq]
  rw [latestSnapshot?_none, latest?_eq_some_iff hids]
  constructor
  · rintro ⟨hs, hgreatest⟩
    obtain ⟨hs, hplayer⟩ := (hmem s).1 hs
    exact ⟨hs, hplayer, fun t ht hof => hgreatest t ((hmem t).2 ⟨ht, hof⟩)⟩
  · rintro ⟨hs, hplayer, hgreatest⟩
    refine ⟨(hmem s).2 ⟨hs, hplayer⟩, fun t ht => ?_⟩
    obtain ⟨ht, hof⟩ := (hmem t).1 ht
    exact hgreatest t ht hof

theorem latestSnapshot?_eq_none :
    book.latestSnapshot? player none = none ↔ book.snapshotsOf player = [] := latest?_eq_none

/-- The cached standing of a player and the period that it is from. -/
def cache? (book : Book R) (player : Int) : Option (Standing R × Option Int) :=
  (book.players.find? player).map fun p => (p.data.standing, p.data.period)

/-- The cache of a player is that of their latest snapshot; before the first one it is of no
period. -/
structure Caches (book : Book R) (p : Row (Player R)) : Prop where
  rated : ∀ s, book.latestSnapshot? p.id none = some s →
    p.data.standing = s.data.standing ∧ p.data.period = some s.data.period
  unrated : book.latestSnapshot? p.id none = none → p.data.period = none

theorem Caches.congr {p q : Row (Player R)} (h : book.Caches p) (hid : q.id = p.id)
    (hstanding : q.data.standing = p.data.standing) (hperiod : q.data.period = p.data.period)
    (hsnapshots : later.snapshotsOf p.id = book.snapshotsOf p.id) : later.Caches q := by
  have hlatest : later.latestSnapshot? q.id none = book.latestSnapshot? p.id none := by
    rw [latestSnapshot?_none, latestSnapshot?_none, hid, hsnapshots]
  constructor
  · intro s hs
    rw [hstanding, hperiod]
    exact h.rated s (hlatest ▸ hs)
  · intro hnone
    rw [hperiod]
    exact h.unrated (hlatest ▸ hnone)

/-! ## A refreshed cache -/

theorem players_refreshed {last : Row (Snapshot R)}
    (h : book.latestSnapshot? player none = some last) :
    (book.refreshed player).players = book.players.modify player (·.cached last.data) := by
  rw [refreshed, h]

/-- A refresh sets the cache of its player right, if it is of no period before the first snapshot,
and leaves the others. -/
theorem caches_refreshed (hothers : ∀ p ∈ book.players.rows, p.id ≠ player → book.Caches p)
    (hunrated : book.latestSnapshot? player none = none →
      ∀ p ∈ book.players.rows, p.id = player → p.data.period = none) :
    ∀ p ∈ (book.refreshed player).players.rows, (book.refreshed player).Caches p := by
  intro p hp
  have hsnapshots : (book.refreshed player).snapshotsOf p.id = book.snapshotsOf p.id := by
    rw [snapshotsOf, snapshots_refreshed, snapshotsOf]
  refine Caches.congr ?_ rfl rfl rfl hsnapshots
  cases hlatest : book.latestSnapshot? player none with
  | none =>
    rw [refreshed, hlatest] at hp
    by_cases hid : p.id = player
    · have hnone : book.latestSnapshot? p.id none = none := hid ▸ hlatest
      exact ⟨fun s hs => absurd (hs.symm.trans hnone) (Option.some_ne_none s),
        fun _ => hunrated hlatest p hp hid⟩
    · exact hothers p hp hid
  | some last =>
    rw [players_refreshed hlatest] at hp
    obtain ⟨q, hq, rfl⟩ := List.mem_map.1 hp
    split
    next hid =>
      have hlast : book.latestSnapshot? q.id none = some last := hid ▸ hlatest
      refine ⟨fun s hs => ?_, fun hnone =>
        absurd (hlast.symm.trans hnone) (Option.some_ne_none last)⟩
      obtain rfl := Option.some.inj (hlast.symm.trans hs)
      exact ⟨rfl, rfl⟩
    next hid => exact hothers q hq hid

theorem cache?_refreshed_of_unrated {other : Int} (h : book.snapshotsOf other = []) :
    (book.refreshed player).cache? other = book.cache? other := by
  by_cases hother : other = player
  · subst hother
    rw [refreshed, latestSnapshot?_eq_none.2 h]
  · rw [cache?, refreshed_players_of_ne hother, cache?]

section

variable [Arithmetic R]

theorem caches_withSnapshot {s : Snapshot R} (h : ∀ p ∈ book.players.rows, book.Caches p) :
    ∀ p ∈ (book.withSnapshot s).players.rows, (book.withSnapshot s).Caches p := by
  refine caches_refreshed (fun p hp hid => ?_) fun hnone => ?_
  · refine (h p hp).congr rfl rfl rfl ?_
    rw [snapshotsOf_append, if_neg (Ne.symm hid : s.stored.player ≠ p.id), List.append_nil]
  · rw [latestSnapshot?_eq_none, snapshotsOf_append, if_pos s.player_stored]
      at hnone
    exact absurd hnone (List.append_ne_nil_of_right_ne_nil _ (List.cons_ne_nil _ _))

theorem caches_withSnapshots {ss : List (Snapshot R)}
    (h : ∀ p ∈ book.players.rows, book.Caches p) :
    ∀ p ∈ (book.withSnapshots ss).players.rows, (book.withSnapshots ss).Caches p := by
  induction ss generalizing book with
  | nil => exact h
  | cons s rest ih => exact ih (caches_withSnapshot h)

/-- A snapshot that is earlier than another one of its player changes no cache. -/
theorem players_withSnapshot_of_backdated {s : Snapshot R} {t : Row (Snapshot R)}
    (h : ∀ p ∈ book.players.rows, book.Caches p) (ht : book.IsLatest s.player t)
    (hlt : s.createdAt < t.data.createdAt) : (book.withSnapshot s).players = book.players := by
  have hlatest : latestSnapshot? { book with snapshots := book.snapshots.append s.stored } s.player
      none = some t := by
    refine latestSnapshot?_eq_some.2 ⟨List.mem_append_left _ ht.mem, ht.is_of, fun u hu hof => ?_⟩
    rcases List.mem_append.1 hu with hu | hu
    · exact ht.greatest u hu hof
    · rw [List.mem_singleton.1 hu]
      exact .inl hlt
  rw [withSnapshot, players_refreshed hlatest]
  refine Table.modify_eq_self fun p hp => ?_
  obtain ⟨hmem, hid⟩ := Table.find?_eq_some_iff.1 hp
  obtain ⟨hstanding, hperiod⟩ := (h p hmem).rated t (hid ▸ latestSnapshot?_eq_some.2 ht)
  rw [Player.cached, ← hstanding, ← hperiod]

end

end Book

theorem Session.currentStanding_eq_ok {standing : Standing R} :
    currentStanding player book = .ok standing later ↔
      ∃ p, book.players.find? player = some p ∧ standing = p.data.standing ∧ later = book := by
  simp only [currentStanding, bind_eq_ok, player_eq_ok, pure_eq_ok, and_assoc, exists_and_left,
    exists_eq_left']
  grind

/-! ## The caches of reachable books -/

variable [Arithmetic R]

namespace Event

theorem caches_apply {e : Event R} (h : e.Enabled book) (hbook : book.RefersToKnown)
    (hcaches : ∀ p ∈ book.players.rows, book.Caches p) :
    ∀ p ∈ (e.apply book).players.rows, (e.apply book).Caches p := by
  cases e with
  | playerEntered key name initial =>
    intro p hp
    change p ∈ (book.players.append _).rows at hp
    rw [Table.rows_append, List.mem_append, List.mem_singleton] at hp
    rcases hp with hp | rfl
    · exact (hcaches p hp).congr rfl rfl rfl rfl
    · -- no snapshot is of a player who is yet to be entered
      have hnone : book.snapshotsOf book.players.nextId = [] := by
        refine List.filter_eq_nil_iff.2 fun s hs he => ?_
        obtain ⟨q, hq⟩ := Option.isSome_iff_exists.1 (hbook.rated s hs)
        exact Table.ne_nextId_of_find? hq (of_decide_eq_true he)
      have hlatest := Book.latestSnapshot?_eq_none.2 hnone
      exact ⟨fun s hs => (nomatch hlatest.symm.trans hs), fun _ => rfl⟩
  | playerRenamed player name =>
    intro p hp
    obtain ⟨q, hq, rfl⟩ := List.mem_map.1 hp
    split <;> exact (hcaches q hq).congr rfl rfl rfl rfl
  | battleSettled found split now =>
    have hpays : book.OnlyPays (book.payAll found.id split.kind now split.payouts) :=
      Book.onlyPays_payAll book split.payouts
    have hsnapshots : (apply book (battleSettled found split now)).snapshots = book.snapshots :=
      hpays.snapshots
    intro p hp
    refine (hcaches p (hpays.players ▸ hp)).congr rfl rfl rfl ?_
    rw [Book.snapshotsOf, hsnapshots, Book.snapshotsOf]
  | periodMarked found =>
    change ∀ p ∈ (book.marked found).players.rows, (book.marked found).Caches p
    unfold Book.marked
    split
    · exact fun p hp => (hcaches p hp).congr rfl rfl rfl rfl
    · exact hcaches
  | periodClosed config found endedAt =>
    intro p hp
    exact (Book.caches_withSnapshots hcaches p hp).congr rfl rfl rfl rfl
  | snapshotTaken s => exact Book.caches_withSnapshot hcaches
  | cacheRefreshed player =>
    refine Book.caches_refreshed (fun p hp _ => hcaches p hp) fun hnone p hp hid => ?_
    exact (hcaches p hp).unrated (hid ▸ hnone)
  | _ => exact fun p hp => (hcaches p hp).congr rfl rfl rfl rfl

end Event

theorem Reachable.caches (h : Reachable book) : ∀ p ∈ book.players.rows, book.Caches p := by
  have hboth : book.RefersToKnown ∧ ∀ p ∈ book.players.rows, book.Caches p := by
    refine h.induct (P := fun book => book.RefersToKnown ∧ ∀ p ∈ book.players.rows, book.Caches p)
      ⟨Reachable.empty.refersToKnown, fun _ hp => nomatch hp⟩ fun _ _ hbook he => ?_
    exact ⟨Event.refersToKnown_apply he hbook.1, Event.caches_apply he hbook.1 hbook.2⟩
  exact hboth.2

/-- The current standing of a rated player is that of their latest snapshot. -/
theorem Reachable.currentStanding_eq (h : Reachable book) {s : Row (Snapshot R)}
    (hs : book.IsLatest player s) :
    (Operation.query (.currentStanding player)).perform book =
      .ok (.standing s.data.standing) book := by
  have hplayer := h.refersToKnown.rated s hs.mem
  rw [hs.is_of] at hplayer
  obtain ⟨p, hp⟩ := Option.isSome_iff_exists.1 hplayer
  obtain ⟨hmem, rfl⟩ := Table.find?_eq_some_iff.1 hp
  have hstanding := ((h.caches p hmem).rated s (Book.latestSnapshot?_eq_some.2 hs)).1
  have hcurrent : Session.currentStanding p.id book = .ok s.data.standing book :=
    Session.currentStanding_eq_ok.2 ⟨p, hp, hstanding.symm, rfl⟩
  exact Session.atomically_eq_ok.2 (Session.map_eq_ok.2 ⟨_, hcurrent, rfl⟩)

/-! ## Caches before the first snapshot -/

namespace Event

theorem snapshots_prefix_apply (e : Event R) (book : Book R) :
    book.snapshots.rows <+: (e.apply book).snapshots.rows := by
  rw [snapshots_apply]
  cases e with
  | snapshotTaken s => exact List.prefix_append _ _
  | periodClosed config found endedAt =>
    obtain ⟨added, hrows, -⟩ := Table.exists_rows_appendAll book.snapshots
      ((book.snapshotsOfClose config found endedAt).map (·.stored))
    exact ⟨added, hrows.symm⟩
  | _ => exact List.prefix_refl _

theorem unrated_of_apply {e : Event R} (h : (e.apply book).snapshotsOf player = []) :
    book.snapshotsOf player = [] :=
  List.prefix_nil.1 (h ▸ (e.snapshots_prefix_apply book).filter _)

theorem cache?_withSnapshots_of_unrated {ss : List (Snapshot R)}
    (h : (book.withSnapshots ss).snapshotsOf player = []) :
    (book.withSnapshots ss).cache? player = book.cache? player := by
  have hplayer : player ∉ ss.map (·.player) := by
    rintro hmem
    obtain ⟨s, hs, rfl⟩ := List.mem_map.1 hmem
    obtain ⟨added, hrows, hdata⟩ := book.exists_rows_withSnapshots ss
    obtain ⟨r, hr, hstored⟩ := exists_of_map_eq hdata.symm hs
    have hof : decide (r.data.player = s.player) = true := by rw [← hstored]; simp
    rw [Book.snapshotsOf, hrows, List.filter_append, List.append_eq_nil_iff] at h
    exact List.filter_eq_nil_iff.1 h.2 r hr hof
  rw [Book.cache?, Book.players_withSnapshots_of_ne hplayer, Book.cache?]

theorem cache?_apply {e : Event R} (hentered : ∀ key name initial, e ≠ playerEntered key name initial)
    (hunrated : (e.apply book).snapshotsOf player = []) :
    (e.apply book).cache? player = book.cache? player := by
  cases e with
  | playerEntered key name initial => exact absurd rfl (hentered key name initial)
  | playerRenamed other name =>
    change ((book.players.modify other _).find? player).map _ = _
    rw [Table.find?_modify, Option.map_map, Book.cache?]
    congr 1
    funext p
    rw [Function.comp_apply]
    split <;> rfl
  | battleSettled found split now =>
    exact congrArg (fun players => (Table.find? players player).map _)
      (Book.onlyPays_payAll book split.payouts).players
  | periodMarked found =>
    change (book.marked found).cache? player = _
    unfold Book.marked
    split <;> rfl
  | periodClosed config found endedAt => exact cache?_withSnapshots_of_unrated hunrated
  | snapshotTaken s =>
    change ((book.withSnapshots [s]).snapshotsOf player) = [] at hunrated
    exact cache?_withSnapshots_of_unrated hunrated
  | cacheRefreshed other => exact Book.cache?_refreshed_of_unrated (unrated_of_apply hunrated)
  | _ => rfl

end Event

namespace Operation

theorem unrated_of_after {op : Operation R} (h : (op.after book).snapshotsOf player = []) :
    book.snapshotsOf player = [] :=
  (op.steps_after book).invariant
    (P := fun mid => mid.snapshotsOf player = [] → book.snapshotsOf player = [])
    (fun _ _ _ hmid _ h => hmid (Event.unrated_of_apply h)) id h

omit [Arithmetic R] in
theorem eq_register_of_explains {op : Operation R} {key name : String} {initial : Standing R}
    (h : op.Explains (.playerEntered key name initial)) :
    ∃ key name initial, op = .command (.register key name initial) := by
  cases op with
  | command c => cases c <;> simp [Operation.Explains, Command.Explains] at h ⊢
  | _ => simp [Operation.Explains] at h

theorem cache?_after {op : Operation R}
    (hop : ∀ key name initial, op ≠ .command (.register key name initial))
    (hunrated : (op.after book).snapshotsOf player = []) :
    (op.after book).cache? player = book.cache? player := by
  refine (op.steps_after book).invariant
    (P := fun mid => mid.snapshotsOf player = [] → mid.cache? player = book.cache? player)
    (fun mid e hexplained hmid _ hunrated => ?_) (fun _ => rfl) hunrated
  have hentered : ∀ key name initial, e ≠ .playerEntered key name initial := by
    rintro key name initial rfl
    obtain ⟨key, name, initial, he⟩ := eq_register_of_explains hexplained
    exact hop key name initial he
  exact (Event.cache?_apply hentered hunrated).trans (hmid (Event.unrated_of_apply hunrated))

/-- A registration changes a name or enters a player with a standing that the store takes. -/
theorem players_register (key name : String) (initial : Standing R) (book : Book R) :
    ((command (.register key name initial)).after book).players = book.players ∨
      (∃ id, ((command (.register key name initial)).after book).players =
        book.players.modify id ({ · with displayName := name })) ∨
      initial.IsStorable ∧ ((command (.register key name initial)).after book).players =
        book.players.append ⟨key.toLower, name, initial.stored, none⟩ := by
  rcases after_command (.register key name initial) book with hafter | ⟨reply, hrun⟩
  · exact .inl (congrArg _ hafter)
  · obtain ⟨row, hrun, -⟩ := Session.map_eq_ok.1 hrun
    obtain ⟨-, hrun⟩ := Session.register_eq_ok.1 hrun
    cases hknown : book.players.rows.find? (·.data.publicKey = key.toLower) with
    | some known =>
      rw [hknown] at hrun
      exact .inr (.inl ⟨known.id, congrArg _ hrun.2⟩)
    | none =>
      rw [hknown] at hrun
      exact .inr (.inr ⟨hrun.1, congrArg _ hrun.2.2⟩)

/-- A registration leaves the cache of who is there, and gives its standing to who enters. -/
theorem cache?_register (key name : String) (initial : Standing R) (book : Book R) (player : Int) :
    ((command (.register key name initial)).after book).cache? player = book.cache? player ∨
      book.cache? player = none ∧
      ((command (.register key name initial)).after book).cache? player =
        some (initial.stored, none) := by
  unfold Book.cache?
  rcases players_register key name initial book with hplayers | ⟨id, hplayers⟩ | ⟨-, hplayers⟩
  · exact .inl (by rw [hplayers])
  · left
    rw [hplayers, Table.find?_modify, Option.map_map]
    congr 1
    funext p
    rw [Function.comp_apply]
    split <;> rfl
  · rw [hplayers, Table.find?_append]
    split
    next hid =>
      have hnone : book.players.find? player = none := by
        cases hp : book.players.find? player with
        | none => rfl
        | some p => exact absurd hid (Table.ne_nextId_of_find? hp)
      exact .inr ⟨by rw [hnone, Option.map_none], rfl⟩
    next => exact .inl rfl

/-- One of the operations is the registration that entered the player, with this standing. -/
def Enters (ops : List (Operation R)) (player : Int) (initial : Standing R) : Prop :=
  ∃ before key name rest, ops = before ++ command (.register key name initial) :: rest ∧
    (run before .empty).players.find? player = none ∧
    ((run (before ++ [command (.register key name initial)]) .empty).players.find? player).isSome

theorem Enters.concat {ops : List (Operation R)} {initial : Standing R} (op : Operation R)
    (h : Enters ops player initial) : Enters (ops ++ [op]) player initial := by
  obtain ⟨before, key, name, rest, rfl, hnone, hsome⟩ := h
  exact ⟨before, key, name, rest ++ [op], by rw [List.append_assoc, List.cons_append], hnone, hsome⟩

theorem Enters.storable {ops : List (Operation R)} {initial : Standing R}
    (h : Enters ops player initial) : initial.IsStorable := by
  obtain ⟨before, key, name, rest, -, hnone, hsome⟩ := h
  rw [run_append, run_cons, run_nil] at hsome
  rcases players_register key name initial (run before .empty) with
    hplayers | ⟨id, hplayers⟩ | ⟨hstorable, -⟩
  · rw [hplayers, hnone] at hsome
    cases hsome
  · rw [hplayers, Table.isSome_find?_modify, hnone] at hsome
    cases hsome
  · exact hstorable

theorem enters_of_unrated (ops : List (Operation R)) {cache : Standing R × Option Int}
    (hunrated : (run ops .empty).snapshotsOf player = [])
    (hcache : (run ops .empty).cache? player = some cache) :
    ∃ initial, Enters ops player initial ∧ cache = (initial.stored, none) := by
  induction ops using List.reverseRecOn with
  | nil => cases hcache
  | append_singleton ops op ih =>
    have hrun : run (ops ++ [op]) .empty = op.after (run ops .empty) := by
      rw [run_append, run_cons, run_nil]
    rw [hrun] at hunrated hcache
    by_cases hsame : (op.after (run ops .empty)).cache? player = (run ops .empty).cache? player
    · obtain ⟨initial, henters, hinitial⟩ := ih (unrated_of_after hunrated) (hsame ▸ hcache)
      exact ⟨initial, henters.concat op, hinitial⟩
    · -- only the registration of the player itself changes their cache
      obtain ⟨key, name, initial, rfl⟩ : ∃ key name initial,
          op = .command (.register key name initial) := by
        by_contra hop
        exact hsame (cache?_after (fun key name initial he => hop ⟨key, name, initial, he⟩) hunrated)
      rcases cache?_register key name initial (run ops .empty) player with hold | ⟨hnone, hnew⟩
      · exact absurd hold hsame
      · refine ⟨initial, ⟨ops, key, name, [], rfl, Option.map_eq_none_iff.1 hnone, ?_⟩, ?_⟩
        · rw [hrun, ← Option.isSome_map (f := fun p => (p.data.standing, p.data.period))]
          exact Option.isSome_of_eq_some hcache
        · exact Option.some.inj (hcache.symm.trans hnew)

/-- A player's cache is that of their latest snapshot, or the one that they were entered with. -/
theorem cache_cases (ops : List (Operation R)) {p : Row (Player R)}
    (hp : p ∈ (run ops .empty).players.rows) :
    (∃ s, (run ops .empty).latestSnapshot? p.id none = some s ∧
      p.data.standing = s.data.standing ∧ p.data.period = some s.data.period) ∨
    ((run ops .empty).latestSnapshot? p.id none = none ∧ ∃ initial, Enters ops p.id initial ∧
      p.data.standing = initial.stored ∧ p.data.period = none) := by
  have hcaches := (Reachable.empty.run ops).caches p hp
  cases hlast : (run ops .empty).latestSnapshot? p.id none with
  | some s => exact .inl ⟨s, rfl, hcaches.rated s hlast⟩
  | none =>
    have hcache : (run ops .empty).cache? p.id = some (p.data.standing, p.data.period) := by
      rw [Book.cache?, Table.find?_of_mem hp, Option.map_some]
    obtain ⟨initial, henters, hinitial⟩ :=
      enters_of_unrated ops (Book.latestSnapshot?_eq_none.1 hlast) hcache
    exact .inr ⟨rfl, initial, henters, congrArg (·.1) hinitial, congrArg (·.2) hinitial⟩

end Operation

/-! ## All caches -/

/-- **The caches follow the snapshots**, whatever operations led to the book; before the first
snapshot a player has the standing that they were entered with. -/
theorem caches_follow_snapshots (ops : List (Operation R)) {p : Row (Player R)}
    (hp : p ∈ (Operation.run ops .empty).players.rows) :
    let book := Operation.run ops .empty
    ((∃ s ∈ book.snapshots.rows, s.data.player = p.id) → ∃ s, book.IsLatest p.id s ∧
      p.data.standing = s.data.standing ∧ p.data.period = some s.data.period ∧
      (Operation.query (.latestSnapshot p.id none)).perform book = .ok (.snapshot? (some s)) book ∧
      (Operation.query (.currentStanding p.id)).perform book =
        .ok (.standing s.data.standing) book) ∧
    ((∀ s ∈ book.snapshots.rows, s.data.player ≠ p.id) → ∃ initial,
      Operation.Enters ops p.id initial ∧ p.data.standing = initial.stored ∧
      p.data.period = none) ∧
    (∀ key name initial,
      ((Operation.command (.register key name initial)).after book).cache? p.id =
        some (p.data.standing, p.data.period)) ∧
    ∀ (s : Snapshot R) t, s.player = p.id → book.IsLatest p.id t →
      s.createdAt < t.data.createdAt →
      ((Operation.command (.appendSnapshot s)).after book).players = book.players := by
  intro book
  have hcaches : ∀ p ∈ book.players.rows, book.Caches p := (Reachable.empty.run ops).caches
  have hfound : book.players.find? p.id = some p := Table.find?_of_mem hp
  have hcache : book.cache? p.id = some (p.data.standing, p.data.period) := by
    rw [Book.cache?, hfound, Option.map_some]
  refine ⟨?_, fun hunrated => ?_, fun key name initial => ?_, fun s t hplayer ht hlt => ?_⟩
  · rintro ⟨s, hs, hplayer⟩
    have hrated : book.snapshotsOf p.id ≠ [] :=
      List.ne_nil_of_mem (List.mem_filter.2 ⟨hs, decide_eq_true hplayer⟩)
    obtain ⟨last, hlast⟩ :=
      Option.ne_none_iff_exists'.1 (mt Book.latestSnapshot?_eq_none.1 hrated)
    obtain ⟨hstanding, hperiod⟩ := (hcaches p hp).rated last hlast
    have hlatest : (Query.latestSnapshot p.id none).run book = .ok (.snapshot? (some last)) book := by
      rw [Query.run, Session.read_eq_ok, hlast]
      exact ⟨rfl, rfl⟩
    have hlast := Book.latestSnapshot?_eq_some.1 hlast
    exact ⟨last, hlast, hstanding, hperiod, Session.atomically_eq_ok.2 hlatest,
      (Reachable.empty.run ops).currentStanding_eq hlast⟩
  · have hnone : book.snapshotsOf p.id = [] :=
      List.filter_eq_nil_iff.2 fun s hs he => hunrated s hs (of_decide_eq_true he)
    obtain ⟨initial, henters, hinitial⟩ := Operation.enters_of_unrated ops hnone hcache
    exact ⟨initial, henters, congrArg (·.1) hinitial, congrArg (·.2) hinitial⟩
  · rcases Operation.cache?_register key name initial book p.id with hsame | ⟨hnone, -⟩
    · exact hsame.trans hcache
    · rw [hcache] at hnone
      cases hnone
  · rcases Operation.after_command (.appendSnapshot s) book with hafter | ⟨reply, hrun⟩
    · rw [hafter]
    · obtain ⟨row, hrun, -⟩ := Session.map_eq_ok.1 hrun
      rw [(Session.appendSnapshot_eq_ok.1 hrun).2.2]
      exact Book.players_withSnapshot_of_backdated hcaches (hplayer ▸ ht) hlt

/-- A player who is entered after the first period, gets a snapshot for it, then an earlier one for
the second, and registers again. -/
def overtaken : List (Operation Float) :=
  let key := String.ofList (List.replicate 64 'a')
  [.openFirstPeriod (.ofTicks 3), .closePeriod .standard none (.ofTicks 4),
    .command (.register key "Ann" ⟨1500.0, 350.0, 0.06⟩),
    .command (.appendSnapshot ⟨1, 1, ⟨1620.0, 200.0, 0.06⟩, 4, .ofTicks 9⟩),
    .command (.appendSnapshot ⟨2, 1, ⟨1580.0, 190.0, 0.06⟩, 2, .ofTicks 5⟩),
    .command (.register key "Anna" ⟨1000.0, 350.0, 0.06⟩)]

/-- The cache stays with the snapshot of the first period. -/
theorem caches_follow_snapshots_overtaken :
    ∃ p ∈ (Operation.run overtaken .empty).players.rows, p.data.displayName = "Anna" ∧
      p.data.period = some 1 ∧
      ∃ s, (Operation.run overtaken .empty).IsLatest p.id s ∧ s.data.createdAt = .ofTicks 9 ∧
        p.data.standing = s.data.standing := by
  obtain ⟨hplayers, hsnapshots⟩ :
      ((Operation.run overtaken .empty).players.rows.map fun p =>
          (p.id, p.data.displayName, p.data.period)) = [(1, "Anna", some 1)] ∧
        ((Operation.run overtaken .empty).snapshots.rows.map fun s =>
          (s.data.player, s.data.period, s.data.createdAt)) =
            [(1, 1, .ofTicks 9), (1, 2, .ofTicks 5)] := by decide +kernel
  obtain ⟨p, hrows, hentry⟩ := List.map_eq_singleton_iff.1 hplayers
  obtain ⟨hid, hname, hperiod⟩ : p.id = 1 ∧ p.data.displayName = "Anna" ∧
      p.data.period = some 1 := by simpa using hentry
  have hp : p ∈ (Operation.run overtaken .empty).players.rows := hrows ▸ List.mem_singleton.2 rfl
  obtain ⟨first, _, htaken, hfirst, -⟩ := List.map_eq_cons_iff.1 hsnapshots
  have hrated : ∃ s ∈ (Operation.run overtaken .empty).snapshots.rows, s.data.player = p.id :=
    ⟨first, htaken ▸ List.mem_cons_self, hid ▸ congrArg (·.1) hfirst⟩
  obtain ⟨s, hlatest, hstanding, hcached, -⟩ := (caches_follow_snapshots overtaken hp).1 hrated
  refine ⟨p, hp, hname, hperiod, s, hlatest, ?_, hstanding⟩
  have hs : (s.data.player, s.data.period, s.data.createdAt) ∈
      [(1, 1, Moment.ofTicks 9), (1, 2, Moment.ofTicks 5)] :=
    hsnapshots ▸ List.mem_map_of_mem hlatest.mem
  rw [hperiod, Option.some.injEq] at hcached
  rw [← hcached] at hs
  exact (by simpa using hs : s.data.player = 1 ∧ s.data.createdAt = .ofTicks 9).2

end RaceBook
