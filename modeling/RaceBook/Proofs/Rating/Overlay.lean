import RaceBook.Proofs.Operations

/-!
# What races do under other ratings

* `Overlay`, `Book.overlaid` : periods, snapshots and a player's cache laid over a book;
* `Session.Ignores` : the session does under an overlay what it does without it;
* `Operation.isRace` : the operations on players, battles, the ledger, wagers and settlements;
* `Operation.after_overlaid` : they ignore every overlay, whether they are refused or not.
-/

namespace RaceBook

variable {R : Type}

/-- Periods, snapshots and perhaps the cache of a player, by the snapshot that it is taken from. -/
structure Overlay (R : Type) where
  periods : Table Period
  snapshots : Table (Snapshot R)
  cache : Option (Int × Snapshot R)

namespace Overlay

variable {o : Overlay R} {players : Table (Player R)}

def recached (o : Overlay R) (players : Table (Player R)) : Table (Player R) :=
  match o.cache with
  | none => players
  | some (player, s) => players.modify player (·.cached s)

theorem isSome_find?_recached {id : Int} :
    ((o.recached players).find? id).isSome = (players.find? id).isSome := by
  unfold recached
  split
  · rfl
  · exact Table.isSome_find?_modify

theorem find?_key_recached (key : String) :
    ((o.recached players).rows.find? (·.data.publicKey = key)).map (·.id) =
      (players.rows.find? (·.data.publicKey = key)).map (·.id) := by
  unfold recached
  split
  · rfl
  · rw [Table.find?_rows_modify fun _ => rfl, Option.map_map]
    congr 1
    funext r
    rw [Function.comp_apply]
    split <;> rfl

theorem rename_recached {id : Int} {name : String} :
    (o.recached players).modify id ({ · with displayName := name }) =
      o.recached (players.modify id ({ · with displayName := name })) := by
  unfold recached
  split
  · rfl
  · exact Table.modify_comm fun _ => rfl

theorem append_recached {p : Player R} (h : ∀ c ∈ o.cache, c.1 ≠ players.nextId) :
    (o.recached players).append p = o.recached (players.append p) := by
  unfold recached
  split
  · rfl
  · next player s hcache => exact (Table.modify_append (h _ hcache)).symm

end Overlay

namespace Book

variable {book : Book R} {o : Overlay R}

def overlaid (book : Book R) (o : Overlay R) : Book R :=
  { book with periods := o.periods, snapshots := o.snapshots, players := o.recached book.players }

theorem accepts_overlaid {m : Movement} : (book.overlaid o).Accepts m ↔ book.Accepts m := by
  constructor
  · rintro ⟨hknown, hnonneg, hstorable, hreference⟩
    exact ⟨hknown, hnonneg, hstorable, hreference⟩
  · rintro ⟨hknown, hnonneg, hstorable, hreference⟩
    exact ⟨hknown, hnonneg, hstorable, hreference⟩

theorem post_overlaid {m : Movement} : (book.overlaid o).post m = (book.post m).overlaid o := rfl

section Payouts

variable {battle : Int} {kind : EntryKind} {now : Moment} {ps : List Pool.Payout}

theorem payAll_overlaid :
    (book.overlaid o).payAll battle kind now ps = (book.payAll battle kind now ps).overlaid o := by
  induction ps generalizing book with
  | nil => rfl
  | cons p rest ih =>
    rw [payAll_cons, payAll_cons, ← ih]
    rfl

theorem pays_overlaid :
    Pays battle kind now (book.overlaid o) ps ↔ Pays battle kind now book ps := by
  induction ps generalizing book with
  | nil => exact Iff.rfl
  | cons p rest ih =>
    exact and_congr_right fun _ => and_congr accepts_overlaid (@ih (book.pay battle kind now p))

end Payouts

theorem settles_overlaid {found : Row Battle} {split : Pool.Split} {now : Moment} :
    (book.overlaid o).Settles found split now ↔ book.Settles found split now := by
  constructor
  · rintro ⟨hknown, hended, hunmarked, hdivided, hpays⟩
    exact ⟨hknown, hended, hunmarked, hdivided, pays_overlaid.1 hpays⟩
  · rintro ⟨hknown, hended, hunmarked, hdivided, hpays⟩
    exact ⟨hknown, hended, hunmarked, hdivided, pays_overlaid.2 hpays⟩

theorem settled_overlaid {found : Row Battle} {split : Pool.Split} {now : Moment} :
    (book.overlaid o).settled found split now = (book.settled found split now).overlaid o := by
  unfold settled
  rw [payAll_overlaid]
  rfl

end Book

namespace Session

variable {α β : Type} {book later : Book R} {o : Overlay R}

def Ends (s : Session R α) (book later : Book R) : Prop := ∃ a, s book = .ok a later

/-- The session does under an overlay what it does without it. -/
def Ignores (o : Overlay R) (s : Session R α) (book : Book R) : Prop :=
  ∀ later, s.Ends (book.overlaid o) later ↔ ∃ mid, s.Ends book mid ∧ later = mid.overlaid o

theorem Ignores.map {s : Session R α} {f : α → β} (h : Ignores o s book) :
    Ignores o (f <$> s) book := by
  have hends : ∀ book later, (f <$> s).Ends book later ↔ s.Ends book later := by
    intro book later
    constructor
    · rintro ⟨_, hrun⟩
      obtain ⟨a, hrun, -⟩ := map_eq_ok.1 hrun
      exact ⟨a, hrun⟩
    · rintro ⟨a, hrun⟩
      exact ⟨f a, map_eq_ok.2 ⟨a, hrun, rfl⟩⟩
  intro later
  simp only [hends]
  exact h later

theorem Ignores.after_atomically {s : Session R α} (h : Ignores o s book) :
    (atomically s).after (book.overlaid o) = ((atomically s).after book).overlaid o := by
  unfold after atomically
  cases hrun : s book with
  | ok a mid =>
    obtain ⟨b, hover⟩ := (h _).2 ⟨mid, ⟨a, hrun⟩, rfl⟩
    rw [hover]
  | error fault mid =>
    cases hover : s (book.overlaid o) with
    | error fault' mid' => rfl
    | ok b later =>
      obtain ⟨mid, ⟨a, hok⟩, -⟩ := (h later).1 ⟨b, hover⟩
      rw [hrun] at hok
      cases hok

/-! ## The ledger and settlements -/

theorem ignores_createUser {name : String} {start : Int} {now : Moment} :
    Ignores o (createUser name start now) book := by
  have hentered : (book.overlaid o).enterUser (Text.strip name) now =
      (book.enterUser (Text.strip name) now).overlaid o := rfl
  intro later
  simp only [Ends, createUser_eq_ok, hentered, Book.accepts_overlaid, Book.post_overlaid]
  by_cases hstart : 0 < start
  · simp only [if_pos hstart]
    constructor
    · rintro ⟨row, hname, hfresh, hrow, haccepts, rfl⟩
      exact ⟨(book.enterUser (Text.strip name) now).post
        ⟨book.users.nextId, start, .grant, none, now⟩,
        ⟨row, hname, hfresh, hrow, haccepts, rfl⟩, rfl⟩
    · rintro ⟨_, ⟨row, hname, hfresh, hrow, haccepts, rfl⟩, rfl⟩
      exact ⟨row, hname, hfresh, hrow, haccepts, rfl⟩
  · simp only [if_neg hstart]
    constructor
    · rintro ⟨row, hname, hfresh, hrow, rfl⟩
      exact ⟨book.enterUser (Text.strip name) now, ⟨row, hname, hfresh, hrow, rfl⟩, rfl⟩
    · rintro ⟨_, ⟨row, hname, hfresh, hrow, rfl⟩, rfl⟩
      exact ⟨row, hname, hfresh, hrow, rfl⟩

theorem ignores_credit {user amount : Int} {kind : EntryKind} {battle? : Option Int}
    {now : Moment} : Ignores o (credit user amount kind battle? now) book := by
  intro later
  simp only [Ends, credit_eq_ok, Book.accepts_overlaid]
  constructor
  · rintro ⟨row, hamount, haccepts, -, rfl⟩
    exact ⟨_, ⟨_, hamount, haccepts, rfl, rfl⟩, rfl⟩
  · rintro ⟨_, ⟨row, hamount, haccepts, -, rfl⟩, rfl⟩
    exact ⟨_, hamount, haccepts, rfl, rfl⟩

theorem ignores_debit {user amount : Int} {kind : EntryKind} {battle? : Option Int}
    {now : Moment} : Ignores o (debit user amount kind battle? now) book := by
  intro later
  simp only [Ends, debit_eq_ok, Book.accepts_overlaid]
  constructor
  · rintro ⟨row, hamount, haccepts, -, rfl⟩
    exact ⟨_, ⟨_, hamount, haccepts, rfl, rfl⟩, rfl⟩
  · rintro ⟨_, ⟨row, hamount, haccepts, -, rfl⟩, rfl⟩
    exact ⟨_, hamount, haccepts, rfl, rfl⟩

theorem ignores_settle {battleId : Int} {now : Moment} :
    Ignores o (settle battleId now) book := by
  intro later
  simp only [Ends, settle_eq_ok, Book.settles_overlaid, Book.settled_overlaid]
  constructor
  · rintro ⟨r, ⟨found, hid, split, hsettles, -, rfl⟩ | ⟨found, hfound, hended, hr, rfl⟩⟩
    · exact ⟨_, ⟨_, .inl ⟨found, hid, split, hsettles, rfl, rfl⟩⟩, rfl⟩
    · exact ⟨_, ⟨r, .inr ⟨found, hfound, hended, hr, rfl⟩⟩, rfl⟩
  · rintro ⟨_, ⟨r, ⟨found, hid, split, hsettles, -, rfl⟩ | ⟨found, hfound, hended, hr, rfl⟩⟩, rfl⟩
    · exact ⟨_, .inl ⟨found, hid, split, hsettles, rfl, rfl⟩⟩
    · exact ⟨r, .inr ⟨found, hfound, hended, hr, rfl⟩⟩

/-! ## Battles -/

theorem ignores_createBattle {name : String} {closesAt now : Moment} :
    Ignores o (createBattle name closesAt now) book := by
  intro later
  simp only [Ends, createBattle_eq_ok]
  constructor
  · rintro ⟨row, hcloses, -, rfl⟩
    exact ⟨_, ⟨_, hcloses, rfl, rfl⟩, rfl⟩
  · rintro ⟨_, ⟨row, hcloses, -, rfl⟩, rfl⟩
    exact ⟨_, hcloses, rfl, rfl⟩

theorem ignores_addParticipant {battleId playerId number : Int} :
    Ignores o (addParticipant battleId playerId number) book := by
  have hplayer : ((book.overlaid o).players.find? playerId).isSome =
      (book.players.find? playerId).isSome := Overlay.isSome_find?_recached
  intro later
  simp only [Ends, addParticipant_eq_ok, hplayer]
  constructor
  · rintro ⟨row, hongoing, hplayer, hnew, team, hteam, -, rfl⟩
    exact ⟨_, ⟨_, hongoing, hplayer, hnew, team, hteam, rfl, rfl⟩, rfl⟩
  · rintro ⟨_, ⟨row, hongoing, hplayer, hnew, team, hteam, -, rfl⟩, rfl⟩
    exact ⟨_, hongoing, hplayer, hnew, team, hteam, rfl, rfl⟩

theorem ignores_reportResult {battleId playerId : Int} {finish : Finish} :
    Ignores o (reportResult battleId playerId finish) book := by
  intro later
  simp only [Ends, reportResult_eq_ok]
  constructor
  · rintro ⟨row, hongoing, htime, known, hknown, -, rfl⟩
    exact ⟨_, ⟨_, hongoing, htime, known, hknown, rfl, rfl⟩, rfl⟩
  · rintro ⟨_, ⟨row, hongoing, htime, known, hknown, -, rfl⟩, rfl⟩
    exact ⟨_, hongoing, htime, known, hknown, rfl, rfl⟩

theorem ignores_concludeBattle {battleId : Int} {now : Moment} {cancelled : Bool} :
    Ignores o (concludeBattle battleId now cancelled) book := by
  intro later
  simp only [Ends, concludeBattle_eq_ok]
  constructor
  · rintro ⟨row, known, hknown, hongoing, -, rfl⟩
    exact ⟨_, ⟨_, known, hknown, hongoing, rfl, rfl⟩, rfl⟩
  · rintro ⟨_, ⟨row, known, hknown, hongoing, -, rfl⟩, rfl⟩
    exact ⟨_, known, hknown, hongoing, rfl, rfl⟩

/-! ## Players and wagers -/

theorem ignores_register [Arithmetic R] {key name : String} {initial : Standing R}
    (h : ∀ c ∈ o.cache, c.1 ≠ book.players.nextId) :
    Ignores o (register key name initial) book := by
  have hsame : ((book.overlaid o).players.rows.find? (·.data.publicKey = key.toLower)).map (·.id) =
      (book.players.rows.find? (·.data.publicKey = key.toLower)).map (·.id) :=
    Overlay.find?_key_recached _
  intro later
  simp only [Ends, register_eq_ok]
  cases hknown : book.players.rows.find? (·.data.publicKey = key.toLower) with
  | none =>
    rw [hknown, Option.map_none, Option.map_eq_none_iff] at hsame
    have happend : ∀ p, { book.overlaid o with players := (book.overlaid o).players.append p } =
        { book with players := book.players.append p }.overlaid o := by
      intro p
      unfold Book.overlaid
      rw [← Overlay.append_recached h]
    simp only [hsame, happend]
    constructor
    · rintro ⟨row, hkey, hstorable, -, rfl⟩
      exact ⟨_, ⟨_, hkey, hstorable, rfl, rfl⟩, rfl⟩
    · rintro ⟨_, ⟨row, hkey, hstorable, -, rfl⟩, rfl⟩
      exact ⟨_, hkey, hstorable, rfl, rfl⟩
  | some known =>
    rw [hknown, Option.map_some, Option.map_eq_some_iff] at hsame
    obtain ⟨known', hknown', hid⟩ := hsame
    have hrename :
        { book.overlaid o with
          players := (book.overlaid o).players.modify known.id ({ · with displayName := name }) } =
        { book with
          players :=
            book.players.modify known.id ({ · with displayName := name }) }.overlaid o := by
      unfold Book.overlaid
      rw [← Overlay.rename_recached]
    simp only [hknown', hid, hrename]
    constructor
    · rintro ⟨row, hkey, -, rfl⟩
      exact ⟨_, ⟨_, hkey, rfl, rfl⟩, rfl⟩
    · rintro ⟨_, ⟨row, hkey, -, rfl⟩, rfl⟩
      exact ⟨_, hkey, rfl, rfl⟩

theorem ignores_placeWager [Arithmetic R] {userId battleId number stake : Int} {grace : R}
    {now : Moment} : Ignores o (placeWager userId battleId number stake grace now) book := by
  have hsame : (book.overlaid o).wager? userId battleId = book.wager? userId battleId := rfl
  intro later
  simp only [Ends, placeWager_eq_ok, hsame]
  cases book.wager? userId battleId with
  | none =>
    simp only [placeFirst_eq_ok, Book.accepts_overlaid]
    constructor
    · rintro ⟨row, team, hteam, hpos, hopen, huser, hbacked, hstake, haccepts, -, rfl⟩
      exact ⟨_, ⟨_, team, hteam, hpos, hopen, huser, hbacked, hstake, haccepts, rfl, rfl⟩, rfl⟩
    · rintro ⟨_, ⟨row, team, hteam, hpos, hopen, huser, hbacked, hstake, haccepts, -, rfl⟩, rfl⟩
      exact ⟨_, team, hteam, hpos, hopen, huser, hbacked, hstake, haccepts, rfl, rfl⟩
  | some known =>
    simp only [replaceWager_eq_ok, Book.post_overlaid, Book.accepts_overlaid]
    constructor
    · rintro ⟨row, team, hteam, hpos, hopen, huser, hbacked, hsettled, hreturns, htakes, -, rfl⟩
      exact ⟨_, ⟨_, team, hteam, hpos, hopen, huser, hbacked, hsettled, hreturns, htakes, rfl, rfl⟩,
        rfl⟩
    · rintro ⟨_, ⟨row, team, hteam, hpos, hopen, huser, hbacked, hsettled, hreturns, htakes, -,
        rfl⟩, rfl⟩
      exact ⟨_, team, hteam, hpos, hopen, huser, hbacked, hsettled, hreturns, htakes, rfl, rfl⟩

end Session

/-! ## Operations -/

/-- Whether a command is about players, battles, the ledger or wagers. -/
def Command.isRace : Command R → Bool
  | .ensureOpenPeriod _ | .appendSnapshot _ | .refreshCache _ => false
  | _ => true

/-- Whether an operation reads only, or is about players, battles, the ledger, wagers or
settlements. -/
def Operation.isRace : Operation R → Bool
  | .query _ | .settle _ _ => true
  | .command c => c.isRace
  | .openFirstPeriod _ | .closePeriod .. | .closeElapsed .. => false

variable [Arithmetic R] {book : Book R} {o : Overlay R}

theorem Command.ignores {c : Command R} (hc : c.isRace = true)
    (h : ∀ p ∈ o.cache, p.1 ≠ book.players.nextId) : c.run.Ignores o book := by
  cases c with
  | register => exact (Session.ignores_register h).map
  | createUser => exact Session.ignores_createUser.map
  | credit | grant => exact Session.ignores_credit.map
  | debit => exact Session.ignores_debit.map
  | createBattle => exact Session.ignores_createBattle.map
  | addParticipant => exact Session.ignores_addParticipant.map
  | reportResult => exact Session.ignores_reportResult.map
  | concludeBattle => exact Session.ignores_concludeBattle.map
  | placeWager => exact Session.ignores_placeWager.map
  | ensureOpenPeriod | appendSnapshot | refreshCache => cases hc

theorem Operation.after_query (q : Query R) : (Operation.query q).after book = book := by
  have hsteps := (Operation.query q).steps_after book
  exact hsteps.invariant (P := fun later => later = book) (fun _ _ h => h.elim) rfl

omit [Arithmetic R] in
theorem Session.after_map {α β : Type} (s : Session R α) (f : α → β) (book : Book R) :
    (f <$> s).after book = s.after book := by
  simp only [after, Functor.map, EStateM.map]
  cases s book <;> rfl

/-- **What races do does not hang on the ratings**: an operation that is not about ratings does
under other ones what it does without. -/
theorem Operation.after_overlaid {op : Operation R} (hop : op.isRace = true)
    (h : ∀ p ∈ o.cache, p.1 ≠ book.players.nextId) :
    op.after (book.overlaid o) = (op.after book).overlaid o := by
  cases op with
  | query q => rw [after_query, after_query]
  | command c => exact (Command.ignores hop h).after_atomically
  | settle battle now =>
    have hsettle : Session.Ignores o (Session.settle battle now) book := Session.ignores_settle
    simpa only [after, perform, Session.after_map] using hsettle.after_atomically
  | openFirstPeriod | closePeriod | closeElapsed => cases hop

end RaceBook
