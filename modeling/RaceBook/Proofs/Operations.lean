import RaceBook.Operation
import RaceBook.Proofs.Event

/-!
# Operations are made of events

* `Operation.Explains` : the events that an operation may consist of;
* `Session.Leads` : whatever a session writes, refused or not, is made of allowed events;
* `Operation.steps_after` : every operation is made of the events that explain it;
* `Operation.run` : several operations, one after the other;
* `Reachable.induct` : what holds of the empty book and is kept by every event holds of every
  reachable book.
-/

namespace RaceBook

variable {R : Type} [Arithmetic R]

/-! ## The events of an operation -/

/-- The events that a command may consist of. -/
def Command.Explains : Command R → Event R → Prop
  | .register _ _ _, e =>
    (∃ key name initial, e = .playerEntered key name initial) ∨ ∃ id name, e = .playerRenamed id name
  | .createUser _ start now, e =>
    (∃ name, e = .userEntered name now) ∨
      0 < start ∧ ∃ id, e = .posted ⟨id, start, .grant, none, now⟩
  | .credit user amount kind battle? now, e => e = .posted ⟨user, amount, kind, battle?, now⟩
  | .debit user amount kind battle? now, e => e = .posted ⟨user, -amount, kind, battle?, now⟩
  | .grant user amount now, e => e = .posted ⟨user, amount, .grant, none, now⟩
  | .createBattle name closesAt now, e => e = .battleCreated name closesAt now
  | .addParticipant battle player _, e => ∃ team, e = .participantEntered battle player team
  | .reportResult battle player finish, e =>
    ∃ known, known.data.battle = battle ∧ known.data.player = player ∧
      e = .resultReported known finish
  | .concludeBattle battle now cancelled, e => e = .battleEnded battle cancelled now
  | .placeWager user battle _ stake _ now, e =>
    (∃ team, e = .wagerPlaced ⟨user, battle, team, stake, now, now, none⟩) ∨
      ∃ known team, known.data.user = user ∧ known.data.battle = battle ∧
        e = .wagerReplaced known team stake now
  | .ensureOpenPeriod now, e => e = .periodOpened now
  | .appendSnapshot s, e => e = .snapshotTaken s
  | .refreshCache player, e => e = .cacheRefreshed player

def Operation.Explains : Operation R → Event R → Prop
  | .query _, _ => False
  | .command c, e => c.Explains e
  | .openFirstPeriod now, e => e = .periodOpened now
  | .settle battle now, e => ∃ found split, found.id = battle ∧ e = .battleSettled found split now
  | .closePeriod config _ endedAt, e =>
    (∃ found, e = .periodMarked found) ∨ ∃ found, e = .periodClosed config found endedAt
  | .closeElapsed config now, e =>
    e = .periodOpened now ∨ (∃ found, e = .periodMarked found) ∨
      ∃ found endedAt, e = .periodClosed config found endedAt

omit [Arithmetic R] in
theorem Operation.eq_settle_of_explains {op : Operation R} {found : Row Battle} {split : Pool.Split}
    {now : Moment} (h : op.Explains (.battleSettled found split now)) : op = .settle found.id now := by
  cases op with
  | settle battle now' =>
    obtain ⟨_, _, hid, he⟩ := h
    cases he
    rw [hid]
  | command c => cases c <;> simp [Operation.Explains, Command.Explains] at h
  | _ => simp [Operation.Explains] at h

namespace Session

variable {allowed : Event R → Prop} {α β : Type}

/-- Whatever the session writes, refused or not, is made of allowed events. -/
def Leads (allowed : Event R → Prop) (s : Session R α) : Prop :=
  ∀ book, Event.Steps allowed book (s.after book)

theorem leads_pure (a : α) : Leads allowed (pure a : Session R α) := fun _ => .refl

theorem leads_throw (fault : Fault R) : Leads allowed (throw fault : Session R α) := fun _ => .refl

theorem leads_read (f : Book R → α) : Leads allowed (read f) := fun _ => .refl

theorem leads_demand (value? : Option α) (fault : Fault R) :
    Leads allowed (demand value? fault) := by
  cases value? with
  | none => exact leads_throw fault
  | some a => exact leads_pure a

theorem leads_check (condition : Bool) (fault : Fault R) :
    Leads allowed (check condition fault) := by
  cases condition with
  | false => exact leads_throw fault
  | true => exact leads_pure ()

theorem leads_liftNumber (x : Except NumberFault α) : Leads allowed (liftM x : Session R α) := by
  cases x <;> exact fun _ => .refl

theorem Leads.bind {s : Session R α} {next : α → Session R β} (hs : Leads allowed s)
    (hnext : ∀ a, Leads allowed (next a)) : Leads allowed (s >>= next) := by
  intro book
  have hfirst := hs book
  simp only [after, Bind.bind, EStateM.bind] at hfirst ⊢
  cases hrun : s book with
  | ok a mid =>
    rw [hrun] at hfirst
    exact hfirst.trans (hnext a mid)
  | error e mid =>
    rw [hrun] at hfirst
    exact hfirst

theorem Leads.map {s : Session R α} {f : α → β} (hs : Leads allowed s) :
    Leads allowed (f <$> s) := by
  intro book
  have hfirst := hs book
  simp only [after, Functor.map, EStateM.map] at hfirst ⊢
  cases hrun : s book with
  | ok a mid =>
    rw [hrun] at hfirst
    exact hfirst
  | error e mid =>
    rw [hrun] at hfirst
    exact hfirst

theorem leads_get : Leads allowed (get : Session R (Book R)) := fun _ => .refl

theorem leads_liftRating (x : Except (Glicko.RatingFault R) α) :
    Leads allowed (liftM x : Session R α) := by
  cases x <;> exact fun _ => .refl

theorem leads_foldlM {f : β → α → Session R β} {l : List α} {init : β}
    (h : ∀ b a, Leads allowed (f b a)) : Leads allowed (l.foldlM f init) := by
  induction l generalizing init with
  | nil => exact leads_pure _
  | cons a rest ih => exact (h init a).bind fun _ => ih

/-- A session that leaves no trace when it is refused leads where it leads when it ends well. -/
theorem leads_atomically {s : Session R α}
    (h : ∀ {a book later}, s book = .ok a later → Event.Steps allowed book later) :
    Leads allowed (atomically s) := by
  intro book
  unfold after atomically
  cases hrun : s book with
  | ok a later => exact h hrun
  | error e later => exact .refl

theorem Leads.atomically {s : Session R α} (hs : Leads allowed s) :
    Leads allowed (atomically s) := by
  refine leads_atomically fun {_ book _} h => ?_
  have hafter := hs book
  rwa [after, h] at hafter

end Session

/-! ## Queries and commands -/

section

variable {book later : Book R} {reply : Reply R}

open Event

theorem Command.steps_of_run {c : Command R} (h : c.run book = .ok reply later) :
    Steps c.Explains book later := by
  cases c with
  | register key name initial =>
    obtain ⟨row, hrun, -⟩ := Session.map_eq_ok.1 h
    obtain ⟨hkey, hrun⟩ := Session.register_eq_ok.1 hrun
    cases hknown : book.players.rows.find? (·.data.publicKey = key.toLower) with
    | some known =>
      rw [hknown] at hrun
      obtain ⟨-, rfl⟩ := hrun
      have hfound := Table.find?_of_mem (List.mem_of_find?_eq_some hknown)
      exact Steps.single (e := .playerRenamed known.id name) (.inr ⟨_, _, rfl⟩)
        (Option.isSome_of_eq_some hfound)
    | none =>
      rw [hknown] at hrun
      obtain ⟨hstorable, -, rfl⟩ := hrun
      refine Steps.single (e := .playerEntered key name initial) (.inl ⟨_, _, _, rfl⟩)
        ⟨hkey, fun p hp => ?_, hstorable⟩
      simpa using List.find?_eq_none.1 hknown p hp
  | createUser name start now =>
    obtain ⟨row, hrun, -⟩ := Session.map_eq_ok.1 h
    obtain ⟨hname, hfresh, -, hrun⟩ := Session.createUser_eq_ok.1 hrun
    have hentered : Steps (Command.createUser name start now).Explains book
        (book.enterUser (Text.strip name) now) :=
      Steps.single (e := .userEntered (Text.strip name) now) (.inl ⟨_, rfl⟩) ⟨hname, hfresh⟩
    by_cases hpos : 0 < start
    · simp only [if_pos hpos] at hrun
      obtain ⟨haccepts, rfl⟩ := hrun
      exact hentered.trans
        (Steps.single (e := .posted _) (.inr ⟨hpos, book.users.nextId, rfl⟩) haccepts)
    · simp only [if_neg hpos] at hrun
      rw [hrun]
      exact hentered
  | credit user amount kind battle? now =>
    obtain ⟨row, hrun, -⟩ := Session.map_eq_ok.1 h
    obtain ⟨-, haccepts, -, rfl⟩ := Session.credit_eq_ok.1 hrun
    exact Steps.single (e := .posted _) rfl haccepts
  | debit user amount kind battle? now =>
    obtain ⟨row, hrun, -⟩ := Session.map_eq_ok.1 h
    obtain ⟨-, haccepts, -, rfl⟩ := Session.debit_eq_ok.1 hrun
    exact Steps.single (e := .posted _) rfl haccepts
  | grant user amount now =>
    obtain ⟨row, hrun, -⟩ := Session.map_eq_ok.1 h
    obtain ⟨-, haccepts, -, rfl⟩ := Session.credit_eq_ok.1 hrun
    exact Steps.single (e := .posted _) rfl haccepts
  | createBattle name closesAt now =>
    obtain ⟨row, hrun, -⟩ := Session.map_eq_ok.1 h
    obtain ⟨hcloses, -, rfl⟩ := Session.createBattle_eq_ok.1 hrun
    exact Steps.single (e := .battleCreated name closesAt now) rfl hcloses
  | addParticipant battle player number =>
    obtain ⟨row, hrun, -⟩ := Session.map_eq_ok.1 h
    obtain ⟨hongoing, hplayer, hnew, team, -, -, rfl⟩ := Session.addParticipant_eq_ok.1 hrun
    exact Steps.single (e := .participantEntered battle player team) ⟨team, rfl⟩
      ⟨hongoing, hplayer, hnew⟩
  | reportResult battle player finish =>
    obtain ⟨row, hrun, -⟩ := Session.map_eq_ok.1 h
    obtain ⟨hongoing, htime, known, hknown, -, rfl⟩ := Session.reportResult_eq_ok.1 hrun
    obtain ⟨-, rfl, rfl⟩ := Book.of_participant?_eq_some hknown
    exact Steps.single (e := .resultReported known finish) ⟨known, rfl, rfl, rfl⟩
      ⟨hongoing, htime, hknown⟩
  | concludeBattle battle now cancelled =>
    obtain ⟨row, hrun, -⟩ := Session.map_eq_ok.1 h
    obtain ⟨known, hknown, hongoing, -, rfl⟩ := Session.concludeBattle_eq_ok.1 hrun
    exact Steps.single (e := .battleEnded battle cancelled now) rfl ⟨known, hknown, hongoing⟩
  | placeWager user battle number stake grace now =>
    obtain ⟨row, hrun, -⟩ := Session.map_eq_ok.1 h
    obtain ⟨team, -, hstake, ⟨found, hfound, hongoing, -⟩, -, hbacked, hrun⟩ :=
      Session.placeWager_eq_ok.1 hrun
    have htakes : book.TakesWagers battle team := ⟨⟨found, hfound, hongoing⟩, hbacked⟩
    cases hknown : book.wager? user battle with
    | none =>
      rw [hknown] at hrun
      obtain ⟨-, haccepts, -, rfl⟩ := Session.placeFirst_eq_ok.1 hrun
      exact Steps.single (e := .wagerPlaced _) (.inl ⟨team, rfl⟩)
        ⟨htakes, hstake, rfl, hknown, haccepts⟩
    | some known =>
      rw [hknown] at hrun
      obtain ⟨hunsettled, ⟨-, hreturns⟩, ⟨-, htakesNew⟩, -, rfl⟩ :=
        Session.replaceWager_eq_ok.1 hrun
      obtain ⟨-, rfl, rfl⟩ := Book.of_wager?_eq_some hknown
      exact Steps.single (e := .wagerReplaced known team stake now)
        (.inr ⟨known, team, rfl, rfl, rfl⟩)
        ⟨htakes, hstake, hknown, hunsettled, hreturns, htakesNew⟩
  | ensureOpenPeriod now =>
    obtain ⟨row, hrun, -⟩ := Session.map_eq_ok.1 h
    rcases Session.ensureOpenPeriod_eq_ok.1 hrun with ⟨-, rfl⟩ | ⟨hnone, -, rfl⟩
    · exact .refl
    · exact Steps.single (e := .periodOpened now) rfl hnone
  | appendSnapshot s =>
    obtain ⟨row, hrun, -⟩ := Session.map_eq_ok.1 h
    obtain ⟨htakes, -, rfl⟩ := Session.appendSnapshot_eq_ok.1 hrun
    exact Steps.single (e := .snapshotTaken s) rfl htakes
  | refreshCache player =>
    obtain ⟨row, hrun, -⟩ := Session.map_eq_ok.1 h
    obtain ⟨known, hknown, -, rfl⟩ := Session.refreshCache_eq_ok.1 hrun
    exact Steps.single (e := .cacheRefreshed player) rfl (Option.isSome_of_eq_some hknown)

/-- A query writes nothing. -/
theorem Query.leads_run (allowed : Event R → Prop) (q : Query R) :
    Session.Leads allowed q.run := by
  have hplayer : ∀ id, Session.Leads allowed (Session.player id) :=
    fun id => Session.leads_get.bind fun _ => Session.leads_demand _ _
  have hperiod : ∀ id, Session.Leads allowed (Session.period id) :=
    fun id => Session.leads_get.bind fun _ => Session.leads_demand _ _
  have hopen : Session.Leads allowed Session.openPeriod? := by
    refine (Session.leads_read _).bind fun found => ?_
    match found with
    | [] => exact Session.leads_pure _
    | [_] => exact Session.leads_pure _
    | _ :: _ :: _ => exact Session.leads_throw _
  have hstanding : ∀ id, Session.Leads allowed (Session.currentStanding id) :=
    fun id => (hplayer id).bind fun _ => Session.leads_pure _
  cases q with
  | player id => exact (hplayer id).map
  | balance user =>
    exact ((Session.leads_get.bind fun _ => Session.leads_demand _ _).bind
      fun _ => Session.leads_pure _).map
  | battleDelta user battle =>
    refine ((Session.leads_read _).bind fun amounts => Session.leads_foldlM fun _ _ => ?_).map
    exact (Session.leads_check _ _).bind fun _ => Session.leads_pure _
  | battle id => exact (Session.leads_get.bind fun _ => Session.leads_demand _ _).map
  | participants battle => exact (Session.leads_read _).map
  | wagers battle => exact Session.leads_read _
  | unsettledWagers battle => exact Session.leads_read _
  | matchups player w initial minimum => exact Session.leads_read _
  | participantsIn w => exact Session.leads_read _
  | period id => exact (hperiod id).map
  | latestPeriod => exact Session.leads_read _
  | openPeriod => exact hopen.map
  | nextPeriod id => exact ((hperiod id).bind fun _ => Session.leads_read _).map
  | latestSnapshot player at? => exact Session.leads_read _
  | ratedPlayers => exact Session.leads_read _
  | snapshotsIn period => exact Session.leads_read _
  | currentStanding player => exact (hstanding player).map
  | preview config player now =>
    refine ((hplayer player).bind fun _ => hopen.bind fun found? => ?_).map
    match found? with
    | none => exact hstanding player
    | some found =>
      exact (Session.leads_liftNumber _).bind fun _ => (Session.leads_liftNumber _).bind fun _ =>
        Session.leads_get.bind fun _ => Session.leads_liftRating _

namespace Session

theorem leads_openFirstPeriod {allowed : Event R → Prop} {now : Moment}
    (hopen : allowed (.periodOpened now)) : Leads allowed (openFirstPeriod (R := R) now) := by
  apply leads_atomically
  intro row book later h
  rcases ensureOpenPeriod_eq_ok.1 h with ⟨-, rfl⟩ | ⟨hnone, -, rfl⟩
  · exact .refl
  · exact Steps.single (e := .periodOpened now) hopen hnone

theorem leads_settle {battleId : Int} {now : Moment} :
    Leads (fun e => ∃ found split, found.id = battleId ∧ e = .battleSettled found split now)
      (atomically (settle (R := R) battleId now)) := by
  apply leads_atomically
  intro r book later h
  rcases settle_eq_ok.1 h with ⟨found, hid, split, hsettles, -, rfl⟩ | ⟨_, _, _, _, rfl⟩
  · exact Steps.single (e := .battleSettled found split now) ⟨found, split, hid, rfl⟩ hsettles
  · exact .refl

/-! ## Closes -/

theorem leads_beginClosing {allowed : Event R → Prop} {period? : Option Int}
    (hmark : ∀ found, allowed (.periodMarked found)) :
    Leads allowed (atomically (beginClosing (R := R) period?)) := by
  apply leads_atomically
  intro id? book later h
  rcases beginClosing_eq_ok.1 h with ⟨-, -, -, rfl⟩ | ⟨found, hpicks, -, rfl⟩
  · exact .refl
  · by_cases hopened : found.data.status = .opened
    · exact Steps.single (e := .periodMarked found) (hmark found)
        ⟨Book.find?_of_picks hpicks, hopened⟩
    · rw [Book.marked, if_neg hopened]

theorem leads_finishClosing {allowed : Event R → Prop} {config : Config R} {id : Int}
    {endedAt : Moment} (hclose : ∀ found, allowed (.periodClosed config found endedAt)) :
    Leads allowed (atomically (finishClosing config id endedAt)) := by
  apply leads_atomically
  intro r book later h
  have hfound : ∃ found, book.periods.find? id = some found := by
    obtain ⟨found, _, hfound, -⟩ := bind_eq_ok.1 h
    exact ⟨found, (period_eq_ok.1 hfound).1⟩
  obtain ⟨found, hfound⟩ := hfound
  obtain rfl := Table.id_of_find? hfound
  by_cases hclosed : found.data.status = .closed
  · obtain ⟨_, -, -, rfl⟩ := (finishClosing_of_closed hfound hclosed).1 h
    exact .refl
  · obtain ⟨hcloses, -, rfl⟩ := (finishClosing_of_notClosed hfound hclosed).1 h
    exact Steps.single (e := .periodClosed config found endedAt) (hclose found) hcloses

theorem leads_closePeriod {allowed : Event R → Prop} {config : Config R} {period? : Option Int}
    {endedAt : Moment} (hmark : ∀ found, allowed (.periodMarked found))
    (hclose : ∀ found, allowed (.periodClosed config found endedAt)) :
    Leads allowed (closePeriod config period? endedAt) := by
  refine (leads_beginClosing hmark).bind fun id? => ?_
  cases id? with
  | none => exact leads_pure _
  | some id => exact (leads_finishClosing hclose).bind fun _ => leads_pure _

theorem leads_dueEnd {allowed : Event R → Prop} {length : Int} {now : Moment} :
    Leads allowed (dueEnd? (R := R) length now) := by
  refine (leads_read _).bind fun last? => ?_
  cases last? with
  | none => exact leads_pure _
  | some last =>
    by_cases hclosed : last.data.status = .closed
    · simp only [if_pos hclosed]
      exact leads_pure _
    · simp only [if_neg hclosed]
      exact (leads_demand _ _).bind fun _ => leads_pure _

theorem leads_closeDueRepeatedly {allowed : Event R → Prop} {config : Config R} {length : Int}
    {now : Moment} (hmark : ∀ found, allowed (.periodMarked found))
    (hclose : ∀ found endedAt, allowed (.periodClosed config found endedAt)) (rounds : Nat) :
    Leads allowed (closeDueRepeatedly config length now rounds) := by
  induction rounds with
  | zero => exact leads_dueEnd.bind fun _ => (leads_check _ _).bind fun _ => leads_pure _
  | succ rounds ih =>
    have hround : Leads allowed (closeDue config length now) := by
      refine leads_dueEnd.bind fun due? => ?_
      match due? with
      | none => exact leads_pure _
      | some (id, stop) => exact leads_closePeriod hmark fun found => hclose found stop
    refine hround.bind fun summary? => ?_
    cases summary? with
    | none => exact leads_pure _
    | some summary => exact ih.bind fun _ => leads_pure _

theorem leads_closeElapsed {config : Config R} {now : Moment} :
    Leads (Operation.closeElapsed config now).Explains (closeElapsed config now) := by
  refine (leads_liftNumber _).bind fun length => (leads_read _).bind fun last? => ?_
  cases last? with
  | none => exact (leads_openFirstPeriod (.inl rfl)).bind fun _ => leads_pure _
  | some last =>
    exact leads_closeDueRepeatedly (fun found => .inr (.inl ⟨found, rfl⟩))
      (fun found endedAt => .inr (.inr ⟨found, endedAt, rfl⟩)) _

end Session

/-- **Every operation is made of the events that explain it**, also when it is refused. -/
theorem Operation.steps_after (op : Operation R) (book : Book R) :
    Steps op.Explains book (op.after book) := by
  refine (?_ : Session.Leads op.Explains op.perform) book
  cases op with
  | query q => exact (q.leads_run _).atomically
  | command c => exact Session.leads_atomically fun h => Command.steps_of_run h
  | openFirstPeriod now => exact Session.Leads.map (Session.leads_openFirstPeriod rfl)
  | settle battle now => exact Session.Leads.map Session.leads_settle
  | closePeriod config period? endedAt =>
    exact (Session.leads_closePeriod (fun found => .inl ⟨found, rfl⟩)
      (fun found => .inr ⟨found, rfl⟩)).map
  | closeElapsed config now => exact Session.Leads.map Session.leads_closeElapsed

theorem Operation.after_of_ok {op : Operation R} (h : op.perform book = .ok reply later) :
    op.after book = later := by
  rw [after, Session.after, h]

theorem Operation.after_of_error {op : Operation R} {fault : Fault R}
    (h : op.perform book = .error fault later) : op.after book = later := by
  rw [after, Session.after, h]

/-- A command that is refused leaves the book as it is. -/
theorem Operation.after_command (c : Command R) (book : Book R) :
    (command c).after book = book ∨ ∃ reply, c.run book = .ok reply ((command c).after book) := by
  change (Session.atomically c.run).after book = book ∨
    ∃ reply, c.run book = .ok reply ((Session.atomically c.run).after book)
  unfold Session.after Session.atomically
  cases c.run book with
  | ok reply later => exact .inr ⟨reply, rfl⟩
  | error fault later => exact .inl rfl

/-! ## Runs of operations -/

/-- The book after several operations, each of them refused or not. -/
def Operation.run (ops : List (Operation R)) (book : Book R) : Book R :=
  ops.foldl (fun book op => op.after book) book

@[simp] theorem Operation.run_nil : Operation.run [] book = book := rfl

@[simp] theorem Operation.run_cons {op : Operation R} {rest : List (Operation R)} :
    Operation.run (op :: rest) book = Operation.run rest (op.after book) := rfl

@[simp] theorem Operation.run_append {ops rest : List (Operation R)} :
    Operation.run (ops ++ rest) book = Operation.run rest (Operation.run ops book) :=
  List.foldl_append

theorem Operation.run_invariant {P : Book R → Prop} (ops : List (Operation R))
    (hstep : ∀ book (op : Operation R), P book → P (op.after book)) (h : P book) :
    P (Operation.run ops book) := by
  induction ops generalizing book with
  | nil => exact h
  | cons op rest ih => exact ih (hstep book op h)

theorem Operation.run_of_explained {P : Book R → Prop} (ops : List (Operation R))
    (hstep : ∀ op ∈ ops, ∀ book e, op.Explains e → P book → Event.Enabled book e → P (e.apply book))
    (h : P book) : P (Operation.run ops book) := by
  induction ops generalizing book with
  | nil => exact h
  | cons op rest ih =>
    have hfirst : P (op.after book) :=
      (op.steps_after book).invariant (hstep op List.mem_cons_self) h
    exact ih (fun op' hop => hstep op' (List.mem_cons_of_mem op hop)) hfirst

theorem Operation.run_of_events {P : Book R → Prop} (ops : List (Operation R))
    (hstep : ∀ book e, P book → Event.Enabled book e → P (e.apply book)) (h : P book) :
    P (Operation.run ops book) :=
  run_of_explained ops (fun _ _ book e _ => hstep book e) h

theorem Reachable.run (ops : List (Operation R)) (h : Reachable book) :
    Reachable (Operation.run ops book) :=
  Operation.run_invariant ops (fun _ op => Reachable.step op) h

/-- The moment of a number of ticks, counted again from the start after the end of the calendar. -/
def Moment.ofTicks (ticks : Nat) : Moment := ⟨ticks % calendarTicks, Nat.mod_lt _ (by decide)⟩

/-- What holds of the empty book and is kept by every event holds of every reachable book. -/
theorem Reachable.induct {P : Book R → Prop} (hempty : P .empty)
    (hstep : ∀ book e, P book → Event.Enabled book e → P (e.apply book))
    (h : Reachable book) : P book := by
  induction h with
  | empty => exact hempty
  | step op _ ih => exact (op.steps_after _).invariant (fun book e _ => hstep book e) ih

end

end RaceBook
