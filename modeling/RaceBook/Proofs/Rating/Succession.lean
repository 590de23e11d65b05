import RaceBook.Arithmetic.Double
import RaceBook.Proofs.Rating.Chain
import RaceBook.Proofs.Store.Refusals

/-!
# One period after the other

* `Book.Chained.latestPeriod?_eq`, `Book.Chained.openPeriods_eq`, `Book.nextPeriod?_eq` : the latest
  period is the last one, no other is open, and the next one is the next;
* `Fault.BreaksChain` : the causes for which only periods that are no chain are refused;
* `Operation.spares` : no operation on a chain is refused for one of them;
* `periods_gapless` : so it is in every reachable book.
-/

namespace RaceBook

variable {R : Type} {book later : Book R}

/-! ## What a chain answers -/

namespace Book

theorem nextPeriod?_eq {before after : List (Row Period)} {p q : Row Period}
    (hrows : book.periods.rows = before ++ p :: q :: after) : book.nextPeriod? p.id = some q := by
  have hids := book.periods.pairwise_ids
  rw [hrows, List.pairwise_append, List.pairwise_cons] at hids
  obtain ⟨-, ⟨hp, -⟩, hbefore⟩ := hids
  have hskip : before.find? (p.id < ·.id) = none := by
    refine List.find?_eq_none.2 fun r hr hlt => ?_
    have := hbefore r hr p List.mem_cons_self
    have := of_decide_eq_true hlt
    omega
  rw [nextPeriod?, hrows, List.find?_append, hskip, Option.none_or,
    List.find?_cons_of_neg (by simp), List.find?_cons_of_pos]
  exact decide_eq_true (hp q List.mem_cons_self)

theorem nextPeriod?_last {last : Row Period} (hlast : book.periods.rows.getLast? = some last) :
    book.nextPeriod? last.id = none := by
  obtain ⟨before, hrows⟩ := List.getLast?_eq_some_iff.1 hlast
  refine List.find?_eq_none.2 fun r hr hlt => ?_
  have hlt := of_decide_eq_true hlt
  rw [hrows, List.mem_append, List.mem_singleton] at hr
  rcases hr with hr | rfl
  · have := Table.id_lt_last hrows hr
    omega
  · omega

namespace Chained

theorem latestPeriod?_eq (h : book.Chained) :
    book.latestPeriod? = book.periods.rows.getLast? :=
  latest?_eq_getLast? (h.ordered.imp fun ⟨_, _, _, hstart, hle⟩ => Nat.le_trans hstart hle)

/-- A chain has no open period but its last one. -/
theorem openPeriods_eq (h : book.Chained) :
    book.openPeriods =
      (book.periods.rows.getLast?.filter (·.data.status = .opened)).toList := by
  rcases List.eq_nil_or_concat book.periods.rows with hnil | ⟨before, last, hrows⟩
  · rw [openPeriods, hnil]
    rfl
  · rw [List.concat_eq_append] at hrows
    have hbefore := ((chained_iff_of_append hrows).1 h).2.2.1
    have hnone : before.filter (·.data.status = .opened) = [] := by
      refine List.filter_eq_nil_iff.2 fun p hp => ?_
      rw [(hbefore p hp).1]
      decide
    rw [openPeriods, hrows, List.filter_append, hnone, List.getLast?_concat, List.nil_append]
    by_cases hopened : last.data.status = .opened <;> simp [hopened, Option.filter]

theorem eq_of_notClosed (h : book.Chained) {p q : Row Period} (hp : p ∈ book.periods.rows)
    (hq : q ∈ book.periods.rows) (hprunning : p.data.status ≠ .closed)
    (hqrunning : q.data.status ≠ .closed) : p = q := by
  obtain ⟨before, hrows⟩ := h.eq_append_of_notClosed hp hprunning
  obtain ⟨before', hrows'⟩ := h.eq_append_of_notClosed hq hqrunning
  have hlast := (List.append_inj' (hrows.symm.trans hrows') rfl).2
  exact (List.cons.inj hlast).1

theorem latestPeriod?_of_notClosed (h : book.Chained) {found : Row Period}
    (hfound : found ∈ book.periods.rows) (hrunning : found.data.status ≠ .closed) :
    book.latestPeriod? = some found := by
  obtain ⟨before, hrows⟩ := h.eq_append_of_notClosed hfound hrunning
  rw [h.latestPeriod?_eq, hrows, List.getLast?_concat]

theorem picks_of_notClosed (h : book.Chained) {found : Row Period}
    (hfound : found ∈ book.periods.rows) (hrunning : found.data.status ≠ .closed)
    {period? : Option Int} (hperiod : ∀ id ∈ period?, id = found.id) : book.Picks period? found := by
  cases period? with
  | none => exact .inr ⟨rfl, h.latestPeriod?_of_notClosed hfound hrunning, hrunning⟩
  | some id =>
    obtain rfl : id = found.id := hperiod id rfl
    exact .inl ⟨rfl, Table.find?_of_mem hfound⟩

/-- A period that is not closed is the only one that is picked. -/
theorem eq_of_picks (h : book.Chained) {found picked : Row Period}
    (hfound : found ∈ book.periods.rows) (hrunning : found.data.status ≠ .closed)
    {period? : Option Int} (hperiod : ∀ id ∈ period?, id = found.id)
    (hpicks : book.Picks period? picked) : picked = found := by
  rcases hpicks with ⟨hid, hpicked⟩ | ⟨-, hlatest, hpicked⟩
  · exact Table.eq_of_id_eq (Table.mem_of_find? hpicked) hfound (hperiod _ hid)
  · exact h.eq_of_notClosed (mem_of_latest? hlatest) hfound hpicked hrunning

end Chained

end Book

variable [Arithmetic R]

theorem Session.Leads.chained {α : Type} {s : Session R α} {a : α}
    (hs : Leads (fun _ => True) s) (h : book.Chained) (hrun : s book = .ok a later) : later.Chained := by
  have hsteps := hs book
  rw [after, hrun] at hsteps
  exact hsteps.invariant (fun _ _ _ hmid he => Event.chained_apply he hmid) h

/-! ## Refusals that hang on no chain -/

/-- A cause for which a request is refused only when the periods are no chain. -/
@[simp] def Fault.BreaksChain : Fault R → Prop
  | .constraint .uniqueOpenPeriod | .invalid (.closedWithoutEnd _)
  | .violation (.severalOpenPeriods _) => True
  | _ => False

namespace Session

omit [Arithmetic R] in
theorem spares_post {userId amount : Int} {kind : EntryKind} {battle? : Option Int} {now : Moment} :
    Spares Fault.BreaksChain (post userId amount kind battle? now) book := by
  have hreference : ∀ mid : Book R, Spares Fault.BreaksChain (checkReference battle?) mid := by
    intro mid
    cases battle? <;> simp [checkReference, Fault.BreaksChain]
  simp [post, checkRange, user, hreference, Fault.BreaksChain]

omit [Arithmetic R] in
theorem spares_credit {userId amount : Int} {kind : EntryKind} {battle? : Option Int}
    {now : Moment} : Spares Fault.BreaksChain (credit userId amount kind battle? now) book := by
  simp [credit, spares_post, Fault.BreaksChain]

omit [Arithmetic R] in
theorem spares_debit {userId amount : Int} {kind : EntryKind} {battle? : Option Int}
    {now : Moment} : Spares Fault.BreaksChain (debit userId amount kind battle? now) book := by
  simp [debit, spares_post, Fault.BreaksChain]

theorem spares_register {key name : String} {initial : Standing R} :
    Spares Fault.BreaksChain (register key name initial) book := by
  have hchecks : ∀ mid : Book R, Spares Fault.BreaksChain (checkPlayer initial) mid := by
    intro mid
    unfold checkPlayer
    cases initial.missing? <;> simp [Fault.BreaksChain]
  simp only [register, spares_bind, spares_check, spares_get, true_and]
  refine ⟨by simp [Fault.BreaksChain], fun _ mid _ known mid' _ => ?_⟩
  cases known.players.rows.find? (·.data.publicKey = key.toLower) <;> simp [hchecks]

omit [Arithmetic R] in
theorem spares_createUser {name : String} {start : Int} {now : Moment} :
    Spares Fault.BreaksChain (createUser name start now) book := by
  by_cases hstart : 0 < start
  · simp [createUser, hstart, grant, spares_credit, user, Fault.BreaksChain]
  · simp [createUser, hstart, user, Fault.BreaksChain]

omit [Arithmetic R] in
theorem spares_reportResult {battleId playerId : Int} {finish : Finish} :
    Spares Fault.BreaksChain (reportResult battleId playerId finish) book := by
  cases htime : finish.time <;>
    simp [reportResult, htime, ongoingBattle, battle, Fault.BreaksChain]

theorem spares_placeWager {userId battleId number stake : Int} {grace : R} {now : Moment} :
    Spares Fault.BreaksChain (placeWager userId battleId number stake grace now) book := by
  cases hknown : book.wager? userId battleId with
  | none =>
    simp [placeWager, hknown, placeFirst, spares_debit, checkOpenForWagers, team, battle, user,
      Fault.BreaksChain]
  | some known =>
    simp [placeWager, hknown, replaceWager, spares_credit, spares_debit, checkOpenForWagers, team,
      battle, user, Fault.BreaksChain]

omit [Arithmetic R] in
theorem spares_refreshCache {playerId : Int} :
    Spares Fault.BreaksChain (refreshCache (R := R) playerId) book := by
  simp only [refreshCache, player, spares_bind, spares_get, spares_read, spares_demand, true_and]
  refine ⟨by simp [Fault.BreaksChain], fun _ mid _ last? mid' _ => ?_⟩
  cases last? <;> simp

theorem spares_appendSnapshot {s : Snapshot R} :
    Spares Fault.BreaksChain (appendSnapshot s) book := by
  have hchecks : ∀ mid : Book R, Spares Fault.BreaksChain (checkSnapshot s.standing) mid := by
    intro mid
    unfold checkSnapshot
    cases s.standing.missing? <;> simp [Fault.BreaksChain]
  simp [appendSnapshot, hchecks, spares_refreshCache, Fault.BreaksChain]

omit [Arithmetic R] in
theorem spares_settle {battleId : Int} {now : Moment} :
    Spares Fault.BreaksChain (settle battleId now) book := by
  have hsplit : ∀ victor stakes (mid : Book R),
      Spares Fault.BreaksChain (splitPool victor stakes) mid := by
    intro victor stakes mid
    unfold splitPool
    split <;> simp [Fault.BreaksChain]
  have hpay : ∀ battle kind (p : Pool.Payout) (mid : Book R),
      Spares Fault.BreaksChain (pay battle kind now p) mid := by
    simp [pay, spares_credit]
  have hfirst : ∀ found (mid : Book R), Spares Fault.BreaksChain (settleFirst found now) mid := by
    simp [settleFirst, hsplit, spares_forM (hpay _ _)]
  cases hrecorded : book.resolution? battleId <;>
    simp [settle, battle, hrecorded, hfirst, Fault.BreaksChain]

end Session

theorem Command.spares (c : Command R) (h : ∀ now, c ≠ .ensureOpenPeriod now) (book : Book R) :
    c.run.Spares Fault.BreaksChain book := by
  cases c with
  | register => exact Session.spares_map.2 Session.spares_register
  | createUser => exact Session.spares_map.2 Session.spares_createUser
  | credit | grant => exact Session.spares_map.2 Session.spares_credit
  | debit => exact Session.spares_map.2 Session.spares_debit
  | createBattle => simp [Command.run, Session.createBattle, Fault.BreaksChain]
  | addParticipant =>
    simp [Command.run, Session.addParticipant, Session.ongoingBattle, Session.battle,
      Session.player, Session.team, Fault.BreaksChain]
  | reportResult => exact Session.spares_map.2 Session.spares_reportResult
  | concludeBattle =>
    simp [Command.run, Session.concludeBattle, Session.ongoingBattle, Session.battle,
      Fault.BreaksChain]
  | placeWager => exact Session.spares_map.2 Session.spares_placeWager
  | ensureOpenPeriod now => exact absurd rfl (h now)
  | appendSnapshot => exact Session.spares_map.2 Session.spares_appendSnapshot
  | refreshCache => exact Session.spares_map.2 Session.spares_refreshCache

/-! ## Refusals that hang on the chain -/

namespace Session

omit [Arithmetic R] in
theorem spares_openPeriod? (h : book.Chained) : Spares Fault.BreaksChain openPeriod? book := by
  have hrun := openPeriod?_eq_ok.2 ⟨h.openPeriods_eq, rfl⟩
  intro fault later herror
  rw [hrun] at herror
  cases herror

omit [Arithmetic R] in
theorem spares_insertPeriod {entry : Period} (hopen : book.openPeriods = []) :
    Spares Fault.BreaksChain (insertPeriod entry) book := by
  simp [insertPeriod, hopen]

omit [Arithmetic R] in
theorem spares_ensureOpenPeriod {now : Moment} (h : book.Chained) :
    Spares Fault.BreaksChain (ensureOpenPeriod now) book := by
  rw [ensureOpenPeriod, spares_bind]
  refine ⟨spares_openPeriod? h, fun open? mid hrun => ?_⟩
  obtain ⟨hopen, rfl⟩ := openPeriod?_eq_ok.1 hrun
  cases open? with
  | some found => exact spares_pure
  | none =>
    refine spares_bind.2 ⟨spares_read, fun last? mid hrun => ?_⟩
    obtain ⟨-, rfl⟩ := read_eq_ok.1 hrun
    cases last? with
    | some last => exact spares_throw.2 fun h => h
    | none => exact spares_insertPeriod hopen

theorem spares_closePlayer {config : Config R} {period player : Int} {w : Window} {tally : Tally} :
    Spares Fault.BreaksChain (closePlayer config period w tally player) book := by
  simp only [closePlayer, spares_bind, spares_get, spares_liftRating, true_and]
  refine fun known mid _ => ⟨fun bad _ h => h, fun found mid' _ => ?_⟩
  cases found <;> simp [spares_appendSnapshot]

/-- The end of a close: of a closed period the end is known, and once the period is closed no other
one stands in the way of the next. -/
theorem spares_finishClosing {config : Config R} {id : Int} {endedAt : Moment} (h : book.Chained) :
    Spares Fault.BreaksChain (finishClosing config id endedAt) book := by
  rw [finishClosing, spares_bind]
  refine ⟨by simp [period, Fault.BreaksChain], fun found mid hrun => ?_⟩
  obtain ⟨hfound, rfl⟩ := period_eq_ok.1 hrun
  have hmem : found ∈ book.periods.rows := Table.mem_of_find? hfound
  by_cases hclosed : found.data.status = .closed
  · obtain ⟨ended, hended⟩ := h.exists_endedAt hmem hclosed
    simp [hclosed, recordedClose, hended]
  · have halone : ∀ p ∈ book.periods.rows, p.data.status = .opened → p.id = found.id := by
      intro p hp hopened
      have hrunning : p.data.status ≠ .closed := by rw [hopened]; decide
      rw [h.eq_of_notClosed hp hmem hrunning hclosed]
    simp only [if_neg hclosed]
    refine spares_bind.2 ⟨spares_check.2 fun _ h => h, fun _ mid hrun => ?_⟩
    obtain ⟨-, rfl⟩ := check_eq_ok.1 hrun
    refine spares_bind.2 ⟨spares_read, fun players mid hrun => ?_⟩
    obtain ⟨rfl, rfl⟩ := read_eq_ok.1 hrun
    refine spares_bind.2 ⟨spares_foldlM fun _ _ _ => spares_closePlayer, fun tally mid hrun => ?_⟩
    obtain ⟨-, -, -, rfl⟩ := (foldlM_closePlayer_eq_ok Book.nodup_candidates).1 hrun
    refine spares_bind.2 ⟨spares_modify, fun _ mid hrun => ?_⟩
    refine spares_bind.2 ⟨spares_insertPeriod ?_, fun _ _ _ => spares_pure⟩
    rw [← modify_eq_ok.1 hrun, Book.openPeriods_eq_nil]
    exact Book.no_open_after_ended.2 (by rwa [Book.periods_withSnapshots])

theorem spares_closePeriod {config : Config R} {period? : Option Int} {endedAt : Moment}
    (h : book.Chained) : Spares Fault.BreaksChain (closePeriod config period? endedAt) book := by
  have hmark : ∀ found (mid : Book R), Spares Fault.BreaksChain (markClosing found) mid := by
    intro found mid
    unfold markClosing
    split <;> simp
  have hbegin : Spares Fault.BreaksChain (beginClosing period?) book := by
    cases period? with
    | some id => simp [beginClosing, period, hmark, Fault.BreaksChain]
    | none =>
      refine spares_bind.2 ⟨spares_read, fun last? mid _ => ?_⟩
      cases last? with
      | none => exact spares_pure
      | some last => by_cases hclosed : last.data.status = .closed <;> simp [hclosed, hmark]
  rw [closePeriod, spares_bind, spares_atomically]
  refine ⟨hbegin, fun id? mid hrun => ?_⟩
  have hmid : mid.Chained := (leads_beginClosing (fun _ => trivial)).chained h hrun
  cases id? with
  | none => exact spares_pure
  | some id => exact spares_bind.2 ⟨spares_atomically.2 (spares_finishClosing hmid), by simp⟩

omit [Arithmetic R] in
theorem spares_dueEnd? {length : Int} {now : Moment} :
    Spares Fault.BreaksChain (dueEnd? (R := R) length now) book := by
  refine spares_bind.2 ⟨spares_read, fun last? mid _ => ?_⟩
  cases last? with
  | none => exact spares_pure
  | some last =>
    by_cases hclosed : last.data.status = .closed <;> simp [hclosed, Fault.BreaksChain]

theorem spares_closeDueRepeatedly {config : Config R} {length : Int} {now : Moment} {rounds : Nat}
    (h : book.Chained) :
    Spares Fault.BreaksChain (closeDueRepeatedly config length now rounds) book := by
  induction rounds generalizing book with
  | zero => simp [closeDueRepeatedly, spares_dueEnd?, Fault.BreaksChain]
  | succ rounds ih =>
    have hround : Leads (fun _ => True) (closeDue config length now) := by
      refine leads_dueEnd.bind fun due? => ?_
      match due? with
      | none => exact leads_pure _
      | some (id, stop) => exact leads_closePeriod (fun _ => trivial) fun _ => trivial
    have hclose : Spares Fault.BreaksChain (closeDue config length now) book := by
      refine spares_bind.2 ⟨spares_dueEnd?, fun due? mid hrun => ?_⟩
      have hmid : mid.Chained := leads_dueEnd.chained h hrun
      match due? with
      | none => exact spares_pure
      | some (id, stop) => exact spares_closePeriod hmid
    refine spares_bind.2 ⟨hclose, fun summary? mid hrun => ?_⟩
    cases summary? with
    | none => exact spares_pure
    | some summary => exact spares_bind.2 ⟨ih (hround.chained h hrun), by simp⟩

theorem spares_closeElapsed {config : Config R} {now : Moment} (h : book.Chained) :
    Spares Fault.BreaksChain (closeElapsed config now) book := by
  refine spares_bind.2 ⟨spares_liftNumber.2 fun _ _ h => h, fun length mid hrun => ?_⟩
  obtain ⟨-, rfl⟩ := liftNumber_eq_ok.1 hrun
  refine spares_bind.2 ⟨spares_read, fun last? mid hrun => ?_⟩
  obtain ⟨-, rfl⟩ := read_eq_ok.1 hrun
  cases last? with
  | none => exact spares_bind.2 ⟨spares_atomically.2 (spares_ensureOpenPeriod h), by simp⟩
  | some last => exact spares_closeDueRepeatedly h

end Session

theorem Query.spares (q : Query R) (h : book.Chained) : q.run.Spares Fault.BreaksChain book := by
  have hsum : ∀ sum amount (mid : Book R),
      Session.Spares Fault.BreaksChain (Session.addInRange sum amount) mid := by
    simp [Session.addInRange, Fault.BreaksChain]
  have hplayer : ∀ id (mid : Book R), Session.Spares Fault.BreaksChain (Session.player id) mid := by
    simp [Session.player, Fault.BreaksChain]
  cases q with
  | openPeriod => exact Session.spares_map.2 (Session.spares_openPeriod? h)
  | battleDelta user battle =>
    exact Session.spares_map.2 (Session.spares_bind.2
      ⟨Session.spares_read, fun _ _ _ => Session.spares_foldlM hsum⟩)
  | preview config player now =>
    refine Session.spares_map.2 (Session.spares_bind.2 ⟨hplayer player book, fun _ mid hrun => ?_⟩)
    obtain ⟨-, rfl⟩ := Session.player_eq_ok.1 hrun
    refine Session.spares_bind.2 ⟨Session.spares_openPeriod? h, fun open? mid hrun => ?_⟩
    cases open? with
    | none => exact Session.spares_bind.2 ⟨hplayer player mid, by simp⟩
    | some found => simp [Fault.BreaksChain]
  | player => exact Session.spares_map.2 (hplayer _ book)
  | balance => simp [Query.run, Session.balance, Session.user, Fault.BreaksChain]
  | battle => simp [Query.run, Session.battle, Fault.BreaksChain]
  | period => simp [Query.run, Session.period, Fault.BreaksChain]
  | nextPeriod => simp [Query.run, Session.nextPeriod?, Session.period, Fault.BreaksChain]
  | currentStanding =>
    exact Session.spares_map.2 (Session.spares_bind.2 ⟨hplayer _ book, by simp⟩)
  | _ => simp [Query.run, Session.participants]

/-- **No operation on a chain of periods is refused for a cause that breaks the chain.** -/
theorem Operation.spares (op : Operation R) (h : book.Chained) :
    op.perform.Spares Fault.BreaksChain book := by
  cases op with
  | query q => exact Session.spares_atomically.2 (q.spares h)
  | command c =>
    refine Session.spares_atomically.2 ?_
    by_cases hc : ∃ now, c = .ensureOpenPeriod now
    · obtain ⟨now, rfl⟩ := hc
      exact Session.spares_map.2 (Session.spares_ensureOpenPeriod h)
    · exact c.spares (fun now he => hc ⟨now, he⟩) book
  | openFirstPeriod now =>
    exact Session.spares_map.2 (Session.spares_atomically.2 (Session.spares_ensureOpenPeriod h))
  | settle battle now =>
    exact Session.spares_map.2 (Session.spares_atomically.2 Session.spares_settle)
  | closePeriod config period? endedAt => exact Session.spares_map.2 (Session.spares_closePeriod h)
  | closeElapsed config now => exact Session.spares_map.2 (Session.spares_closeElapsed h)

/-- **Periods follow one another without gaps** in every reachable book, so no operation is refused
because of two open periods or of a closed one without an end. -/
theorem periods_gapless (book : Book R) (h : Reachable book) :
    (∀ before p q after, book.periods.rows = before ++ p :: q :: after →
      p.data.status = .closed ∧
      (∃ endedAt, p.data.endedAt = some endedAt ∧ p.data.startedAt ≤ endedAt ∧
        endedAt = q.data.startedAt) ∧
      (Operation.query (.nextPeriod p.id)).perform book = .ok (.period? (some q)) book) ∧
    (∀ last, book.periods.rows.getLast? = some last →
      (last.data.status = .opened ∨ last.data.status = .closing) ∧ last.data.endedAt = none ∧
      (Operation.query (.nextPeriod last.id)).perform book = .ok (.period? none) book) ∧
    (Operation.query .latestPeriod).perform book =
      .ok (.period? book.periods.rows.getLast?) book ∧
    (Operation.query .openPeriod).perform book =
      .ok (.period? (book.periods.rows.getLast?.filter (·.data.status = .opened))) book ∧
    ∀ op fault later, Operation.perform op book = .error fault later →
      fault ≠ .constraint .uniqueOpenPeriod ∧ (∀ id, fault ≠ .invalid (.closedWithoutEnd id)) ∧
        ∀ ids, fault ≠ .violation (.severalOpenPeriods ids) := by
  have hchain : book.Chained := h.chained
  have hnext : ∀ p ∈ book.periods.rows, (Operation.query (.nextPeriod p.id)).perform book =
      .ok (.period? (book.nextPeriod? p.id)) book := by
    intro p hp
    simp only [Operation.perform, Query.run, Session.atomically_eq_ok, Session.map_eq_ok,
      Session.nextPeriod?, Session.bind_eq_ok, Session.period_eq_ok, Session.read_eq_ok]
    exact ⟨_, ⟨p, book, ⟨Table.find?_of_mem hp, rfl⟩, rfl, rfl⟩, rfl⟩
  refine ⟨fun before p q after hrows => ?_, fun last hlast => ?_, ?_, ?_, fun op fault later herror => ?_⟩
  · have hp : p ∈ book.periods.rows := by simp [hrows]
    have hordered := hchain.ordered
    have hlinked := hchain.linked
    rw [hrows, List.pairwise_append, List.pairwise_cons] at hordered
    rw [hrows, List.isChain_append_cons_cons] at hlinked
    obtain ⟨hclosed, endedAt, hended, hstart, -⟩ := hordered.2.1.1 q List.mem_cons_self
    have hlink : endedAt = q.data.startedAt := Option.some.inj (hended.symm.trans hlinked.2.1)
    refine ⟨hclosed, ⟨endedAt, hended, hstart, hlink⟩, ?_⟩
    rw [hnext p hp, Book.nextPeriod?_eq hrows]
  · obtain ⟨hrunning, hnone⟩ := hchain.lastRuns last hlast
    refine ⟨?_, hnone, ?_⟩
    · cases hstatus : last.data.status with
      | opened => exact .inl rfl
      | closing => exact .inr rfl
      | closed => exact absurd hstatus hrunning
    · rw [hnext last (List.mem_of_getLast? hlast), Book.nextPeriod?_last hlast]
  · rw [← hchain.latestPeriod?_eq]
    rfl
  · simp only [Operation.perform, Query.run, Session.atomically_eq_ok, Session.map_eq_ok]
    exact ⟨_, Session.openPeriod?_eq_ok.2 ⟨hchain.openPeriods_eq, rfl⟩, rfl⟩
  · have hspared : ¬fault.BreaksChain := op.spares hchain fault later herror
    refine ⟨?_, ?_, ?_⟩
    · rintro rfl
      exact hspared trivial
    · rintro id rfl
      exact hspared trivial
    · rintro ids rfl
      exact hspared trivial

/-- A first period, a close that is refused and leaves a mark, a close without length, one with
length, and one that is repeated. -/
def interruptedCloses : List (Operation Float) :=
  [.openFirstPeriod (.ofTicks 3), .closePeriod .standard none (.ofTicks 2),
    .closePeriod .standard none (.ofTicks 3), .closePeriod .standard none (.ofTicks 5),
    .closePeriod .standard (some 1) (.ofTicks 9)]

theorem periods_gapless_interruptedCloses :
    Reachable (Operation.run interruptedCloses .empty) ∧
      ((Operation.run interruptedCloses .empty).periods.rows.map fun p =>
        (p.data.startedAt.ticks, p.data.endedAt.map (·.ticks))) =
          [(3, some 3), (3, some 5), (5, none)] ∧
      ∃ last, (Operation.run interruptedCloses .empty).periods.rows.getLast? = some last ∧
        (last.data.status = .opened ∨ last.data.status = .closing) ∧
        (Operation.query .latestPeriod).perform (Operation.run interruptedCloses .empty) =
          .ok (.period? (some last)) (Operation.run interruptedCloses .empty) := by
  have hreachable : Reachable (Operation.run interruptedCloses .empty) := Reachable.empty.run _
  have hrows : ((Operation.run interruptedCloses .empty).periods.rows.map fun p =>
      (p.data.startedAt.ticks, p.data.endedAt.map (·.ticks))) =
        [(3, some 3), (3, some 5), (5, none)] := by decide +kernel
  have hlast : (Operation.run interruptedCloses .empty).periods.rows.getLast?.isSome = true := by
    decide +kernel
  obtain ⟨last, hlast⟩ := Option.isSome_iff_exists.1 hlast
  obtain ⟨-, hends, hlatest, -⟩ := periods_gapless _ hreachable
  rw [hlast] at hlatest
  exact ⟨hreachable, hrows, last, hlast, (hends last hlast).1, hlatest⟩

end RaceBook
