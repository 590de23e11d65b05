import RaceBook.Proofs.Settlement.Total
import RaceBook.Proofs.Wager.Terms

/-!
# Which wagers are taken

* `Book.stakeOn` : what a user has at stake on a battle;
* `Book.MayWager` : the wager is legal; `Book.Affords` : no balance on the way is beyond what a row
  may hold;
* `Book.Takes` : what a wager changes, table by table;
* `Reachable.placeWager_eq_ok_iff` : a request goes through just then, and leaves `Book.wagered`;
* `Session.spares_settled_placeWager` : no wager is refused because the one before it is settled;
* `Session.spares_range_placeWager` : a legal wager is refused only for a number out of range;
* `placeWager_exact` : all of this for the books that operations lead to.
-/

namespace RaceBook

variable {R : Type} {book later : Book R} {user battle stake : Int} {team : Team} {now : Moment}

namespace Book

/-- What a user has at stake on a battle, zero without a wager. -/
def stakeOn (book : Book R) (user battle : Int) : Int :=
  ((book.wager? user battle).map (·.data.stake)).getD 0

theorem stakeOn_of_none (h : book.wager? user battle = none) : book.stakeOn user battle = 0 := by
  rw [stakeOn, h]
  rfl

theorem stakeOn_of_some {known : Row Wager} (h : book.wager? user battle = some known) :
    book.stakeOn user battle = known.data.stake := by
  rw [stakeOn, h]
  rfl

theorem Ongoing.isSome (h : book.Ongoing battle) : (book.battles.find? battle).isSome = true := by
  obtain ⟨found, hfound, -⟩ := h
  exact Option.isSome_of_eq_some hfound

/-- The battle is ongoing, and no more than the grace has passed since wagers closed. -/
def InTime [Arithmetic R] (book : Book R) (battle : Int) (grace : R) (now : Moment) : Prop :=
  ∃ found, book.battles.find? battle = some found ∧ found.data.status = .ongoing ∧
    ∃ length last, durationOf secondTicks grace = .ok length ∧
      found.data.closesAt.add? length = some last ∧ now ≤ last

theorem InTime.ongoing [Arithmetic R] {grace : R} (h : book.InTime battle grace now) :
    book.Ongoing battle := by
  obtain ⟨found, hfound, hstatus, -⟩ := h
  exact ⟨found, hfound, hstatus⟩

/-- The wager is legal: the stake is positive and within what the user has, counting the stake that
would be returned, the battle takes wagers, and somebody is in the team. -/
structure MayWager [Arithmetic R] (book : Book R) (user battle : Int) (team : Team) (stake : Int)
    (grace : R) (now : Moment) : Prop where
  positive : 0 < stake
  inTime : book.InTime battle grace now
  known : (book.users.find? user).isSome = true
  backed : book.Backed battle team
  covered : stake ≤ book.balanceOf user + book.stakeOn user battle

/-- A row may hold the balance after the stake at risk is returned. -/
def Affords (book : Book R) (user battle : Int) : Prop :=
  Session.isStorable (book.balanceOf user + book.stakeOn user battle) = true

/-! ## Movements of a stake -/

theorem isStorable_iff {n : Int} :
    Session.isStorable n = true ↔ -9223372036854775808 ≤ n ∧ n < 9223372036854775808 := by
  rw [Session.isStorable, decide_eq_true_eq]

theorem accepts_taking {w : Wager} (hknown : (book.users.find? w.user).isSome = true)
    (hbattle : (book.battles.find? w.battle).isSome = true) (hstake : 0 < w.stake)
    (hbalance : Session.isStorable (book.balanceOf w.user) = true) :
    book.Accepts w.taking ↔ w.stake ≤ book.balanceOf w.user := by
  rw [isStorable_iff] at hbalance
  constructor
  · intro h
    have hnonneg : 0 ≤ book.balanceOf w.user + -w.stake := h.nonneg
    omega
  · intro hle
    refine ⟨hknown, ?_, ⟨?_, ?_⟩, fun id hid => Option.some.inj hid ▸ hbattle⟩
    · change 0 ≤ book.balanceOf w.user + -w.stake
      omega
    · exact isStorable_iff.2 (by change _ ≤ -w.stake ∧ -w.stake < _; omega)
    · refine isStorable_iff.2 ?_
      change _ ≤ book.balanceOf w.user + -w.stake ∧ book.balanceOf w.user + -w.stake < _
      omega

theorem accepts_returning {w : Wager} (hknown : (book.users.find? w.user).isSome = true)
    (hbattle : (book.battles.find? w.battle).isSome = true) (hstake : 0 < w.stake)
    (hbalance : 0 ≤ book.balanceOf w.user) :
    book.Accepts (w.returning now) ↔
      Session.isStorable (book.balanceOf w.user + w.stake) = true := by
  refine ⟨fun h => h.storable.2, fun hroom => ?_⟩
  have hbounds := isStorable_iff.1 hroom
  refine ⟨hknown, ?_, ⟨isStorable_iff.2 ?_, hroom⟩, fun id hid => Option.some.inj hid ▸ hbattle⟩
  · change 0 ≤ book.balanceOf w.user + w.stake
    omega
  · change _ ≤ w.stake ∧ w.stake < _
    omega

/-! ## The book after a wager -/

def wageredRow (book : Book R) (user battle : Int) (team : Team) (stake : Int) (now : Moment) :
    Row Wager :=
  match book.wager? user battle with
  | none => ⟨book.wagers.nextId, ⟨user, battle, team, stake, now, now, none⟩⟩
  | some known => ⟨known.id, known.data.replaced team stake now⟩

def wagered (book : Book R) (user battle : Int) (team : Team) (stake : Int) (now : Moment) :
    Book R :=
  match book.wager? user battle with
  | none => book.placeFirst ⟨user, battle, team, stake, now, now, none⟩
  | some known => book.replaceWager known team stake now

/-! ## What a wager changes -/

/-- The ledger entries of a wager: the stake is taken, after the one at risk is returned. -/
def wagerEntries (book : Book R) (user battle stake : Int) (now : Moment) : List Entry :=
  let balance := book.balanceOf user
  match book.wager? user battle with
  | none => [⟨user, some battle, .stake, -stake, balance - stake, now⟩]
  | some known =>
    [⟨user, some battle, .refund, known.data.stake, balance + known.data.stake, now⟩,
      ⟨user, some battle, .stake, -stake, balance + known.data.stake - stake, now⟩]

/-- The later book has the wager, the user's only one on the battle, where the earlier one had
another or none; the balance and the ledger follow it, and nothing else is changed. -/
structure Takes (book later : Book R) (user battle : Int) (team : Team) (stake : Int) (now : Moment)
    (row : Row Wager) : Prop where
  only : ∀ w, w ∈ later.wagers.rows ∧ w.data.user = user ∧ w.data.battle = battle ↔ w = row
  terms : row.data.victor = team ∧ row.data.stake = stake ∧ row.data.updatedAt = now ∧
    row.data.settledBy = none
  kept : ∀ known, book.wager? user battle = some known →
    row.id = known.id ∧ row.data.createdAt = known.data.createdAt
  fresh : book.wager? user battle = none →
    row.id = book.wagers.nextId ∧ row.data.createdAt = now
  others : ∀ id, id ≠ row.id → later.wagers.find? id = book.wagers.find? id
  balance : later.balanceOf user = book.balanceOf user + book.stakeOn user battle - stake
  users : later.users = book.users.modify user
    ({ · with balance := book.balanceOf user + book.stakeOn user battle - stake, updatedAt := now })
  ledger : later.ledger = book.ledger.appendAll (book.wagerEntries user battle stake now)
  players : later.players = book.players
  battles : later.battles = book.battles
  participants : later.participants = book.participants
  periods : later.periods = book.periods
  snapshots : later.snapshots = book.snapshots
  settlements : later.settlements = book.settlements

theorem users_post (book : Book R) (m : Movement) :
    (book.post m).users = book.users.modify m.user
      ({ · with balance := book.balanceOf m.user + m.amount, updatedAt := m.now }) := rfl

theorem users_post_post {m n : Movement} (h : book.Accepts m) (huser : n.user = m.user) :
    ((book.post m).post n).users = book.users.modify m.user
      ({ · with balance := book.balanceOf m.user + m.amount + n.amount, updatedAt := n.now }) := by
  rw [users_post, users_post, huser, balanceOf_post h, if_pos rfl, Table.modify_modify]

theorem users_wagered (hmember : ∀ known, book.wager? user battle = some known →
      book.Accepts (known.data.returning now)) :
    (book.wagered user battle team stake now).users = book.users.modify user
      ({ · with
        balance := book.balanceOf user + book.stakeOn user battle - stake, updatedAt := now }) := by
  unfold wagered
  cases hwager : book.wager? user battle with
  | none =>
    rw [stakeOn_of_none hwager, Int.add_zero]
    rfl
  | some known =>
    obtain ⟨-, rfl, -⟩ := of_wager?_eq_some hwager
    rw [stakeOn_of_some hwager]
    exact users_post_post (hmember known hwager) rfl

theorem ledger_wagered (hmember : ∀ known, book.wager? user battle = some known →
      book.Accepts (known.data.returning now)) :
    (book.wagered user battle team stake now).ledger =
      book.ledger.appendAll (book.wagerEntries user battle stake now) := by
  unfold wagered wagerEntries
  cases hwager : book.wager? user battle with
  | none => rfl
  | some known =>
    obtain ⟨-, rfl, rfl⟩ := of_wager?_eq_some hwager
    have hafter : (book.post (known.data.returning now)).balanceOf known.data.user =
        book.balanceOf known.data.user + known.data.stake := by
      rw [balanceOf_post (hmember known hwager)]
      exact if_pos rfl
    change ((book.post (known.data.returning now)).ledger.append
      ((book.post (known.data.returning now)).entry
        (known.data.replaced team stake now).taking)) = _
    rw [entry, show (known.data.replaced team stake now).taking.user = known.data.user from rfl,
      hafter]
    rfl

theorem wageredRow_mem :
    book.wageredRow user battle team stake now ∈
      (book.wagered user battle team stake now).wagers.rows := by
  unfold wageredRow wagered
  cases hwager : book.wager? user battle with
  | none => exact List.mem_append_right _ (List.mem_singleton.2 rfl)
  | some known =>
    have hmem := (List.mem_filter.1 (of_wager?_eq_some hwager).1).1
    exact List.mem_map.2 ⟨known, hmem, if_pos rfl⟩

theorem same_wagered (book : Book R) (user battle : Int) (team : Team) (stake : Int)
    (now : Moment) :
    (book.wagered user battle team stake now).players = book.players ∧
      (book.wagered user battle team stake now).battles = book.battles ∧
      (book.wagered user battle team stake now).participants = book.participants ∧
      (book.wagered user battle team stake now).periods = book.periods ∧
      (book.wagered user battle team stake now).snapshots = book.snapshots ∧
      (book.wagered user battle team stake now).settlements = book.settlements := by
  unfold wagered
  cases book.wager? user battle <;> exact ⟨rfl, rfl, rfl, rfl, rfl, rfl⟩

theorem find?_wagered {id : Int} (h : id ≠ (book.wageredRow user battle team stake now).id) :
    (book.wagered user battle team stake now).wagers.find? id = book.wagers.find? id := by
  unfold wageredRow at h
  unfold wagered
  cases hwager : book.wager? user battle with
  | none =>
    rw [hwager] at h
    exact Table.find?_append.trans (if_neg h)
  | some known =>
    rw [hwager] at h
    exact Table.find?_modify_of_ne h

theorem takes_wagered (hmember : ∀ known, book.wager? user battle = some known →
      known.data.settledBy = none ∧ book.Accepts (known.data.returning now))
    (hknown : (book.users.find? user).isSome = true)
    (hlegal : (book.wagered user battle team stake now).WagersLegal) :
    book.Takes (book.wagered user battle team stake now) user battle team stake now
      (book.wageredRow user battle team stake now) := by
  have hrow : (book.wageredRow user battle team stake now).data.user = user ∧
      (book.wageredRow user battle team stake now).data.battle = battle := by
    unfold wageredRow
    cases hwager : book.wager? user battle with
    | none => exact ⟨rfl, rfl⟩
    | some known => exact (of_wager?_eq_some hwager).2
  have husers : (book.wagered user battle team stake now).users = book.users.modify user
      ({ · with
        balance := book.balanceOf user + book.stakeOn user battle - stake, updatedAt := now }) :=
    users_wagered fun known hwager => (hmember known hwager).2
  obtain ⟨hplayers, hbattles, hparticipants, hperiods, hsnapshots, hsettlements⟩ :=
    same_wagered book user battle team stake now
  refine {
    only := fun w => ⟨?_, ?_⟩
    terms := ?_
    kept := ?_
    fresh := ?_
    others := fun id => find?_wagered
    balance := ?_
    users := husers
    ledger := ledger_wagered fun known hwager => (hmember known hwager).2
    players := hplayers
    battles := hbattles
    participants := hparticipants
    periods := hperiods
    snapshots := hsnapshots
    settlements := hsettlements }
  · rintro ⟨hw, huser, hbattle⟩
    exact hlegal.single w hw _ wageredRow_mem (huser.trans hrow.1.symm) (hbattle.trans hrow.2.symm)
  · rintro rfl
    exact ⟨wageredRow_mem, hrow⟩
  · unfold wageredRow
    cases hwager : book.wager? user battle with
    | none => exact ⟨rfl, rfl, rfl, rfl⟩
    | some known => exact ⟨rfl, rfl, rfl, (hmember known hwager).1⟩
  · intro known hwager
    rw [wageredRow, hwager]
    exact ⟨rfl, rfl⟩
  · intro hwager
    rw [wageredRow, hwager]
    exact ⟨rfl, rfl⟩
  · obtain ⟨u, hu⟩ := Option.isSome_iff_exists.1 hknown
    rw [balanceOf, husers, Table.find?_modify_self hu]
    rfl

end Book

variable [Arithmetic R] {grace : R} {row : Row Wager}

theorem Reachable.unsettled_of_ongoing (h : Reachable book) (hongoing : book.Ongoing battle)
    {w : Row Wager} (hw : w ∈ book.wagersOn battle) : w.data.settledBy = none := by
  cases hmark : book.settlement? battle with
  | none => exact h.settlesInOrder.unsettled battle hmark w hw
  | some mark =>
    have hrecorded : book.resolution? battle = some (book.recorded mark) := by
      rw [Book.resolution?, hmark, Option.map_some]
    obtain ⟨found, hfound, hended⟩ := (h.settlesInOrder.kept battle _ hrecorded).ended
    rw [show (book.recorded mark).battle = battle from Book.battle_of_settlement? hmark] at hfound
    exact absurd rfl (hongoing.ne_of_ended hfound hended)

theorem Reachable.returns_of_affords (h : Reachable book) (hongoing : book.Ongoing battle)
    (hknown : (book.users.find? user).isSome = true) {known : Row Wager}
    (hwager : book.wager? user battle = some known) (haffords : book.Affords user battle) :
    known.data.settledBy = none ∧ book.Accepts (known.data.returning now) := by
  rw [Book.Affords, Book.stakeOn_of_some hwager] at haffords
  obtain ⟨hon, rfl, rfl⟩ := Book.of_wager?_eq_some hwager
  exact ⟨h.unsettled_of_ongoing hongoing hon, (Book.accepts_returning hknown hongoing.isSome
    (h.wagersLegal.positive known (List.mem_filter.1 hon).1)
    (h.keepsAccount known.data.user).balance_nonneg).2 haffords⟩

/-- A first wager goes through when the balance covers the stake. -/
theorem Reachable.placeFirst_eq_ok_iff (h : Reachable book) (hnone : book.wager? user battle = none)
    (hstake : 0 < stake) (hknown : (book.users.find? user).isSome = true)
    (hbattle : (book.battles.find? battle).isSome = true) :
    Session.placeFirst user battle team stake now book = .ok row later ↔
      stake ≤ book.balanceOf user + book.stakeOn user battle ∧ book.Affords user battle ∧
        row = book.wageredRow user battle team stake now ∧
        later = book.wagered user battle team stake now := by
  have hzero : book.balanceOf user + book.stakeOn user battle = book.balanceOf user := by
    rw [Book.stakeOn_of_none hnone, Int.add_zero]
  have hbalance := h.balancesStorable user
  rw [Session.placeFirst_eq_ok, Book.Affords, hzero, Book.wageredRow, Book.wagered, hnone]
  dsimp only
  rw [Book.accepts_taking hknown hbattle hstake hbalance]
  constructor
  · rintro ⟨-, hcovered, hrow, hlater⟩
    exact ⟨hcovered, hbalance, hrow, hlater⟩
  · rintro ⟨hcovered, -, hrow, hlater⟩
    exact ⟨Int.le_of_lt hstake, hcovered, hrow, hlater⟩

/-- A wager is replaced when the balance covers the new stake after the old one is returned, and has
room for the old one. -/
theorem Reachable.replaceWager_eq_ok_iff (h : Reachable book) (hongoing : book.Ongoing battle)
    {known : Row Wager} (hwager : book.wager? user battle = some known) (hstake : 0 < stake)
    (hknown : (book.users.find? user).isSome = true) :
    Session.replaceWager known team stake now book = .ok row later ↔
      stake ≤ book.balanceOf user + book.stakeOn user battle ∧ book.Affords user battle ∧
        row = book.wageredRow user battle team stake now ∧
        later = book.wagered user battle team stake now := by
  obtain ⟨hon, rfl, rfl⟩ := Book.of_wager?_eq_some hwager
  have hold : 0 < known.data.stake := h.wagersLegal.positive known (List.mem_filter.1 hon).1
  have hreturns : book.Accepts (known.data.returning now) ↔
      Session.isStorable (book.balanceOf known.data.user + known.data.stake) = true :=
    Book.accepts_returning hknown hongoing.isSome hold
      (h.keepsAccount known.data.user).balance_nonneg
  rw [Session.replaceWager_eq_ok, Book.Affords, Book.stakeOn_of_some hwager, Book.wageredRow,
    Book.wagered, hwager]
  dsimp only
  rw [hreturns]
  -- once the old stake is returned, the new one leaves a balance that holds both
  have htakes : Session.isStorable (book.balanceOf known.data.user + known.data.stake) = true →
      ((book.post (known.data.returning now)).Accepts
        (known.data.replaced team stake now).taking ↔
          stake ≤ book.balanceOf known.data.user + known.data.stake) := by
    intro hroom
    have hbalance : (book.post (known.data.returning now)).balanceOf known.data.user =
        book.balanceOf known.data.user + known.data.stake := by
      rw [Book.balanceOf_post (hreturns.2 hroom)]
      exact if_pos rfl
    rw [← hbalance]
    exact Book.accepts_taking (w := known.data.replaced team stake now)
      (Table.isSome_find?_modify.trans hknown) hongoing.isSome hstake (hbalance ▸ hroom)
  constructor
  · rintro ⟨-, ⟨-, hroom⟩, ⟨-, htaken⟩, hrow, hlater⟩
    exact ⟨(htakes hroom).1 htaken, hroom, hrow, hlater⟩
  · rintro ⟨hcovered, hroom, hrow, hlater⟩
    exact ⟨h.unsettled_of_ongoing hongoing hon, ⟨Int.le_of_lt hold, hroom⟩,
      ⟨Int.le_of_lt hstake, (htakes hroom).2 hcovered⟩, hrow, hlater⟩

/-- In a reachable book a request for a wager goes through when the wager is legal and no balance is
taken out of range. -/
theorem Reachable.placeWager_eq_ok_iff (h : Reachable book) :
    Session.placeWager user battle team.number stake grace now book = .ok row later ↔
      book.MayWager user battle team stake grace now ∧ book.Affords user battle ∧
        row = book.wageredRow user battle team stake now ∧
        later = book.wagered user battle team stake now := by
  rw [Session.placeWager_eq_ok]
  -- whichever way the wager is entered, it is within the balance
  have henter : 0 < stake → book.Ongoing battle → (book.users.find? user).isSome = true →
      ((match book.wager? user battle with
        | none => Session.placeFirst user battle team stake now book = .ok row later
        | some known => Session.replaceWager known team stake now book = .ok row later) ↔
      stake ≤ book.balanceOf user + book.stakeOn user battle ∧ book.Affords user battle ∧
        row = book.wageredRow user battle team stake now ∧
        later = book.wagered user battle team stake now) := by
    intro hstake hongoing hknown
    cases hwager : book.wager? user battle with
    | none => exact h.placeFirst_eq_ok_iff hwager hstake hknown hongoing.isSome
    | some known => exact h.replaceWager_eq_ok_iff hongoing hwager hstake hknown
  constructor
  · rintro ⟨team', hteam, hstake, hinTime, hknown, hbacked, hentered⟩
    obtain rfl : team = team' := Option.some.inj ((Team.ofNumber?_number team).symm.trans hteam)
    obtain ⟨hcovered, hrest⟩ := (henter hstake (Book.InTime.ongoing hinTime) hknown).1 hentered
    exact ⟨⟨hstake, hinTime, hknown, hbacked, hcovered⟩, hrest⟩
  · rintro ⟨⟨hstake, hinTime, hknown, hbacked, hcovered⟩, hrest⟩
    exact ⟨team, Team.ofNumber?_number team, hstake, hinTime, hknown, hbacked,
      (henter hstake hinTime.ongoing hknown).2 ⟨hcovered, hrest⟩⟩

/-! ## Refusals -/

def Fault.IsSettled : Fault R → Prop
  | .violation (.wagerSettled _) => True
  | _ => False

namespace Session

omit [Arithmetic R] in
theorem spares_settled_post {userId amount : Int} {kind : EntryKind} {battle? : Option Int} :
    Spares Fault.IsSettled (post userId amount kind battle? now) book := by
  have hreference : ∀ mid : Book R, Spares Fault.IsSettled (checkReference battle?) mid := by
    intro mid
    cases battle? <;> simp [checkReference, Fault.IsSettled]
  simp [post, checkRange, user, hreference, Fault.IsSettled]

theorem spares_settled_placeWager (h : Reachable book) {number : Int} :
    Spares Fault.IsSettled (placeWager user battle number stake grace now) book := by
  cases hwager : book.wager? user battle with
  | none =>
    simp [placeWager, hwager, placeFirst, debit, spares_settled_post, checkOpenForWagers, team,
      Session.battle, Session.user, Fault.IsSettled]
  | some known =>
    by_cases hongoing : book.Ongoing battle
    · have hunsettled := h.unsettled_of_ongoing hongoing (Book.of_wager?_eq_some hwager).1
      simp [placeWager, hwager, hunsettled, replaceWager, credit, debit, spares_settled_post,
        checkOpenForWagers, team, Session.battle, Session.user, Fault.IsSettled]
    · have hended : ∀ found, book.battles.find? battle = some found →
          found.data.status ≠ .ongoing := fun found hfound hstatus =>
        hongoing ⟨found, hfound, hstatus⟩
      simp +contextual [placeWager, hended, checkOpenForWagers, team, Session.battle, Session.user,
        Fault.IsSettled]

theorem placeWager_of_mayWager (hmay : book.MayWager user battle team stake grace now) :
    placeWager user battle team.number stake grace now book =
      match book.wager? user battle with
      | none => placeFirst user battle team stake now book
      | some known => replaceWager known team stake now book := by
  obtain ⟨hstake, ⟨found, hfound, hstatus, hlast⟩, hknown, ⟨p, hp, hteam⟩, -⟩ := hmay
  obtain ⟨u, hu⟩ := Option.isSome_iff_exists.1 hknown
  have hteam' : Session.team team.number book = .ok team book :=
    team_eq_ok.2 ⟨Team.ofNumber?_number team, rfl⟩
  have hbattle : Session.battle battle book = .ok found book := battle_eq_ok.2 ⟨hfound, rfl⟩
  have hopen : checkOpenForWagers found grace now book = .ok () book :=
    checkOpenForWagers_eq_ok.2 ⟨hlast, rfl⟩
  have huser : Session.user user book = .ok u book := user_eq_ok.2 ⟨hu, rfl⟩
  have hbacked : (book.participantsOf battle).any (·.data.team = team) = true :=
    List.any_eq_true.2 ⟨p, hp, decide_eq_true hteam⟩
  simp only [placeWager, bind, EStateM.bind, hteam', check_of (decide_eq_true hstake), hbattle,
    check_of (decide_eq_true hstatus), hopen, huser, read_apply, check_of hbacked]
  cases book.wager? user battle <;> rfl

omit [Arithmetic R] in
theorem spares_range_debit (hknown : (book.users.find? user).isSome = true)
    (hbattle : (book.battles.find? battle).isSome = true) (hstake : 0 < stake)
    (hcovered : stake ≤ book.balanceOf user) :
    Spares (¬ ·.IsRange) (debit user stake .stake (some battle) now) book := by
  have hpost : Spares (¬ ·.IsRange) (post user (-stake) .stake (some battle) now) book :=
    spares_post_of_covered hknown (by omega) hbattle
  simp [debit, hpost, Int.le_of_lt hstake]

theorem spares_range_replaceWager (h : Reachable book) (hongoing : book.Ongoing battle)
    {known : Row Wager} (hwager : book.wager? user battle = some known)
    (hknown : (book.users.find? user).isSome = true) (hstake : 0 < stake)
    (hcovered : stake ≤ book.balanceOf user + book.stakeOn user battle) :
    Spares (¬ ·.IsRange) (replaceWager known team stake now) book := by
  obtain ⟨hon, rfl, rfl⟩ := Book.of_wager?_eq_some hwager
  have hunsettled := h.unsettled_of_ongoing hongoing hon
  have hold : 0 < known.data.stake := h.wagersLegal.positive known (List.mem_filter.1 hon).1
  have hbalance : 0 ≤ book.balanceOf known.data.user :=
    (h.keepsAccount known.data.user).balance_nonneg
  have hreturned : Spares (¬ ·.IsRange)
      (credit known.data.user known.data.stake .refund (some known.data.battle) now) book := by
    have hpost : Spares (¬ ·.IsRange)
        (post known.data.user known.data.stake .refund (some known.data.battle) now) book :=
      spares_post_of_covered hknown (by omega) hongoing.isSome
    simp [credit, hpost, Int.le_of_lt hold]
  have htaken : ∀ entry mid,
      credit known.data.user known.data.stake .refund (some known.data.battle) now book =
        .ok entry mid →
      Spares (¬ ·.IsRange) (debit known.data.user stake .stake (some known.data.battle) now)
        mid := by
    intro entry mid hcredit
    obtain ⟨-, haccepts, -, rfl⟩ := credit_eq_ok.1 hcredit
    refine spares_range_debit (Table.isSome_find?_modify.trans hknown) hongoing.isSome hstake ?_
    rw [Book.balanceOf_post haccepts, ← Book.stakeOn_of_some hwager]
    exact (if_pos rfl).symm ▸ hcovered
  simp only [replaceWager, hunsettled, spares_bind, spares_check, spares_modify, spares_pure]
  refine ⟨?_, ?_⟩
  · intro hsettled
    cases hsettled
  · intro _ mid hcheck
    obtain ⟨-, rfl⟩ := check_eq_ok.1 hcheck
    exact ⟨hreturned, fun entry mid hcredit => ⟨htaken entry mid hcredit, by simp⟩⟩

/-- A legal wager is refused for nothing but a number out of range. -/
theorem spares_range_placeWager (h : Reachable book)
    (hmay : book.MayWager user battle team stake grace now) :
    Spares (¬ ·.IsRange) (placeWager user battle team.number stake grace now) book := by
  have hongoing := hmay.inTime.ongoing
  have hcovered := hmay.covered
  unfold Spares
  rw [placeWager_of_mayWager hmay]
  cases hwager : book.wager? user battle with
  | none =>
    rw [Book.stakeOn_of_none hwager, Int.add_zero] at hcovered
    have hdebit : Spares (¬ ·.IsRange) (debit user stake .stake (some battle) now) book :=
      spares_range_debit hmay.known hongoing.isSome hmay.positive hcovered
    change Spares (¬ ·.IsRange) (placeFirst user battle team stake now) book
    simp [placeFirst, hdebit]
  | some known =>
    exact spares_range_replaceWager h hongoing hwager hmay.known hmay.positive hcovered

end Session

/-! ## The request -/

theorem Operation.perform_placeWager (user battle number stake : Int) (grace : R) (now : Moment) :
    (Operation.command (.placeWager user battle number stake grace now)).perform =
      Session.atomically (.wager <$> Session.placeWager user battle number stake grace now) :=
  rfl

theorem Reachable.perform_placeWager_eq_ok_iff (h : Reachable book) {reply : Reply R} :
    (Operation.command (.placeWager user battle team.number stake grace now)).perform book =
        .ok reply later ↔
      book.MayWager user battle team stake grace now ∧ book.Affords user battle ∧
        reply = .wager (book.wageredRow user battle team stake now) ∧
        later = book.wagered user battle team stake now := by
  rw [Operation.perform_placeWager, Session.atomically_eq_ok, Session.map_eq_ok]
  simp only [h.placeWager_eq_ok_iff]
  constructor
  · rintro ⟨row, ⟨hmay, haffords, rfl, rfl⟩, rfl⟩
    exact ⟨hmay, haffords, rfl, rfl⟩
  · rintro ⟨hmay, haffords, rfl, rfl⟩
    exact ⟨_, ⟨hmay, haffords, rfl, rfl⟩, rfl⟩

/-- **Just the legal wagers are taken**, as long as balances stay in range on the way. Nothing but
the user's wager, balance and ledger entries changes; a refusal changes nothing. -/
theorem placeWager_exact (h : Reachable book) (user battle : Int) (team : Team) (stake : Int)
    (grace : R) (now : Moment) :
    let request : Operation R := .command (.placeWager user battle team.number stake grace now)
    ((∃ reply later, request.perform book = .ok reply later) ↔
      book.MayWager user battle team stake grace now ∧ book.Affords user battle) ∧
    (book.wager? user battle = none → book.Affords user battle) ∧
    (∀ reply later, request.perform book = .ok reply later →
      ∃ row, reply = .wager row ∧ book.Takes later user battle team stake now row) ∧
    ∀ fault later, request.perform book = .error fault later →
      later = book ∧ ¬fault.IsSettled ∧
        (book.MayWager user battle team stake grace now → fault.IsRange) := by
  intro request
  have hperform : ∀ reply later, request.perform book = .ok reply later ↔
      book.MayWager user battle team stake grace now ∧ book.Affords user battle ∧
        reply = .wager (book.wageredRow user battle team stake now) ∧
        later = book.wagered user battle team stake now :=
    fun _ _ => h.perform_placeWager_eq_ok_iff
  refine ⟨⟨?_, ?_⟩, ?_, ?_, ?_⟩
  · rintro ⟨reply, later, hrun⟩
    obtain ⟨hmay, haffords, -⟩ := (hperform reply later).1 hrun
    exact ⟨hmay, haffords⟩
  · rintro ⟨hmay, haffords⟩
    exact ⟨_, _, (hperform _ _).2 ⟨hmay, haffords, rfl, rfl⟩⟩
  · intro hnone
    rw [Book.Affords, Book.stakeOn_of_none hnone, Int.add_zero]
    exact h.balancesStorable user
  · intro reply later hrun
    obtain ⟨hmay, haffords, rfl, rfl⟩ := (hperform reply later).1 hrun
    have hreachable := h.step request
    rw [Operation.after_of_ok hrun] at hreachable
    exact ⟨_, rfl, Book.takes_wagered (fun known hwager =>
      h.returns_of_affords hmay.inTime.ongoing hmay.known hwager haffords) hmay.known
      hreachable.wagersLegal⟩
  · intro fault later hrun
    rw [Operation.perform_placeWager, Session.atomically_eq_error] at hrun
    obtain ⟨⟨mid, hrefused⟩, rfl⟩ := hrun
    rw [Session.map_eq_error] at hrefused
    exact ⟨rfl, Session.spares_settled_placeWager h fault mid hrefused, fun hmay =>
      not_not.1 (Session.spares_range_placeWager h hmay fault mid hrefused)⟩

/-- Carl has wagered thirty of his hundred, and the battle is still on. -/
def openRace : Book Float := Operation.run (raisedStake.take 9) .empty

theorem openRace_inTime : openRace.InTime 1 3.0 (.ofTicks 4) :=
  ⟨⟨1, ⟨"loop", .ongoing, .ofTicks 2, .ofTicks 5, none⟩⟩, by decide +kernel, rfl, 3000000,
    .ofTicks 3000005, by decide +kernel, by decide +kernel, by decide⟩

/-- Carl may raise the stake to all that he has, and is left with nothing; he may not raise it by
one more. -/
theorem placeWager_exact_openRace :
    Reachable openRace ∧
    (∃ row later, (Operation.command (.placeWager 1 1 0 100 3.0 (.ofTicks 4))).perform openRace =
        .ok (.wager row) later ∧
      openRace.Takes later 1 1 .red 100 (.ofTicks 4) row ∧ row.id = 1 ∧ later.balanceOf 1 = 0) ∧
    ∃ fault, (Operation.command (.placeWager 1 1 0 101 3.0 (.ofTicks 4))).perform openRace =
      .error fault openRace := by
  have hreachable : Reachable openRace := Reachable.empty.run _
  obtain ⟨hbalance, hstake, hid⟩ : openRace.balanceOf 1 = 70 ∧ openRace.stakeOn 1 1 = 30 ∧
      (openRace.wager? 1 1).map (·.id) = some 1 := by decide +kernel
  obtain ⟨haccepted, -, htakes, -⟩ :=
    placeWager_exact hreachable 1 1 .red 100 3.0 (.ofTicks 4)
  obtain ⟨hrefused, -, -, hleaves⟩ :=
    placeWager_exact hreachable 1 1 .red 101 3.0 (.ofTicks 4)
  have hmay : openRace.MayWager 1 1 .red 100 3.0 (.ofTicks 4) := {
    positive := by decide
    inTime := openRace_inTime
    known := by decide +kernel
    backed := by
      unfold Book.Backed
      decide +kernel
    covered := by rw [hbalance, hstake]; decide }
  have haffords : openRace.Affords 1 1 := by
    rw [Book.Affords, hbalance, hstake]
    rfl
  refine ⟨hreachable, ?_, ?_⟩
  · obtain ⟨reply, later, hrun⟩ := haccepted.2 ⟨hmay, haffords⟩
    obtain ⟨row, rfl, hchanges⟩ := htakes reply later hrun
    obtain ⟨known, hwager, hknown⟩ := Option.map_eq_some_iff.1 hid
    refine ⟨row, later, hrun, hchanges, (hchanges.kept known hwager).1.trans hknown, ?_⟩
    rw [hchanges.balance, hbalance, hstake]
    rfl
  · cases hrun : (Operation.command (.placeWager 1 1 0 101 3.0 (.ofTicks 4))).perform openRace with
    | ok reply later =>
      have hcovered := (hrefused.1 ⟨reply, later, hrun⟩).1.covered
      rw [hbalance, hstake] at hcovered
      exact absurd hcovered (by decide)
    | error fault later =>
      obtain ⟨hsame, -⟩ := hleaves fault later hrun
      exact ⟨fault, congrArg (EStateM.Result.error fault) hsame⟩

end RaceBook
