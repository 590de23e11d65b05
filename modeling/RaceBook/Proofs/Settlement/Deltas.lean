import RaceBook.Proofs.Settlement.Effect
import RaceBook.Proofs.Settlement.Total

/-!
# What a battle moves on balances

* `SumsStorable`, `Session.battleDelta_eq_ok` : what a battle moved on a balance can be told as long
  as no sum on the way leaves the range of what a row may hold;
* `Event.movements`, `Event.battleAmounts_apply` : what every event enters in the ledger;
* `Book.netOf`, `Book.Balances` : the entries of a battle add up to what was paid for the user's
  wager less its stake;
* `Event.balances_apply` : every event keeps that, but for an entry of that battle by hand;
* `battle_books_balance` : so the books of a battle balance after any operations without such an
  entry.
-/

namespace RaceBook

variable {R : Type} {book later : Book R} {user battle : Int}

/-! ## Sums within the range -/

/-- No sum on the way leaves the range of what a row may hold. -/
def SumsStorable (amounts : List Int) : Prop :=
  ∀ before, before <+: amounts → Session.isStorable (sumOf before) = true

theorem sumsStorable_nil : SumsStorable [] := by
  intro before h
  rw [List.prefix_nil.1 h]
  decide

theorem SumsStorable.concat {amounts : List Int} {a : Int} (h : SumsStorable amounts)
    (ha : Session.isStorable (sumOf amounts + a) = true) : SumsStorable (amounts ++ [a]) := by
  intro before hbefore
  rcases List.prefix_concat_iff.1 hbefore with rfl | hbefore
  · simpa using ha
  · exact h before hbefore

theorem Session.foldlM_addInRange_eq_ok {amounts : List Int} {sum : Int}
    (h : ∀ before, before <+: amounts → isStorable (sum + sumOf before) = true) :
    (amounts.foldlM addInRange sum : Session R Int) book = .ok (sum + sumOf amounts) book := by
  induction amounts generalizing sum with
  | nil => simp
  | cons a rest ih =>
    have ha : isStorable (sum + a) = true := by
      simpa using h [a] (by simp)
    have hrest := @ih (sum + a) fun before hbefore => by
      simpa [Int.add_assoc] using h (a :: before) (by simpa using hbefore)
    simp only [List.foldlM_cons, bind_eq_ok, addInRange, check_eq_ok, pure_eq_ok]
    exact ⟨sum + a, book, ⟨(), book, ⟨ha, rfl⟩, rfl, rfl⟩, by simpa [Int.add_assoc] using hrest⟩

/-- The query gives the sum when no sum on the way leaves the range. -/
theorem Session.battleDelta_eq_ok (h : SumsStorable (book.battleAmounts user battle)) :
    Session.battleDelta user battle book = .ok (book.battleDelta user battle) book := by
  have hsum := @foldlM_addInRange_eq_ok R book (book.battleAmounts user battle) 0 fun before hb => by
    simpa using h before hb
  rw [Int.zero_add] at hsum
  simp only [Session.battleDelta, bind_eq_ok, read_eq_ok]
  exact ⟨_, book, ⟨rfl, rfl⟩, hsum⟩

/-! ## What events enter in the ledger -/

def amountsFor (ms : List Movement) (user battle : Int) : List Int :=
  (ms.filter fun m => m.user = user ∧ m.battle = some battle).map (·.amount)

namespace Book

theorem battleAmounts_post {m : Movement} :
    (book.post m).battleAmounts user battle =
      book.battleAmounts user battle ++ amountsFor [m] user battle := by
  change ((book.ledger.append (book.entry m)).rows.filter _).map _ = _
  rw [Table.rows_append, List.filter_append, List.map_append]
  by_cases h : m.user = user ∧ m.battle = some battle <;>
    simp [battleAmounts, amountsFor, entry, h]

theorem battleAmounts_payAll {other : Int} {kind : EntryKind} {now : Moment}
    {ps : List Pool.Payout} :
    (book.payAll other kind now ps).battleAmounts user battle =
      book.battleAmounts user battle ++
        amountsFor (ps.map (·.movement other kind now)) user battle := by
  induction ps generalizing book with
  | nil => simp [amountsFor]
  | cons p rest ih =>
    have hfirst : (book.pay other kind now p).battleAmounts user battle =
        book.battleAmounts user battle ++ amountsFor [p.movement other kind now] user battle :=
      battleAmounts_post
    rw [payAll_cons, ih, hfirst, List.append_assoc, amountsFor, amountsFor, amountsFor,
      ← List.map_append, ← List.filter_append]
    rfl

end Book

theorem amountsFor_payouts {kind : EntryKind} {now : Moment} {ps : List Pool.Payout} :
    amountsFor (ps.map (·.movement battle kind now)) user battle =
      (ps.filter (·.user = user)).map (·.paid) := by
  simp [amountsFor, List.filter_map, Function.comp_def, Pool.Payout.movement]

theorem amountsFor_payouts_of_ne {other : Int} (h : battle ≠ other) {kind : EntryKind} {now : Moment}
    {ps : List Pool.Payout} : amountsFor (ps.map (·.movement other kind now)) user battle = [] := by
  simp [amountsFor, Pool.Payout.movement, h.symm]

def Event.movements : Event R → List Movement
  | posted m => [m]
  | wagerPlaced w => [w.taking]
  | wagerReplaced known team stake now =>
    [known.data.returning now, (known.data.replaced team stake now).taking]
  | battleSettled found split now => split.payouts.map (·.movement found.id split.kind now)
  | _ => []

theorem Event.battleAmounts_apply [Arithmetic R] (e : Event R) (book : Book R) :
    (e.apply book).battleAmounts user battle =
      book.battleAmounts user battle ++ amountsFor e.movements user battle := by
  have hnone : amountsFor [] user battle = [] := rfl
  cases e with
  | posted m => exact Book.battleAmounts_post
  | wagerPlaced w => exact Book.battleAmounts_post
  | wagerReplaced known team stake now =>
    change ((book.post (known.data.returning now)).post
      (known.data.replaced team stake now).taking).battleAmounts user battle = _
    rw [Book.battleAmounts_post, Book.battleAmounts_post, List.append_assoc, amountsFor, amountsFor,
      ← List.map_append, ← List.filter_append]
    rfl
  | battleSettled found split now => exact Book.battleAmounts_payAll
  | periodOpened | periodMarked | periodClosed | snapshotTaken | cacheRefreshed =>
    rw [Book.battleAmounts, (sameRaces_apply (by trivial) book).ledger]
    simp [Event.movements, hnone, Book.battleAmounts]
  | _ => simp only [Event.movements, hnone, List.append_nil]; rfl

/-! ## Wagers after an event -/

namespace Book

theorem wager?_eq : book.wager? user battle =
    book.wagers.rows.find? fun w => w.data.battle = battle ∧ w.data.user = user := by
  simp [wager?, wagersOn, List.find?_filter]

theorem wager?_placeFirst {w : Wager} :
    (book.placeFirst w).wager? user battle = (book.wager? user battle).or
      (if w.user = user ∧ w.battle = battle then some ⟨book.wagers.nextId, w⟩ else none) := by
  rw [wager?_eq, wager?_eq]
  change (book.wagers.append w).rows.find? _ = _
  rw [Table.rows_append, List.find?_append]
  by_cases huser : w.user = user <;> by_cases hbattle : w.battle = battle <;> simp [huser, hbattle]

theorem wager?_replaceWager {known : Row Wager} {team : Team} {stake : Int} {now : Moment} :
    (book.replaceWager known team stake now).wager? user battle =
      (book.wager? user battle).map fun w =>
        if w.id = known.id then ⟨w.id, w.data.replaced team stake now⟩ else w := by
  rw [wager?_eq, wager?_eq]
  exact Table.find?_rows_modify fun _ => rfl

theorem wager?_settled {found : Row Battle} {split : Pool.Split} {now : Moment}
    (h : book.Settles found split now) :
    (book.settled found split now).wager? user found.id =
      (book.wager? user found.id).map (·.stamped split.payouts book.ledger.nextId) := by
  have hwagers : (book.settled found split now).wagersOn found.id = _ := wagersOn_payAll h.nodup_wagers
  rw [wager?, hwagers, List.find?_map, wager?]
  congr 2
  funext w
  rw [Function.comp_apply, Row.stamped]
  split <;> rfl

/-! ## The net of a wager -/

/-- What was paid for a user's wager on a battle less its stake; nothing without a wager. -/
def netOf (book : Book R) (user battle : Int) : Int :=
  ((book.wager? user battle).map fun w => book.paidOut w - w.data.stake).getD 0

theorem paidOut_of_unsettled {w : Row Wager} (h : w.data.settledBy = none) : book.paidOut w = 0 := by
  rw [paidOut, recordedPayout?, h]
  rfl

theorem netOf_of_none (h : book.wager? user battle = none) : book.netOf user battle = 0 := by
  rw [netOf, h]
  rfl

theorem netOf_of_some {w : Row Wager} (h : book.wager? user battle = some w) :
    book.netOf user battle = book.paidOut w - w.data.stake := by
  rw [netOf, h]
  rfl

theorem netOf_of_unsettled {w : Row Wager} (h : book.wager? user battle = some w)
    (hw : w.data.settledBy = none) : book.netOf user battle = -w.data.stake := by
  rw [netOf_of_some h, paidOut_of_unsettled hw, Int.zero_sub]

/-- What the entries of a battle moved on a user's balance is the net of the user's wager, and can be
told. -/
structure Balances (book : Book R) (user battle : Int) : Prop where
  sums : SumsStorable (book.battleAmounts user battle)
  delta : book.battleDelta user battle = book.netOf user battle

namespace Balances

theorem of_same (h : book.Balances user battle)
    (hamounts : later.battleAmounts user battle = book.battleAmounts user battle)
    (hwager : later.wager? user battle = book.wager? user battle)
    (hpaid : ∀ w ∈ book.wagers.rows, later.paidOut w = book.paidOut w) :
    later.Balances user battle := by
  refine ⟨hamounts ▸ h.sums, ?_⟩
  rw [battleDelta, hamounts, ← battleDelta, h.delta, netOf, netOf, hwager]
  cases hw : book.wager? user battle with
  | none => rfl
  | some w =>
    have hmem : w ∈ book.wagers.rows := List.mem_of_mem_filter (of_wager?_eq_some hw).1
    rw [Option.map_some, Option.map_some, hpaid w hmem]

/-- A first wager takes its stake. -/
theorem placeFirst (h : book.Balances user battle) {w : Wager} (hnew : w.settledBy = none)
    (hnone : book.wager? w.user w.battle = none) (haccepts : book.Accepts w.taking)
    (huser : w.user = user) (hbattle : w.battle = battle) :
    (book.placeFirst w).Balances user battle := by
  subst huser hbattle
  have hamounts : (book.placeFirst w).battleAmounts w.user w.battle =
      book.battleAmounts w.user w.battle ++ [-w.stake] := by
    change (book.post w.taking).battleAmounts w.user w.battle = _
    rw [battleAmounts_post]
    simp [amountsFor, Wager.taking]
  have hzero : sumOf (book.battleAmounts w.user w.battle) = 0 := h.delta.trans (netOf_of_none hnone)
  have hwager : (book.placeFirst w).wager? w.user w.battle = some ⟨book.wagers.nextId, w⟩ := by
    rw [wager?_placeFirst, hnone]
    simp
  constructor
  · rw [hamounts]
    refine h.sums.concat ?_
    rw [hzero, Int.zero_add]
    exact haccepts.storable.1
  · rw [netOf_of_unsettled hwager hnew, battleDelta, hamounts, sumOf_append, hzero]
    simp

/-- A wager that is replaced returns its stake and takes the new one. -/
theorem replaceWager {known : Row Wager} {team : Team} {stake : Int} {now : Moment}
    (h : book.Balances known.data.user known.data.battle)
    (hknown : book.wager? known.data.user known.data.battle = some known)
    (hunsettled : known.data.settledBy = none)
    (htakes : (book.post (known.data.returning now)).Accepts
      (known.data.replaced team stake now).taking) :
    (book.replaceWager known team stake now).Balances known.data.user known.data.battle := by
  have hamounts : (book.replaceWager known team stake now).battleAmounts known.data.user
      known.data.battle =
        book.battleAmounts known.data.user known.data.battle ++ [known.data.stake] ++ [-stake] := by
    change ((book.post (known.data.returning now)).post
      (known.data.replaced team stake now).taking).battleAmounts known.data.user _ = _
    rw [battleAmounts_post, battleAmounts_post]
    simp [amountsFor, Wager.returning, Wager.taking, Wager.replaced]
  have hsum : sumOf (book.battleAmounts known.data.user known.data.battle) = -known.data.stake :=
    h.delta.trans (netOf_of_unsettled hknown hunsettled)
  have hwager : (book.replaceWager known team stake now).wager? known.data.user known.data.battle =
      some ⟨known.id, known.data.replaced team stake now⟩ := by
    rw [wager?_replaceWager, hknown]
    simp
  -- between the return and the new stake nothing is left of the old one
  have hreturned : sumOf (book.battleAmounts known.data.user known.data.battle ++
      [known.data.stake]) = 0 := by
    rw [sumOf_append, hsum, sumOf_cons, sumOf_nil]
    omega
  constructor
  · rw [hamounts]
    refine (h.sums.concat ?_).concat ?_
    · rw [hsum, Int.add_comm, Int.add_right_neg]
      decide
    · rw [hreturned, Int.zero_add]
      exact htakes.storable.1
  · have hsettledBy : (known.data.replaced team stake now).settledBy = none := hunsettled
    rw [netOf_of_unsettled hwager hsettledBy, battleDelta, hamounts, sumOf_append, hreturned]
    simp [Wager.replaced]

end Balances

theorem Pays.storable {other : Int} {kind : EntryKind} {now : Moment} {ps : List Pool.Payout}
    (h : Pays other kind now book ps) {p : Pool.Payout} (hp : p ∈ ps) :
    0 ≤ p.paid ∧ Session.isStorable p.paid = true := by
  induction ps generalizing book with
  | nil => cases hp
  | cons q rest ih =>
    obtain ⟨hpaid, haccepts, hrest⟩ := h
    rcases List.mem_cons.1 hp with rfl | hp
    · exact ⟨hpaid, haccepts.storable.1⟩
    · exact ih hrest hp

/-- A settlement pays for the wager what its payout says. -/
theorem Balances.settled {found : Row Battle} {split : Pool.Split} {now : Moment}
    (h : book.Balances user found.id) (hsettles : book.Settles found split now)
    (hall : book.unsettledOn found.id = book.wagersOn found.id) (hlegal : book.WagersLegal) :
    (book.settled found split now).Balances user found.id := by
  have hamounts : (book.settled found split now).battleAmounts user found.id =
      book.battleAmounts user found.id ++ (split.payouts.filter (·.user = user)).map (·.paid) := by
    rw [← amountsFor_payouts]
    exact battleAmounts_payAll
  have horigins : split.payouts.map (·.origin) = (book.wagersOn found.id).map (·.stake) :=
    hall ▸ hsettles.map_origin_payouts
  have husers : split.payouts.map (·.user) = (book.wagersOn found.id).map (·.data.user) := by
    have hmap := congrArg (List.map (·.user)) horigins
    rwa [List.map_map, List.map_map] at hmap
  cases hw : book.wager? user found.id with
  | none =>
    have hnone : split.payouts.filter (·.user = user) = [] := by
      rw [List.filter_eq_nil_iff]
      intro p hp he
      have hmem : user ∈ (book.wagersOn found.id).map (·.data.user) :=
        husers ▸ List.mem_map.2 ⟨p, hp, of_decide_eq_true he⟩
      obtain ⟨w, hmem, huser⟩ := List.mem_map.1 hmem
      exact List.find?_eq_none.1 hw w hmem (decide_eq_true huser)
    rw [hnone, List.map_nil, List.append_nil] at hamounts
    refine ⟨hamounts ▸ h.sums, ?_⟩
    have hnone' : (book.settled found split now).wager? user found.id = none := by
      rw [wager?_settled hsettles, hw, Option.map_none]
    rw [battleDelta, hamounts, netOf_of_none hnone']
    exact h.delta.trans (netOf_of_none hw)
  | some w =>
    have hw' : (book.settled found split now).wager? user found.id =
        some (w.stamped split.payouts book.ledger.nextId) := by
      rw [wager?_settled hsettles, hw, Option.map_some]
    have hstake : (w.stamped split.payouts book.ledger.nextId).stake = w.stake := by
      unfold Row.stamped
      split <;> rfl
    obtain ⟨hmem, huser, -⟩ := of_wager?_eq_some hw'
    obtain ⟨p, hp, horigin, entry, hsettled, -, hpaid⟩ :=
      carried_wagers_settled hsettles hall _ hmem
    have hpuser : p.user = user := (congrArg (·.user) horigin).trans huser
    have honly : split.payouts.filter (·.user = user) = [p] := by
      subst hpuser
      exact filter_of_nodup_map (husers ▸ hlegal.nodup_users found.id) hp
    rw [honly, List.map_singleton] at hamounts
    have hwmem := (of_wager?_eq_some hw).1
    have hunsettled : w.data.settledBy = none := by
      rw [← hall] at hwmem
      exact Option.isNone_iff_eq_none.1 (List.mem_filter.1 hwmem).2
    have hsum : sumOf (book.battleAmounts user found.id) = -w.data.stake :=
      h.delta.trans (netOf_of_unsettled hw hunsettled)
    constructor
    · rw [hamounts]
      refine h.sums.concat ?_
      have hstaked := h.sums _ (List.prefix_refl _)
      have hpos := hlegal.positive w (List.mem_of_mem_filter hwmem)
      obtain ⟨hnonneg, hstorable⟩ := hsettles.pays.storable hp
      rw [hsum] at hstaked ⊢
      simp only [Session.isStorable, decide_eq_true_eq] at hstaked hstorable ⊢
      omega
    · have hamount : (w.stamped split.payouts book.ledger.nextId).data.stake = w.data.stake :=
        congrArg (·.amount) hstake
      rw [netOf_of_some hw', hsettled.paidOut_eq, hpaid, hamount, battleDelta, hamounts,
        sumOf_append, hsum, sumOf_cons, sumOf_nil]
      omega

end Book

/-! ## Events and operations -/

def Event.EntersFor (battle : Int) : Event R → Prop
  | .posted m => m.battle = some battle
  | _ => False

/-- A direct credit or debit that names this battle. -/
def Operation.EntersFor (battle : Int) : Operation R → Prop
  | .command (.credit _ _ _ battle? _) => battle? = some battle
  | .command (.debit _ _ _ battle? _) => battle? = some battle
  | _ => False

theorem Operation.entersFor_of_explains {op : Operation R} {e : Event R} (h : op.Explains e)
    (he : e.EntersFor battle) : op.EntersFor battle := by
  cases e with
  | posted m =>
    cases op with
    | command c =>
      cases c with
      | credit | debit =>
        cases h
        exact he
      | grant =>
        cases h
        cases he
      | createUser =>
        obtain ⟨_, ⟨⟩⟩ | ⟨-, _, ⟨⟩⟩ := h
        cases he
      | _ => simp [Operation.Explains, Command.Explains] at h
    | _ => simp [Operation.Explains] at h
  | _ => exact he.elim

variable [Arithmetic R]

namespace Event

theorem paidOut_apply (e : Event R) (h : book.SettlesApart) {w : Row Wager}
    (hw : w ∈ book.wagers.rows) : (e.apply book).paidOut w = book.paidOut w := by
  cases hsettled : w.data.settledBy with
  | none => rw [Book.paidOut_of_unsettled hsettled, Book.paidOut_of_unsettled hsettled]
  | some id =>
    obtain ⟨entry, hentry⟩ := h.entered w hw id hsettled
    simp [Book.paidOut, Book.recordedPayout?, hsettled, hentry, e.entry_apply hentry]

theorem balances_of_untouched {e : Event R} (hapart : book.SettlesApart)
    (hbook : book.Balances user battle) (hmoves : amountsFor e.movements user battle = [])
    (hwager : (e.apply book).wager? user battle = book.wager? user battle) :
    (e.apply book).Balances user battle :=
  hbook.of_same (by rw [battleAmounts_apply, hmoves, List.append_nil]) hwager
    fun _ => e.paidOut_apply hapart

theorem balances_apply {e : Event R} (h : e.Enabled book) (hforeign : ¬e.EntersFor battle)
    (hlegal : book.WagersLegal) (horder : book.SettlesInOrder) (hapart : book.SettlesApart)
    (hbook : book.Balances user battle) : (e.apply book).Balances user battle := by
  cases e with
  | posted m =>
    have hbattle : m.battle ≠ some battle := hforeign
    exact balances_of_untouched hapart hbook (by simp [amountsFor, movements, hbattle]) rfl
  | wagerPlaced w =>
    obtain ⟨-, -, hnew, hnone, haccepts⟩ := h
    by_cases hkey : w.user = user ∧ w.battle = battle
    · exact hbook.placeFirst hnew hnone haccepts hkey.1 hkey.2
    · refine balances_of_untouched hapart hbook ?_ ?_
      · simp [amountsFor, movements, Wager.taking, hkey]
      · change (book.placeFirst w).wager? user battle = _
        rw [Book.wager?_placeFirst, if_neg hkey, Option.or_none]
  | wagerReplaced known team stake now =>
    obtain ⟨-, -, hknown, hunsettled, -, htakes⟩ := h
    by_cases hkey : known.data.user = user ∧ known.data.battle = battle
    · obtain ⟨rfl, rfl⟩ := hkey
      exact hbook.replaceWager hknown hunsettled htakes
    · refine balances_of_untouched hapart hbook ?_ ?_
      · simp [amountsFor, movements, Wager.returning, Wager.taking, Wager.replaced, hkey]
      · change (book.replaceWager known team stake now).wager? user battle = _
        rw [Book.wager?_replaceWager]
        cases hw : book.wager? user battle with
        | none => rfl
        | some w =>
          have hne : w.id ≠ known.id := by
            intro hid
            obtain ⟨hmem, huser, hbattle⟩ := Book.of_wager?_eq_some hw
            have hsame : w = known := Table.eq_of_id_eq (List.mem_of_mem_filter hmem)
              (List.mem_of_mem_filter (Book.of_wager?_eq_some hknown).1) hid
            exact hkey ⟨hsame ▸ huser, hsame ▸ hbattle⟩
          rw [Option.map_some, if_neg hne]
  | battleSettled found split now =>
    by_cases hid : battle = found.id
    · subst hid
      exact hbook.settled h (horder.unsettledOn_eq h.unmarked) hlegal
    · refine balances_of_untouched hapart hbook (amountsFor_payouts_of_ne hid) ?_
      change (book.settled found split now).wager? user battle = _
      rw [Book.wager?, Book.wagersOn_settled_of_ne h hid, Book.wager?]
  | periodOpened | periodMarked | periodClosed | snapshotTaken | cacheRefreshed =>
    refine balances_of_untouched hapart hbook rfl ?_
    rw [Book.wager?, Book.wagersOn, (sameRaces_apply (by trivial) book).wagers]
    rfl
  | _ => exact balances_of_untouched hapart hbook rfl rfl

end Event

/-- Operations that enter nothing by hand for a battle keep every user's books on it in balance. -/
theorem Operation.balances_run (ops : List (Operation R))
    (hops : ∀ op ∈ ops, ¬op.EntersFor battle) (user : Int) :
    (Operation.run ops .empty).Balances user battle := by
  have hempty : (Book.empty : Book R).Balances user battle := ⟨sumsStorable_nil, rfl⟩
  refine (Operation.run_of_explained (P := fun b : Book R => (b.WagersLegal ∧ b.SettlesInOrder ∧
    b.SettlesApart) ∧ b.Balances user battle) ops ?_ ⟨⟨Reachable.empty.wagersLegal,
      Reachable.empty.settlesInOrder, Reachable.empty.settlesApart⟩, hempty⟩).2
  rintro op hop book e hexplained ⟨⟨hlegal, horder, hapart⟩, hbook⟩ he
  have hforeign : ¬e.EntersFor battle :=
    fun hby => hops op hop (Operation.entersFor_of_explains hexplained hby)
  exact ⟨⟨Event.wagersLegal_apply he hlegal, Event.settlesInOrder_apply he horder,
    Event.settlesApart_apply he hapart⟩, Event.balances_apply he hforeign hlegal horder hapart hbook⟩

/-! ## All users together -/

theorem Reachable.sumOf_netOf (h : Reachable book) (battle : Int) :
    sumOf (book.users.rows.map fun u => book.netOf u.id battle) =
      sumOf ((book.wagersOn battle).map fun w => book.paidOut w - w.data.stake) := by
  refine sumOf_map_find? _ book.users.nodup_ids (h.wagersLegal.nodup_users battle) fun w hw => ?_
  obtain ⟨u, hu⟩ :=
    Option.isSome_iff_exists.1 (h.refersToKnown.wagering w (List.mem_of_mem_filter hw))
  exact List.mem_map.2 ⟨u, Table.mem_of_find? hu, Table.id_of_find? hu⟩

theorem Reachable.sumOf_netOf_settled (h : Reachable book) {mark : Settlement}
    (hmark : book.settlement? battle = some mark) :
    sumOf (book.users.rows.map fun u => book.netOf u.id battle) = 0 := by
  obtain rfl := Book.battle_of_settlement? hmark
  obtain ⟨found, split, haudits⟩ := h.audits mark (Book.mem_of_settlement? hmark)
  rw [h.sumOf_netOf, sumOf_map_sub, haudits.sumOf_paidOut, Int.sub_self]

theorem Reachable.sumOf_netOf_unsettled (h : Reachable book)
    (hmark : book.settlement? battle = none) :
    sumOf (book.users.rows.map fun u => book.netOf u.id battle) =
      -sumOf ((book.unsettledOn battle).map (·.data.stake)) := by
  have hunpaid : ∀ w ∈ book.wagersOn battle, book.paidOut w = 0 :=
    fun w hw => Book.paidOut_of_unsettled (h.settlesInOrder.unsettled battle hmark w hw)
  rw [h.sumOf_netOf, sumOf_map_sub, sumOf_map_zero hunpaid, h.settlesInOrder.unsettledOn_eq hmark]
  omega

/-! ## What a settlement replies -/

namespace Book

omit [Arithmetic R]

theorem eq_of_recordedPayout? {w : Row Wager} {p : Pool.Payout}
    (h : book.recordedPayout? w = some p) : p = w.stake.resolve (book.paidOut w) := by
  rw [paidOut, h, Option.map_some, Option.getD_some]
  obtain ⟨id, -, h⟩ := Option.bind_eq_some_iff.1 h
  obtain ⟨entry, -, h⟩ := Option.bind_eq_some_iff.1 h
  obtain rfl := Option.some.inj h
  rfl

theorem Keeps.payouts_eq {r : Resolution} (h : book.Keeps r) :
    r.payouts = (book.wagersOn r.battle).map fun w => w.stake.resolve (book.paidOut w) := by
  have hpaid : ∀ w ∈ book.wagersOn r.battle,
      book.recordedPayout? w = some (w.stake.resolve (book.paidOut w)) := by
    intro w hw
    obtain ⟨p, hp⟩ := h.paid w hw
    rw [hp, eq_of_recordedPayout? hp]
  obtain ⟨mark, hmark, hr⟩ := Option.map_eq_some_iff.1 h.recorded
  have hrecorded : r.payouts = (book.wagersOn mark.battle).filterMap book.recordedPayout? := hr ▸ rfl
  rw [hrecorded, battle_of_settlement? hmark, List.filterMap_congr hpaid]
  exact congrFun List.filterMap_eq_map' _

theorem Keeps.net_eq {r : Resolution} (h : book.Keeps r) (hlegal : book.WagersLegal)
    {p : Pool.Payout} (hp : p ∈ r.payouts) : book.netOf p.user r.battle = p.net := by
  rw [h.payouts_eq] at hp
  obtain ⟨w, hw, rfl⟩ := List.mem_map.1 hp
  exact netOf_of_some (find?_of_nodup_map (hlegal.nodup_users r.battle) hw)

end Book

/-- After a battle was settled, for the first time or again, it has moved on the balances of those who
wagered just what their payouts say. -/
theorem Operation.battleDelta_of_settle {ops : List (Operation R)}
    (hops : ∀ op ∈ ops, ¬op.EntersFor battle) {now : Moment} {r : Resolution}
    (h : (Operation.settle battle now).perform (Operation.run ops .empty) =
      .ok (.resolution r) later) :
    r.payouts.map (·.user) = (later.wagersOn battle).map (·.data.user) ∧
      (r.payouts.map (·.user)).Nodup ∧
      ∀ p ∈ r.payouts, later.battleDelta p.user battle = p.net := by
  have hlater : Operation.run (ops ++ [.settle battle now]) .empty = later := by
    rw [Operation.run_append, Operation.run_cons, Operation.run_nil, Operation.after_of_ok h]
  have hreachable : Reachable later := hlater ▸ Reachable.empty.run _
  have hbalances : ∀ user, later.Balances user battle :=
    hlater ▸ Operation.balances_run _ (List.forall_mem_append.2 ⟨hops, by simp [EntersFor]⟩)
  obtain ⟨rfl, hkeeps⟩ := keeps_of_settle (Reachable.empty.run ops).settlesInOrder
    (Operation.settle_eq_ok.1 h)
  have husers : r.payouts.map (·.user) = (later.wagersOn r.battle).map (·.data.user) := by
    have hmap := congrArg (List.map (·.user)) hkeeps.payouts_eq
    rwa [List.map_map] at hmap
  exact ⟨husers, husers ▸ hreachable.wagersLegal.nodup_users r.battle,
    fun p hp => (hbalances p.user).delta.trans (hkeeps.net_eq hreachable.wagersLegal hp)⟩

/-- **The books of a battle balance for every user**, after any operations none of which is a direct
credit or debit that names the battle; over all users they add up to what the pool holds. -/
theorem battle_books_balance (ops : List (Operation R)) (battle : Int)
    (hops : ∀ op ∈ ops, ¬op.EntersFor battle) (book : Book R)
    (hbook : Operation.run ops .empty = book) :
    (∀ user, (Operation.query (.battleDelta user battle)).perform book =
      .ok (.number (book.battleDelta user battle)) book) ∧
    (∀ user, book.wager? user battle = none → book.battleDelta user battle = 0) ∧
    (∀ user w, book.wager? user battle = some w → w.data.settledBy = none →
      book.battleDelta user battle = -w.data.stake) ∧
    (∀ now r later, (Operation.settle battle now).perform book = .ok (.resolution r) later →
      r.payouts.map (·.user) = (later.wagersOn battle).map (·.data.user) ∧
        (r.payouts.map (·.user)).Nodup ∧
        ∀ p ∈ r.payouts, later.battleDelta p.user battle = p.net) ∧
    (∀ mark, book.settlement? battle = some mark →
      (∃ r, ∀ now, (Operation.settle battle now).perform book = .ok (.resolution r) book) ∧
        sumOf (book.users.rows.map fun u => book.battleDelta u.id battle) = 0) ∧
    (book.settlement? battle = none →
      -sumOf (book.users.rows.map fun u => book.battleDelta u.id battle) =
        sumOf ((book.unsettledOn battle).map (·.data.stake))) := by
  subst hbook
  have hreachable : Reachable (Operation.run ops (.empty : Book R)) := Reachable.empty.run ops
  have hbalances := Operation.balances_run ops hops
  refine ⟨fun user => ?_, fun user hnone => ?_, fun user w hw hunsettled => ?_,
    fun now r later h => Operation.battleDelta_of_settle hops h, fun mark hmark => ⟨?_, ?_⟩,
    fun hmark => ?_⟩
  · simp only [Operation.perform, Session.atomically_eq_ok, Query.run, Session.map_eq_ok]
    exact ⟨_, Session.battleDelta_eq_ok (hbalances user).sums, rfl⟩
  · rw [(hbalances user).delta, Book.netOf_of_none hnone]
  · rw [(hbalances user).delta, Book.netOf_of_unsettled hw hunsettled]
  · have hrecorded : (Operation.run ops (.empty : Book R)).resolution? battle =
        some ((Operation.run ops .empty).recorded mark) := congrArg (Option.map _) hmark
    have hkeeps := hreachable.settlesInOrder.kept battle _ hrecorded
    obtain ⟨hbattle, -⟩ := Book.battle_of_resolution?_eq_some hrecorded
    exact ⟨_, fun now => Operation.settle_eq_ok.2 (hbattle ▸ hkeeps.settle_eq_ok now)⟩
  · simp only [(hbalances _).delta]
    exact hreachable.sumOf_netOf_settled hmark
  · simp only [(hbalances _).delta]
    rw [hreachable.sumOf_netOf_unsettled hmark, Int.neg_neg]

/-- The raised stake alone is missing from the winner's balance, the pool holds it with the other
one, and the settlement gives both to the winner. -/
theorem battle_books_balance_raisedStake :
    (∀ op ∈ raisedStake.take 12, ¬op.EntersFor 1) ∧
    ∃ book : Book Float, Operation.run (raisedStake.take 12) .empty = book ∧
      book.battleDelta 1 1 = -100 ∧
      -sumOf (book.users.rows.map fun u => book.battleDelta u.id 1) = 140 ∧
      ∃ r later, (Operation.settle 1 (.ofTicks 7)).perform book = .ok (.resolution r) later ∧
        r.payouts.map (·.net) = [40, -40] ∧
        r.payouts.map (fun p => later.battleDelta p.user 1) = [40, -40] := by
  have hops : ∀ op ∈ raisedStake.take 12, ¬op.EntersFor 1 := by
    simp [raisedStake, Operation.EntersFor]
  refine ⟨hops, _, rfl, ?_⟩
  obtain ⟨-, -, hunsettled, hsettle, -, hpool⟩ := battle_books_balance _ 1 hops _ rfl
  have hwager : ((Operation.run (raisedStake.take 12) .empty).wager? 1 1).map
      (fun w => (w.data.stake, w.data.settledBy)) = some (100, none) := by decide +kernel
  have hmark : (Operation.run (raisedStake.take 12) .empty).settlement? 1 = none := by decide +kernel
  have hstaked : sumOf (((Operation.run (raisedStake.take 12) .empty).unsettledOn 1).map
      (·.data.stake)) = 140 := by decide +kernel
  have hnets : (Session.settle 1 (.ofTicks 7)).yields (·.payouts.map (·.net) = [40, -40])
      (Operation.run (raisedStake.take 12) .empty) = true := by decide +kernel
  obtain ⟨w, hw, hterms⟩ := Option.map_eq_some_iff.1 hwager
  obtain ⟨hstake, hsettledBy⟩ := Prod.mk.injEq .. ▸ hterms
  obtain ⟨r, later, hrun, htest⟩ := Session.exists_of_yields hnets
  have hperform := Operation.settle_eq_ok.2 hrun
  have hnet : r.payouts.map (·.net) = [40, -40] := of_decide_eq_true htest
  refine ⟨hstake ▸ hunsettled 1 w hw hsettledBy, (hpool hmark).trans hstaked, r, later, hperform, hnet,
    ?_⟩
  rw [List.map_congr_left (hsettle _ r later hperform).2.2, hnet]

end RaceBook
