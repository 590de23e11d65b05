import RaceBook.Arithmetic.Double
import RaceBook.Proofs.Operations

/-!
# The ledger is a running account

* `Book.entriesOf` : a user's entries, in the order of their numbers;
* `Book.KeepsAccount` : every entry carries the sum of the amounts so far, which is never below zero,
  and the balance is the sum of all of them;
* `Book.KeepsAccount.post` : a movement that the ledger accepts keeps this for every user;
* `Book.BalancesStorable`, `Reachable.balancesStorable` : no balance is beyond what a row may hold;
* `Event.ledger_prefix_apply` : an event adds entries behind those that are there;
* `ledger_running` : both hold in every reachable book.
-/

namespace RaceBook

variable {R : Type} {book later : Book R} {user : Int}

namespace Book

def entriesOf (book : Book R) (user : Int) : List (Row Entry) :=
  book.ledger.rows.filter (·.data.user = user)

def sumOfEntries (entries : List (Row Entry)) : Int := sumOf (entries.map (·.data.amount))

/-- The entries of a user carry their running sums, none of them below zero, and the balance is the
last one. -/
structure KeepsAccount (book : Book R) (user : Int) : Prop where
  running : ∀ before entry, before ++ [entry] <+: book.entriesOf user →
    entry.data.balanceAfter = sumOfEntries (before ++ [entry]) ∧ 0 ≤ entry.data.balanceAfter
  balance : book.balanceOf user = sumOfEntries (book.entriesOf user)

theorem sumOfEntries_concat (before : List (Row Entry)) (entry : Row Entry) :
    sumOfEntries (before ++ [entry]) = sumOfEntries before + entry.data.amount := by
  simp [sumOfEntries]

namespace KeepsAccount

theorem congr (h : book.KeepsAccount user) (hbalance : later.balanceOf user = book.balanceOf user)
    (hentries : later.entriesOf user = book.entriesOf user) : later.KeepsAccount user := by
  refine ⟨?_, ?_⟩
  · rw [hentries]
    exact h.running
  · rw [hbalance, hentries]
    exact h.balance

theorem concat (h : book.KeepsAccount user) {entry : Row Entry}
    (hentries : later.entriesOf user = book.entriesOf user ++ [entry])
    (hafter : entry.data.balanceAfter = book.balanceOf user + entry.data.amount)
    (hnonneg : 0 ≤ entry.data.balanceAfter)
    (hbalance : later.balanceOf user = entry.data.balanceAfter) : later.KeepsAccount user := by
  have hsum : entry.data.balanceAfter = sumOfEntries (book.entriesOf user ++ [entry]) := by
    rw [sumOfEntries_concat, ← h.balance, hafter]
  refine ⟨fun before e hprefix => ?_, ?_⟩
  · rw [hentries, List.prefix_concat_iff] at hprefix
    rcases hprefix with heq | hprefix
    · obtain ⟨rfl, hlast⟩ := List.append_inj' heq rfl
      cases hlast
      exact ⟨hsum, hnonneg⟩
    · exact h.running before e hprefix
  · rw [hbalance, hentries, hsum]

/-- A balance is not below zero. -/
theorem balance_nonneg (h : book.KeepsAccount user) : 0 ≤ book.balanceOf user := by
  rcases List.eq_nil_or_concat (book.entriesOf user) with hnil | ⟨before, entry, hentries⟩
  · rw [h.balance, hnil]
    exact Int.le_refl 0
  · rw [List.concat_eq_append] at hentries
    obtain ⟨hafter, hnonneg⟩ := h.running before entry (hentries ▸ List.prefix_refl _)
    rw [h.balance, hentries, ← hafter]
    exact hnonneg

end KeepsAccount

/-! ## Movements -/

theorem balanceOf_post {m : Movement} (h : book.Accepts m) :
    (book.post m).balanceOf user =
      if user = m.user then book.balanceOf m.user + m.amount else book.balanceOf user := by
  obtain ⟨known, hknown⟩ := Option.isSome_iff_exists.1 h.known
  have hfound : (book.post m).users.find? user = (book.users.find? user).map fun r =>
      if user = m.user then
        ⟨r.id, { r.data with balance := book.balanceOf m.user + m.amount, updatedAt := m.now }⟩
      else r := Table.find?_modify
  rw [balanceOf, hfound]
  by_cases huser : user = m.user
  · subst huser
    rw [hknown]
    simp
  · simp [huser, balanceOf]

theorem entriesOf_post {m : Movement} :
    (book.post m).entriesOf user =
      book.entriesOf user ++ if m.user = user then [⟨book.ledger.nextId, book.entry m⟩] else [] := by
  change (book.ledger.append (book.entry m)).rows.filter _ = _
  rw [Table.rows_append, List.filter_append, List.filter_singleton]
  by_cases huser : m.user = user <;> simp [huser, entriesOf, entry]

/-- An accepted movement is entered with the balance that it leads to. -/
theorem KeepsAccount.post {m : Movement} (hbook : book.KeepsAccount user) (h : book.Accepts m) :
    (book.post m).KeepsAccount user := by
  by_cases huser : m.user = user
  · subst huser
    have hentries : (book.post m).entriesOf m.user =
        book.entriesOf m.user ++ [⟨book.ledger.nextId, book.entry m⟩] := by
      rw [entriesOf_post, if_pos rfl]
    refine hbook.concat hentries rfl h.nonneg ?_
    rw [balanceOf_post h, if_pos rfl]
    rfl
  · refine hbook.congr ?_ ?_
    · rw [balanceOf_post h, if_neg fun he => huser he.symm]
    · rw [entriesOf_post, if_neg huser, List.append_nil]

theorem KeepsAccount.of_same (h : book.KeepsAccount user) (husers : later.users = book.users)
    (hledger : later.ledger = book.ledger) : later.KeepsAccount user :=
  h.congr (by rw [balanceOf, balanceOf, husers]) (by rw [entriesOf, entriesOf, hledger])

theorem KeepsAccount.payAll {battle : Int} {kind : EntryKind} {now : Moment}
    {ps : List Pool.Payout} (h : book.KeepsAccount user) (hpays : Pays battle kind now book ps) :
    (book.payAll battle kind now ps).KeepsAccount user := by
  induction ps generalizing book with
  | nil => exact h
  | cons p rest ih =>
    obtain ⟨-, haccepts, hpays⟩ := hpays
    exact ih ((h.post haccepts).of_same rfl rfl) hpays

theorem balanceOf_enterUser {username : String} {now : Moment} :
    (book.enterUser username now).balanceOf user = book.balanceOf user := by
  rw [balanceOf, Book.enterUser, Table.find?_append]
  by_cases hnew : user = book.users.nextId
  · have hunknown : book.users.find? user = none := by
      rw [Option.eq_none_iff_forall_ne_some]
      exact fun row hrow => Table.ne_nextId_of_find? hrow hnew
    rw [if_pos hnew, balanceOf, hunknown]
    rfl
  · rw [if_neg hnew]
    rfl

theorem KeepsAccount.enterUser {username : String} {now : Moment} (h : book.KeepsAccount user) :
    (book.enterUser username now).KeepsAccount user := h.congr balanceOf_enterUser rfl

/-! ## Balances in range -/

def BalancesStorable (book : Book R) : Prop :=
  ∀ user, Session.isStorable (book.balanceOf user) = true

namespace BalancesStorable

theorem of_same (h : book.BalancesStorable) (husers : later.users = book.users) :
    later.BalancesStorable := by
  intro user
  rw [balanceOf, husers]
  exact h user

theorem post {m : Movement} (hbook : book.BalancesStorable) (h : book.Accepts m) :
    (book.post m).BalancesStorable := by
  intro user
  rw [balanceOf_post h]
  split
  · exact h.storable.2
  · exact hbook user

theorem payAll {battle : Int} {kind : EntryKind} {now : Moment} {ps : List Pool.Payout}
    (h : book.BalancesStorable) (hpays : Pays battle kind now book ps) :
    (book.payAll battle kind now ps).BalancesStorable := by
  induction ps generalizing book with
  | nil => exact h
  | cons p rest ih =>
    obtain ⟨-, haccepts, hpays⟩ := hpays
    exact ih ((h.post haccepts).of_same rfl) hpays

end BalancesStorable

/-! ## Entries stay in their places -/

theorem ledger_prefix_post {m : Movement} : book.ledger.rows <+: (book.post m).ledger.rows :=
  List.prefix_append _ _

theorem ledger_prefix_payAll {battle : Int} {kind : EntryKind} {now : Moment}
    {ps : List Pool.Payout} :
    book.ledger.rows <+: (book.payAll battle kind now ps).ledger.rows := by
  induction ps generalizing book with
  | nil => exact List.prefix_refl _
  | cons p rest ih =>
    have hfirst : book.ledger.rows <+: (book.pay battle kind now p).ledger.rows := ledger_prefix_post
    exact hfirst.trans ih

end Book

section

variable [Arithmetic R]

theorem Event.ledger_prefix_apply (e : Event R) (book : Book R) :
    book.ledger.rows <+: (e.apply book).ledger.rows := by
  by_cases hrating : e.IsRating
  · exact (sameRaces_apply hrating book).ledger ▸ List.prefix_refl _
  cases e with
  | posted m => exact Book.ledger_prefix_post
  | wagerPlaced w => exact Book.ledger_prefix_post
  | wagerReplaced known team stake now =>
    exact Book.ledger_prefix_post.trans Book.ledger_prefix_post
  | battleSettled found split now => exact Book.ledger_prefix_payAll
  | periodOpened | periodMarked | periodClosed | snapshotTaken | cacheRefreshed =>
    exact absurd trivial hrating
  | _ => exact List.prefix_refl _

/-- Every event keeps every user's account. -/
theorem Event.keepsAccount_apply {e : Event R} (h : e.Enabled book)
    (hbook : book.KeepsAccount user) : (e.apply book).KeepsAccount user := by
  cases e with
  | posted m => exact hbook.post h
  | userEntered username now => exact hbook.enterUser
  | wagerPlaced w =>
    obtain ⟨-, -, -, -, haccepts⟩ := h
    exact (hbook.post haccepts).of_same rfl rfl
  | wagerReplaced known team stake now =>
    obtain ⟨-, -, -, -, hreturns, htakes⟩ := h
    exact ((hbook.post hreturns).post htakes).of_same rfl rfl
  | battleSettled found split now => exact (hbook.payAll h.pays).of_same rfl rfl
  | periodOpened | periodMarked | periodClosed | snapshotTaken | cacheRefreshed =>
    exact hbook.of_same (sameRaces_apply (by trivial) book).users
      (sameRaces_apply (by trivial) book).ledger
  | _ => exact hbook.of_same rfl rfl

theorem Reachable.keepsAccount (h : Reachable book) (user : Int) : book.KeepsAccount user := by
  refine h.induct ⟨fun before entry hprefix => ?_, rfl⟩ fun _ _ hbook he =>
    Event.keepsAccount_apply he hbook
  exact absurd (List.prefix_nil.1 hprefix) (List.append_ne_nil_of_right_ne_nil _ (by simp))

theorem Event.balancesStorable_apply {e : Event R} (h : e.Enabled book)
    (hbook : book.BalancesStorable) : (e.apply book).BalancesStorable := by
  cases e with
  | posted m => exact hbook.post h
  | userEntered username now =>
    intro user
    change Session.isStorable ((book.enterUser username now).balanceOf user) = true
    rw [Book.balanceOf_enterUser]
    exact hbook user
  | wagerPlaced w =>
    obtain ⟨-, -, -, -, haccepts⟩ := h
    exact (hbook.post haccepts).of_same rfl
  | wagerReplaced known team stake now =>
    obtain ⟨-, -, -, -, hreturns, htakes⟩ := h
    exact ((hbook.post hreturns).post htakes).of_same rfl
  | battleSettled found split now => exact (hbook.payAll h.pays).of_same rfl
  | periodOpened | periodMarked | periodClosed | snapshotTaken | cacheRefreshed =>
    exact hbook.of_same (sameRaces_apply (by trivial) book).users
  | _ => exact hbook.of_same rfl

theorem Reachable.balancesStorable (h : Reachable book) : book.BalancesStorable :=
  h.induct (fun _ => rfl) fun _ _ hbook he => Event.balancesStorable_apply he hbook

/-- Operations, refused or not, add entries behind those that are there. -/
theorem Operation.ledger_prefix_after (op : Operation R) (book : Book R) :
    book.ledger.rows <+: (op.after book).ledger.rows :=
  (op.steps_after book).invariant (P := fun later => book.ledger.rows <+: later.ledger.rows)
    (fun mid e _ hmid _ => hmid.trans (e.ledger_prefix_apply mid)) (List.prefix_refl _)

/-- **The ledger is a running account**: in every reachable book, of each user's entries in the order
of their numbers every one carries the sum of the amounts up to it, which is not below zero, and the
user's balance is the sum of all of them; and no operation changes or removes an entry. -/
theorem ledger_running (book : Book R) (h : Reachable book) :
    (∀ user, (book.entriesOf user).Pairwise (·.id < ·.id) ∧
      ∀ before entry, before ++ [entry] <+: book.entriesOf user →
        entry.data.balanceAfter = Book.sumOfEntries (before ++ [entry]) ∧
          0 ≤ entry.data.balanceAfter) ∧
    (∀ user ∈ book.users.rows, user.data.balance = Book.sumOfEntries (book.entriesOf user.id)) ∧
    ∀ op : Operation R, book.ledger.rows <+: (op.after book).ledger.rows := by
  refine ⟨fun user => ⟨book.ledger.pairwise_ids.filter _, (h.keepsAccount user).running⟩,
    fun user huser => ?_, fun op => op.ledger_prefix_after book⟩
  rw [← (h.keepsAccount user.id).balance, Book.balanceOf, Table.find?_of_mem huser]
  rfl

/-- Two users, of whom one wagers, raises the stake and wins against the other. -/
def raisedStake : List (Operation Float) :=
  let key (c : Char) := String.ofList (List.replicate 64 c)
  [.command (.register (key 'a') "Ann" ⟨1500.0, 350.0, 0.06⟩),
    .command (.register (key 'b') "Bob" ⟨1500.0, 350.0, 0.06⟩),
    .command (.createUser "carl" 100 (.ofTicks 1)),
    .command (.createUser "dora" 40 (.ofTicks 1)),
    .command (.createBattle "loop" (.ofTicks 5) (.ofTicks 2)),
    .command (.addParticipant 1 1 0),
    .command (.addParticipant 1 2 1),
    .command (.placeWager 1 1 0 30 3.0 (.ofTicks 3)),
    .command (.placeWager 2 1 1 40 3.0 (.ofTicks 3)),
    .command (.placeWager 1 1 0 100 3.0 (.ofTicks 4)),
    .command (.reportResult 1 1 ⟨some 700, false⟩),
    .command (.concludeBattle 1 (.ofTicks 6) false),
    .settle 1 (.ofTicks 7)]

/-- The stake, its return, the greater stake and the payout are all in the winner's account. -/
theorem ledger_running_raisedStake :
    Reachable (Operation.run raisedStake .empty) ∧
      ((Operation.run raisedStake .empty).entriesOf 1).map (·.data.amount) =
        [100, -30, 30, -100, 140] ∧
      ((Operation.run raisedStake .empty).entriesOf 1).map (·.data.balanceAfter) =
        [100, 70, 100, 0, 140] ∧
      ∃ user ∈ (Operation.run raisedStake .empty).users.rows, user.id = 1 ∧
        user.data.balance = 140 := by
  have hreachable : Reachable (Operation.run raisedStake .empty) := Reachable.empty.run _
  have hentries : ((Operation.run raisedStake .empty).entriesOf 1).map
      (fun e => (e.data.amount, e.data.balanceAfter)) =
        [(100, 100), (-30, 70), (30, 100), (-100, 0), (140, 140)] := by decide +kernel
  have hamounts := congrArg (List.map Prod.fst) hentries
  have hafter := congrArg (List.map Prod.snd) hentries
  rw [List.map_map] at hamounts hafter
  have hisUser : ((Operation.run raisedStake .empty).users.find? 1).isSome = true := by
    decide +kernel
  obtain ⟨user, huser⟩ := Option.isSome_iff_exists.1 hisUser
  have hbalance := (ledger_running _ hreachable).2.1 user (Table.mem_of_find? huser)
  refine ⟨hreachable, hamounts, hafter, user, Table.mem_of_find? huser, Table.id_of_find? huser, ?_⟩
  rw [hbalance, Table.id_of_find? huser, Book.sumOfEntries]
  exact congrArg sumOf hamounts

end

end RaceBook
