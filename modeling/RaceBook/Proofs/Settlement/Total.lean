import RaceBook.Proofs.Settlement.Audit
import RaceBook.Proofs.Settlement.Effect
import RaceBook.Proofs.Store.References
import RaceBook.Proofs.Store.Refusals

/-!
# A battle that ended can be settled

* `Book.Payable` : payouts to different known users, none of them below zero;
* `Book.Bears`, `Book.Payable.pays_iff` : the ledger accepts them as long as no balance leaves the
  range of what a row may hold;
* `Fault.IsRange`, `Session.spares_settleFirst` : there is no other cause to refuse them;
* `Reachable.payable` : the payouts of a split in a reachable book are such payouts;
* `Reachable.settle_of_bears`, `Reachable.settle_refused` : so an ended battle is settled, and the
  causes for which it is not;
* `settle_total` : when a request to settle is refused, and what it does when it is not.
-/

namespace RaceBook

variable {R : Type} {book later : Book R}

namespace Book

variable {battle : Int} {kind : EntryKind} {now : Moment} {p : Pool.Payout} {ps : List Pool.Payout}

/-! ## What the ledger accepts -/

/-- Payouts for a battle to different users who exist, none of them below zero. -/
structure Payable (book : Book R) (battle : Int) (ps : List Pool.Payout) : Prop where
  isBattle : (book.battles.find? battle).isSome = true
  known : ∀ p ∈ ps, (book.users.find? p.user).isSome = true
  once : (ps.map (·.user)).Nodup
  paid : ∀ p ∈ ps, 0 ≤ p.paid
  balances : ∀ p ∈ ps, 0 ≤ book.balanceOf p.user

/-- No payout takes a balance beyond what a row may hold. -/
def Bears (book : Book R) (ps : List Pool.Payout) : Prop :=
  ∀ p ∈ ps, Session.isStorable (book.balanceOf p.user + p.paid) = true

instance : Decidable (book.Bears ps) :=
  inferInstanceAs (Decidable (∀ p ∈ ps, Session.isStorable (book.balanceOf p.user + p.paid) = true))

theorem bears_cons :
    book.Bears (p :: ps) ↔
      Session.isStorable (book.balanceOf p.user + p.paid) = true ∧ book.Bears ps :=
  List.forall_mem_cons

namespace Payable

theorem ne_user (h : book.Payable battle (p :: ps)) {q : Pool.Payout} (hq : q ∈ ps) :
    q.user ≠ p.user :=
  fun he => (List.nodup_cons.1 h.once).1 (List.mem_map.2 ⟨q, hq, he⟩)

theorem rest (h : book.Payable battle (p :: ps)) :
    (book.pay battle kind now p).Payable battle ps where
  isBattle := h.isBattle
  known q hq := isUser_post.trans (h.known q (List.mem_cons_of_mem p hq))
  once := (List.nodup_cons.1 h.once).2
  paid q hq := h.paid q (List.mem_cons_of_mem p hq)
  balances q hq := by
    rw [balanceOf_pay_of_ne (h.ne_user hq)]
    exact h.balances q (List.mem_cons_of_mem p hq)

theorem accepts_iff (h : book.Payable battle (p :: ps)) :
    book.Accepts (p.movement battle kind now) ↔
      Session.isStorable (book.balanceOf p.user + p.paid) = true := by
  have hpaid := h.paid p List.mem_cons_self
  have hbalance := h.balances p List.mem_cons_self
  constructor
  · exact fun haccepts => haccepts.storable.2
  · intro hafter
    have hamount : Session.isStorable p.paid = true := by
      simp only [Session.isStorable, decide_eq_true_eq] at hafter ⊢
      omega
    refine ⟨h.known p List.mem_cons_self, Int.add_nonneg hbalance hpaid, ⟨hamount, hafter⟩, ?_⟩
    rintro _ ⟨⟩
    exact h.isBattle

theorem pays_iff (h : book.Payable battle ps) :
    Pays battle kind now book ps ↔ book.Bears ps := by
  induction ps generalizing book with
  | nil => simp [Pays, Bears]
  | cons p rest ih =>
    have hbears : (book.pay battle kind now p).Bears rest ↔ book.Bears rest :=
      forall₂_congr fun q hq => by rw [balanceOf_pay_of_ne (h.ne_user hq)]
    rw [Pays, h.accepts_iff, ih h.rest, hbears, and_iff_right (h.paid p List.mem_cons_self),
      bears_cons]

end Payable

end Book

/-! ## Refusals -/

def Fault.IsRange : Fault R → Prop
  | .outOfRange n => Session.isStorable n = false
  | _ => False

namespace Session

variable {battle : Int} {kind : EntryKind} {now : Moment} {p : Pool.Payout} {ps : List Pool.Payout}

/-- Nothing but a number out of range stands in the way of a movement that does not lead below
zero. -/
theorem spares_post_of_covered {userId amount : Int} (hknown : (book.users.find? userId).isSome = true)
    (hafter : 0 ≤ book.balanceOf userId + amount)
    (hbattle : (book.battles.find? battle).isSome = true) :
    Spares (¬ ·.IsRange) (post userId amount kind (some battle) now) book := by
  obtain ⟨u, hu⟩ := Option.isSome_iff_exists.1 hknown
  obtain ⟨b, hb⟩ := Option.isSome_iff_exists.1 hbattle
  have hafter : 0 ≤ u.data.balance + amount := by
    rw [Book.balanceOf, hu] at hafter
    exact hafter
  simp [post, checkRange, user, checkReference, Fault.IsRange, hu, hb, hafter]

theorem spares_pay (h : book.Payable battle (p :: ps)) :
    Spares (¬ ·.IsRange) (pay battle kind now p) book := by
  have hpaid := h.paid p List.mem_cons_self
  have hpost : Spares (¬ ·.IsRange) (post p.user p.paid kind (some battle) now) book :=
    spares_post_of_covered (h.known p List.mem_cons_self)
      (Int.add_nonneg (h.balances p List.mem_cons_self) hpaid) h.isBattle
  simp [pay, credit, hpost, hpaid]

theorem spares_forM_pay (h : book.Payable battle ps) :
    Spares (¬ ·.IsRange) (ps.forM (pay battle kind now)) book := by
  induction ps generalizing book with
  | nil => exact spares_pure
  | cons p rest ih =>
    rw [List.forM_eq_forM, List.forM_cons, spares_bind]
    refine ⟨spares_pay h, fun _ mid hpay => ?_⟩
    obtain ⟨-, -, rfl⟩ := pay_eq_ok.1 hpay
    exact ih h.rest

theorem spares_settleFirst {found : Row Battle} {split : Pool.Split}
    (hsplit : Pool.split (book.victorOf found) ((book.unsettledOn found.id).map (·.stake)) =
      .ok split) (h : book.Payable found.id split.payouts) :
    Spares (¬ ·.IsRange) (settleFirst found now) book := by
  have hpool : splitPool (book.victorOf found) ((book.unsettledOn found.id).map (·.stake)) book =
      .ok split book := splitPool_eq_ok.2 ⟨hsplit, rfl⟩
  simp only [settleFirst, spares_bind, spares_read, spares_modify, spares_pure, read_eq_ok,
    true_and, implies_true, and_true, and_imp]
  rintro _ _ rfl rfl _ _ rfl rfl
  constructor
  · intro fault later hrun
    cases hpool.symm.trans hrun
  · intro split' mid hrun
    cases hpool.symm.trans hrun
    exact spares_forM_pay h

/-! ## What a request to settle comes to -/

theorem settle_of_unknown (h : book.battles.find? battle = none) :
    settle battle now book = .error (.notFound (.battle battle)) book := by
  have hfound : Session.battle battle book = .error (.notFound (.battle battle)) book := by
    change demand (book.battles.find? battle) _ book = _
    rw [h]
    rfl
  simp only [settle, bind, EStateM.bind, hfound]

theorem settle_of_ongoing {found : Row Battle} (hfound : book.battles.find? battle = some found)
    (hongoing : found.data.status.isTerminal = false) :
    settle battle now book = .error (.notConcluded battle) book := by
  have hbattle : Session.battle battle book = .ok found book := battle_eq_ok.2 ⟨hfound, rfl⟩
  simp only [settle, bind, EStateM.bind, hbattle, hongoing]
  rfl

theorem settle_of_unmarked {found : Row Battle} (hfound : book.battles.find? found.id = some found)
    (hended : found.data.status.isTerminal = true) (hunmarked : book.settlement? found.id = none) :
    settle found.id now book = settleFirst found now book := by
  have hbattle : Session.battle found.id book = .ok found book := battle_eq_ok.2 ⟨hfound, rfl⟩
  simp only [settle, bind, EStateM.bind, hbattle, check_of hended, read_apply,
    Book.resolution?_eq_none.2 hunmarked]

end Session

/-! ## Reachable books -/

variable [Arithmetic R]

theorem Reachable.payable (h : Reachable book) {found : Row Battle} {split : Pool.Split}
    {victor : Option Team} (hfound : book.battles.find? found.id = some found)
    (hsplit : Pool.split victor ((book.wagersOn found.id).map (·.stake)) = .ok split) :
    book.Payable found.id split.payouts := by
  have hlegal := h.wagersLegal
  have horigins := Pool.map_origin_payouts hsplit
  have hwager : ∀ p ∈ split.payouts, ∃ w ∈ book.wagersOn found.id, w.stake = p.origin := by
    intro p hp
    have hmem : p.origin ∈ (book.wagersOn found.id).map (·.stake) :=
      horigins ▸ List.mem_map_of_mem hp
    exact List.mem_map.1 hmem
  refine ⟨Option.isSome_of_eq_some hfound, fun p hp => ?_, ?_, ?_,
    fun p _ => (h.keepsAccount p.user).balance_nonneg⟩
  · obtain ⟨w, hw, hstake⟩ := hwager p hp
    have huser : w.data.user = p.user := congrArg (·.user) hstake
    exact huser ▸ h.refersToKnown.wagering w (List.mem_of_mem_filter hw)
  · have husers : split.payouts.map (·.user) = (book.wagersOn found.id).map (·.data.user) := by
      have hmap := congrArg (List.map (·.user)) horigins
      rwa [List.map_map, List.map_map] at hmap
    exact husers ▸ hlegal.nodup_users found.id
  · refine Pool.paid_nonneg hsplit (book.nodup_wager_stakes found.id) fun s hs => ?_
    obtain ⟨w, hw, rfl⟩ := List.mem_map.1 hs
    exact hlegal.positive w (List.mem_of_mem_filter hw)

/-- The wagers on a battle of a reachable book can be split. -/
theorem Reachable.exists_split (h : Reachable book) (found : Row Battle) :
    ∃ split, Pool.split (book.victorOf found) ((book.wagersOn found.id).map (·.stake)) =
      .ok split := by
  apply Pool.exists_split
  intro s hs
  obtain ⟨w, hw, rfl⟩ := List.mem_map.1 hs
  exact h.wagersLegal.positive w (List.mem_of_mem_filter hw)

section Unmarked

variable {found : Row Battle} {split : Pool.Split}
  (hfound : book.battles.find? found.id = some found)
  (hended : found.data.status.isTerminal = true) (hunmarked : book.settlement? found.id = none)
  (hsplit : Pool.split (book.victorOf found) ((book.wagersOn found.id).map (·.stake)) = .ok split)

include hfound hended hunmarked hsplit

/-- A battle that ended and has no mark is resolved by the split of its wagers, and they are paid
out, as long as no balance leaves the range of what a row may hold. -/
theorem Reachable.settle_of_bears (h : Reachable book) (now : Moment)
    (hbears : book.Bears split.payouts) :
    Session.settle found.id now book =
        .ok ⟨found.id, book.victorOf found, split.payouts, false⟩ (book.settled found split now) ∧
      book.PaysOut (book.settled found split now) found split now := by
  have hall := h.settlesInOrder.unsettledOn_eq hunmarked
  have hpayable := h.payable hfound hsplit
  have hsettles : book.Settles found split now :=
    ⟨hfound, hended, hunmarked, hall ▸ hsplit, hpayable.pays_iff.2 hbears⟩
  exact ⟨Session.settle_eq_ok.2 (.inl ⟨found, rfl, split, hsettles, rfl, rfl⟩),
    hsettles.paysOut hall hpayable.once⟩

theorem Reachable.settle_of_not_bears (h : Reachable book) (now : Moment)
    (hbears : ¬book.Bears split.payouts) :
    ∃ n mid, Session.isStorable n = false ∧
      Session.settle found.id now book = .error (.outOfRange n) mid := by
  have hall := h.settlesInOrder.unsettledOn_eq hunmarked
  have hpayable := h.payable hfound hsplit
  rw [Session.settle_of_unmarked hfound hended hunmarked]
  cases hrun : Session.settleFirst found now book with
  | ok r later =>
    obtain ⟨split', hsplit', hpays, -⟩ := Session.settleFirst_eq_ok.1 hrun
    rw [hall, hsplit, Except.ok.injEq] at hsplit'
    subst hsplit'
    exact absurd (hpayable.pays_iff.1 hpays) hbears
  | error fault mid =>
    have hrange := Session.spares_settleFirst (hall ▸ hsplit) hpayable fault mid hrun
    cases fault with
    | outOfRange n => exact ⟨n, mid, not_not.1 hrange, rfl⟩
    | _ => exact absurd id hrange

end Unmarked

/-- The causes for which a request to settle a battle is refused in a reachable book. -/
theorem Reachable.settle_refused (h : Reachable book) {battle : Int} {now : Moment}
    {fault : Fault R} (hrun : Session.settle battle now book = .error fault later) :
    (fault = .notFound (.battle battle) ∧ book.battles.find? battle = none) ∨
    ∃ found, book.battles.find? battle = some found ∧
      ((fault = .notConcluded battle ∧ found.data.status = .ongoing) ∨
      ∃ n split, fault = .outOfRange n ∧ Session.isStorable n = false ∧
        found.data.status.isTerminal = true ∧ book.settlement? battle = none ∧
        Pool.split (book.victorOf found) ((book.wagersOn battle).map (·.stake)) = .ok split ∧
        ¬book.Bears split.payouts) := by
  cases hfound : book.battles.find? battle with
  | none =>
    cases hrun.symm.trans (Session.settle_of_unknown hfound)
    exact .inl ⟨rfl, rfl⟩
  | some found =>
    obtain rfl := Table.id_of_find? hfound
    refine .inr ⟨found, rfl, ?_⟩
    cases hended : found.data.status.isTerminal with
    | false =>
      cases hrun.symm.trans (Session.settle_of_ongoing hfound hended)
      refine .inl ⟨rfl, ?_⟩
      revert hended
      cases found.data.status <;> decide
    | true =>
      cases hmark : book.settlement? found.id with
      | some mark =>
        have hrecorded : book.resolution? found.id = some (book.recorded mark) := by
          rw [Book.resolution?, hmark, Option.map_some]
        have hrepeated : Session.settle found.id now book = .ok (book.recorded mark) book :=
          Session.settle_eq_ok.2 (.inr ⟨found, hfound, hended, hrecorded, rfl⟩)
        cases hrepeated.symm.trans hrun
      | none =>
        obtain ⟨split, hsplit⟩ := h.exists_split found
        have hbears : ¬book.Bears split.payouts := by
          intro hbears
          cases (h.settle_of_bears hfound hended hmark hsplit now hbears).1.symm.trans hrun
        obtain ⟨n, mid, hn, hfault⟩ :=
          h.settle_of_not_bears hfound hended hmark hsplit now hbears
        cases hrun.symm.trans hfault
        exact .inr ⟨n, split, rfl, hn, rfl, rfl, hsplit, hbears⟩

theorem Operation.settle_eq_error {battle : Int} {now : Moment} {fault : Fault R} :
    (Operation.settle battle now).perform book = .error fault later ↔
      (∃ mid, Session.settle battle now book = .error fault mid) ∧ book = later := by
  rw [← Session.atomically_eq_error]
  simp only [Operation.perform, Functor.map, EStateM.map]
  cases Session.atomically (Session.settle battle now) book <;> simp

/-- **A battle that ended can be settled**: a request is refused only for a battle that does not
exist or is ongoing, or for a balance beyond what a row may hold. -/
theorem settle_total (book : Book R) (h : Reachable book) (battle : Int) (now : Moment) :
    ((∃ later, (Operation.settle battle now).perform book =
        .error (.notFound (.battle battle)) later) ↔ book.battles.find? battle = none) ∧
    ((∃ later, (Operation.settle battle now).perform book = .error (.notConcluded battle) later) ↔
      ∃ found, book.battles.find? battle = some found ∧ found.data.status = .ongoing) ∧
    (∀ fault later, (Operation.settle battle now).perform book = .error fault later →
      later = book ∧ (fault = .notFound (.battle battle) ∨ fault = .notConcluded battle ∨
        ∃ n found split, fault = .outOfRange n ∧ Session.isStorable n = false ∧
          book.battles.find? battle = some found ∧ found.data.status.isTerminal = true ∧
          book.settlement? battle = none ∧
          Pool.split (book.victorOf found) ((book.wagersOn battle).map (·.stake)) = .ok split ∧
          ¬book.Bears split.payouts)) ∧
    ∀ found, book.battles.find? battle = some found → found.data.status.isTerminal = true →
      book.settlement? battle = none → ∃ split,
        Pool.split (book.victorOf found) ((book.wagersOn battle).map (·.stake)) = .ok split ∧
        (book.Bears split.payouts → ∃ later, (Operation.settle battle now).perform book =
            .ok (.resolution ⟨battle, book.victorOf found, split.payouts, false⟩) later ∧
          book.PaysOut later found split now) := by
  refine ⟨⟨?_, fun hnone => ?_⟩, ⟨?_, ?_⟩, ?_, ?_⟩
  · rintro ⟨later, hrun⟩
    obtain ⟨⟨mid, hsettle⟩, -⟩ := Operation.settle_eq_error.1 hrun
    rcases h.settle_refused hsettle with ⟨-, hnone⟩ | ⟨_, -, ⟨⟨⟩, -⟩ | ⟨_, _, ⟨⟩, -⟩⟩
    exact hnone
  · exact ⟨book, Operation.settle_eq_error.2 ⟨⟨book, Session.settle_of_unknown hnone⟩, rfl⟩⟩
  · rintro ⟨later, hrun⟩
    obtain ⟨⟨mid, hsettle⟩, -⟩ := Operation.settle_eq_error.1 hrun
    rcases h.settle_refused hsettle with ⟨⟨⟩, -⟩ | ⟨found, hfound, ⟨-, hongoing⟩ | ⟨_, _, ⟨⟩, -⟩⟩
    exact ⟨found, hfound, hongoing⟩
  · rintro ⟨found, hfound, hongoing⟩
    have hended : found.data.status.isTerminal = false := by rw [hongoing]; rfl
    exact ⟨book, Operation.settle_eq_error.2 ⟨⟨book, Session.settle_of_ongoing hfound hended⟩, rfl⟩⟩
  · intro fault later hrun
    obtain ⟨⟨mid, hsettle⟩, rfl⟩ := Operation.settle_eq_error.1 hrun
    refine ⟨rfl, ?_⟩
    rcases h.settle_refused hsettle with ⟨rfl, -⟩ |
      ⟨found, hfound, ⟨rfl, -⟩ | ⟨n, split, rfl, hn, hended, hunmarked, hsplit, hbears⟩⟩
    · exact .inl rfl
    · exact .inr (.inl rfl)
    · exact .inr (.inr ⟨n, found, split, rfl, hn, hfound, hended, hunmarked, hsplit, hbears⟩)
  · intro found hfound hended hunmarked
    obtain rfl := Table.id_of_find? hfound
    obtain ⟨split, hsplit⟩ := h.exists_split found
    refine ⟨split, hsplit, fun hbears => ?_⟩
    obtain ⟨hsettle, hpaid⟩ := h.settle_of_bears hfound hended hunmarked hsplit now hbears
    exact ⟨_, Operation.settle_eq_ok.2 hsettle, hpaid⟩

def derbyBook : Book Float := Operation.run derby .empty

def endedDerby : Row Battle :=
  ⟨1, ⟨"loop", .concluded, .ofTicks 2, .ofTicks 5, some (.ofTicks 6)⟩⟩

def derbySplit : Pool.Split := ⟨[⟨1, 1, .red, 30, 80⟩, ⟨2, 2, .blue, 50, 0⟩], false⟩

theorem derbyBook_unsettled :
    derbyBook.battles.find? 1 = some endedDerby ∧ derbyBook.settlement? 1 = none ∧
    derbyBook.victorOf endedDerby = some .red ∧
    Pool.split (some .red) ((derbyBook.wagersOn 1).map (·.stake)) = .ok derbySplit ∧
    derbyBook.Bears derbySplit.payouts := by decide +kernel

/-- There is no second battle to settle; the first one is, and the winner of the derby is paid. -/
theorem settle_total_derbyBook :
    Reachable derbyBook ∧
    (∃ later, (Operation.settle 2 (.ofTicks 7)).perform derbyBook =
      .error (.notFound (.battle 2)) later) ∧
    ∃ later, (Operation.settle 1 (.ofTicks 7)).perform derbyBook =
        .ok (.resolution ⟨1, some .red, derbySplit.payouts, false⟩) later ∧
      derbyBook.PaysOut later endedDerby derbySplit (.ofTicks 7) := by
  have hreachable : Reachable derbyBook := Reachable.empty.run derby
  have hnone : derbyBook.battles.find? 2 = none := by decide +kernel
  obtain ⟨hfound, hunmarked, hvictor, hsplit, hbears⟩ := derbyBook_unsettled
  obtain ⟨split, hsplit', hsettle⟩ :=
    (settle_total derbyBook hreachable 1 (.ofTicks 7)).2.2.2 endedDerby hfound rfl hunmarked
  rw [hvictor] at hsplit' hsettle
  cases hsplit.symm.trans hsplit'
  exact ⟨hreachable, (settle_total derbyBook hreachable 2 (.ofTicks 7)).1.2 hnone, hsettle hbears⟩

end RaceBook
