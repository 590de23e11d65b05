import RaceBook.Proofs.Settlement.Records

/-!
# Settling battles one after the other

* `Book.answer`, `Book.answers` : what comes of the battles of a list, told by the book before;
* `Book.Clears` : a book in which the pending battles of a list were settled, and nothing else
  happened (`Clears.repeated`, `Clears.concat` : after one more number);
* `Book.BearsAll` : settling the battles of a list takes no balance beyond what a row may hold;
* `Clears.advances` : then the next battle of the list is answered in this way and cleared, by what
  it is (`advances_of_unknown`, `advances_of_ongoing`, `advances_of_marked`,
  `advances_of_unmarked`);
* `Clears.settleEach_eq` : and so are all of them.
-/

namespace RaceBook

variable {R : Type} {book mid later : Book R} {ids before : List Int} {found : Row Battle}
  {id : Int} {now : Moment}

namespace Book

/-- What comes of a battle when those before it on a list were taken. -/
def answer (book : Book R) (before : List Int) (id : Int) : BatchItem :=
  match book.battles.find? id with
  | none => .notFound id (.battle id)
  | some found =>
    if found.data.status.isTerminal then
      .resolved ⟨id, book.victorOf found, book.payoutsOn found,
        (book.settlement? id).isSome || before.contains id⟩
    else .notConcluded id

def answers (book : Book R) : List Int → List Int → List BatchItem
  | _, [] => []
  | before, id :: rest => book.answer before id :: book.answers (before ++ [id]) rest

end Book

/-! ## Books in which battles were settled -/

namespace Book

/-- The pending battles of a list were settled: each has its mark, and every user has that much more
as they pay to them. Nothing else happened. -/
structure Clears (book later : Book R) (ids : List Int) (now : Moment) : Prop where
  settled : ∀ found ∈ book.pendingIn ids,
    later.settlement? found.id = some ⟨found.id, book.victorOf found, now⟩
  others : ∀ battle, (∀ found ∈ book.pendingIn ids, found.id ≠ battle) →
    later.settlement? battle = book.settlement? battle
  balances : ∀ user, later.balanceOf user = book.balanceOf user + book.dueTo ids user
  terms : later.wagers.rows.map Row.terms = book.wagers.rows.map Row.terms
  players : later.players = book.players
  battles : later.battles = book.battles
  participants : later.participants = book.participants
  periods : later.periods = book.periods
  snapshots : later.snapshots = book.snapshots

namespace Clears

theorem refl (book : Book R) (now : Moment) : book.Clears book [] now := by
  have hnone : book.pendingIn [] = [] := List.filter_eq_nil_iff.2 fun b _ => by simp
  refine ⟨fun b hb => ?_, fun _ _ => rfl, fun user => ?_, rfl, rfl, rfl, rfl, rfl, rfl⟩
  · rw [hnone] at hb
    cases hb
  · rw [dueTo, hnone]
    exact (Int.add_zero _).symm

theorem victorOf (h : book.Clears later ids now) (found : Row Battle) :
    later.victorOf found = book.victorOf found := by
  rw [Book.victorOf, Book.victorOf, participantsOf, participantsOf, h.participants]

theorem payoutsOn (h : book.Clears later ids now) (found : Row Battle) :
    later.payoutsOn found = book.payoutsOn found := by
  rw [Book.payoutsOn, Book.payoutsOn, h.victorOf, map_stake_wagersOn, map_stake_wagersOn, h.terms]

theorem isSome_settlement? (h : book.Clears later ids now) (hmem : found ∈ book.battles.rows)
    (hended : found.data.status.isTerminal = true) :
    (later.settlement? found.id).isSome =
      ((book.settlement? found.id).isSome || ids.contains found.id) := by
  by_cases hin : ∃ b ∈ book.pendingIn ids, b.id = found.id
  · obtain ⟨b, hb, hid⟩ := hin
    have hlisted : ids.contains found.id = true :=
      List.contains_iff_mem.2 (hid ▸ (mem_pendingIn.1 hb).2.2)
    rw [← hid, h.settled b hb, hid, hlisted, Bool.or_true]
    rfl
  · have hothers : ∀ b ∈ book.pendingIn ids, b.id ≠ found.id := fun b hb hid => hin ⟨b, hb, hid⟩
    rw [h.others found.id hothers]
    cases hmark : book.settlement? found.id with
    | some mark => rfl
    | none =>
      have hnot : ids.contains found.id = false := by
        rw [Bool.eq_false_iff, Ne, List.contains_iff_mem]
        exact fun hlisted => hothers found
          (mem_pendingIn.2 ⟨hmem, isPending_iff.2 ⟨hended, hmark⟩, hlisted⟩) rfl
      rw [hnot]
      rfl

theorem repeated (h : book.Clears mid before now)
    (hsame : book.pendingIn (before ++ [id]) = book.pendingIn before) :
    book.Clears mid (before ++ [id]) now := by
  refine ⟨hsame ▸ h.settled, hsame ▸ h.others, fun user => ?_, h.terms, h.players, h.battles,
    h.participants, h.periods, h.snapshots⟩
  rw [dueTo, hsame]
  exact h.balances user

theorem concat {split : Pool.Split} (h : book.Clears mid before now)
    (hmem : found ∈ book.battles.rows) (hpending : book.isPending found = true)
    (hnew : found.id ∉ before) (hsettles : mid.Settles found split now)
    (hpayouts : mid.payoutsOn found = split.payouts) :
    book.Clears (mid.settled found split now) (before ++ [found.id]) now := by
  have hperm := pendingIn_concat_perm hmem hpending hnew
  have hpays : mid.OnlyPays (mid.payAll found.id split.kind now split.payouts) :=
    onlyPays_payAll mid split.payouts
  constructor
  case settled =>
    intro b hb
    rcases List.mem_cons.1 (hperm.mem_iff.1 hb) with rfl | hb
    · rw [settlement?_settled_self hsettles, h.victorOf]
    · have hne : found.id ≠ b.id := fun hid => hnew (hid ▸ (mem_pendingIn.1 hb).2.2)
      rw [settlement?_settled_of_ne hne, h.settled b hb]
  case others =>
    intro battle hothers
    have hne : found.id ≠ battle := hothers found (hperm.mem_iff.2 List.mem_cons_self)
    rw [settlement?_settled_of_ne hne]
    exact h.others battle fun b hb =>
      hothers b (hperm.mem_iff.2 (List.mem_cons_of_mem found hb))
  case balances =>
    intro user
    have hpaid : mid.paidTo found user = book.paidTo found user := by
      rw [paidTo, h.payoutsOn, paidTo]
    rw [balanceOf_settled hsettles hpayouts, h.balances, hpaid,
      dueTo_concat hmem hpending hnew]
    omega
  case terms => exact terms_payAll.trans h.terms
  case players => exact hpays.players.trans h.players
  case battles => exact hpays.battles.trans h.battles
  case participants => exact hpays.participants.trans h.participants
  case periods => exact hpays.periods.trans h.periods
  case snapshots => exact hpays.snapshots.trans h.snapshots

end Clears

end Book

/-! ## One battle of several -/

namespace Session

variable {r : Resolution} {fault : Fault R}

theorem settleOne_of_ok (h : settle id now book = .ok r later) :
    settleOne now id book = .ok (.resolved r) later := by
  simp only [settleOne, attempt, atomically, bind, EStateM.bind, h]
  rfl

theorem settleOne_of_unknown (h : book.battles.find? id = none) :
    settleOne now id book = .ok (.notFound id (.battle id)) book := by
  simp only [settleOne, attempt, atomically, bind, EStateM.bind, settle_of_unknown h]
  rfl

theorem settleOne_of_ongoing (hfound : book.battles.find? id = some found)
    (hongoing : found.data.status.isTerminal = false) :
    settleOne now id book = .ok (.notConcluded id) book := by
  simp only [settleOne, attempt, atomically, bind, EStateM.bind, settle_of_ongoing hfound hongoing]
  rfl

@[simp] theorem settleEach_nil : settleEach now [] book = .ok [] book := rfl

theorem settleEach_cons {item : BatchItem} {items : List BatchItem} {rest : List Int}
    (hfirst : settleOne now id book = .ok item mid)
    (hrest : settleEach now rest mid = .ok items later) :
    settleEach now (id :: rest) book = .ok (item :: items) later := by
  rw [settleEach] at hrest ⊢
  rw [List.mapM_cons]
  simp only [bind, EStateM.bind, hfirst, hrest]
  rfl

end Session

/-! ## One battle after the other -/

namespace Book

theorem answer_of_unknown (h : book.battles.find? id = none) :
    book.answer before id = .notFound id (.battle id) := by
  rw [answer, h]

theorem answer_of_ongoing (hfound : book.battles.find? id = some found)
    (hongoing : found.data.status.isTerminal = false) :
    book.answer before id = .notConcluded id := by
  simp [answer, hfound, hongoing]

theorem answer_of_ended (hfound : book.battles.find? id = some found)
    (hended : found.data.status.isTerminal = true) :
    book.answer before id = .resolved ⟨id, book.victorOf found, book.payoutsOn found,
      (book.settlement? id).isSome || before.contains id⟩ := by
  simp [answer, hfound, hended]

end Book

section

variable [Arithmetic R]

/-- Settling these battles takes no balance beyond what a row may hold. -/
def Book.BearsAll (book : Book R) (ids : List Int) : Prop :=
  ∀ u ∈ book.users.rows, Session.isStorable (book.balanceOf u.id + book.dueTo ids u.id) = true

instance : Decidable (book.BearsAll ids) :=
  inferInstanceAs (Decidable (∀ u ∈ book.users.rows,
    Session.isStorable (book.balanceOf u.id + book.dueTo ids u.id) = true))

theorem Reachable.bearsAll_mono (h : Reachable book) {ids' : List Int}
    (hids : ∀ id ∈ ids, id ∈ ids') (hbears : book.BearsAll ids') : book.BearsAll ids := by
  intro u hu
  have hbalance := (h.keepsAccount u.id).balance_nonneg
  obtain ⟨hdue, hmore⟩ := h.dueTo_mono hids u.id
  have hstorable := hbears u hu
  simp only [Session.isStorable, decide_eq_true_eq] at hstorable ⊢
  omega

namespace Book

/-- The next battle of a list is answered as told by the book before the list, and cleared. -/
def Advances (book mid : Book R) (before : List Int) (id : Int) (now : Moment) : Prop :=
  Session.settleOne now id mid =
      .ok (book.answer before id) ((Operation.settle id now).after mid) ∧
    book.Clears ((Operation.settle id now).after mid) (before ++ [id]) now

namespace Clears

theorem advances_of_unknown (h : book.Clears mid before now)
    (hunknown : book.battles.find? id = none) : book.Advances mid before id now := by
  have hmid : mid.battles.find? id = none := h.battles ▸ hunknown
  have hafter : (Operation.settle id now).after mid = mid := Operation.after_of_error
    (Operation.settle_eq_error.2 ⟨⟨mid, Session.settle_of_unknown hmid⟩, rfl⟩)
  rw [Advances, hafter, answer_of_unknown hunknown]
  refine ⟨Session.settleOne_of_unknown hmid,
    h.repeated (pendingIn_concat_of_not_pending fun b hb hid _ => ?_)⟩
  rw [← hid, Table.find?_of_mem hb] at hunknown
  cases hunknown

theorem advances_of_ongoing (h : book.Clears mid before now)
    (hfound : book.battles.find? found.id = some found)
    (hongoing : found.data.status.isTerminal = false) : book.Advances mid before found.id now := by
  have hmid : mid.battles.find? found.id = some found := h.battles ▸ hfound
  have hafter : (Operation.settle found.id now).after mid = mid := Operation.after_of_error
    (Operation.settle_eq_error.2 ⟨⟨mid, Session.settle_of_ongoing hmid hongoing⟩, rfl⟩)
  rw [Advances, hafter, answer_of_ongoing hfound hongoing]
  refine ⟨Session.settleOne_of_ongoing hmid hongoing,
    h.repeated (pendingIn_concat_of_not_pending fun b hb hid hpending => ?_)⟩
  rw [Table.eq_of_id_eq hb (Table.mem_of_find? hfound) hid, isPending, hongoing] at hpending
  cases hpending

theorem advances_of_marked (h : book.Clears mid before now) (hmid : Reachable mid)
    (hfound : book.battles.find? found.id = some found)
    (hended : found.data.status.isTerminal = true)
    (hmark : (mid.settlement? found.id).isSome = true) : book.Advances mid before found.id now := by
  have hmem : found ∈ book.battles.rows := Table.mem_of_find? hfound
  have hknown : mid.battles.find? found.id = some found := h.battles ▸ hfound
  have hmarks := (h.isSome_settlement? hmem hended).symm.trans hmark
  have hrecorded := hmid.resolution?_eq hknown hmark
  have hsettle : Session.settle found.id now mid =
      .ok ⟨found.id, mid.victorOf found, mid.payoutsOn found, true⟩ mid :=
    Session.settle_eq_ok.2 (.inr ⟨found, hknown, hended, hrecorded, rfl⟩)
  rw [Advances, Operation.after_of_ok (Operation.settle_eq_ok.2 hsettle),
    answer_of_ended hfound hended, hmarks, ← h.victorOf, ← h.payoutsOn]
  refine ⟨Session.settleOne_of_ok hsettle,
    h.repeated (pendingIn_concat_of_not_pending fun b hb hid hpending => ?_)⟩
  -- a battle without a mark before the list is one of those before it on the list
  have hunmarked := (isPending_iff.1 hpending).2
  rw [← hid, hunmarked, Option.isSome_none, Bool.false_or, List.contains_iff_mem] at hmarks
  exact hid ▸ hmarks

theorem bears (h : book.Clears mid before now) (hbook : Reachable book)
    {split : Pool.Split} (hmem : found ∈ book.battles.rows)
    (hpending : book.isPending found = true) (hnew : found.id ∉ before)
    (hsplit : Pool.split (mid.victorOf found) ((mid.wagersOn found.id).map (·.stake)) = .ok split)
    (hbears : book.BearsAll (before ++ [found.id])) : mid.Bears split.payouts := by
  obtain ⟨_, hbefore⟩ := hbook.exists_split found
  have hpayable := hbook.payable (Table.find?_of_mem hmem) hbefore
  have hpayouts : book.payoutsOn found = split.payouts :=
    (h.payoutsOn found).symm.trans (payoutsOn_of_split hsplit)
  rw [← payoutsOn_of_split hbefore, hpayouts] at hpayable
  intro p hp
  obtain ⟨u, hu⟩ := Option.isSome_iff_exists.1 (hpayable.known p hp)
  have hpaid : book.paidTo found p.user = p.paid := by
    rw [paidTo, hpayouts, filter_of_nodup_map hpayable.once hp, List.map_singleton, sumOf_cons]
    exact Int.add_zero _
  have hstorable := hbears u (Table.mem_of_find? hu)
  rwa [Table.id_of_find? hu, dueTo_concat hmem hpending hnew, hpaid, ← Int.add_assoc,
    ← h.balances] at hstorable

theorem advances_of_unmarked (h : book.Clears mid before now) (hbook : Reachable book)
    (hmid : Reachable mid) (hfound : book.battles.find? found.id = some found)
    (hended : found.data.status.isTerminal = true) (hunmarked : mid.settlement? found.id = none)
    (hbears : book.BearsAll (before ++ [found.id])) : book.Advances mid before found.id now := by
  have hmem : found ∈ book.battles.rows := Table.mem_of_find? hfound
  have hknown : mid.battles.find? found.id = some found := h.battles ▸ hfound
  have hmarks := h.isSome_settlement? hmem hended
  rw [hunmarked, Option.isSome_none, eq_comm] at hmarks
  obtain ⟨hbefore, hlisted⟩ := Bool.or_eq_false_iff.1 hmarks
  have hpending : book.isPending found = true :=
    isPending_iff.2 ⟨hended, by simpa using hbefore⟩
  have hnew : found.id ∉ before := by simpa using hlisted
  obtain ⟨split, hsplit⟩ := hmid.exists_split found
  have hpayouts : mid.payoutsOn found = split.payouts := payoutsOn_of_split hsplit
  have hroom := h.bears hbook hmem hpending hnew hsplit hbears
  have hall := hmid.settlesInOrder.unsettledOn_eq hunmarked
  have hsettles : mid.Settles found split now := ⟨hknown, hended, hunmarked, hall ▸ hsplit,
    (hmid.payable hknown hsplit).pays_iff.2 hroom⟩
  have hsettle : Session.settle found.id now mid =
      .ok ⟨found.id, mid.victorOf found, mid.payoutsOn found, false⟩
        (mid.settled found split now) :=
    Session.settle_eq_ok.2 (.inl ⟨found, rfl, split, hsettles, by rw [hpayouts], rfl⟩)
  rw [Advances, Operation.after_of_ok (Operation.settle_eq_ok.2 hsettle),
    answer_of_ended hfound hended, hmarks, ← h.victorOf, ← h.payoutsOn]
  exact ⟨Session.settleOne_of_ok hsettle, h.concat hmem hpending hnew hsettles hpayouts⟩

theorem advances (h : book.Clears mid before now) (hbook : Reachable book) (hmid : Reachable mid)
    (hbears : book.BearsAll (before ++ [id])) : book.Advances mid before id now := by
  cases hfound : book.battles.find? id with
  | none => exact h.advances_of_unknown hfound
  | some found =>
    obtain rfl := Table.id_of_find? hfound
    cases hended : found.data.status.isTerminal with
    | false => exact h.advances_of_ongoing hfound hended
    | true =>
      cases hmark : mid.settlement? found.id with
      | some mark =>
        exact h.advances_of_marked hmid hfound hended (Option.isSome_of_eq_some hmark)
      | none => exact h.advances_of_unmarked hbook hmid hfound hended hmark hbears

/-- All battles of a list are answered as told by the book before the list, and cleared. -/
theorem settleEach_eq (h : book.Clears mid before now) (hbook : Reachable book)
    (hmid : Reachable mid) (hbears : book.BearsAll (before ++ ids)) :
    Session.settleEach now ids mid =
        .ok (book.answers before ids) (Operation.run (ids.map (.settle · now)) mid) ∧
      book.Clears (Operation.run (ids.map (.settle · now)) mid) (before ++ ids) now := by
  induction ids generalizing before mid with
  | nil => exact ⟨Session.settleEach_nil, (List.append_nil before).symm ▸ h⟩
  | cons id rest ih =>
    have hsplit : before ++ id :: rest = (before ++ [id]) ++ rest := by
      rw [List.append_assoc, List.singleton_append]
    rw [hsplit] at hbears ⊢
    obtain ⟨hfirst, hcleared⟩ :=
      h.advances hbook hmid (hbook.bearsAll_mono (fun _ => List.mem_append_left rest) hbears)
    obtain ⟨hrest, hall⟩ := ih hcleared (hmid.step _) hbears
    exact ⟨Session.settleEach_cons hfirst hrest, hall⟩

end Clears

end Book

end

end RaceBook
