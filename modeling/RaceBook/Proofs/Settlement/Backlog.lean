import RaceBook.Proofs.Settlement.Total
import RaceBook.Settlement.Batch

/-!
# The backlog

What is still to be settled, told by the book before anything of it is settled.

* `Book.pendingIn` : the pending battles among some numbers; it hangs on which numbers there are
  (`Book.pendingIn_congr`), and one more number adds its battle or nothing
  (`Book.pendingIn_concat_perm`, `Book.pendingIn_concat_of_not_pending`);
* `Book.payoutsOn` : the payouts by which a battle is settled;
* `Book.dueTo` : what the pending battles among some numbers pay to a user (`Book.dueTo_concat`,
  `Book.dueTo_mono`);
* `Book.balanceOf_settled` : a settlement raises the balances by what the battle pays.
-/

namespace RaceBook

variable {R : Type} {book later : Book R} {ids ids' : List Int} {found : Row Battle}

namespace Book

/-! ## Pending battles -/

def isPending (book : Book R) (b : Row Battle) : Bool :=
  b.data.status.isTerminal && (book.settlement? b.id).isNone

/-- The pending battles among some numbers, in ascending order. -/
def pendingIn (book : Book R) (ids : List Int) : List (Row Battle) :=
  book.battles.rows.filter fun b => book.isPending b && ids.contains b.id

theorem isPending_iff {b : Row Battle} :
    book.isPending b = true ↔ b.data.status.isTerminal = true ∧ book.settlement? b.id = none := by
  rw [isPending, Bool.and_eq_true, Option.isNone_iff_eq_none]

theorem mem_pendingIn :
    found ∈ book.pendingIn ids ↔
      found ∈ book.battles.rows ∧ book.isPending found = true ∧ found.id ∈ ids := by
  rw [pendingIn, List.mem_filter, Bool.and_eq_true, List.contains_iff_mem]

theorem nodup_pendingIn (ids : List Int) : (book.pendingIn ids).Nodup :=
  (List.Nodup.of_map _ book.battles.nodup_ids).filter _

/-- Which battles are pending hangs on which numbers there are, not on their order or number. -/
theorem pendingIn_congr (h : ∀ id, id ∈ ids' ↔ id ∈ ids) :
    book.pendingIn ids' = book.pendingIn ids := by
  apply List.filter_congr
  intro b _
  rw [Bool.eq_iff_iff, Bool.and_eq_true, Bool.and_eq_true, List.contains_iff_mem,
    List.contains_iff_mem, h]

/-- A number that is there already, or of no pending battle, adds nothing. -/
theorem pendingIn_concat_of_not_pending {id : Int}
    (h : ∀ b ∈ book.battles.rows, b.id = id → book.isPending b = true → id ∈ ids) :
    book.pendingIn (ids ++ [id]) = book.pendingIn ids := by
  apply List.filter_congr
  intro b hb
  rw [Bool.eq_iff_iff, Bool.and_eq_true, Bool.and_eq_true, List.contains_iff_mem,
    List.contains_iff_mem, List.mem_append, List.mem_singleton]
  refine and_congr_right fun hpending => or_iff_left_of_imp ?_
  rintro hid
  exact hid ▸ h b hb hid hpending

/-- The number of another pending battle adds that battle. -/
theorem pendingIn_concat_perm (hmem : found ∈ book.battles.rows)
    (hpending : book.isPending found = true) (hnew : found.id ∉ ids) :
    (book.pendingIn (ids ++ [found.id])).Perm (found :: book.pendingIn ids) := by
  have hnot : found ∉ book.pendingIn ids := fun h => hnew (mem_pendingIn.1 h).2.2
  refine (List.perm_ext_iff_of_nodup (nodup_pendingIn _)
    (List.nodup_cons.2 ⟨hnot, nodup_pendingIn _⟩)).2 fun b => ?_
  rw [List.mem_cons, mem_pendingIn, mem_pendingIn, List.mem_append, List.mem_singleton]
  constructor
  · rintro ⟨hb, hbpending, hid | hid⟩
    · exact .inr ⟨hb, hbpending, hid⟩
    · exact .inl (Table.eq_of_id_eq hb hmem hid)
  · rintro (rfl | ⟨hb, hbpending, hid⟩)
    · exact ⟨hmem, hpending, .inr rfl⟩
    · exact ⟨hb, hbpending, .inl hid⟩

theorem pendingIn_sublist (h : ∀ id ∈ ids, id ∈ ids') :
    (book.pendingIn ids).Sublist (book.pendingIn ids') := by
  apply List.monotone_filter_right
  intro b hb
  rw [Bool.and_eq_true, List.contains_iff_mem] at hb ⊢
  exact ⟨hb.1, h b.id hb.2⟩

/-! ## What they pay -/

def payoutsOn (book : Book R) (found : Row Battle) : List Pool.Payout :=
  match Pool.split (book.victorOf found) ((book.wagersOn found.id).map (·.stake)) with
  | .ok split => split.payouts
  | .error _ => []

def paidTo (book : Book R) (found : Row Battle) (user : Int) : Int :=
  sumOf (((book.payoutsOn found).filter (·.user = user)).map (·.paid))

/-- What the pending battles among some numbers pay to a user. -/
def dueTo (book : Book R) (ids : List Int) (user : Int) : Int :=
  sumOf ((book.pendingIn ids).map (book.paidTo · user))

theorem payoutsOn_of_split {split : Pool.Split}
    (h : Pool.split (book.victorOf found) ((book.wagersOn found.id).map (·.stake)) = .ok split) :
    book.payoutsOn found = split.payouts := by
  rw [payoutsOn, h]

theorem dueTo_concat {user : Int} (hmem : found ∈ book.battles.rows)
    (hpending : book.isPending found = true) (hnew : found.id ∉ ids) :
    book.dueTo (ids ++ [found.id]) user = book.dueTo ids user + book.paidTo found user := by
  have hperm := (pendingIn_concat_perm hmem hpending hnew).map (book.paidTo · user)
  rw [dueTo, sumOf_perm hperm, List.map_cons, sumOf_cons, dueTo]
  omega

/-! ## Balances -/

theorem balanceOf_payAll {battle user : Int} {kind : EntryKind} {now : Moment}
    {ps : List Pool.Payout} (h : Pays battle kind now book ps) :
    (book.payAll battle kind now ps).balanceOf user =
      book.balanceOf user + sumOf ((ps.filter (·.user = user)).map (·.paid)) := by
  induction ps generalizing book with
  | nil => exact (Int.add_zero _).symm
  | cons p rest ih =>
    obtain ⟨-, haccepts, hrest⟩ := h
    have hpay : (book.pay battle kind now p).balanceOf user =
        if user = p.user then book.balanceOf p.user + p.paid else book.balanceOf user :=
      balanceOf_post haccepts
    rw [payAll_cons, ih hrest, hpay]
    by_cases huser : p.user = user
    · subst huser
      rw [if_pos rfl, List.filter_cons_of_pos (by simp), List.map_cons, sumOf_cons]
      omega
    · rw [if_neg (Ne.symm huser), List.filter_cons_of_neg (by simpa using huser)]

theorem balanceOf_settled {split : Pool.Split} {now : Moment} {user : Int}
    (h : book.Settles found split now) (hpayouts : book.payoutsOn found = split.payouts) :
    (book.settled found split now).balanceOf user = book.balanceOf user + book.paidTo found user := by
  rw [paidTo, hpayouts]
  exact balanceOf_payAll h.pays

end Book

/-! ## Reachable books -/

variable [Arithmetic R]

theorem Reachable.paidTo_nonneg (h : Reachable book)
    (hfound : book.battles.find? found.id = some found) (user : Int) :
    0 ≤ book.paidTo found user := by
  obtain ⟨split, hsplit⟩ := h.exists_split found
  rw [Book.paidTo, Book.payoutsOn_of_split hsplit]
  exact sumOf_map_nonneg fun p hp => (h.payable hfound hsplit).paid p (List.mem_of_mem_filter hp)

/-- Nothing is due that would lower a balance, and more battles pay no less. -/
theorem Reachable.dueTo_mono (h : Reachable book) (hids : ∀ id ∈ ids, id ∈ ids') (user : Int) :
    0 ≤ book.dueTo ids user ∧ book.dueTo ids user ≤ book.dueTo ids' user := by
  have hnonneg : ∀ ids : List Int, ∀ b ∈ book.pendingIn ids, 0 ≤ book.paidTo b user :=
    fun ids b hb => h.paidTo_nonneg (Table.find?_of_mem (Book.mem_pendingIn.1 hb).1) user
  refine ⟨sumOf_map_nonneg (hnonneg ids),
    sumOf_le_of_sublist ((Book.pendingIn_sublist hids).map _) fun x hx => ?_⟩
  obtain ⟨b, hb, rfl⟩ := List.mem_map.1 hx
  exact hnonneg ids' b hb

end RaceBook
