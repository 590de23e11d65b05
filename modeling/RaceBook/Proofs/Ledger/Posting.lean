import RaceBook.Ledger
import RaceBook.Proofs.Store.Rows

/-!
# Posting to the ledger

* `Movement` : a change of a user's balance, and what it is for;
* `Book.Accepts book m` : the ledger takes the movement `m`;
* `Book.post book m` : the book after it, with `Book.entry book m` as the ledger entry;
* `Session.post_eq_ok`, `Session.credit_eq_ok`, `Session.debit_eq_ok`, `Session.createUser_eq_ok` :
  every change of a balance posts one accepted movement, and a refused one posts none.
-/

namespace RaceBook

structure Movement where
  user : Int
  amount : Int
  kind : EntryKind
  battle : Option Int
  now : Moment

variable {R : Type} {book later : Book R}

namespace Book

/-- A user's balance, zero for a user who does not exist. -/
def balanceOf (book : Book R) (user : Int) : Int :=
  ((book.users.find? user).map (·.data.balance)).getD 0

def entry (book : Book R) (m : Movement) : Entry :=
  ⟨m.user, m.battle, m.kind, m.amount, book.balanceOf m.user + m.amount, m.now⟩

/-- The ledger takes a movement of a known user that does not lead below zero. -/
structure Accepts (book : Book R) (m : Movement) : Prop where
  known : (book.users.find? m.user).isSome = true
  nonneg : 0 ≤ book.balanceOf m.user + m.amount
  storable : Session.isStorable m.amount = true ∧
    Session.isStorable (book.balanceOf m.user + m.amount) = true
  reference : ∀ id ∈ m.battle, (book.battles.find? id).isSome = true

def post (book : Book R) (m : Movement) : Book R :=
  { book with
    users := book.users.modify m.user
      ({ · with balance := book.balanceOf m.user + m.amount, updatedAt := m.now })
    ledger := book.ledger.append (book.entry m) }

def enterUser (book : Book R) (username : String) (now : Moment) : Book R :=
  { book with users := book.users.append ⟨username, 0, now, now⟩ }

end Book

namespace Session

/-! ## When an entry is posted -/

theorem user_eq_ok {id : Int} {row : Row User} :
    user id book = .ok row later ↔ book.users.find? id = some row ∧ book = later := by
  simp only [user, bind_eq_ok, get_eq_ok, demand_eq_ok]
  grind

theorem checkReference_eq_ok {battle? : Option Int} {u : Unit} :
    checkReference battle? book = .ok u later ↔
      (∀ id ∈ battle?, (book.battles.find? id).isSome = true) ∧ book = later := by
  cases battle? with
  | none => simp [checkReference]
  | some id =>
    simp only [checkReference, bind_eq_ok, get_eq_ok, check_eq_ok, Option.mem_some_iff]
    grind

theorem post_eq_ok {userId amount : Int} {kind : EntryKind} {battle? : Option Int} {now : Moment}
    {row : Row Entry} :
    post userId amount kind battle? now book = .ok row later ↔
      book.Accepts ⟨userId, amount, kind, battle?, now⟩ ∧
        row = ⟨book.ledger.nextId, book.entry ⟨userId, amount, kind, battle?, now⟩⟩ ∧
        later = book.post ⟨userId, amount, kind, battle?, now⟩ := by
  simp only [post, bind_eq_ok, checkRange_eq_ok, user_eq_ok, check_eq_ok, modify_eq_ok,
    checkReference_eq_ok, get_eq_ok, pure_eq_ok, decide_eq_true_eq, and_assoc, exists_and_left,
    exists_eq_left', exists_const]
  have hbalance : ∀ known : Row User, book.users.find? userId = some known →
      book.balanceOf userId = known.data.balance := by
    intro known hknown
    rw [Book.balanceOf, hknown]
    rfl
  constructor
  · rintro ⟨hamount, known, hknown, hnonneg, hafter, href, rfl, rfl⟩
    rw [← hbalance known hknown] at hnonneg hafter ⊢
    exact ⟨⟨Option.isSome_of_eq_some hknown, hnonneg, ⟨hamount, hafter⟩, href⟩, rfl, rfl⟩
  · rintro ⟨⟨hknown, hnonneg, ⟨hamount, hafter⟩, href⟩, rfl, rfl⟩
    obtain ⟨known, hknown⟩ := Option.isSome_iff_exists.1 hknown
    refine ⟨hamount, known, hknown, ?_⟩
    rw [← hbalance known hknown]
    exact ⟨hnonneg, hafter, href, rfl, rfl⟩

theorem credit_eq_ok {userId amount : Int} {kind : EntryKind} {battle? : Option Int} {now : Moment}
    {row : Row Entry} :
    credit userId amount kind battle? now book = .ok row later ↔
      0 ≤ amount ∧ book.Accepts ⟨userId, amount, kind, battle?, now⟩ ∧
        row = ⟨book.ledger.nextId, book.entry ⟨userId, amount, kind, battle?, now⟩⟩ ∧
        later = book.post ⟨userId, amount, kind, battle?, now⟩ := by
  simp only [credit, bind_eq_ok, check_eq_ok, post_eq_ok, decide_eq_true_eq, and_assoc,
    exists_and_left, exists_eq_left', exists_const]

theorem debit_eq_ok {userId amount : Int} {kind : EntryKind} {battle? : Option Int} {now : Moment}
    {row : Row Entry} :
    debit userId amount kind battle? now book = .ok row later ↔
      0 ≤ amount ∧ book.Accepts ⟨userId, -amount, kind, battle?, now⟩ ∧
        row = ⟨book.ledger.nextId, book.entry ⟨userId, -amount, kind, battle?, now⟩⟩ ∧
        later = book.post ⟨userId, -amount, kind, battle?, now⟩ := by
  simp only [debit, bind_eq_ok, check_eq_ok, post_eq_ok, decide_eq_true_eq, and_assoc,
    exists_and_left, exists_eq_left', exists_const]

theorem createUser_eq_ok {username : String} {startingBalance : Int} {now : Moment}
    {row : Row User} :
    createUser username startingBalance now book = .ok row later ↔
      Text.strip username ≠ "" ∧
      (∀ u ∈ book.users.rows, u.data.username ≠ Text.strip username) ∧
      later.users.find? book.users.nextId = some row ∧
      let entered := book.enterUser (Text.strip username) now
      if 0 < startingBalance then
        entered.Accepts ⟨book.users.nextId, startingBalance, .grant, none, now⟩ ∧
          later = entered.post ⟨book.users.nextId, startingBalance, .grant, none, now⟩
      else later = entered := by
  simp only [createUser, bind_eq_ok, check_eq_ok, read_eq_ok, get_eq_ok, modify_eq_ok, and_assoc,
    exists_and_left, exists_eq_left', exists_const, decide_eq_true_eq, Bool.not_eq_true',
    List.any_eq_false]
  refine and_congr_right fun _ => and_congr_right fun _ => ?_
  split
  next hpos =>
    simp only [bind_eq_ok, grant, credit_eq_ok, user_eq_ok]
    constructor
    · rintro ⟨_, _, ⟨_, haccepts, rfl, rfl⟩, hfound, rfl⟩
      exact ⟨hfound, haccepts, rfl⟩
    · rintro ⟨hfound, haccepts, rfl⟩
      exact ⟨_, _, ⟨Int.le_of_lt hpos, haccepts, rfl, rfl⟩, hfound, rfl⟩
  next =>
    rw [user_eq_ok, Book.enterUser]
    constructor
    · rintro ⟨hfound, rfl⟩
      exact ⟨hfound, rfl⟩
    · rintro ⟨hfound, rfl⟩
      exact ⟨hfound, rfl⟩

end Session

end RaceBook
