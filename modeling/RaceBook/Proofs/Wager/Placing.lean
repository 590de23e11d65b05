import RaceBook.Wager
import RaceBook.Proofs.Ledger.Posting
import RaceBook.Proofs.Race.Reports
import RaceBook.Proofs.Store.Sessions

/-!
# Placing wagers

* `Wager.taking`, `Wager.returning` : the movements of a stake out of a balance and back into it;
* `Book.placeFirst`, `Book.replaceWager` : the book after a wager was placed or replaced;
* `Book.TakesWagers` : the battle is ongoing and the team has somebody in it;
* `Session.placeWager_eq_ok` : what of these a request for a wager comes to.
-/

namespace RaceBook

variable {R : Type} {book later : Book R}

namespace Wager

def taking (w : Wager) : Movement := ⟨w.user, -w.stake, .stake, some w.battle, w.updatedAt⟩

def returning (w : Wager) (now : Moment) : Movement :=
  ⟨w.user, w.stake, .refund, some w.battle, now⟩

def replaced (w : Wager) (team : Team) (stake : Int) (now : Moment) : Wager :=
  { w with victor := team, stake, updatedAt := now }

end Wager

namespace Book

/-- A wager may be placed on this team of this battle. -/
structure TakesWagers (book : Book R) (battle : Int) (team : Team) : Prop where
  ongoing : book.Ongoing battle
  backed : ∃ p ∈ book.participantsOf battle, p.data.team = team

def placeFirst (book : Book R) (w : Wager) : Book R :=
  { book.post w.taking with wagers := book.wagers.append w }

/-- The book after a wager was replaced: the old stake is returned, then the new one is taken. -/
def replaceWager (book : Book R) (known : Row Wager) (team : Team) (stake : Int) (now : Moment) :
    Book R :=
  let changed := known.data.replaced team stake now
  { (book.post (known.data.returning now)).post changed.taking with
    wagers := book.wagers.modify known.id (·.replaced team stake now) }

theorem of_wager?_eq_some {user battle : Int} {w : Row Wager}
    (h : book.wager? user battle = some w) :
    w ∈ book.wagersOn battle ∧ w.data.user = user ∧ w.data.battle = battle := by
  have hw := List.mem_of_find?_eq_some h
  have huser := List.find?_some h
  exact ⟨hw, of_decide_eq_true huser, of_decide_eq_true (List.mem_filter.1 hw).2⟩

end Book

namespace Session

theorem placeFirst_eq_ok {userId battleId : Int} {team : Team} {stake : Int} {now : Moment}
    {row : Row Wager} :
    placeFirst userId battleId team stake now book = .ok row later ↔
      let w : Wager := ⟨userId, battleId, team, stake, now, now, none⟩
      0 ≤ stake ∧ book.Accepts w.taking ∧ row = ⟨book.wagers.nextId, w⟩ ∧
        later = book.placeFirst w := by
  simp only [placeFirst, bind_eq_ok, debit_eq_ok, get_eq_ok, modify_eq_ok, pure_eq_ok, and_assoc,
    exists_and_left, exists_eq_left', exists_eq_left, exists_const]
  refine and_congr_right fun _ => and_congr_right fun _ => ?_
  rw [eq_comm, @eq_comm _ later]
  rfl

theorem replaceWager_eq_ok {known row : Row Wager} {team : Team} {stake : Int} {now : Moment} :
    replaceWager known team stake now book = .ok row later ↔
      known.data.settledBy = none ∧
      (0 ≤ known.data.stake ∧ book.Accepts (known.data.returning now)) ∧
      (0 ≤ stake ∧ (book.post (known.data.returning now)).Accepts
        (known.data.replaced team stake now).taking) ∧
      row = ⟨known.id, known.data.replaced team stake now⟩ ∧
      later = book.replaceWager known team stake now := by
  simp only [replaceWager, bind_eq_ok, check_eq_ok, credit_eq_ok, debit_eq_ok, modify_eq_ok,
    pure_eq_ok, and_assoc, exists_and_left, exists_eq_left', exists_eq_left, exists_const,
    Option.isNone_iff_eq_none]
  refine and_congr_right fun _ => and_congr_right fun _ => and_congr_right fun _ =>
    and_congr_right fun _ => and_congr_right fun _ => ?_
  rw [eq_comm, @eq_comm _ later]
  rfl

section Requests

variable [Arithmetic R]

/-- The last moment at which a wager on a battle is taken. -/
theorem checkOpenForWagers_eq_ok {found : Row Battle} {grace : R} {now : Moment} {u : Unit} :
    checkOpenForWagers found grace now book = .ok u later ↔
      (∃ length last, durationOf secondTicks grace = .ok length ∧
        found.data.closesAt.add? length = some last ∧ now ≤ last) ∧ book = later := by
  simp only [checkOpenForWagers, bind_eq_ok, liftNumber_eq_ok, demand_eq_ok, check_eq_ok, and_assoc,
    exists_and_left, exists_eq_left', decide_eq_true_eq]
  grind

/-- A request for a wager places the first one of that user on that battle, or replaces it. -/
theorem placeWager_eq_ok {userId battleId number stake : Int} {grace : R} {now : Moment}
    {row : Row Wager} :
    placeWager userId battleId number stake grace now book = .ok row later ↔
      ∃ team, Team.ofNumber? number = some team ∧ 0 < stake ∧
        (∃ found, book.battles.find? battleId = some found ∧ found.data.status = .ongoing ∧
          ∃ length last, durationOf secondTicks grace = .ok length ∧
            found.data.closesAt.add? length = some last ∧ now ≤ last) ∧
        (book.users.find? userId).isSome = true ∧
        (∃ p ∈ book.participantsOf battleId, p.data.team = team) ∧
        match book.wager? userId battleId with
        | none => placeFirst userId battleId team stake now book = .ok row later
        | some known => replaceWager known team stake now book = .ok row later := by
  simp only [placeWager, bind_eq_ok, team_eq_ok, check_eq_ok, battle_eq_ok,
    checkOpenForWagers_eq_ok, user_eq_ok, read_eq_ok, and_assoc, exists_and_left, exists_eq_left',
    exists_const, decide_eq_true_eq, List.any_eq_true, Option.isSome_iff_exists]
  cases book.wager? userId battleId with
  | none => grind
  | some known => grind

end Requests

end Session

end RaceBook
