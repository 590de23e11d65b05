import RaceBook.Proofs.Operations

/-!
# The terms of wagers

* `Event.terms_apply` : only wagers that are placed and replaced change what wagers are about;
* `Event.backed_apply` : a team that has somebody in it keeps somebody in it;
* `Book.WagersLegal` : a user has one wager on a battle, its stake is positive, and somebody is in
  the team that it is on;
* `Event.wagersLegal_apply`, `Reachable.wagersLegal` : so it is in every reachable book.
-/

namespace RaceBook

variable {R : Type} {book later : Book R}

namespace Book

def Backed (book : Book R) (battle : Int) (team : Team) : Prop :=
  ∃ p ∈ book.participantsOf battle, p.data.team = team

/-- A user has at most one wager on a battle, with a positive stake on a team that somebody is in. -/
structure WagersLegal (book : Book R) : Prop where
  single : ∀ v ∈ book.wagers.rows, ∀ w ∈ book.wagers.rows, v.data.user = w.data.user →
    v.data.battle = w.data.battle → v = w
  positive : ∀ w ∈ book.wagers.rows, 0 < w.data.stake
  backed : ∀ w ∈ book.wagers.rows, book.Backed w.data.battle w.data.victor

theorem user_ne_of_wager?_eq_none {user battle : Int} (h : book.wager? user battle = none)
    {w : Row Wager} (hw : w ∈ book.wagers.rows) (hbattle : w.data.battle = battle) :
    w.data.user ≠ user := by
  have hon : w ∈ book.wagersOn battle := List.mem_filter.2 ⟨hw, decide_eq_true hbattle⟩
  simpa using List.find?_eq_none.1 h w hon

namespace WagersLegal

theorem nodup_users (h : book.WagersLegal) (battle : Int) :
    ((book.wagersOn battle).map (·.data.user)).Nodup := by
  refine List.Nodup.map_on (fun v hv w hw huser => ?_)
    ((List.Nodup.of_map _ book.wagers.nodup_ids).filter _)
  obtain ⟨hv, hvbattle⟩ := List.mem_filter.1 hv
  obtain ⟨hw, hwbattle⟩ := List.mem_filter.1 hw
  exact h.single v hv w hw huser
    ((of_decide_eq_true hvbattle).trans (of_decide_eq_true hwbattle).symm)

theorem single_of_kept (h : book.WagersLegal)
    (hkept : ∀ w ∈ later.wagers.rows, ∃ w₀ ∈ book.wagers.rows, w.id = w₀.id ∧
      w.data.user = w₀.data.user ∧ w.data.battle = w₀.data.battle) :
    ∀ v ∈ later.wagers.rows, ∀ w ∈ later.wagers.rows, v.data.user = w.data.user →
      v.data.battle = w.data.battle → v = w := by
  intro v hv w hw huser hbattle
  obtain ⟨v₀, hv₀, hvid, hvuser, hvbattle⟩ := hkept v hv
  obtain ⟨w₀, hw₀, hwid, hwuser, hwbattle⟩ := hkept w hw
  rw [hvuser, hwuser] at huser
  rw [hvbattle, hwbattle] at hbattle
  exact Table.eq_of_id_eq hv hw (by rw [hvid, hwid, h.single v₀ hv₀ w₀ hw₀ huser hbattle])

/-- Legal wagers are legal as long as their terms stay and nobody leaves a team. -/
theorem of_terms (h : book.WagersLegal)
    (hterms : later.wagers.rows.map Row.terms = book.wagers.rows.map Row.terms)
    (hbacked : ∀ battle team, book.Backed battle team → later.Backed battle team) :
    later.WagersLegal := by
  have hkept : ∀ w ∈ later.wagers.rows, ∃ w₀ ∈ book.wagers.rows, w.stake = w₀.stake ∧
      w.data.battle = w₀.data.battle := by
    intro w hw
    obtain ⟨w₀, hw₀, heq⟩ := exists_of_map_eq hterms hw
    exact ⟨w₀, hw₀, congrArg Prod.fst heq, congrArg Prod.snd heq⟩
  refine ⟨h.single_of_kept fun w hw => ?_, fun w hw => ?_, fun w hw => ?_⟩
  · obtain ⟨w₀, hw₀, hstake, hbattle⟩ := hkept w hw
    exact ⟨w₀, hw₀, congrArg (·.wager) hstake, congrArg (·.user) hstake, hbattle⟩
  · obtain ⟨w₀, hw₀, hstake, -⟩ := hkept w hw
    have hamount : w.data.stake = w₀.data.stake := congrArg (·.amount) hstake
    rw [hamount]
    exact h.positive w₀ hw₀
  · obtain ⟨w₀, hw₀, hstake, hbattle⟩ := hkept w hw
    have hvictor : w.data.victor = w₀.data.victor := congrArg (·.predicted) hstake
    rw [hvictor, hbattle]
    exact hbacked _ _ (h.backed w₀ hw₀)

theorem placeFirst (h : book.WagersLegal) {w : Wager} (hstake : 0 < w.stake)
    (hnew : book.wager? w.user w.battle = none) (hbacked : book.Backed w.battle w.victor) :
    (book.placeFirst w).WagersLegal := by
  have hrows : ∀ v ∈ (book.placeFirst w).wagers.rows,
      v ∈ book.wagers.rows ∨ v = ⟨book.wagers.nextId, w⟩ := by
    intro v hv
    exact (List.mem_append.1 hv).imp_right List.mem_singleton.1
  refine ⟨fun u hu v hv huser hbattle => ?_, fun v hv => ?_, fun v hv => ?_⟩
  · rcases hrows u hu with hu | rfl <;> rcases hrows v hv with hv | rfl
    · exact h.single u hu v hv huser hbattle
    · exact absurd huser (user_ne_of_wager?_eq_none hnew hu hbattle)
    · exact absurd huser.symm (user_ne_of_wager?_eq_none hnew hv hbattle.symm)
    · rfl
  · rcases hrows v hv with hv | rfl
    · exact h.positive v hv
    · exact hstake
  · rcases hrows v hv with hv | rfl
    · exact h.backed v hv
    · exact hbacked

theorem replaceWager (h : book.WagersLegal) {known : Row Wager} {team : Team} {stake : Int}
    {now : Moment} (hknown : known ∈ book.wagers.rows) (hstake : 0 < stake)
    (hbacked : book.Backed known.data.battle team) :
    (book.replaceWager known team stake now).WagersLegal := by
  have hrows : ∀ w ∈ (book.replaceWager known team stake now).wagers.rows,
      w ∈ book.wagers.rows ∨ w = ⟨known.id, known.data.replaced team stake now⟩ := by
    intro w hw
    obtain ⟨w₀, hw₀, rfl⟩ := List.mem_map.1 hw
    split
    next hid => exact .inr (Table.eq_of_id_eq hw₀ hknown hid ▸ rfl)
    next => exact .inl hw₀
  refine ⟨h.single_of_kept fun w hw => ?_, fun w hw => ?_, fun w hw => ?_⟩
  · rcases hrows w hw with hw | rfl
    · exact ⟨w, hw, rfl, rfl, rfl⟩
    · exact ⟨known, hknown, rfl, rfl, rfl⟩
  · rcases hrows w hw with hw | rfl
    · exact h.positive w hw
    · exact hstake
  · rcases hrows w hw with hw | rfl
    · exact h.backed w hw
    · exact hbacked

end WagersLegal

end Book

variable [Arithmetic R]

namespace Event

theorem backed_apply (e : Event R) {battle : Int} {team : Team} (h : book.Backed battle team) :
    (e.apply book).Backed battle team := by
  obtain ⟨p, hp, hteam⟩ := h
  obtain ⟨hp, hbattle⟩ := List.mem_filter.1 hp
  rw [Book.Backed, Book.participantsOf, participants_apply]
  cases e with
  | participantEntered other player entered =>
    exact ⟨p, List.mem_filter.2 ⟨List.mem_append_left _ hp, hbattle⟩, hteam⟩
  | resultReported known finish =>
    have hrow := List.mem_map_of_mem (f := fun r : Row Participant =>
      if r.id = known.id then ⟨r.id, { r.data with finish }⟩ else r) hp
    refine ⟨_, List.mem_filter.2 ⟨hrow, ?_⟩, ?_⟩
    · split <;> exact hbattle
    · split <;> exact hteam
  | _ => exact ⟨p, List.mem_filter.2 ⟨hp, hbattle⟩, hteam⟩

/-- Wagers that are placed and replaced aside, an event leaves what wagers are about. -/
theorem terms_apply {e : Event R} (hplaced : ∀ w, e ≠ .wagerPlaced w)
    (hreplaced : ∀ known team stake now, e ≠ .wagerReplaced known team stake now) :
    (e.apply book).wagers.rows.map Row.terms = book.wagers.rows.map Row.terms := by
  cases e with
  | wagerPlaced w => exact absurd rfl (hplaced w)
  | wagerReplaced known team stake now => exact absurd rfl (hreplaced known team stake now)
  | battleSettled found split now => exact Book.terms_payAll
  | periodOpened | periodMarked | periodClosed | snapshotTaken | cacheRefreshed =>
    rw [(sameRaces_apply (by trivial) book).wagers]
  | _ => rfl

theorem wagersLegal_apply {e : Event R} (h : e.Enabled book) (hbook : book.WagersLegal) :
    (e.apply book).WagersLegal := by
  cases e with
  | wagerPlaced w =>
    obtain ⟨htakes, hstake, -, hnew, -⟩ := h
    exact hbook.placeFirst hstake hnew htakes.backed
  | wagerReplaced known team stake now =>
    obtain ⟨htakes, hstake, hknown, -⟩ := h
    exact hbook.replaceWager (List.mem_of_mem_filter (Book.of_wager?_eq_some hknown).1) hstake
      htakes.backed
  | _ => exact hbook.of_terms (terms_apply (by simp) (by simp)) fun _ _ => backed_apply _

end Event

/-- **The wagers of a reachable book are legal.** -/
theorem Reachable.wagersLegal (h : Reachable book) : book.WagersLegal := by
  refine h.induct ⟨?_, ?_, ?_⟩ fun book e hbook he => Event.wagersLegal_apply he hbook
  · exact fun _ hv => nomatch hv
  · exact fun _ hw => nomatch hw
  · exact fun _ hw => nomatch hw

end RaceBook
