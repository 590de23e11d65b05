import Mathlib.Data.List.Induction
import RaceBook.Calendar.Moment
import RaceBook.Rating.Latest

/-!
# What the latest of a list is

* `mem_of_latest?`, `latest?_eq_none` : it is one of the list, and missing only from an empty one;
* `latest?_concat` : one element more;
* `latest?_eq_getLast?` : of a list in the order of time it is the last one;
* `latest?_split` : where in the list it stands;
* `latest?_eq_some_iff` : under ascending numbers it is the one of the greatest time and number.
-/

namespace RaceBook

variable {α τ : Type} [LE τ] [DecidableLE τ] {time : α → τ} {x y : α} {l : List α}

theorem later_eq_or_eq (time : α → τ) (x y : α) : later time x y = y ∨ later time x y = x := by
  unfold later
  split
  · exact .inl rfl
  · exact .inr rfl

theorem latest?_eq_none : latest? time l = none ↔ l = [] := by
  cases l <;> simp [latest?]

theorem latest?_concat :
    latest? time (l ++ [x]) = some ((latest? time l).elim x fun y => later time y x) := by
  cases l with
  | nil => rfl
  | cons y rest => rw [List.cons_append, latest?, List.foldl_append]; rfl

theorem mem_of_latest? (h : latest? time l = some x) : x ∈ l := by
  induction l using List.reverseRecOn generalizing x with
  | nil => cases h
  | append_singleton l y ih =>
    rw [latest?_concat, Option.some.injEq] at h
    cases hl : latest? time l with
    | none =>
      rw [hl] at h
      exact List.mem_append_right _ (List.mem_singleton.2 h.symm)
    | some z =>
      rw [hl, Option.elim_some] at h
      rcases later_eq_or_eq time z y with he | he
      · exact List.mem_append_right _ (List.mem_singleton.2 (h.symm.trans he))
      · exact List.mem_append_left _ (ih (hl.trans (congrArg some (he.symm.trans h))))

theorem latest?_eq_getLast? (h : l.Pairwise fun x y => time x ≤ time y) :
    latest? time l = l.getLast? := by
  induction l using List.reverseRecOn with
  | nil => rfl
  | append_singleton l y ih =>
    obtain ⟨hl, -, hy⟩ := List.pairwise_append.1 h
    rw [latest?_concat, ih hl, List.getLast?_concat]
    cases hlast : l.getLast? with
    | none => rfl
    | some z =>
      have hle : time z ≤ time y :=
        hy z (List.mem_of_getLast? hlast) y (List.mem_singleton.2 rfl)
      rw [Option.elim_some, later, if_pos hle]

/-! ## Where in the list it stands -/

theorem latest?_split {before after : List α} (hbefore : ∀ y ∈ before, time y ≤ time x)
    (hafter : ∀ y ∈ after, ¬time x ≤ time y) : latest? time (before ++ x :: after) = some x := by
  induction after using List.reverseRecOn with
  | nil =>
    rw [latest?_concat]
    cases hlast : latest? time before with
    | none => rfl
    | some y => rw [Option.elim_some, later, if_pos (hbefore y (mem_of_latest? hlast))]
  | append_singleton after z ih =>
    have hz : ¬time x ≤ time z := hafter z (List.mem_append_right _ (List.mem_singleton.2 rfl))
    rw [← List.cons_append, ← List.append_assoc, latest?_concat,
      ih fun y hy => hafter y (List.mem_append_left _ hy), Option.elim_some, later, if_neg hz]

section Numbered

variable {time : α → Moment} {number : α → Int}

theorem Moment.lt_or_eq_of_le {m n : Moment} (h : m ≤ n) : m < n ∨ m = n := by
  rcases Nat.lt_or_eq_of_le h with hlt | heq
  · exact .inl hlt
  · obtain ⟨_, _⟩ := m
    exact .inr (by cases heq; rfl)

theorem time_lt_or_of_latest? (hl : l.Pairwise fun x y => number x < number y)
    (h : latest? time l = some x) :
    ∀ y ∈ l, time y < time x ∨ time y = time x ∧ number y ≤ number x := by
  induction l using List.reverseRecOn generalizing x with
  | nil => cases h
  | append_singleton l z ih =>
    obtain ⟨hl, -, hz⟩ := List.pairwise_append.1 hl
    rw [latest?_concat, Option.some.injEq] at h
    cases hw : latest? time l with
    | none =>
      rw [hw, Option.elim_none] at h
      rw [latest?_eq_none.1 hw, h]
      simp
    | some w =>
      rw [hw, Option.elim_some, later] at h
      intro y hy
      rw [List.mem_append, List.mem_singleton] at hy
      split at h
      next hle =>
        subst h
        rcases hy with hy | rfl
        · -- no element before the last one is later than `w`, and their numbers are smaller
          have hyw : time y ≤ time w :=
            (ih hl hw y hy).elim Nat.le_of_lt fun he => Nat.le_of_eq (congrArg _ he.1)
          have hnumber := hz y hy z (List.mem_singleton.2 rfl)
          exact (Moment.lt_or_eq_of_le (Nat.le_trans hyw hle)).imp_right
            fun he => ⟨he, Int.le_of_lt hnumber⟩
        · exact .inr ⟨rfl, Int.le_refl _⟩
      next hlt =>
        subst h
        rcases hy with hy | rfl
        · exact ih hl hw y hy
        · exact .inl (Nat.lt_of_not_le hlt)

/-- Under ascending numbers the latest is the one of the greatest time and, of that time, of the
greatest number. -/
theorem latest?_eq_some_iff (hl : l.Pairwise fun x y => number x < number y) :
    latest? time l = some x ↔
      x ∈ l ∧ ∀ y ∈ l, time y < time x ∨ time y = time x ∧ number y ≤ number x := by
  refine ⟨fun h => ⟨mem_of_latest? h, time_lt_or_of_latest? hl h⟩, ?_⟩
  rintro ⟨hx, hgreatest⟩
  obtain ⟨before, after, rfl⟩ := List.append_of_mem hx
  have hbehind : ∀ y ∈ after, number x < number y :=
    (List.pairwise_cons.1 (List.pairwise_append.1 hl).2.1).1
  refine latest?_split (fun y hy => ?_) fun y hy hle => ?_
  · rcases hgreatest y (List.mem_append_left _ hy) with hlt | ⟨he, -⟩
    · exact Nat.le_of_lt hlt
    · exact Nat.le_of_eq (congrArg _ he)
  · have hnumber := hbehind y hy
    rcases hgreatest y (List.mem_append_right _ (List.mem_cons_of_mem x hy)) with hlt | ⟨-, hle'⟩
    · exact Nat.not_le_of_lt hlt hle
    · omega

end Numbered

end RaceBook
