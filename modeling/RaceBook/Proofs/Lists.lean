import Mathlib.Data.List.Forall2
import RaceBook.Amount

/-!
# Sums and look-ups in lists

What `sumOf` does with sums, differences and multiples of the terms, with a selection of them
(`sumOf_map_filter`, `sumOf_le_of_sublist`) or another order of them (`sumOf_perm`), with bounds on
them, and with how often each element of a list occurs in another one (`sumOf_map_count`). In a list whose elements have
different keys, the one with an element's key is that element (`find?_of_nodup_map`), and values go
by keys (`map_eq_of_keys`, `sumOf_map_find?`). Lists are related element by element in several steps
(`forall₂_trans`).
-/

namespace RaceBook

variable {α : Type}

theorem sumOf_map_add (f g : α → Int) (l : List α) :
    sumOf (l.map fun x => f x + g x) = sumOf (l.map f) + sumOf (l.map g) := by
  induction l with
  | nil => rfl
  | cons x rest ih =>
    rw [List.map_cons, List.map_cons, List.map_cons, sumOf_cons, sumOf_cons, sumOf_cons, ih]
    omega

theorem sumOf_map_sub (f g : α → Int) (l : List α) :
    sumOf (l.map fun x => f x - g x) = sumOf (l.map f) - sumOf (l.map g) := by
  induction l with
  | nil => rfl
  | cons x rest ih =>
    rw [List.map_cons, List.map_cons, List.map_cons, sumOf_cons, sumOf_cons, sumOf_cons, ih]
    omega

theorem sumOf_map_mul (c : Int) (f : α → Int) (l : List α) :
    sumOf (l.map fun x => c * f x) = c * sumOf (l.map f) := by
  induction l with
  | nil => exact (Int.mul_zero c).symm
  | cons x rest ih =>
    rw [List.map_cons, List.map_cons, sumOf_cons, sumOf_cons, ih, Int.mul_add]

theorem sumOf_map_filter (p : α → Bool) (f : α → Int) (l : List α) :
    sumOf ((l.filter p).map f) = sumOf (l.map fun x => if p x then f x else 0) := by
  induction l with
  | nil => rfl
  | cons x rest ih =>
    by_cases hx : p x <;> simp [hx, ih]

theorem sumOf_map_zero {f : α → Int} {l : List α} (h : ∀ x ∈ l, f x = 0) :
    sumOf (l.map f) = 0 := by
  induction l with
  | nil => rfl
  | cons x rest ih =>
    rw [List.map_cons, sumOf_cons, h x List.mem_cons_self,
      ih fun y hy => h y (List.mem_cons_of_mem x hy)]
    rfl

theorem sumOf_map_nonneg {f : α → Int} {l : List α} (h : ∀ x ∈ l, 0 ≤ f x) :
    0 ≤ sumOf (l.map f) := by
  induction l with
  | nil => exact Int.le_refl 0
  | cons x rest ih =>
    have := ih fun y hy => h y (List.mem_cons_of_mem x hy)
    have := h x List.mem_cons_self
    rw [List.map_cons, sumOf_cons]
    omega

/-- Terms below `c` add up to less than `c` for each of them. -/
theorem sumOf_map_lt {f : α → Int} {c : Int} {l : List α} (hl : l ≠ []) (h : ∀ x ∈ l, f x < c) :
    sumOf (l.map f) < c * l.length := by
  induction l with
  | nil => exact absurd rfl hl
  | cons x rest ih =>
    have hx := h x List.mem_cons_self
    rw [List.map_cons, sumOf_cons, List.length_cons, Int.natCast_add, Int.mul_add]
    by_cases hrest : rest = []
    · subst hrest
      simpa using hx
    · have := ih hrest fun y hy => h y (List.mem_cons_of_mem x hy)
      omega

theorem sumOf_perm {l m : List Int} (h : l.Perm m) : sumOf l = sumOf m := by
  induction h with
  | nil => rfl
  | cons x _ ih => rw [sumOf_cons, sumOf_cons, ih]
  | swap x y l =>
    simp only [sumOf_cons]
    omega
  | trans _ _ ih₁ ih₂ => exact ih₁.trans ih₂

theorem sumOf_le_of_sublist {l m : List Int} (h : l.Sublist m) (hm : ∀ x ∈ m, 0 ≤ x) :
    sumOf l ≤ sumOf m := by
  induction h with
  | slnil => exact Int.le_refl _
  | cons x _ ih =>
    obtain ⟨hx, hrest⟩ := List.forall_mem_cons.1 hm
    have := ih hrest
    rw [sumOf_cons]
    omega
  | cons_cons x _ ih =>
    have := ih (List.forall_mem_cons.1 hm).2
    rw [sumOf_cons, sumOf_cons]
    omega

/-! ## Occurrences -/

theorem sumOf_map_eq [DecidableEq α] {x : α} {l : List α} (hl : l.Nodup) (hx : x ∈ l) :
    sumOf (l.map fun y => if x = y then 1 else 0) = 1 := by
  induction l with
  | nil => cases hx
  | cons z rest ih =>
    obtain ⟨hz, hrest⟩ := List.nodup_cons.1 hl
    rw [List.map_cons, sumOf_cons]
    rcases List.mem_cons.1 hx with rfl | hrest'
    · rw [if_pos rfl, sumOf_map_zero]
      · rfl
      · intro y hy
        rw [if_neg]
        rintro rfl
        exact hz hy
    · have hne : x ≠ z := by
        rintro rfl
        exact hz hrest'
      rw [if_neg hne, ih hrest hrest']
      rfl

/-- All occurrences of a list's elements in another list, when nothing else occurs there. -/
theorem sumOf_map_count [DecidableEq α] {l : List α} (hl : l.Nodup) {picked : List α}
    (h : ∀ x ∈ picked, x ∈ l) : sumOf (l.map fun x => (picked.count x : Int)) = picked.length := by
  induction picked with
  | nil => exact sumOf_map_zero fun _ _ => rfl
  | cons x rest ih =>
    have hrest := ih fun y hy => h y (List.mem_cons_of_mem x hy)
    have hx := sumOf_map_eq hl (h x List.mem_cons_self)
    have hcount : ∀ y, ((x :: rest).count y : Int) = rest.count y + if x = y then 1 else 0 := by
      intro y
      rw [List.count_cons]
      by_cases he : x = y <;> simp [he]
    simp only [hcount]
    rw [sumOf_map_add, hrest, hx, List.length_cons, Int.natCast_add]
    rfl

/-! ## Look-ups -/

theorem exists_of_map_eq {β γ : Type} {f : α → γ} {g : β → γ} {l : List α} {m : List β}
    (h : l.map f = m.map g) {x : α} (hx : x ∈ l) : ∃ y ∈ m, f x = g y := by
  have hmem : f x ∈ m.map g := h ▸ List.mem_map_of_mem hx
  obtain ⟨y, hy, he⟩ := List.mem_map.1 hmem
  exact ⟨y, hy, he.symm⟩

theorem find?_of_nodup_map {κ : Type} [DecidableEq κ] {key : α → κ} {x : α} {l : List α}
    (hd : (l.map key).Nodup) (hx : x ∈ l) : l.find? (key · = key x) = some x := by
  induction l with
  | nil => cases hx
  | cons y rest ih =>
    obtain ⟨hy, hrest⟩ := List.nodup_cons.1 hd
    rcases List.mem_cons.1 hx with rfl | hx
    · exact List.find?_cons_of_pos (by simp)
    · have hne : key y ≠ key x := fun he => hy (List.mem_map.2 ⟨x, hx, he.symm⟩)
      rw [List.find?_cons_of_neg (by simp [hne]), ih hrest hx]

theorem filter_of_nodup_map {κ : Type} [DecidableEq κ] {key : α → κ} {x : α} {l : List α}
    (hd : (l.map key).Nodup) (hx : x ∈ l) : l.filter (key · = key x) = [x] := by
  induction l with
  | nil => cases hx
  | cons y rest ih =>
    obtain ⟨hy, hrest⟩ := List.nodup_cons.1 hd
    rcases List.mem_cons.1 hx with rfl | hx
    · have hnone : rest.filter (key · = key x) = [] :=
        List.filter_eq_nil_iff.2 fun z hz he =>
          hy (List.mem_map.2 ⟨z, hz, of_decide_eq_true he⟩)
      rw [List.filter_cons_of_pos (by simp), hnone]
    · have hne : key y ≠ key x := fun he => hy (List.mem_map.2 ⟨x, hx, he.symm⟩)
      rw [List.filter_cons_of_neg (by simp [hne]), ih hrest hx]

/-- The values of keyed elements add up to what is found under all the keys there are. -/
theorem sumOf_map_find? {β : Type} {key : α → Int} {key' : β → Int} (f : β → Int) {l : List α}
    {m : List β} (hl : (l.map key).Nodup) (hm : (m.map key').Nodup)
    (hkeys : ∀ y ∈ m, key' y ∈ l.map key) :
    sumOf (l.map fun x => ((m.find? (key' · = key x)).map f).getD 0) = sumOf (m.map f) := by
  induction m with
  | nil => exact sumOf_map_zero fun _ _ => rfl
  | cons y rest ih =>
    obtain ⟨hy, hrest⟩ := List.nodup_cons.1 hm
    have hsplit : ∀ x, (((y :: rest).find? (key' · = key x)).map f).getD 0 =
        f y * (if key' y = key x then 1 else 0) + ((rest.find? (key' · = key x)).map f).getD 0 := by
      intro x
      by_cases hx : key' y = key x
      · have hnone : rest.find? (key' · = key x) = none :=
          List.find?_eq_none.2 fun z hz he =>
            hy (List.mem_map.2 ⟨z, hz, (of_decide_eq_true he).trans hx.symm⟩)
        simp [hx, hnone]
      · simp [hx]
    have hone : sumOf (l.map fun x => if key' y = key x then 1 else 0) = 1 := by
      have h := sumOf_map_eq hl (hkeys y List.mem_cons_self)
      rwa [List.map_map] at h
    simp only [hsplit]
    rw [sumOf_map_add, sumOf_map_mul, hone, ih hrest fun z hz => hkeys z (List.mem_cons_of_mem y hz),
      List.map_cons, sumOf_cons]
    omega

/-- Two lists with the same different keys have the same values when every element of the first has
that of one of the second under its key. -/
theorem map_eq_of_keys {β γ : Type} {key : α → Int} {key' : β → Int} {f : α → γ} {g : β → γ}
    {l : List α} {m : List β} (hkeys : l.map key = m.map key') (hd : (m.map key').Nodup)
    (h : ∀ x ∈ l, ∃ y ∈ m, key' y = key x ∧ f x = g y) : l.map f = m.map g := by
  induction l generalizing m with
  | nil =>
    rw [List.map_nil, eq_comm, List.map_eq_nil_iff] at hkeys
    rw [hkeys, List.map_nil, List.map_nil]
  | cons x rest ih =>
    obtain ⟨y, more, rfl⟩ : ∃ y more, m = y :: more := by
      cases m with
      | nil => cases hkeys
      | cons y more => exact ⟨y, more, rfl⟩
    rw [List.map_cons, List.map_cons, List.cons.injEq] at hkeys
    obtain ⟨hy, hmore⟩ := List.nodup_cons.1 hd
    obtain ⟨z, hz, hzkey, hf⟩ := h x List.mem_cons_self
    have hzy : z = y := by
      rcases List.mem_cons.1 hz with rfl | hz
      · rfl
      · exact absurd (List.mem_map.2 ⟨z, hz, hzkey.trans hkeys.1⟩) hy
    subst hzy
    rw [List.map_cons, List.map_cons, hf]
    congr 1
    apply ih hkeys.2 hmore
    intro x' hx'
    obtain ⟨z', hz', hkey', hf'⟩ := h x' (List.mem_cons_of_mem x hx')
    rcases List.mem_cons.1 hz' with rfl | hz'
    · -- the key of the first element is not met again
      have : key x' ∈ more.map key' := hkeys.2 ▸ List.mem_map_of_mem hx'
      exact absurd (hkey' ▸ this) hy
    · exact ⟨z', hz', hkey', hf'⟩

theorem filterMap_eq_of_keys {β : Type} {key : α → Int} {key' : β → Int} {f : α → Option β}
    {l : List α} {m : List β} (hkeys : l.map key = m.map key') (hd : (m.map key').Nodup)
    (h : ∀ x ∈ l, ∃ y ∈ m, key' y = key x ∧ f x = some y) : l.filterMap f = m := by
  have hmap : l.map f = m.map some := map_eq_of_keys hkeys hd h
  calc l.filterMap f = (l.map f).filterMap id := by rw [List.filterMap_map, Function.id_comp]
    _ = m := by rw [hmap, List.filterMap_map, Function.id_comp, List.filterMap_some]

/-! ## Lists side by side -/

theorem forall₂_trans {r : α → α → Prop} (h : ∀ x y z, r x y → r y z → r x z) {l m n : List α}
    (h₁ : List.Forall₂ r l m) (h₂ : List.Forall₂ r m n) : List.Forall₂ r l n := by
  induction h₁ generalizing n with
  | nil => exact h₂
  | cons hxy _ ih =>
    cases h₂ with
    | cons hyz hrest => exact .cons (h _ _ _ hxy hyz) (ih hrest)

end RaceBook
