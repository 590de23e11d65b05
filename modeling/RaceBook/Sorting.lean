/-!
# Sorting

`sortedBy before` puts a list in order by insertion; of two elements each of which may come before
the other, the first one stays first. Insertion follows the list, so an order of given elements can
be computed inside a proof.

* `perm_sortedBy` : nothing is lost or added;
* `pairwise_sortedBy` : what comes earlier may come before all that follows;
* `map_sortedBy` : sorting by what stands in a field of the elements.
-/

namespace RaceBook

variable {α : Type} {before : α → α → Bool}

/-- An element put before the first one that it may come before. -/
def insertBy (before : α → α → Bool) (x : α) : List α → List α
  | [] => [x]
  | y :: rest => if before x y then x :: y :: rest else y :: insertBy before x rest

def sortedBy (before : α → α → Bool) (l : List α) : List α := l.foldr (insertBy before) []

theorem perm_insertBy (x : α) (l : List α) : (insertBy before x l).Perm (x :: l) := by
  induction l with
  | nil => exact .refl _
  | cons y rest ih =>
    rw [insertBy]
    split
    · exact .refl _
    · exact (ih.cons y).trans (.swap x y rest)

theorem perm_sortedBy (l : List α) : (sortedBy before l).Perm l := by
  induction l with
  | nil => exact .refl _
  | cons x rest ih => exact (perm_insertBy x _).trans (ih.cons x)

@[simp] theorem mem_sortedBy {x : α} {l : List α} : x ∈ sortedBy before l ↔ x ∈ l :=
  (perm_sortedBy l).mem_iff

/-- Among elements on which the order is a total preorder, insertion keeps it. -/
theorem pairwise_insertBy (good : α → Prop)
    (total : ∀ x y, good x → good y → before x y || before y x)
    (trans : ∀ x y z, good x → good y → good z → before x y → before y z → before x z)
    {x : α} (hx : good x) {l : List α} (hl : ∀ y ∈ l, good y) (h : l.Pairwise (before · ·)) :
    (insertBy before x l).Pairwise (before · ·) := by
  induction l with
  | nil => simp [insertBy]
  | cons y rest ih =>
    have hgood := hl y List.mem_cons_self
    have hrest := fun z hz => hl z (List.mem_cons_of_mem y hz)
    have hy := (List.pairwise_cons.1 h).1
    rw [insertBy]
    split
    next hxy =>
      refine List.pairwise_cons.2 ⟨fun z hz => ?_, h⟩
      rcases List.mem_cons.1 hz with rfl | hz
      · exact hxy
      · exact trans _ _ _ hx hgood (hrest z hz) hxy (hy z hz)
    next hxy =>
      refine List.pairwise_cons.2 ⟨fun z hz => ?_, ih hrest (List.pairwise_cons.1 h).2⟩
      rcases List.mem_cons.1 ((perm_insertBy x rest).mem_iff.1 hz) with rfl | hz
      · simpa [hxy] using total z y hx hgood
      · exact hy z hz

/-- A list whose elements are totally ordered is put in this order, whatever the order is on other
elements. -/
theorem pairwise_sortedBy_of_forall (good : α → Prop)
    (total : ∀ x y, good x → good y → before x y || before y x)
    (trans : ∀ x y z, good x → good y → good z → before x y → before y z → before x z)
    {l : List α} (hl : ∀ x ∈ l, good x) : (sortedBy before l).Pairwise (before · ·) := by
  induction l with
  | nil => exact .nil
  | cons x rest ih =>
    have hrest := fun y hy => hl y (List.mem_cons_of_mem x hy)
    exact pairwise_insertBy good total trans (hl x List.mem_cons_self)
      (fun y hy => hrest y (mem_sortedBy.1 hy)) (ih hrest)

theorem pairwise_sortedBy (total : ∀ x y, before x y || before y x)
    (trans : ∀ x y z, before x y → before y z → before x z) (l : List α) :
    (sortedBy before l).Pairwise (before · ·) :=
  pairwise_sortedBy_of_forall (fun _ => True) (fun x y _ _ => total x y)
    (fun x y z _ _ _ => trans x y z) fun _ _ => trivial

/-! ## Sorting by a field -/

variable {β : Type} {precedes : β → β → Bool}

theorem map_insertBy (f : α → β) (x : α) (l : List α) :
    (insertBy (fun x y => precedes (f x) (f y)) x l).map f = insertBy precedes (f x) (l.map f) := by
  induction l with
  | nil => rfl
  | cons y rest ih =>
    rw [insertBy, List.map_cons, insertBy]
    split
    · rfl
    · rw [List.map_cons, ih]

theorem map_sortedBy (f : α → β) (l : List α) :
    (sortedBy (fun x y => precedes (f x) (f y)) l).map f = sortedBy precedes (l.map f) := by
  induction l with
  | nil => rfl
  | cons x rest ih =>
    change (insertBy _ x (sortedBy _ rest)).map f = insertBy precedes (f x) (sortedBy _ (rest.map f))
    rw [map_insertBy, ih]

end RaceBook
