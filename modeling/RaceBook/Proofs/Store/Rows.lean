import RaceBook.Proofs.Lists
import RaceBook.Store.Table

/-!
# Rows of a changed table

* `Table.find?_append_of_find?` : what was found under a number is found after an append;
* `Table.sumOf_modify` : a sum over a table moves by what the changed row contributes to it;
* `Table.filter_modify` : a selection that the changed row is in neither before nor after is the
  same; `Table.filter_modify_of_stable` : one that a change does not touch has the changed rows;
* `Table.map_rows_modify_of_stable` : what is read of the rows is the same when a change leaves it
  alone.
-/

namespace RaceBook

namespace Table

variable {α : Type} {t : Table α} {id k : Int} {r : Row α} {data : α} {f : α → α}

/-! ## Look-ups -/

theorem mem_of_find? (h : t.find? id = some r) : r ∈ t.rows := (find?_eq_some_iff.1 h).1

theorem id_of_find? (h : t.find? id = some r) : r.id = id := (find?_eq_some_iff.1 h).2

theorem find?_of_mem (h : r ∈ t.rows) : t.find? r.id = some r := find?_eq_some_iff.2 ⟨h, rfl⟩

theorem eq_of_id_eq {s : Row α} (hr : r ∈ t.rows) (hs : s ∈ t.rows) (h : r.id = s.id) : r = s := by
  have hfound := find?_of_mem hr
  rw [h, find?_of_mem hs] at hfound
  exact (Option.some.inj hfound).symm

theorem ne_nextId_of_find? (h : t.find? id = some r) : id ≠ t.nextId := by
  have := (id_bounds_of_mem (mem_of_find? h)).2
  rw [id_of_find? h] at this
  omega

theorem find?_append_of_find? (h : t.find? id = some r) : (t.append data).find? id = some r := by
  rw [find?_append, if_neg (ne_nextId_of_find? h), h]

@[simp] theorem find?_append_nextId : (t.append data).find? t.nextId = some ⟨t.nextId, data⟩ := by
  rw [find?_append, if_pos rfl]

@[simp] theorem nextId_append : (t.append data).nextId = t.nextId + 1 := by
  simp [nextId]

@[simp] theorem nextId_modify : (t.modify k f).nextId = t.nextId := by
  simp [nextId]

theorem find?_modify_of_ne (h : id ≠ k) : (t.modify k f).find? id = t.find? id := by
  rw [find?_modify]
  simp [h]

theorem find?_modify_self (h : t.find? id = some r) :
    (t.modify id f).find? id = some ⟨r.id, f r.data⟩ := by
  rw [find?_modify, h, Option.map_some, if_pos rfl]

theorem isSome_find?_modify : ((t.modify k f).find? id).isSome = (t.find? id).isSome := by
  rw [find?_modify, Option.isSome_map]

theorem ext_rows {t u : Table α} (h : t.rows = u.rows) : t = u := by
  cases t
  cases u
  cases h
  rfl

theorem modify_eq_self (h : ∀ r, t.find? id = some r → f r.data = r.data) :
    t.modify id f = t := by
  apply ext_rows
  rw [rows_modify]
  refine (List.map_congr_left fun s hs => ?_).trans (List.map_id _)
  rw [id_eq]
  split
  next hid => rw [h s (hid ▸ find?_of_mem hs)]
  next => rfl

theorem modify_modify {g : α → α} :
    (t.modify id f).modify id g = t.modify id (fun data => g (f data)) := by
  apply ext_rows
  rw [rows_modify, rows_modify, rows_modify, List.map_map]
  apply List.map_congr_left
  intro s _
  by_cases hid : s.id = id <;> simp [hid]

theorem modify_comm {g : α → α} (h : ∀ data, f (g data) = g (f data)) :
    (t.modify k f).modify id g = (t.modify id g).modify k f := by
  apply ext_rows
  rw [rows_modify, rows_modify, rows_modify, rows_modify, List.map_map, List.map_map]
  apply List.map_congr_left
  intro s _
  rw [Function.comp_apply, Function.comp_apply]
  by_cases hk : s.id = k
  · subst hk
    by_cases hid : s.id = id <;> simp [hid, h]
  · by_cases hid : s.id = id
    · subst hid
      simp [hk]
    · simp [hk, hid]

theorem modify_append (h : k ≠ t.nextId) :
    (t.append data).modify k f = (t.modify k f).append data := by
  apply ext_rows
  rw [rows_modify, rows_append, rows_append, rows_modify, List.map_append, List.map_singleton,
    if_neg h.symm, nextId_modify]

theorem find?_rows_modify {p : Row α → Bool} (h : ∀ r, p ⟨r.id, f r.data⟩ = p r) :
    (t.modify k f).rows.find? p =
      (t.rows.find? p).map fun r => if r.id = k then ⟨r.id, f r.data⟩ else r := by
  have hsame : (p ∘ fun r => if r.id = k then (⟨r.id, f r.data⟩ : Row α) else r) = p := by
    funext r
    rw [Function.comp_apply]
    split
    · exact h r
    · rfl
  rw [rows_modify, List.find?_map, hsame]

theorem pairwise_ids (t : Table α) : t.rows.Pairwise fun r s => r.id < s.id := by
  have hpairwise : (numbers t.rows.length).Pairwise (· < ·) :=
    List.pairwise_map.2 (List.pairwise_lt_range.imp fun h => by omega)
  rw [← t.map_id_rows, List.pairwise_map] at hpairwise
  exact hpairwise

theorem id_lt_last {before : List (Row α)} (h : t.rows = before ++ [r]) {s : Row α}
    (hs : s ∈ before) : s.id < r.id := by
  have hpairwise := t.pairwise_ids
  rw [h, List.pairwise_append] at hpairwise
  exact hpairwise.2.2 s hs r (List.mem_singleton.2 rfl)

theorem rows_modify_last {before : List (Row α)} (h : t.rows = before ++ [r]) :
    (t.modify r.id f).rows = before ++ [⟨r.id, f r.data⟩] := by
  have hn := t.nodup_ids
  rw [h, List.map_append, List.nodup_append] at hn
  rw [rows_modify, h, List.map_append, List.map_singleton, if_pos rfl]
  congr 1
  refine (List.map_congr_left fun s hs => if_neg ?_).trans (List.map_id _)
  exact hn.2.2 s.id (List.mem_map_of_mem hs) r.id (List.mem_singleton.2 rfl)

/-! ## Several records added -/

def appendAll (t : Table α) (l : List α) : Table α := l.foldl append t

theorem exists_rows_appendAll (t : Table α) (l : List α) :
    ∃ added, (t.appendAll l).rows = t.rows ++ added ∧ added.map (·.data) = l := by
  induction l generalizing t with
  | nil => exact ⟨[], (List.append_nil _).symm, rfl⟩
  | cons data rest ih =>
    obtain ⟨added, hrows, hdata⟩ := ih (t.append data)
    refine ⟨⟨t.nextId, data⟩ :: added, ?_, by rw [List.map_cons, hdata]⟩
    change ((t.append data).appendAll rest).rows = _
    rw [hrows, rows_append, List.append_assoc, List.singleton_append]

/-! ## Sums and selections -/

theorem sumOf_append (φ : Row α → Int) :
    sumOf ((t.append data).rows.map φ) = sumOf (t.rows.map φ) + φ ⟨t.nextId, data⟩ := by
  simp

theorem sumOf_map_unchanged (φ : Row α → Int) {rows : List (Row α)} (h : ∀ s ∈ rows, s.id ≠ id) :
    sumOf ((rows.map fun s => if s.id = id then ⟨s.id, f s.data⟩ else s).map φ) =
      sumOf (rows.map φ) := by
  rw [List.map_map]
  congr 1
  apply List.map_congr_left
  intro s hs
  rw [Function.comp_apply, if_neg (h s hs)]

/-- A change of one row moves a sum by what that row contributes after and before. -/
theorem sumOf_modify (φ : Row α → Int) (h : t.find? id = some r) :
    sumOf ((t.modify id f).rows.map φ) = sumOf (t.rows.map φ) + (φ ⟨r.id, f r.data⟩ - φ r) := by
  have hn := t.nodup_ids
  obtain ⟨hr, rfl⟩ := find?_eq_some_iff.1 h
  rw [rows_modify]
  generalize t.rows = rows at hn hr
  induction rows with
  | nil => cases hr
  | cons s rest ih =>
    obtain ⟨hs, hrest⟩ := List.nodup_cons.1 hn
    rcases List.mem_cons.1 hr with rfl | hr
    · -- the row is in front, and no later row has its number
      have hne : ∀ s ∈ rest, s.id ≠ r.id := fun s hm he => hs (List.mem_map.2 ⟨s, hm, he⟩)
      rw [List.map_cons, if_pos rfl, List.map_cons, List.map_cons, sumOf_cons, sumOf_cons,
        sumOf_map_unchanged φ hne]
      omega
    · have hne : s.id ≠ r.id := fun he => hs (List.mem_map.2 ⟨r, hr, he.symm⟩)
      rw [List.map_cons, if_neg hne, List.map_cons, List.map_cons, sumOf_cons, sumOf_cons,
        ih hrest hr]
      omega

theorem filter_modify {p : Row α → Bool}
    (h : ∀ r, t.find? id = some r → p r = false ∧ p ⟨r.id, f r.data⟩ = false) :
    (t.modify id f).rows.filter p = t.rows.filter p := by
  rw [rows_modify, List.filter_map]
  have hsame : ∀ s ∈ t.rows,
      (p ∘ fun s => if s.id = id then ⟨s.id, f s.data⟩ else s) s = p s := by
    intro s hs
    rw [Function.comp_apply]
    split
    next hid =>
      have := h s (hid ▸ find?_of_mem hs)
      rw [this.1, this.2]
    next => rfl
  rw [List.filter_congr hsame]
  refine (List.map_congr_left ?_).trans (List.map_id _)
  intro s hs
  obtain ⟨hs, hp⟩ := List.mem_filter.1 hs
  by_cases hid : s.id = id
  · have := (h s (hid ▸ find?_of_mem hs)).1
    rw [this] at hp
    cases hp
  · rw [if_neg hid, id_eq]

theorem map_rows_modify_of_stable {β : Type} {g : Row α → β} (h : ∀ r, g ⟨r.id, f r.data⟩ = g r) :
    (t.modify id f).rows.map g = t.rows.map g := by
  rw [rows_modify, List.map_map]
  apply List.map_congr_left
  intro s _
  rw [Function.comp_apply]
  split
  · exact h s
  · rfl

theorem filter_modify_of_stable {p : Row α → Bool} (h : ∀ r, p ⟨r.id, f r.data⟩ = p r) :
    (t.modify id f).rows.filter p =
      (t.rows.filter p).map fun s => if s.id = id then ⟨s.id, f s.data⟩ else s := by
  rw [rows_modify, List.filter_map]
  congr 1
  apply List.filter_congr
  intro s _
  rw [Function.comp_apply]
  split
  · exact h s
  · rfl

end Table

end RaceBook
