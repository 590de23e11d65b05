/-!
# Tables

A table is a list of rows numbered from one. Rows are added at the end and changed in place, and
none is ever removed, so a row's number is its place.

* `Row` : a record with its number;
* `Table.append`, `Table.modify`, `Table.find?`;
* `Table.map_id_rows` : the numbers are `1, 2, …`.

The lemmas say what each operation does to `Table.rows` and to `Table.find?`.
-/

namespace RaceBook

structure Row (α : Type) where
  id : Int
  data : α
  deriving DecidableEq, Repr

def numbers (count : Nat) : List Int := (List.range count).map fun (k : Nat) => (k : Int) + 1

/-- Rows numbered from one. -/
structure Table (α : Type) where
  rows : List (Row α)
  map_id_rows : rows.map (·.id) = numbers rows.length
  deriving DecidableEq

namespace Table

variable {α : Type}

def empty : Table α := ⟨[], rfl⟩

instance : Inhabited (Table α) := ⟨empty⟩

def nextId (t : Table α) : Int := t.rows.length + 1

def append (t : Table α) (data : α) : Table α where
  rows := t.rows ++ [⟨t.nextId, data⟩]
  map_id_rows := by
    simp [numbers, List.range_succ, nextId, t.map_id_rows]

def find? (t : Table α) (id : Int) : Option (Row α) := t.rows.find? (·.id = id)

def modify (t : Table α) (id : Int) (f : α → α) : Table α where
  rows := t.rows.map fun r => if r.id = id then ⟨r.id, f r.data⟩ else r
  map_id_rows := by
    rw [List.length_map, ← t.map_id_rows, List.map_map]
    apply List.map_congr_left
    intro r _
    by_cases h : r.id = id <;> simp [h]

@[simp] theorem rows_append (t : Table α) (data : α) :
    (t.append data).rows = t.rows ++ [⟨t.nextId, data⟩] := rfl

@[simp] theorem rows_modify (t : Table α) (id : Int) (f : α → α) :
    (t.modify id f).rows = t.rows.map fun r => if r.id = id then ⟨r.id, f r.data⟩ else r := rfl

/-! ## Numbers and what is found under them -/

variable {t : Table α} {data : α} {f : α → α} {id k : Int} {r : Row α}

theorem nodup_numbers (count : Nat) : (numbers count).Nodup :=
  List.pairwise_map.2 (List.nodup_range.imp fun h => by omega)

theorem mem_numbers {count : Nat} {n : Int} : n ∈ numbers count ↔ 1 ≤ n ∧ n ≤ count := by
  simp only [numbers, List.mem_map, List.mem_range]
  constructor
  · rintro ⟨k, hk, rfl⟩
    omega
  · exact fun h => ⟨(n - 1).toNat, by omega, by omega⟩

theorem nodup_ids (t : Table α) : (t.rows.map (·.id)).Nodup := t.map_id_rows ▸ nodup_numbers _

theorem id_bounds_of_mem (h : r ∈ t.rows) : 1 ≤ r.id ∧ r.id < t.nextId := by
  have hid : r.id ∈ t.rows.map (·.id) := List.mem_map_of_mem h
  rw [t.map_id_rows, mem_numbers] at hid
  simp only [nextId]
  omega

theorem find?_eq_some_iff : t.find? id = some r ↔ r ∈ t.rows ∧ r.id = id := by
  have hn := t.nodup_ids
  simp only [find?]
  generalize t.rows = rows at hn ⊢
  induction rows with
  | nil => simp
  | cons s rest ih => grind

@[simp] theorem find?_append :
    (t.append data).find? id =
      if id = t.nextId then some ⟨t.nextId, data⟩ else t.find? id := by
  have hr : ∀ r ∈ t.rows, r.id < t.nextId := fun r h => (id_bounds_of_mem h).2
  simp only [find?, rows_append, List.find?_append]
  grind

@[simp] theorem find?_modify :
    (t.modify k f).find? id =
      (t.find? id).map fun r => if id = k then ⟨r.id, f r.data⟩ else r := by
  simp only [find?, rows_modify]
  induction t.rows with
  | nil => simp
  | cons s rest ih => grind

end Table

end RaceBook
