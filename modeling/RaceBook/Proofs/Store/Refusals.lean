import RaceBook.Proofs.Store.Sessions

/-!
# Causes of refusals

`Session.Spares excluded s book` : from this book the session is not refused for an excluded cause.
The lemmas say what that comes to for each way of building a session; a session built from others
spares what they spare, each from the book that the ones before it leave.
-/

namespace RaceBook.Session

variable {R α β : Type} {excluded : Fault R → Prop} {book : Book R} {fault : Fault R}

/-- From this book the session is not refused for an excluded cause. -/
def Spares (excluded : Fault R → Prop) (s : Session R α) (book : Book R) : Prop :=
  ∀ fault later, s book = .error fault later → ¬excluded fault

@[simp] theorem spares_pure {a : α} : Spares excluded (pure a) book :=
  fun _ _ h => nomatch h

@[simp] theorem spares_get : Spares excluded (get : Session R (Book R)) book :=
  fun _ _ h => nomatch h

@[simp] theorem spares_set {next : Book R} : Spares excluded (set next) book :=
  fun _ _ h => nomatch h

@[simp] theorem spares_modify {f : Book R → Book R} : Spares excluded (modify f) book :=
  fun _ _ h => nomatch h

@[simp] theorem spares_read {f : Book R → α} : Spares excluded (read f) book :=
  fun _ _ h => nomatch h

@[simp] theorem spares_throw :
    Spares excluded (throw fault : Session R α) book ↔ ¬excluded fault := by
  constructor
  · exact fun h => h fault book rfl
  · rintro h _ _ ⟨⟩
    exact h

@[simp] theorem spares_demand {value? : Option α} :
    Spares excluded (demand value? fault) book ↔ (value? = none → ¬excluded fault) := by
  cases value? with
  | none => simp [demand]
  | some a => simp [demand]

@[simp] theorem spares_check {condition : Bool} :
    Spares excluded (check condition fault) book ↔ (condition = false → ¬excluded fault) := by
  cases condition <;> simp [check]

@[simp] theorem spares_bind {s : Session R α} {next : α → Session R β} :
    Spares excluded (s >>= next) book ↔
      Spares excluded s book ∧ ∀ a mid, s book = .ok a mid → Spares excluded (next a) mid := by
  unfold Spares
  simp only [bind, EStateM.bind]
  cases s book with
  | error e mid => simp
  | ok a mid => simp

@[simp] theorem spares_map {s : Session R α} {f : α → β} :
    Spares excluded (f <$> s) book ↔ Spares excluded s book := by
  unfold Spares
  simp only [Functor.map, EStateM.map]
  cases s book <;> simp

@[simp] theorem spares_atomically {s : Session R α} :
    Spares excluded (atomically s) book ↔ Spares excluded s book := by
  unfold Spares
  simp only [atomically_eq_error]
  constructor
  · exact fun h fault later hs => h fault book ⟨⟨later, hs⟩, rfl⟩
  · rintro h fault _ ⟨⟨mid, hs⟩, -⟩
    exact h fault mid hs

@[simp] theorem spares_liftRating {x : Except (Glicko.RatingFault R) α} :
    Spares excluded (liftM x : Session R α) book ↔
      ∀ bad, x = .error bad → ¬excluded (.rating bad) := by
  cases x with
  | error bad =>
    change Spares excluded (throw (.rating bad) : Session R α) book ↔ _
    simp
  | ok a =>
    change Spares excluded (pure a : Session R α) book ↔ _
    simp

@[simp] theorem spares_liftNumber {x : Except NumberFault α} :
    Spares excluded (liftM x : Session R α) book ↔
      ∀ bad, x = .error bad → ¬excluded (.rating (.number bad)) := by
  cases x with
  | error bad =>
    change Spares excluded (throw (.rating (.number bad)) : Session R α) book ↔ _
    simp
  | ok a =>
    change Spares excluded (pure a : Session R α) book ↔ _
    simp

theorem spares_foldlM {f : β → α → Session R β} {l : List α} {b : β}
    (h : ∀ b a mid, Spares excluded (f b a) mid) : Spares excluded (l.foldlM f b) book := by
  induction l generalizing b book with
  | nil => exact spares_pure
  | cons a rest ih =>
    rw [List.foldlM_cons, spares_bind]
    exact ⟨h b a book, fun _ _ _ => ih⟩

theorem spares_forM {f : α → Session R Unit} {l : List α}
    (h : ∀ a mid, Spares excluded (f a) mid) : Spares excluded (forM l f) book := by
  induction l generalizing book with
  | nil => exact spares_pure
  | cons a rest ih =>
    rw [List.forM_cons, spares_bind]
    exact ⟨h a book, fun _ _ _ => ih⟩

end RaceBook.Session
