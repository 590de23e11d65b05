import RaceBook.Store.Session

/-!
# How sessions end

When results of other kinds are used in a session (`Session.liftRating_eq_ok`,
`Session.liftNumber_eq_ok`), what checks and readings give (`Session.check_of`,
`Session.read_apply`), when a session is refused, for which cause and in which book (the lemmas
ending in `eq_error`), when one step is taken for each element of a list
(`Session.forM_cons_eq_ok`), and whether what a session gives passes a test (`Session.yields`) or it
is refused (`Session.refused`).
-/

namespace RaceBook.Session

variable {R α β : Type} {a : α} {u : Unit} {book later : Book R}

@[simp] theorem liftRating_eq_ok {x : Except (Glicko.RatingFault R) α} :
    (liftM x : Session R α) book = .ok a later ↔ x = .ok a ∧ book = later := by
  cases x with
  | error e =>
    change EStateM.Result.error (Fault.rating e) book = .ok a later ↔ _
    simp
  | ok b =>
    change EStateM.Result.ok b book = .ok a later ↔ _
    simp

@[simp] theorem liftNumber_eq_ok {x : Except NumberFault α} :
    (liftM x : Session R α) book = .ok a later ↔ x = .ok a ∧ book = later := by
  cases x with
  | error e =>
    change EStateM.Result.error (Fault.rating (.number e)) book = .ok a later ↔ _
    simp
  | ok b =>
    change EStateM.Result.ok b book = .ok a later ↔ _
    simp

/-! ## Steps that leave the book as it is -/

theorem check_of {condition : Bool} {fault : Fault R} (h : condition = true) :
    check condition fault book = .ok () book :=
  check_eq_ok.2 ⟨h, rfl⟩

theorem read_apply (f : Book R → α) : read f book = .ok (f book) book := rfl

/-! ## When a session is refused -/

section

variable {fault fault' : Fault R}

@[simp] theorem pure_eq_error : (pure a : Session R α) book = .error fault later ↔ False := by
  change EStateM.Result.ok a book = .error fault later ↔ _
  simp

@[simp] theorem throw_eq_error :
    (throw fault' : Session R α) book = .error fault later ↔ fault' = fault ∧ book = later := by
  change EStateM.Result.error fault' book = .error fault later ↔ _
  simp

@[simp] theorem get_eq_error :
    (get : Session R (Book R)) book = .error fault later ↔ False := by
  change EStateM.Result.ok book book = .error fault later ↔ _
  simp

@[simp] theorem modify_eq_error {f : Book R → Book R} :
    (modify f : Session R Unit) book = .error fault later ↔ False := by
  change EStateM.Result.ok () (f book) = .error fault later ↔ _
  simp

@[simp] theorem read_eq_error {f : Book R → α} : read f book = .error fault later ↔ False := by
  change EStateM.Result.ok (f book) book = .error fault later ↔ _
  simp

@[simp] theorem demand_eq_error {value? : Option α} :
    demand value? fault' book = .error fault later ↔
      value? = none ∧ fault' = fault ∧ book = later := by
  cases value? <;> simp [demand]

@[simp] theorem check_eq_error {condition : Bool} :
    check condition fault' book = .error fault later ↔
      condition = false ∧ fault' = fault ∧ book = later := by
  cases condition <;> simp [check]

@[simp] theorem liftNumber_eq_error {x : Except NumberFault α} :
    (liftM x : Session R α) book = .error fault later ↔
      ∃ bad, x = .error bad ∧ .rating (.number bad) = fault ∧ book = later := by
  cases x with
  | error bad =>
    change EStateM.Result.error (Fault.rating (.number bad)) book = .error fault later ↔ _
    simp
  | ok a =>
    change EStateM.Result.ok a book = .error fault later ↔ _
    simp

@[simp] theorem bind_eq_error {s : Session R α} {next : α → Session R β} :
    (s >>= next) book = .error fault later ↔
      s book = .error fault later ∨ ∃ a mid, s book = .ok a mid ∧ next a mid = .error fault later := by
  simp only [bind, EStateM.bind]
  cases s book with
  | error e mid => simp
  | ok a mid =>
    constructor
    · exact fun h => .inr ⟨a, mid, rfl, h⟩
    · rintro (hfirst | ⟨_, _, hfirst, hnext⟩)
      · cases hfirst
      · cases hfirst
        exact hnext

@[simp] theorem map_eq_error {s : Session R α} {f : α → β} :
    (f <$> s) book = .error fault later ↔ s book = .error fault later := by
  simp only [Functor.map, EStateM.map]
  cases s book <;> simp

end

/-! ## One step for each element of a list -/

@[simp] theorem forM_nil_eq_ok {f : β → Session R Unit} :
    ([] : List β).forM f book = .ok u later ↔ book = later := by
  change (pure () : Session R Unit) book = .ok u later ↔ _
  simp

@[simp] theorem forM_cons_eq_ok {f : β → Session R Unit} {x : β} {rest : List β} :
    (x :: rest).forM f book = .ok u later ↔
      ∃ mid, f x book = .ok () mid ∧ rest.forM f mid = .ok u later := by
  change (f x >>= fun _ => rest.forM f) book = .ok u later ↔ _
  rw [bind_eq_ok]
  constructor
  · rintro ⟨_, mid, hx, hrest⟩
    exact ⟨mid, hx, hrest⟩
  · rintro ⟨mid, hx, hrest⟩
    exact ⟨(), mid, hx, hrest⟩

/-! ## Tests of what a session gives -/

/-- Whether the session ends well and gives something that passes a test. -/
def yields (s : Session R α) (test : α → Bool) (book : Book R) : Bool :=
  match s book with
  | .ok a _ => test a
  | .error .. => false

theorem exists_of_yields {s : Session R α} {test : α → Bool} (h : s.yields test book = true) :
    ∃ a later, s book = .ok a later ∧ test a = true := by
  unfold yields at h
  split at h
  next a later hrun => exact ⟨a, later, hrun, h⟩
  next => cases h

def refused (s : Session R α) (book : Book R) : Bool :=
  match s book with
  | .ok .. => false
  | .error .. => true

theorem exists_of_refused {s : Session R α} (h : s.refused book = true) :
    ∃ fault later, s book = .error fault later := by
  unfold refused at h
  split at h
  next => cases h
  next fault later hrun => exact ⟨fault, later, hrun⟩

end RaceBook.Session
