import RaceBook.Fault

/-!
# Sessions

A session reads and writes the book until it ends or is refused. What it wrote before a refusal
stays in the book unless the session is run `atomically`.

* `Session` : computations on the book;
* `atomically` : all of a session or nothing;
* `attempt` : a session whose refusal is an answer;
* `demand`, `check` : a value, or a condition, or a refusal.

The lemmas ending in `eq_ok` say when a session ends well, with which answer and in which book.
-/

namespace RaceBook

/-- A computation on the book that may be refused. -/
abbrev Session (R : Type) := EStateM (Fault R) (Book R)

variable {R : Type}

instance : MonadLift (Except (Glicko.RatingFault R)) (EStateM (Fault R) (Book R)) where
  monadLift
    | .ok x => pure x
    | .error e => throw (.rating e)

instance : MonadLift (Except NumberFault) (EStateM (Fault R) (Book R)) where
  monadLift
    | .ok x => pure x
    | .error e => throw (.rating (.number e))

namespace Session

/-- A session that leaves no trace when it is refused. -/
def atomically {α : Type} (s : Session R α) : Session R α := fun book =>
  match s book with
  | .ok a after => .ok a after
  | .error e _ => .error e book

def demand {α : Type} (value? : Option α) (fault : Fault R) : Session R α :=
  match value? with
  | some a => pure a
  | none => throw fault

def check (condition : Bool) (fault : Fault R) : Session R Unit :=
  if condition then pure () else throw fault

/-- What comes of a session, a refusal included. -/
def attempt {α : Type} (s : Session R α) : Session R (Except (Fault R) α) := fun book =>
  match s book with
  | .ok a after => .ok (.ok a) after
  | .error e after => .ok (.error e) after

/-- Whether a row may hold the number: it fits a signed word of 64 bits. -/
def isStorable (n : Int) : Bool := -9223372036854775808 ≤ n ∧ n < 9223372036854775808

def checkRange (n : Int) : Session R Unit := check (isStorable n) (.outOfRange n)

def read {α : Type} (f : Book R → α) : Session R α := do return f (← get)

/-! ## When a session ends well -/

section

variable {α β : Type} {a b : α} {c : β} {u : Unit} {book later : Book R} {fault : Fault R}

@[simp] theorem pure_eq_ok :
    (pure a : Session R α) book = .ok b later ↔ a = b ∧ book = later := by
  change EStateM.Result.ok a book = .ok b later ↔ _
  simp

@[simp] theorem bind_eq_ok {s : Session R α} {next : α → Session R β} :
    (s >>= next) book = .ok c later ↔
      ∃ a mid, s book = .ok a mid ∧ next a mid = .ok c later := by
  simp only [bind, EStateM.bind]
  cases s book with
  | error e mid => simp
  | ok a mid =>
    constructor
    · exact fun h => ⟨a, mid, rfl, h⟩
    · rintro ⟨_, _, h, hn⟩
      cases h
      exact hn

@[simp] theorem map_eq_ok {s : Session R α} {f : α → β} :
    (f <$> s) book = .ok c later ↔ ∃ a, s book = .ok a later ∧ f a = c := by
  simp only [Functor.map, EStateM.map]
  cases s book with
  | error e mid => simp
  | ok a mid => simp only [EStateM.Result.ok.injEq]; grind

@[simp] theorem throw_eq_ok : (throw fault : Session R α) book = .ok a later ↔ False := by
  change EStateM.Result.error fault book = .ok a later ↔ _
  simp

@[simp] theorem get_eq_ok {known : Book R} :
    (get : Session R (Book R)) book = .ok known later ↔ book = known ∧ book = later := by
  change EStateM.Result.ok book book = .ok known later ↔ _
  simp

@[simp] theorem set_eq_ok {next : Book R} :
    (set next : Session R Unit) book = .ok u later ↔ next = later := by
  change EStateM.Result.ok () next = .ok u later ↔ _
  simp

@[simp] theorem modify_eq_ok {f : Book R → Book R} :
    (modify f : Session R Unit) book = .ok u later ↔ f book = later := by
  change EStateM.Result.ok () (f book) = .ok u later ↔ _
  simp

@[simp] theorem read_eq_ok {f : Book R → α} :
    read f book = .ok a later ↔ f book = a ∧ book = later := by
  simp [read, and_comm]

@[simp] theorem demand_eq_ok {value? : Option α} :
    demand value? fault book = .ok a later ↔ value? = some a ∧ book = later := by
  cases value? <;> simp [demand]

@[simp] theorem check_eq_ok {condition : Bool} :
    check condition fault book = .ok u later ↔ condition = true ∧ book = later := by
  cases condition <;> simp [check]

@[simp] theorem checkRange_eq_ok {n : Int} :
    checkRange n book = .ok u later ↔ isStorable n = true ∧ book = later := check_eq_ok

@[simp] theorem atomically_eq_ok {s : Session R α} :
    atomically s book = .ok a later ↔ s book = .ok a later := by
  simp only [atomically]
  cases s book <;> simp

@[simp] theorem atomically_eq_error {s : Session R α} :
    atomically s book = .error fault later ↔ (∃ mid, s book = .error fault mid) ∧ book = later := by
  simp only [atomically]
  cases s book <;> simp

end

end Session

end RaceBook
