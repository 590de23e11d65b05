import RaceBook.Proofs.Operations
import RaceBook.Proofs.Player.Keys
import RaceBook.Proofs.Settlement.Once

/-!
# Players and their keys

* `Book.identities` : the numbers of the players, each with the key that is kept of them;
* `Event.identities_apply` : only who enters is added, at the end;
* `Book.Identified` : what is kept are keys, and no two players have the same (`Reachable.identified`);
* `Session.identity_of_register` : a registration answers with the player of its key;
* `register_identifies` : numbers and keys belong together, and nothing but a key is registered.
-/

namespace RaceBook

variable {R : Type} {book later : Book R} {m n : Int} {s t : String}

namespace Book

/-- The numbers of the players, each with the key that is kept of them. -/
def identities (book : Book R) : List (Int × String) :=
  book.players.rows.map fun p => (p.id, p.data.publicKey)

theorem identities_modify {player : Int} {f : Player R → Player R}
    (h : ∀ p, (f p).publicKey = p.publicKey) :
    { book with players := book.players.modify player f }.identities = book.identities :=
  Table.map_rows_modify_of_stable fun p => by rw [h]

theorem identities_refreshed (book : Book R) (player : Int) :
    (book.refreshed player).identities = book.identities := by
  unfold refreshed
  split
  · rfl
  · exact identities_modify fun _ => rfl

theorem identities_marked (book : Book R) (found : Row Period) :
    (book.marked found).identities = book.identities := by
  unfold marked
  split <;> rfl

variable [Arithmetic R]

theorem identities_withSnapshots (book : Book R) (ss : List (Snapshot R)) :
    (book.withSnapshots ss).identities = book.identities := by
  induction ss generalizing book with
  | nil => rfl
  | cons s rest ih => exact (ih _).trans (identities_refreshed _ _)

end Book

/-- What is kept are keys in lower case, and no two players have the same. -/
structure Book.Identified (book : Book R) : Prop where
  spelled : ∀ i ∈ book.identities, Spells isLowerHexDigit i.2
  distinct : (book.identities.map (·.2)).Nodup

theorem Book.Identified.of_identities (h : book.Identified)
    (hsame : later.identities = book.identities) : later.Identified :=
  ⟨hsame ▸ h.spelled, hsame ▸ h.distinct⟩

theorem Book.Identified.id_eq_iff (h : book.Identified) (hm : (m, s) ∈ book.identities)
    (hn : (n, t) ∈ book.identities) : n = m ↔ t = s := by
  have hids : (book.identities.map (·.1)).Nodup := by
    rw [Book.identities, List.map_map]
    exact book.players.nodup_ids
  constructor
  · exact fun heq => (Prod.ext_iff.1 (List.inj_on_of_nodup_map hids hn hm heq)).2
  · exact fun heq => (Prod.ext_iff.1 (List.inj_on_of_nodup_map h.distinct hn hm heq)).1

variable [Arithmetic R]

theorem Event.identities_apply (e : Event R) (book : Book R) :
    (e.apply book).identities = match e with
      | playerEntered key _ _ => book.identities ++ [(book.players.nextId, key.toLower)]
      | _ => book.identities := by
  cases e with
  | playerEntered key name initial => exact List.map_append
  | playerRenamed player name => exact Book.identities_modify fun _ => rfl
  | battleSettled found split now =>
    exact congrArg (fun players => (Table.rows players).map _)
      (Book.onlyPays_payAll book split.payouts).players
  | periodMarked found => exact book.identities_marked found
  | periodClosed config found endedAt => exact book.identities_withSnapshots _
  | snapshotTaken s => exact Book.identities_refreshed _ _
  | cacheRefreshed player => exact book.identities_refreshed player
  | _ => rfl

theorem Event.identities_prefix_apply (e : Event R) (book : Book R) :
    book.identities <+: (e.apply book).identities := by
  rw [identities_apply]
  cases e with
  | playerEntered key name initial => exact List.prefix_append _ _
  | _ => exact List.prefix_refl _

/-- Nobody's key is ever changed. -/
theorem Operation.identities_prefix_run (ops : List (Operation R)) (book : Book R) :
    book.identities <+: (Operation.run ops book).identities :=
  Operation.run_of_events ops (P := fun mid => book.identities <+: mid.identities)
    (fun mid e hmid _ => hmid.trans (e.identities_prefix_apply mid)) (List.prefix_refl _)

theorem Event.identified_apply {e : Event R} (he : e.Enabled book) (h : book.Identified) :
    (e.apply book).Identified := by
  have hidentities := e.identities_apply book
  cases e with
  | playerEntered key name initial =>
    obtain ⟨hkey, hfresh, -⟩ := he
    constructor
    · intro i hi
      rw [hidentities, List.mem_append, List.mem_singleton] at hi
      rcases hi with hi | rfl
      · exact h.spelled i hi
      · exact (isPublicKey_iff.1 hkey).toLower
    · rw [hidentities, List.map_append, List.map_singleton, List.nodup_append]
      refine ⟨h.distinct, List.nodup_singleton _, ?_⟩
      rintro s hs _ hnew rfl
      rw [List.mem_singleton] at hnew
      rw [Book.identities, List.map_map, List.mem_map] at hs
      obtain ⟨p, hp, rfl⟩ := hs
      exact hfresh p hp hnew
  | _ => exact h.of_identities hidentities

theorem Reachable.identified (h : Reachable book) : book.Identified :=
  h.induct ⟨fun _ hi => absurd hi List.not_mem_nil, List.nodup_nil⟩
    fun _ _ h he => Event.identified_apply he h

/-! ## Registrations -/

namespace Session

variable {key name : String} {initial : Standing R} {row : Row (Player R)}

/-- A registration answers with the player of its key. -/
theorem identity_of_register (h : register key name initial book = .ok row later) :
    row.data.publicKey = key.toLower ∧ (row.id, key.toLower) ∈ later.identities := by
  obtain ⟨-, h⟩ := register_eq_ok.1 h
  cases hknown : book.players.rows.find? (·.data.publicKey = key.toLower) with
  | some known =>
    rw [hknown] at h
    obtain ⟨rfl, rfl⟩ := h
    have hkey : known.data.publicKey = key.toLower := by
      simpa using List.find?_some hknown
    have hmem : (known.id, key.toLower) ∈ book.identities :=
      List.mem_map.2 ⟨known, List.mem_of_find?_eq_some hknown, by rw [hkey]⟩
    let renamed := book.players.modify known.id ({ · with displayName := name })
    have hsame : { book with players := renamed }.identities = book.identities :=
      Book.identities_modify fun _ => rfl
    exact ⟨hkey, hsame ▸ hmem⟩
  | none =>
    rw [hknown] at h
    obtain ⟨-, rfl, rfl⟩ := h
    exact ⟨rfl, List.mem_map.2 ⟨_, List.mem_append_right _ (List.mem_singleton.2 rfl), rfl⟩⟩

theorem register_of_not_isPublicKey (h : isPublicKey key = false) :
    register key name initial book = .error (.invalid (.publicKey key)) book := by
  rw [register, bind_eq_error]
  exact .inl (check_eq_error.2 ⟨h, rfl, rfl⟩)

theorem exists_register (h : isPublicKey key = true) (hinitial : initial.IsStorable) :
    ∃ row later, register key name initial book = .ok row later := by
  simp only [register_eq_ok, h, true_and]
  cases book.players.rows.find? (·.data.publicKey = key.toLower) with
  | some known => exact ⟨_, _, rfl, rfl⟩
  | none => exact ⟨_, _, hinitial, rfl, rfl⟩

end Session

theorem Operation.perform_register_eq_ok {key name : String} {initial : Standing R}
    {row : Row (Player R)} :
    (Operation.command (.register key name initial)).perform book = .ok (.player row) later ↔
      Session.register key name initial book = .ok row later := by
  refine Session.atomically_eq_ok.trans (Session.map_eq_ok.trans ?_)
  simp

/-! ## Who is registered -/

/-- **A player is known by their key**: two registrations answer with the same player just when
their keys are equal up to letter case, line end included; what is no key is refused. -/
theorem register_identifies (book : Book R) (h : Reachable book) :
    (∀ p ∈ book.players.rows, Spells isLowerHexDigit p.data.publicKey ∧
      (IsPlainKey p.data.publicKey ↔ '\n' ∉ p.data.publicKey.toList)) ∧
    (∀ key name initial row later,
      (Operation.command (.register key name initial)).perform book = .ok (.player row) later →
        row.data.publicKey = key.toLower ∧
        ∀ ops key' name' initial' row' last,
          (Operation.command (.register key' name' initial')).perform (Operation.run ops later) =
              .ok (.player row') last →
            (row'.id = row.id ↔ SameLetters key' key)) ∧
    ∀ key name initial,
      (¬Spells isHexDigit key →
        (Operation.command (.register key name initial)).perform book =
          .error (.invalid (.publicKey key)) book) ∧
      (Spells isHexDigit key → initial.IsStorable →
        ∃ row later, (Operation.command (.register key name initial)).perform book =
          .ok (.player row) later) := by
  refine ⟨fun p hp => ?_, fun key name initial row later hfirst => ?_, fun key name initial =>
    ⟨fun hnot => ?_, fun hkey hinitial => ?_⟩⟩
  · have hspelled := h.identified.spelled _ (List.mem_map_of_mem hp)
    exact ⟨hspelled, hspelled.isPlainKey_iff⟩
  · obtain ⟨hkey, hmem⟩ :=
      Session.identity_of_register (Operation.perform_register_eq_ok.1 hfirst)
    refine ⟨hkey, fun ops key' name' initial' row' last hsecond => ?_⟩
    obtain ⟨-, hmem'⟩ := Session.identity_of_register (Operation.perform_register_eq_ok.1 hsecond)
    have hlast : last = Operation.run (ops ++ [.command (.register key' name' initial')]) later := by
      rw [Operation.run_append]
      exact (Operation.after_of_ok hsecond).symm
    have hreachable : Reachable last := by
      rw [hlast, ← Operation.after_of_ok hfirst]
      exact (h.step _).run _
    have hkept : (row.id, key.toLower) ∈ last.identities := by
      rw [hlast]
      exact (Operation.identities_prefix_run _ later).subset hmem
    rw [hreachable.identified.id_eq_iff hkept hmem', toLower_eq_toLower_iff]
  · rw [← isPublicKey_iff, Bool.not_eq_true] at hnot
    exact Session.atomically_eq_error.2
      ⟨⟨book, Session.map_eq_error.2 (Session.register_of_not_isPublicKey hnot)⟩, rfl⟩
  · obtain ⟨row, later, hrun⟩ := Session.exists_register (isPublicKey_iff.2 hkey) hinitial
    exact ⟨row, later, Operation.perform_register_eq_ok.2 hrun⟩

/-- After the derby, the winner's key in capitals is theirs, and the same key with a line end enters
somebody else; a shorter text is refused. -/
theorem register_identifies_capitals :
    let key (c : Char) := String.ofList (List.replicate 64 c)
    let initial : Standing Float := ⟨1500.0, 350.0, 0.06⟩
    ∃ row later row' last row'' later',
      (Operation.command (.register (key 'a') "Ann" initial)).perform
        (Operation.run derby .empty) = .ok (.player row) later ∧
      (Operation.command (.register (key 'A') "Anna" initial)).perform
        (Operation.run derby later) = .ok (.player row') last ∧ row'.id = row.id ∧
      (Operation.command (.register (key 'a' ++ "\n") "Ann" initial)).perform later =
        .ok (.player row'') later' ∧ row''.id ≠ row.id ∧
      (Operation.command (.register "not-a-key" "Mallory" initial)).perform
          (Operation.run derby .empty) =
        .error (.invalid (.publicKey "not-a-key")) (Operation.run derby .empty) := by
  intro key initial
  have hinitial : initial.IsStorable := ⟨by decide +kernel, by decide +kernel, by decide +kernel⟩
  have hlower : Spells isHexDigit (key 'a') := isPublicKey_iff.1 (by decide +kernel)
  have hcapital : Spells isHexDigit (key 'A') := isPublicKey_iff.1 (by decide +kernel)
  have hlineEnd : Spells isHexDigit (key 'a' ++ "\n") := isPublicKey_iff.1 (by decide +kernel)
  have hnot : ¬Spells isHexDigit "not-a-key" := fun hkey =>
    absurd (isPublicKey_iff.2 hkey) (by decide +kernel)
  have hbook : Reachable (Operation.run derby (.empty : Book Float)) := Reachable.empty.run derby
  obtain ⟨-, hsame, htaken⟩ := register_identifies _ hbook
  obtain ⟨row, later, hfirst⟩ := (htaken (key 'a') "Ann" initial).2 hlower hinitial
  have hlater : Reachable later := Operation.after_of_ok hfirst ▸ hbook.step _
  obtain ⟨-, -, htakenLater⟩ := register_identifies _ (hlater.run derby)
  obtain ⟨row', last, hsecond⟩ := (htakenLater (key 'A') "Anna" initial).2 hcapital hinitial
  obtain ⟨-, -, htakenNow⟩ := register_identifies _ hlater
  obtain ⟨row'', later', hthird⟩ := (htakenNow (key 'a' ++ "\n") "Ann" initial).2 hlineEnd hinitial
  obtain ⟨-, hids⟩ := hsame _ _ _ row later hfirst
  refine ⟨row, later, row', last, row'', later', hfirst, hsecond, ?_, hthird, ?_,
    (htaken "not-a-key" "Mallory" initial).1 hnot⟩
  · exact (hids derby _ _ _ row' last hsecond).2 (sameLetters_iff.2 (by decide +kernel))
  · intro hequal
    have hletters := (hids [] _ _ _ row'' later' hthird).1 hequal
    exact absurd (sameLetters_iff.1 hletters) (by decide +kernel)

/-- So not every key that is kept is 64 digits and nothing else. -/
theorem exists_identity_with_lineEnd :
    ¬∀ book : Book Float, Reachable book →
      ∀ p ∈ book.players.rows, IsPlainKey p.data.publicKey := by
  let key := String.ofList (List.replicate 64 'a') ++ "\n"
  let ops : List (Operation Float) := [.command (.register key "Ann" ⟨1500.0, 350.0, 0.06⟩)]
  have hkept : ¬∀ p ∈ (Operation.run ops .empty).players.rows, IsPlainKey p.data.publicKey := by
    decide +kernel
  exact fun h => hkept (h _ (Reachable.empty.run ops))

end RaceBook
