import RaceBook.Config.Load

/-!
# Accepted configurations

* `Config.BreaksNoBound` : no bound that is checked is broken;
* `Config.breaksNoBound_of_ofTable`, `Config.breaksNoBound_of_loadFile` : this is so in every
  configuration that is accepted.
-/

namespace RaceBook.Config

structure BreaksNoBound (c : Config Float) : Prop where
  name : c.name ≠ ""
  glicko : ∀ b ∈ glickoBounds c.glicko, b.1 = false
  minCancelledFinish : ¬c.minCancelledFinish < 0
  graceSeconds : ¬c.graceSeconds < 0.0
  startingBalance : ¬c.startingBalance < 0

theorem bind_eq_ok {ε α β : Type} {x : Except ε α} {f : α → Except ε β} {b : β} :
    (x >>= f) = .ok b ↔ ∃ a, x = .ok a ∧ f a = .ok b := by
  cases x <;> simp [bind, Except.bind]

theorem checkBounds_eq_ok {path : String} {bounds : List (Bool × Bound)} {u : Unit} :
    checkBounds path bounds = .ok u ↔ ∀ b ∈ bounds, b.1 = false := by
  rw [checkBounds]
  cases hfind : bounds.find? (·.1) with
  | none => simpa using hfind
  | some b =>
    refine iff_of_false nofun fun h => ?_
    have hbroken : b.1 = true := List.find?_some hfind
    rw [h b (List.mem_of_find?_eq_some hfind)] at hbroken
    cases hbroken

variable {path : String} {c : Config Float}

theorem breaksNoBound_of_ofTable {t : Toml.Table} (h : ofTable path t = .ok c) :
    c.BreaksNoBound := by
  simp only [ofTable, bind_eq_ok] at h
  obtain ⟨_, -, words, -, h⟩ := h
  split at h
  next => cases h
  next hname =>
    obtain ⟨_, -, description, -, glicko, -, _, hglicko, minimum, -, _, hminimum, grace, -, balance, -,
      _, hwagers, hc⟩ := by simpa only [bind_eq_ok] using h
    cases hc
    rw [checkBounds_eq_ok] at hglicko hminimum hwagers
    exact {
      name := hname
      glicko := hglicko
      minCancelledFinish := of_decide_eq_false (hminimum _ List.mem_cons_self)
      graceSeconds := of_decide_eq_false (hwagers _ List.mem_cons_self)
      startingBalance :=
        of_decide_eq_false (hwagers _ (List.mem_cons_of_mem _ List.mem_cons_self)) }

/-- A configuration that is loaded from a file breaks no bound. -/
theorem breaksNoBound_of_loadFile {node : Option Node} (h : loadFile path node = .ok c) :
    c.BreaksNoBound := by
  unfold loadFile at h
  split at h
  next text =>
    unfold ofText at h
    split at h
    next => exact breaksNoBound_of_ofTable h
    next => cases h
    next => cases h
  next => cases h

theorem BreaksNoBound.periodDays (h : c.BreaksNoBound) : ¬c.glicko.periodDays ≤ 0.0 := by
  have hbound : (decide (c.glicko.periodDays ≤ 0.0), Bound.periodDays) ∈ glickoBounds c.glicko := by
    simp [glickoBounds]
  exact of_decide_eq_false (h.glicko _ hbound)

end RaceBook.Config
