import RaceBook.Proofs.Config.Accepted
import RaceBook.Proofs.Double.Order

/-!
# Which bounds accepted configurations satisfy

A bound is checked by refusing what breaks it, and NaN breaks no bound.

* `Config.Satisfies` : the configuration satisfies a bound;
* `Figure` : the settings that are read as doubles; `Bound.figures` : those that a bound is about;
* `accepted_satisfies_iff` : an accepted configuration has a name, and satisfies a bound just when
  its document gives none of the bound's figures as NaN.
-/

namespace RaceBook

open Toml (Value)

namespace Config

def Satisfies (c : Config Float) : Bound → Prop
  | .initialRating => 0.0 < c.glicko.initial.rating
  | .initialDeviation => 0.0 < c.glicko.initial.deviation
  | .initialVolatility => 0.0 < c.glicko.initial.volatility
  | .tau => 0.0 < c.glicko.solver.tau
  | .periodDays => 0.0 < c.glicko.periodDays
  | .minDeviation => 0.0 < c.glicko.minDeviation
  | .maxDeviation => 0.0 < c.glicko.maxDeviation
  | .orderedBand => c.glicko.minDeviation ≤ c.glicko.maxDeviation
  | .initialInBand => c.glicko.minDeviation ≤ c.glicko.initial.deviation ∧
      c.glicko.initial.deviation ≤ c.glicko.maxDeviation
  | .epsilon => 0.0 < c.glicko.solver.epsilon
  | .maxIterations => 0 < c.glicko.solver.maxIterations
  | .minCancelledFinish => 0 ≤ c.minCancelledFinish
  | .graceSeconds => 0.0 ≤ c.graceSeconds
  | .startingBalance => 0 ≤ c.startingBalance

end Config

/-! ## Figures -/

/-- A setting that is read as a double. -/
inductive Figure where
  | rating
  | deviation
  | volatility
  | tau
  | periodDays
  | minDeviation
  | maxDeviation
  | epsilon
  | graceSeconds
  deriving DecidableEq

namespace Figure

def heading : Figure → String
  | graceSeconds => "wagers"
  | _ => "glicko2"

def key : Figure → String
  | rating => "initial_rating"
  | deviation => "initial_rd"
  | volatility => "initial_volatility"
  | tau => "tau"
  | periodDays => "rating_period_days"
  | minDeviation => "min_rd"
  | maxDeviation => "max_rd"
  | epsilon => "epsilon"
  | graceSeconds => "grace_seconds"

def within (c : Config Float) : Figure → Float
  | rating => c.glicko.initial.rating
  | deviation => c.glicko.initial.deviation
  | volatility => c.glicko.initial.volatility
  | tau => c.glicko.solver.tau
  | periodDays => c.glicko.periodDays
  | minDeviation => c.glicko.minDeviation
  | maxDeviation => c.glicko.maxDeviation
  | epsilon => c.glicko.solver.epsilon
  | graceSeconds => c.graceSeconds

end Figure

/-- The figures that a bound is about. -/
def Config.Bound.figures : Config.Bound → List Figure
  | initialRating => [.rating]
  | initialDeviation => [.deviation]
  | initialVolatility => [.volatility]
  | tau => [.tau]
  | periodDays => [.periodDays]
  | minDeviation => [.minDeviation]
  | maxDeviation => [.maxDeviation]
  | orderedBand => [.minDeviation, .maxDeviation]
  | initialInBand => [.minDeviation, .deviation, .maxDeviation]
  | epsilon => [.epsilon]
  | graceSeconds => [.graceSeconds]
  | maxIterations | minCancelledFinish | startingBalance => []

namespace Config

/-- Whether a value is read as NaN: it is that double, or a text that stands for it. -/
def readsNaN : Value → Bool
  | .decimal x => ¬Double.IsNumber x
  | .text s => (Number.decimal? s).any fun x => ¬Double.IsNumber x
  | _ => false

def givesNaN (t : Toml.Table) (f : Figure) : Bool :=
  match setting? (sectionOf t f.heading) f.key with
  | .ok (some v) => readsNaN v
  | _ => false

/-! ## How figures are read -/

variable {path : String} {t : Toml.Table} {c : Config Float} {f : Figure} {v : Value} {x : Float}

/-- Whole numbers and truth values are never read as NaN. -/
theorem isNumber_of_decimalOf (h : decimalOf v = .ok x) :
    Double.IsNumber x ↔ readsNaN v = false := by
  cases v with
  | decimal y =>
    cases h
    simp [readsNaN]
  | integer n =>
    simp only [decimalOf] at h
    split at h
    next => cases h
    next =>
      cases h
      exact iff_of_true (Double.isNumber_ofInt n) rfl
  | boolean b =>
    cases h
    cases b <;> exact iff_of_true (by decide +kernel) rfl
  | text s =>
    simp only [decimalOf] at h
    split at h
    next y hy =>
      cases h
      simp [readsNaN, hy]
    next => cases h
  | date | time | dateTime | array | table => cases h

theorem isNumber_standard (f : Figure) : Double.IsNumber (f.within .standard) := by
  cases f <;> decide +kernel

theorem read_of_ofTable (h : ofTable path t = .ok c) :
    (∃ words, c.name = Text.strip words) ∧ glickoOf (sectionOf t "glicko2") = .ok c.glicko ∧
      decimal (sectionOf t "wagers") "grace_seconds" (standard : Config Float).graceSeconds =
        .ok c.graceSeconds := by
  simp only [ofTable, bind_eq_ok] at h
  obtain ⟨_, -, words, -, h⟩ := h
  split at h
  next => cases h
  next =>
    obtain ⟨_, -, description, -, glicko, hglicko, _, -, minimum, -, _, -, grace, hgrace, balance,
      -, _, -, hc⟩ := by simpa only [bind_eq_ok] using h
    cases hc
    exact ⟨⟨words, rfl⟩, hglicko, hgrace⟩

/-- Each figure of an accepted configuration is the one that its document gives, or the usual. -/
theorem decimal_within (h : ofTable path t = .ok c) (f : Figure) :
    decimal (sectionOf t f.heading) f.key (f.within .standard) = .ok (f.within c) := by
  obtain ⟨-, hglicko, hgrace⟩ := read_of_ofTable h
  simp only [glickoOf, bind_eq_ok] at hglicko
  obtain ⟨rating, hrating, deviation, hdeviation, volatility, hvolatility, tau, htau, periodDays,
    hperiodDays, minDeviation, hminDeviation, maxDeviation, hmaxDeviation, epsilon, hepsilon,
    iterations, -, hparameters⟩ := hglicko
  have hsame := Except.ok.inj hparameters
  unfold Figure.within
  rw [← hsame]
  cases f <;> assumption

/-- A figure of an accepted configuration is a number unless the document gives it as NaN. -/
theorem isNumber_within (h : ofTable path t = .ok c) (f : Figure) :
    Double.IsNumber (f.within c) ↔ givesNaN t f = false := by
  have hread := decimal_within h f
  unfold decimal at hread
  obtain ⟨given, hgiven, hvalue⟩ := bind_eq_ok.1 hread
  rw [givesNaN, hgiven]
  cases given with
  | none =>
    have husual : f.within .standard = f.within c := Except.ok.inj hvalue
    rw [← husual]
    exact iff_of_true (isNumber_standard f) rfl
  | some v => exact isNumber_of_decimalOf hvalue

/-! ## Bounds -/

theorem le_iff_isNumber {x y : Float} (h : ¬y < x) :
    x ≤ y ↔ Double.IsNumber x ∧ Double.IsNumber y := by
  rw [Double.le_iff_not_lt]
  exact ⟨fun hle => ⟨hle.1, hle.2.1⟩, fun hxy => ⟨hxy.1, hxy.2, h⟩⟩

/-- A bound that is not broken is satisfied just when its figures are numbers. -/
theorem BreaksNoBound.satisfies_iff (h : c.BreaksNoBound) (b : Bound) :
    c.Satisfies b ↔ ∀ f ∈ b.figures, Double.IsNumber (f.within c) := by
  obtain ⟨hrating, hdeviation, hvolatility, htau, hperiodDays, hminDeviation, hmaxDeviation,
    hordered, ⟨hlow, hhigh⟩, hepsilon, hiterations⟩ := by simpa [glickoBounds] using h.glicko
  cases b with
  | orderedBand => simpa [Satisfies, Bound.figures, Figure.within] using le_iff_isNumber hordered
  | initialInBand =>
    simp only [Satisfies, le_iff_isNumber hlow, le_iff_isNumber hhigh]
    simp [Bound.figures, Figure.within, and_assoc]
  | maxIterations => simpa [Satisfies, Bound.figures] using hiterations
  | minCancelledFinish => simpa [Satisfies, Bound.figures] using h.minCancelledFinish
  | startingBalance => simpa [Satisfies, Bound.figures] using h.startingBalance
  | graceSeconds =>
    simpa [Satisfies, Bound.figures, Figure.within, Double.isNumber_zero] using
      le_iff_isNumber h.graceSeconds
  | _ => simpa [Satisfies, Bound.figures, Figure.within] using Double.pos_iff_isNumber ‹_›

end Config

/-! ## Names -/

theorem Text.trim_trim (blank : Char → Bool) (cs : List Char) :
    trim blank (trim blank cs) = trim blank cs := by
  change List.rdropWhile blank ((trim blank cs).dropWhile blank) = trim blank cs
  -- what is taken off the end leaves the first character in its place
  have hfront : (trim blank cs).dropWhile blank = trim blank cs := by
    rw [List.dropWhile_eq_self_iff]
    intro hpos
    have hshorter : trim blank cs <+: cs.dropWhile blank := List.rdropWhile_prefix blank _
    rw [hshorter.getElem hpos]
    exact List.dropWhile_get_zero_not blank cs (hpos.trans_le hshorter.length_le)
  rw [hfront]
  exact List.rdropWhile_idempotent blank (cs.dropWhile blank)

theorem Text.strip_strip (s : String) : strip (strip s) = strip s := by
  rw [strip, strip, String.toList_ofList, trim_trim]

/-! ## Accepted configurations -/

/-- Every accepted configuration has a name that is not blank, and satisfies each bound whose
figures are not given as NaN; where one of them is, the bound is not satisfied. -/
theorem accepted_satisfies_iff (path : String) (t : Toml.Table) (config : Config Float)
    (h : Config.ofTable path t = .ok config) :
    Text.strip config.name ≠ "" ∧
      ∀ bound : Config.Bound, config.Satisfies bound ↔
        ∀ f ∈ bound.figures, Config.givesNaN t f = false := by
  have hbroken := Config.breaksNoBound_of_ofTable h
  obtain ⟨⟨words, hwords⟩, -⟩ := Config.read_of_ofTable h
  refine ⟨?_, fun bound => ?_⟩
  · rw [hwords, Text.strip_strip, ← hwords]
    exact hbroken.name
  · rw [hbroken.satisfies_iff]
    exact forall₂_congr fun f _ => Config.isNumber_within h f

/-- A document with settings of several kinds, one of which is NaN. -/
def undefinedTau : Toml.Table := [
  ("system", .table [("name", .text " sprint ")]),
  ("glicko2", .table [("tau", .decimal (0.0 / 0.0)), ("min_rd", .text "1e1"),
    ("epsilon", .boolean true), ("initial_rating", .integer 900),
    ("max_iterations", .decimal 7.5)])]

theorem exists_accepted_undefinedTau :
    ∃ config, Config.ofTable "sprint.toml" undefinedTau = .ok config ∧
      ¬0.0 < config.glicko.solver.tau := by
  have htau : ((Config.ofTable "sprint.toml" undefinedTau).toOption.any
      fun config => ¬0.0 < config.glicko.solver.tau) = true := by decide +kernel
  cases h : Config.ofTable "sprint.toml" undefinedTau with
  | error fault =>
    rw [h] at htau
    cases htau
  | ok config =>
    rw [h] at htau
    exact ⟨config, rfl, of_decide_eq_true htau⟩

/-- This document is accepted, and its configuration satisfies every bound but that on `tau`. -/
theorem accepted_satisfies_iff_undefinedTau :
    ∃ config, Config.ofTable "sprint.toml" undefinedTau = .ok config ∧
      Text.strip config.name ≠ "" ∧
      ∀ bound : Config.Bound, config.Satisfies bound ↔ bound ≠ .tau := by
  obtain ⟨config, haccepted, -⟩ := exists_accepted_undefinedTau
  obtain ⟨hname, hbounds⟩ := accepted_satisfies_iff _ _ config haccepted
  refine ⟨config, haccepted, hname, fun bound => (hbounds bound).trans ?_⟩
  cases bound <;> decide +kernel

/-- So accepted configurations do not satisfy every bound that is checked. -/
theorem accepted_with_bound_unsatisfied :
    ¬∀ path t (config : Config Float), Config.ofTable path t = .ok config →
      Text.strip config.name ≠ "" ∧ ∀ bound : Config.Bound, config.Satisfies bound := by
  intro h
  obtain ⟨config, haccepted, htau⟩ := exists_accepted_undefinedTau
  exact htau ((h _ _ config haccepted).2 .tau)

end RaceBook
