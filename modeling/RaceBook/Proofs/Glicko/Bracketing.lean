import Mathlib.Order.Interval.Set.UnorderedInterval
import Mathlib.Tactic.FieldSimp
import Mathlib.Tactic.Linarith
import Mathlib.Tactic.Positivity
import Mathlib.Tactic.Ring
import RaceBook.Glicko.Volatility
import RaceBook.Proofs.Glicko.Exact

/-!
# A sign change stays bracketed

The search for the root of the volatility equation, read with exact numbers. Whatever the search
starts from, its brackets have a sign change between their ends.

* `Evidence.value` : the objective as a function; `Evidence.objective_eq` : it has a value everywhere;
* `Evidence.firstBracket_cases` : the first bracket has a sign change, to the right of the anchor or to
  the left of it;
* `Bracket.step_eq` : what a step does; `Bracket.Straddles` : what it keeps;
* `Bracket.cut_mem_uIcc` : a bracket is cut between its ends, so that brackets are nested;
* `Bracket.Straddles.narrow_cases` : what the search ends with;
* `solveVolatility_bracketed` : the search from the start to the end.
-/

namespace RaceBook

namespace ExactNumbers

open Glicko

variable {K : Type} [Field K] [LinearOrder K] (N : ExactNumbers K)

/-! ## The search with exact numbers -/

abbrev objective (e : Evidence K) (x : K) : Except NumberFault K :=
  @Evidence.objective K N.arithmetic e x

abbrev seekBracket (e : Evidence K) (remaining k : Nat) : Except (RatingFault K) K :=
  @Evidence.seekBracket K N.arithmetic e remaining k

abbrev otherEnd (e : Evidence K) (limit : Int) : Except (RatingFault K) K :=
  @Evidence.otherEnd K N.arithmetic e limit

abbrev firstBracket (e : Evidence K) (limit : Int) : Except (RatingFault K) (Bracket K) :=
  @Glicko.firstBracket K N.arithmetic e limit

abbrev guess (s : Bracket K) : Except NumberFault K := @Bracket.guess K N.arithmetic s

abbrev step (e : Evidence K) (s : Bracket K) : Except NumberFault (Bracket K) :=
  @Bracket.step K N.arithmetic e s

abbrev narrow (e : Evidence K) (epsilon : K) (limit : Int) (remaining : Nat) (s : Bracket K) :
    Except (RatingFault K) (Bracket K) :=
  @Glicko.narrow K N.arithmetic e epsilon limit remaining s

abbrev solveVolatility (solver : Solver K) (φ σ δ v : K) : Except (RatingFault K) K :=
  @Glicko.solveVolatility K N.arithmetic solver φ σ δ v

end ExactNumbers

namespace Glicko

open ExactNumbers (zero_literal two_literal quotient_eq log_eq)

variable {K : Type} [Field K] [LinearOrder K] {N : ExactNumbers K} {e : Evidence K} {s : Bracket K}
  {ε x : K} {limit : Int}

/-! ## The objective -/

namespace Evidence

/-- The variance and the width of the steps to the left are positive. -/
structure Regular (e : Evidence K) : Prop where
  variance_pos : 0 < e.variance
  tau_pos : 0 < e.tau

/-- By how much the square of the improvement exceeds what is expected of it. -/
def excess (e : Evidence K) : K := e.improvement ^ 2 - e.deviation ^ 2 - e.variance

def value (N : ExactNumbers K) (e : Evidence K) (x : K) : K :=
  N.exp x * (e.excess - N.exp x) / (2 * (e.deviation ^ 2 + e.variance + N.exp x) ^ 2) -
    (x - e.anchor) / e.tau ^ 2

variable [IsStrictOrderedRing K]

theorem denominator_pos (h : e.Regular) (x : K) :
    0 < 2 * (e.deviation ^ 2 + e.variance + N.exp x) ^ 2 := by
  have hv := h.variance_pos
  have hexp := N.exp_pos x
  have hφ : 0 ≤ e.deviation ^ 2 := sq_nonneg _
  positivity

/-- The objective divides by zero nowhere. -/
theorem objective_eq (h : e.Regular) (x : K) : N.objective e x = .ok (e.value N x) := by
  have hdef : N.objective e x = (do
      let pull ← N.quotient (N.exp x * (e.excess - N.exp x))
        (((20 : Nat) : K) / 10 ^ 1 * (e.deviation ^ 2 + e.variance + N.exp x) ^ 2)
      let push ← N.quotient (x - e.anchor) (e.tau ^ 2)
      .ok (pull - push)) := rfl
  rw [hdef, two_literal, quotient_eq (denominator_pos h x).ne',
    quotient_eq (pow_ne_zero 2 h.tau_pos.ne')]
  rfl

/-! ## The first bracket -/

omit [IsStrictOrderedRing K] in
theorem value_anchor (N : ExactNumbers K) (e : Evidence K) :
    e.value N e.anchor = N.exp e.anchor * (e.excess - N.exp e.anchor) /
      (2 * (e.deviation ^ 2 + e.variance + N.exp e.anchor) ^ 2) := by
  rw [value, sub_self, zero_div, sub_zero]

theorem value_anchor_nonneg (h : e.Regular) (hle : N.exp e.anchor ≤ e.excess) :
    0 ≤ e.value N e.anchor := by
  rw [value_anchor]
  exact div_nonneg (mul_nonneg (N.exp_pos _).le (sub_nonneg.2 hle)) (denominator_pos h _).le

theorem value_anchor_nonpos (h : e.Regular) (hle : e.excess ≤ N.exp e.anchor) :
    e.value N e.anchor ≤ 0 := by
  rw [value_anchor]
  exact div_nonpos_of_nonpos_of_nonneg
    (mul_nonpos_of_nonneg_of_nonpos (N.exp_pos _).le (sub_nonpos.2 hle)) (denominator_pos h _).le

omit [IsStrictOrderedRing K] in
theorem value_log (h : 0 < e.excess) :
    e.value N (N.log e.excess) = -((N.log e.excess - e.anchor) / e.tau ^ 2) := by
  rw [value, N.exp_log _ h, sub_self, mul_zero, zero_div, zero_sub]

/-- The logarithm of the excess lies on that side of the anchor where the sign changes. -/
theorem value_anchor_mul_value_log (h : e.Regular) (hexcess : 0 < e.excess) :
    e.value N e.anchor * e.value N (N.log e.excess) ≤ 0 := by
  have hτ : 0 ≤ e.tau ^ 2 := sq_nonneg _
  have hexp : N.exp (N.log e.excess) = e.excess := N.exp_log _ hexcess
  rw [value_log hexcess]
  rcases le_total (N.exp e.anchor) e.excess with hle | hle
  · have hright : e.anchor ≤ N.log e.excess := N.strictMono_exp.le_iff_le.1 (hexp.symm ▸ hle)
    exact mul_nonpos_of_nonneg_of_nonpos (value_anchor_nonneg h hle)
      (neg_nonpos.2 (div_nonneg (sub_nonneg.2 hright) hτ))
  · have hleft : N.log e.excess ≤ e.anchor := N.strictMono_exp.le_iff_le.1 (hexp.symm ▸ hle)
    exact mul_nonpos_of_nonpos_of_nonneg (value_anchor_nonpos h hle)
      (neg_nonneg.2 (div_nonpos_of_nonpos_of_nonneg (sub_nonpos.2 hleft) hτ))

theorem seekBracket_zero (h : e.Regular) (k : Nat) :
    N.seekBracket e 0 k =
      let b := e.anchor - k * e.tau
      if e.value N b < 0 then .error .unbracketed else .ok b := by
  have hdef : N.seekBracket e 0 k = (do
      let y ← N.objective e (e.anchor - k * e.tau)
      if y < ((0 : Nat) : K) / 10 ^ 1 then .error .unbracketed
      else .ok (e.anchor - k * e.tau)) := rfl
  rw [hdef, objective_eq h, zero_literal]
  rfl

theorem seekBracket_succ (h : e.Regular) (remaining k : Nat) :
    N.seekBracket e (remaining + 1) k =
      let b := e.anchor - k * e.tau
      if e.value N b < 0 then N.seekBracket e remaining (k + 1) else .ok b := by
  have hdef : N.seekBracket e (remaining + 1) k = (do
      let y ← N.objective e (e.anchor - k * e.tau)
      if y < ((0 : Nat) : K) / 10 ^ 1 then N.seekBracket e remaining (k + 1)
      else .ok (e.anchor - k * e.tau)) := rfl
  rw [hdef, objective_eq h, zero_literal]
  rfl

theorem seekBracket_cases (h : e.Regular) (remaining k : Nat) :
    N.seekBracket e remaining k = .error .unbracketed ∨
      ∃ b, N.seekBracket e remaining k = .ok b ∧ 0 ≤ e.value N b := by
  induction remaining generalizing k with
  | zero =>
    rw [seekBracket_zero h]
    dsimp only
    split
    next => exact .inl rfl
    next hnot => exact .inr ⟨_, rfl, not_lt.1 hnot⟩
  | succ remaining ih =>
    rw [seekBracket_succ h]
    dsimp only
    split
    next => exact ih (k + 1)
    next hnot => exact .inr ⟨_, rfl, not_lt.1 hnot⟩

theorem otherEnd_cases (h : e.Regular) (limit : Int) :
    N.otherEnd e limit = .error .unbracketed ∨
      ∃ b, N.otherEnd e limit = .ok b ∧ e.value N e.anchor * e.value N b ≤ 0 := by
  have hdef : N.otherEnd e limit =
      if e.deviation ^ 2 + e.variance < e.improvement ^ 2 then liftM (N.log? e.excess)
      else N.seekBracket e (limit - 1).toNat 1 := rfl
  rw [hdef]
  split
  next hlt =>
    have hexcess : 0 < e.excess := by
      unfold excess
      linarith
    rw [log_eq hexcess]
    exact .inr ⟨_, rfl, value_anchor_mul_value_log h hexcess⟩
  next hnot =>
    -- without an excess the objective is negative at the anchor
    have hexcess : e.excess ≤ N.exp e.anchor := by
      have hexp := N.exp_pos e.anchor
      unfold excess
      linarith
    refine (seekBracket_cases h _ 1).imp_right fun ⟨b, hb, hvalue⟩ => ⟨b, hb, ?_⟩
    exact mul_nonpos_of_nonpos_of_nonneg (value_anchor_nonpos h hexcess) hvalue

/-- The first bracket goes from the anchor to an end of the other sign, if one is found in time. -/
theorem firstBracket_cases (N : ExactNumbers K) (h : e.Regular) (limit : Int) :
    N.firstBracket e limit = .error .unbracketed ∨
      ∃ b, N.firstBracket e limit = .ok ⟨e.anchor, e.value N e.anchor, b, e.value N b⟩ ∧
        e.value N e.anchor * e.value N b ≤ 0 := by
  have hdef : N.firstBracket e limit = (do
      let b ← N.otherEnd e limit
      let fa ← N.objective e e.anchor
      let fb ← N.objective e b
      .ok ⟨e.anchor, fa, b, fb⟩) := rfl
  rw [hdef]
  rcases otherEnd_cases h limit with hend | ⟨b, hend, hsigns⟩
  · rw [hend]
    exact .inl rfl
  · rw [hend]
    refine .inr ⟨b, ?_, hsigns⟩
    simp only [objective_eq h, bind, Except.bind]
    rfl

end Evidence

/-! ## A step -/

namespace Bracket

/-- Where a bracket is cut: at the root of the secant, or in the middle when the secant is level. -/
def cut (s : Bracket K) : K :=
  if s.fb = s.fa then (s.a + s.b) / 2 else s.a + (s.a - s.b) * s.fa / (s.fb - s.fa)

/-- The bracket that has its new end at `c`, where the objective is `fc`. -/
def cutAt (s : Bracket K) (c fc : K) : Bracket K :=
  if fc * s.fb ≤ 0 then ⟨s.b, s.fb, c, fc⟩ else ⟨s.a, s.fa / 2, c, fc⟩

/-- A bracket with a sign change between its ends: it holds the objective at `b`, and the objective at
`a` halved several times, and these two are not of the same sign. -/
structure Straddles (N : ExactNumbers K) (e : Evidence K) (s : Bracket K) : Prop where
  right : s.fb = e.value N s.b
  left : ∃ k : Nat, s.fa = e.value N s.a / 2 ^ k
  opposite : s.fa * s.fb ≤ 0

variable [IsStrictOrderedRing K]

theorem guess_eq (N : ExactNumbers K) (s : Bracket K) : N.guess s = .ok s.cut := by
  have hdef : N.guess s =
      if decide (s.fb = s.fa) = true then N.quotient (s.a + s.b) (((20 : Nat) : K) / 10 ^ 1)
      else (do
        let shift ← N.quotient ((s.a - s.b) * s.fa) (s.fb - s.fa)
        .ok (s.a + shift)) := rfl
  rw [hdef, two_literal, quotient_eq two_ne_zero, cut]
  by_cases hlevel : s.fb = s.fa
  · rw [if_pos (decide_eq_true hlevel), if_pos hlevel]
  · rw [if_neg (mt of_decide_eq_true hlevel), if_neg hlevel, quotient_eq (sub_ne_zero.2 hlevel)]
    rfl

/-- What a step does. -/
theorem step_eq (h : e.Regular) (s : Bracket K) :
    N.step e s = .ok (s.cutAt s.cut (e.value N s.cut)) := by
  have hdef : N.step e s = (do
      let c ← N.guess s
      let fc ← N.objective e c
      if fc * s.fb ≤ ((0 : Nat) : K) / 10 ^ 1 then .ok ⟨s.b, s.fb, c, fc⟩
      else (do
        let half ← N.quotient s.fa (((20 : Nat) : K) / 10 ^ 1)
        .ok ⟨s.a, half, c, fc⟩)) := rfl
  have hhalf : N.quotient s.fa 2 = .ok (s.fa / 2) := quotient_eq two_ne_zero
  rw [hdef]
  simp only [guess_eq, Evidence.objective_eq h, zero_literal, two_literal, hhalf, bind, Except.bind]
  unfold cutAt
  split <;> rfl

/-- Wherever a bracket is cut, there is a sign change in the next one. -/
theorem Straddles.cutAt (h : s.Straddles N e) (c : K) :
    (s.cutAt c (e.value N c)).Straddles N e := by
  unfold Bracket.cutAt
  split
  next hchange =>
    exact ⟨rfl, ⟨0, by rw [pow_zero, div_one, h.right]⟩, by rwa [mul_comm]⟩
  next hsame =>
    obtain ⟨k, hk⟩ := h.left
    refine ⟨rfl, ⟨k + 1, by rw [pow_succ, ← div_div, hk]⟩, ?_⟩
    -- the new value has the sign of the one at `b`, which is opposite to the one at `a`
    have hpos : 0 < e.value N c * s.fb := not_le.1 hsame
    have hfb : 0 < s.fb ^ 2 := sq_pos_of_ne_zero (right_ne_zero_of_mul hpos.ne')
    have hprod : s.fa * e.value N c * s.fb ^ 2 ≤ 0 := by
      calc s.fa * e.value N c * s.fb ^ 2 = s.fa * s.fb * (e.value N c * s.fb) := by ring
        _ ≤ 0 := mul_nonpos_of_nonpos_of_nonneg h.opposite hpos.le
    have hopposite : s.fa * e.value N c ≤ 0 := nonpos_of_mul_nonpos_left hprod hfb
    change s.fa / 2 * e.value N c ≤ 0
    rw [div_mul_eq_mul_div]
    exact div_nonpos_of_nonpos_of_nonneg hopposite zero_le_two

theorem Straddles.value_mul_value (h : s.Straddles N e) : e.value N s.a * e.value N s.b ≤ 0 := by
  obtain ⟨k, hk⟩ := h.left
  have hpow : (0 : K) < 2 ^ k := pow_pos two_pos k
  have hopposite := h.opposite
  rw [hk, h.right, div_mul_eq_mul_div, div_le_iff₀ hpow, zero_mul] at hopposite
  exact hopposite

/-! ## Nested brackets -/

theorem mem_uIcc_of_part {a b t : K} (ht : 0 ≤ t) (ht' : t ≤ 1) :
    a + (b - a) * t ∈ Set.uIcc a b := by
  rcases le_total a b with hab | hab
  · have hd : 0 ≤ b - a := sub_nonneg.2 hab
    have hpart : (b - a) * t ≤ b - a := mul_le_of_le_one_right hd ht'
    exact Set.mem_uIcc.2 (.inl ⟨le_add_of_nonneg_right (mul_nonneg hd ht), by linarith⟩)
  · have hd : b - a ≤ 0 := sub_nonpos.2 hab
    have hpart : b - a ≤ (b - a) * t := by nlinarith
    exact Set.mem_uIcc.2
      (.inr ⟨by linarith, add_le_of_nonpos_right (mul_nonpos_of_nonpos_of_nonneg hd ht)⟩)

/-- A bracket with a sign change is cut between its ends. -/
theorem cut_mem_uIcc (h : s.fa * s.fb ≤ 0) : s.cut ∈ Set.uIcc s.a s.b := by
  unfold cut
  split
  next =>
    have hmiddle : (s.a + s.b) / 2 = s.a + (s.b - s.a) * (1 / 2) := by ring
    rw [hmiddle]
    exact mem_uIcc_of_part (by norm_num) (by norm_num)
  next hlevel =>
    have hne : s.fa - s.fb ≠ 0 := sub_ne_zero.2 (Ne.symm hlevel)
    have hne' : s.fb - s.fa ≠ 0 := sub_ne_zero.2 hlevel
    have hroot : s.a + (s.a - s.b) * s.fa / (s.fb - s.fa) =
        s.a + (s.b - s.a) * (s.fa / (s.fa - s.fb)) := by
      field_simp
      ring
    rw [hroot]
    rcases mul_nonpos_iff.1 h with ⟨hfa, hfb⟩ | ⟨hfa, hfb⟩
    · have hpos : 0 < s.fa - s.fb := lt_of_le_of_ne (by linarith) hne.symm
      exact mem_uIcc_of_part (div_nonneg hfa hpos.le) ((div_le_one₀ hpos).2 (by linarith))
    · have hneg : s.fa - s.fb < 0 := lt_of_le_of_ne (by linarith) hne
      exact mem_uIcc_of_part (div_nonneg_of_nonpos hfa hneg.le)
        ((div_le_one_of_neg hneg).2 (by linarith))

/-- The next bracket of one with a sign change has one too, and lies within it. -/
theorem Straddles.step (he : e.Regular) (h : s.Straddles N e) :
    ∃ next, N.step e s = .ok next ∧ next.Straddles N e ∧
      Set.uIcc next.a next.b ⊆ Set.uIcc s.a s.b := by
  have hcut : s.cut ∈ Set.uIcc s.a s.b := cut_mem_uIcc h.opposite
  refine ⟨_, step_eq he s, h.cutAt s.cut, ?_⟩
  unfold Bracket.cutAt
  split
  next => exact Set.uIcc_subset_uIcc Set.right_mem_uIcc hcut
  next => exact Set.uIcc_subset_uIcc Set.left_mem_uIcc hcut

/-! ## The search -/

omit [IsStrictOrderedRing K] in
theorem narrow_zero : N.narrow e ε limit 0 s =
    if ε < |s.b - s.a| then .error (.notConverged limit |s.b - s.a|) else .ok s := rfl

theorem narrow_succ (he : e.Regular) (remaining : Nat) : N.narrow e ε limit (remaining + 1) s =
    if ε < |s.b - s.a| then N.narrow e ε limit remaining (s.cutAt s.cut (e.value N s.cut))
    else .ok s := by
  have hdef : N.narrow e ε limit (remaining + 1) s =
      if ε < |s.b - s.a| then (do
        let next ← N.step e s
        N.narrow e ε limit remaining next)
      else .ok s := rfl
  rw [hdef, step_eq he]
  rfl

/-- A bracket that the search may end with: it has a sign change, is narrow, and lies within the
one that the search began with. -/
structure IsNarrowed (N : ExactNumbers K) (e : Evidence K) (ε : K) (first last : Bracket K) :
    Prop where
  straddles : last.Straddles N e
  narrow : |last.b - last.a| ≤ ε
  within : Set.uIcc last.a last.b ⊆ Set.uIcc first.a first.b

/-- The search ends with a narrow bracket, or not in time. -/
theorem Straddles.narrow_cases (he : e.Regular) (h : s.Straddles N e) (ε : K) (limit : Int)
    (remaining : Nat) :
    (∃ gap, N.narrow e ε limit remaining s = .error (.notConverged limit gap) ∧ ε < gap) ∨
      ∃ last, N.narrow e ε limit remaining s = .ok last ∧ s.IsNarrowed N e ε last := by
  induction remaining generalizing s with
  | zero =>
    rw [narrow_zero]
    split
    next hwide => exact .inl ⟨_, rfl, hwide⟩
    next hnarrow => exact .inr ⟨s, rfl, h, not_lt.1 hnarrow, subset_rfl⟩
  | succ remaining ih =>
    rw [narrow_succ he]
    split
    next hwide =>
      obtain ⟨next, hstep, hnext, hwithin⟩ := h.step he
      cases (step_eq he s).symm.trans hstep
      refine (ih hnext).imp_right fun ⟨last, hlast, hnarrowed⟩ => ⟨last, hlast, ?_⟩
      exact ⟨hnarrowed.straddles, hnarrowed.narrow, hnarrowed.within.trans hwithin⟩
    next hnarrow => exact .inr ⟨s, rfl, h, not_lt.1 hnarrow, subset_rfl⟩

end Bracket

/-! ## The solver -/

theorem Bracket.straddles_first {b : K} (h : e.value N e.anchor * e.value N b ≤ 0) :
    Bracket.Straddles N e ⟨e.anchor, e.value N e.anchor, b, e.value N b⟩ :=
  ⟨rfl, ⟨0, by rw [pow_zero, div_one]⟩, h⟩

variable [IsStrictOrderedRing K]

theorem solveVolatility_eq {solver : Solver K} {φ σ δ v : K} (hσ : 0 < σ) :
    N.solveVolatility solver φ σ δ v = (do
      let e : Evidence K := ⟨φ, δ, v, N.log (σ ^ 2), solver.tau⟩
      let first ← N.firstBracket e solver.maxIterations
      let last ← N.narrow e solver.epsilon solver.maxIterations solver.maxIterations.toNat first
      .ok (N.exp (last.a / 2))) := by
  have hdef : N.solveVolatility solver φ σ δ v = (do
      let anchor ← N.log? (σ ^ 2)
      let e : Evidence K := ⟨φ, δ, v, anchor, solver.tau⟩
      let first ← N.firstBracket e solver.maxIterations
      let last ← N.narrow e solver.epsilon solver.maxIterations solver.maxIterations.toNat first
      let half ← N.quotient last.a (((20 : Nat) : K) / 10 ^ 1)
      .ok (N.exp half)) := rfl
  have hhalf : ∀ x : K, N.quotient x 2 = .ok (x / 2) := fun x => quotient_eq two_ne_zero
  rw [hdef, log_eq (pow_pos hσ 2)]
  simp only [two_literal, hhalf]
  rfl

/-- **A sign change stays bracketed**: over exact numbers the search ends with a narrow bracket
within the first one, or says which of its limits it met, and it divides by zero nowhere. -/
theorem solveVolatility_bracketed (N : ExactNumbers K) {σ v τ : K} (hσ : 0 < σ) (hv : 0 < v)
    (hτ : 0 < τ) (φ δ ε : K) (limit : Int) :
    let e : Evidence K := ⟨φ, δ, v, N.log (σ ^ 2), τ⟩
    let solved := N.solveVolatility ⟨τ, ε, limit⟩ φ σ δ v
    (∀ x, N.objective e x = .ok (e.value N x)) ∧
    (∀ s : Bracket K, s.Straddles N e → ∃ next, N.step e s = .ok next ∧ next.Straddles N e ∧
      Set.uIcc next.a next.b ⊆ Set.uIcc s.a s.b) ∧
    (N.firstBracket e limit = .error .unbracketed ∧ solved = .error .unbracketed ∨
      ∃ first, N.firstBracket e limit = .ok first ∧ first.a = N.log (σ ^ 2) ∧
        first.Straddles N e ∧ e.value N first.a * e.value N first.b ≤ 0 ∧
        ((∃ gap, solved = .error (.notConverged limit gap) ∧ ε < gap) ∨
          ∃ last, N.narrow e ε limit limit.toNat first = .ok last ∧ first.IsNarrowed N e ε last ∧
            e.value N last.a * e.value N last.b ≤ 0 ∧ solved = .ok (N.exp (last.a / 2)))) := by
  intro e solved
  have he : e.Regular := ⟨hv, hτ⟩
  have hsolved : solved = (do
      let first ← N.firstBracket e limit
      let last ← N.narrow e ε limit limit.toNat first
      .ok (N.exp (last.a / 2))) := solveVolatility_eq hσ
  refine ⟨Evidence.objective_eq he, fun s hs => hs.step he, ?_⟩
  rcases Evidence.firstBracket_cases N he limit with hfirst | ⟨b, hfirst, hsigns⟩
  · rw [hsolved, hfirst]
    exact .inl ⟨rfl, rfl⟩
  · have hstraddles := Bracket.straddles_first hsigns
    refine .inr ⟨_, hfirst, rfl, hstraddles, hsigns, ?_⟩
    rcases hstraddles.narrow_cases he ε limit limit.toNat with ⟨gap, hlast, hwide⟩ |
      ⟨last, hlast, hnarrowed⟩
    · refine .inl ⟨gap, ?_, hwide⟩
      rw [hsolved, hfirst]
      simp only [bind, Except.bind, hlast]
    · refine .inr ⟨last, hlast, hnarrowed, hnarrowed.straddles.value_mul_value, ?_⟩
      rw [hsolved, hfirst]
      simp only [bind, Except.bind, hlast]

/-- A search to the left over fractions, in which the left end is kept once, with half its value. -/
theorem solveVolatility_bracketed_hyperbolic :
    let N := ExactNumbers.hyperbolic
    let e : Evidence Rat := ⟨1, 1, 1, 3, 1 / 2⟩
    ∃ first last, N.firstBracket e 100 = .ok first ∧ first.a = 3 ∧ first.b = 5 / 2 ∧
      N.narrow e (1 / 10) 100 100 first = .ok last ∧ |last.b - last.a| ≤ 1 / 10 ∧
      Set.uIcc last.a last.b ⊆ Set.uIcc 3 (5 / 2) ∧ e.value N last.a * e.value N last.b ≤ 0 ∧
      N.solveVolatility ⟨1 / 2, 1 / 10, 100⟩ 1 2 1 1 = .ok (N.exp (last.a / 2)) := by
  intro N e
  have hlog : N.log (2 ^ 2) = 3 := by decide +kernel
  have hok : (N.solveVolatility ⟨1 / 2, 1 / 10, 100⟩ 1 2 1 1).isOk = true := by decide +kernel
  have hright : (N.firstBracket e 100).toOption.map (·.b) = some (5 / 2) := by decide +kernel
  obtain ⟨-, -, hsearch⟩ := solveVolatility_bracketed N (two_pos : (0 : Rat) < 2)
    (one_pos : (0 : Rat) < 1) (by norm_num : (0 : Rat) < 1 / 2) 1 1 (1 / 10) 100
  rw [hlog] at hsearch
  rcases hsearch with ⟨-, hsolved⟩ | ⟨first, hfirst, hleft, -, -, ⟨gap, hsolved, -⟩ |
    ⟨last, hlast, hnarrowed, hsigns, hsolved⟩⟩
  · rw [hsolved] at hok
    cases hok
  · rw [hsolved] at hok
    cases hok
  · rw [hfirst] at hright
    have hb : first.b = 5 / 2 := Option.some.inj hright
    refine ⟨first, last, hfirst, hleft, hb, hlast, hnarrowed.narrow, ?_, hsigns, hsolved⟩
    exact hleft ▸ hb ▸ hnarrowed.within

end Glicko

end RaceBook
