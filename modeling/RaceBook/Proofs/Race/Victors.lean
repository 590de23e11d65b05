import RaceBook.Proofs.Race.Outcomes
import RaceBook.Race.Victor

/-!
# Who wins a battle

* `Entrant.Finishes` : an entrant has a time, and the run counts;
* `Leads` : a team has a time that counts and is below all such times of the other team;
* `victor_eq_some_iff` : the victor is the team that leads (`victor_congr` : so it hangs on who took
  part, not on the order);
* `Outcome.of_eq_win_iff` : who wins a race between two;
* `victor_pair_iff` : of two opponents the victor's is the one who wins the race and has a time;
* `victor_exact` : all of this together.
-/

namespace RaceBook

/-- The entrant has this time, and the run counts. -/
def Entrant.Finishes (e : Entrant) (time : Int) : Prop :=
  e.finish.noContest = false ∧ e.finish.time = some time

/-- Somebody of the team has a time that counts and is below all such times of the other team. -/
def Leads (entrants : List Entrant) (team : Team) : Prop :=
  ∃ e ∈ entrants, e.team = team ∧ ∃ s, e.Finishes s ∧
    ∀ f ∈ entrants, f.team = team.other → ∀ t, f.Finishes t → s < t

variable {entrants others : List Entrant} {e f : Entrant} {team : Team} {s : Int}

theorem Entrant.countedTime?_eq_some_iff : e.finish.countedTime? = some s ↔ e.Finishes s := by
  unfold Finish.countedTime? Entrant.Finishes
  cases e.finish.noContest <;> simp

theorem Team.eq_or_eq_other (t team : Team) : t = team ∨ t = team.other := by
  cases t <;> cases team <;> decide

theorem Team.ne_other (team : Team) : team ≠ team.other := by
  cases team <;> decide

/-! ## The best time -/

theorem hasTime_iff :
    hasTime entrants team s = true ↔ ∃ e ∈ entrants, e.team = team ∧ e.Finishes s := by
  simp only [hasTime, List.any_eq_true, Bool.and_eq_true, decide_eq_true_eq,
    Entrant.countedTime?_eq_some_iff]

theorem mem_countedTimes :
    s ∈ entrants.filterMap (·.finish.countedTime?) ↔ ∃ e ∈ entrants, e.Finishes s := by
  simp only [List.mem_filterMap, Entrant.countedTime?_eq_some_iff]

theorem bestTime?_eq_some_iff :
    bestTime? entrants = some s ↔
      (∃ e ∈ entrants, e.Finishes s) ∧ ∀ e ∈ entrants, ∀ t, e.Finishes t → s ≤ t := by
  rw [bestTime?, List.min?_eq_some_iff, mem_countedTimes]
  refine and_congr_right fun _ => ?_
  constructor
  · exact fun h e he t ht => h t (mem_countedTimes.2 ⟨e, he, ht⟩)
  · intro h t ht
    obtain ⟨e, he, ht⟩ := mem_countedTimes.1 ht
    exact h e he t ht

theorem exists_bestTime? (he : e ∈ entrants) (hs : e.Finishes s) :
    ∃ best, bestTime? entrants = some best ∧ best ≤ s := by
  have hmem : s ∈ entrants.filterMap (·.finish.countedTime?) := mem_countedTimes.2 ⟨e, he, hs⟩
  have hsome : (bestTime? entrants).isSome = true := List.isSome_min?_of_mem hmem
  obtain ⟨best, hbest⟩ := Option.isSome_iff_exists.1 hsome
  exact ⟨best, hbest, (bestTime?_eq_some_iff.1 hbest).2 e he s hs⟩

/-- The victor alone has the best time. -/
theorem victor_eq_some_iff_hasTime :
    victor entrants = some team ↔ ∃ best, bestTime? entrants = some best ∧
      hasTime entrants team best = true ∧ hasTime entrants team.other best = false := by
  unfold victor
  cases bestTime? entrants with
  | none => simp
  | some best =>
    simp only [Option.bind_eq_bind, Option.bind_some, Option.some.injEq, exists_eq_left']
    cases hred : hasTime entrants .red best <;> cases hblue : hasTime entrants .blue best <;>
      cases team <;> simp [Team.other, hred, hblue]

/-! ## The victor leads -/

theorem victor_eq_some_iff : victor entrants = some team ↔ Leads entrants team := by
  rw [victor_eq_some_iff_hasTime]
  constructor
  · rintro ⟨best, hbest, hhas, hother⟩
    obtain ⟨e, he, hteam, hs⟩ := hasTime_iff.1 hhas
    refine ⟨e, he, hteam, best, hs, fun f hf hfteam t ht => ?_⟩
    have hle : best ≤ t := (bestTime?_eq_some_iff.1 hbest).2 f hf t ht
    have hne : best ≠ t := by
      rintro rfl
      rw [hasTime_iff.2 ⟨f, hf, hfteam, ht⟩] at hother
      cases hother
    omega
  · rintro ⟨e, he, hteam, s, hs, hlead⟩
    obtain ⟨best, hbest, hle⟩ := exists_bestTime? he hs
    -- the other team has no time as good as the best one
    have hslower : ∀ f ∈ entrants, f.team = team.other → ¬f.Finishes best := by
      intro f hf hfteam ht
      have := hlead f hf hfteam best ht
      omega
    obtain ⟨⟨g, hg, hgbest⟩, -⟩ := bestTime?_eq_some_iff.1 hbest
    have hgteam : g.team = team :=
      (Team.eq_or_eq_other g.team team).resolve_right fun hother => hslower g hg hother hgbest
    refine ⟨best, hbest, hasTime_iff.2 ⟨g, hg, hgteam, hgbest⟩, ?_⟩
    rw [← Bool.not_eq_true, hasTime_iff]
    rintro ⟨f, hf, hfteam, ht⟩
    exact hslower f hf hfteam ht

theorem victor_eq_none_iff : victor entrants = none ↔ ∀ team, ¬Leads entrants team := by
  rw [Option.eq_none_iff_forall_ne_some]
  exact forall_congr' fun team => not_congr victor_eq_some_iff

/-- The victor hangs on who took part. -/
theorem victor_congr (h : ∀ e, e ∈ others ↔ e ∈ entrants) : victor others = victor entrants := by
  apply Option.ext
  intro team
  rw [victor_eq_some_iff, victor_eq_some_iff, Leads, Leads]
  simp only [h]

/-- A team whose best time nobody of the other team reaches leads, also when several of the team have
that time. -/
theorem leads_of_shared (he : e ∈ entrants) (hteam : e.team = team) (hs : e.Finishes s)
    (hbest : ∀ f ∈ entrants, ∀ t, f.Finishes t → s < t ∨ s = t ∧ f.team = team) :
    Leads entrants team := by
  refine ⟨e, he, hteam, s, hs, fun f hf hfteam t ht => ?_⟩
  exact (hbest f hf t ht).resolve_right fun hsame => team.ne_other (hsame.2.symm.trans hfteam)

/-! ## Two opponents -/

theorem Outcome.of_eq_win_iff {mine theirs : Finish} :
    Outcome.of mine theirs = .win ↔ mine.noContest = false ∧ (theirs.noContest = true ∨
      ∃ s, mine.time = some s ∧ ∀ t, theirs.time = some t → s < t) := by
  unfold Outcome.of
  cases mine.noContest with
  | true => cases theirs.noContest <;> simp
  | false => cases theirs.noContest with
    | true => simp
    | false =>
      cases mine.time with
      | none => cases theirs.time <;> simp [Outcome.ofTimes]
      | some s => cases theirs.time with
        | none => simp [Outcome.ofTimes]
        | some t =>
          by_cases hlt : s < t
          · simp [Outcome.ofTimes, hlt]
          · by_cases hgt : t < s <;> simp [Outcome.ofTimes, hlt, hgt]

theorem leads_pair_iff (h : f.team = e.team.other) :
    Leads [e, f] e.team ↔ ∃ s, e.Finishes s ∧ ∀ t, f.Finishes t → s < t := by
  have hne : e.team ≠ e.team.other := e.team.ne_other
  simp [Leads, h, hne, hne.symm]

/-- Of two opponents the victor's is the one who wins the race and has a time. -/
theorem victor_pair_iff (h : f.team = e.team.other) :
    victor [e, f] = some e.team ↔
      Outcome.of e.finish f.finish = .win ∧ e.finish.time.isSome = true := by
  rw [victor_eq_some_iff, leads_pair_iff h, Outcome.of_eq_win_iff, Option.isSome_iff_exists]
  unfold Entrant.Finishes
  cases hcounts : f.finish.noContest with
  | true => simp
  | false =>
    constructor
    · rintro ⟨s, ⟨he, hs⟩, hlead⟩
      exact ⟨⟨he, .inr ⟨s, hs, fun t ht => hlead t ⟨rfl, ht⟩⟩⟩, s, hs⟩
    · rintro ⟨⟨he, hnever | ⟨s, hs, hlead⟩⟩, -⟩
      · cases hnever
      · exact ⟨s, ⟨he, hs⟩, fun t ht => hlead t ht.2⟩

/-- **The victor of a battle** is the team that leads, in whatever order the racers are listed; of
two opponents it is the one who wins the race and has a time. -/
theorem victor_exact (entrants : List Entrant) :
    (∀ team, victor entrants = some team ↔ Leads entrants team) ∧
    (victor entrants = none ↔ ∀ team, ¬Leads entrants team) ∧
    (∀ others, (∀ e, e ∈ others ↔ e ∈ entrants) → victor others = victor entrants) ∧
    (∀ e ∈ entrants, ∀ s, e.Finishes s →
      (∀ f ∈ entrants, ∀ t, f.Finishes t → s < t ∨ s = t ∧ f.team = e.team) →
        victor entrants = some e.team) ∧
    (∀ e f, f.team = e.team.other → ∀ pair, (∀ g, g ∈ pair ↔ g = e ∨ g = f) →
      (victor pair = some e.team ↔
        Outcome.of e.finish f.finish = .win ∧ e.finish.time.isSome = true)) ∧
    ∀ mine theirs, Outcome.of theirs mine = (Outcome.of mine theirs).swapped := by
  refine ⟨fun _ => victor_eq_some_iff, victor_eq_none_iff, fun _ => victor_congr,
    fun e he s hs hbest => victor_eq_some_iff.2 (leads_of_shared he rfl hs hbest),
    fun e f hteams pair hpair => ?_, fun mine theirs => (Outcome.swapped_of mine theirs).symm⟩
  have hsame : victor pair = victor [e, f] := victor_congr (by simpa using hpair)
  rw [hsame, victor_pair_iff hteams]

/-- A shared lead of the red team decides, whoever is named first. A racer without a time wins against
a run that does not count, but is no victor. -/
theorem victor_exact_sharedLead :
    victor [⟨.blue, ⟨some 1000, false⟩⟩, ⟨.red, ⟨some 900, false⟩⟩, ⟨.red, ⟨some 900, false⟩⟩] =
        some .red ∧
      victor [⟨.red, ⟨some 900, false⟩⟩, ⟨.blue, ⟨some 1000, false⟩⟩] = some .red ∧
      Outcome.of ⟨none, false⟩ ⟨some 900, true⟩ = .win ∧
      victor [⟨.red, ⟨none, false⟩⟩, ⟨.blue, ⟨some 900, true⟩⟩] ≠ some .red := by
  obtain ⟨-, -, hcongr, hshared, hpair, -⟩ := victor_exact [⟨.blue, ⟨some 1000, false⟩⟩,
    ⟨.red, ⟨some 900, false⟩⟩, ⟨.red, ⟨some 900, false⟩⟩]
  have hvictor := hshared ⟨.red, ⟨some 900, false⟩⟩ (by decide) 900 ⟨rfl, rfl⟩ (by
    simp [Entrant.Finishes])
  refine ⟨hvictor, (hcongr _ fun e => ?_).trans hvictor, by decide, fun hred => ?_⟩
  · simp [or_comm]
  · have hwin := (hpair ⟨.red, ⟨none, false⟩⟩ ⟨.blue, ⟨some 900, true⟩⟩ rfl _ (by simp)).1 hred
    exact absurd hwin.2 (by decide)

end RaceBook
