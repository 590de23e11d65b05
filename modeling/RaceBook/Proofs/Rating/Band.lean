import RaceBook.Proofs.Glicko.Band
import RaceBook.Proofs.Rating.Preview
import RaceBook.Proofs.Rating.Recorded

/-!
# Deviations stay in the band

* `Book.Clamped` : clamping a stored deviation again changes none;
  `Book.Clamped.prior?_eq` : then a player enters a period with just what their snapshot says;
* `Operation.ClosesUnder` : closes under a configuration, asked for or due;
  `Operation.ClosesUnder.mem_or_clamped` : what they store is clamped, whatever was there before;
* `Operation.OnlyCloses`, `Operation.clamped_run` : when snapshots come from such closes only, all of
  them are; `Operation.onlyCloses_of_forall` : they do when none is appended by hand and every close
  goes by the configuration;
* `Session.exists_rate_of_preview` : so is what a preview answers while a period is open;
* `deviations_banded` : stored and previewed deviations are in the band of the configuration.
-/

namespace RaceBook

variable {R : Type} [Arithmetic R] {book later : Book R} {config : Config R} {player : Int}
  {now : Moment} {standing : Standing R}

/-! ## Clamped books -/

namespace Book

/-- Clamping a stored deviation again changes none. -/
def Clamped (book : Book R) (config : Config R) : Prop :=
  ∀ s ∈ book.snapshots.rows,
    config.glicko.clamp s.data.standing.deviation = s.data.standing.deviation

theorem clamped_empty : (empty : Book R).Clamped config := nofun

omit [Arithmetic R] in
theorem mem_of_latestSnapshot? {time : Moment} {s : Row (Snapshot R)}
    (h : book.latestSnapshot? player (some time) = some s) : s ∈ book.snapshots.rows :=
  List.mem_of_mem_filter (List.mem_of_mem_filter (mem_of_latest? h))

/-- A player enters a period with what their latest snapshot says. -/
theorem Clamped.prior?_eq (h : book.Clamped config) (player : Int) (time : Moment) :
    book.prior? config player time =
      (book.latestSnapshot? player (some time)).map (·.data.standing) := by
  unfold prior?
  cases hlatest : book.latestSnapshot? player (some time) with
  | none => rfl
  | some s => rw [Option.map_some, Option.map_some, h s (mem_of_latestSnapshot? hlatest)]

theorem clamp_of_mem_snapshotsOfClose [StrictlyOrdered R] (hband : config.glicko.HasBand)
    {found : Row Period} {endedAt : Moment} {s : Snapshot R}
    (hs : s ∈ book.snapshotsOfClose config found endedAt) :
    config.glicko.clamp s.standing.deviation = s.standing.deviation := by
  obtain ⟨-, -, -, hrate⟩ := of_mem_snapshotsOfClose hs
  exact clamp_deviation_of_rate hband hrate

end Book

/-! ## Closes -/

namespace Operation

def ClosesUnder (config : Config R) : Operation R → Prop
  | closePeriod c _ _ | closeElapsed c _ => c = config
  | _ => False

/-- Of the events of such a close only the end of a period takes snapshots. -/
theorem ClosesUnder.of_explains {op : Operation R} {e : Event R} (h : op.ClosesUnder config)
    (he : op.Explains e) :
    (∃ found endedAt, e = .periodClosed config found endedAt) ∨
      ∀ book, (e.apply book).snapshots = book.snapshots := by
  cases op with
  | closePeriod c period? endedAt =>
    obtain rfl : c = config := h
    rcases he with ⟨found, rfl⟩ | ⟨found, rfl⟩
    · exact .inr fun book => Event.snapshots_apply _ book
    · exact .inl ⟨found, endedAt, rfl⟩
  | closeElapsed c now =>
    obtain rfl : c = config := h
    rcases he with rfl | ⟨found, rfl⟩ | ⟨found, endedAt, rfl⟩
    · exact .inr fun book => Event.snapshots_apply _ book
    · exact .inr fun book => Event.snapshots_apply _ book
    · exact .inl ⟨found, endedAt, rfl⟩
  | _ => exact h.elim

/-- What a close under the configuration stores is clamped, whatever the book was. -/
theorem ClosesUnder.mem_or_clamped [StrictlyOrdered R] {op : Operation R}
    (h : op.ClosesUnder config) (hband : config.glicko.HasBand) (book : Book R) :
    ∀ s ∈ (op.after book).snapshots.rows, s ∈ book.snapshots.rows ∨
      config.glicko.clamp s.data.standing.deviation = s.data.standing.deviation := by
  refine (op.steps_after book).invariant (P := fun mid => ∀ s ∈ mid.snapshots.rows,
    s ∈ book.snapshots.rows ∨
      config.glicko.clamp s.data.standing.deviation = s.data.standing.deviation)
    (fun mid e he hmid _ s hs => ?_) fun s hs => .inl hs
  rcases h.of_explains he with ⟨found, endedAt, rfl⟩ | hkept
  · obtain ⟨added, hrows, hdata, -⟩ := mid.exists_rows_closed config found endedAt
    rcases List.mem_append.1 (hrows ▸ hs) with hs | hs
    · exact hmid s hs
    · obtain ⟨t, ht, hstored⟩ := exists_of_map_eq hdata hs
      have hclamped := Book.clamp_of_mem_snapshotsOfClose hband ht
      rw [hstored]
      exact .inr hclamped
  · exact hmid s (hkept mid ▸ hs)

/-- Each of the operations closes under the configuration or takes no snapshot. -/
def OnlyCloses (config : Config R) : List (Operation R) → Book R → Prop
  | [], _ => True
  | op :: rest, book =>
    (op.ClosesUnder config ∨ (op.after book).snapshots.rows = book.snapshots.rows) ∧
      OnlyCloses config rest (op.after book)

def takesSnapshots : Operation R → Bool
  | closePeriod .. | closeElapsed .. | command (.appendSnapshot _) => true
  | _ => false

omit [Arithmetic R] in
theorem not_explains_periodClosed {op : Operation R} (h : op.takesSnapshots = false)
    {c : Config R} {found : Row Period} {endedAt : Moment} :
    ¬op.Explains (.periodClosed c found endedAt) := by
  cases op with
  | command c => cases c <;> simp [Explains, Command.Explains]
  | closePeriod | closeElapsed => cases h
  | _ => simp [Explains]

theorem snapshots_after {op : Operation R} (h : op.takesSnapshots = false) (book : Book R) :
    (op.after book).snapshots = book.snapshots := by
  refine (op.steps_after book).invariant (P := fun mid => mid.snapshots = book.snapshots)
    (fun mid e he hmid _ => ?_) rfl
  have hsnapshots := e.snapshots_apply mid
  cases e with
  | snapshotTaken t =>
    rw [eq_appendSnapshot_of_explains he] at h
    cases h
  | periodClosed c found endedAt => exact absurd he (not_explains_periodClosed h)
  | _ => exact hsnapshots.trans hmid

theorem onlyCloses_of_forall {ops : List (Operation R)}
    (h : ∀ op ∈ ops, op.ClosesUnder config ∨ op.takesSnapshots = false) (book : Book R) :
    OnlyCloses config ops book := by
  induction ops generalizing book with
  | nil => trivial
  | cons op rest ih =>
    refine ⟨(h op List.mem_cons_self).imp_right fun hop => ?_,
      ih (fun op' hop' => h op' (List.mem_cons_of_mem op hop')) _⟩
    rw [snapshots_after hop]

/-- When snapshots come from closes under the configuration only, all of them are clamped. -/
theorem clamped_run [StrictlyOrdered R] (hband : config.glicko.HasBand) {ops : List (Operation R)}
    (hops : OnlyCloses config ops book) (hbook : book.Clamped config) :
    (run ops book).Clamped config := by
  induction ops generalizing book with
  | nil => exact hbook
  | cons op rest ih =>
    obtain ⟨hop, hrest⟩ := hops
    refine ih hrest fun s hs => ?_
    rcases hop with hcloses | hsame
    · exact (hcloses.mem_or_clamped hband book s hs).elim (hbook s) id
    · exact hbook s (hsame ▸ hs)

end Operation

/-! ## Previews -/

theorem Session.exists_rate_of_preview (hopen : book.openPeriods ≠ [])
    (h : preview config player now book = .ok standing later) :
    ∃ w fraction, book.provisional config w fraction player = .ok standing := by
  simp only [preview, bind_eq_ok, openPeriod?_eq_ok] at h
  obtain ⟨_, _, hplayer, open?, _, ⟨hopens, rfl⟩, h⟩ := h
  obtain ⟨-, rfl⟩ := player_eq_ok.1 hplayer
  cases open? with
  | none => exact absurd hopens hopen
  | some found =>
    simp only [bind_eq_ok, liftNumber_eq_ok] at h
    obtain ⟨length, _, ⟨-, rfl⟩, fraction, _, ⟨-, rfl⟩, _, _, hget, h⟩ := h
    obtain ⟨rfl, rfl⟩ := get_eq_ok.1 hget
    exact ⟨⟨found.data.startedAt, now⟩, fraction, (liftRating_eq_ok.1 h).1⟩

/-- **Deviations stay in the band** after every close and in every preview, whatever the arithmetic
makes of the update; and clamping a stored deviation again changes nothing. -/
theorem deviations_banded [StrictlyOrdered R] (config : Config R) (hband : config.glicko.HasBand) :
    (∀ player? fraction current matchups standing,
      rate config.glicko player? fraction current matchups = .ok standing →
        config.glicko.InBand standing.deviation) ∧
    (∀ book (op : Operation R), op.ClosesUnder config →
      ∀ s ∈ (op.after book).snapshots.rows, s ∉ book.snapshots.rows →
        config.glicko.InBand s.data.standing.deviation) ∧
    (∀ (book : Book R) player now standing later, book.openPeriods ≠ [] →
      (Operation.query (.preview config player now)).perform book =
          .ok (.standing standing) later →
        config.glicko.InBand standing.deviation) ∧
    ∀ (start : Book R) ops, start.Clamped config → Operation.OnlyCloses config ops start →
      let book := Operation.run ops start
      (∀ s ∈ book.snapshots.rows, config.glicko.InBand s.data.standing.deviation ∧
        config.glicko.clamp s.data.standing.deviation = s.data.standing.deviation) ∧
      ∀ player time, book.prior? config player time =
        (book.latestSnapshot? player (some time)).map (·.data.standing) := by
  refine ⟨fun player? fraction current matchups standing hrate => ?_,
    fun book op hop s hs hnew => ?_, fun book player now standing later hopen hrun => ?_,
    fun start ops hstart hops => ?_⟩
  · exact Glicko.Parameters.inBand_of_clamp_eq hband (clamp_deviation_of_rate hband hrate)
  · exact Glicko.Parameters.inBand_of_clamp_eq hband
      ((hop.mem_or_clamped hband book s hs).resolve_left hnew)
  · obtain ⟨_, hpreview, hreply⟩ := Session.map_eq_ok.1 (Session.atomically_eq_ok.1 hrun)
    cases hreply
    obtain ⟨w, fraction, hrate⟩ := Session.exists_rate_of_preview hopen hpreview
    exact Glicko.Parameters.inBand_of_clamp_eq hband (clamp_deviation_of_rate hband hrate)
  · have hclamped := Operation.clamped_run hband hops hstart
    exact ⟨fun s hs => ⟨Glicko.Parameters.inBand_of_clamp_eq hband (hclamped s hs), hclamped s hs⟩,
      hclamped.prior?_eq⟩

section Resting

open scoped Fractions

instance : StrictlyOrdered Rat where
  irrefl := lt_irrefl
  trans _ _ _ := lt_trans
  not_lt_of_isNaN _ _ hnan := absurd hnan Bool.false_ne_true

/-- The close of the day after a rest stores a second snapshot, in the band and as the preview of it,
from which the next period is entered; over doubles nothing is left to clamp after the rematch. -/
theorem deviations_banded_resting :
    let day : Moment := .ofTicks 86400000004
    let later := (Operation.closePeriod .standard none day).after (Operation.run resting .empty)
    (∃ s ∈ later.snapshots.rows, s.id = 2 ∧ s.data.standing.deviation = 173.7178 * 0.5 ∧
      (Config.standard : Config Rat).glicko.InBand s.data.standing.deviation ∧
      later.prior? .standard 1 day = some s.data.standing) ∧
    (∃ standing book, (Operation.query (.preview .standard 1 day)).perform
        (Operation.run resting .empty) = .ok (.standing standing) book ∧
      (Config.standard : Config Rat).glicko.InBand standing.deviation) ∧
    (Config.standard : Config Float).glicko.HasBand ∧
    (Operation.run (rematch Float) .empty).Clamped .tolerant := by
  intro day later
  have hband : (Config.standard : Config Rat).glicko.HasBand := ⟨rfl, rfl, by decide +kernel⟩
  have hdoubles : (Config.standard : Config Float).glicko.HasBand :=
    Glicko.Parameters.hasBand_iff.2 (by decide +kernel)
  obtain ⟨-, -, hpreviews, hstored⟩ := deviations_banded (Config.standard : Config Rat) hband
  refine ⟨?_, ?_, hdoubles, ?_⟩
  · have hsnapshots : (Operation.run resting .empty).snapshots.rows =
        [⟨1, 1, 1, ⟨1620, 173.7178 * 0.3, 0.4⟩, 4, .ofTicks 4⟩] := by decide +kernel
    have hclamped : (Operation.run resting .empty).Clamped .standard := by
      intro s hs
      rw [hsnapshots, List.mem_singleton] at hs
      rw [hs]
      decide +kernel
    have hlatest : (later.latestSnapshot? 1 (some day)).any (fun s =>
        s.id = 2 ∧ s.data.standing.deviation = 173.7178 * 0.5) = true := by decide +kernel
    obtain ⟨s, hs, hnew⟩ := (Option.any_eq_true _ _).1 hlatest
    obtain ⟨hid, hdeviation⟩ := of_decide_eq_true hnew
    have hmem : s ∈ later.snapshots.rows := Book.mem_of_latestSnapshot? hs
    obtain ⟨hrows, hprior⟩ := hstored (Operation.run resting .empty)
      [.closePeriod .standard none day] hclamped ⟨.inl rfl, trivial⟩
    refine ⟨s, hmem, hid, hdeviation, (hrows s hmem).1, ?_⟩
    exact (hprior 1 day).trans (congrArg (Option.map (·.data.standing)) hs)
  · have hshown : (Session.preview .standard 1 day).yields (fun _ => true)
        (Operation.run resting .empty) = true := by decide +kernel
    obtain ⟨standing, book, hrun, -⟩ := Session.exists_of_yields hshown
    have hperform : (Operation.query (.preview .standard 1 day)).perform
        (Operation.run resting .empty) = .ok (.standing standing) book :=
      Session.atomically_eq_ok.2 (Session.map_eq_ok.2 ⟨standing, hrun, rfl⟩)
    have hopen : (Operation.run resting .empty).openPeriods ≠ [] := by decide +kernel
    exact ⟨standing, book, hperform, hpreviews _ _ _ _ _ hopen hperform⟩
  · have hops : Operation.OnlyCloses .tolerant (rematch Float) .empty := by
      refine Operation.onlyCloses_of_forall ?_ _
      simp [rematch, duelists, Operation.ClosesUnder, Operation.takesSnapshots]
    obtain ⟨-, -, -, hstored⟩ := deviations_banded (Config.tolerant : Config Float)
      ⟨hdoubles.lower, hdoubles.upper, hdoubles.inOrder⟩
    obtain ⟨hrows, -⟩ := hstored .empty (rematch Float) Book.clamped_empty hops
    exact fun s hs => (hrows s hs).2

end Resting

end RaceBook
