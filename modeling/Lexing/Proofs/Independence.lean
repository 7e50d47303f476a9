import Lexing.Proofs.Parallel

/-!
# Scans and what was scanned before

A scan of a text goes back to the start of a document first, but it keeps the readers of
literals that earlier scans have needed, in whatever condition they were left.  A reader is
prepared again before it reads, so what the state has been through does not matter.
-/

namespace Lexing

namespace Scan

variable {ρ : Type} [Literal.Reader ρ] {profile : Profile ρ} {state : ScanState ρ}

/-- States that calls with one profile can leave behind, with whatever result they end. -/
inductive Obtained (profile : Profile ρ) : ScanState ρ → Prop
  | new : Obtained profile {}
  | init {state : ScanState ρ} : Obtained profile state → Obtained profile state.reset
  | step {σ : Type} [Sink σ] {state : ScanState ρ} (sink : σ) (located : Located) :
      Obtained profile state → Obtained profile (step profile state sink located).state
  | finalize {σ : Type} [Sink σ] {state : ScanState ρ} (sink : σ) (stop : Nat) :
      Obtained profile state → Obtained profile (finalize profile state sink stop).state
  | tokenize {σ : Type} [Sink σ] {state : ScanState ρ} (sink : σ) (source : String) :
      Obtained profile state → Obtained profile (tokenize profile state sink source).state
  | setClass {state : ScanState ρ} (symbol : Char) (traits : CharClass) :
      Obtained profile state → Obtained profile (state.setClass profile symbol traits)
  | resetClasses {state : ScanState ρ} : Obtained profile state →
      Obtained profile state.resetClasses

/-! ## Readers that are left behind -/

namespace Genuine

variable {σ : Type} [Sink σ]

theorem nextReaction (genuine : Genuine profile state) {closing : Option Nat}
    {queue rest : List Fed} {reaction : Reaction ρ}
    (next : nextReaction? profile closing state queue = some (reaction, rest)) :
    Genuine profile reaction.state := by
  obtain ⟨_, _, _, answered⟩ := answered_next next
  exact genuine.answered answered

theorem run (genuine : Genuine profile state) (closing : Option Nat) (fuel : Nat) (sink : σ)
    (queue : List Fed) : Genuine profile (run profile closing fuel state sink queue).state := by
  induction fuel generalizing state sink queue with
  | zero =>
      unfold Scan.run
      cases nextReaction? profile closing state queue <;> exact genuine
  | succ fuel ih =>
      unfold Scan.run
      cases next : nextReaction? profile closing state queue with
      | none => exact genuine
      | some found =>
          obtain ⟨reaction, rest⟩ := found
          have kept : Genuine profile reaction.state := genuine.nextReaction next
          dsimp only
          rcases deliverAll sink reaction.reports with ⟨_ | error, following⟩
          · exact ih kept following _
          · exact kept

theorem stepAll (genuine : Genuine profile state) (sink : σ) (symbols : List Located) :
    Genuine profile (stepAll profile state sink symbols).state := by
  induction symbols generalizing state sink with
  | nil => exact genuine
  | cons located rest ih =>
      have stepped : Genuine profile (Scan.step profile state sink located).state :=
        genuine.run none _ sink _
      unfold Scan.stepAll
      dsimp only
      split
      · exact stepped
      · exact ih stepped _

theorem finalize (genuine : Genuine profile state) (sink : σ) (stop : Nat) :
    Genuine profile (finalize profile state sink stop).state := by
  have flushed := genuine.run (some stop) (budget state.mode 1) sink []
  unfold Scan.finalize
  dsimp only
  split
  · exact flushed
  · split <;> exact flushed.of_readers rfl

theorem tokenize (genuine : Genuine profile state) (sink : σ) (source : String) :
    Genuine profile (tokenize profile state sink source).state := by
  unfold Scan.tokenize
  dsimp only
  split
  · have reset : Genuine profile state.reset := genuine.of_readers rfl
    have stepped := reset.stepAll sink (Located.ofText 0 source.toList)
    split
    · exact stepped
    · exact stepped.finalize _ _
  · exact genuine

end Genuine

theorem Obtained.genuine (obtained : Obtained profile state) : Genuine profile state := by
  induction obtained with
  | new => exact .initial profile
  | init _ ih => exact ih.of_readers rfl
  | step sink located _ ih => exact ih.run none _ sink _
  | finalize sink stop _ ih => exact ih.finalize sink stop
  | tokenize sink source _ ih => exact ih.tokenize sink source
  | setClass _ _ _ ih => exact ih.of_readers rfl
  | resetClasses _ ih => exact ih.of_readers rfl

/-! ## Scans on used states -/

theorem shifted_zero {reports others : List Report}
    (alike : List.Forall₂ (shifted profile 0).ReportAlike reports others) :
    others = reports := by
  rw [shifted_reports alike]
  exact (List.map_congr_left fun report _ => report.moved_id).trans (List.map_id _)

/-- The trace of a scan is the same on a used state and on a new one. -/
theorem tokenize_anew (renews : profile.Renews) (genuine : Genuine profile state)
    {source : String} (fits : byteLength source.toList ≤ maxOffset) :
    (shifted profile 0).TraceAlike
      (Trace.tokenize profile { ownClasses := state.ownClasses } source)
      (Trace.tokenize profile state source) := by
  have states : (shifted profile 0).StateAlike
      (ScanState.reset { ownClasses := state.ownClasses }) state.reset :=
    displaced_idle ((Genuine.initial profile).of_readers rfl) (genuine.of_readers rfl) rfl rfl rfl
      rfl rfl
  exact Likeness.tokenize_alike (shifted_lawful renews 0) states fits
    (fun located _ => ⟨rfl, trivial, rfl, rfl⟩) rfl

/-- What a state has been through does not matter for a scan with the stock readers: every
sink receives the same on a new state with the same classes, the result is the same, and
so is the state as far as one can look at it. -/
theorem history_forgotten {profile : Profile Literal.Stock} {state : ScanState Literal.Stock}
    (obtained : Obtained profile state) (source : String) {σ : Type} [Sink σ] (sink : σ) :
    let outcome := tokenize profile state sink source
    let anew := tokenize profile { ownClasses := state.ownClasses } sink source
    outcome.sink = anew.sink ∧ outcome.result = anew.result ∧
      (outcome.result = .ok () → outcome.state.mode = anew.state.mode ∧
        outcome.state.lineStart = anew.state.lineStart ∧
        outcome.state.tokenStart = anew.state.tokenStart) := by
  intro outcome anew
  have used : (Trace.tokenize profile state source).Delivered sink outcome :=
    tokenize_delivered profile state sink source
  have new : (Trace.tokenize profile { ownClasses := state.ownClasses } source).Delivered sink
      anew := tokenize_delivered profile _ sink source
  by_cases fits : byteLength source.toList ≤ maxOffset
  · have alike := tokenize_anew profile.renews_of_stock obtained.genuine fits
    obtain ⟨sinks, results⟩ := used.agree new (shifted_zero alike.reports) alike.result
    refine ⟨sinks, results, fun ended => ?_⟩
    have last : (shifted profile 0).StateAlike anew.state outcome.state := by
      rw [← (used.of_ok ended).2.2, ← (new.of_ok (results ▸ ended)).2.2]
      exact alike.states
    refine ⟨?_, last.fresh, last.start⟩
    rw [tokenize_mode ended, tokenize_mode (results ▸ ended)]
  · rw [Trace.tokenize_of_large profile fits] at used new
    obtain ⟨sinks, results⟩ := used.agree new rfl rfl
    refine ⟨sinks, results, fun ended => ?_⟩
    exact absurd (used.of_ok ended).2.1 (by simp)

/-- A string that was left after a backslash: the next scan finds a stale reader, and reads
another string like the first one. -/
theorem history_forgotten_escape :
    let opened := (step CLike.profile {} ({} : Recorder) ⟨'"', 0⟩).state
    let left := (step CLike.profile opened ({} : Recorder) ⟨'\\', 1⟩).state
    left.mode.literal?.isSome = true ∧
      (tokenize CLike.profile left ({} : Recorder) "\"n\"").sink.events.toList =
        (tokenize CLike.profile {} ({} : Recorder) "\"n\"").sink.events.toList := by
  intro opened left
  have obtained : Obtained CLike.profile left := .step _ _ (.step _ _ .new)
  have classes : left.ownClasses = none := by decide +kernel
  have forgotten := (history_forgotten obtained "\"n\"" ({} : Recorder)).1
  rw [classes] at forgotten
  exact ⟨by decide +kernel, by rw [forgotten]⟩

end Scan

end Lexing
