import Lexing.Proofs.Frame
import Lexing.Proofs.Potential

/-!
# Termination

A language must not let a literal begin with a point, nor with an escape symbol
that can continue a line, and a point must not be such an escape symbol.  Then the
measure falls with every reaction, so that the machine comes to an end after every
symbol, and within the budget of a call.
-/

namespace Lexing

namespace Scan

variable {ρ : Type} {profile : Profile ρ} [Literal.Reader ρ]

/-- The state of a scan whose held back escape symbols are harmless, under the given
classes. -/
structure Calm (profile : Profile ρ) (own : Option CharClass.Table) (state : ScanState ρ) :
    Prop where
  valid : state.Valid profile
  classes : state.ownClasses = own
  settled : Settled profile state

/-- Symbols that can continue a line are harmless. -/
def Tame (profile : Profile ρ) (own : Option CharClass.Table) : Prop :=
  profile.options.honorLineContinuation = true →
    ∀ symbol, ((own.getD profile.classes).classify symbol).escape = true → Harmless profile symbol

theorem keeps_calm (sound : profile.Sound) {own : Option CharClass.Table}
    (tame : Tame profile own) (closing : Option Nat) :
    Keeps profile closing fun config => Calm profile own config.state := by
  refine keeps_of_answers fun {_ state next reaction} calm answered => ?_
  refine ⟨answered.valid sound calm.valid, answered.ownClasses.trans calm.classes, ?_⟩
  intro resume escape carriage waits
  rcases answered.waits waits with ⟨fed, rfl, rfl, begins⟩ | ⟨earlier, missing, held⟩
  · unfold beginsContinuation ScanState.classify at begins
    rw [calm.classes] at begins
    simp only [Bool.and_eq_true] at begins
    exact tame begins.1.2 fed.symbol begins.1.1
  · exact calm.settled earlier escape missing held

/-- Calm scans come to an end. -/
theorem descends_of_tame (sound : profile.Sound)
    (undotted : profile.literals.advance Trie.root '.' = none) {own : Option CharClass.Table}
    (tame : Tame profile own) (closing : Option Nat) :
    Descends profile closing (fun config => Calm profile own config.state)
      (Config.potential profile) where
  keeps := keeps_calm sound tame closing
  falls _ _ _ calm next := potential_lt_of_next undotted calm.valid calm.settled next

/-- The states that steps without an error lead to, from the start of a document. -/
inductive Stepped (profile : Profile ρ) : ScanState ρ → Prop
  | init (state : ScanState ρ) : Stepped profile state.reset
  | step {σ : Type} [Sink σ] {state : ScanState ρ} (sink : σ) (located : Located) :
      Stepped profile state → (step profile state sink located).result = .ok () →
      Stepped profile (step profile state sink located).state

theorem step_ownClasses {σ : Type} [Sink σ] {state : ScanState ρ} {sink : σ} {located : Located}
    (ended : (step profile state sink located).result = .ok ()) :
    (step profile state sink located).state.ownClasses = state.ownClasses := by
  have kept : Keeps profile none fun config => config.state.ownClasses = state.ownClasses :=
    keeps_of_answers fun same answered => answered.ownClasses.trans same
  obtain ⟨_, _, leads, _⟩ := leads_of_run _ state sink _ ended
  exact leads.keeps kept rfl

theorem Stepped.calm (sound : profile.Sound) {state : ScanState ρ} (stepped : Stepped profile state)
    (tame : Tame profile state.ownClasses) : Calm profile state.ownClasses state := by
  induction stepped with
  | init state => exact ⟨ScanState.valid_idle rfl, rfl, by simp [Settled, ScanState.reset]⟩
  | step sink located _ ended ih =>
      have same := step_ownClasses ended
      rw [same] at tame ⊢
      exact run_keeps (keeps_calm sound tame none) (ih tame) ended

theorem finalize_ne_endless {σ : Type} [Sink σ] {state : ScanState ρ} {sink : σ} {stop : Nat}
    (flushed : (run profile (some stop) (budget state.mode 1) state sink []).result ≠
      .error .endless) :
    (finalize profile state sink stop).result ≠ .error .endless := by
  unfold finalize
  generalize run profile (some stop) (budget state.mode 1) state sink [] = flush at flushed ⊢
  dsimp only
  cases ended : flush.result with
  | error => exact flushed
  | ok =>
      cases delivered : deliverAll flush.sink (flush.state.emit .fin (.point stop)).reports with
      | mk stopped next =>
          cases stopped with
          | some error => simpa using deliverAll_ne_endless delivered
          | none => simp

/-- The machine comes to an end after every symbol and at the end of the input,
where it is between tokens.  No call runs out of reactions, whatever the sink
does. -/
theorem step_and_finalize_end (made : profile.Made) {state : ScanState ρ}
    (stepped : Stepped profile state) (undotted : ¬profile.StartsLiteral '.')
    (escapes : profile.options.honorLineContinuation = true →
      ∀ symbol, (state.classify profile symbol).escape = true → ¬profile.StartsLiteral symbol)
    (dot : profile.options.honorLineContinuation = true →
      (state.classify profile '.').escape = false) :
    (∀ located, ∃ reports last, Leads profile none ⟨state, [.plain located]⟩ reports last ∧
        last.Done profile none) ∧
      (∀ stop, ∃ reports last, Leads profile (some stop) ⟨state, []⟩ reports last ∧
        last.Done profile (some stop) ∧ last.state.mode = .idle) ∧
      ∀ (σ : Type) [Sink σ] (sink : σ),
        (∀ located, (step profile state sink located).result ≠ .error .endless) ∧
          ∀ stop, (finalize profile state sink stop).result ≠ .error .endless ∧
            ((finalize profile state sink stop).result = .ok () →
              (finalize profile state sink stop).state.mode = .idle) := by
  have sound := made.sound
  have unread := (sound.not_startsLiteral_iff '.').mp undotted
  have tame : Tame profile state.ownClasses := by
    intro honored symbol escape
    refine ⟨(sound.not_startsLiteral_iff symbol).mp (escapes honored symbol escape), ?_⟩
    rintro rfl
    have plain := dot honored
    rw [ScanState.classify, escape] at plain
    contradiction
  have calm := stepped.calm sound tame
  have descends := fun closing => descends_of_tame sound unread tame closing
  refine ⟨fun located => (descends none).leads _ calm, fun stop => ?_, fun σ _ sink => ⟨?_, ?_⟩⟩
  · obtain ⟨reports, last, leads, done⟩ := (descends (some stop)).leads ⟨state, []⟩ calm
    exact ⟨reports, last, leads, done, done.mode⟩
  · intro located
    have enough := potential_le_budget profile state [.plain located] (by simp)
    exact (descends none).run_ne_endless calm enough sink
  · intro stop
    have enough := potential_le_budget profile state [] (by simp)
    have flushed := (descends (some stop)).run_ne_endless calm enough sink
    exact ⟨finalize_ne_endless flushed, finalize_mode⟩

/-- A scan of `<<` that waits after an escape symbol comes to an end. -/
theorem step_and_finalize_end_shift :
    ∃ state : ScanState Literal.Stock,
      state.mode.held = 3 ∧ Stepped shiftProfile state ∧
      (∀ located, ∃ reports last,
        Leads shiftProfile none ⟨state, [.plain located]⟩ reports last ∧
          last.Done shiftProfile none) ∧
      (∀ stop, ∃ reports last, Leads shiftProfile (some stop) ⟨state, []⟩ reports last ∧
        last.Done shiftProfile (some stop) ∧ last.state.mode = .idle) := by
  have start : Stepped shiftProfile ({} : ScanState Literal.Stock).reset := .init {}
  have first := Stepped.step ({} : Recorder) ⟨'<', 0⟩ start (ok_of_isOk (by decide +kernel))
  have second := Stepped.step ({} : Recorder) ⟨'<', 1⟩ first (ok_of_isOk (by decide +kernel))
  have third := Stepped.step ({} : Recorder) ⟨'\\', 2⟩ second (ok_of_isOk (by decide +kernel))
  have noLiterals : ∀ symbol, ¬shiftProfile.StartsLiteral symbol := by
    intro symbol
    have empty : shiftProfile.literals = .empty := by decide +kernel
    rw [shiftProfile_made.sound.not_startsLiteral_iff, empty]
    rfl
  have ends := step_and_finalize_end shiftProfile_made third (noLiterals '.')
    (fun _ symbol _ => noLiterals symbol) (fun _ => by decide +kernel)
  exact ⟨_, by decide +kernel, third, ends.1, ends.2.1⟩

/-! ## Whole scans -/

section Whole

variable {σ : Type} [Sink σ] {state : ScanState ρ}

theorem stepAll_ownClasses {sink : σ} {symbols : List Located}
    (ended : (stepAll profile state sink symbols).result = .ok ()) :
    (stepAll profile state sink symbols).state.ownClasses = state.ownClasses := by
  induction symbols generalizing state sink with
  | nil => rfl
  | cons located rest ih =>
      unfold stepAll at ended ⊢
      dsimp only at ended ⊢
      cases stepped : (step profile state sink located).result with
      | error error => simp [stepped] at ended
      | ok =>
          rw [stepped] at ended
          exact (ih ended).trans (step_ownClasses stepped)

theorem stepAll_stepped (stepped : Stepped profile state) {sink : σ} {symbols : List Located}
    (ended : (stepAll profile state sink symbols).result = .ok ()) :
    Stepped profile (stepAll profile state sink symbols).state := by
  induction symbols generalizing state sink with
  | nil => exact stepped
  | cons located rest ih =>
      unfold stepAll at ended ⊢
      dsimp only at ended ⊢
      cases first : (step profile state sink located).result with
      | error error => simp [first] at ended
      | ok =>
          rw [first] at ended
          exact ih (.step sink located stepped first) ended

variable (sound : profile.Sound) (undotted : profile.literals.advance Trie.root '.' = none)

include sound undotted

theorem stepAll_ne_endless (stepped : Stepped profile state) (tame : Tame profile state.ownClasses)
    (sink : σ) (symbols : List Located) :
    (stepAll profile state sink symbols).result ≠ .error .endless := by
  induction symbols generalizing state sink with
  | nil => simp [stepAll]
  | cons located rest ih =>
      have enough := potential_le_budget profile state [.plain located] (by simp)
      have first : (step profile state sink located).result ≠ .error .endless :=
        (descends_of_tame sound undotted tame none).run_ne_endless (stepped.calm sound tame) enough
          sink
      unfold stepAll
      dsimp only
      cases ended : (step profile state sink located).result with
      | error error => simpa [ended] using first
      | ok => exact ih (.step sink located stepped ended) (by rwa [step_ownClasses ended]) _

/-- Every scan comes to an end when no literal begins with a point and symbols that can continue
a line are harmless. -/
theorem tokenize_ne_endless (tame : Tame profile state.ownClasses) (sink : σ) (source : String) :
    (tokenize profile state sink source).result ≠ .error .endless := by
  have stepped := stepAll_ne_endless sound undotted (.init state) tame sink
    (Located.ofText 0 source.toList)
  unfold tokenize
  dsimp only
  split
  · cases ended : (stepAll profile state.reset sink (Located.ofText 0 source.toList)).result with
    | error error => simpa [ended] using stepped
    | ok =>
        have classes := stepAll_ownClasses ended
        have onward := stepAll_stepped (.init state) ended
        generalize (stepAll profile state.reset sink (Located.ofText 0 source.toList)).state = last
          at classes onward ⊢
        have calm : Tame profile last.ownClasses := by rwa [classes]
        have enough := potential_le_budget profile last [] (by simp)
        exact finalize_ne_endless ((descends_of_tame sound undotted calm _).run_ne_endless
          (onward.calm sound calm) enough _)
  · simp

end Whole

end Scan

end Lexing
