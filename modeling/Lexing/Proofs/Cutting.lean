import Lexing.Proofs.Independence
import Lexing.Proofs.Termination
import Lexing.Proofs.Truncation

/-!
# Cuts between lines

When the machine is idle at the start of a line, nothing of what it has read matters any
more.  The rest of the text is then scanned like a text of its own, except that it stands
at later offsets.
-/

namespace Lexing

namespace Scan

variable {ρ : Type} [Literal.Reader ρ] {profile : Profile ρ} {state : ScanState ρ}

/-- Scan the first part of a text, after which the input does not end. -/
def scanPart {σ : Type} [Sink σ] (profile : Profile ρ) (state : ScanState ρ) (sink : σ)
    (part : String) : Outcome ρ σ :=
  stepAll profile state.reset sink (Located.ofText 0 part.toList)

/-! ## Parts of a trace -/

section Composition

omit [Literal.Reader ρ]

variable {trace : Trace ρ} {next : ScanState ρ → Trace ρ}

theorem Trace.andThen_of_ok (ended : trace.result = .ok ()) :
    trace.andThen next = (next trace.state).after trace.reports := by
  rw [Trace.andThen, ended]

theorem Trace.andThen_of_error {error : ScanError} (failed : trace.result = .error error) :
    trace.andThen next = trace := by
  rw [Trace.andThen, failed]

theorem Trace.andThen_assoc (trace : Trace ρ) (next last : ScanState ρ → Trace ρ) :
    (trace.andThen next).andThen last = trace.andThen fun state => (next state).andThen last := by
  cases ended : trace.result with
  | error => rw [andThen_of_error ended, andThen_of_error ended, andThen_of_error ended]
  | ok =>
      rw [andThen_of_ok ended, andThen_of_ok ended]
      cases onward : (next trace.state).result with
      | error =>
          rw [andThen_of_error onward]
          exact andThen_of_error onward
      | ok =>
          rw [andThen_of_ok onward, andThen_of_ok (show (Trace.after _ _).result = _ from onward)]
          simp only [Trace.after, List.append_assoc]

end Composition

theorem Trace.stepAll_append (state : ScanState ρ) (first second : List Located) :
    Trace.stepAll profile state (first ++ second) =
      (Trace.stepAll profile state first).andThen
        fun next => Trace.stepAll profile next second := by
  induction first generalizing state with
  | nil => rfl
  | cons located rest ih =>
      rw [List.cons_append, Trace.stepAll, Trace.stepAll, Trace.andThen_assoc]
      simp only [ih]

/-- The trace of the symbols up to the end of the input. -/
def Trace.remainder (profile : Profile ρ) (stop : Nat) (symbols : List Located)
    (state : ScanState ρ) : Trace ρ :=
  (Trace.stepAll profile state symbols).andThen fun last => Trace.finalize profile last stop

/-- Where the last token started does not matter between two tokens: the next one starts
somewhere else. -/
theorem Trace.step_idle (idle : state.mode = .idle) (start : Nat) (located : Located) :
    Trace.step profile { state with tokenStart := start } located =
      Trace.step profile state located := by
  have reacts : ∀ fed, react profile { state with tokenStart := start } fed =
      react profile state fed := by
    intro fed
    have idleToo : ({ state with tokenStart := start } : ScanState ρ).mode = .idle := idle
    rw [react_idle idle, react_idle idleToo]
    rfl
  have enough : budget state.mode 1 = 143 + 1 := by
    rw [idle]
    rfl
  rw [Trace.step, Trace.step, enough, Trace.run, Trace.run]
  simp only [nextReaction?, reacts]

theorem Trace.remainder_idle (idle : state.mode = .idle) (start stop : Nat)
    (symbols : List Located) :
    (Trace.remainder profile stop symbols { state with tokenStart := start }).reports =
        (Trace.remainder profile stop symbols state).reports ∧
      (Trace.remainder profile stop symbols { state with tokenStart := start }).result =
        (Trace.remainder profile stop symbols state).result := by
  cases symbols with
  | nil =>
      have quiet : ∀ last : ScanState ρ, last.mode = .idle →
          Trace.run profile (some stop) (budget last.mode 1) last [] = ⟨[], .ok (), last⟩ := by
        intro last idle
        unfold Trace.run
        simp [nextReaction?, flush?, idle]
      unfold Trace.remainder
      rw [Trace.stepAll, Trace.stepAll, Trace.andThen_of_ok rfl, Trace.andThen_of_ok rfl]
      simp only [Trace.finalize]
      rw [quiet _ idle, quiet { state with tokenStart := start } idle]
      exact ⟨rfl, rfl⟩
  | cons located rest =>
      unfold Trace.remainder
      rw [Trace.stepAll, Trace.stepAll, Trace.step_idle idle]
      exact ⟨rfl, rfl⟩

/-! ## Texts at a distance -/

theorem ofText_shifted {distance offset : Nat} {text : List Char}
    (fits : offset + distance + byteLength text ≤ maxOffset) :
    List.Forall₂ (shifted profile distance).LocatedAlike (Located.ofText offset text)
      (Located.ofText (offset + distance) text) := by
  induction text generalizing offset with
  | nil => exact .nil
  | cons symbol rest ih =>
      simp only [byteLength] at fits
      have stop : symbolEnd symbol (offset + distance) = symbolEnd symbol offset + distance := by
        rw [symbolEnd_eq (by omega), symbolEnd_eq (by omega)]
        omega
      rw [Located.ofText, Located.ofText, stop]
      refine .cons ⟨rfl, trivial, rfl, stop⟩ (ih ?_)
      rw [symbolEnd_eq (by omega)]
      omega

/-- From an idle state at the start of a line, the trace goes on like that of the rest
alone. -/
theorem remainder_alike (renews : profile.Renews) (genuine : Genuine profile state)
    (idle : state.mode = .idle) (fresh : state.lineStart = true) {distance : Nat}
    {rest : String} (fits : distance + byteLength rest.toList ≤ maxOffset) :
    ∃ other, (shifted profile distance).TraceAlike
        (Trace.tokenize profile { ownClasses := state.ownClasses } rest) other ∧
      other.reports = (Trace.remainder profile (distance + byteLength rest.toList)
        (Located.ofText distance rest.toList) state).reports ∧
      other.result = (Trace.remainder profile (distance + byteLength rest.toList)
        (Located.ofText distance rest.toList) state).result := by
  have lawful := shifted_lawful renews distance
  have states : (shifted profile distance).StateAlike
      (ScanState.reset { ownClasses := state.ownClasses })
      { state with tokenStart := distance } :=
    displaced_idle ((Genuine.initial profile).of_readers rfl) (genuine.of_readers rfl)
      (Nat.zero_add distance).symm fresh rfl rfl idle
  have symbols : List.Forall₂ (shifted profile distance).LocatedAlike
      (Located.ofText 0 rest.toList) (Located.ofText (0 + distance) rest.toList) :=
    ofText_shifted (by omega)
  rw [Nat.zero_add] at symbols
  refine ⟨_, ?_, Trace.remainder_idle idle distance _ _⟩
  simp only [Trace.tokenize, show byteLength rest.toList ≤ maxOffset by omega, if_true]
  exact (Likeness.stepAll_alike lawful states symbols).andThen fun states =>
    Likeness.finalize_alike lawful states (Nat.add_comm _ _)

/-! ## Whole scans -/

theorem Trace.tokenize_append {front rest : String}
    (fits : byteLength front.toList + byteLength rest.toList ≤ maxOffset) :
    Trace.tokenize profile state (front ++ rest) =
      (Trace.stepAll profile state.reset (Located.ofText 0 front.toList)).andThen
        (Trace.remainder profile (byteLength front.toList + byteLength rest.toList)
          (Located.ofText (byteLength front.toList) rest.toList)) := by
  have length : byteLength (front ++ rest).toList =
      byteLength front.toList + byteLength rest.toList := by
    rw [String.toList_append, byteLength_append]
  have symbols := Located.ofText_append (show 0 + byteLength (front.toList ++ rest.toList) ≤ _ by
    rwa [byteLength_append, Nat.zero_add])
  rw [Nat.zero_add] at symbols
  rw [Trace.tokenize, length, if_pos fits, String.toList_append, symbols, Trace.stepAll_append,
    Trace.andThen_assoc]
  rfl

/-- The trace of a text consists of that of a first part, after which the machine is idle at the
start of a line, and of that of the rest. -/
theorem Trace.tokenize_cut (renews : profile.Renews) {front rest : String} {trace : Trace ρ}
    (fits : byteLength front.toList + byteLength rest.toList ≤ maxOffset)
    (first : Trace.stepAll profile state.reset (Located.ofText 0 front.toList) = trace)
    (whole : trace.result = .ok ()) (genuine : Genuine profile trace.state)
    (idle : trace.state.mode = .idle) (fresh : trace.state.lineStart = true) :
    (Trace.tokenize profile state (front ++ rest)).reports = trace.reports ++
        (Trace.tokenize profile { ownClasses := trace.state.ownClasses } rest).reports.map
          (Report.moved (· + byteLength front.toList)) ∧
      (Trace.tokenize profile state (front ++ rest)).result =
        (Trace.tokenize profile { ownClasses := trace.state.ownClasses } rest).result := by
  obtain ⟨other, alike, reports, result⟩ := remainder_alike renews genuine idle fresh fits
  rw [Trace.tokenize_append fits, first, Trace.andThen_of_ok whole]
  constructor
  · rw [← shifted_reports alike.reports, reports]
    rfl
  · rw [← alike.result, result]
    rfl

/-- A scan can be cut where the machine is idle at the start of a line.  The sink receives
the events of the first part and then those of the rest as a text of its own on a new
state, moved by the length of the first part. -/
theorem scan_cut (renews : profile.Renews) (obtained : Obtained profile state)
    {front rest : String} (fits : byteLength front.toList + byteLength rest.toList ≤ maxOffset)
    (ended : (scanPart profile state ({} : Recorder) front).result = .ok ())
    (idle : (scanPart profile state ({} : Recorder) front).state.mode = .idle)
    (fresh : (scanPart profile state ({} : Recorder) front).state.lineStart = true) :
    let anew : ScanState ρ := { ownClasses := state.ownClasses }
    let ahead := (heard profile anew rest).map (Event.moved (· + byteLength front.toList))
    heard profile state (front ++ rest) =
        (scanPart profile state ({} : Recorder) front).sink.events.toList ++ ahead ∧
      ∀ {σ : Type} [Sink σ] (sink : σ), Sink.Steady sink →
        (tokenize profile state sink (front ++ rest)).sink =
            (Sink.sendAll (scanPart profile state sink front).sink ahead).sink ∧
          (tokenize profile state sink (front ++ rest)).result =
            (tokenize profile anew sink rest).result := by
  intro anew ahead
  let trace := Trace.stepAll profile state.reset (Located.ofText 0 front.toList)
  have stepped : ∀ {σ : Type} [Sink σ] (sink : σ),
      trace.Delivered sink (scanPart profile state sink front) :=
    fun sink => stepAll_delivered profile state.reset sink _
  obtain ⟨-, whole, last⟩ := (stepped ({} : Recorder)).of_ok ended
  have classes : trace.state.ownClasses = state.ownClasses := by
    rw [last]
    exact stepAll_ownClasses ended
  rw [← last] at idle fresh
  have genuine : Genuine profile trace.state := by
    rw [last]
    exact (obtained.genuine.of_readers rfl : Genuine profile state.reset).stepAll _ _
  obtain ⟨reports, result⟩ := Trace.tokenize_cut renews fits rfl whole genuine idle fresh
  rw [classes] at reports result
  have events : (Trace.tokenize profile state (front ++ rest)).reports.map Report.event =
      trace.reports.map Report.event ++ ahead := by
    rw [reports, List.map_append, List.map_map]
    simp only [ahead, (tokenize_recorder profile anew rest).1, List.map_map]
    congr 2
    funext report
    exact report.event_moved _
  constructor
  · rw [(tokenize_recorder profile state _).1, events,
      (stepped ({} : Recorder)).steady steady_recorder, (sendAll_recorder {} rfl rfl _).2]
    rfl
  · intro σ _ sink steady
    rw [(tokenize_delivered profile state sink (front ++ rest)).steady steady,
      (tokenize_delivered profile anew sink rest).steady steady, (stepped sink).steady steady,
      events, sendAll_append steady]
    exact ⟨rfl, result⟩

/-- A line with a character literal, cut from a second one that needs the same reader. -/
theorem scan_cut_characters :
    (scanPart CLike.profile {} ({} : Recorder) "'x'\n").state.lineStart = true ∧
      heard CLike.profile {} ("'x'\n" ++ "'y'") =
        (scanPart CLike.profile {} ({} : Recorder) "'x'\n").sink.events.toList ++
          (heard CLike.profile {} "'y'").map (Event.moved (· + 4)) := by
  have fresh : (scanPart CLike.profile {} ({} : Recorder) "'x'\n").state.lineStart = true := by
    decide +kernel
  have ended : (scanPart CLike.profile {} ({} : Recorder) "'x'\n").result = .ok () :=
    ok_of_isOk (by decide +kernel)
  have idle : (scanPart CLike.profile {} ({} : Recorder) "'x'\n").state.mode = .idle := by
    decide +kernel
  exact ⟨fresh, (scan_cut CLike.profile.renews_of_stock .new (by decide) ended idle fresh).1⟩

end Scan

end Lexing
