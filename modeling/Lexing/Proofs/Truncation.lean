import Lexing.Proofs.Complaints
import Lexing.Proofs.Transcript

/-!
# Scans that are stopped

A sink can stop a scan at a token or at input that no rule accepts, and with an answer
that depends on all it has received.  Up to there it has received what any other sink
would have received, afterwards it receives nothing, and the report at which it stopped
determines the error.
-/

namespace Lexing

namespace Scan

variable {ρ σ : Type} [Sink σ]

/-! ## Reports of a scan -/

section Explained

variable [Literal.Reader ρ] {profile : Profile ρ}

/-- A trace that leads from a valid state to another one, and whose reports can come before
those that can follow. -/
structure Trace.Sensible (profile : Profile ρ) (mode : Mode) (trace : Trace ρ) : Prop where
  valid : trace.state.Valid profile
  sequel : ∀ {rest}, Sequel trace.state.mode rest → Sequel mode (trace.reports ++ rest)

omit [Literal.Reader ρ] in
theorem Trace.Sensible.andThen {mode : Mode} {trace : Trace ρ} {next : ScanState ρ → Trace ρ}
    (sensible : trace.Sensible profile mode)
    (onward : Trace.Sensible profile trace.state.mode (next trace.state)) :
    (trace.andThen next).Sensible profile mode := by
  unfold Trace.andThen
  split
  · exact sensible
  · refine ⟨onward.valid, fun sequel => ?_⟩
    rw [Trace.after, List.append_assoc]
    exact sensible.sequel (onward.sequel sequel)

theorem run_sensible (sound : profile.Sound) (closing : Option Nat) (fuel : Nat)
    {state : ScanState ρ} (valid : state.Valid profile) (queue : List Fed) :
    (Trace.run profile closing fuel state queue).Sensible profile state.mode := by
  induction fuel generalizing state queue with
  | zero =>
      unfold Trace.run
      cases nextReaction? profile closing state queue with
      | none => exact ⟨valid, id⟩
      | some => exact ⟨valid, id⟩
  | succ fuel ih =>
      unfold Trace.run
      cases next : nextReaction? profile closing state queue with
      | none => exact ⟨valid, id⟩
      | some found =>
          obtain ⟨reaction, rest⟩ := found
          have onward := ih (keeps_valid sound closing ⟨state, queue⟩ _ _ valid next)
            (reaction.next ++ rest)
          refine ⟨onward.valid, fun sequel => ?_⟩
          dsimp only [Trace.after]
          rw [List.append_assoc]
          exact (next_tells sound valid next).sequel (onward.sequel sequel)

theorem stepAll_sensible (sound : profile.Sound) {state : ScanState ρ}
    (valid : state.Valid profile) (symbols : List Located) :
    (Trace.stepAll profile state symbols).Sensible profile state.mode := by
  induction symbols generalizing state with
  | nil => exact ⟨valid, id⟩
  | cons located rest ih =>
      have first := run_sensible sound none (budget state.mode 1) valid [.plain located]
      exact first.andThen (ih first.valid)

theorem finalize_sensible (sound : profile.Sound) {state : ScanState ρ}
    (valid : state.Valid profile) (stop : Nat) :
    (Trace.finalize profile state stop).Sensible profile state.mode := by
  have flushed := run_sensible sound (some stop) (budget state.mode 1) valid []
  refine flushed.andThen ⟨?_, fun sequel => ?_⟩
  · exact flushed.valid
  · have fin : Kind.fin ≠ .unexpected := by decide
    exact ⟨.token fin sequel.explained, by simp [Report.IsRejection]⟩

/-- In every scan, all rejections are explained. -/
theorem tokenize_explained (sound : profile.Sound) (state : ScanState ρ) (source : String) :
    Explained (Trace.tokenize profile state source).reports := by
  unfold Trace.tokenize
  split
  · have stepped := stepAll_sensible sound (ScanState.valid_idle rfl : state.reset.Valid profile)
      (Located.ofText 0 source.toList)
    have finished := finalize_sensible sound stepped.valid (byteLength source.toList)
    have whole : Trace.Sensible profile state.reset.mode (Trace.andThen _ fun next =>
      Trace.finalize profile next (byteLength source.toList)) := stepped.andThen finished
    have explained := (whole.sequel (.nil _)).explained
    rwa [List.append_nil] at explained
  · exact .nil

end Explained

/-- A rejection comes right after a remark on a literal exactly if it repeats it. -/
def Warned (span : Span) (complaint : Option String) (before : List Report) : Prop :=
  match complaint with
  | some message => before.getLast? = some (.literalMessage span message)
  | none => ∀ remarked message, before.getLast? ≠ some (.literalMessage remarked message)

theorem Warned.cons {span : Span} {complaint : Option String} {before : List Report}
    {report : Report} (warned : Warned span complaint before)
    (silent : before = [] → ∀ remarked message, report ≠ .literalMessage remarked message) :
    Warned span complaint (report :: before) := by
  cases before with
  | nil =>
      cases complaint with
      | some message => simp [Warned] at warned
      | none => simpa [Warned] using silent rfl
  | cons first others =>
      cases complaint with
      | some message => simpa [Warned, List.getLast?_cons_cons] using warned
      | none => simpa [Warned, List.getLast?_cons_cons] using warned

theorem Explained.warned {before after : List Report} {span : Span} {complaint : Option String}
    (explained : Explained (before ++ .unexpected span complaint :: after)) :
    Warned span complaint before := by
  generalize whole : before ++ .unexpected span complaint :: after = reports at explained
  induction explained generalizing before with
  | nil => simp at whole
  | token _ _ ih =>
      obtain ⟨rfl, same⟩ | ⟨others, rfl, rest⟩ := List.append_eq_cons_iff.mp whole
      · simp at same
      · exact (ih rest.symm).cons (by simp)
  | unknownOperator _ ih =>
      obtain ⟨rfl, same⟩ | ⟨others, rfl, rest⟩ := List.append_eq_cons_iff.mp whole
      · simp at same
      · exact (ih rest.symm).cons (by simp)
  | remark quiet _ ih =>
      obtain ⟨rfl, same⟩ | ⟨others, rfl, rest⟩ := List.append_eq_cons_iff.mp whole
      · simp at same
      · refine (ih rest.symm).cons ?_
        rintro rfl
        exact absurd ⟨span, complaint, rfl⟩ (quiet _ (by simp [rest]))
  | rejection _ _ ih =>
      obtain ⟨rfl, same⟩ | ⟨others, rfl, second⟩ := List.append_eq_cons_iff.mp whole
      · obtain ⟨⟨_, rfl⟩, _⟩ : (_ ∧ complaint = none) ∧ _ := by simpa using same
        simp [Warned]
      obtain ⟨rfl, same⟩ | ⟨further, rfl, third⟩ := List.append_eq_cons_iff.mp second.symm
      · simp at same
      · exact ((ih third.symm).cons (by simp)).cons (by simp)
  | @malformed token message _ _ _ ih =>
      obtain ⟨rfl, same⟩ | ⟨others, rfl, second⟩ := List.append_eq_cons_iff.mp whole
      · simp at same
      obtain ⟨rfl, same⟩ | ⟨further, rfl, third⟩ := List.append_eq_cons_iff.mp second.symm
      · obtain ⟨⟨rfl, rfl⟩, _⟩ : (span = _ ∧ complaint = some message) ∧ _ := by simpa using same
        simp [Warned]
      obtain ⟨rfl, same⟩ | ⟨last, rfl, fourth⟩ := List.append_eq_cons_iff.mp third.symm
      · simp at same
      · exact (((ih fourth.symm).cons (by simp)).cons (by simp)).cons (by simp)

/-! ## Where a sink stops -/

/-- The sink stops at one of the reports, with an error.  What it writes about a token becomes
the reason, and a malformed literal is known by the complaint of its reader. -/
inductive StopsAt (sink : σ) (reports : List Report) : ScanError → σ → Prop
  | token {before after : List Report} {token : Token} {reply : Reply σ} :
      reports = before ++ .token token :: after →
      (Sink.sendAll sink (before.map Report.event)).flow = .proceed →
      Sink.token (Sink.sendAll sink (before.map Report.event)).sink token = reply →
      reply.flow = .halt → StopsAt sink reports (.aborted token.span reply.text) reply.sink
  | malformed {before after : List Report} {span : Span} {message : String} {next : σ} :
      reports = before ++ .unexpected span (some message) :: after →
      before.getLast? = some (.literalMessage span message) →
      (Sink.sendAll sink (before.map Report.event)).flow = .proceed →
      Sink.unexpected (Sink.sendAll sink (before.map Report.event)).sink span = (.halt, next) →
      StopsAt sink reports (.literal span message) next
  | rejected {before after : List Report} {span : Span} {next : σ} :
      reports = before ++ .unexpected span none :: after →
      (∀ remarked message, before.getLast? ≠ some (.literalMessage remarked message)) →
      (Sink.sendAll sink (before.map Report.event)).flow = .proceed →
      Sink.unexpected (Sink.sendAll sink (before.map Report.event)).sink span = (.halt, next) →
      StopsAt sink reports (.unexpected span) next

theorem deliver_accepts {sink next : σ} {report : Report}
    (delivery : deliver sink report = (none, next)) :
    (Sink.send sink report.event).flow = .proceed ∧ (Sink.send sink report.event).sink = next := by
  cases flow : (Sink.send sink report.event).flow with
  | proceed => exact ⟨rfl, by simpa [deliver, flow] using delivery⟩
  | halt =>
      cases report with
      | token => simp [deliver, flow] at delivery
      | unexpected span complaint => cases complaint <;> simp [deliver, flow] at delivery
      | unknownOperator => simp [Report.event, Sink.send] at flow
      | literalMessage => simp [Report.event, Sink.send] at flow

theorem deliver_stops {sink next : σ} {report : Report} {error : ScanError}
    (delivery : deliver sink report = (some error, next)) :
    (∃ token, report = .token token ∧ (Sink.token sink token).flow = .halt ∧
        error = .aborted token.span (Sink.token sink token).text ∧
        next = (Sink.token sink token).sink) ∨
      ∃ span complaint, report = .unexpected span complaint ∧
        Sink.unexpected sink span = (.halt, next) ∧
        error = (complaint.map (ScanError.literal span)).getD (.unexpected span) := by
  cases flow : (Sink.send sink report.event).flow with
  | proceed => simp [deliver, flow] at delivery
  | halt =>
      cases report with
      | token token =>
          obtain ⟨rfl, rfl⟩ : _ = error ∧ _ = next := by simpa [deliver, flow] using delivery
          exact Or.inl ⟨token, rfl, flow, rfl, rfl⟩
      | unexpected span complaint =>
          have halts : Sink.unexpected sink span = (.halt, (Sink.unexpected sink span).2) :=
            Prod.ext flow rfl
          right
          cases complaint with
          | none =>
              obtain ⟨rfl, rfl⟩ : _ = error ∧ _ = next := by simpa [deliver, flow] using delivery
              exact ⟨span, none, rfl, halts, rfl⟩
          | some message =>
              obtain ⟨rfl, rfl⟩ : _ = error ∧ _ = next := by simpa [deliver, flow] using delivery
              exact ⟨span, some message, rfl, halts, rfl⟩
      | unknownOperator => simp [Report.event, Sink.send] at flow
      | literalMessage => simp [Report.event, Sink.send] at flow

/-- Reports are delivered until the sink stops at one of them. -/
theorem deliverAll_cases (sink : σ) (reports : List Report) :
    (Sink.sendAll sink (reports.map Report.event)).flow = .proceed ∧
        deliverAll sink reports = (none, (Sink.sendAll sink (reports.map Report.event)).sink) ∨
      ∃ before report after error next, reports = before ++ report :: after ∧
        (Sink.sendAll sink (before.map Report.event)).flow = .proceed ∧
        deliver (Sink.sendAll sink (before.map Report.event)).sink report = (some error, next) ∧
        deliverAll sink reports = (some error, next) := by
  induction reports generalizing sink with
  | nil => exact Or.inl ⟨rfl, rfl⟩
  | cons report rest ih =>
      rcases delivery : deliver sink report with ⟨_ | error, next⟩
      · -- A report that is accepted takes the sink one event further.
        obtain ⟨flow, rfl⟩ := deliver_accepts delivery
        have further : ∀ more : List Event,
            (Sink.sendAll sink (report.event :: more)).flow =
                (Sink.sendAll (Sink.send sink report.event).sink more).flow ∧
              (Sink.sendAll sink (report.event :: more)).sink =
                (Sink.sendAll (Sink.send sink report.event).sink more).sink := by
          intro more
          simp only [Sink.sendAll, flow, and_self]
        rw [deliverAll, delivery]
        rcases ih (Sink.send sink report.event).sink with
          ⟨whole, delivered⟩ | ⟨before, last, after, error, final, rfl, early, stops, delivered⟩
        · left
          rw [List.map_cons, (further _).1, (further _).2]
          exact ⟨whole, delivered⟩
        · refine Or.inr ⟨report :: before, last, after, error, final, rfl, ?_⟩
          rw [List.map_cons, (further _).1, (further _).2]
          exact ⟨early, stops, delivered⟩
      · refine Or.inr ⟨[], report, rest, error, next, rfl, rfl, delivery, ?_⟩
        rw [deliverAll, delivery]

/-- Explained reports are delivered as a whole, or the sink stops at one of them. -/
theorem Explained.stopsAt {reports : List Report} (explained : Explained reports) (sink : σ) :
    (Sink.sendAll sink (reports.map Report.event)).flow = .proceed ∧
        deliverAll sink reports = (none, (Sink.sendAll sink (reports.map Report.event)).sink) ∨
      ∃ error next, StopsAt sink reports error next ∧
        deliverAll sink reports = (some error, next) := by
  rcases deliverAll_cases sink reports with
    whole | ⟨before, report, after, error, next, rfl, early, stops, delivered⟩
  · exact Or.inl whole
  right
  refine ⟨error, next, ?_, delivered⟩
  rcases deliver_stops stops with ⟨token, rfl, halts, rfl, rfl⟩ | ⟨span, complaint, rfl, halts, rfl⟩
  · exact .token rfl early rfl halts
  · have warned := explained.warned
    cases complaint with
    | none => exact .rejected rfl warned early halts
    | some message => exact .malformed rfl warned early halts

/-! ## Strict recorders -/

/-- The first token among some events that stands for input that no rule accepts. -/
def firstUnexpected? (received : List Event) : Option Token :=
  (received.filterMap Event.token?).find? fun token => token.kind = .unexpected

theorem firstUnexpected?_token (token : Token) (rest : List Event) :
    firstUnexpected? (.token token :: rest) =
      if token.kind = .unexpected then some token else firstUnexpected? rest := by
  unfold firstUnexpected?
  rw [List.filterMap_cons_some (Event.token?_eq_some.mpr rfl), List.find?_cons]
  split_ifs with unexpected
  · simp [unexpected]
  · simp [unexpected]

theorem firstUnexpected?_remark {event : Event} (remark : event.token? = none)
    (rest : List Event) : firstUnexpected? (event :: rest) = firstUnexpected? rest := by
  rw [firstUnexpected?, firstUnexpected?, List.filterMap_cons_none remark]

/-- The recorder stops at input that no rule accepts and nowhere else. -/
def IsStrict (recorder : Recorder) : Prop :=
  recorder.policy = .strict ∧ recorder.limit = none

theorem IsStrict.accepts {recorder : Recorder} (strict : IsStrict recorder) (report : Report)
    (other : ¬report.IsRejection) :
    ∃ next, deliver recorder report = (none, next) ∧ IsStrict next := by
  obtain ⟨policy, limit⟩ := strict
  cases report with
  | token token =>
      have accepted : (Sink.send recorder (.token token)).flow = .proceed := by
        simp [Sink.send, Sink.token, Recorder.token, limit]
      refine ⟨(Sink.send recorder (.token token)).sink, ?_, ?_⟩
      · simp only [deliver, Report.event, accepted]
      · simp [Sink.send, Sink.token, Recorder.token, Recorder.record, IsStrict, policy, limit]
  | unexpected span complaint => exact absurd ⟨span, complaint, rfl⟩ other
  | unknownOperator span =>
      refine ⟨_, rfl, ?_⟩
      simp [Sink.send, Report.event, Sink.unknownOperator, Recorder.recordDiagnostic, policy,
        Recorder.record, IsStrict, limit]
  | literalMessage span message =>
      refine ⟨_, rfl, ?_⟩
      simp [Sink.send, Report.event, Sink.literalMessage, Recorder.recordDiagnostic, policy,
        Recorder.record, IsStrict, limit]

theorem IsStrict.stops {recorder : Recorder} (strict : IsStrict recorder) (span : Span)
    (complaint : Option String) :
    ∃ error next, deliver recorder (.unexpected span complaint) = (some error, next) ∧
      error.span? = some span := by
  cases complaint <;>
    simp [deliver, Report.event, Sink.send, Sink.unexpected, strict.1, ScanError.span?]

/-- A strict recorder stops at the first input that no rule accepts. -/
theorem Explained.strict {reports : List Report} (explained : Explained reports)
    {recorder : Recorder} (strict : IsStrict recorder) :
    (deliverAll recorder reports).1.map ScanError.span? =
      (firstUnexpected? (reports.map Report.event)).map fun token => some token.span := by
  induction explained generalizing recorder with
  | nil => rfl
  | @token token _ kind _ ih =>
      obtain ⟨next, accepted, strict⟩ :=
        strict.accepts (.token token) (by simp [Report.IsRejection])
      rw [deliverAll, accepted, List.map_cons, Report.event, firstUnexpected?_token, if_neg kind]
      exact ih strict
  | @unknownOperator span _ _ ih =>
      obtain ⟨next, accepted, strict⟩ :=
        strict.accepts (.unknownOperator span) (by simp [Report.IsRejection])
      rw [deliverAll, accepted, List.map_cons, firstUnexpected?_remark rfl]
      exact ih strict
  | @remark span message _ _ _ ih =>
      obtain ⟨next, accepted, strict⟩ :=
        strict.accepts (.literalMessage span message) (by simp [Report.IsRejection])
      rw [deliverAll, accepted, List.map_cons, firstUnexpected?_remark rfl]
      exact ih strict
  | @rejection token _ kind _ ih =>
      obtain ⟨error, next, stopped, span⟩ := strict.stops token.span none
      rw [deliverAll, stopped, List.map_cons, firstUnexpected?_remark rfl, List.map_cons,
        Report.event, firstUnexpected?_token, if_pos kind]
      exact congrArg some span
  | @malformed token message _ kind _ ih =>
      obtain ⟨next, accepted, strict⟩ :=
        strict.accepts (.literalMessage token.span message) (by simp [Report.IsRejection])
      obtain ⟨error, last, stopped, span⟩ := strict.stops token.span (some message)
      rw [deliverAll, accepted]
      dsimp only
      rw [deliverAll, stopped, List.map_cons, firstUnexpected?_remark rfl, List.map_cons,
        firstUnexpected?_remark rfl, List.map_cons, Report.event, firstUnexpected?_token,
        if_pos kind]
      exact congrArg some span

/-! ## Whole scans -/

section Scans

variable [Literal.Reader ρ]

/-- What a sink that never stops receives of a scan that begins in the given state. -/
def heard (profile : Profile ρ) (state : ScanState ρ) (source : String) : List Event :=
  (tokenize profile state ({} : Recorder) source).sink.events.toList

theorem tokenize_recorder (profile : Profile ρ) (state : ScanState ρ) (source : String) :
    heard profile state source = (Trace.tokenize profile state source).reports.map Report.event ∧
      (tokenize profile state ({} : Recorder) source).result =
        (Trace.tokenize profile state source).result := by
  have delivered := tokenize_delivered profile state ({} : Recorder) source
  rw [heard, delivered.steady steady_recorder]
  exact ⟨by simp [(sendAll_recorder {} rfl rfl _).2], rfl⟩

/-- Every sink receives what a sink that never stops receives, until it stops the scan. -/
theorem tokenize_sink {σ : Type} [Sink σ] (profile : Profile ρ) (state : ScanState ρ) (sink : σ)
    (source : String) :
    (tokenize profile state sink source).sink =
      (Sink.sendAll sink (heard profile state source)).sink := by
  rw [(tokenize_recorder profile state source).1]
  exact (tokenize_delivered profile state sink source).sink_eq

/-- A scan that comes to an end fails only for a sink that stops it. -/
theorem tokenize_result {profile : Profile ρ} {state : ScanState ρ} {source : String}
    (ends : (Trace.tokenize profile state source).result ≠ .error .endless) :
    (Trace.tokenize profile state source).result = acceptance source := by
  unfold Trace.tokenize acceptance at *
  split
  case isTrue fits =>
    rw [if_pos fits] at ends
    exact (stepAll_ended profile _ _).andThen (fun next => finalize_ended profile next _) ends
  case isFalse => rfl

/-- A sink that stops a scan cuts it short and does nothing else: it receives what any other
sink receives, up to the report at which it stops, and this report determines the error.  A
strict recorder stops exactly at the first token for input that no rule accepts. -/
theorem stopping_truncates {profile : Profile ρ} (made : profile.Made) (state : ScanState ρ)
    (source : String)
    (ends : (tokenize profile state ({} : Recorder) source).result ≠ .error .endless) :
    heard profile state source = (Trace.tokenize profile state source).reports.map Report.event ∧
      (∀ {σ : Type} [Sink σ] (sink : σ),
        (Sink.sendAll sink (heard profile state source)).flow = .proceed ∧
            (tokenize profile state sink source).result = acceptance source ∧
            (tokenize profile state sink source).sink =
              (Sink.sendAll sink (heard profile state source)).sink ∨
          ∃ error, (tokenize profile state sink source).result = .error error ∧
            StopsAt sink (Trace.tokenize profile state source).reports error
              (tokenize profile state sink source).sink) ∧
      (firstUnexpected? (heard profile state source) = none →
        (tokenize profile state ({ policy := .strict } : Recorder) source).result =
          acceptance source) ∧
      ∀ token, firstUnexpected? (heard profile state source) = some token →
        ∃ error, (tokenize profile state ({ policy := .strict } : Recorder) source).result =
            .error error ∧
          error.span? = some token.span := by
  obtain ⟨received, result⟩ := tokenize_recorder profile state source
  have explained := tokenize_explained made.sound state source
  rw [result] at ends
  have whole := tokenize_result ends
  have strict := explained.strict (show IsStrict { policy := .strict } from ⟨rfl, rfl⟩)
  have recorded := tokenize_delivered profile state ({ policy := .strict } : Recorder) source
  rw [← received] at strict
  refine ⟨received, fun sink => ?_, fun unfound => ?_, fun token found => ?_⟩
  · have delivered := tokenize_delivered profile state sink source
    rw [received]
    rcases explained.stopsAt sink with ⟨proceeds, delivery⟩ | ⟨error, next, stops, delivery⟩
    · rw [Trace.Delivered, delivery] at delivered
      dsimp only at delivered
      left
      rw [delivered]
      exact ⟨proceeds, whole, rfl⟩
    · rw [Trace.Delivered, delivery] at delivered
      right
      rw [delivered.2]
      exact ⟨error, delivered.1, stops⟩
  · rw [unfound] at strict
    have accepted := Option.map_eq_none_iff.mp strict
    rw [Trace.Delivered, ← Prod.eta (deliverAll _ _), accepted] at recorded
    rw [recorded]
    exact whole
  · rw [found] at strict
    obtain ⟨error, stopped, span⟩ := Option.map_eq_some_iff.mp strict
    rw [Trace.Delivered, ← Prod.eta (deliverAll _ _), stopped] at recorded
    exact ⟨error, recorded.1, span⟩

end Scans

/-- A string with an unknown escape sequence that is never closed: a strict recorder stops
where a lenient one records an unexpected token. -/
theorem stopping_truncates_unterminated :
    (tokenize CLike.profile {} ({} : Recorder) "a\"\\q").result ≠ .error .endless ∧
      ∃ error,
        (tokenize CLike.profile {} ({ policy := .strict } : Recorder) "a\"\\q").result =
          .error error ∧
        error.span? = some ⟨1, 4⟩ := by
  have ends : (tokenize CLike.profile {} ({} : Recorder) "a\"\\q").result ≠ .error .endless :=
    CLike.dotted.tokenize_ne_endless rfl _ _
  have found : firstUnexpected? (heard CLike.profile {} "a\"\\q") =
      some { kind := .unexpected, span := ⟨1, 4⟩ } := by
    decide +kernel
  exact ⟨ends, (stopping_truncates CLike.profile_made {} "a\"\\q" ends).2.2.2 _ found⟩

end Scan

end Lexing
