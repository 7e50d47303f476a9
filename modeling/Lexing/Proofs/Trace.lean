import Lexing.Proofs.Journey
import Lexing.Sink.Recorder

/-!
# Traces

The machine does not look at the sink.  What a call would report if nothing stopped it
is its trace.  A sink receives the reports of the trace one after the other, until it
stops the scan or nothing is left, so that it decides where the trace is cut and about
nothing else.
-/

namespace Lexing

namespace Scan

/-- What a part of a scan does when nothing stops it. -/
structure Trace (ρ : Type) where
  reports : List Report
  result : Except ScanError Unit
  state : ScanState ρ

namespace Trace

variable {ρ : Type}

def after (trace : Trace ρ) (earlier : List Report) : Trace ρ :=
  { trace with reports := earlier ++ trace.reports }

def andThen (trace : Trace ρ) (next : ScanState ρ → Trace ρ) : Trace ρ :=
  match trace.result with
  | .error _ => trace
  | .ok () => (next trace.state).after trace.reports

variable [Literal.Reader ρ] (profile : Profile ρ)

/-- The reactions of the machine, at most `fuel` of them. -/
def run (closing : Option Nat) : (fuel : Nat) → ScanState ρ → List Fed → Trace ρ
  | fuel, state, queue =>
      match nextReaction? profile closing state queue with
      | none => ⟨[], .ok (), state⟩
      | some (reaction, rest) =>
          match fuel with
          | 0 => ⟨[], .error .endless, state⟩
          | fuel + 1 =>
              (run closing fuel reaction.state (reaction.next ++ rest)).after reaction.reports

def step (state : ScanState ρ) (located : Located) : Trace ρ :=
  run profile none (budget state.mode 1) state [.plain located]

def stepAll : ScanState ρ → List Located → Trace ρ
  | state, [] => ⟨[], .ok (), state⟩
  | state, located :: rest => (step profile state located).andThen fun next => stepAll next rest

def finalize (state : ScanState ρ) (stop : Nat) : Trace ρ :=
  (run profile (some stop) (budget state.mode 1) state []).andThen fun last =>
    ⟨[.token (finToken last stop)], .ok (), (last.emit .fin (.point stop)).state⟩

def tokenize (state : ScanState ρ) (source : String) : Trace ρ :=
  if byteLength source.toList ≤ maxOffset then
    (stepAll profile state.reset (Located.ofText 0 source.toList)).andThen fun next =>
      finalize profile next (byteLength source.toList)
  else ⟨[], .error (.sourceTooLarge (byteLength source.toList)), state⟩

theorem tokenize_of_large {source : String} (large : ¬byteLength source.toList ≤ maxOffset)
    (state : ScanState ρ) : tokenize profile state source =
      ⟨[], .error (.sourceTooLarge (byteLength source.toList)), state⟩ := by
  rw [tokenize, if_neg large]

end Trace

variable {ρ σ : Type} [Sink σ]

/-! ## Delivery -/

theorem deliverAll_append (sink : σ) (first second : List Report) :
    deliverAll sink (first ++ second) =
      match deliverAll sink first with
      | (some error, next) => (some error, next)
      | (none, next) => deliverAll next second := by
  induction first generalizing sink with
  | nil => rfl
  | cons report rest ih =>
      simp only [List.cons_append, deliverAll]
      rcases deliver sink report with ⟨_ | error, next⟩
      · exact ih next
      · rfl

/-- A sink that was handed reports has received their events, until it stopped. -/
theorem deliverAll_sink (sink : σ) (reports : List Report) :
    (deliverAll sink reports).2 = (Sink.sendAll sink (reports.map Report.event)).sink := by
  induction reports generalizing sink with
  | nil => rfl
  | cons report rest ih =>
      rw [List.map_cons, Sink.sendAll]
      cases flow : (Sink.send sink report.event).flow with
      | proceed =>
          have accepted : deliver sink report = (none, (Sink.send sink report.event).sink) := by
            cases report with
            | unexpected span complaint => cases complaint <;> simp [deliver, flow]
            | _ => simp [deliver, flow]
          simp only [deliverAll, accepted, ih]
      | halt =>
          have stopped : ∃ error,
              deliver sink report = (some error, (Sink.send sink report.event).sink) := by
            cases report with
            | token => exact ⟨_, by simp only [deliver, flow]; rfl⟩
            | unexpected span complaint =>
                cases complaint <;> exact ⟨_, by simp only [deliver, flow]; rfl⟩
            | unknownOperator => simp [Report.event, Sink.send] at flow
            | literalMessage => simp [Report.event, Sink.send] at flow
          obtain ⟨error, stopped⟩ := stopped
          simp only [deliverAll, stopped]

/-- The outcome of a call is that of its trace, as far as the sink lets it happen. -/
def Trace.Delivered (trace : Trace ρ) (sink : σ) (outcome : Outcome ρ σ) : Prop :=
  match deliverAll sink trace.reports with
  | (some error, next) => outcome.result = .error error ∧ outcome.sink = next
  | (none, next) => outcome = ⟨trace.result, trace.state, next⟩

namespace Trace.Delivered

variable {trace : Trace ρ} {sink : σ} {outcome : Outcome ρ σ}

theorem of_halt {error : ScanError} {next : σ}
    (stopped : deliverAll sink trace.reports = (some error, next))
    (result : outcome.result = .error error) (last : outcome.sink = next) :
    trace.Delivered sink outcome := by
  rw [Delivered, stopped]
  exact ⟨result, last⟩

/-- A call without an error has delivered its whole trace. -/
theorem of_ok (delivered : trace.Delivered sink outcome) (ended : outcome.result = .ok ()) :
    deliverAll sink trace.reports = (none, outcome.sink) ∧ trace.result = .ok () ∧
      trace.state = outcome.state := by
  unfold Delivered at delivered
  rcases whole : deliverAll sink trace.reports with ⟨_ | error, next⟩
  · rw [whole] at delivered
    subst delivered
    exact ⟨rfl, ended, rfl⟩
  · rw [whole] at delivered
    rw [delivered.1] at ended
    contradiction

/-- Reports that were accepted before. -/
theorem after {earlier : List Report} {next : σ}
    (accepted : deliverAll sink earlier = (none, next)) (delivered : trace.Delivered next outcome) :
    (trace.after earlier).Delivered sink outcome := by
  unfold Delivered at delivered ⊢
  rw [Trace.after, deliverAll_append, accepted]
  exact delivered

/-- One call after the other. -/
theorem andThen {onward : ScanState ρ → Trace ρ} {second : Outcome ρ σ}
    (delivered : trace.Delivered sink outcome)
    (onwards : outcome.result = .ok () → (onward outcome.state).Delivered outcome.sink second)
    (failed : ∀ error, outcome.result = .error error → second = outcome) :
    (trace.andThen onward).Delivered sink second := by
  unfold Trace.andThen
  cases ended : outcome.result with
  | ok =>
      obtain ⟨whole, ok, same⟩ := delivered.of_ok ended
      rw [ok, same]
      exact (onwards ended).after whole
  | error error =>
      obtain rfl := failed error ended
      cases ok : trace.result with
      | error => exact delivered
      | ok =>
          unfold Delivered at delivered
          rcases stopped : deliverAll sink trace.reports with ⟨_ | error, next⟩
          · rw [stopped] at delivered
            rw [delivered] at ended
            exact absurd (ok.symm.trans ended) (by simp)
          · rw [stopped] at delivered
            refine of_halt ?_ delivered.1 delivered.2
            rw [Trace.after, deliverAll_append, stopped]

/-- A sink that never stops receives the whole trace. -/
theorem steady (delivered : trace.Delivered sink outcome) (steady : Sink.Steady sink) :
    outcome = ⟨trace.result, trace.state,
      (Sink.sendAll sink (trace.reports.map Report.event)).sink⟩ := by
  rwa [Delivered, deliverAll_steady steady] at delivered

/-- Every sink receives the events of the trace, until it stops the scan. -/
theorem sink_eq (delivered : trace.Delivered sink outcome) :
    outcome.sink = (Sink.sendAll sink (trace.reports.map Report.event)).sink := by
  rw [← deliverAll_sink]
  unfold Delivered at delivered
  generalize deliverAll sink trace.reports = delivery at delivered ⊢
  obtain ⟨_ | error, next⟩ := delivery
  · exact congrArg Outcome.sink delivered
  · exact delivered.2

/-- Two calls with traces that make the same reports and have the same result. -/
theorem agree {other : Trace ρ} {second : Outcome ρ σ} (delivered : trace.Delivered sink outcome)
    (deliveredToo : other.Delivered sink second) (reports : trace.reports = other.reports)
    (result : trace.result = other.result) :
    outcome.sink = second.sink ∧ outcome.result = second.result := by
  unfold Delivered at delivered deliveredToo
  rw [reports] at delivered
  generalize deliverAll sink other.reports = delivery at delivered deliveredToo
  obtain ⟨_ | error, next⟩ := delivery
  · dsimp only at delivered deliveredToo
    rw [delivered, deliveredToo]
    exact ⟨rfl, result⟩
  · exact ⟨delivered.2.trans deliveredToo.2.symm, delivered.1.trans deliveredToo.1.symm⟩

end Trace.Delivered

/-! ## Calls -/

variable [Literal.Reader ρ] (profile : Profile ρ)

theorem run_delivered (closing : Option Nat) (fuel : Nat) (state : ScanState ρ) (sink : σ)
    (queue : List Fed) :
    (Trace.run profile closing fuel state queue).Delivered sink
      (run profile closing fuel state sink queue) := by
  induction fuel generalizing state sink queue with
  | zero =>
      unfold Trace.run run
      cases nextReaction? profile closing state queue <;> rfl
  | succ fuel ih =>
      unfold Trace.run run
      cases next : nextReaction? profile closing state queue with
      | none => rfl
      | some found =>
          obtain ⟨reaction, rest⟩ := found
          dsimp only
          rcases delivery : deliverAll sink reaction.reports with ⟨_ | error, following⟩
          · exact (ih reaction.state following (reaction.next ++ rest)).after delivery
          · refine .of_halt ?_ rfl rfl
            rw [Trace.after, deliverAll_append, delivery]

theorem stepAll_delivered (state : ScanState ρ) (sink : σ) (symbols : List Located) :
    (Trace.stepAll profile state symbols).Delivered sink
      (stepAll profile state sink symbols) := by
  induction symbols generalizing state sink with
  | nil => rfl
  | cons located rest ih =>
      have first := run_delivered profile none (budget state.mode 1) state sink [.plain located]
      rw [← step] at first
      refine first.andThen (fun ended => ?_) fun error failed => ?_
      · rw [stepAll, ended]
        exact ih _ _
      · rw [stepAll, failed]

theorem finalize_delivered (state : ScanState ρ) (sink : σ) (stop : Nat) :
    (Trace.finalize profile state stop).Delivered sink (finalize profile state sink stop) := by
  have flushed := run_delivered profile (some stop) (budget state.mode 1) state sink []
  refine flushed.andThen (fun ended => ?_) fun error failed => ?_
  · rw [finalize, ended]
    dsimp only
    generalize (run profile (some stop) (budget state.mode 1) state sink []).state = last
    generalize (run profile (some stop) (budget state.mode 1) state sink []).sink = middle
    have told : (last.emit .fin (.point stop)).reports = [.token (finToken last stop)] := rfl
    rw [told]
    rcases delivery : deliverAll middle [.token (finToken last stop)] with ⟨_ | error, following⟩
    · rw [Trace.Delivered, delivery]
    · exact .of_halt delivery rfl rfl
  · rw [finalize, failed]

/-- A sink receives the trace of a scan until it stops. -/
theorem tokenize_delivered (state : ScanState ρ) (sink : σ) (source : String) :
    (Trace.tokenize profile state source).Delivered sink
      (tokenize profile state sink source) := by
  unfold Trace.tokenize tokenize
  by_cases fits : byteLength source.toList ≤ maxOffset
  · simp only [fits, if_true]
    refine (stepAll_delivered profile state.reset sink _).andThen (fun ended => ?_)
      fun error failed => ?_
    · rw [ended]
      exact finalize_delivered profile _ _ _
    · rw [failed]
  · simp only [fits, if_false]
    rfl

/-! ## Results -/

/-- Without a sink, a part of a scan only fails when it does not come to an end. -/
def Trace.Ended (trace : Trace ρ) : Prop :=
  trace.result ≠ .error .endless → trace.result = .ok ()

omit [Literal.Reader ρ] in
theorem Trace.Ended.andThen {trace : Trace ρ} {next : ScanState ρ → Trace ρ}
    (ended : trace.Ended) (onward : ∀ state, (next state).Ended) : (trace.andThen next).Ended := by
  unfold Trace.andThen
  split
  · exact ended
  · exact onward trace.state

theorem run_ended (closing : Option Nat) (fuel : Nat) (state : ScanState ρ) (queue : List Fed) :
    (Trace.run profile closing fuel state queue).Ended := by
  induction fuel generalizing state queue with
  | zero =>
      unfold Trace.run
      cases nextReaction? profile closing state queue with
      | none => exact fun _ => rfl
      | some => exact fun endless => absurd rfl endless
  | succ fuel ih =>
      unfold Trace.run
      cases nextReaction? profile closing state queue with
      | none => exact fun _ => rfl
      | some => exact ih _ _

theorem stepAll_ended (state : ScanState ρ) (symbols : List Located) :
    (Trace.stepAll profile state symbols).Ended := by
  induction symbols generalizing state with
  | nil => exact fun _ => rfl
  | cons located rest ih => exact (run_ended profile none _ state _).andThen ih

theorem finalize_ended (state : ScanState ρ) (stop : Nat) :
    (Trace.finalize profile state stop).Ended :=
  (run_ended profile (some stop) _ state []).andThen fun _ _ => rfl

/-! ## Histories -/

/-- A property of the reports so far and of the state that is kept by whatever the machine
does next. -/
structure Remembers (property : List Report → ScanState ρ → Prop) : Prop where
  react : ∀ {told : List Report} {state : ScanState ρ} (fed : Fed), property told state →
    property (told ++ (react profile state fed).reports) (react profile state fed).state
  flush : ∀ {told : List Report} {state : ScanState ρ} {stop : Nat} {reaction : Reaction ρ},
    property told state → flush? profile state stop = some reaction →
    property (told ++ reaction.reports) reaction.state
  fin : ∀ {told : List Report} {state : ScanState ρ} (stop : Nat), property told state →
    property (told ++ [.token (finToken state stop)]) (state.emit .fin (.point stop)).state

variable {profile} {property : List Report → ScanState ρ → Prop}
  (remembers : Remembers profile property)

/-- The property holds after a part of a scan if it holds before. -/
def Trace.Recalls (property : List Report → ScanState ρ → Prop) (told : List Report)
    (trace : Trace ρ) : Prop :=
  property (told ++ trace.reports) trace.state

omit [Literal.Reader ρ] in
theorem Trace.Recalls.andThen {told : List Report} {trace : Trace ρ}
    {next : ScanState ρ → Trace ρ} (recalls : trace.Recalls property told)
    (onward : (next trace.state).Recalls property (told ++ trace.reports)) :
    (trace.andThen next).Recalls property told := by
  unfold Trace.andThen
  split
  · exact recalls
  · rwa [Recalls, List.append_assoc] at onward

include remembers

theorem run_recalls (closing : Option Nat) (fuel : Nat) {told : List Report}
    {state : ScanState ρ} (holds : property told state) (queue : List Fed) :
    (Trace.run profile closing fuel state queue).Recalls property told := by
  have still : property (told ++ []) state := by rwa [List.append_nil]
  induction fuel generalizing told state queue with
  | zero =>
      unfold Trace.run
      cases nextReaction? profile closing state queue <;> exact still
  | succ fuel ih =>
      unfold Trace.run
      cases next : nextReaction? profile closing state queue with
      | none => exact still
      | some found =>
          obtain ⟨reaction, rest⟩ := found
          have reacted : property (told ++ reaction.reports) reaction.state := by
            cases queue with
            | cons fed queue =>
                obtain ⟨rfl, rfl⟩ := nextReaction?_cons next
                exact remembers.react fed holds
            | nil =>
                obtain ⟨stop, _, flushed, _⟩ := nextReaction?_nil next
                exact remembers.flush holds flushed
          have onward := ih reacted (reaction.next ++ rest) (by rwa [List.append_nil])
          rwa [Trace.Recalls, List.append_assoc] at onward

theorem stepAll_recalls {told : List Report} {state : ScanState ρ} (holds : property told state)
    (symbols : List Located) : (Trace.stepAll profile state symbols).Recalls property told := by
  induction symbols generalizing told state with
  | nil => rwa [Trace.stepAll, Trace.Recalls, List.append_nil]
  | cons located rest ih =>
      have first := run_recalls remembers none (budget state.mode 1) holds [.plain located]
      exact first.andThen (ih first)

theorem finalize_recalls {told : List Report} {state : ScanState ρ} (holds : property told state)
    (stop : Nat) : (Trace.finalize profile state stop).Recalls property told := by
  have flushed := run_recalls remembers (some stop) (budget state.mode 1) holds []
  exact flushed.andThen (remembers.fin stop flushed)

/-- The property holds of all that a scan reports. -/
theorem tokenize_recalls {state : ScanState ρ} (holds : property [] state.reset)
    (source : String) : ∃ last, property (Trace.tokenize profile state source).reports last := by
  unfold Trace.tokenize
  split
  · have stepped := stepAll_recalls remembers holds (Located.ofText 0 source.toList)
    have whole : Trace.Recalls property [] (Trace.andThen _ fun next =>
        Trace.finalize profile next (byteLength source.toList)) :=
      stepped.andThen (finalize_recalls remembers stepped _)
    exact ⟨_, whole⟩
  · exact ⟨_, holds⟩

end Scan

end Lexing
