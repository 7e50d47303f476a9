import Lexing.Proofs.Tiling
import Lexing.Sink.Recorder

/-!
# Transcripts

A scan of a whole source is one run over all of its symbols.  It does not matter
whether a symbol is fed for the first time or once more, so the rest of the source can
be seen as the end of the queue.  The reports of the run, with the token at the end,
are the transcript of the source, and every sink that never stops receives it.
-/

namespace Lexing

namespace Scan

variable {ρ : Type} [Literal.Reader ρ] {profile : Profile ρ} {closing : Option Nat}
  {first middle last config : Config ρ} {reports past more : List Report} {stop count : Nat}

/-! ## Runs -/

/-- The machine comes to the end of the input in at most `count` reactions, with the
given reports from here on.  The last one is the token at the end. -/
inductive Yields (profile : Profile ρ) (stop : Nat) : Nat → Config ρ → List Report → Prop
  | done {config : Config ρ} (count : Nat) : config.Done profile (some stop) →
      Yields profile stop count config [.token (finToken config.state stop)]
  | next {config : Config ρ} {reaction : Reaction ρ} {rest : List Fed} {reports : List Report}
      {count : Nat} :
      nextReaction? profile (some stop) config.state config.queue = some (reaction, rest) →
      Yields profile stop count ⟨reaction.state, reaction.next ++ rest⟩ reports →
      Yields profile stop (count + 1) config (reaction.reports ++ reports)

namespace Yields

theorem step {reaction : Reaction ρ} {rest : List Fed}
    (yields : Yields profile stop count config reports)
    (next : nextReaction? profile (some stop) config.state config.queue = some (reaction, rest)) :
    ∃ fewer later, count = fewer + 1 ∧ reports = reaction.reports ++ later ∧
      Yields profile stop fewer ⟨reaction.state, reaction.next ++ rest⟩ later := by
  cases yields with
  | done _ done =>
      rw [Config.Done, next] at done
      contradiction
  | next found yields =>
      obtain ⟨rfl, rfl⟩ : _ = reaction ∧ _ = rest := by simpa [found] using next
      exact ⟨_, _, rfl, rfl, yields⟩

/-- What lies ahead after part of the way. -/
theorem after (yields : Yields profile stop count config reports)
    (leads : Leads profile (some stop) config past last) :
    ∃ fewer later, fewer ≤ count ∧ reports = past ++ later ∧
      Yields profile stop fewer last later := by
  induction leads generalizing count reports with
  | here => exact ⟨count, reports, Nat.le_refl _, rfl, yields⟩
  | there next _ ih =>
      obtain ⟨fewer, later, rfl, rfl, onward⟩ := yields.step next
      obtain ⟨least, rest, below, rfl, ahead⟩ := ih onward
      exact ⟨least, rest, by omega, by simp, ahead⟩

theorem prepend (leads : Leads profile (some stop) first past last)
    (yields : Yields profile stop count last reports) :
    ∃ more, Yields profile stop more first (past ++ reports) := by
  induction leads with
  | here => exact ⟨count, yields⟩
  | there next _ ih =>
      obtain ⟨more, yields⟩ := ih yields
      rw [List.append_assoc]
      exact ⟨more + 1, .next next yields⟩

theorem unique {other : Nat} {again : List Report}
    (yields : Yields profile stop count config reports)
    (yieldsAgain : Yields profile stop other config again) : reports = again := by
  induction yields generalizing other again with
  | done _ done =>
      cases yieldsAgain with
      | done => rfl
      | next next =>
          rw [Config.Done, next] at done
          contradiction
  | next next _ ih =>
      obtain ⟨_, later, _, rfl, onward⟩ := yieldsAgain.step next
      rw [ih onward]

end Yields

/-! ## Sources -/

/-- The configuration in which a scan of a source begins, with all of its symbols
still to be fed. -/
def opening (source : String) : Config ρ :=
  ⟨{}, (Located.ofText 0 source.toList).map .plain⟩

/-- A scan of the source gets to a configuration. -/
def Reaches (profile : Profile ρ) (source : String) (past : List Report) (config : Config ρ) :
    Prop :=
  Leads profile (some (byteLength source.toList)) (opening source) past config

/-- From a configuration on, a scan of the source makes the given reports. -/
def Foresees (profile : Profile ρ) (source : String) (config : Config ρ) (reports : List Report) :
    Prop :=
  ∃ count, Yields profile (byteLength source.toList) count config reports

theorem Foresees.unique {source : String} {again : List Report}
    (foresees : Foresees profile source config reports)
    (foreseesAgain : Foresees profile source config again) : reports = again := by
  obtain ⟨_, yields⟩ := foresees
  obtain ⟨_, yieldsAgain⟩ := foreseesAgain
  exact yields.unique yieldsAgain

theorem Foresees.after {source : String} (foresees : Foresees profile source config reports)
    (leads : Leads profile (some (byteLength source.toList)) config past last) :
    ∃ later, reports = past ++ later ∧ Foresees profile source last later := by
  obtain ⟨_, yields⟩ := foresees
  obtain ⟨fewer, later, _, same, yields⟩ := yields.after leads
  exact ⟨later, same, fewer, yields⟩

/-- On a journey, what is not read yet is as good as fed. -/
theorem Journey.leads {symbols unread : List Located} {splices : List Splice}
    (journey : Journey profile symbols stop reports splices config unread) :
    Leads profile (some stop) ⟨{}, symbols.map .plain⟩ reports
      ⟨config.state, config.queue ++ unread.map .plain⟩ := by
  induction journey with
  | start => exact .here _
  | read _ ih => exact ih
  | @react _ _ state fed queue unread _ ih =>
      have leads := ih.trans (Leads.react profile _ state fed (queue ++ unread.map .plain))
      rwa [← List.append_assoc] at leads
  | flush _ flushed ih =>
      have leads := ih.trans (Leads.flush flushed)
      rwa [List.map_nil, List.append_nil]

/-! ## What a sink receives -/

/-- The events of a source: what a recorder that never stops has recorded. -/
def events (profile : Profile ρ) (source : String) : List Event :=
  (tokenize profile {} ({} : Recorder) source).sink.events.toList

def tokens (profile : Profile ρ) (source : String) : List Token :=
  (events profile source).filterMap Event.token?

/-- A token that is received is one of the events. -/
theorem mem_tokens {profile : Profile ρ} {source : String} {token : Token} :
    token ∈ tokens profile source ↔ .token token ∈ events profile source := by
  simp [tokens, Event.token?_eq_some]

def acceptance (source : String) : Except ScanError Unit :=
  if byteLength source.toList ≤ maxOffset then .ok ()
  else .error (.sourceTooLarge (byteLength source.toList))

/-- Every sink that never stops a scan receives the events of the source, and the scan
ends without an error unless the source is too large. -/
def Delivers (profile : Profile ρ) (source : String) : Prop :=
  ∀ {σ : Type} [Sink σ] (sink : σ), Sink.Steady sink →
    (tokenize profile {} sink source).result = acceptance source ∧
      (tokenize profile {} sink source).sink = (Sink.sendAll sink (events profile source)).sink

omit [Literal.Reader ρ] in
theorem sendAll_recorder (recorder : Recorder) (lenient : recorder.policy = .lenient)
    (unlimited : recorder.limit = none) (received : List Event) :
    (Sink.sendAll recorder received).flow = .proceed ∧
      (Sink.sendAll recorder received).sink.events.toList =
        recorder.events.toList ++ received := by
  induction received generalizing recorder with
  | nil => simp [Sink.sendAll]
  | cons event rest ih =>
      have kept : (Sink.send recorder event).flow = .proceed ∧
          (Sink.send recorder event).sink.policy = .lenient ∧
          (Sink.send recorder event).sink.limit = none ∧
          (Sink.send recorder event).sink.events.toList = recorder.events.toList ++ [event] := by
        cases event <;>
          simp [Sink.send, Sink.token, Sink.unexpected, Sink.unknownOperator,
            Sink.literalMessage, Recorder.token, Recorder.record, Recorder.recordDiagnostic,
            lenient, unlimited]
      obtain ⟨goesOn, lenient, unlimited, recorded⟩ := kept
      obtain ⟨flow, others⟩ := ih _ lenient unlimited
      simp [Sink.sendAll, goesOn, flow, others, recorded]

omit [Literal.Reader ρ] in
theorem steady_recorder : Sink.Steady ({} : Recorder) :=
  fun received => (sendAll_recorder {} rfl rfl received).1

/-- The scan of a source is foreseen from its opening, and all steady sinks receive
it. -/
theorem transcribed {source : String} (fits : byteLength source.toList ≤ maxOffset)
    (bounded : Bounded profile (Located.ofText 0 source.toList) (byteLength source.toList)) :
    ∃ reports, Foresees profile source (opening source) reports ∧
      events profile source = reports.map Report.event ∧ Delivers profile source := by
  obtain ⟨reports, splices, state, journey, idle, tokenized⟩ := tokenize_journey fits bounded
  have leads : Leads profile (some (byteLength source.toList)) (opening source) reports
      ⟨state, []⟩ := journey.leads
  have done : Config.Done profile (some (byteLength source.toList)) ⟨state, []⟩ := by
    simp [Config.Done, nextReaction?, flush?, idle]
  obtain ⟨count, yields⟩ := Yields.prepend leads (.done 0 done)
  have recorded : events profile source = reports.map Report.event ++
      [.token (finToken state (byteLength source.toList))] := by
    rw [events, tokenized _ steady_recorder, (sendAll_recorder {} rfl rfl _).2]
    rfl
  refine ⟨_, ⟨count, yields⟩, by simpa [Report.event] using recorded, ?_⟩
  intro σ _ sink steady
  rw [tokenized sink steady, recorded, acceptance, if_pos fits]
  exact ⟨rfl, rfl⟩

/-- Nothing is delivered of a source that is too large. -/
theorem events_of_large (profile : Profile ρ) {source : String}
    (large : ¬byteLength source.toList ≤ maxOffset) :
    events profile source = [] ∧ Delivers profile source := by
  have refused : ∀ {σ : Type} [Sink σ] (sink : σ), tokenize profile {} sink source =
      ⟨.error (.sourceTooLarge (byteLength source.toList)), {}, sink⟩ := by
    intro σ _ sink
    simp [tokenize, large]
  have nothing : events profile source = [] := by
    rw [events, refused]
  refine ⟨nothing, fun sink _ => ?_⟩
  rw [refused, nothing, acceptance, if_neg large]
  exact ⟨rfl, rfl⟩

end Scan

end Lexing
