import Lexing.Proofs.Potential
import Lexing.Proofs.Segments

/-!
# The journey of a scan through a text

A scan of a whole text reads the next symbol whenever nothing is left to do, and
at the end of the text it flushes what was begun.  The journey follows the machine
on this way and keeps the reports and the symbols that operators have absorbed.
When the sink lets the scan go on, scanning a text is such a journey.
-/

namespace Lexing

/-- A sink that lets every scan go on, whatever it receives. -/
def Sink.Steady {σ : Type} [Sink σ] (sink : σ) : Prop :=
  ∀ events, (Sink.sendAll sink events).flow = .proceed

/-- How many symbols of a walk are not fed again when it gets stuck. -/
def Walk.kept (walk : Walk) : Nat :=
  match walk.terminal with
  | some (_, count) => count
  | none => 1

namespace Scan

variable {ρ : Type} [Literal.Reader ρ]

/-- The escape symbol and what has ended its line, when the next symbol shows that
the line goes on. -/
def joined (escape : Located) (carriage : Option Nat) (next : Option Fed) : List Located :=
  let seen := escape :: carriage.toList.map (Located.mk '\r')
  match next.filter fun fed => fed.symbol = '\n' with
  | some feed => seen ++ [feed.toLocated]
  | none => if carriage.isSome then seen else []

/-- The symbols that an operator absorbs when the machine reacts to the next symbol,
or to the end of the input. -/
def absorbed (state : ScanState ρ) (next : Option Fed) : List Splice :=
  match state.mode with
  | .continuation (.operator walk) escape carriage =>
      (joined escape carriage next).map fun symbol =>
        ⟨symbol, walk.pending.length ≤ walk.kept⟩
  | _ => []

/-- Where a scan of the given symbols, up to `stop`, gets to: the reports so far,
the absorbed symbols, the configuration and the symbols that are not read yet. -/
inductive Journey (profile : Profile ρ) (symbols : List Located) (stop : Nat) :
    List Report → List Splice → Config ρ → List Located → Prop
  | start : Journey profile symbols stop [] [] ⟨{}, []⟩ symbols
  | read {reports : List Report} {splices : List Splice} {state : ScanState ρ}
      {located : Located} {unread : List Located} :
      Journey profile symbols stop reports splices ⟨state, []⟩ (located :: unread) →
      Journey profile symbols stop reports splices ⟨state, [.plain located]⟩ unread
  | react {reports : List Report} {splices : List Splice} {state : ScanState ρ} {fed : Fed}
      {queue : List Fed} {unread : List Located} :
      Journey profile symbols stop reports splices ⟨state, fed :: queue⟩ unread →
      Journey profile symbols stop (reports ++ (react profile state fed).reports)
        (splices ++ absorbed state (some fed))
        ⟨(react profile state fed).state, (react profile state fed).next ++ queue⟩ unread
  | flush {reports : List Report} {splices : List Splice} {state : ScanState ρ}
      {reaction : Reaction ρ} :
      Journey profile symbols stop reports splices ⟨state, []⟩ [] →
      flush? profile state stop = some reaction →
      Journey profile symbols stop (reports ++ reaction.reports)
        (splices ++ absorbed state none) ⟨reaction.state, reaction.next⟩ []

/-! ## Steady sinks -/

section Steady

variable {σ : Type} [Sink σ]

theorem Steady.send {sink : σ} (steady : Sink.Steady sink) (event : Event) :
    (Sink.send sink event).flow = .proceed ∧ Sink.Steady (Sink.send sink event).sink := by
  have goesOn : (Sink.send sink event).flow = .proceed := by
    cases flow : (Sink.send sink event).flow with
    | proceed => rfl
    | halt =>
        have answer := steady [event]
        simp [Sink.sendAll, flow] at answer
  refine ⟨goesOn, fun events => ?_⟩
  have answer := steady (event :: events)
  simpa [Sink.sendAll, goesOn] using answer

theorem Steady.sendAll {sink : σ} (steady : Sink.Steady sink) (events : List Event) :
    Sink.Steady (Sink.sendAll sink events).sink := by
  induction events generalizing sink with
  | nil => exact steady
  | cons event rest ih =>
      obtain ⟨goesOn, next⟩ := Steady.send steady event
      simp only [Sink.sendAll, goesOn]
      exact ih next

theorem sendAll_append {sink : σ} (steady : Sink.Steady sink) (first second : List Event) :
    (Sink.sendAll sink (first ++ second)).sink =
      (Sink.sendAll (Sink.sendAll sink first).sink second).sink := by
  induction first generalizing sink with
  | nil => rfl
  | cons event rest ih =>
      obtain ⟨goesOn, next⟩ := Steady.send steady event
      simp only [List.cons_append, Sink.sendAll, goesOn]
      exact ih next

theorem deliverAll_steady {sink : σ} (steady : Sink.Steady sink) (reports : List Report) :
    deliverAll sink reports = (none, (Sink.sendAll sink (reports.map Report.event)).sink) := by
  induction reports generalizing sink with
  | nil => rfl
  | cons report rest ih =>
      obtain ⟨goesOn, next⟩ := Steady.send steady report.event
      simp only [deliverAll, deliver, goesOn, List.map_cons, Sink.sendAll]
      exact ih next

end Steady

/-! ## Scanning a text -/

variable {profile : Profile ρ} {symbols unread : List Located} {stop : Nat}
  {reports : List Report} {splices : List Splice}

/-- The journeys through a text, all of whose states keep to the rules that let the
machine come to an end. -/
def Bounded (profile : Profile ρ) (symbols : List Located) (stop : Nat) : Prop :=
  profile.literals.advance Trie.root '.' = none ∧
    ∀ reports splices config unread,
      Journey profile symbols stop reports splices config unread →
      config.state.Valid profile ∧ Settled profile config.state

/-- A call goes on with a journey until nothing is left to do. -/
theorem run_journey (bounded : Bounded profile symbols stop) (closing : Option Nat)
    (closes : ∀ last, closing = some last → last = stop ∧ unread = []) {fuel : Nat}
    {state : ScanState ρ} {queue : List Fed}
    (journey : Journey profile symbols stop reports splices ⟨state, queue⟩ unread)
    (enough : Config.potential profile ⟨state, queue⟩ ≤ fuel) :
    ∃ more absorbed last, Journey profile symbols stop (reports ++ more) absorbed last unread ∧
      last.Done profile closing ∧
      ∀ {σ : Type} [Sink σ] (sink : σ), Sink.Steady sink →
        run profile closing fuel state sink queue =
          ⟨.ok (), last.state, (Sink.sendAll sink (more.map Report.event)).sink⟩ := by
  induction fuel generalizing reports splices state queue with
  | zero =>
      cases next : nextReaction? profile closing state queue with
      | none =>
          refine ⟨[], splices, ⟨state, queue⟩, by simpa using journey, next, ?_⟩
          intro σ _ sink steady
          simp [run, next, Sink.sendAll]
      | some found =>
          obtain ⟨valid, settled⟩ := bounded.2 _ _ _ _ journey
          have lower := potential_lt_of_next bounded.1 valid settled next
          omega
  | succ fuel ih =>
      cases next : nextReaction? profile closing state queue with
      | none =>
          refine ⟨[], splices, ⟨state, queue⟩, by simpa using journey, next, ?_⟩
          intro σ _ sink steady
          simp [run, next, Sink.sendAll]
      | some found =>
          obtain ⟨reaction, rest⟩ := found
          obtain ⟨valid, settled⟩ := bounded.2 _ _ _ _ journey
          have lower := potential_lt_of_next bounded.1 valid settled next
          have onward : ∃ absorbed, Journey profile symbols stop (reports ++ reaction.reports)
              absorbed ⟨reaction.state, reaction.next ++ rest⟩ unread := by
            cases queue with
            | cons fed queue =>
                obtain ⟨rfl, rfl⟩ := nextReaction?_cons next
                exact ⟨_, journey.react⟩
            | nil =>
                obtain ⟨last, closed, flushed, rfl⟩ := nextReaction?_nil next
                obtain ⟨rfl, rfl⟩ := closes last closed
                exact ⟨_, by simpa using journey.flush flushed⟩
          obtain ⟨absorbed, onward⟩ := onward
          obtain ⟨more, absorbed, last, reached, done, runs⟩ := ih onward (by omega)
          refine ⟨reaction.reports ++ more, absorbed, last, by simpa using reached, done, ?_⟩
          intro σ _ sink steady
          rw [run]
          simp only [next, deliverAll_steady steady]
          rw [runs _ (Steady.sendAll steady _), List.map_append, sendAll_append steady]

/-- Feeding all symbols that are not read yet goes on with a journey. -/
theorem stepAll_journey (bounded : Bounded profile symbols stop) {state : ScanState ρ}
    (journey : Journey profile symbols stop reports splices ⟨state, []⟩ unread) :
    ∃ more absorbed last, Journey profile symbols stop (reports ++ more) absorbed ⟨last, []⟩ [] ∧
      ∀ {σ : Type} [Sink σ] (sink : σ), Sink.Steady sink →
        stepAll profile state sink unread =
          ⟨.ok (), last, (Sink.sendAll sink (more.map Report.event)).sink⟩ := by
  induction unread generalizing reports splices state with
  | nil =>
      refine ⟨[], splices, state, by simpa using journey, ?_⟩
      intro σ _ sink steady
      rfl
  | cons located rest ih =>
      have enough := potential_le_budget profile state [.plain located] (by simp)
      obtain ⟨first, absorbed, ⟨middle, left⟩, reached, done, steps⟩ :=
        run_journey bounded none (by simp) journey.read enough
      obtain rfl : left = [] := done.queue
      obtain ⟨second, absorbed, last, reached, onward⟩ := ih reached
      refine ⟨first ++ second, absorbed, last, by simpa using reached, ?_⟩
      intro σ _ sink steady
      rw [stepAll, step, steps sink steady]
      dsimp only
      rw [onward _ (Steady.sendAll steady _), List.map_append, sendAll_append steady]

/-- The token at the end of a text. -/
def finToken (state : ScanState ρ) (stop : Nat) : Token :=
  { atLineStart := state.lineStart, kind := .fin, span := .point stop }

/-- A fresh scan of a text is a journey to its end. -/
theorem tokenize_journey {source : String} (fits : byteLength source.toList ≤ maxOffset)
    (bounded : Bounded profile (Located.ofText 0 source.toList) (byteLength source.toList)) :
    ∃ reports splices state,
      Journey profile (Located.ofText 0 source.toList) (byteLength source.toList) reports splices
        ⟨state, []⟩ [] ∧
      state.mode = .idle ∧
      ∀ {σ : Type} [Sink σ] (sink : σ), Sink.Steady sink →
        tokenize profile {} sink source =
          ⟨.ok (), (state.emit .fin (.point (byteLength source.toList))).state,
            (Sink.sendAll sink (reports.map Report.event ++
              [.token (finToken state (byteLength source.toList))])).sink⟩ := by
  obtain ⟨first, absorbed, middle, reached, steps⟩ := stepAll_journey bounded .start
  have enough := potential_le_budget profile middle [] (by simp)
  obtain ⟨second, absorbed, ⟨state, left⟩, reached, done, runs⟩ :=
    run_journey bounded (some (byteLength source.toList)) (by simp) reached enough
  obtain rfl : left = [] := done.queue
  refine ⟨first ++ second, absorbed, state, by simpa using reached, done.mode, ?_⟩
  intro σ _ sink steady
  have fresh : ({} : ScanState ρ).reset = {} := rfl
  rw [tokenize]
  have middleSteady := Steady.sendAll steady (first.map Report.event)
  have lastSteady := Steady.sendAll middleSteady (second.map Report.event)
  simp only [fits, if_true, fresh, steps sink steady, finalize, runs _ middleSteady,
    deliverAll_steady lastSteady]
  rw [List.map_append, List.append_assoc, sendAll_append steady, sendAll_append middleSteady]
  rfl

end Scan

end Lexing
