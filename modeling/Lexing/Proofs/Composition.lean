import Lexing.Filter.Stock
import Lexing.Profile.CLike
import Lexing.Proofs.Transcript

/-!
# Chains of filters are compositions

A chain hands every token to all of its filters before it looks at the next one, and
filters hold tokens back, so that its stages have seen different parts of the stream.
Still the sink behind a chain receives what it would receive if the whole stream passed
one filter after the other, and no filter notices the difference.
-/

namespace Lexing

variable {φ σ : Type} [Filter φ] [Sink σ]

/-! ## One filter -/

/-- What a filter makes of a whole stream, and the filter afterwards.  Diagnostics pass
by. -/
def Filter.relay (filter : φ) : List Event → List Event × φ
  | [] => ([], filter)
  | .token token :: rest =>
      let answer := Filter.react filter token
      let (following, last) := Filter.relay answer.accepted rest
      (answer.forward ++ following, last)
  | remark :: rest =>
      let (following, last) := Filter.relay filter rest
      (remark :: following, last)

/-- A filter in front of a sink that lets every scan go on: the sink receives what the
filter makes of the stream. -/
theorem sendAll_filtered (filter : φ) {next : σ} (steady : Sink.Steady next)
    (events : List Event) :
    (Sink.sendAll (⟨filter, next⟩ : Filtered φ σ) events).flow = .proceed ∧
      (Sink.sendAll (⟨filter, next⟩ : Filtered φ σ) events).sink =
        ⟨(Filter.relay filter events).2,
          (Sink.sendAll next (Filter.relay filter events).1).sink⟩ := by
  induction events generalizing filter next with
  | nil => exact ⟨rfl, rfl⟩
  | cons event rest ih =>
      cases event with
      | token token =>
          have goesOn : (Sink.sendAll next (Filter.react filter token).forward).flow =
              .proceed := steady _
          have sent : Sink.send (⟨filter, next⟩ : Filtered φ σ) (.token token) =
              { flow := .proceed
                text := (Sink.sendAll next (Filter.react filter token).forward).text
                sink := ⟨(Filter.react filter token).accepted,
                  (Sink.sendAll next (Filter.react filter token).forward).sink⟩ } := by
            simp only [Sink.send, Sink.token, Filtered.token, goesOn]
          obtain ⟨flow, last⟩ := ih (Filter.react filter token).accepted
            (Scan.Steady.sendAll steady (Filter.react filter token).forward)
          simp only [Sink.sendAll, sent, Filter.relay]
          exact ⟨flow, by rw [last, Scan.sendAll_append steady]⟩
      | unexpected span =>
          obtain ⟨goesOn, onward⟩ := Scan.Steady.send steady (.unexpected span)
          have sent : Sink.send (⟨filter, next⟩ : Filtered φ σ) (.unexpected span) =
              { flow := .proceed
                sink := ⟨filter, (Sink.send next (.unexpected span)).sink⟩ } := by
            simp only [Sink.send] at goesOn ⊢
            simp only [Sink.unexpected, goesOn]
          obtain ⟨flow, last⟩ := ih filter onward
          simp only [Sink.sendAll, sent, Filter.relay, goesOn]
          exact ⟨flow, last⟩
      | unknownOperator span =>
          exact ih filter (Scan.Steady.send steady (.unknownOperator span)).2
      | literalMessage span message =>
          exact ih filter (Scan.Steady.send steady (.literalMessage span message)).2

/-! ## Many filters -/

/-- What filters make of a whole stream one after the other, the first one of the list
first, and the filters afterwards. -/
def Filter.relayAll : List φ → List Event → List Event × List φ
  | [], events => (events, [])
  | filter :: behind, events =>
      let (passed, after) := Filter.relay filter events
      let (received, others) := Filter.relayAll behind passed
      (received, after :: others)

/-- The sink behind a stack receives what its filters make of the stream one after the
other. -/
theorem Stack.sendAll_eq (count : Nat) (stack : Stack φ σ count)
    (steady : Sink.Steady (Stack.sink count stack)) (events : List Event) :
    (Sink.sendAll stack events).flow = .proceed ∧
      Stack.sink count (Sink.sendAll stack events).sink =
        (Sink.sendAll (Stack.sink count stack)
          (Filter.relayAll (Stack.filters count stack) events).1).sink ∧
      Stack.filters count (Sink.sendAll stack events).sink =
        (Filter.relayAll (Stack.filters count stack) events).2 := by
  induction count generalizing events with
  | zero => exact ⟨steady events, rfl, rfl⟩
  | succ count ih =>
      obtain ⟨filter, next⟩ := stack
      have behind : Sink.Steady next := fun received => (ih next steady received).1
      obtain ⟨flow, last⟩ := sendAll_filtered filter behind events
      obtain ⟨-, received, filters⟩ := ih next steady (Filter.relay filter events).1
      refine ⟨flow, ?_, ?_⟩
      · exact (congrArg (Stack.sink (count + 1)) last).trans received
      · refine (congrArg (Stack.filters (count + 1)) last).trans ?_
        simp only [Stack.filters, Filter.relayAll, filters]

namespace Chain

theorem sendAll_eq (chain : Chain φ σ) (events : List Event) :
    (Sink.sendAll chain events).flow = (Sink.sendAll chain.stack events).flow ∧
      (Sink.sendAll chain events).sink =
        ⟨chain.length, (Sink.sendAll chain.stack events).sink⟩ := by
  induction events generalizing chain with
  | nil => exact ⟨rfl, rfl⟩
  | cons event rest ih =>
      have sent : (Sink.send chain event).flow = (Sink.send chain.stack event).flow ∧
          (Sink.send chain event).sink =
            ⟨chain.length, (Sink.send chain.stack event).sink⟩ := by
        cases event <;> exact ⟨rfl, rfl⟩
      simp only [Sink.sendAll, sent.1]
      cases (Sink.send chain.stack event).flow with
      | halt => exact ⟨sent.1, sent.2⟩
      | proceed =>
          rw [sent.2]
          exact ih _

omit [Filter φ] [Sink σ] in
theorem installAll_eq (chain : Chain φ σ) (filters : List φ) :
    (chain.installAll filters).sink = chain.sink ∧
      (chain.installAll filters).filters = filters.reverse ++ chain.filters := by
  induction filters generalizing chain with
  | nil => exact ⟨rfl, rfl⟩
  | cons filter rest ih =>
      obtain ⟨sink, filters⟩ := ih (chain.install filter)
      refine ⟨sink, filters.trans ?_⟩
      rw [List.reverse_cons, List.append_assoc]
      rfl

/-- The sink behind a chain receives what its filters make of the stream, one after the
other, the one installed last first. -/
theorem sendAll_installAll (filters : List φ) {sink : σ} (steady : Sink.Steady sink)
    (events : List Event) :
    (Sink.sendAll ((ofSink sink).installAll filters) events).flow = .proceed ∧
      (Sink.sendAll ((ofSink sink).installAll filters) events).sink.sink =
        (Sink.sendAll sink (Filter.relayAll filters.reverse events).1).sink ∧
      (Sink.sendAll ((ofSink sink).installAll filters) events).sink.filters =
        (Filter.relayAll filters.reverse events).2 := by
  obtain ⟨sameSink, sameFilters⟩ := installAll_eq (ofSink sink : Chain φ σ) filters
  rw [show (ofSink sink : Chain φ σ).filters = [] from rfl, List.append_nil] at sameFilters
  obtain ⟨flow, last⟩ := sendAll_eq ((ofSink sink).installAll filters) events
  have goesOn : Sink.Steady ((ofSink sink : Chain φ σ).installAll filters).sink := by
    rw [sameSink]
    exact steady
  obtain ⟨proceeds, received, after⟩ := Stack.sendAll_eq _ _ goesOn events
  refine ⟨flow.trans proceeds, ?_, ?_⟩
  · rw [last, ← sameFilters]
    refine received.trans ?_
    exact congrArg (fun sink => (Sink.sendAll sink _).sink) sameSink
  · rw [last, ← sameFilters]
    exact after

end Chain

/-! ## Streams of tokens -/

/-- What a chain with the given filters, installed in this order, makes of some tokens that
are pushed into it one by one: the tokens that a recorder behind it records, and the
filters afterwards, the one that sees tokens first in front. -/
def Chain.process (filters : List φ) (tokens : List Token) : List Token × List φ :=
  let last := (Sink.sendAll ((Chain.ofSink ({} : Recorder)).installAll filters)
    (tokens.map .token)).sink
  (last.sink.tokens, last.filters)

/-- What filters make of some tokens stage by stage.  All tokens are pushed through the
first filter alone, what comes out of it through the second one alone, and so on. -/
def Chain.stagewise : List φ → List Token → List Token × List φ
  | [], tokens => (tokens, [])
  | filter :: behind, tokens =>
      let (passed, after) := Chain.process [filter] tokens
      let (received, others) := Chain.stagewise behind passed
      (received, after ++ others)

theorem filterMap_token (tokens : List Token) :
    (tokens.map Event.token).filterMap Event.token? = tokens := by
  rw [List.filterMap_map]
  exact List.filterMap_some

theorem Chain.process_eq (filters : List φ) (tokens : List Token) :
    Chain.process filters tokens =
      ((Filter.relayAll filters.reverse (tokens.map .token)).1.filterMap Event.token?,
        (Filter.relayAll filters.reverse (tokens.map .token)).2) := by
  obtain ⟨-, received, after⟩ :=
    Chain.sendAll_installAll filters Scan.steady_recorder (tokens.map .token)
  unfold Chain.process
  dsimp only
  rw [received, after, Recorder.tokens, (Scan.sendAll_recorder {} rfl rfl _).2]
  rfl

/-- Filters that send on nothing but tokens. -/
def Filter.SendsTokens (φ : Type) [Filter φ] : Prop :=
  ∀ (filter : φ) (token : Token), ∃ tokens : List Token, (Filter.react filter token).forward =
    tokens.map Event.token

theorem Filter.SendsTokens.relay (sends : Filter.SendsTokens φ) (filter : φ)
    (tokens : List Token) :
    ∃ passed : List Token,
      (Filter.relay filter (tokens.map .token)).1 = passed.map Event.token := by
  induction tokens generalizing filter with
  | nil => exact ⟨[], rfl⟩
  | cons token rest ih =>
      obtain ⟨first, forward⟩ := sends filter token
      obtain ⟨following, later⟩ := ih (Filter.react filter token).accepted
      refine ⟨first ++ following, ?_⟩
      rw [List.map_append, ← forward, ← later]
      rfl

/-- Filters that send on nothing but tokens make the same of a stream stage by stage. -/
theorem Filter.SendsTokens.stagewise (sends : Filter.SendsTokens φ) (filters : List φ)
    (tokens : List Token) :
    Filter.relayAll filters (tokens.map .token) =
      ((Chain.stagewise filters tokens).1.map .token, (Chain.stagewise filters tokens).2) := by
  induction filters generalizing tokens with
  | nil => rfl
  | cons filter behind ih =>
      obtain ⟨passed, relayed⟩ := sends.relay filter tokens
      have alone : Chain.process [filter] tokens =
          (passed, [(Filter.relay filter (tokens.map .token)).2]) := by
        rw [Chain.process_eq]
        simp only [List.reverse_singleton, Filter.relayAll, relayed, filterMap_token]
      simp only [Filter.relayAll, Chain.stagewise, alone, relayed, ih passed]
      rfl

/-! ## The stock filters -/

theorem ModeGate.rawTokens_tokens (stop start : Nat) (atLineStart : Bool)
    (spelling : List Char) :
    ∃ tokens : List Token,
      ModeGate.rawTokens stop start atLineStart spelling = tokens.map Event.token := by
  induction spelling generalizing start atLineStart with
  | nil => exact ⟨[], rfl⟩
  | cons symbol rest ih =>
      cases rest with
      | nil => exact ⟨[_], rfl⟩
      | cons second others =>
          obtain ⟨later, same⟩ := ih (min (symbolEnd symbol start) stop) false
          exact ⟨_ :: later, by rw [ModeGate.rawTokens, same, List.map_cons]; simp⟩

theorem SequenceComposer.extendRun_tokens (filter : SequenceComposer) (before : List Token)
    (token : Token) :
    ∃ tokens : List Token, (filter.extendRun (before.map .token) token).forward =
      tokens.map Event.token := by
  unfold SequenceComposer.extendRun
  dsimp only
  split
  · split
    · exact ⟨before, rfl⟩
    · split
      · exact ⟨before, rfl⟩
      · exact ⟨before ++ [_], by rw [List.map_append]; rfl⟩
  · exact ⟨before ++ [token], by rw [List.map_append]; rfl⟩

/-- No stock filter makes diagnostics. -/
theorem StockFilter.sendsTokens : Filter.SendsTokens StockFilter := by
  intro filter token
  cases filter with
  | suffixGlue glue =>
      show ∃ tokens : List Token, (glue.react token).forward = tokens.map Event.token
      unfold SuffixGlue.react SuffixGlue.holdOrSend
      cases glue.held with
      | none =>
          dsimp only
          split
          · exact ⟨[], rfl⟩
          · exact ⟨[token], rfl⟩
      | some number =>
          dsimp only
          split
          · exact ⟨[_], rfl⟩
          · split
            · exact ⟨[number], rfl⟩
            · exact ⟨[number, token], rfl⟩
  | modeGate gate =>
      show ∃ tokens : List Token, (gate.react token).forward = tokens.map Event.token
      unfold ModeGate.react ModeGate.demote
      dsimp only
      split
      · exact ⟨[token], rfl⟩
      · split
        · exact ⟨[token], rfl⟩
        · exact ⟨[token], rfl⟩
        · exact ModeGate.rawTokens_tokens _ _ _ _
  | lineDirective directive =>
      show ∃ tokens : List Token, (directive.react token).forward = tokens.map Event.token
      unfold LineDirective.react
      dsimp only
      split
      · exact ⟨[_, token], rfl⟩
      split
      · exact ⟨[_, token], rfl⟩
      · exact ⟨[token], rfl⟩
  | sequenceComposer composer =>
      show ∃ tokens : List Token, (composer.react token).forward = tokens.map Event.token
      unfold SequenceComposer.react
      split
      · exact composer.extendRun_tokens [] token
      · exact composer.cleared.extendRun_tokens composer.held token

/-- A chain of stock filters, in whatever condition they are, is the composition of its
filters: tokens that are pushed into it one by one come out as if all of them had passed
the filter installed last, then what came out of it the filter before, and so on, and the
filters end in the same condition. -/
theorem chain_stagewise (filters : List StockFilter) (tokens : List Token) :
    Chain.process filters tokens = Chain.stagewise filters.reverse tokens ∧
      ∀ {σ : Type} [Sink σ] (sink : σ), Sink.Steady sink →
        let reply := Sink.sendAll ((Chain.ofSink sink).installAll filters) (tokens.map .token)
        reply.flow = .proceed ∧
          reply.sink.sink = (Sink.sendAll sink
            ((Chain.stagewise filters.reverse tokens).1.map .token)).sink ∧
          reply.sink.filters = (Chain.stagewise filters.reverse tokens).2 := by
  have staged := StockFilter.sendsTokens.stagewise filters.reverse tokens
  refine ⟨?_, fun sink steady => ?_⟩
  · rw [Chain.process_eq, staged, filterMap_token]
  · have sent := Chain.sendAll_installAll filters steady (tokens.map .token)
    rw [staged] at sent
    exact sent

/-- A number that is held back while a directive is opened, in the chain of the C-like
profile: the chain is in the middle of `5#` on a new line, and a recorder receives the
number, the control token and the marker in this order. -/
theorem chain_stagewise_directive :
    Sink.Steady ({} : Recorder) ∧
      Chain.stagewise CLike.filters.reverse
          [{ kind := .numberDecimal, span := ⟨0, 1⟩ },
            { atLineStart := true, kind := CLike.hash, span := ⟨1, 2⟩ }] =
        ([{ kind := .numberDecimal, span := ⟨0, 1⟩ },
          { atLineStart := true, kind := .directiveEnter, span := ⟨1, 1⟩ },
          { atLineStart := true, kind := CLike.hash, span := ⟨1, 2⟩ }],
          (Sink.sendAll ((Chain.ofSink ({} : Recorder)).installAll CLike.filters)
            ([{ kind := .numberDecimal, span := ⟨0, 1⟩ },
              { atLineStart := true, kind := CLike.hash, span := ⟨1, 2⟩ }].map
                .token)).sink.filters) := by
  obtain ⟨-, sent⟩ := chain_stagewise CLike.filters
    [{ kind := .numberDecimal, span := ⟨0, 1⟩ },
      { atLineStart := true, kind := CLike.hash, span := ⟨1, 2⟩ }]
  obtain ⟨-, -, filters⟩ := sent ({} : Recorder) Scan.steady_recorder
  refine ⟨Scan.steady_recorder, Prod.ext ?_ filters.symm⟩
  decide +kernel

end Lexing
