import Lexing.Proofs.Composition
import Lexing.Proofs.Emissions

/-!
# Token streams through filters

Diagnostics pass by all filters, so that the tokens behind a chain depend on nothing but
the tokens in front of it.  What a filter makes of a stream of tokens is a recursion on the
stream, and a scan with filters in front of its sink is the scan without them, passed
through one filter after the other.
-/

namespace Lexing

variable {φ : Type} [Filter φ]

def Relay.sent (relay : Relay φ) : List Token :=
  relay.forward.filterMap Event.token?

namespace Filter

/-- What a filter makes of a stream of tokens, and the filter afterwards. -/
def pass (filter : φ) : List Token → List Token × φ
  | [] => ([], filter)
  | token :: rest =>
      let answer := react filter token
      let (following, last) := pass answer.accepted rest
      (answer.sent ++ following, last)

/-- What filters make of a stream of tokens one after the other, the first one of the list
first, and the filters afterwards. -/
def passAll : List φ → List Token → List Token × List φ
  | [], tokens => (tokens, [])
  | filter :: behind, tokens =>
      let (passed, after) := pass filter tokens
      let (received, others) := passAll behind passed
      (received, after :: others)

/-- Tokens that pass before others pass first. -/
theorem pass_append (filter : φ) (first second : List Token) :
    pass filter (first ++ second) =
      ((pass filter first).1 ++ (pass (pass filter first).2 second).1,
        (pass (pass filter first).2 second).2) := by
  induction first generalizing filter with
  | nil => rfl
  | cons token rest ih => simp only [List.cons_append, pass, ih, List.append_assoc]

theorem pass_singleton (filter : φ) (token : Token) :
    pass filter [token] = ((react filter token).sent, (react filter token).accepted) := by
  simp [pass]

/-- A filter that answers every step of an automaton on its input with steps of an automaton
on its output makes of every run of the first one a run of the second one. -/
theorem pass_simulates {α β : Type} {reads : α → Token → Option α} {writes : β → Token → Option β}
    (related : φ → α → β → Prop)
    (step : ∀ {filter before after out} (token : Token), related filter before out →
      reads before token = some after → ∃ next,
        (react filter token).sent.foldlM writes out = some next ∧
          related (react filter token).accepted after next)
    {filter : φ} {before after : α} {out : β} (start : related filter before out)
    {tokens : List Token} (run : tokens.foldlM reads before = some after) :
    ∃ last, (pass filter tokens).1.foldlM writes out = some last ∧
      related (pass filter tokens).2 after last := by
  induction tokens generalizing filter before out with
  | nil =>
      obtain rfl : before = after := Option.some.inj run
      exact ⟨out, rfl, start⟩
  | cons token rest ih =>
      rw [List.foldlM_cons] at run
      obtain ⟨middle, taken, onward⟩ := Option.bind_eq_some_iff.mp run
      obtain ⟨next, sent, kept⟩ := step token start taken
      obtain ⟨last, following, ends⟩ := ih kept onward
      refine ⟨last, ?_, ends⟩
      rw [pass, List.foldlM_append, sent]
      exact following

theorem relay_tokens (filter : φ) (events : List Event) :
    ((relay filter events).1.filterMap Event.token?, (relay filter events).2) =
      pass filter (events.filterMap Event.token?) := by
  induction events generalizing filter with
  | nil => rfl
  | cons event rest ih =>
      cases event with
      | token token =>
          have following := ih (react filter token).accepted
          simp only [relay, List.filterMap_append, List.filterMap_cons, Event.token?, pass,
            ← following]
          rfl
      | unexpected | unknownOperator | literalMessage => exact ih filter

theorem relayAll_tokens (filters : List φ) (events : List Event) :
    ((relayAll filters events).1.filterMap Event.token?, (relayAll filters events).2) =
      passAll filters (events.filterMap Event.token?) := by
  induction filters generalizing events with
  | nil => rfl
  | cons filter behind ih =>
      simp only [relayAll, passAll, ← relay_tokens, ← ih]

end Filter

/-- What a chain makes of some tokens, whatever diagnostics its filters send. -/
theorem Chain.process_passAll (filters : List φ) (tokens : List Token) :
    Chain.process filters tokens = Filter.passAll filters.reverse tokens := by
  rw [Chain.process_eq, Filter.relayAll_tokens, filterMap_token]

/-- The tokens that the machine makes are no raw tokens, and the only control token marks the
end of the input. -/
theorem Profile.Issues.ordinary {ρ : Type} {profile : Profile ρ} {stop : Nat} {kind : Kind}
    {payload : Payload} (issues : profile.Issues stop kind payload) (sound : profile.Sound) :
    kind ≠ .rawChar ∧ (kind.isControl = true → kind = .fin) := by
  have others : kind.category ≠ .atomic → kind.category ≠ .control →
      kind ≠ .rawChar ∧ (kind.isControl = true → kind = .fin) := by
    intro notAtomic notControl
    refine ⟨fun raw => notAtomic (by rw [raw]; decide), fun control => ?_⟩
    rw [Kind.isControl_of_category notControl] at control
    contradiction
  cases issues with
  | plain plain =>
      have table : ∀ kind ∈ Kind.plain,
          kind ≠ .rawChar ∧ (kind.isControl = true → kind = .fin) := by
        decide
      exact table kind plain
  | bracket registered =>
      obtain ⟨node, _, known⟩ := Trie.exists_of_lookup? registered
      have category := sound.bracketKinds node kind known
      exact others (by simp [category]) (by simp [category])
  | operator _ operator | fallback _ operator =>
      have category : kind.category = .operator := by simpa [Kind.isOperator] using operator
      exact others (by simp [category]) (by simp [category])
  | number counts =>
      have category := Numeral.category_finalKind (counts.isNumber sound)
      exact others (by simp [category]) (by simp [category])
  | lineComment | blockComment => decide
  | literal _ registered =>
      obtain ⟨node, _, known⟩ := Trie.exists_of_lookup? registered
      have category : kind.category = .literal := by
        simpa [Kind.isLiteral] using sound.literalKinds node kind known
      exact others (by simp [category]) (by simp [category])

namespace Scan

variable {ρ : Type} [Literal.Reader ρ]

/-- What a sink behind filters, installed in the given order, receives of a source. -/
def filtered (profile : Profile ρ) (filters : List φ) (source : String) : List Event :=
  (Filter.relayAll filters.reverse (events profile source)).1

/-- Every sink that never stops a scan receives, behind the filters, the same events, and
the scan ends without an error unless the source is too large. -/
def DeliversThrough (profile : Profile ρ) (filters : List φ) (source : String) : Prop :=
  ∀ {σ : Type} [Sink σ] (sink : σ), Sink.Steady sink →
    let outcome := tokenize profile {} ((Chain.ofSink sink).installAll filters) source
    outcome.result = acceptance source ∧
      outcome.sink.sink = (Sink.sendAll sink (filtered profile filters source)).sink

variable {profile : Profile ρ} {source : String}

theorem tokens_ordinary (made : profile.Made) (source : String) :
    ∀ token ∈ tokens profile source,
      token.kind ≠ .rawChar ∧ (token.kind.isControl = true → token.kind = .fin) :=
  fun token member => (heard_issued made {} source token member).ordinary made.sound

theorem Delivers.through (delivers : Delivers profile source) (filters : List φ) :
    DeliversThrough profile filters source := by
  intro σ _ sink steady
  have goesOn : Sink.Steady ((Chain.ofSink sink).installAll filters) :=
    fun received => (Chain.sendAll_installAll filters steady received).1
  obtain ⟨result, reached⟩ := delivers ((Chain.ofSink sink).installAll filters) goesOn
  dsimp only
  rw [result, reached]
  exact ⟨rfl, (Chain.sendAll_installAll filters steady (events profile source)).2.1⟩

/-- The tokens behind the filters are those of the scan, passed through them. -/
theorem filtered_tokens (profile : Profile ρ) (filters : List φ) (source : String) :
    (filtered profile filters source).filterMap Event.token? =
      (Filter.passAll filters.reverse (tokens profile source)).1 :=
  congrArg Prod.fst (Filter.relayAll_tokens filters.reverse (events profile source))

end Scan

/-! ## The stock filters -/

omit [Filter φ] in
theorem Relay.sent_eq {relay : Relay φ} {tokens : List Token}
    (forward : relay.forward = tokens.map .token) : relay.sent = tokens := by
  rw [Relay.sent, forward, filterMap_token]

/-- What a gluing filter can do with a token: merge the number that it holds with it, or
send that number on and hold the token back if it is a number itself. -/
inductive SuffixGlue.Answers (filter : SuffixGlue) (token : Token) :
    List Token → SuffixGlue → Prop
  | glue {number : Token} : filter.held = some number → isSuffix number token = true →
      Answers filter token [glue number token] {}
  | hold : token.kind.isNumber = true → Answers filter token filter.held.toList ⟨some token⟩
  | send : token.kind.isNumber = false → Answers filter token (filter.held.toList ++ [token]) {}

theorem SuffixGlue.answers (filter : SuffixGlue) (token : Token) :
    Answers filter token (Filter.react filter token).sent
      (Filter.react filter token).accepted := by
  obtain ⟨held⟩ := filter
  have others (before : List Token) (same : before = held.toList) :
      Answers ⟨held⟩ token (holdOrSend (before.map .token) token).sent
        (holdOrSend (before.map .token) token).accepted := by
    subst same
    cases number : token.kind.isNumber with
    | true =>
        simp only [holdOrSend, number, if_true, Relay.sent, filterMap_token]
        exact .hold number
    | false =>
        have sent : Relay.sent (holdOrSend (held.toList.map .token) token) =
            held.toList ++ [token] := by
          refine Relay.sent_eq ?_
          simp [holdOrSend, number]
        rw [sent]
        simp only [holdOrSend, number, Bool.false_eq_true, if_false]
        exact .send number
  cases held with
  | none => exact others [] rfl
  | some number =>
      show Answers _ token (react ⟨some number⟩ token).sent (react ⟨some number⟩ token).accepted
      unfold react
      dsimp only
      split
      case isTrue suffix =>
        exact .glue rfl suffix
      case isFalse => exact others [number] rfl

/-- What a gate can do with a token: let it pass because of the mode, or because it has no
spelling for it, or take it apart. -/
inductive ModeGate.Answers (gate : ModeGate) (token : Token) : List Token → ModeGate → Prop
  | pass : token.kind = gate.enter ∨ token.kind = gate.exit ∨ gate.active = true →
      Answers gate token [token] { gate with active := gate.activeAfter token.kind }
  | unspelled : (∀ spelling, gate.gated.lookup token.kind = some spelling → spelling = []) →
      Answers gate token [token] { gate with active := gate.activeAfter token.kind }
  | demote {spelling : List Char} : gate.active = false → token.kind ≠ gate.enter →
      token.kind ≠ gate.exit → gate.gated.lookup token.kind = some spelling → spelling ≠ [] →
      Answers gate token
        ((rawTokens token.span.stop token.span.start token.atLineStart spelling).filterMap
          Event.token?)
        { gate with active := gate.activeAfter token.kind }

theorem ModeGate.answers (gate : ModeGate) (token : Token) :
    Answers gate token (Filter.react gate token).sent (Filter.react gate token).accepted := by
  show Answers gate token (react gate token).sent (react gate token).accepted
  unfold react Relay.sent
  dsimp only
  split
  case isTrue passes =>
    exact .pass passes
  case isFalse stays =>
    simp only [not_or, Bool.not_eq_true] at stays
    unfold demote
    rcases listed : gate.gated.lookup token.kind with _ | _ | ⟨symbol, spelling⟩
    · exact .unspelled (by simp [listed])
    · exact .unspelled (by simp [listed])
    · exact .demote stays.2.2 stays.1 stays.2.1 listed (List.cons_ne_nil symbol spelling)

/-- What a directive filter can do with a token: close the open directive in front of it,
open one, or let it pass. -/
inductive LineDirective.Answers (filter : LineDirective) (token : Token) :
    List Token → LineDirective → Prop
  | close : filter.active = true → token.kind = .linefeed ∨ token.kind = .fin →
      Answers filter token [{ kind := .directiveExit, span := .point token.span.start }, token]
        { filter with active := false }
  | begin : filter.active = false → token.kind = filter.marker → token.atLineStart = true →
      Answers filter token
        [{ atLineStart := true, kind := .directiveEnter, span := .point token.span.start }, token]
        { filter with active := true }
  | pass : (filter.active = true → token.kind ≠ .linefeed ∧ token.kind ≠ .fin) →
      (filter.active = false → token.kind = filter.marker → token.atLineStart = false) →
      Answers filter token [token] filter

theorem LineDirective.answers (filter : LineDirective) (token : Token) :
    Answers filter token (Filter.react filter token).sent
      (Filter.react filter token).accepted := by
  show Answers filter token (react filter token).sent (react filter token).accepted
  unfold react Relay.sent
  dsimp only
  split
  case isTrue closes =>
    exact .close closes.1 closes.2
  split
  case isTrue opens =>
    exact .begin (by simpa using opens.1) opens.2.1 opens.2.2
  case isFalse stays others =>
    refine .pass (fun active => ?_) fun inactive marker => ?_
    · simpa [active] using stays
    · simpa [inactive, marker] using others

/-- What a composer can do with a token that is no control token: go on with the run that
it holds or with a new one, complete a run, or send all on.  The tokens that it held are
sent on unless they stay in the run. -/
inductive SequenceComposer.Answers (filter : SequenceComposer) (token : Token) :
    List Token → SequenceComposer → Prop
  | hold {before run : List Token} : filter.held = before ++ run →
      token.kind.isControl = false →
      Answers filter token before { filter with held := run ++ [token] }
  | compose {before run rest : List Token} {first : Token} : filter.held = before ++ run →
      token.kind.isControl = false → run ++ [token] = first :: rest →
      Answers filter token (before ++ [filter.compose first rest]) filter.cleared
  | send : Answers filter token (filter.held ++ [token]) filter.cleared

theorem SequenceComposer.extendRun_answers (filter : SequenceComposer) {before run : List Token}
    (held : filter.held = before ++ run) (token : Token)
    (goesOn : run = [] ∨ ({ filter with held := run } : SequenceComposer).extendsRun token = true) :
    let answer := ({ filter with held := run } : SequenceComposer).extendRun
      (before.map .token) token
    Answers filter token answer.sent answer.accepted := by
  dsimp only
  unfold extendRun
  dsimp only
  split
  case isTrue continues =>
    have text : token.kind.isControl = false := by
      simp only [extendsRun, Bool.and_eq_true, Bool.not_eq_true'] at continues
      exact continues.1.2
    cases whole : run ++ [token] with
    | nil => simp at whole
    | cons first rest =>
      dsimp only
      split
      · rw [Relay.sent_eq rfl, ← whole]
        exact .hold held text
      · have composed : (before ++ [filter.compose first rest]).map Event.token =
            before.map .token ++ [.token (filter.compose first rest)] := List.map_append
        rw [Relay.sent_eq composed.symm]
        exact .compose held text whole
  case isFalse stops =>
    obtain rfl : run = [] := goesOn.resolve_right stops
    rw [List.append_nil] at held
    subst held
    have sent : (filter.held ++ [token]).map Event.token =
        filter.held.map .token ++ [.token token] := List.map_append
    rw [Relay.sent_eq sent.symm]
    exact .send

theorem SequenceComposer.answers (filter : SequenceComposer) (token : Token) :
    Answers filter token (Filter.react filter token).sent
      (Filter.react filter token).accepted := by
  show Answers filter token (react filter token).sent (react filter token).accepted
  unfold react
  split
  case isTrue goesOn =>
    exact extendRun_answers filter (List.nil_append _).symm token (by simpa using goesOn)
  case isFalse => exact extendRun_answers filter (List.append_nil _).symm token (Or.inl rfl)

end Lexing
