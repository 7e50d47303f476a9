import Lexing.Proofs.Dispatch
import Lexing.Proofs.Runs

/-!
# What the machine can answer

The machine answers to a symbol, or to the end of the input when there is none.  Inside a
token both answers are alike: a token that a symbol leaves behind ends as well where the
input does.  One relation says what an answer can be, in which mode, and which tests the
symbol has passed.  Between tokens the rules decide.  A proof about all reactions is a case
analysis of this relation, and it does not look into the functions that read the symbols.
-/

namespace Lexing.Scan

variable {ρ : Type} {profile : Profile ρ} {state : ScanState ρ} {fed : Fed} {stop : Nat}

@[simp] theorem feed_nil (reaction : Reaction ρ) : reaction.feed [] = reaction := by
  simp [Reaction.feed]

/-- A mode takes a symbol without a report and goes over to another mode. -/
inductive Takes (profile : Profile ρ) (state : ScanState ρ) (fed : Fed) : Mode → Mode → Prop
  | blank {run : Char} : run ≠ '\r' → fed.symbol = run →
      Takes profile state fed (.blank run) (.blank run)
  | identifier : beginsContinuation profile state fed = false →
      (state.classify profile fed.symbol).identifier = true →
      Takes profile state fed .identifier .identifier
  | numberPrefix {node child : NodeId} {pending : List Located} :
      profile.numberPrefixes.advance node fed.symbol = some child →
      Takes profile state fed (.numberPrefix node pending)
        (.numberPrefix child (pending ++ [fed.toLocated]))
  | digit {value : Numeral} {digit : Nat} : digitValue? fed.symbol value.base = some digit →
      Takes profile state fed (.number value) (.number (value.pushDigit digit))
  | separator {value : Numeral} : digitValue? fed.symbol value.base = none →
      isSeparator profile fed.symbol = true →
      Takes profile state fed (.number value) (.number value)
  | point {value : Numeral} : isSeparator profile fed.symbol = false → fed.symbol = '.' →
      Takes profile state fed (.number value) (.maybeFloat value fed.offset true)
  | firstFraction {value : Numeral} {dot digit : Nat} {hasInteger : Bool} :
      digitValue? fed.symbol value.base = some digit →
      Takes profile state fed (.maybeFloat value dot hasInteger)
        (.float (value.startFraction.pushFractionDigit digit))
  | fraction {value : Numeral} {digit : Nat} : digitValue? fed.symbol value.base = some digit →
      Takes profile state fed (.float value) (.float (value.pushFractionDigit digit))
  | fractionSeparator {value : Numeral} : digitValue? fed.symbol value.base = none →
      isSeparator profile fed.symbol = true → Takes profile state fed (.float value) (.float value)
  | lineComment {text : List Char} : beginsContinuation profile state fed = false →
      (state.classify profile fed.symbol).linefeed = false →
      Takes profile state fed (.lineComment text) (.lineComment (fed.symbol :: text))
  | blockComment {text : List Char} {seen : Nat} {crossed : Bool} :
      markerSeen profile.blockClose seen fed.symbol < profile.blockClose.length →
      Takes profile state fed (.blockComment text seen crossed)
        (.blockComment (fed.symbol :: text) (markerSeen profile.blockClose seen fed.symbol)
          (crossed || (state.classify profile fed.symbol).linefeed))
  | escape {before : Mode} {resume : Resume} : before = resume.mode → before ≠ .idle →
      beginsContinuation profile state fed = true →
      Takes profile state fed before (.continuation resume fed.toLocated none)
  | carriage {resume : Resume} {escape : Located} : fed.symbol = '\r' →
      Takes profile state fed (.continuation resume escape none)
        (.continuation resume escape (some fed.offset))

/-- The token that a mode reads is complete before the next symbol, at `stop`, and becomes a
token of the given kind. -/
inductive Completed (profile : Profile ρ) (state : ScanState ρ) (next : Option Fed)
    (stop : Nat) : Mode → Kind → Payload → Prop
  | carriage : (∀ fed ∈ next, fed.symbol ≠ '\n') →
      Completed profile state next stop (.blank '\r') .linefeed .empty
  | blank {run : Char} : run ≠ '\r' → (∀ fed ∈ next, fed.symbol ≠ run) →
      Completed profile state next stop (.blank run) (blankKind run) .empty
  | identifier : (∀ fed ∈ next, beginsContinuation profile state fed = false ∧
        (state.classify profile fed.symbol).identifier = false) →
      Completed profile state next stop .identifier .identifier .empty
  | number {value : Numeral} : (∀ fed ∈ next, digitValue? fed.symbol value.base = none ∧
        isSeparator profile fed.symbol = false ∧ fed.symbol ≠ '.') →
      Completed profile state next stop (.number value) value.finalKind (value.payload stop)
  | float {value : Numeral} : (∀ fed ∈ next, digitValue? fed.symbol value.base = none ∧
        isSeparator profile fed.symbol = false) →
      Completed profile state next stop (.float value) value.finalKind (value.payload stop)
  | lineComment {text : List Char} : (∀ fed ∈ next, beginsContinuation profile state fed = false ∧
        (state.classify profile fed.symbol).linefeed = true) →
      Completed profile state next stop (.lineComment text) .lineComment (commentPayload text)

theorem Takes.ne_idle {before after : Mode} (takes : Takes profile state fed before after) :
    before ≠ .idle := by
  cases takes with
  | escape _ busy => exact busy
  | _ => simp

theorem Completed.ne_idle {next : Option Fed} {before : Mode} {kind : Kind} {payload : Payload}
    (completed : Completed profile state next stop before kind payload) : before ≠ .idle := by
  cases completed <;> simp

/-- A block comment is complete at `stop`, with the closing marker in its text. -/
def closeBlock (profile : Profile ρ) (state : ScanState ρ) (text : List Char) (crossed : Bool)
    (stop : Nat) : Reaction ρ :=
  let closed := state.finish .blockComment stop
    (commentPayload (text.drop profile.blockClose.length))
  { closed with state := { closed.state with lineStart := closed.state.lineStart || crossed } }

variable [Literal.Reader ρ]

/-- What the machine answers to a symbol, or to the end of the input at `stop` when there is
none. -/
inductive Answered (profile : Profile ρ) (stop : Nat) (state : ScanState ρ) :
    Option Fed → Reaction ρ → Prop
  | between {fed : Fed} : state.mode = .idle →
      Answered profile stop state (some fed) (dispatch profile state fed)
  | takes {fed : Fed} {before after : Mode} : state.mode = before →
      Takes profile state fed before after →
      Answered profile stop state (some fed) (state.become after)
  | completes {next : Option Fed} {before : Mode} {kind : Kind} {payload : Payload} :
      state.mode = before →
      Completed profile state next (next.elim stop fun fed => fed.offset) before kind payload →
      Answered profile stop state next
        ((state.finish kind (next.elim stop fun fed => fed.offset) payload).feed next.toList)
  | linefeed {fed : Fed} : state.mode = .blank '\r' → fed.symbol = '\n' →
      Answered profile stop state (some fed) (state.finish .linefeed fed.stop)
  | resolves {node : NodeId} {pending : List Located} {next : Option Fed} :
      state.mode = .numberPrefix node pending →
      (∀ fed ∈ next, profile.numberPrefixes.advance node fed.symbol = none) →
      Answered profile stop state next (resolvePrefix profile state node pending next)
  | releases {value : Numeral} {dot : Nat} {hasInteger : Bool} {next : Option Fed} :
      state.mode = .maybeFloat value dot hasInteger →
      (∀ fed ∈ next, digitValue? fed.symbol value.base = none) →
      Answered profile stop state next ((releaseDot state value dot hasInteger).feed next.toList)
  | extendsOperator {walk : Walk} {fed : Fed} {node : NodeId} : state.mode = .operator walk →
      beginsContinuation profile state fed = false →
      profile.operators.advance walk.node fed.symbol = some node →
      Answered profile stop state (some fed)
        (reachOperator profile state node (walk.pending ++ [fed.toLocated]) walk.terminal)
  | endsOperator {walk : Walk} {next : Option Fed} : state.mode = .operator walk →
      (∀ fed ∈ next, beginsContinuation profile state fed = false ∧
        profile.operators.advance walk.node fed.symbol = none) →
      Answered profile stop state next
        ((stuckOperator profile state walk (next.elim stop fun fed => fed.offset)).feed next.toList)
  | closesBlock {text : List Char} {seen : Nat} {crossed : Bool} {fed : Fed} :
      state.mode = .blockComment text seen crossed →
      profile.blockClose.length ≤ markerSeen profile.blockClose seen fed.symbol →
      Answered profile stop state (some fed)
        (closeBlock profile state (fed.symbol :: text)
          (crossed || (state.classify profile fed.symbol).linefeed) fed.stop)
  | unclosed {text : List Char} {seen : Nat} {crossed : Bool} :
      state.mode = .blockComment text seen crossed →
      Answered profile stop state none (state.reject ⟨state.tokenStart, stop⟩)
  | extendsIntroduction {walk : Walk} {fed : Fed} {node : NodeId} :
      state.mode = .literalPrefix walk →
      profile.literals.advance walk.node fed.symbol = some node →
      Answered profile stop state (some fed)
        (reachLiteral profile state node (walk.pending ++ [fed.toLocated]) walk.terminal)
  | endsIntroduction {walk : Walk} {next : Option Fed} : state.mode = .literalPrefix walk →
      (∀ fed ∈ next, profile.literals.advance walk.node fed.symbol = none) →
      Answered profile stop state next ((stuckLiteral profile state walk).feed next.toList)
  | reads {number : Nat} {kind : Kind} {fed : Fed} : state.mode = .literal number kind →
      Answered profile stop state (some fed) (readLiteral profile state number kind fed)
  | closesLiteral {number : Nat} {kind : Kind} : state.mode = .literal number kind →
      Answered profile stop state none (closeLiteral state number kind stop)
  | joins {resume : Resume} {escape : Located} {carriage : Option Nat} {fed : Fed} :
      state.mode = .continuation resume escape carriage → fed.symbol = '\n' →
      Answered profile stop state (some fed) (joinLines state resume escape fed.stop)
  | joinsBefore {resume : Resume} {escape : Located} {carriage : Nat} {next : Option Fed} :
      state.mode = .continuation resume escape (some carriage) →
      (∀ fed ∈ next, fed.symbol ≠ '\n') →
      Answered profile stop state next
        ((joinLines state resume escape (symbolEnd '\r' carriage)).feed next.toList)
  | abandons {resume : Resume} {escape : Located} {next : Option Fed} :
      state.mode = .continuation resume escape none →
      (∀ fed ∈ next, fed.symbol ≠ '\n' ∧ fed.symbol ≠ '\r') →
      Answered profile stop state next
        ((abandonContinuation state resume escape).feed next.toList)

/-- Between tokens the machine answers to symbols alone. -/
theorem Answered.of_idle {next : Option Fed} {reaction : Reaction ρ}
    (answered : Answered profile stop state next reaction) (idle : state.mode = .idle) :
    ∃ fed, next = some fed ∧ reaction = dispatch profile state fed := by
  cases answered with
  | between => exact ⟨_, rfl, rfl⟩
  | takes mode takes => exact absurd (mode.symm.trans idle) takes.ne_idle
  | completes mode completed => exact absurd (mode.symm.trans idle) completed.ne_idle
  | linefeed mode | resolves mode | releases mode | extendsOperator mode | endsOperator mode
  | closesBlock mode | unclosed mode | extendsIntroduction mode | endsIntroduction mode
  | reads mode | closesLiteral mode | joins mode | joinsBefore mode | abandons mode =>
      simp [mode] at idle

/-! ## Waiting for a line terminator -/

omit [Literal.Reader ρ] in
/-- What the machine answers while it waits for what follows an escape symbol. -/
inductive Continued (state : ScanState ρ) (resume : Resume) (escape : Located) :
    Option Nat → Option Fed → Reaction ρ → Prop
  | joins {carriage : Option Nat} {fed : Fed} : fed.symbol = '\n' →
      Continued state resume escape carriage (some fed) (joinLines state resume escape fed.stop)
  | joinsBefore {carriage : Nat} {next : Option Fed} : (∀ fed ∈ next, fed.symbol ≠ '\n') →
      Continued state resume escape (some carriage) next
        ((joinLines state resume escape (symbolEnd '\r' carriage)).feed next.toList)
  | carriage {fed : Fed} : fed.symbol = '\r' →
      Continued state resume escape none (some fed)
        (state.become (.continuation resume escape (some fed.offset)))
  | abandons {next : Option Fed} : (∀ fed ∈ next, fed.symbol ≠ '\n' ∧ fed.symbol ≠ '\r') →
      Continued state resume escape none next
        ((abandonContinuation state resume escape).feed next.toList)

theorem Answered.continued {next : Option Fed} {reaction : Reaction ρ}
    (answered : Answered profile stop state next reaction) {resume : Resume} {escape : Located}
    {carriage : Option Nat} (mode : state.mode = .continuation resume escape carriage) :
    Continued state resume escape carriage next reaction := by
  cases answered with
  | joins same feed =>
      obtain ⟨rfl, rfl, rfl⟩ := Mode.continuation.inj (mode.symm.trans same)
      exact .joins feed
  | joinsBefore same noFeed =>
      obtain ⟨rfl, rfl, rfl⟩ := Mode.continuation.inj (mode.symm.trans same)
      exact .joinsBefore noFeed
  | abandons same others =>
      obtain ⟨rfl, rfl, rfl⟩ := Mode.continuation.inj (mode.symm.trans same)
      exact .abandons others
  | takes same takes =>
      obtain rfl := mode.symm.trans same
      cases takes with
      | @escape _ other resumes => cases other <;> contradiction
      | carriage isCarriage => exact .carriage isCarriage
  | completes same completed =>
      rw [← same, mode] at completed
      cases completed
  | between same | linefeed same | resolves same | releases same | extendsOperator same
  | endsOperator same | closesBlock same | unclosed same | extendsIntroduction same
  | endsIntroduction same | reads same | closesLiteral same =>
      simp [same] at mode

/-! ## Symbols -/

theorem answered_readBlank {run : Char} (mode : state.mode = .blank run) :
    Answered profile stop state (some fed) (readBlank state run fed) := by
  unfold readBlank
  split
  next carriage =>
    subst carriage
    split
    next feed => exact .linefeed mode feed
    next other => exact .completes mode (.carriage (by simpa using other))
  next plain =>
    split
    next same => exact .takes mode (.blank plain same)
    next other => exact .completes mode (.blank plain (by simpa using other))

theorem answered_readIdentifier (mode : state.mode = .identifier) :
    Answered profile stop state (some fed) (readIdentifier profile state fed) := by
  unfold readIdentifier
  split
  next begins =>
    have resumes : Mode.identifier = Resume.identifier.mode := rfl
    exact .takes mode (.escape resumes (by simp) begins)
  next plain =>
    have plain := eq_false_of_ne_true plain
    split
    next inner => exact .takes mode (.identifier plain inner)
    next other => exact .completes mode (.identifier (by simpa [plain] using other))

theorem answered_readNumberPrefix {node : NodeId} {pending : List Located}
    (mode : state.mode = .numberPrefix node pending) :
    Answered profile stop state (some fed) (readNumberPrefix profile state node pending fed) := by
  unfold readNumberPrefix
  split
  next edge => exact .takes mode (.numberPrefix edge)
  next stuck => exact .resolves mode (by simpa using stuck)

theorem answered_readNumber {value : Numeral} (mode : state.mode = .number value) :
    Answered profile stop state (some fed) (readNumber profile state value fed) := by
  unfold readNumber
  split
  next worth => exact .takes mode (.digit worth)
  next worthless =>
    split
    next separates => exact .takes mode (.separator worthless separates)
    next other =>
      have other := eq_false_of_ne_true other
      split
      next point => exact .takes mode (.point other point)
      next none => exact .completes mode (.number (by simpa [worthless, other] using none))

theorem answered_readMaybeFloat {value : Numeral} {dot : Nat} {hasInteger : Bool}
    (mode : state.mode = .maybeFloat value dot hasInteger) :
    Answered profile stop state (some fed) (readMaybeFloat state value dot hasInteger fed) := by
  unfold readMaybeFloat
  split
  next worth => exact .takes mode (.firstFraction worth)
  next worthless => exact .releases mode (by simpa using worthless)

theorem answered_readFloat {value : Numeral} (mode : state.mode = .float value) :
    Answered profile stop state (some fed) (readFloat profile state value fed) := by
  unfold readFloat
  split
  next worth => exact .takes mode (.fraction worth)
  next worthless =>
    split
    next separates => exact .takes mode (.fractionSeparator worthless separates)
    next other => exact .completes mode (.float (by simpa [worthless] using other))

theorem answered_readOperator {walk : Walk} (mode : state.mode = .operator walk) :
    Answered profile stop state (some fed) (readOperator profile state walk fed) := by
  unfold readOperator
  split
  next begins =>
    have resumes : Mode.operator walk = (Resume.operator walk).mode := rfl
    exact .takes mode (.escape resumes (by simp) begins)
  next plain =>
    have plain := eq_false_of_ne_true plain
    split
    next edge => exact .extendsOperator mode plain edge
    next stuck => exact .endsOperator mode (by simpa [plain] using stuck)

theorem answered_readLineComment {text : List Char} (mode : state.mode = .lineComment text) :
    Answered profile stop state (some fed) (readLineComment profile state text fed) := by
  unfold readLineComment
  split
  next begins =>
    have resumes : Mode.lineComment text = (Resume.lineComment text).mode := rfl
    exact .takes mode (.escape resumes (by simp) begins)
  next plain =>
    have plain := eq_false_of_ne_true plain
    split
    next lineEnd => exact .completes mode (.lineComment (by simpa [plain] using lineEnd))
    next inner => exact .takes mode (.lineComment plain (eq_false_of_ne_true inner))

theorem answered_readBlockComment {text : List Char} {seen : Nat} {crossed : Bool}
    (mode : state.mode = .blockComment text seen crossed) :
    Answered profile stop state (some fed)
      (readBlockComment profile state text seen crossed fed) := by
  unfold readBlockComment
  dsimp only
  split
  next inner => exact .takes mode (.blockComment inner)
  next whole => exact .closesBlock mode (Nat.le_of_not_lt whole)

theorem answered_readLiteralPrefix {walk : Walk} (mode : state.mode = .literalPrefix walk) :
    Answered profile stop state (some fed) (readLiteralPrefix profile state walk fed) := by
  unfold readLiteralPrefix
  split
  next edge => exact .extendsIntroduction mode edge
  next stuck => exact .endsIntroduction mode (by simpa using stuck)

theorem answered_continueLine {resume : Resume} {escape : Located} {carriage : Option Nat}
    (mode : state.mode = .continuation resume escape carriage) :
    Answered profile stop state (some fed) (continueLine state resume escape carriage fed) := by
  unfold continueLine
  split
  next feed => exact .joins mode feed
  next noFeed =>
    split
    next => exact .joinsBefore mode (by simpa using noFeed)
    next =>
      split
      next isCarriage => exact .takes mode (.carriage isCarriage)
      next other => exact .abandons mode (by simpa [noFeed] using other)

/-- What the machine answers to a symbol. -/
theorem answered_react (profile : Profile ρ) (stop : Nat) (state : ScanState ρ) (fed : Fed) :
    Answered profile stop state (some fed) (react profile state fed) := by
  unfold react
  cases mode : state.mode with
  | idle => exact .between mode
  | blank run => exact answered_readBlank mode
  | identifier => exact answered_readIdentifier mode
  | numberPrefix node pending => exact answered_readNumberPrefix mode
  | number value => exact answered_readNumber mode
  | maybeFloat value dot hasInteger => exact answered_readMaybeFloat mode
  | float value => exact answered_readFloat mode
  | operator walk => exact answered_readOperator mode
  | lineComment text => exact answered_readLineComment mode
  | blockComment text seen crossed => exact answered_readBlockComment mode
  | literalPrefix walk => exact answered_readLiteralPrefix mode
  | literal number kind => exact .reads mode
  | continuation resume escape carriage => exact answered_continueLine mode

/-! ## The end of the input -/

theorem Answered.of_feed_nil {reaction : Reaction ρ}
    (answered : Answered profile stop state none (reaction.feed (none : Option Fed).toList)) :
    Answered profile stop state none reaction := by
  simpa using answered

/-- What the machine answers to the end of the input. -/
theorem answered_flush? {reaction : Reaction ρ}
    (flushed : flush? profile state stop = some reaction) :
    Answered profile stop state none reaction := by
  unfold flush? at flushed
  generalize mode : state.mode = reading at flushed
  cases reading with
  | idle => contradiction
  | blank run =>
      obtain rfl := Option.some.inj flushed
      split
      next carriage =>
        subst carriage
        exact .of_feed_nil (.completes mode (.carriage (by simp)))
      next plain => exact .of_feed_nil (.completes mode (.blank plain (by simp)))
  | identifier =>
      obtain rfl := Option.some.inj flushed
      exact .of_feed_nil (.completes mode (.identifier (by simp)))
  | numberPrefix node pending =>
      obtain rfl := Option.some.inj flushed
      exact .resolves mode (by simp)
  | number value =>
      obtain rfl := Option.some.inj flushed
      exact .of_feed_nil (.completes mode (.number (by simp)))
  | maybeFloat value dot hasInteger =>
      obtain rfl := Option.some.inj flushed
      exact .of_feed_nil (.releases mode (by simp))
  | float value =>
      obtain rfl := Option.some.inj flushed
      exact .of_feed_nil (.completes mode (.float (by simp)))
  | operator walk =>
      obtain rfl := Option.some.inj flushed
      exact .of_feed_nil (.endsOperator mode (by simp))
  | lineComment text =>
      obtain rfl := Option.some.inj flushed
      exact .of_feed_nil (.completes mode (.lineComment (by simp)))
  | blockComment text seen crossed =>
      obtain rfl := Option.some.inj flushed
      exact .unclosed mode
  | literalPrefix walk =>
      obtain rfl := Option.some.inj flushed
      exact .of_feed_nil (.endsIntroduction mode (by simp))
  | literal number kind =>
      obtain rfl := Option.some.inj flushed
      exact .closesLiteral mode
  | continuation resume escape carriage =>
      cases carriage with
      | some offset =>
          obtain rfl := Option.some.inj flushed
          exact .of_feed_nil (.joinsBefore mode (by simp))
      | none =>
          obtain rfl := Option.some.inj flushed
          exact .of_feed_nil (.abandons mode (by simp))

/-- Every reaction answers to the first symbol that is to be fed, or to the end of the input
behind the last one. -/
theorem answered_next {closing : Option Nat} {queue rest : List Fed} {reaction : Reaction ρ}
    (next : nextReaction? profile closing state queue = some (reaction, rest)) :
    ∃ symbol : Option Fed, queue = symbol.toList ++ rest ∧ (symbol = none → rest = []) ∧
      Answered profile (closing.getD 0) state symbol reaction := by
  cases queue with
  | cons fed queue =>
      obtain ⟨rfl, rfl⟩ := nextReaction?_cons next
      exact ⟨some fed, rfl, by simp, answered_react profile _ state fed⟩
  | nil =>
      obtain ⟨stop, rfl, flushed, rfl⟩ := nextReaction?_nil next
      exact ⟨none, rfl, fun _ => rfl, answered_flush? flushed⟩

/-- To keep a property of the state alone, every answer has to. -/
theorem keeps_of_answers {closing : Option Nat} {property : ScanState ρ → Prop}
    (kept : ∀ {stop : Nat} {state : ScanState ρ} {next : Option Fed} {reaction : Reaction ρ},
      property state → Answered profile stop state next reaction → property reaction.state) :
    Keeps profile closing fun config => property config.state := by
  rintro ⟨state, queue⟩ reaction rest holds next
  obtain ⟨_, _, _, answered⟩ := answered_next next
  exact kept holds answered

end Lexing.Scan
