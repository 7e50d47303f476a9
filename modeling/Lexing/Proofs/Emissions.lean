import Lexing.Proofs.Changes
import Lexing.Proofs.Truncation

/-!
# What tokens are made of

A reaction reports at most one token.  The kind of this token is one that all profiles
share, or it comes from a registration, and the payload is the one that belongs to it.
The token says whether the line was fresh before it, and only line terminators and block
comments that cross a line make it fresh again.
-/

namespace Lexing

variable {ρ : Type}

/-- The kinds of tokens without a payload that all profiles share. -/
def Kind.plain : List Kind :=
  [unexpected, linefeed, space, tab, formFeed, identifier, strayPunct, escape, lineContinuation,
    fin]

/-- The kind of a number is registered for a prefix, or it is that of numbers without one. -/
def Numeral.Counts (profile : Profile ρ) (value : Numeral) : Prop :=
  value.kind = profile.defaultNumber ∨
    ∃ sequence, profile.numberPrefixKind? sequence = some value.kind

theorem Numeral.Counts.isNumber {profile : Profile ρ} {value : Numeral}
    (counts : value.Counts profile) (sound : profile.Sound) : value.kind.isNumber = true := by
  rcases counts with default | ⟨sequence, registered⟩
  · rw [default]
    exact sound.defaultNumber
  · obtain ⟨node, _, known⟩ := Trie.exists_of_lookup? registered
    exact (sound.numberKinds node _ known).1

/-- The kinds and payloads of tokens that end at `stop`. -/
inductive Profile.Issues (profile : Profile ρ) (stop : Nat) : Kind → Payload → Prop
  | plain {kind : Kind} : kind ∈ Kind.plain → profile.Issues stop kind .empty
  | bracket {sequence : String} {kind : Kind} :
      profile.brackets.lookup? sequence.toList = some kind → profile.Issues stop kind .empty
  | operator {sequence : String} {kind : Kind} : profile.operatorKind? sequence = some kind →
      kind.isOperator = true → profile.Issues stop kind .empty
  | fallback {marker : String} {kind : Kind} : profile.fallbackKind? marker = some kind →
      kind.isOperator = true → profile.Issues stop kind .empty
  | number {value : Numeral} : value.Counts profile →
      profile.Issues stop value.finalKind (value.payload stop)
  | lineComment (text : String) : profile.Issues stop .lineComment (.comment text)
  | blockComment (text : String) : profile.Issues stop .blockComment (.comment text)
  | literal {sequence : String} {kind : Kind} (text : String) :
      profile.literalKind? sequence = some kind → profile.Issues stop kind (.literal text)

/-- What a mode has collected for the token that is read: the kind of a number or of a
literal, or the text of a block comment with what it knows about it. -/
def Mode.Collects (profile : Profile ρ) (breaks : Char → Bool) : Mode → Prop
  | .number value | .maybeFloat value _ _ | .float value => value.Counts profile
  | .literal _ kind => ∃ sequence, profile.literalKind? sequence = some kind
  | .blockComment text seen crossed =>
      crossed = text.any breaks ∧ (profile.blockClose.take seen).reverse <+: text
  | _ => True

def ScanState.breaks (profile : Profile ρ) (state : ScanState ρ) (symbol : Char) : Bool :=
  (state.classify profile symbol).linefeed

theorem Walk.Traces.terminal_found {trie : Trie} {walk : Walk} {node : NodeId} {count : Nat}
    (traces : walk.Traces trie) (terminal : walk.terminal = some (node, count)) :
    ∃ symbols, trie.find? symbols = some node ∧ symbols ≠ [] := by
  have deepest := traces.deepest
  rw [terminal] at deepest
  obtain ⟨positive, below, walked, _⟩ := deepest
  refine ⟨_, walked, ?_⟩
  rw [Ne, List.take_eq_nil_iff]
  rintro (zero | empty)
  · omega
  · exact traces.nonempty (by simpa using empty)

namespace Scan

/-- The token that a reaction reports, if there is one, and what it does to the line. -/
inductive Emits (profile : Profile ρ) (before : ScanState ρ) (reaction : Reaction ρ) : Prop
  | silent : tokensOf reaction.reports = [] → reaction.state.lineStart = before.lineStart →
      Emits profile before reaction
  | token {kind : Kind} {span : Span} {payload : Payload} :
      profile.Issues span.stop kind payload → kind ≠ .blockComment →
      tokensOf reaction.reports = [{ atLineStart := before.lineStart, kind, span, payload }] →
      reaction.state.lineStart = before.freshAfter kind → Emits profile before reaction
  | blockComment {text : List Char} {span : Span} :
      tokensOf reaction.reports = [{
        atLineStart := before.lineStart
        kind := .blockComment
        span
        payload := .comment (String.ofList text) }] →
      reaction.state.lineStart =
        (before.lineStart || (text ++ profile.blockClose).any (before.breaks profile)) →
      Emits profile before reaction

/-- What a reaction makes of a state. -/
structure Produces (profile : Profile ρ) (before : ScanState ρ) (reaction : Reaction ρ) :
    Prop where
  emits : Emits profile before reaction
  collects : reaction.state.mode.Collects profile (before.breaks profile)

variable {profile : Profile ρ} {state : ScanState ρ} {node : NodeId} {fed : Fed}
  {reaction : Reaction ρ} {stop : Nat}

theorem Produces.feed {symbols : List Fed} (produces : Produces profile state reaction) :
    Produces profile state (reaction.feed symbols) where
  collects := produces.collects
  emits := by
    cases produces.emits with
    | silent told fresh => exact .silent told fresh
    | token issues kind told fresh => exact .token issues kind told fresh
    | blockComment told fresh => exact .blockComment told fresh

theorem Produces.notify (produces : Produces profile state reaction) {report : Report}
    (remark : report.event.token? = none) : Produces profile state (reaction.notify report) where
  collects := produces.collects
  emits := by
    have same : tokensOf (reaction.notify report).reports = tokensOf reaction.reports := by
      simp [tokensOf, remark]
    cases produces.emits with
    | silent told fresh => exact .silent (same.trans told) fresh
    | token issues kind told fresh => exact .token issues kind (same.trans told) fresh
    | blockComment told fresh => exact .blockComment (same.trans told) fresh

theorem produces_become {mode : Mode} (collects : mode.Collects profile (state.breaks profile)) :
    Produces profile state (state.become mode) :=
  ⟨.silent rfl rfl, collects⟩

theorem produces_emit {kind : Kind} {span : Span} {payload : Payload}
    (issues : profile.Issues span.stop kind payload) (named : kind ≠ .blockComment)
    (idle : state.mode = .idle) : Produces profile state (state.emit kind span payload) :=
  ⟨.token issues named rfl rfl, by simp [idle, Mode.Collects]⟩

theorem produces_finish {kind : Kind} {stop : Nat} {payload : Payload}
    (issues : profile.Issues stop kind payload) (named : kind ≠ .blockComment) :
    Produces profile state (state.finish kind stop payload) := by
  have issues : profile.Issues (Span.mk state.tokenStart stop).stop kind payload := issues
  exact ⟨.token issues named rfl rfl, trivial⟩

theorem produces_plain {kind : Kind} (plain : kind ∈ Kind.plain) (stop : Nat) :
    Produces profile state (state.finish kind stop) := by
  refine produces_finish (.plain plain) ?_
  rintro rfl
  exact absurd plain (by decide)

theorem breaks_of_classes {other : ScanState ρ} (classes : other.ownClasses = state.ownClasses) :
    other.breaks profile = state.breaks profile := by
  funext symbol
  simp only [ScanState.breaks, ScanState.classify, classes]

theorem Produces.of_same {other : ScanState ρ} (produces : Produces profile other reaction)
    (fresh : other.lineStart = state.lineStart) (classes : other.ownClasses = state.ownClasses) :
    Produces profile state reaction := by
  have breaks : other.breaks profile = state.breaks profile := breaks_of_classes classes
  obtain ⟨emits, collects⟩ := produces
  rw [breaks] at collects
  refine ⟨?_, collects⟩
  cases emits with
  | silent told same => exact .silent told (same.trans fresh)
  | token issues kind told same =>
      rw [fresh] at told
      exact .token issues kind told (by simpa only [ScanState.freshAfter, fresh] using same)
  | blockComment told same =>
      rw [fresh] at told
      rw [fresh, breaks] at same
      exact .blockComment told same

theorem produces_finishNumber (sound : profile.Sound) {value : Numeral}
    (counts : value.Counts profile) (stop : Nat) :
    Produces profile state (state.finishNumber value stop) := by
  have category := Numeral.category_finalKind (counts.isNumber sound)
  exact produces_finish (.number counts) (Kind.ne_of_category category (by decide))

theorem produces_reject (span : Span) (complaint : Option String) :
    Produces profile state (state.reject span complaint) := by
  have plain : profile.Issues span.stop .unexpected .empty := .plain (by decide)
  have token : Produces profile state ((state.enter .idle).emit .unexpected span) :=
    ⟨.token plain (by decide) rfl rfl, trivial⟩
  exact token.notify rfl

theorem produces_failLiteral (span : Span) (message : String) :
    Produces profile state (failLiteral state span message) :=
  (produces_reject span _).notify rfl

theorem produces_awaitLineEnd (resume : Resume) :
    Produces profile state (awaitLineEnd state resume fed) :=
  produces_become trivial

/-! ## Operators -/

section Operators

variable {symbols : List Char} (sound : profile.Sound)
  (found : profile.operators.find? symbols = some node) (nonempty : symbols ≠ [])

include sound found nonempty

theorem closeWalk_produces (ended : (profile.operators.kind? node).isSome = true) (stop : Nat) :
    Produces profile state (closeWalk profile state node stop) := by
  have registered : ∀ {kind : Kind}, profile.operators.kind? node = some kind →
      profile.operatorKind? (String.ofList symbols) = some kind := fun known => by
    rw [Profile.operatorKind?, String.toList_ofList, Trie.lookup?_of_find? found nonempty, known]
  have named : ∀ {kind : Kind}, kind.isOperator = true → kind ≠ .blockComment :=
    fun operator => Kind.ne_of_category (Kind.category_of_isOperator operator) (by decide)
  have closes : ClosesWalk profile state node stop _ := closeWalk_ends sound ended stop
  generalize closeWalk profile state node stop = reaction at closes ⊢
  cases closes with
  | operator known operator =>
      exact produces_finish (.operator (registered known) operator) (named operator)
  | @demoted fallback present =>
      have operator := sound.fallbackOperator present
      have marker : profile.fallbackKind? (String.ofList symbols) = some fallback := by
        rw [Profile.fallbackKind?, if_neg (by simpa using nonempty), String.toList_ofList, found,
          Option.bind_some, present]
      exact produces_finish (.fallback marker operator) (named operator)
  | lineComment => exact produces_become trivial
  | blockComment => exact produces_become ⟨rfl, by simp⟩

theorem reachOperator_produces {pending : List Located} {terminal : Option (NodeId × Nat)}
    (ended : profile.operators.hasChildren node = false →
      (profile.operators.kind? node).isSome = true) :
    Produces profile state (reachOperator profile state node pending terminal) := by
  unfold reachOperator
  split
  case isTrue => exact produces_become trivial
  case isFalse childless =>
    exact (closeWalk_produces sound found nonempty (ended (by simpa using childless)) _).feed

end Operators

theorem stuckOperator_produces (sound : profile.Sound) {walk : Walk}
    (traces : walk.Traces profile.operators) (stop : Nat) :
    Produces profile state (stuckOperator profile state walk stop) := by
  have stuck := stuckOperator_stuck profile state walk stop
  generalize stuckOperator profile state walk stop = reaction at stuck ⊢
  cases stuck with
  | passed terminal =>
      obtain ⟨symbols, found, nonempty⟩ := traces.terminal_found terminal
      exact (closeWalk_produces sound found nonempty (traces.terminal_bound terminal).2.2 _).feed
  | rejected => exact ((produces_reject _ _).notify rfl).feed
  | empty => exact produces_become trivial

/-! ## Numbers -/

theorem counts_default (profile : Profile ρ) :
    (Numeral.ofKind profile.defaultNumber).Counts profile :=
  Or.inl rfl

theorem resolvePrefix_produces (sound : profile.Sound) {pending : List Located}
    (nonempty : pending ≠ [])
    (found : profile.numberPrefixes.find? (pending.map Located.symbol) = some node)
    (next : Option Fed) :
    Produces profile state (resolvePrefix profile state node pending next) := by
  have plain : (defaultNumeral profile pending).Counts profile :=
    Or.inl (defaultNumeral_kind profile pending)
  have registered : ∀ {kind : Kind}, profile.numberPrefixes.kind? node = some kind →
      (Numeral.ofKind kind).Counts profile := by
    intro kind known
    refine Or.inr ⟨String.ofList (pending.map Located.symbol), ?_⟩
    rw [Profile.numberPrefixKind?, String.toList_ofList,
      Trie.lookup?_of_find? found (by simpa using nonempty)]
    exact known
  obtain ⟨_, resolved, answer⟩ := resolvePrefix_resolved profile state node pending next
  rw [answer]
  cases resolved with
  | spanless => exact Produces.feed (produces_become trivial)
  | opens known => exact Produces.feed (produces_become (registered known))
  | goesOn => exact Produces.feed (produces_become plain)
  | alone _ known => exact (produces_finishNumber sound (registered known) _).feed
  | digits => exact (produces_finishNumber sound plain _).feed
  | rejected => exact (produces_reject _ _).feed

theorem releaseDot_produces (sound : profile.Sound) {value : Numeral}
    (counts : value.Counts profile) (dot : Nat) (hasInteger : Bool) :
    Produces profile state (releaseDot state value dot hasInteger) := by
  cases hasInteger with
  | true => exact (produces_finishNumber sound counts dot).feed
  | false => exact Produces.feed (produces_become trivial)

/-! ## Continuations -/

theorem collects_resume (resume : Resume) (breaks : Char → Bool) :
    resume.mode.Collects profile breaks := by
  cases resume <;> trivial

theorem joinLines_produces (resume : Resume) (escape : Located) (stop : Nat) :
    Produces profile state (joinLines state resume escape stop) := by
  cases resume with
  | idle =>
      have plain : profile.Issues (Span.mk escape.offset stop).stop .lineContinuation .empty :=
        .plain (by decide)
      exact ⟨.token plain (by decide) rfl rfl, trivial⟩
  | _ => exact ⟨.silent rfl rfl, trivial⟩

theorem abandonContinuation_produces (resume : Resume) (escape : Located) :
    Produces profile state (abandonContinuation state resume escape) :=
  ⟨.silent rfl rfl, collects_resume _ _⟩

/-! ## Comments -/

theorem collects_blockComment {text : List Char} {seen : Nat} {crossed : Bool}
    (collects : (Mode.blockComment text seen crossed).Collects profile (state.breaks profile))
    (symbol : Char) :
    (Mode.blockComment (symbol :: text) (markerSeen profile.blockClose seen symbol)
      (crossed || (state.classify profile symbol).linefeed)).Collects profile
        (state.breaks profile) := by
  obtain ⟨lines, starts⟩ := collects
  refine ⟨?_, marker_prefix starts⟩
  rw [List.any_cons, Bool.or_comm, lines]
  rfl

/-- The text of a block comment ends with the closing marker. -/
theorem closeBlock_produces {text : List Char} {seen : Nat} {crossed : Bool}
    (collects : (Mode.blockComment text seen crossed).Collects profile (state.breaks profile))
    (whole : profile.blockClose.length ≤ seen) (stop : Nat) :
    Produces profile state (closeBlock profile state text crossed stop) := by
  obtain ⟨lines, starts⟩ := collects
  rw [List.take_of_length_le whole] at starts
  obtain ⟨rest, rfl⟩ := starts
  have content : (profile.blockClose.reverse ++ rest).drop profile.blockClose.length = rest :=
    List.drop_left' (List.length_reverse ..)
  refine ⟨@Emits.blockComment _ _ _ _ rest.reverse ⟨state.tokenStart, stop⟩ ?_ ?_, trivial⟩
  · unfold closeBlock
    rw [content]
    rfl
  have kept : (state.enter .idle).freshAfter .blockComment = state.lineStart := rfl
  rw [List.any_append] at lines
  rw [List.any_append, List.any_reverse, Bool.or_comm (rest.any _), ← List.any_reverse]
  exact (congrArg (_ || ·) lines).trans (congrArg (· || _) kept)

/-! ## Literals -/

section Literals

variable [Literal.Reader ρ]

theorem openLiteral_produces (sound : profile.Sound) {symbols : List Char}
    (found : profile.literals.find? symbols = some node) (nonempty : symbols ≠ [])
    (ended : (profile.literals.kind? node).isSome = true) (introduction : List Located) :
    Produces profile state (openLiteral profile state node introduction) := by
  obtain ⟨number, kind, reader, known, _, _, opened⟩ :=
    openLiteral_eq sound state ended introduction
  rw [opened]
  refine ⟨.silent rfl rfl, String.ofList symbols, ?_⟩
  rw [Profile.literalKind?, String.toList_ofList, Trie.lookup?_of_find? found nonempty, known]

theorem reachLiteral_produces (sound : profile.Sound) {symbols : List Char}
    (found : profile.literals.find? symbols = some node) (nonempty : symbols ≠ [])
    (pending : List Located) (terminal : Option (NodeId × Nat)) :
    Produces profile state (reachLiteral profile state node pending terminal) := by
  have reached := reachLiteral_reached profile state node pending terminal
  generalize reachLiteral profile state node pending terminal = reaction at reached ⊢
  cases reached with
  | waits => exact produces_become trivial
  | opens ended => exact openLiteral_produces sound found nonempty ended _

theorem stuckLiteral_produces (sound : profile.Sound) {walk : Walk}
    (traces : walk.Traces profile.literals) :
    Produces profile state (stuckLiteral profile state walk) := by
  unfold stuckLiteral
  cases terminal : walk.terminal with
  | none => exact Produces.feed (produces_become trivial)
  | some passed =>
      obtain ⟨symbols, found, nonempty⟩ := traces.terminal_found terminal
      exact (openLiteral_produces sound found nonempty (traces.terminal_bound terminal).2.2 _).feed

variable {number : Nat} {kind : Kind}

section Content

variable (sound : profile.Sound)
  (introduced : ∃ sequence, profile.literalKind? sequence = some kind)

include sound introduced

theorem finishLiteral_produces (reader : ρ) (stop : Nat) :
    Produces profile state (finishLiteral state number kind reader stop) := by
  obtain ⟨sequence, registered⟩ := introduced
  obtain ⟨node, _, known⟩ := Trie.exists_of_lookup? registered
  have literal := sound.literalKinds node kind known
  refine Produces.of_same (produces_finish (.literal _ registered) ?_) rfl rfl
  exact Kind.ne_of_category (Kind.category_of_isLiteral literal) (by decide)

theorem readLiteral_produces (mode : state.mode = .literal number kind) :
    Produces profile state (readLiteral profile state number kind fed) := by
  have stays : Mode.Collects profile (state.breaks profile) state.mode := by
    rw [mode]
    exact introduced
  have finished : ∀ after : ρ, Produces profile state
      (finishLiteral (state.keepReader number after) number kind after fed.stop) := fun after =>
    (finishLiteral_produces sound introduced _ _).of_same rfl rfl
  have failed : ∀ (after : ρ) (span : Span) (message : String), Produces profile state
      (failLiteral (state.keepReader number after) span message) := fun _ _ _ =>
    (produces_failLiteral _ _).of_same rfl rfl
  have continued := readLiteral_continued profile state number kind fed
  generalize readLiteral profile state number kind fed = reaction at continued ⊢
  cases continued with
  | unread => exact Produces.feed (produces_become trivial)
  | proceeds | proceedsWith => exact ⟨.silent rfl rfl, stays⟩
  | stops => exact finished _
  | stopsWith => exact (finished _).notify rfl
  | failsBefore => exact (failed _ _ _).feed
  | fails => exact failed _ _ _

theorem closeLiteral_produces (stop : Nat) :
    Produces profile state (closeLiteral state number kind stop) := by
  have finished : ∀ after : ρ, Produces profile state
      (finishLiteral (state.keepReader number after) number kind after stop) := fun after =>
    (finishLiteral_produces sound introduced _ _).of_same rfl rfl
  have closed := closeLiteral_closed state number kind stop
  generalize closeLiteral state number kind stop = reaction at closed ⊢
  cases closed with
  | unread => exact produces_become trivial
  | stops => exact finished _
  | stopsWith => exact (finished _).notify rfl
  | fails => exact (produces_failLiteral _ _).of_same rfl rfl

end Content

/-! ## All reactions -/

theorem blankKind_plain (run : Char) : blankKind run ∈ Kind.plain := by
  unfold blankKind
  split
  · decide
  · split <;> decide

theorem dispatch_produces (sound : profile.Sound) (regular : profile.Regular)
    (idle : state.mode = .idle) (fed : Fed) :
    Produces profile state (dispatch profile state fed) := by
  suffices produces : Produces profile (starting state fed) (dispatch profile state fed) from
    produces.of_same rfl rfl
  have answer := dispatched profile state fed
  generalize dispatch profile state fed = reaction at answer ⊢
  have named : ∀ {kind : Kind}, kind ∈ Kind.plain → kind ≠ .blockComment := by
    rintro kind plain rfl
    exact absurd plain (by decide)
  have first : ∀ {trie : Trie} {node : NodeId}, trie.advance Trie.root fed.symbol = some node →
      trie.find? [fed.symbol] = some node := by
    intro trie node edge
    rw [Trie.find?, Trie.walkFrom_singleton, edge]
  cases answer with
  | continuation => exact produces_awaitLineEnd _
  | literal edge => exact reachLiteral_produces sound (first edge) (by simp) _ _
  | operator edge =>
      exact reachOperator_produces sound (first edge) (by simp)
        (sound.operators.ended_of_edge edge)
  | single known =>
      rcases known with rfl | rfl | rfl | ⟨node, found⟩
      · exact produces_emit (.plain (by decide)) (by decide) idle
      · exact produces_emit (.plain (by decide)) (by decide) idle
      · exact produces_emit (.plain (by decide)) (by decide) idle
      · obtain ⟨sequence, _, known⟩ := regular.brackets.exists_lookup? found
        have registered : profile.brackets.lookup? (String.ofList sequence).toList = some _ :=
          (congrArg _ String.toList_ofList).trans known
        have other := Kind.ne_of_category (sound.bracketKinds node _ found)
          (show Kind.blockComment.category ≠ .bracket by decide)
        exact produces_emit (.bracket registered) other idle
  | reject => exact produces_reject _ _
  | number digit => exact produces_become (Or.inl (Numeral.pushDigit_kind _ _))
  | point => exact produces_become (counts_default profile)
  | blank | numberPrefix | identifier => exact produces_become trivial

omit [Literal.Reader ρ] in
theorem Takes.produces {before after : Mode} (takes : Takes profile state fed before after)
    (collects : before.Collects profile (state.breaks profile)) :
    Produces profile state (state.become after) := by
  refine produces_become ?_
  cases takes with
  | digit => rwa [Mode.Collects, Numeral.Counts, Numeral.pushDigit_kind]
  | firstFraction | fraction => rwa [Mode.Collects, Numeral.Counts, Numeral.pushFractionDigit_kind]
  | separator | point | fractionSeparator => exact collects
  | blockComment => exact collects_blockComment collects _
  | blank | identifier | numberPrefix | lineComment | escape | carriage => trivial

omit [Literal.Reader ρ] in
theorem Completed.produces {next : Option Fed} {before : Mode} {payload : Payload}
    (completed : Completed profile state next stop before kind payload) (sound : profile.Sound)
    (collects : before.Collects profile (state.breaks profile)) :
    Produces profile state (state.finish kind stop payload) := by
  cases completed with
  | carriage | identifier => exact produces_plain (by decide) _
  | blank => exact produces_plain (blankKind_plain _) _
  | number | float => exact produces_finishNumber sound collects _
  | lineComment => exact produces_finish (.lineComment _) (by decide)

/-- What the machine knows about a mode when all reactions so far were its own. -/
structure Knows (profile : Profile ρ) (state : ScanState ρ) : Prop where
  valid : state.Valid profile
  collects : state.mode.Collects profile (state.breaks profile)

/-- Every answer reports at most one token, made of what the mode has collected. -/
theorem Answered.produces {next : Option Fed}
    (answered : Answered profile stop state next reaction) (sound : profile.Sound)
    (regular : profile.Regular) (knows : Knows profile state) :
    Produces profile state reaction := by
  obtain ⟨valid, collects⟩ := knows
  unfold ScanState.Valid at valid
  cases answered with
  | between mode => exact dispatch_produces sound regular mode _
  | takes mode takes => exact takes.produces (mode ▸ collects)
  | completes mode completed => exact (completed.produces sound (mode ▸ collects)).feed
  | linefeed => exact produces_plain (by decide) _
  | resolves mode =>
      rw [mode] at valid
      exact resolvePrefix_produces sound valid.1 valid.2 _
  | releases mode =>
      rw [mode] at collects
      exact (releaseDot_produces sound collects _ _).feed
  | extendsOperator mode _ edge =>
      rw [mode] at valid
      exact reachOperator_produces sound (Trie.find?_snoc valid.reaches edge) (by simp)
        (sound.operators.ended_of_edge edge)
  | endsOperator mode =>
      rw [mode] at valid
      exact (stuckOperator_produces sound valid _).feed
  | closesBlock mode whole =>
      rw [mode] at collects
      exact closeBlock_produces (collects_blockComment collects _) whole _
  | unclosed => exact produces_reject _ _
  | extendsIntroduction mode edge =>
      rw [mode] at valid
      exact reachLiteral_produces sound (Trie.find?_snoc valid.reaches edge) (by simp) _ _
  | endsIntroduction mode =>
      rw [mode] at valid
      exact (stuckLiteral_produces sound valid).feed
  | reads mode =>
      rw [mode] at collects
      exact readLiteral_produces sound collects mode
  | closesLiteral mode =>
      rw [mode] at collects
      exact closeLiteral_produces sound collects _
  | joins => exact joinLines_produces _ _ _
  | joinsBefore => exact (joinLines_produces _ _ _).feed
  | abandons => exact (abandonContinuation_produces _ _).feed

/-! ## Whole scans -/

theorem Answered.breaks {next : Option Fed} (answered : Answered profile stop state next reaction) :
    reaction.state.breaks profile = state.breaks profile :=
  breaks_of_classes answered.ownClasses

theorem Answered.knows {next : Option Fed} (answered : Answered profile stop state next reaction)
    (sound : profile.Sound) (regular : profile.Regular) (knows : Knows profile state) :
    Knows profile reaction.state where
  valid := answered.valid sound knows.valid
  collects := by
    rw [answered.breaks]
    exact (answered.produces sound regular knows).collects

omit [Literal.Reader ρ] in
theorem knows_reset (profile : Profile ρ) (state : ScanState ρ) : Knows profile state.reset :=
  ⟨ScanState.valid_idle rfl, trivial⟩

/-- What holds before all tokens, and is kept by every token that the machine can make,
holds of all tokens of a scan. -/
theorem heard_induction (made : profile.Made) (state : ScanState ρ)
    (property : List Token → ScanState ρ → Prop) (start : property [] state.reset)
    (step : ∀ {told : List Token} {current : ScanState ρ} {reaction : Reaction ρ},
      property told current → Emits profile current reaction →
      reaction.state.breaks profile = current.breaks profile →
      property (told ++ tokensOf reaction.reports) reaction.state)
    (source : String) :
    ∃ last, property ((heard profile state source).filterMap Event.token?) last := by
  have remembers : Remembers profile fun told current =>
      Knows profile current ∧ property (tokensOf told) current := by
    have keeps : ∀ {told : List Report} {current : ScanState ρ} {stop : Nat} {next : Option Fed}
        {reaction : Reaction ρ}, Knows profile current ∧ property (tokensOf told) current →
        Answered profile stop current next reaction → Knows profile reaction.state ∧
          property (tokensOf (told ++ reaction.reports)) reaction.state := by
      rintro told current stop next reaction ⟨knows, holds⟩ answered
      refine ⟨answered.knows made.sound made.regular knows, ?_⟩
      rw [tokensOf_append]
      exact step holds (answered.produces made.sound made.regular knows).emits answered.breaks
    refine ⟨fun fed holds => keeps holds (answered_react profile 0 _ fed),
      fun holds flushed => keeps holds (answered_flush? flushed), ?_⟩
    · rintro told current stop ⟨knows, holds⟩
      refine ⟨⟨knows.valid, knows.collects⟩, ?_⟩
      rw [tokensOf_append]
      have plain : profile.Issues (Span.point stop).stop .fin .empty := .plain (by decide)
      have last : Emits profile current (current.emit .fin (.point stop)) :=
        .token plain (by decide) rfl rfl
      exact step holds last rfl
  have begun : Knows profile state.reset ∧ property (tokensOf []) state.reset :=
    ⟨knows_reset profile state, start⟩
  obtain ⟨last, -, holds⟩ := tokenize_recalls remembers begun source
  rw [(tokenize_recorder profile state source).1, List.filterMap_map]
  exact ⟨last, holds⟩

/-- The machine can make every token of a scan. -/
theorem heard_issued (made : profile.Made) (state : ScanState ρ) (source : String) :
    ∀ token ∈ (heard profile state source).filterMap Event.token?,
      profile.Issues token.span.stop token.kind token.payload := by
  refine (heard_induction made state (fun told _ => ∀ token ∈ told,
    profile.Issues token.span.stop token.kind token.payload) (by simp) ?_ source).elim
      fun _ issued => issued
  intro told current reaction issued emits _
  refine List.forall_mem_append.mpr ⟨issued, ?_⟩
  cases emits with
  | silent silence => simp [silence]
  | token issues _ one => simpa [one] using issues
  | blockComment one => simpa [one] using Profile.Issues.blockComment _

end Literals

end Scan

end Lexing
