import Lexing.Proofs.Bodies
import Lexing.Proofs.Trace

/-!
# How rejected input is reported

Input that no rule accepts is first reported as unexpected and then becomes a token.
When a reader of literals has complained about it, the complaint comes right before the
report, and this is the only way in which a remark on a literal can be followed by such a
report.  So the events alone tell why input was rejected.
-/

namespace Lexing

def Mode.InLiteral (mode : Mode) : Prop :=
  ∃ number kind, mode = .literal number kind

def Report.IsRejection (report : Report) : Prop :=
  ∃ span complaint, report = .unexpected span complaint

namespace Scan

/-- Reports among which every rejection is explained.  It is followed by its token, which
is the only way in which a token can be unexpected, and a remark on a literal comes before
it exactly if the remark is the complaint that led to it. -/
inductive Explained : List Report → Prop
  | nil : Explained []
  | token {token : Token} {rest : List Report} : token.kind ≠ .unexpected → Explained rest →
      Explained (.token token :: rest)
  | unknownOperator {span : Span} {rest : List Report} : Explained rest →
      Explained (.unknownOperator span :: rest)
  | remark {span : Span} {message : String} {rest : List Report} :
      (∀ report ∈ rest.head?, ¬report.IsRejection) → Explained rest →
      Explained (.literalMessage span message :: rest)
  | rejection {token : Token} {rest : List Report} : token.kind = .unexpected → Explained rest →
      Explained (.unexpected token.span none :: .token token :: rest)
  | malformed {token : Token} {message : String} {rest : List Report} :
      token.kind = .unexpected → Explained rest →
      Explained (.literalMessage token.span message ::
        .unexpected token.span (some message) :: .token token :: rest)

variable {ρ : Type}

/-- What one reaction can tell, from the given mode on. -/
inductive Tells (before : Mode) (reaction : Reaction ρ) : Prop
  | nothing : reaction.reports = [] → (before.InLiteral → reaction.state.mode.InLiteral) →
      Tells before reaction
  | token {token : Token} : reaction.reports = [.token token] → token.kind ≠ .unexpected →
      Tells before reaction
  | remark {span : Span} {message : String} :
      reaction.reports = [.literalMessage span message] → reaction.state.mode.InLiteral →
      Tells before reaction
  | remarkedToken {span : Span} {message : String} {token : Token} :
      reaction.reports = [.literalMessage span message, .token token] →
      token.kind ≠ .unexpected → Tells before reaction
  | rejection (token : Token) :
      reaction.reports = [.unexpected token.span none, .token token] →
      token.kind = .unexpected → ¬before.InLiteral → Tells before reaction
  | unknownOperator {span : Span} (token : Token) :
      reaction.reports = [.unknownOperator span, .unexpected token.span none, .token token] →
      token.kind = .unexpected → Tells before reaction
  | malformed (token : Token) {message : String} :
      reaction.reports = [.literalMessage token.span message,
        .unexpected token.span (some message), .token token] →
      token.kind = .unexpected → Tells before reaction

/-- Reports that can follow when the machine is in the given mode. -/
structure Sequel (mode : Mode) (reports : List Report) : Prop where
  explained : Explained reports
  quiet : mode.InLiteral → ∀ report ∈ reports.head?, ¬report.IsRejection

theorem Sequel.nil (mode : Mode) : Sequel mode [] :=
  ⟨.nil, by simp⟩

theorem Tells.sequel {before : Mode} {reaction : Reaction ρ} {rest : List Report}
    (tells : Tells before reaction) (sequel : Sequel reaction.state.mode rest) :
    Sequel before (reaction.reports ++ rest) := by
  have quiet : ∀ report : Report, ¬report.IsRejection →
      ∀ first ∈ some report, ¬first.IsRejection := by
    simp
  cases tells with
  | nothing silent stays =>
      rw [silent]
      exact ⟨sequel.explained, fun inside => sequel.quiet (stays inside)⟩
  | token told kind =>
      rw [told]
      exact ⟨.token kind sequel.explained, fun _ => quiet _ (by simp [Report.IsRejection])⟩
  | remark told inside =>
      rw [told]
      exact ⟨.remark (sequel.quiet inside) sequel.explained,
        fun _ => quiet _ (by simp [Report.IsRejection])⟩
  | remarkedToken told kind =>
      rw [told]
      exact ⟨.remark (quiet _ (by simp [Report.IsRejection])) (.token kind sequel.explained),
        fun _ => quiet _ (by simp [Report.IsRejection])⟩
  | rejection _ told kind outside =>
      rw [told]
      exact ⟨.rejection kind sequel.explained, fun inside => absurd inside outside⟩
  | unknownOperator _ told kind =>
      rw [told]
      exact ⟨.unknownOperator (.rejection kind sequel.explained),
        fun _ => quiet _ (by simp [Report.IsRejection])⟩
  | malformed _ told kind =>
      rw [told]
      exact ⟨.malformed kind sequel.explained, fun _ => quiet _ (by simp [Report.IsRejection])⟩

/-! ## Single reactions -/

section Reactions

variable {profile : Profile ρ} {state : ScanState ρ} {before : Mode} {reaction : Reaction ρ}

theorem Tells.feed (tells : Tells before reaction) (symbols : List Fed) :
    Tells before (reaction.feed symbols) := by
  cases tells with
  | nothing silent stays => exact .nothing silent stays
  | token told kind => exact .token told kind
  | remark told inside => exact .remark told inside
  | remarkedToken told kind => exact .remarkedToken told kind
  | rejection token told kind outside => exact .rejection token told kind outside
  | unknownOperator token told kind => exact .unknownOperator token told kind
  | malformed token told kind => exact .malformed token told kind

theorem tells_emit {kind : Kind} (named : kind ≠ .unexpected) (span : Span) (payload : Payload) :
    Tells before (state.emit kind span payload) :=
  .token rfl named

theorem tells_finish {kind : Kind} (named : kind ≠ .unexpected) (stop : Nat) (payload : Payload) :
    Tells before (state.finish kind stop payload) :=
  .token rfl named

theorem tells_finishNumber {value : Numeral} (number : value.kind.isNumber = true) (stop : Nat) :
    Tells before (state.finishNumber value stop) :=
  tells_finish (Kind.ne_of_category (Numeral.category_finalKind number) (by decide)) _ _

theorem tells_failLiteral (span : Span) (message : String) :
    Tells before (failLiteral state span message) :=
  .malformed { atLineStart := state.lineStart, kind := .unexpected, span } rfl rfl

section Outside

variable (outside : ¬before.InLiteral)

include outside

theorem tells_become (mode : Mode) : Tells before (state.become mode) :=
  .nothing rfl fun inside => absurd inside outside

theorem tells_reject (span : Span) : Tells before (state.reject span) :=
  .rejection { atLineStart := state.lineStart, kind := .unexpected, span } rfl rfl outside

theorem closeWalk_tells (sound : profile.Sound) {node : NodeId}
    (ended : (profile.operators.kind? node).isSome = true) (stop : Nat) :
    Tells before (closeWalk profile state node stop) := by
  have named : ∀ {kind : Kind}, kind.isOperator = true → kind ≠ .unexpected :=
    fun operator => Kind.ne_of_category (Kind.category_of_isOperator operator) (by decide)
  have closes : ClosesWalk profile state node stop _ := closeWalk_ends sound ended stop
  generalize closeWalk profile state node stop = reaction at closes ⊢
  cases closes with
  | operator _ operator => exact tells_finish (named operator) _ _
  | demoted present => exact tells_finish (named (sound.fallbackOperator present)) _ _
  | lineComment | blockComment => exact tells_become outside _

theorem stuckOperator_tells (sound : profile.Sound) {walk : Walk}
    (traces : walk.Traces profile.operators) (stop : Nat) :
    Tells before (stuckOperator profile state walk stop) := by
  have stuck := stuckOperator_stuck profile state walk stop
  generalize stuckOperator profile state walk stop = reaction at stuck ⊢
  cases stuck with
  | passed terminal =>
      exact (closeWalk_tells outside sound (traces.terminal_bound terminal).2.2 _).feed _
  | rejected =>
      exact Tells.feed (.unknownOperator
        { atLineStart := state.lineStart, kind := .unexpected, span := _ } rfl rfl) _
  | empty => exact tells_become outside _

theorem reachOperator_tells (sound : profile.Sound) {node : NodeId} {pending : List Located}
    {terminal : Option (NodeId × Nat)}
    (ended : profile.operators.hasChildren node = false →
      (profile.operators.kind? node).isSome = true) :
    Tells before (reachOperator profile state node pending terminal) := by
  unfold reachOperator
  split
  case isTrue => exact tells_become outside _
  case isFalse childless =>
    exact (closeWalk_tells outside sound (ended (by simpa using childless)) _).feed _

theorem resolvePrefix_tells (sound : profile.Sound) (node : NodeId) (pending : List Located)
    (next : Option Fed) : Tells before (resolvePrefix profile state node pending next) := by
  have plain := defaultNumeral_isNumber sound pending
  obtain ⟨_, resolved, answer⟩ := resolvePrefix_resolved profile state node pending next
  rw [answer]
  cases resolved with
  | spanless | opens | goesOn => exact (tells_become outside _).feed _
  | alone _ known => exact (tells_finishNumber (sound.numberKinds node _ known).1 _).feed _
  | digits => exact (tells_finishNumber plain _).feed _
  | rejected => exact (tells_reject outside _).feed _

theorem releaseDot_tells {value : Numeral} (number : value.kind.isNumber = true) (dot : Nat)
    (hasInteger : Bool) : Tells before (releaseDot state value dot hasInteger) := by
  cases hasInteger with
  | true => exact (tells_finishNumber number dot).feed _
  | false => exact (tells_become outside _).feed _

theorem joinLines_tells (resume : Resume) (escape : Located) (stop : Nat) :
    Tells before (joinLines state resume escape stop) := by
  cases resume with
  | idle => exact tells_emit (by decide) _ _
  | _ => exact .nothing rfl fun inside => absurd inside outside

theorem abandonContinuation_tells (resume : Resume) (escape : Located) :
    Tells before (abandonContinuation state resume escape) :=
  .nothing rfl fun inside => absurd inside outside

variable [Literal.Reader ρ]

theorem openLiteral_tells (sound : profile.Sound) {node : NodeId}
    (ended : (profile.literals.kind? node).isSome = true) (introduction : List Located) :
    Tells before (openLiteral profile state node introduction) := by
  obtain ⟨number, kind, reader, _, _, _, opened⟩ := openLiteral_eq sound state ended introduction
  rw [opened]
  exact tells_become outside _

theorem reachLiteral_tells (sound : profile.Sound) (node : NodeId) (pending : List Located)
    (terminal : Option (NodeId × Nat)) :
    Tells before (reachLiteral profile state node pending terminal) := by
  have reached := reachLiteral_reached profile state node pending terminal
  generalize reachLiteral profile state node pending terminal = reaction at reached ⊢
  cases reached with
  | waits => exact tells_become outside _
  | opens ended => exact openLiteral_tells outside sound ended _

theorem stuckLiteral_tells (sound : profile.Sound) {walk : Walk}
    (traces : walk.Traces profile.literals) : Tells before (stuckLiteral profile state walk) := by
  unfold stuckLiteral
  cases terminal : walk.terminal with
  | none => exact (tells_become outside _).feed _
  | some passed =>
      exact (openLiteral_tells outside sound (traces.terminal_bound terminal).2.2 _).feed _

theorem dispatch_tells (sound : profile.Sound) (state : ScanState ρ) (fed : Fed) :
    Tells before (dispatch profile state fed) := by
  have answer := dispatched profile state fed
  generalize dispatch profile state fed = reaction at answer ⊢
  cases answer with
  | continuation => exact tells_become outside _
  | literal => exact reachLiteral_tells outside sound _ _ _
  | operator edge => exact reachOperator_tells outside sound (sound.operators.ended_of_edge edge)
  | single known =>
      refine tells_emit ?_ _ _
      rcases known with rfl | rfl | rfl | ⟨node, found⟩
      · decide
      · decide
      · decide
      · exact Kind.ne_of_category (sound.bracketKinds node _ found) (by decide)
  | reject => exact tells_reject outside _
  | blank | point | numberPrefix | number | identifier => exact tells_become outside _

end Outside

theorem Takes.outside {fed : Fed} {before after : Mode}
    (takes : Takes profile state fed before after) : ¬before.InLiteral := by
  cases takes with
  | @escape _ resume same =>
      subst same
      cases resume <;> simp [Mode.InLiteral, Resume.mode]
  | _ => simp [Mode.InLiteral]

theorem Completed.ne_unexpected {next : Option Fed} {stop : Nat} {kind : Kind} {payload : Payload}
    (completed : Completed profile state next stop before kind payload)
    (mode : state.mode = before) (valid : state.Valid profile) : kind ≠ .unexpected := by
  rintro rfl
  rcases completed.kind_cases mode valid with plain | number
  · exact absurd plain (by decide)
  · exact absurd number (by decide)

variable [Literal.Reader ρ] {number : Nat} {kind : Kind}

theorem readLiteral_tells (fed : Fed) (available : (state.reader? number).isSome = true)
    (literal : kind.isLiteral = true) (mode : state.mode = .literal number kind) :
    Tells before (readLiteral profile state number kind fed) := by
  have named : kind ≠ .unexpected :=
    Kind.ne_of_category (Kind.category_of_isLiteral literal) (by decide)
  have continued := readLiteral_continued profile state number kind fed
  generalize readLiteral profile state number kind fed = reaction at continued ⊢
  cases continued with
  | unread missing => simp [missing] at available
  | proceeds => exact .nothing rfl fun _ => ⟨number, kind, mode⟩
  | proceedsWith => exact .remark rfl ⟨number, kind, mode⟩
  | stops => exact tells_finish named _ _
  | stopsWith => exact .remarkedToken rfl named
  | failsBefore => exact (tells_failLiteral _ _).feed _
  | fails => exact tells_failLiteral _ _

theorem closeLiteral_tells (stop : Nat) (available : (state.reader? number).isSome = true)
    (literal : kind.isLiteral = true) : Tells before (closeLiteral state number kind stop) := by
  have named : kind ≠ .unexpected :=
    Kind.ne_of_category (Kind.category_of_isLiteral literal) (by decide)
  have closed := closeLiteral_closed state number kind stop
  generalize closeLiteral state number kind stop = reaction at closed ⊢
  cases closed with
  | unread missing => simp [missing] at available
  | stops => exact tells_finish named _ _
  | stopsWith => exact .remarkedToken rfl named
  | fails => exact tells_failLiteral _ _

/-- Every answer tells why input is rejected, if it is. -/
theorem Answered.tells {next : Option Fed} {stop : Nat}
    (answered : Answered profile stop state next reaction) (sound : profile.Sound)
    (valid : state.Valid profile) : Tells state.mode reaction := by
  have known := valid
  unfold ScanState.Valid at known
  have outside : (∀ number kind, state.mode ≠ .literal number kind) → ¬state.mode.InLiteral :=
    fun other ⟨number, kind, mode⟩ => other number kind mode
  cases answered with
  | between mode => exact dispatch_tells (outside (by simp [mode])) sound state _
  | takes mode takes =>
      subst mode
      exact tells_become takes.outside _
  | completes mode completed =>
      exact (tells_finish (completed.ne_unexpected mode valid) _ _).feed _
  | linefeed => exact tells_finish (by decide) _ _
  | resolves mode => exact resolvePrefix_tells (outside (by simp [mode])) sound _ _ _
  | releases mode =>
      rw [mode] at known
      exact (releaseDot_tells (outside (by simp [mode])) known _ _).feed _
  | extendsOperator mode _ edge =>
      exact reachOperator_tells (outside (by simp [mode])) sound
        (sound.operators.ended_of_edge edge)
  | endsOperator mode =>
      rw [mode] at known
      exact (stuckOperator_tells (outside (by simp [mode])) sound known _).feed _
  | closesBlock => exact .token rfl (show Kind.blockComment ≠ .unexpected by decide)
  | unclosed mode => exact tells_reject (outside (by simp [mode])) _
  | extendsIntroduction mode => exact reachLiteral_tells (outside (by simp [mode])) sound _ _ _
  | endsIntroduction mode =>
      rw [mode] at known
      exact (stuckLiteral_tells (outside (by simp [mode])) sound known).feed _
  | reads mode =>
      rw [mode] at known
      exact readLiteral_tells _ known.1 known.2 mode
  | closesLiteral mode =>
      rw [mode] at known
      exact closeLiteral_tells stop known.1 known.2
  | joins mode => exact joinLines_tells (outside (by simp [mode])) _ _ _
  | joinsBefore mode => exact (joinLines_tells (outside (by simp [mode])) _ _ _).feed _
  | abandons mode => exact (abandonContinuation_tells (outside (by simp [mode])) _ _).feed _

theorem next_tells {closing : Option Nat} {queue rest : List Fed} (sound : profile.Sound)
    (valid : state.Valid profile)
    (next : nextReaction? profile closing state queue = some (reaction, rest)) :
    Tells state.mode reaction := by
  obtain ⟨symbol, _, _, answered⟩ := answered_next next
  exact answered.tells sound valid

end Reactions

end Scan

end Lexing
