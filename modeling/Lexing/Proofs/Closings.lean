import Lexing.Proofs.Moments
import Lexing.Proofs.Splicing

/-!
# How operators and comments come about

Outside of comments, a reaction reports an operator or opens a comment only when it closes a walk
along the operators: at a node that nothing longer continues, or when the walk gets stuck behind
one that it has passed.  Everything else that it does lies aside.
-/

namespace Lexing

/-- The kind is neither that of an operator nor that of a comment. -/
def Kind.IsAside (kind : Kind) : Prop :=
  kind.isOperator = false ∧ kind.isComment = false

instance (kind : Kind) : Decidable kind.IsAside :=
  inferInstanceAs (Decidable (_ ∧ _))

theorem Kind.isAside_of_category {kind : Kind} (operator : kind.category ≠ .operator)
    (atomic : kind.category ≠ .atomic) : kind.IsAside := by
  refine ⟨decide_eq_false operator, decide_eq_false ?_⟩
  rintro (rfl | rfl)
  · exact atomic (by decide)
  · exact atomic (by decide)

def Mode.InComment : Mode → Prop
  | .lineComment _ | .blockComment .. => True
  | _ => False

/-- The mode is neither that of a comment nor that of a walk along the operators. -/
def Mode.IsAside : Mode → Prop
  | .lineComment _ | .blockComment .. | .operator _ => False
  | _ => True

theorem Mode.IsAside.outside {mode : Mode} (aside : mode.IsAside) : ¬mode.InComment := by
  cases mode with
  | lineComment | blockComment => exact aside.elim
  | _ => exact not_false

namespace Scan

variable {ρ : Type} {profile : Profile ρ} {state : ScanState ρ} {before : Mode}
  {reaction : Reaction ρ} {node : NodeId} {fed : Fed} {stop : Nat}

/-- The reaction reports neither an operator nor a comment and opens no comment.  A walk along
the operators that it begins or goes on with can become longer. -/
structure Aside (profile : Profile ρ) (before : Mode) (reaction : Reaction ρ) : Prop where
  told : ∀ token ∈ tokensOf reaction.reports, token.kind.IsAside
  outside : ¬reaction.state.mode.resting.InComment
  longer : ∀ walk, reaction.state.mode.resting = .operator walk →
    profile.operators.hasChildren walk.node = true ∨ before.resting = .operator walk

/-! ## Reactions that lie aside -/

theorem aside_of_silent (silent : tokensOf reaction.reports = [])
    (mode : reaction.state.mode.resting.IsAside) : Aside profile before reaction where
  told := by simp [silent]
  outside := mode.outside
  longer walk walks := by simp [walks, Mode.IsAside] at mode

theorem aside_become {mode : Mode} (plain : mode.resting.IsAside) :
    Aside profile before (state.become mode) :=
  aside_of_silent rfl plain

theorem aside_of_token {token : Token} (told : tokensOf reaction.reports = [token])
    (kind : token.kind.IsAside) (idle : reaction.state.mode.resting = .idle) :
    Aside profile before reaction where
  told := by simpa [told] using kind
  outside := by simp [idle, Mode.InComment]
  longer walk walks := by simp [idle] at walks

theorem Aside.feed (aside : Aside profile before reaction) (symbols : List Fed) :
    Aside profile before (reaction.feed symbols) :=
  ⟨aside.told, aside.outside, aside.longer⟩

theorem Aside.notify {report : Report} (aside : Aside profile before reaction)
    (remark : report.event.token? = none) : Aside profile before (reaction.notify report) where
  told := by
    have same : tokensOf (reaction.notify report).reports = tokensOf reaction.reports := by
      simp [tokensOf, remark]
    rw [same]
    exact aside.told
  outside := aside.outside
  longer := aside.longer

theorem aside_finish {kind : Kind} {payload : Payload} (aside : kind.IsAside) :
    Aside profile before (state.finish kind stop payload) :=
  aside_of_token rfl aside rfl

theorem aside_finishNumber {value : Numeral} (number : value.kind.isNumber = true) :
    Aside profile before (state.finishNumber value stop) := by
  have category := Numeral.category_finalKind number
  exact aside_finish (Kind.isAside_of_category (by simp [category]) (by simp [category]))

theorem aside_reject (span : Span) (complaint : Option String) :
    Aside profile before (state.reject span complaint) := by
  have token : Aside profile before ((state.enter .idle).emit .unexpected span) :=
    aside_of_token rfl (show Kind.unexpected.IsAside by decide) rfl
  exact token.notify rfl

theorem aside_failLiteral (span : Span) (message : String) :
    Aside profile before (failLiteral state span message) :=
  (aside_reject span _).notify rfl

theorem aside_releaseDot {value : Numeral} (number : value.kind.isNumber = true) (dot : Nat)
    (hasInteger : Bool) : Aside profile before (releaseDot state value dot hasInteger) := by
  cases hasInteger with
  | true => exact (aside_finishNumber number).feed _
  | false => exact aside_of_silent rfl trivial

theorem aside_of_resumed {resume : Resume} (outside : ¬resume.mode.InComment)
    (resumes : before.resting = resume.mode) (silent : tokensOf reaction.reports = [])
    (mode : reaction.state.mode.resting = resume.mode) : Aside profile before reaction where
  told := by simp [silent]
  outside := mode ▸ outside
  longer walk walks := Or.inr (by rw [resumes, ← mode, walks])

theorem aside_joinLines {resume : Resume} {escape : Located} (outside : ¬resume.mode.InComment)
    (resumes : before.resting = resume.mode) :
    Aside profile before (joinLines state resume escape stop) := by
  cases resume with
  | idle => exact aside_of_token rfl (show Kind.lineContinuation.IsAside by decide) rfl
  | _ => exact aside_of_resumed outside resumes rfl rfl

theorem Takes.aside {after : Mode} (takes : Takes profile state fed before after)
    (outside : ¬before.resting.InComment) : Aside profile before (state.become after) := by
  cases takes with
  | lineComment | blockComment => exact absurd trivial outside
  | escape resumes =>
      subst resumes
      rw [resting_resume] at outside
      exact aside_of_resumed outside (resting_resume _) rfl rfl
  | carriage => exact aside_of_resumed outside rfl rfl rfl
  | _ => exact aside_become trivial

theorem aside_resolvePrefix (sound : profile.Sound) (pending : List Located) (next : Option Fed) :
    Aside profile before (resolvePrefix profile state node pending next) := by
  have plain := defaultNumeral_isNumber sound pending
  obtain ⟨_, resolved, answer⟩ := resolvePrefix_resolved profile state node pending next
  rw [answer]
  cases resolved with
  | spanless | opens | goesOn => exact aside_of_silent rfl trivial
  | alone _ known => exact Aside.feed (aside_finishNumber (sound.numberKinds node _ known).1) _
  | digits => exact Aside.feed (aside_finishNumber plain) _
  | rejected => exact (aside_reject _ _).feed _

theorem aside_blank (run : Char) : (blankKind run).IsAside := by
  unfold blankKind
  split
  · decide
  · split <;> decide

theorem Completed.isAside {next : Option Fed} {kind : Kind} {payload : Payload}
    (completed : Completed profile state next stop before kind payload)
    (mode : state.mode = before) (valid : state.Valid profile)
    (outside : ¬before.resting.InComment) : kind.IsAside := by
  unfold ScanState.Valid at valid
  rw [mode] at valid
  cases completed with
  | carriage | identifier => decide
  | blank => exact aside_blank _
  | number | float =>
      have category := Numeral.category_finalKind valid
      exact Kind.isAside_of_category (by simp [category]) (by simp [category])
  | lineComment => exact absurd trivial outside

/-! ## The end of a walk -/

/-- A walk ends at a node with the given marker, in the state where its token has begun.  The
symbols behind the marker are fed again. -/
structure EndsWalk (profile : Profile ρ) (stop : Nat) (state : ScanState ρ) (next : Option Fed)
    (start : ScanState ρ) (marker : List Located) (again : List Fed) (node : NodeId) : Prop where
  nonempty : marker ≠ []
  found : profile.operators.find? (marker.map Located.symbol) = some node
  parts : state.mode.pending ++ next.toList.map Fed.toLocated =
    marker ++ again.map Fed.toLocated
  begins : (state.mode = .idle ∧ ∃ fed, next = some fed ∧ start = starting state fed) ∨
    (∃ walk, state.mode = .operator walk) ∧ start = state

/-- Where the marker ends: before the first symbol behind it, or with the last one that was
fed. -/
def markerStop (stop : Nat) (next : Option Fed) (again : List Fed) : Nat :=
  (again.head?.map fun fed => fed.offset).getD (next.elim stop fun fed => fed.stop)

/-- What the machine can do outside of comments at a symbol, or at the end of the input when
there is none. -/
inductive Acts (profile : Profile ρ) (stop : Nat) (state : ScanState ρ) (next : Option Fed) :
    Reaction ρ → Prop
  | aside {reaction : Reaction ρ} : Aside profile state.mode reaction →
      Acts profile stop state next reaction
  | closes {start : ScanState ρ} {marker : List Located} {again : List Fed} {node : NodeId}
      {closed : Reaction ρ} : EndsWalk profile stop state next start marker again node →
      ClosesWalk profile start node (markerStop stop next again) closed →
      Acts profile stop state next (closed.feed again)

/-- The last symbol of a walk has come to a node. -/
theorem reachOperator_acts (sound : profile.Sound) {start : ScanState ρ} {parent : NodeId}
    (found : profile.operators.find? (state.mode.pending.map Located.symbol) = some parent)
    (edge : profile.operators.advance parent fed.symbol = some node)
    (begins : (state.mode = .idle ∧ start = starting state fed) ∨
      (∃ walk, state.mode = .operator walk) ∧ start = state) (terminal : Option (NodeId × Nat)) :
    Acts profile stop state (some fed)
      (reachOperator profile start node (state.mode.pending ++ [fed.toLocated]) terminal) := by
  unfold reachOperator
  split
  case isTrue inner =>
    refine .aside ⟨by simp [tokensOf], id, fun walk walks => Or.inl ?_⟩
    obtain rfl : _ = walk := Mode.operator.inj walks
    exact inner
  case isFalse leaf =>
    have closing : EndsWalk profile stop state (some fed) start
        (state.mode.pending ++ [fed.toLocated]) [] node := {
      nonempty := by simp
      found := by simpa using Trie.find?_snoc found edge
      parts := by simp
      begins := begins.imp_left fun idle => ⟨idle.1, fed, rfl, idle.2⟩ }
    have ended := sound.operators.ended_of_edge edge (by simpa using leaf)
    unfold finishOperator
    rw [List.take_length, List.drop_length, List.getLast?_concat]
    exact .closes closing (closeWalk_ends sound ended _)

/-- No operator is longer than the one that was passed. -/
theorem stuckOperator_acts (sound : profile.Sound) {walk : Walk}
    (traces : walk.Traces profile.operators) (mode : state.mode = .operator walk)
    (next : Option Fed) :
    Acts profile stop state next
      ((stuckOperator profile state walk (next.elim stop fun fed => fed.offset)).feed
        next.toList) := by
  have stuck := stuckOperator_stuck profile state walk (next.elim stop fun fed => fed.offset)
  generalize stuckOperator profile state walk (next.elim stop fun fed => fed.offset) = reaction
    at stuck ⊢
  cases stuck with
  | rejected => exact .aside (Aside.feed (Aside.feed ((aside_reject _ _).notify rfl) _) _)
  | empty =>
      have idle : Aside profile state.mode (state.become .idle) := aside_become trivial
      exact .aside (idle.feed _)
  | @passed node count terminal =>
      have closing : EndsWalk profile stop state next state (walk.pending.take count)
          ((walk.pending.drop count).map Fed.plain ++ next.toList) node := {
        nonempty := traces.take_ne_nil terminal
        found := by
          have deepest := traces.deepest
          rw [terminal] at deepest
          rw [List.map_take]
          exact deepest.2.2.1
        parts := by
          rw [mode, Mode.pending, List.map_append, map_toLocated_plain, ← List.append_assoc,
            List.take_append_drop]
        begins := Or.inr ⟨⟨walk, mode⟩, rfl⟩ }
      have closed : (finishOperator profile state walk.pending node count
          (some (next.elim stop fun fed => fed.offset))).feed next.toList =
          (closeWalk profile state node (markerStop stop next
            ((walk.pending.drop count).map Fed.plain ++ next.toList))).feed
              ((walk.pending.drop count).map Fed.plain ++ next.toList) := by
        unfold finishOperator markerStop
        cases walk.pending.drop count <;> cases next <;> simp [Reaction.feed, Fed.plain]
      have ended := (traces.terminal_bound terminal).2.2
      exact closed ▸ .closes closing (closeWalk_ends sound ended _)

/-! ## All reactions -/

variable [Literal.Reader ρ]

theorem aside_openLiteral (sound : profile.Sound)
    (ended : (profile.literals.kind? node).isSome = true) (introduction : List Located) :
    Aside profile before (openLiteral profile state node introduction) := by
  obtain ⟨number, kind, reader, _, _, _, opened⟩ := openLiteral_eq sound state ended introduction
  rw [opened]
  exact aside_become trivial

theorem aside_reachLiteral (sound : profile.Sound) (pending : List Located)
    (terminal : Option (NodeId × Nat)) :
    Aside profile before (reachLiteral profile state node pending terminal) := by
  have reached := reachLiteral_reached profile state node pending terminal
  generalize reachLiteral profile state node pending terminal = reaction at reached ⊢
  cases reached with
  | waits => exact aside_become trivial
  | opens ended => exact aside_openLiteral sound ended _

theorem aside_stuckLiteral (sound : profile.Sound) {walk : Walk}
    (traces : walk.Traces profile.literals) :
    Aside profile before (stuckLiteral profile state walk) := by
  unfold stuckLiteral
  cases terminal : walk.terminal with
  | none => exact aside_of_silent rfl trivial
  | some passed => exact (aside_openLiteral sound (traces.terminal_bound terminal).2.2 _).feed _

theorem aside_finishLiteral {number : Nat} {kind : Kind} (literal : kind.isLiteral = true)
    (reader : ρ) : Aside profile before (finishLiteral state number kind reader stop) := by
  have category : kind.category = .literal := by simpa [Kind.isLiteral] using literal
  exact aside_of_token rfl (Kind.isAside_of_category (by simp [category]) (by simp [category])) rfl

section Literals

variable {number : Nat} {kind : Kind} (literal : kind.isLiteral = true)

include literal

theorem aside_readLiteral (mode : state.mode = .literal number kind) :
    Aside profile before (readLiteral profile state number kind fed) := by
  have stays : state.mode.resting.IsAside := by
    rw [mode]
    trivial
  have continued := readLiteral_continued profile state number kind fed
  generalize readLiteral profile state number kind fed = reaction at continued ⊢
  cases continued with
  | unread => exact aside_of_silent rfl trivial
  | proceeds | proceedsWith => exact aside_of_silent rfl stays
  | stops => exact aside_finishLiteral literal _
  | stopsWith => exact (aside_finishLiteral literal _).notify rfl
  | failsBefore => exact (aside_failLiteral _ _).feed _
  | fails => exact aside_failLiteral _ _

theorem aside_closeLiteral : Aside profile before (closeLiteral state number kind stop) := by
  have closed := closeLiteral_closed state number kind stop
  generalize closeLiteral state number kind stop = reaction at closed ⊢
  cases closed with
  | unread => exact aside_become trivial
  | stops => exact aside_finishLiteral literal _
  | stopsWith => exact (aside_finishLiteral literal _).notify rfl
  | fails => exact aside_failLiteral _ _

end Literals

theorem dispatch_acts (sound : profile.Sound) (idle : state.mode = .idle) (fed : Fed) :
    Acts profile stop state (some fed) (dispatch profile state fed) := by
  have between : (starting state fed).mode.resting.IsAside := by
    rw [show (starting state fed).mode = .idle from idle]
    trivial
  have answer := dispatched profile state fed
  generalize dispatch profile state fed = reaction at answer ⊢
  cases answer with
  | operator edge =>
      have found : profile.operators.find? (state.mode.pending.map Located.symbol) =
          some Trie.root := by
        rw [idle]
        rfl
      have reached : Acts profile stop state (some fed) _ :=
        reachOperator_acts sound found edge (Or.inl ⟨idle, rfl⟩) none
      rwa [idle] at reached
  | literal edge _ => exact .aside (aside_reachLiteral sound _ _)
  | single known =>
      have aside : ∀ {kind}, kind.IsAside →
          Aside profile state.mode ((starting state fed).emit kind fed.span) := by
        refine fun kind => aside_of_token rfl kind ?_
        simp [ScanState.emit, starting, idle, Mode.resting]
      rcases known with rfl | rfl | rfl | ⟨bracket, named⟩
      · exact .aside (aside (by decide))
      · exact .aside (aside (by decide))
      · exact .aside (aside (by decide))
      · have category := sound.bracketKinds bracket _ named
        exact .aside (aside
          (Kind.isAside_of_category (by simp [category]) (by simp [category])))
  | reject => exact .aside (aside_reject _ _)
  | continuation _ => exact .aside (aside_of_silent rfl trivial)
  | blank | point | number | numberPrefix | identifier => exact .aside (aside_become trivial)

/-- What the machine answers outside of comments. -/
theorem Answered.acts {next : Option Fed} (answered : Answered profile stop state next reaction)
    (sound : profile.Sound) (valid : state.Valid profile)
    (outside : ¬state.mode.resting.InComment) : Acts profile stop state next reaction := by
  have known := valid
  unfold ScanState.Valid at known
  cases answered with
  | between mode => exact dispatch_acts sound mode _
  | takes mode takes =>
      subst mode
      exact .aside (takes.aside outside)
  | completes mode completed =>
      rw [mode] at outside
      exact .aside (Aside.feed (aside_finish (completed.isAside mode valid outside)) _)
  | linefeed => exact .aside (aside_finish (by decide))
  | resolves => exact .aside (aside_resolvePrefix sound _ _)
  | releases mode =>
      rw [mode] at known
      exact .aside (Aside.feed (aside_releaseDot known _ _) _)
  | @extendsOperator walk _ _ mode _ edge =>
      rw [mode] at known
      have found : profile.operators.find? (state.mode.pending.map Located.symbol) =
          some walk.node := by
        rw [mode]
        exact known.reaches
      have reached : Acts profile stop state (some _) _ :=
        reachOperator_acts sound found edge (Or.inr ⟨⟨walk, mode⟩, rfl⟩) walk.terminal
      rwa [mode] at reached
  | endsOperator mode =>
      rw [mode] at known
      exact stuckOperator_acts sound known mode next
  | closesBlock mode | unclosed mode => simp [mode, Mode.InComment, Mode.resting] at outside
  | extendsIntroduction => exact .aside (aside_reachLiteral sound _ _)
  | endsIntroduction mode =>
      rw [mode] at known
      exact .aside ((aside_stuckLiteral sound known).feed _)
  | reads mode =>
      rw [mode] at known
      exact .aside (aside_readLiteral known.2 mode)
  | closesLiteral mode =>
      rw [mode] at known
      exact .aside (aside_closeLiteral known.2)
  | joins mode =>
      rw [mode] at outside
      exact .aside (aside_joinLines outside (by rw [mode]; rfl))
  | joinsBefore mode =>
      rw [mode] at outside
      exact .aside ((aside_joinLines outside (by rw [mode]; rfl)).feed _)
  | abandons mode =>
      rw [mode] at outside
      refine .aside (Aside.feed (aside_of_resumed outside ?_ rfl (resting_resume _)) _)
      rw [mode]
      rfl

end Scan

end Lexing
