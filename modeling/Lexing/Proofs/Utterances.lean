import Lexing.Proofs.FailedWalks
import Lexing.Proofs.Moments
import Lexing.Proofs.Splicing

/-!
# What a reaction can report

Operators are reported by walks, and input is rejected in a few places only: between tokens
when no rule applies, at a prefix without digits, in an operator that is not complete, in a
literal and at the end of an open comment.  Whatever else a reaction reports is routine.
-/

namespace Lexing

/-- The kind is neither that of an operator nor that of rejected input. -/
def Kind.IsRoutine (kind : Kind) : Prop :=
  kind ≠ .unexpected ∧ kind.isOperator = false

instance (kind : Kind) : Decidable kind.IsRoutine :=
  inferInstanceAs (Decidable (_ ∧ _))

theorem Kind.isRoutine_of_category {kind : Kind} (atomic : kind.category ≠ .atomic)
    (operator : kind.category ≠ .operator) : kind.IsRoutine := by
  refine ⟨?_, by simpa [isOperator] using operator⟩
  rintro rfl
  exact atomic (by decide)

/-- The report neither rejects input nor tells about an operator. -/
def Report.IsRoutine : Report → Prop
  | .token delivered => delivered.kind.IsRoutine
  | .literalMessage .. => True
  | .unexpected .. | .unknownOperator _ => False

namespace Scan

variable {ρ : Type} {profile : Profile ρ} {state : ScanState ρ} {reaction : Reaction ρ}
  {node : NodeId} {fed : Fed} {stop : Nat}

/-! ## Routine reactions -/

/-- The reaction reports nothing about operators and rejects no input. -/
def Routine (reaction : Reaction ρ) : Prop :=
  ∀ report ∈ reaction.reports, report.IsRoutine

theorem routine_of_silent (silent : reaction.reports = []) : Routine reaction := by
  simp [Routine, silent]

theorem routine_of_token {token : Token} (told : reaction.reports = [.token token])
    (kind : token.kind.IsRoutine) : Routine reaction := by
  simpa [Routine, told, Report.IsRoutine] using kind

theorem Routine.notify {span : Span} {message : String} (routine : Routine reaction) :
    Routine (reaction.notify (.literalMessage span message)) :=
  List.forall_mem_cons.mpr ⟨trivial, routine⟩

theorem routine_finishNumber {value : Numeral} (number : value.kind.isNumber = true) :
    Routine (state.finishNumber value stop) := by
  have category := Numeral.category_finalKind number
  exact routine_of_token rfl
    (Kind.isRoutine_of_category (by simp [category]) (by simp [category]))

theorem joinLines_routine (resume : Resume) (escape : Located) :
    Routine (joinLines state resume escape stop) := by
  cases resume with
  | idle => exact routine_of_token rfl (show Kind.lineContinuation.IsRoutine by decide)
  | _ => exact routine_of_silent rfl

theorem releaseDot_routine {value : Numeral} (number : value.kind.isNumber = true) (dot : Nat)
    (hasInteger : Bool) : Routine (releaseDot state value dot hasInteger) := by
  cases hasInteger with
  | true => exact routine_finishNumber number
  | false => exact routine_of_silent rfl

theorem Completed.isRoutine {next : Option Fed} {before : Mode} {kind : Kind} {payload : Payload}
    (completed : Completed profile state next stop before kind payload)
    (mode : state.mode = before) (valid : state.Valid profile) : kind.IsRoutine := by
  rcases completed.kind_cases mode valid with plain | number
  · have routine : ∀ kind ∈ [Kind.linefeed, .space, .tab, .formFeed, .identifier, .lineComment],
        kind.IsRoutine := by decide
    exact routine kind plain
  · exact Kind.isRoutine_of_category (by simp [number]) (by simp [number])

variable [Literal.Reader ρ]

theorem openLiteral_routine (sound : profile.Sound)
    (ended : (profile.literals.kind? node).isSome = true) (introduction : List Located) :
    Routine (openLiteral profile state node introduction) := by
  obtain ⟨number, kind, reader, _, _, _, opened⟩ := openLiteral_eq sound state ended introduction
  rw [opened]
  exact routine_of_silent rfl

theorem reachLiteral_routine (sound : profile.Sound) (pending : List Located)
    (terminal : Option (NodeId × Nat)) :
    Routine (reachLiteral profile state node pending terminal) := by
  have reached := reachLiteral_reached profile state node pending terminal
  generalize reachLiteral profile state node pending terminal = reaction at reached ⊢
  cases reached with
  | waits => exact routine_of_silent rfl
  | opens ended => exact openLiteral_routine sound ended _

theorem stuckLiteral_routine (sound : profile.Sound) {walk : Walk}
    (traces : walk.Traces profile.literals) : Routine (stuckLiteral profile state walk) := by
  unfold stuckLiteral
  cases terminal : walk.terminal with
  | none => exact routine_of_silent rfl
  | some passed => exact openLiteral_routine sound (traces.terminal_bound terminal).2.2 _

theorem finishLiteral_routine {number : Nat} {kind : Kind} (literal : kind.isLiteral = true)
    (reader : ρ) : Routine (finishLiteral state number kind reader stop) := by
  have category : kind.category = .literal := by simpa [Kind.isLiteral] using literal
  exact routine_of_token rfl
    (Kind.isRoutine_of_category (by simp [category]) (by simp [category]))

/-! ## Operators -/

/-- At most an operator is reported: the one that the node stands for. -/
def Closes (profile : Profile ρ) (node : NodeId) (span : Span) (reaction : Reaction ρ) : Prop :=
  reaction.reports = [] ∨ ∃ token, reaction.reports = [.token token] ∧
    token.kind.isOperator = true ∧ token.span = span ∧
    (profile.operators.kind? node = some token.kind ∨ profile.fallbackAt? node = some token.kind)

omit [Literal.Reader ρ] in
theorem closeWalk_closes (sound : profile.Sound)
    (ended : (profile.operators.kind? node).isSome = true) (stop : Nat) :
    Closes profile node ⟨state.tokenStart, stop⟩ (closeWalk profile state node stop) := by
  have closes : ClosesWalk profile state node stop _ := closeWalk_ends sound ended stop
  generalize closeWalk profile state node stop = reaction at closes ⊢
  cases closes with
  | operator known operator => exact Or.inr ⟨_, rfl, operator, rfl, Or.inl known⟩
  | demoted present =>
      exact Or.inr ⟨_, rfl, sound.fallbackOperator present, rfl, Or.inr present⟩
  | lineComment | blockComment => exact Or.inl rfl

omit [Literal.Reader ρ] in
/-- The walk has reached the node with the last symbol. -/
theorem reachOperator_closes (sound : profile.Sound) {parent : NodeId} (pending : List Located)
    {last : Located} (edge : profile.operators.advance parent last.symbol = some node)
    (terminal : Option (NodeId × Nat)) :
    Closes profile node ⟨state.tokenStart, last.stop⟩
      (reachOperator profile state node (pending ++ [last]) terminal) := by
  unfold reachOperator
  split
  case isTrue => exact Or.inl rfl
  case isFalse childless =>
    have ended := sound.operators.ended_of_edge edge (by simpa using childless)
    have closes : Closes profile node ⟨state.tokenStart, last.stop⟩ _ :=
      closeWalk_closes sound ended last.stop
    unfold finishOperator
    rw [List.take_length, List.drop_length, List.getLast?_concat]
    exact closes

omit [Literal.Reader ρ] in
theorem stuckOperator_closes (sound : profile.Sound) {walk : Walk}
    (traces : walk.Traces profile.operators) {count : Nat}
    (terminal : walk.terminal = some (node, count)) (stop : Nat) :
    Closes profile node
      ⟨state.tokenStart, ((walk.pending.drop count).head?.map Located.offset).getD stop⟩
      (stuckOperator profile state walk stop) := by
  have ended := (traces.terminal_bound terminal).2.2
  unfold stuckOperator
  rw [terminal]
  dsimp only [finishOperator]
  cases (walk.pending.drop count).head? with
  | none => exact closeWalk_closes sound ended stop
  | some first => exact closeWalk_closes sound ended first.offset

/-! ## All reactions -/

/-- The first rule that applies to a symbol. -/
def firstRule (profile : Profile ρ) (state : ScanState ρ) (fed : Fed) : Option (Reaction ρ) :=
  ((earlyRules profile state fed).or (literalRule profile state fed)).or
    (lateRules profile state fed)

theorem ruling_of_firstRule (found : firstRule profile state fed = some reaction) :
    Ruling profile state fed reaction := by
  apply ruling_of_rules
  simpa only [firstRule, earlyRules, lateRules, Option.orElse_eq_orElse, Option.orElse_eq_or,
    Option.or_assoc] using found

theorem dispatch_eq_firstRule (profile : Profile ρ) (state : ScanState ρ) (fed : Fed) :
    dispatch profile state fed = (firstRule profile (starting state fed) fed).getD
      ((starting state fed).reject fed.span) := by
  rw [dispatch_eq, firstRule, Option.or_assoc]

/-- How the machine can reject input at a symbol, or at the end of the input when there is
none. -/
inductive Rejects (profile : Profile ρ) (stop : Nat) (state : ScanState ρ) :
    Option Fed → Reaction ρ → Prop
  | unruled {fed : Fed} : state.mode = .idle →
      firstRule profile (starting state fed) fed = none →
      Rejects profile stop state (some fed) ((starting state fed).reject fed.span)
  | digitless {node : NodeId} {pending : List Located} {span : Span} {next : Option Fed} :
      state.mode = .numberPrefix node pending → Located.spanOf? pending = some span →
      (pending.all fun located => isDefaultDigit profile located.symbol) = false →
      Rejects profile stop state next ((state.reject span).feed next.toList)
  | incomplete {walk : Walk} {next : Option Fed} {reaction : Reaction ρ} :
      state.mode = .operator walk → walk.terminal = none →
      (∀ token, .token token ∈ reaction.reports → token.kind = .unexpected) →
      Rejects profile stop state next reaction
  | malformed {number : Nat} {kind : Kind} {span : Span} {message : String} {next : Option Fed}
      {reaction : Reaction ρ} : state.mode = .literal number kind →
      reaction.reports = (failLiteral state span message).reports →
      span.start = state.tokenStart →
      (next.elim (span.stop = stop) fun fed => span.stop = fed.offset ∨ span.stop = fed.stop) →
      Rejects profile stop state next reaction
  | unclosed {text : List Char} {seen : Nat} {crossed : Bool} :
      state.mode = .blockComment text seen crossed →
      Rejects profile stop state none (state.reject ⟨state.tokenStart, stop⟩)

/-- What the machine can report at a symbol, or at the end of the input when there is none. -/
inductive Utters (profile : Profile ρ) (stop : Nat) (state : ScanState ρ) :
    Option Fed → Reaction ρ → Prop
  | routine {next : Option Fed} {reaction : Reaction ρ} : Routine reaction →
      Utters profile stop state next reaction
  | begun {fed : Fed} {node : NodeId} {reaction : Reaction ρ} : state.mode = .idle →
      profile.operators.advance Trie.root fed.symbol = some node →
      Closes profile node fed.span reaction → Utters profile stop state (some fed) reaction
  | continued {walk : Walk} {fed : Fed} {node : NodeId} {reaction : Reaction ρ} :
      state.mode = .operator walk → profile.operators.advance walk.node fed.symbol = some node →
      Closes profile node ⟨state.tokenStart, fed.stop⟩ reaction →
      Utters profile stop state (some fed) reaction
  | passed {walk : Walk} {node : NodeId} {count : Nat} {next : Option Fed}
      {reaction : Reaction ρ} : state.mode = .operator walk →
      walk.terminal = some (node, count) →
      Closes profile node ⟨state.tokenStart, ((walk.pending.drop count).head?.map
        Located.offset).getD (next.elim stop fun fed => fed.offset)⟩ reaction →
      Utters profile stop state next reaction
  | rejected {next : Option Fed} {reaction : Reaction ρ} :
      Rejects profile stop state next reaction → Utters profile stop state next reaction

section Reactions

variable (sound : profile.Sound)

include sound

theorem firstRule_utters (idle : state.mode = .idle)
    (found : firstRule profile (starting state fed) fed = some reaction) :
    Utters profile stop state (some fed) reaction := by
  cases ruling_of_firstRule found with
  | continuation | blank | point | numberPrefix | number | identifier =>
      exact .routine (routine_of_silent rfl)
  | single known =>
      refine .routine (routine_of_token rfl ?_)
      rcases known with rfl | rfl | rfl | ⟨node, named⟩
      · exact (show Kind.linefeed.IsRoutine by decide)
      · exact (show Kind.escape.IsRoutine by decide)
      · exact (show Kind.strayPunct.IsRoutine by decide)
      · have category := sound.bracketKinds node _ named
        exact Kind.isRoutine_of_category (by simp [category]) (by simp [category])
  | literal => exact .routine (reachLiteral_routine sound _ _)
  | operator edge => exact .begun idle edge (reachOperator_closes sound [] edge none)

theorem stuckOperator_utters {walk : Walk} (traces : walk.Traces profile.operators)
    (mode : state.mode = .operator walk) (next : Option Fed) :
    Utters profile stop state next
      ((stuckOperator profile state walk (next.elim stop fun fed => fed.offset)).feed
        next.toList) := by
  cases terminal : walk.terminal with
  | none =>
      refine .rejected (.incomplete mode terminal fun token member => ?_)
      have stuck := stuckOperator_stuck profile state walk (next.elim stop fun fed => fed.offset)
      generalize stuckOperator profile state walk (next.elim stop fun fed => fed.offset) = reaction
        at stuck member
      cases stuck with
      | passed some => simp [terminal] at some
      | rejected =>
          obtain rfl : token = _ := by simpa [ScanState.reject, ScanState.emit] using member
          rfl
      | empty => simp at member
  | some passed => exact .passed mode terminal (stuckOperator_closes sound traces terminal _)

theorem resolvePrefix_utters {pending : List Located}
    (mode : state.mode = .numberPrefix node pending) (next : Option Fed) :
    Utters profile stop state next (resolvePrefix profile state node pending next) := by
  have plain := defaultNumeral_isNumber sound pending
  obtain ⟨_, resolved, answer⟩ := resolvePrefix_resolved profile state node pending next
  rw [answer]
  cases resolved with
  | spanless | opens | goesOn => exact .routine (routine_of_silent rfl)
  | alone _ known => exact .routine (routine_finishNumber (sound.numberKinds node _ known).1)
  | digits => exact .routine (routine_finishNumber plain)
  | rejected spanned digits => exact .rejected (.digitless mode spanned digits)

omit sound in
theorem readLiteral_utters {number : Nat} {kind : Kind} (mode : state.mode = .literal number kind)
    (literal : kind.isLiteral = true) :
    Utters profile stop state (some fed) (readLiteral profile state number kind fed) := by
  have continued := readLiteral_continued profile state number kind fed
  generalize readLiteral profile state number kind fed = reaction at continued ⊢
  cases continued with
  | unread | proceeds => exact .routine (routine_of_silent rfl)
  | proceedsWith => exact .routine (by simp [Routine, Report.IsRoutine])
  | stops => exact .routine (finishLiteral_routine literal _)
  | stopsWith => exact .routine (finishLiteral_routine literal _).notify
  | failsBefore => exact .rejected (.malformed mode rfl rfl (Or.inl rfl))
  | fails => exact .rejected (.malformed mode rfl rfl (Or.inr rfl))

omit sound in
theorem closeLiteral_utters {number : Nat} {kind : Kind} (mode : state.mode = .literal number kind)
    (literal : kind.isLiteral = true) :
    Utters profile stop state none (closeLiteral state number kind stop) := by
  have closed := closeLiteral_closed state number kind stop
  generalize closeLiteral state number kind stop = reaction at closed ⊢
  cases closed with
  | unread => exact .routine (routine_of_silent rfl)
  | stops => exact .routine (finishLiteral_routine literal _)
  | stopsWith => exact .routine (finishLiteral_routine literal _).notify
  | fails => exact .rejected (.malformed mode rfl rfl rfl)

theorem Answered.utters {next : Option Fed} (answered : Answered profile stop state next reaction)
    (valid : state.Valid profile) : Utters profile stop state next reaction := by
  have known := valid
  unfold ScanState.Valid at known
  cases answered with
  | @between fed mode =>
      rw [dispatch_eq_firstRule]
      cases found : firstRule profile (starting state fed) fed with
      | none => exact .rejected (.unruled mode found)
      | some reaction => exact firstRule_utters sound mode found
  | takes | abandons => exact .routine (routine_of_silent rfl)
  | completes mode completed =>
      exact .routine (routine_of_token rfl (completed.isRoutine mode valid))
  | linefeed => exact .routine (routine_of_token rfl (show Kind.linefeed.IsRoutine by decide))
  | resolves mode => exact resolvePrefix_utters sound mode _
  | releases mode =>
      rw [mode] at known
      exact .routine (releaseDot_routine known _ _)
  | @extendsOperator walk _ _ mode _ edge =>
      exact .continued mode edge (reachOperator_closes sound walk.pending edge walk.terminal)
  | endsOperator mode =>
      rw [mode] at known
      exact stuckOperator_utters sound known mode _
  | closesBlock =>
      exact .routine (routine_of_token rfl (show Kind.blockComment.IsRoutine by decide))
  | unclosed mode => exact .rejected (.unclosed mode)
  | extendsIntroduction => exact .routine (reachLiteral_routine sound _ _)
  | endsIntroduction mode =>
      rw [mode] at known
      exact .routine (stuckLiteral_routine sound known)
  | reads mode =>
      rw [mode] at known
      exact readLiteral_utters mode known.2
  | closesLiteral mode =>
      rw [mode] at known
      exact closeLiteral_utters mode known.2
  | joins | joinsBefore => exact .routine (joinLines_routine _ _)

/-- Every reaction to the next symbol of a queue, or to the end of the input behind it, is one
of the known ones. -/
theorem next_utters {queue rest : List Fed} (valid : state.Valid profile)
    (next : nextReaction? profile (some stop) state queue = some (reaction, rest)) :
    ∃ symbol : Option Fed, queue = symbol.toList ++ rest ∧ (symbol = none → rest = []) ∧
      Utters profile stop state symbol reaction := by
  obtain ⟨symbol, same, last, answered⟩ := answered_next next
  exact ⟨symbol, same, last, answered.utters sound valid⟩

end Reactions

/-! ## Reports that reject nothing -/

/-- The report neither rejects input nor tells about an unknown operator. -/
def Accepting : Report → Prop
  | .token delivered => delivered.kind ≠ .unexpected
  | .literalMessage .. => True
  | .unexpected .. | .unknownOperator _ => False

omit [Literal.Reader ρ] in
theorem Closes.accepting {reaction : Reaction ρ} {node : NodeId} {span : Span}
    (closes : Closes profile node span reaction) :
    ∀ report ∈ reaction.reports, Accepting report := by
  rcases closes with silent | ⟨token, told, operator, _⟩
  · simp [silent]
  · rw [told]
    refine List.forall_mem_singleton.mpr ?_
    rintro kind
    rw [kind] at operator
    exact absurd operator (by decide)

theorem Rejects.unexpected {next : Option Fed} {token : Token}
    (rejects : Rejects profile stop state next reaction)
    (member : .token token ∈ reaction.reports) : token.kind = .unexpected := by
  cases rejects with
  | unruled | digitless | unclosed =>
      obtain rfl : token = _ := by simpa [ScanState.reject, ScanState.emit] using member
      rfl
  | incomplete _ _ tokens => exact tokens token member
  | malformed _ same =>
      rw [same] at member
      obtain rfl : token = _ := by
        simpa [failLiteral, ScanState.reject, ScanState.emit] using member
      rfl

theorem rejects_of_utters {stop : Nat} {next : Option Fed} {reaction : Reaction ρ}
    {report : Report} (utters : Utters profile stop state next reaction)
    (member : report ∈ reaction.reports) (unaccepted : ¬Accepting report) :
    Rejects profile stop state next reaction := by
  cases utters with
  | rejected rejects => exact rejects
  | begun _ _ closes => exact absurd (closes.accepting _ member) unaccepted
  | continued _ _ closes => exact absurd (closes.accepting _ member) unaccepted
  | passed _ _ closes => exact absurd (closes.accepting _ member) unaccepted
  | routine routine =>
      have harmless := routine _ member
      cases report with
      | token token => exact absurd harmless.1 unaccepted
      | literalMessage => exact absurd trivial unaccepted
      | unexpected | unknownOperator => exact absurd harmless id

end Scan

end Lexing
