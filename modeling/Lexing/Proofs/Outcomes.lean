import Mathlib.Tactic.SplitIfs
import Lexing.Proofs.Reaction

/-!
# The outcomes of the handlers

A handler that decides between several answers has one of a few outcomes: a walk is closed, a
prefix is resolved, a literal is opened, goes on or is closed.  Each outcome comes with what it
depends on, so what holds of an answer follows from one case for each outcome.  The outcomes that
a sound profile never has are among them.
-/

namespace Lexing.Scan

variable {ρ : Type} {profile : Profile ρ} {state : ScanState ρ} {node : NodeId}
  {pending : List Located} {next : Option Fed} {number : Nat} {kind : Kind} {fed : Fed}
  {stop : Nat} {reaction : Reaction ρ}

/-! ## Operators -/

/-- How a walk that ends at a node is closed. -/
inductive ClosedWalk (profile : Profile ρ) (state : ScanState ρ) (node : NodeId) (stop : Nat) :
    Reaction ρ → Prop
  | demoted {fallback : Kind} : profile.operators.kind? node = some .lineComment →
      profile.fallbackAt? node = some fallback →
      profile.options.lineCommentOnlyAtLineStart = true → state.lineStart = false →
      ClosedWalk profile state node stop (state.finish fallback stop)
  | lineComment : profile.operators.kind? node = some .lineComment →
      (profile.options.lineCommentOnlyAtLineStart = true →
        (profile.fallbackAt? node).isSome = true → state.lineStart = true) →
      ClosedWalk profile state node stop (state.become (.lineComment []))
  | blockComment : profile.operators.kind? node = some .blockComment →
      ClosedWalk profile state node stop (state.become (.blockComment [] 0 false))
  | operator {kind : Kind} : profile.operators.kind? node = some kind → kind ≠ .lineComment →
      kind ≠ .blockComment → ClosedWalk profile state node stop (state.finish kind stop)
  | unnamed : profile.operators.kind? node = none →
      ClosedWalk profile state node stop (state.finish .unexpected stop)

theorem closeWalk_closed (profile : Profile ρ) (state : ScanState ρ) (node : NodeId) (stop : Nat) :
    ClosedWalk profile state node stop (closeWalk profile state node stop) := by
  unfold closeWalk
  cases known : profile.operators.kind? node with
  | none => exact .unnamed known
  | some kind =>
      rw [Option.getD_some]
      dsimp only
      split_ifs with line block
      · subst line
        cases demoted : profile.options.lineCommentOnlyAtLineStart && !state.lineStart with
        | false =>
            rw [Option.filter_eq_none_iff.mpr (by simp)]
            refine .lineComment known fun only _ => ?_
            simpa [only] using demoted
        | true =>
            simp only [Bool.and_eq_true, Bool.not_eq_true'] at demoted
            cases present : profile.fallbackAt? node with
            | none => exact .lineComment known (by simp [present])
            | some fallback => exact .demoted known present demoted.1 demoted.2
      · subst block
        exact .blockComment known
      · exact .operator known line block

theorem ClosedWalk.frame (closed : ClosedWalk profile state node stop reaction) :
    reaction.state.tokenStart = state.tokenStart ∧ reaction.state.ownClasses = state.ownClasses ∧
      reaction.state.readers = state.readers ∧ reaction.next = [] := by
  cases closed <;> exact ⟨rfl, rfl, rfl, rfl⟩

/-- How a walk along the operators is answered that cannot go on. -/
inductive StuckOperator (profile : Profile ρ) (state : ScanState ρ) (walk : Walk) (stop : Nat) :
    Reaction ρ → Prop
  | passed {node : NodeId} {count : Nat} : walk.terminal = some (node, count) →
      StuckOperator profile state walk stop
        (finishOperator profile state walk.pending node count (some stop))
  | rejected {first : Located} {rest : List Located} {span : Span} : walk.terminal = none →
      walk.pending = first :: rest → Located.spanOf? walk.pending = some span →
      StuckOperator profile state walk stop
        (((state.reject ⟨first.offset, (rest.head?.map Located.offset).getD stop⟩).notify
          (.unknownOperator span)).feed (rest.map Fed.plain))
  | empty : walk.terminal = none → walk.pending = [] →
      StuckOperator profile state walk stop (state.become .idle)

theorem stuckOperator_stuck (profile : Profile ρ) (state : ScanState ρ) (walk : Walk)
    (stop : Nat) :
    StuckOperator profile state walk stop (stuckOperator profile state walk stop) := by
  unfold stuckOperator
  cases terminal : walk.terminal with
  | some passed => exact .passed terminal
  | none =>
      cases pending : walk.pending with
      | nil => exact .empty terminal pending
      | cons first rest =>
          have spanned := Located.spanOf?_cons first rest
          rw [spanned]
          exact .rejected terminal pending (pending ▸ spanned)

/-- An operator that has a last symbol needs no other end than its own. -/
theorem finishOperator_concat {count : Nat} {front : List Located} {last : Located}
    (ends : pending.take count = front ++ [last]) (stop : Option Nat) :
    finishOperator profile state pending node count stop =
      (closeWalk profile state node
        ((((pending.drop count).head?.map Located.offset).or stop).getD last.stop)).feed
          ((pending.drop count).map Fed.plain) := by
  simp [finishOperator, ends]

section Operators

variable (state : ScanState ρ) (profile : Profile ρ) (node : NodeId) (pending : List Located)
  (terminal : Option (NodeId × Nat)) (walk : Walk) (stop : Nat)

/-- The end of a walk is the end of its token, or the start of a comment. -/
theorem closeWalk_mode :
    (closeWalk profile state node stop).state.mode = .idle ∨
      (closeWalk profile state node stop).state.mode = .lineComment [] ∨
      (closeWalk profile state node stop).state.mode = .blockComment [] 0 false := by
  have closed := closeWalk_closed profile state node stop
  generalize closeWalk profile state node stop = reaction at closed ⊢
  cases closed with
  | demoted | operator | unnamed => exact Or.inl rfl
  | lineComment => exact Or.inr (Or.inl rfl)
  | blockComment => exact Or.inr (Or.inr rfl)

@[simp] theorem closeWalk_tokenStart :
    (closeWalk profile state node stop).state.tokenStart = state.tokenStart :=
  (closeWalk_closed profile state node stop).frame.1

@[simp] theorem closeWalk_ownClasses :
    (closeWalk profile state node stop).state.ownClasses = state.ownClasses :=
  (closeWalk_closed profile state node stop).frame.2.1

theorem closeWalk_readers :
    (closeWalk profile state node stop).state.readers = state.readers :=
  (closeWalk_closed profile state node stop).frame.2.2.1

@[simp] theorem closeWalk_next : (closeWalk profile state node stop).next = [] :=
  (closeWalk_closed profile state node stop).frame.2.2.2

@[simp] theorem finishOperator_next (count : Nat) (stop : Option Nat) :
    (finishOperator profile state pending node count stop).next =
      (pending.drop count).map Fed.plain := by
  unfold finishOperator
  rw [Reaction.feed_next, closeWalk_next, List.nil_append]

@[simp] theorem reachOperator_tokenStart :
    (reachOperator profile state node pending terminal).state.tokenStart = state.tokenStart := by
  unfold reachOperator
  split
  · rfl
  · exact closeWalk_tokenStart state profile node _

@[simp] theorem reachOperator_ownClasses :
    (reachOperator profile state node pending terminal).state.ownClasses = state.ownClasses := by
  unfold reachOperator
  split
  · rfl
  · exact closeWalk_ownClasses state profile node _

@[simp] theorem reachOperator_next :
    (reachOperator profile state node pending terminal).next = [] := by
  unfold reachOperator
  split
  · rfl
  · simp

@[simp] theorem stuckOperator_tokenStart :
    (stuckOperator profile state walk stop).state.tokenStart = state.tokenStart := by
  have stuck := stuckOperator_stuck profile state walk stop
  generalize stuckOperator profile state walk stop = reaction at stuck ⊢
  cases stuck with
  | passed => exact closeWalk_tokenStart state profile _ _
  | rejected | empty => rfl

@[simp] theorem stuckOperator_ownClasses :
    (stuckOperator profile state walk stop).state.ownClasses = state.ownClasses := by
  have stuck := stuckOperator_stuck profile state walk stop
  generalize stuckOperator profile state walk stop = reaction at stuck ⊢
  cases stuck with
  | passed => exact closeWalk_ownClasses state profile _ _
  | rejected | empty => rfl

end Operators

/-! ## Numbers -/

/-- A prefix with a base of its own does not need the default one. -/
theorem opensDigits_of_base {base : Nat} (based : kind.numberBase? = some base) (symbol : Char) :
    opensDigits profile kind symbol = ((digitValue? symbol base).isSome ||
      (isSeparator profile symbol && kind.allowsMissingDigits)) := by
  rw [opensDigits, based, Option.getD_some]

/-- What a prefix that is over turns out to be, before the symbol behind it is fed again. -/
inductive ResolvedPrefix (profile : Profile ρ) (state : ScanState ρ) (node : NodeId)
    (pending : List Located) (next : Option Fed) : Reaction ρ → Prop
  | spanless : Located.spanOf? pending = none →
      ResolvedPrefix profile state node pending next (state.become .idle)
  | opens {kind : Kind} : profile.numberPrefixes.kind? node = some kind →
      (next.any fun fed => opensDigits profile kind fed.symbol) = true →
      ResolvedPrefix profile state node pending next (state.become (.number (.ofKind kind)))
  | goesOn : (pending.all fun located => isDefaultDigit profile located.symbol) = true →
      (next.any fun fed => continuesDefault profile fed.symbol) = true →
      ResolvedPrefix profile state node pending next
        (state.become (.number (defaultNumeral profile pending)))
  | alone {kind : Kind} {span : Span} : Located.spanOf? pending = some span →
      profile.numberPrefixes.kind? node = some kind → kind.allowsMissingDigits = true →
      ResolvedPrefix profile state node pending next
        (state.finishNumber (.ofKind kind) span.stop)
  | digits {span : Span} : Located.spanOf? pending = some span →
      (pending.all fun located => isDefaultDigit profile located.symbol) = true →
      ResolvedPrefix profile state node pending next
        (state.finishNumber (defaultNumeral profile pending) span.stop)
  | rejected {span : Span} : Located.spanOf? pending = some span →
      (pending.all fun located => isDefaultDigit profile located.symbol) = false →
      ResolvedPrefix profile state node pending next (state.reject span)

theorem resolvePrefix_resolved (profile : Profile ρ) (state : ScanState ρ) (node : NodeId)
    (pending : List Located) (next : Option Fed) :
    ∃ reaction, ResolvedPrefix profile state node pending next reaction ∧
      resolvePrefix profile state node pending next = reaction.feed next.toList := by
  unfold resolvePrefix
  cases spanned : Located.spanOf? pending with
  | none => exact ⟨_, .spanless spanned, rfl⟩
  | some span =>
      dsimp only
      cases opened : (profile.numberPrefixes.kind? node).filter fun kind =>
          next.any fun fed => opensDigits profile kind fed.symbol with
      | some kind =>
          obtain ⟨known, opens⟩ := Option.filter_eq_some_iff.mp opened
          exact ⟨_, .opens known opens, rfl⟩
      | none =>
          dsimp only
          cases digits : pending.all fun located => isDefaultDigit profile located.symbol with
          | true =>
              cases on : next.any fun fed => continuesDefault profile fed.symbol with
              | true => exact ⟨_, .goesOn digits on, rfl⟩
              | false =>
                  cases single : (profile.numberPrefixes.kind? node).filter
                      Kind.allowsMissingDigits with
                  | some kind =>
                      obtain ⟨known, allowed⟩ := Option.filter_eq_some_iff.mp single
                      exact ⟨_, .alone spanned known allowed, rfl⟩
                  | none => exact ⟨_, .digits spanned digits, rfl⟩
          | false =>
              cases single : (profile.numberPrefixes.kind? node).filter
                  Kind.allowsMissingDigits with
              | some kind =>
                  obtain ⟨known, allowed⟩ := Option.filter_eq_some_iff.mp single
                  exact ⟨_, .alone spanned known allowed, rfl⟩
              | none => exact ⟨_, .rejected spanned digits, rfl⟩

theorem ResolvedPrefix.frame
    (resolved : ResolvedPrefix profile state node pending next reaction) :
    reaction.state.tokenStart = state.tokenStart ∧ reaction.state.ownClasses = state.ownClasses ∧
      reaction.state.readers = state.readers ∧ reaction.next = [] := by
  cases resolved <;> exact ⟨rfl, rfl, rfl, rfl⟩

section Numbers

variable (state : ScanState ρ) (profile : Profile ρ) (node : NodeId) (pending : List Located)
  (next : Option Fed) (value : Numeral) (dot : Nat) (hasInteger : Bool)

/-- A prefix either goes on as a number or is over. -/
theorem resolvePrefix_mode :
    (resolvePrefix profile state node pending next).state.mode = .idle ∨
      ∃ value, (resolvePrefix profile state node pending next).state.mode = .number value := by
  obtain ⟨_, resolved, answer⟩ := resolvePrefix_resolved profile state node pending next
  rw [answer]
  cases resolved with
  | spanless | alone | digits | rejected => exact Or.inl rfl
  | opens | goesOn => exact Or.inr ⟨_, rfl⟩

@[simp] theorem resolvePrefix_tokenStart :
    (resolvePrefix profile state node pending next).state.tokenStart = state.tokenStart := by
  obtain ⟨_, resolved, answer⟩ := resolvePrefix_resolved profile state node pending next
  rw [answer]
  exact resolved.frame.1

@[simp] theorem resolvePrefix_ownClasses :
    (resolvePrefix profile state node pending next).state.ownClasses = state.ownClasses := by
  obtain ⟨_, resolved, answer⟩ := resolvePrefix_resolved profile state node pending next
  rw [answer]
  exact resolved.frame.2.1

theorem resolvePrefix_readers :
    (resolvePrefix profile state node pending next).state.readers = state.readers := by
  obtain ⟨_, resolved, answer⟩ := resolvePrefix_resolved profile state node pending next
  rw [answer]
  exact resolved.frame.2.2.1

@[simp] theorem resolvePrefix_next :
    (resolvePrefix profile state node pending next).next = next.toList := by
  obtain ⟨_, resolved, answer⟩ := resolvePrefix_resolved profile state node pending next
  rw [answer, Reaction.feed_next, resolved.frame.2.2.2, List.nil_append]

@[simp] theorem releaseDot_mode : (releaseDot state value dot hasInteger).state.mode = .idle := by
  cases hasInteger <;> rfl

@[simp] theorem releaseDot_tokenStart :
    (releaseDot state value dot hasInteger).state.tokenStart = state.tokenStart := by
  cases hasInteger <;> rfl

@[simp] theorem releaseDot_ownClasses :
    (releaseDot state value dot hasInteger).state.ownClasses = state.ownClasses := by
  cases hasInteger <;> rfl

@[simp] theorem releaseDot_next :
    (releaseDot state value dot hasInteger).next = [.exemptPoint dot] := by
  cases hasInteger <;> rfl

end Numbers

/-! ## Line continuations -/

section Continuations

variable (state : ScanState ρ) (resume : Resume) (escape : Located) (stop : Nat)

@[simp] theorem joinLines_mode : (joinLines state resume escape stop).state.mode = resume.mode := by
  cases resume <;> rfl

@[simp] theorem joinLines_tokenStart :
    (joinLines state resume escape stop).state.tokenStart = state.tokenStart := by
  cases resume <;> rfl

@[simp] theorem joinLines_ownClasses :
    (joinLines state resume escape stop).state.ownClasses = state.ownClasses := by
  cases resume <;> rfl

@[simp] theorem joinLines_next : (joinLines state resume escape stop).next = [] := by
  cases resume <;> rfl

@[simp] theorem abandonContinuation_state :
    (abandonContinuation state resume escape).state = state.enter resume.mode :=
  rfl
@[simp] theorem abandonContinuation_reports :
    (abandonContinuation state resume escape).reports = [] :=
  rfl
@[simp] theorem abandonContinuation_next :
    (abandonContinuation state resume escape).next =
      [{ toLocated := escape, exempt := { continuation := true } }] :=
  rfl

end Continuations

/-! ## Literals -/

section Literals

variable [Literal.Reader ρ]

/-- How the symbols that introduce a literal are answered.  Only with a reader the literal is
opened. -/
inductive OpenedLiteral (profile : Profile ρ) (state : ScanState ρ) (node : NodeId)
    (introduction : List Located) : Reaction ρ → Prop
  | unbound : profile.literals.binding? node = none →
      OpenedLiteral profile state node introduction
        (state.finish ((profile.literals.kind? node).getD .unexpected)
          (((Located.spanOf? introduction).map Span.stop).getD state.tokenStart))
  | unread {number : Nat} : profile.literals.binding? node = some number →
      obtainReader? profile state number = none →
      OpenedLiteral profile state node introduction
        (state.finish ((profile.literals.kind? node).getD .unexpected)
          (((Located.spanOf? introduction).map Span.stop).getD state.tokenStart))
  | opens {number : Nat} {reader : ρ} : profile.literals.binding? node = some number →
      obtainReader? profile state number = some reader →
      OpenedLiteral profile state node introduction
        ((state.keepReader number (Literal.Reader.reset reader)).become
          (.literal number ((profile.literals.kind? node).getD .unexpected)))

theorem openLiteral_opened (profile : Profile ρ) (state : ScanState ρ) (node : NodeId)
    (introduction : List Located) :
    OpenedLiteral profile state node introduction
      (openLiteral profile state node introduction) := by
  unfold openLiteral
  cases bound : profile.literals.binding? node with
  | none => exact .unbound bound
  | some number =>
      dsimp only
      cases available : obtainReader? profile state number with
      | none => exact .unread bound available
      | some reader => exact .opens bound available

theorem OpenedLiteral.frame {introduction : List Located}
    (opened : OpenedLiteral profile state node introduction reaction) :
    reaction.state.tokenStart = state.tokenStart ∧ reaction.state.ownClasses = state.ownClasses ∧
      reaction.next = [] := by
  cases opened <;> exact ⟨rfl, rfl, rfl⟩

/-- Where a walk to a literal has come to: it waits for the next symbol, or the literal is
opened. -/
inductive ReachedLiteral (profile : Profile ρ) (state : ScanState ρ) (node : NodeId)
    (pending : List Located) (terminal : Option (NodeId × Nat)) : Reaction ρ → Prop
  | waits : profile.literals.kind? node = none ∨ profile.literals.hasChildren node = true →
      ReachedLiteral profile state node pending terminal
        (state.become (.literalPrefix { node, pending, terminal :=
          if (profile.literals.kind? node).isSome then some (node, pending.length)
          else terminal }))
  | opens : (profile.literals.kind? node).isSome = true →
      profile.literals.hasChildren node = false →
      ReachedLiteral profile state node pending terminal (openLiteral profile state node pending)

theorem reachLiteral_reached (profile : Profile ρ) (state : ScanState ρ) (node : NodeId)
    (pending : List Located) (terminal : Option (NodeId × Nat)) :
    ReachedLiteral profile state node pending terminal
      (reachLiteral profile state node pending terminal) := by
  unfold reachLiteral
  cases known : profile.literals.kind? node with
  | none =>
      have waits : ReachedLiteral profile state node pending terminal _ := .waits (Or.inl known)
      rwa [known] at waits
  | some kind =>
      cases longer : profile.literals.hasChildren node with
      | true =>
          have waits : ReachedLiteral profile state node pending terminal _ :=
            .waits (Or.inr longer)
          rwa [known] at waits
      | false => exact .opens (by simp [known]) longer

/-- How a symbol inside a literal is answered, by the signal of the reader. -/
inductive ContinuedLiteral (profile : Profile ρ) (state : ScanState ρ) (number : Nat) (kind : Kind)
    (fed : Fed) : Reaction ρ → Prop
  | unread : state.reader? number = none →
      ContinuedLiteral profile state number kind fed
        ((state.become .idle).feed [.plain fed.toLocated])
  | proceeds {reader after : ρ} : state.reader? number = some reader →
      Literal.Reader.read reader fed.symbol = (.proceed, after) →
      ContinuedLiteral profile state number kind fed { state := state.keepReader number after }
  | proceedsWith {reader after : ρ} {message : String} : state.reader? number = some reader →
      Literal.Reader.read reader fed.symbol = (.proceedWith message, after) →
      ContinuedLiteral profile state number kind fed
        { state := state.keepReader number after,
          reports := [.literalMessage ⟨state.tokenStart, fed.stop⟩ message] }
  | stops {reader after : ρ} : state.reader? number = some reader →
      Literal.Reader.read reader fed.symbol = (.stop, after) →
      ContinuedLiteral profile state number kind fed
        (finishLiteral (state.keepReader number after) number kind after fed.stop)
  | stopsWith {reader after : ρ} {message : String} : state.reader? number = some reader →
      Literal.Reader.read reader fed.symbol = (.stopWith message, after) →
      ContinuedLiteral profile state number kind fed
        ((finishLiteral (state.keepReader number after) number kind after fed.stop).notify
          (.literalMessage ⟨state.tokenStart, fed.stop⟩ message))
  | failsBefore {reader after : ρ} {message : String} : state.reader? number = some reader →
      Literal.Reader.read reader fed.symbol = (.fail message, after) →
      (state.classify profile fed.symbol).linefeed = true →
      ContinuedLiteral profile state number kind fed
        ((failLiteral (state.keepReader number after) ⟨state.tokenStart, fed.offset⟩ message).feed
          [.plain fed.toLocated])
  | fails {reader after : ρ} {message : String} : state.reader? number = some reader →
      Literal.Reader.read reader fed.symbol = (.fail message, after) →
      (state.classify profile fed.symbol).linefeed = false →
      ContinuedLiteral profile state number kind fed
        (failLiteral (state.keepReader number after) ⟨state.tokenStart, fed.stop⟩ message)

theorem readLiteral_continued (profile : Profile ρ) (state : ScanState ρ) (number : Nat)
    (kind : Kind) (fed : Fed) :
    ContinuedLiteral profile state number kind fed
      (readLiteral profile state number kind fed) := by
  unfold readLiteral
  cases available : state.reader? number with
  | none => exact .unread available
  | some reader =>
      dsimp only
      rcases answer : Literal.Reader.read reader fed.symbol with ⟨signal, after⟩
      cases signal with
      | proceed => exact .proceeds available answer
      | proceedWith message => exact .proceedsWith available answer
      | stop => exact .stops available answer
      | stopWith message => exact .stopsWith available answer
      | fail message =>
          dsimp only
          split_ifs with lineEnd
          · exact .failsBefore available answer lineEnd
          · exact .fails available answer (eq_false_of_ne_true lineEnd)

theorem ContinuedLiteral.frame
    (continued : ContinuedLiteral profile state number kind fed reaction) :
    reaction.state.tokenStart = state.tokenStart ∧
      reaction.state.ownClasses = state.ownClasses := by
  cases continued <;> exact ⟨rfl, rfl⟩

/-- How a literal is answered that the end of the input cuts short. -/
inductive ClosedLiteral (state : ScanState ρ) (number : Nat) (kind : Kind) (stop : Nat) :
    Reaction ρ → Prop
  | unread : state.reader? number = none →
      ClosedLiteral state number kind stop (state.become .idle)
  | stops {reader after : ρ} : state.reader? number = some reader →
      Literal.Reader.finish reader = (.stop, after) →
      ClosedLiteral state number kind stop
        (finishLiteral (state.keepReader number after) number kind after stop)
  | stopsWith {reader after : ρ} {message : String} : state.reader? number = some reader →
      Literal.Reader.finish reader = (.stopWith message, after) →
      ClosedLiteral state number kind stop
        ((finishLiteral (state.keepReader number after) number kind after stop).notify
          (.literalMessage ⟨state.tokenStart, stop⟩ message))
  | fails {reader after : ρ} {signal : Literal.Signal} {message : String} :
      state.reader? number = some reader → Literal.Reader.finish reader = (signal, after) →
      signal = .fail message ∨ signal = .proceedWith message ∨
        signal = .proceed ∧ message = Literal.unterminated →
      ClosedLiteral state number kind stop
        (failLiteral (state.keepReader number after) ⟨state.tokenStart, stop⟩ message)

theorem closeLiteral_closed (state : ScanState ρ) (number : Nat) (kind : Kind) (stop : Nat) :
    ClosedLiteral state number kind stop (closeLiteral state number kind stop) := by
  unfold closeLiteral
  cases available : state.reader? number with
  | none => exact .unread available
  | some reader =>
      dsimp only
      rcases answer : Literal.Reader.finish reader with ⟨signal, after⟩
      cases signal with
      | proceed => exact .fails available answer (Or.inr (Or.inr ⟨rfl, rfl⟩))
      | proceedWith message => exact .fails available answer (Or.inr (Or.inl rfl))
      | stop => exact .stops available answer
      | stopWith message => exact .stopsWith available answer
      | fail message => exact .fails available answer (Or.inl rfl)

theorem ClosedLiteral.frame (closed : ClosedLiteral state number kind stop reaction) :
    reaction.state.mode = .idle ∧ reaction.state.tokenStart = state.tokenStart ∧
      reaction.state.ownClasses = state.ownClasses ∧ reaction.next = [] := by
  cases closed <;> exact ⟨rfl, rfl, rfl, rfl⟩

variable (state : ScanState ρ) (profile : Profile ρ) (node : NodeId) (pending : List Located)
  (terminal : Option (NodeId × Nat)) (walk : Walk) (number : Nat) (kind : Kind) (stop : Nat)

/-- A literal is opened, unless its reader is missing. -/
theorem openLiteral_mode :
    (openLiteral profile state node pending).state.mode = .idle ∨
      ∃ number kind, (openLiteral profile state node pending).state.mode =
        .literal number kind := by
  have opened := openLiteral_opened profile state node pending
  generalize openLiteral profile state node pending = reaction at opened ⊢
  cases opened with
  | unbound | unread => exact Or.inl rfl
  | opens => exact Or.inr ⟨_, _, rfl⟩

@[simp] theorem openLiteral_tokenStart :
    (openLiteral profile state node pending).state.tokenStart = state.tokenStart :=
  (openLiteral_opened profile state node pending).frame.1

@[simp] theorem openLiteral_ownClasses :
    (openLiteral profile state node pending).state.ownClasses = state.ownClasses :=
  (openLiteral_opened profile state node pending).frame.2.1

@[simp] theorem openLiteral_next : (openLiteral profile state node pending).next = [] :=
  (openLiteral_opened profile state node pending).frame.2.2

@[simp] theorem reachLiteral_tokenStart :
    (reachLiteral profile state node pending terminal).state.tokenStart = state.tokenStart := by
  have reached := reachLiteral_reached profile state node pending terminal
  generalize reachLiteral profile state node pending terminal = reaction at reached ⊢
  cases reached with
  | waits => rfl
  | opens => exact openLiteral_tokenStart state profile node pending

@[simp] theorem reachLiteral_ownClasses :
    (reachLiteral profile state node pending terminal).state.ownClasses = state.ownClasses := by
  have reached := reachLiteral_reached profile state node pending terminal
  generalize reachLiteral profile state node pending terminal = reaction at reached ⊢
  cases reached with
  | waits => rfl
  | opens => exact openLiteral_ownClasses state profile node pending

@[simp] theorem reachLiteral_next :
    (reachLiteral profile state node pending terminal).next = [] := by
  have reached := reachLiteral_reached profile state node pending terminal
  generalize reachLiteral profile state node pending terminal = reaction at reached ⊢
  cases reached with
  | waits => rfl
  | opens => exact openLiteral_next state profile node pending

@[simp] theorem stuckLiteral_tokenStart :
    (stuckLiteral profile state walk).state.tokenStart = state.tokenStart := by
  unfold stuckLiteral
  split
  · rfl
  · exact openLiteral_tokenStart state profile _ _

@[simp] theorem stuckLiteral_ownClasses :
    (stuckLiteral profile state walk).state.ownClasses = state.ownClasses := by
  unfold stuckLiteral
  split
  · rfl
  · exact openLiteral_ownClasses state profile _ _

/-- A literal goes on, or it is over. -/
theorem readLiteral_mode (fed : Fed) :
    (readLiteral profile state number kind fed).state.mode = state.mode ∨
      (readLiteral profile state number kind fed).state.mode = .idle := by
  have continued := readLiteral_continued profile state number kind fed
  generalize readLiteral profile state number kind fed = reaction at continued ⊢
  cases continued with
  | proceeds | proceedsWith => exact Or.inl rfl
  | unread | stops | stopsWith | failsBefore | fails => exact Or.inr rfl

@[simp] theorem readLiteral_tokenStart (fed : Fed) :
    (readLiteral profile state number kind fed).state.tokenStart = state.tokenStart :=
  (readLiteral_continued profile state number kind fed).frame.1

@[simp] theorem readLiteral_ownClasses (fed : Fed) :
    (readLiteral profile state number kind fed).state.ownClasses = state.ownClasses :=
  (readLiteral_continued profile state number kind fed).frame.2

@[simp] theorem closeLiteral_mode :
    (closeLiteral state number kind stop).state.mode = .idle :=
  (closeLiteral_closed state number kind stop).frame.1

@[simp] theorem closeLiteral_tokenStart :
    (closeLiteral state number kind stop).state.tokenStart = state.tokenStart :=
  (closeLiteral_closed state number kind stop).frame.2.1

@[simp] theorem closeLiteral_ownClasses :
    (closeLiteral state number kind stop).state.ownClasses = state.ownClasses :=
  (closeLiteral_closed state number kind stop).frame.2.2.1

@[simp] theorem closeLiteral_next : (closeLiteral state number kind stop).next = [] :=
  (closeLiteral_closed state number kind stop).frame.2.2.2

end Literals

/-! ## Comments -/

/-- As long as the closing marker is not complete, its next symbol decides. -/
theorem markerSeen_of_lt {marker : List Char} {seen : Nat} (bound : seen < marker.length)
    (symbol : Char) : markerSeen marker seen symbol =
      if marker[seen] = symbol then seen + 1 else if marker.head? = some symbol then 1 else 0 := by
  simp [markerSeen, List.getElem?_eq_getElem bound]

/-- The last symbols of a comment are those that were seen of the closing marker. -/
theorem marker_prefix {marker one : List Char} {seen : Nat} {symbol : Char}
    (starts : (marker.take seen).reverse <+: one) :
    (marker.take (markerSeen marker seen symbol)).reverse <+: symbol :: one := by
  unfold markerSeen
  split
  case isTrue next =>
    rw [List.take_add_one, next]
    simpa using starts
  split
  case isTrue first =>
    obtain ⟨rest, rfl⟩ := List.head?_eq_some_iff.mp first
    simp
  case isFalse => simp

end Lexing.Scan
