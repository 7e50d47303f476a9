import Lexing.Proofs.Answers
import Lexing.Proofs.Building
import Lexing.Proofs.Numerals
import Lexing.Sink.Recorder

/-!
# What a scan state represents

Between two symbols a mode is more than its data: the pending symbols of a walk
spell the way to its node, the terminal of a walk is the deepest sequence that it
has passed, the reader of a literal exists.  Every reaction of the machine keeps
this, whatever classes the symbols have, and so does every call on a scan.

The machine has defaults for data that break these rules.  None of them is ever
used.
-/

namespace Lexing

variable {ρ : Type}

/-! ## The invariant -/

/-- The pending symbols lead to the node, and the terminal is the deepest sequence
on the way. -/
structure Walk.Traces (trie : Trie) (walk : Walk) : Prop where
  nonempty : walk.pending ≠ []
  reaches : trie.find? (walk.pending.map Located.symbol) = some walk.node
  deepest : trie.Deepest (walk.pending.map Located.symbol) walk.terminal

/-- A line continuation interrupts a walk of the operators. -/
def Resume.Valid (profile : Profile ρ) : Resume → Prop
  | .operator walk => walk.Traces profile.operators
  | .idle | .identifier | .lineComment _ => True

/-- The mode of a scan, seen together with its profile and its readers. -/
def ScanState.Valid (profile : Profile ρ) (state : ScanState ρ) : Prop :=
  match state.mode with
  | .idle | .blank _ | .identifier | .lineComment _ => True
  | .numberPrefix node pending =>
      pending ≠ [] ∧ profile.numberPrefixes.find? (pending.map Located.symbol) = some node
  | .number value | .maybeFloat value _ _ | .float value => value.kind.isNumber = true
  | .operator walk => walk.Traces profile.operators
  | .blockComment _ seen _ => seen < profile.blockClose.length
  | .literalPrefix walk => walk.Traces profile.literals
  | .literal number kind => (state.reader? number).isSome = true ∧ kind.isLiteral = true
  | .continuation resume _ _ => resume.Valid profile

theorem ScanState.valid_idle {profile : Profile ρ} {state : ScanState ρ}
    (idle : state.mode = .idle) : state.Valid profile := by
  simp [Valid, idle]

theorem Resume.valid_enter {profile : Profile ρ} {state : ScanState ρ} {resume : Resume}
    (valid : resume.Valid profile) : (state.enter resume.mode).Valid profile := by
  cases resume with
  | operator walk => exact valid
  | idle => exact ScanState.valid_idle rfl
  | identifier => simp [ScanState.Valid, Resume.mode]
  | lineComment text => simp [ScanState.Valid, Resume.mode]

/-- A mode that a line continuation can interrupt is as valid as what it resumes. -/
theorem Resume.valid_of_mode {profile : Profile ρ} {state : ScanState ρ} {resume : Resume}
    (mode : state.mode = resume.mode) (valid : state.Valid profile) : resume.Valid profile := by
  unfold ScanState.Valid at valid
  rw [mode] at valid
  cases resume with
  | operator walk => exact valid
  | idle | identifier | lineComment => trivial

namespace Walk.Traces

variable {trie : Trie} {walk : Walk} {node : NodeId}

/-- A walk that has gone along one symbol. -/
theorem first (sound : trie.Sound) {located : Located}
    (edge : trie.advance Trie.root located.symbol = some node) :
    Traces trie
      { node, pending := [located],
        terminal := if (trie.kind? node).isSome then some (node, 1) else none } := by
  have found : trie.find? [located.symbol] = some node := by
    rw [Trie.find?, Trie.walkFrom_singleton, edge]
  refine ⟨by simp, found, ?_⟩
  dsimp only [List.map_cons, List.map_nil]
  split
  case isTrue ended =>
    exact sound.deepest_whole (by simp) found ended
  case isFalse unended =>
    exact trie.deepest_nil.snoc_bare found (Option.not_isSome_iff_eq_none.mp unended)

theorem snoc (traces : Traces trie walk) (sound : trie.Sound) {located : Located}
    (edge : trie.advance walk.node located.symbol = some node) :
    Traces trie
      { node, pending := walk.pending ++ [located],
        terminal := if (trie.kind? node).isSome then some (node, walk.pending.length + 1)
          else walk.terminal } := by
  have found := Trie.find?_snoc traces.reaches edge
  refine ⟨by simp, by simpa using found, ?_⟩
  simp only [List.map_append, List.map_cons, List.map_nil]
  split
  case isTrue ended =>
    simpa using sound.deepest_whole (by simp) found ended
  case isFalse unended =>
    exact traces.deepest.snoc_bare found (Option.not_isSome_iff_eq_none.mp unended)

theorem terminal_bound (traces : Traces trie walk) {count : Nat}
    (terminal : walk.terminal = some (node, count)) :
    0 < count ∧ count ≤ walk.pending.length ∧ (trie.kind? node).isSome = true := by
  have deepest := traces.deepest
  rw [terminal] at deepest
  obtain ⟨positive, below, _, _, ended, _⟩ := deepest
  exact ⟨positive, by simpa using below, ended⟩

theorem take_ne_nil (traces : Traces trie walk) {count : Nat}
    (terminal : walk.terminal = some (node, count)) : walk.pending.take count ≠ [] := by
  obtain ⟨positive, _, _⟩ := traces.terminal_bound terminal
  rw [Ne, List.take_eq_nil_iff]
  rintro (zero | empty)
  · omega
  · exact traces.nonempty empty

/-- A walk that has passed no sequence has passed none with its first symbol. -/
theorem first_bare (traces : Traces trie walk) (incomplete : walk.terminal = none)
    {first : Located} {others : List Located} (pending : walk.pending = first :: others) :
    ∃ child, trie.advance Trie.root first.symbol = some child ∧ trie.kind? child = none := by
  have reaches := traces.reaches
  have deepest := traces.deepest
  rw [incomplete, pending, List.map_cons] at deepest
  rw [pending, List.map_cons, Trie.find?, Trie.walkFrom] at reaches
  cases edge : trie.advance Trie.root first.symbol with
  | none => simp [edge] at reaches
  | some child =>
      have found :
          trie.find? ((first.symbol :: others.map Located.symbol).take 1) = some child := by
        simp [Trie.find?, Trie.walkFrom, edge]
      exact ⟨child, rfl, deepest 1 child (by omega) (by simp) found⟩

end Walk.Traces

namespace Scan

variable {profile : Profile ρ} {state : ScanState ρ} {node : NodeId} {pending : List Located}
  {walk : Walk} {fed : Fed} {stop : Nat} {reaction : Reaction ρ}

/-! ## Reactions keep the invariant -/

/-- In a sound profile a walk that ends at a complete node is closed as an operator or as a
comment. -/
inductive ClosesWalk (profile : Profile ρ) (state : ScanState ρ) (node : NodeId) (stop : Nat) :
    Reaction ρ → Prop
  | operator {kind : Kind} : profile.operators.kind? node = some kind → kind.isOperator = true →
      ClosesWalk profile state node stop (state.finish kind stop)
  | demoted {fallback : Kind} : profile.fallbackAt? node = some fallback →
      profile.options.lineCommentOnlyAtLineStart = true → state.lineStart = false →
      ClosesWalk profile state node stop (state.finish fallback stop)
  | lineComment : profile.operators.kind? node = some .lineComment →
      (profile.options.lineCommentOnlyAtLineStart = true →
        (profile.fallbackAt? node).isSome = true → state.lineStart = true) →
      ClosesWalk profile state node stop (state.become (.lineComment []))
  | blockComment : profile.operators.kind? node = some .blockComment →
      ClosesWalk profile state node stop (state.become (.blockComment [] 0 false))

theorem closeWalk_ends (sound : profile.Sound)
    (ended : (profile.operators.kind? node).isSome = true) (stop : Nat) :
    ClosesWalk profile state node stop (closeWalk profile state node stop) := by
  have closed := closeWalk_closed profile state node stop
  generalize closeWalk profile state node stop = reaction at closed ⊢
  cases closed with
  | demoted _ present only inside => exact .demoted present only inside
  | lineComment known fresh => exact .lineComment known fresh
  | blockComment known => exact .blockComment known
  | operator known notLine notBlock =>
      rcases sound.operatorKinds node _ known with operator | isLine | isBlock
      · exact .operator known operator
      · exact absurd isLine notLine
      · exact absurd isBlock notBlock
  | unnamed missing => simp [missing] at ended

theorem closeWalk_valid (sound : profile.Sound) (stop : Nat) :
    (closeWalk profile state node stop).state.Valid profile := by
  have closed := closeWalk_closed profile state node stop
  generalize closeWalk profile state node stop = reaction at closed ⊢
  cases closed with
  | demoted | operator | unnamed => exact ScanState.valid_idle rfl
  | lineComment => trivial
  | blockComment known =>
      have closable := List.length_pos_iff.mpr (sound.blockClose node known)
      simpa [ScanState.Valid] using closable

theorem finishOperator_valid (sound : profile.Sound) (count : Nat) (stop : Option Nat) :
    (finishOperator profile state pending node count stop).state.Valid profile :=
  closeWalk_valid sound _

theorem stuckOperator_valid (sound : profile.Sound) (stop : Nat) :
    (stuckOperator profile state walk stop).state.Valid profile := by
  have stuck := stuckOperator_stuck profile state walk stop
  generalize stuckOperator profile state walk stop = reaction at stuck ⊢
  cases stuck with
  | passed => exact finishOperator_valid sound _ _
  | rejected | empty => exact ScanState.valid_idle rfl

theorem reachOperator_valid (sound : profile.Sound) {terminal : Option (NodeId × Nat)}
    (traces : Walk.Traces profile.operators
      { node, pending, terminal :=
          if (profile.operators.kind? node).isSome then some (node, pending.length)
          else terminal }) :
    (reachOperator profile state node pending terminal).state.Valid profile := by
  unfold reachOperator
  split
  · simpa [ScanState.Valid] using traces
  · exact finishOperator_valid sound _ _

theorem defaultNumeral_kind (profile : Profile ρ) (symbols : List Located) :
    (defaultNumeral profile symbols).kind = profile.defaultNumber := by
  unfold defaultNumeral
  refine List.foldlRecOn (motive := fun value : Numeral => value.kind = profile.defaultNumber)
    symbols _ rfl ?_
  intro value same located _
  split
  · rw [Numeral.pushDigit_kind, same]
  · exact same

theorem defaultNumeral_isNumber (sound : profile.Sound) (symbols : List Located) :
    (defaultNumeral profile symbols).kind.isNumber = true := by
  rw [defaultNumeral_kind]
  exact sound.defaultNumber

theorem resolvePrefix_valid (sound : profile.Sound) (next : Option Fed) :
    (resolvePrefix profile state node pending next).state.Valid profile := by
  obtain ⟨_, resolved, answer⟩ := resolvePrefix_resolved profile state node pending next
  rw [answer]
  cases resolved with
  | spanless | alone | digits | rejected => exact ScanState.valid_idle rfl
  | opens known => exact (sound.numberKinds node _ known).1
  | goesOn => exact defaultNumeral_isNumber sound _

theorem joinLines_valid {resume : Resume} (valid : resume.Valid profile) (escape : Located)
    (stop : Nat) : (joinLines state resume escape stop).state.Valid profile := by
  cases resume with
  | idle => exact ScanState.valid_idle rfl
  | identifier | operator | lineComment => exact valid

theorem Takes.valid {before after : Mode} (mode : state.mode = before)
    (takes : Takes profile state fed before after) (valid : state.Valid profile) :
    (state.become after).state.Valid profile := by
  have entire := valid
  unfold ScanState.Valid at valid
  rw [mode] at valid
  cases takes with
  | blank | identifier | lineComment => trivial
  | numberPrefix edge => simpa [ScanState.Valid] using Trie.find?_snoc valid.2 edge
  | digit => simpa [ScanState.Valid, Numeral.pushDigit_kind] using valid
  | separator | point | fractionSeparator => exact valid
  | firstFraction | fraction =>
      simpa [ScanState.Valid, Numeral.pushFractionDigit_kind, Numeral.startFraction] using valid
  | blockComment inner => exact inner
  | escape resumes => exact Resume.valid_of_mode (mode.trans resumes) entire
  | carriage => exact valid

variable [Literal.Reader ρ]

/-- A sound profile opens every literal whose introduction is complete. -/
theorem openLiteral_eq (sound : profile.Sound) (state : ScanState ρ)
    (ended : (profile.literals.kind? node).isSome) (introduction : List Located) :
    ∃ number kind reader, profile.literals.kind? node = some kind ∧
      profile.literals.binding? node = some number ∧
      obtainReader? profile state number = some reader ∧
      openLiteral profile state node introduction =
        (state.keepReader number (Literal.Reader.reset reader)).become (.literal number kind) := by
  obtain ⟨kind, kindEq⟩ := Option.isSome_iff_exists.mp ended
  obtain ⟨number, bindingEq⟩ := Option.isSome_iff_exists.mp (sound.readers.isSome node ended)
  have registered := sound.readers.below node number bindingEq
  have instantiated : ∃ reader, obtainReader? profile state number = some reader := by
    unfold obtainReader? Literal.Registry.instantiate?
    rw [Array.getElem?_eq_getElem registered]
    cases state.reader? number with
    | none => exact ⟨_, rfl⟩
    | some reader => exact ⟨reader, rfl⟩
  obtain ⟨reader, readerEq⟩ := instantiated
  exact ⟨number, kind, reader, kindEq, bindingEq, readerEq,
    by simp [openLiteral, kindEq, bindingEq, readerEq]⟩

theorem openLiteral_valid (sound : profile.Sound) (ended : (profile.literals.kind? node).isSome)
    (introduction : List Located) :
    (openLiteral profile state node introduction).state.Valid profile := by
  obtain ⟨number, kind, reader, kindEq, _, _, opened⟩ :=
    openLiteral_eq sound state ended introduction
  have kept := state.reader?_keepReader number (Literal.Reader.reset reader)
  rw [opened]
  simp [ScanState.Valid, kept, sound.literalKinds node kind kindEq]

theorem reachLiteral_valid (sound : profile.Sound) {terminal : Option (NodeId × Nat)}
    (traces : Walk.Traces profile.literals
      { node, pending, terminal :=
          if (profile.literals.kind? node).isSome then some (node, pending.length)
          else terminal }) :
    (reachLiteral profile state node pending terminal).state.Valid profile := by
  have reached := reachLiteral_reached profile state node pending terminal
  generalize reachLiteral profile state node pending terminal = reaction at reached ⊢
  cases reached with
  | waits => exact traces
  | opens ended => exact openLiteral_valid sound ended pending

theorem stuckLiteral_valid (sound : profile.Sound) (traces : walk.Traces profile.literals) :
    (stuckLiteral profile state walk).state.Valid profile := by
  unfold stuckLiteral
  cases terminal : walk.terminal with
  | none => exact ScanState.valid_idle rfl
  | some passed => exact openLiteral_valid sound (traces.terminal_bound terminal).2.2 _

theorem dispatch_valid (sound : profile.Sound) (idle : state.mode = .idle) :
    (dispatch profile state fed).state.Valid profile := by
  have answer := dispatched profile state fed
  generalize dispatch profile state fed = reaction at answer ⊢
  cases answer with
  | continuation _ => simp [ScanState.Valid, awaitLineEnd, Resume.Valid]
  | blank => simp [ScanState.Valid]
  | single _ => exact ScanState.valid_idle (by simpa [starting] using idle)
  | literal edge _ =>
      refine reachLiteral_valid sound ?_
      simpa using Walk.Traces.first sound.literals edge
  | point _ _ => simp [ScanState.Valid, Numeral.ofKind, sound.defaultNumber]
  | numberPrefix edge => simp [ScanState.Valid, Trie.find?, Trie.walkFrom_singleton, edge]
  | number digit =>
      simp [ScanState.Valid, Numeral.pushDigit_kind, Numeral.ofKind, sound.defaultNumber]
  | identifier => simp [ScanState.Valid]
  | operator edge =>
      refine reachOperator_valid sound ?_
      simpa using Walk.Traces.first sound.operators edge
  | reject => exact ScanState.valid_idle (by simp)

theorem readLiteral_valid {number : Nat} {kind : Kind} (mode : state.mode = .literal number kind)
    (literal : kind.isLiteral = true) :
    (readLiteral profile state number kind fed).state.Valid profile := by
  have continued := readLiteral_continued profile state number kind fed
  generalize readLiteral profile state number kind fed = reaction at continued ⊢
  cases continued with
  | @proceeds _ after | @proceedsWith _ after =>
      have kept := state.reader?_keepReader number after
      simp [ScanState.Valid, mode, kept, literal]
  | unread | stops | stopsWith | failsBefore | fails => exact ScanState.valid_idle rfl

/-- Every answer keeps the invariant. -/
theorem Answered.valid {next : Option Fed} (answered : Answered profile stop state next reaction)
    (sound : profile.Sound) (valid : state.Valid profile) : reaction.state.Valid profile := by
  have entire := valid
  unfold ScanState.Valid at valid
  cases answered with
  | between mode => exact dispatch_valid sound mode
  | takes mode takes => exact takes.valid mode entire
  | completes | linefeed | closesBlock | unclosed => exact ScanState.valid_idle rfl
  | resolves => exact resolvePrefix_valid sound _
  | releases | closesLiteral => exact ScanState.valid_idle (by simp)
  | extendsOperator mode _ edge =>
      rw [mode] at valid
      refine reachOperator_valid sound ?_
      simpa using valid.snoc sound.operators edge
  | endsOperator => exact stuckOperator_valid sound _
  | extendsIntroduction mode edge =>
      rw [mode] at valid
      refine reachLiteral_valid sound ?_
      simpa using valid.snoc sound.literals edge
  | endsIntroduction mode =>
      rw [mode] at valid
      exact stuckLiteral_valid sound valid
  | reads mode =>
      rw [mode] at valid
      exact readLiteral_valid mode valid.2
  | joins mode | joinsBefore mode =>
      rw [mode] at valid
      exact joinLines_valid valid _ _
  | abandons mode =>
      rw [mode] at valid
      exact Resume.valid_enter valid

/-! ## Calls keep the invariant -/

theorem keeps_valid (sound : profile.Sound) (closing : Option Nat) :
    Keeps profile closing fun config => config.state.Valid profile :=
  keeps_of_answers fun valid answered => answered.valid sound valid

/-- The invariant holds between calls.  A call that starts a document needs nothing
from the state before it. -/
theorem Reached.valid (sound : profile.Sound) (reached : Reached profile state) :
    state.Valid profile := by
  induction reached with
  | init state => exact ScanState.valid_idle rfl
  | step sink located _ ended ih => exact run_keeps (keeps_valid sound none) ih ended
  | finalize sink stop _ ended _ => exact ScanState.valid_idle (finalize_mode ended)
  | tokenize state sink source ended => exact ScanState.valid_idle (tokenize_mode ended)
  | setClass symbol traits _ ih => exact ih
  | resetClasses _ ih => exact ih

/-! ## Defaults -/

/-- Closing an operator would need a kind or an end that is not there. -/
def OperatorDefaults (profile : Profile ρ) (node : NodeId) (symbols : List Located) : Prop :=
  profile.operators.kind? node = none ∨ symbols = []

/-- Opening a literal would need a kind, an end or a reader that is not there. -/
def LiteralDefaults (profile : Profile ρ) (state : ScanState ρ) (node : NodeId)
    (introduction : List Located) : Prop :=
  profile.literals.kind? node = none ∨ introduction = [] ∨
    ¬∃ number reader, profile.literals.binding? node = some number ∧
      obtainReader? profile state number = some reader

/-- The walk goes on to a node at which an operator is closed with a default. -/
def ReachesOperatorDefaults (profile : Profile ρ) (node : NodeId) (pending : List Located)
    (fed : Fed) : Prop :=
  ∃ child, profile.operators.advance node fed.symbol = some child ∧
    profile.operators.hasChildren child = false ∧
    OperatorDefaults profile child (pending ++ [fed.toLocated])

/-- The walk goes on to a node at which a literal is opened with a default. -/
def ReachesLiteralDefaults (profile : Profile ρ) (state : ScanState ρ) (node : NodeId)
    (pending : List Located) (fed : Fed) : Prop :=
  ∃ child, profile.literals.advance node fed.symbol = some child ∧
    profile.literals.hasChildren child = false ∧
    LiteralDefaults profile state child (pending ++ [fed.toLocated])

/-- The machine would use a default in its answer to the next symbol, or to the end
of the input when there is no symbol. -/
def FallsBack (profile : Profile ρ) (state : ScanState ρ) (next : Option Fed) : Prop :=
  match state.mode with
  | .idle => ∃ fed, next = some fed ∧
      (ReachesOperatorDefaults profile Trie.root [] fed ∨
        ReachesLiteralDefaults profile state Trie.root [] fed)
  | .numberPrefix node pending =>
      Located.spanOf? pending = none ∨
        ∃ kind, profile.numberPrefixes.kind? node = some kind ∧ kind.numberBase? = none
  | .operator walk =>
      (∃ fed, next = some fed ∧ ReachesOperatorDefaults profile walk.node walk.pending fed) ∨
        (walk.terminal = none ∧ walk.pending = []) ∨
        ∃ node count, walk.terminal = some (node, count) ∧
          OperatorDefaults profile node (walk.pending.take count)
  | .blockComment _ seen _ => profile.blockClose[seen]? = none
  | .literalPrefix walk =>
      (∃ fed, next = some fed ∧ ReachesLiteralDefaults profile state walk.node walk.pending fed) ∨
        ∃ node count, walk.terminal = some (node, count) ∧
          LiteralDefaults profile state node (walk.pending.take count)
  | .literal number _ => state.reader? number = none
  | .blank _ | .identifier | .number _ | .maybeFloat .. | .float _ | .lineComment _
  | .continuation .. => False

theorem not_literalDefaults (sound : profile.Sound)
    (ended : (profile.literals.kind? node).isSome) {introduction : List Located}
    (nonempty : introduction ≠ []) : ¬LiteralDefaults profile state node introduction := by
  obtain ⟨number, kind, reader, kindEq, bindingEq, readerEq, _⟩ :=
    openLiteral_eq sound state ended introduction
  rintro (missing | empty | unread)
  · simp [kindEq] at missing
  · exact nonempty empty
  · exact unread ⟨number, reader, bindingEq, readerEq⟩

omit [Literal.Reader ρ] in
theorem not_reachesOperatorDefaults (sound : profile.Sound) :
    ¬ReachesOperatorDefaults profile node pending fed := by
  rintro ⟨child, edge, childless, missing | empty⟩
  · have ended := sound.operators.ended_of_edge edge childless
    simp [missing] at ended
  · simp at empty

theorem not_reachesLiteralDefaults (sound : profile.Sound) :
    ¬ReachesLiteralDefaults profile state node pending fed := by
  rintro ⟨child, edge, childless, defaults⟩
  have ended := sound.literals.ended_of_edge edge childless
  exact not_literalDefaults sound ended (by simp) defaults

/-- Data that represent a scan make no default necessary. -/
theorem not_fallsBack (sound : profile.Sound) (valid : state.Valid profile) (next : Option Fed) :
    ¬FallsBack profile state next := by
  unfold ScanState.Valid at valid
  unfold FallsBack
  cases mode : state.mode with
  | idle =>
      rintro ⟨fed, _, operator | literal⟩
      · exact not_reachesOperatorDefaults sound operator
      · exact not_reachesLiteralDefaults sound literal
  | numberPrefix node pending =>
      rw [mode] at valid
      rintro (spanless | ⟨kind, found, baseless⟩)
      · obtain ⟨first, rest, rfl⟩ := List.exists_cons_of_ne_nil valid.1
        simp [Located.spanOf?, List.getLast?_cons] at spanless
      · have based := (sound.numberKinds node kind found).2
        simp [baseless] at based
  | operator walk =>
      rw [mode] at valid
      rintro (⟨fed, _, reaches⟩ | ⟨_, empty⟩ | ⟨node, count, terminal, missing | empty⟩)
      · exact not_reachesOperatorDefaults sound reaches
      · exact valid.nonempty empty
      · have ended := (valid.terminal_bound terminal).2.2
        simp [missing] at ended
      · exact valid.take_ne_nil terminal empty
  | blockComment text seen crossed =>
      rw [mode] at valid
      simpa using valid
  | literalPrefix walk =>
      rw [mode] at valid
      rintro (⟨fed, _, reaches⟩ | ⟨node, count, terminal, defaults⟩)
      · exact not_reachesLiteralDefaults sound reaches
      · exact not_literalDefaults sound (valid.terminal_bound terminal).2.2
          (valid.take_ne_nil terminal) defaults
  | literal number kind =>
      rw [mode] at valid
      intro missing
      simp [missing] at valid
  | _ => exact id

/-! ## Giving up -/

omit [Literal.Reader ρ] in
theorem finish_kind {kind other : Kind} (same : state.finish kind stop = state.finish other stop) :
    kind = other :=
  congrArg Token.kind (Report.token.inj (List.cons.inj (congrArg Reaction.reports same)).1)

omit [Literal.Reader ρ] in
/-- A walk is closed as something unexpected exactly if its node has no kind. -/
theorem closeWalk_unexpected_iff (sound : profile.Sound) :
    closeWalk profile state node stop = state.finish .unexpected stop ↔
      profile.operators.kind? node = none := by
  constructor
  · intro same
    by_contra named
    have closes : ClosesWalk profile state node stop _ :=
      closeWalk_ends sound (Option.isSome_iff_ne_none.mpr named) stop
    have unexpected : Kind.unexpected.isOperator = false := by decide
    generalize closeWalk profile state node stop = reaction at same closes
    cases closes with
    | operator _ operator =>
        rw [finish_kind same, unexpected] at operator
        contradiction
    | demoted present =>
        have operator := sound.fallbackOperator present
        rw [finish_kind same, unexpected] at operator
        contradiction
    | lineComment | blockComment =>
        exact absurd (congrArg Reaction.reports same) (List.cons_ne_nil _ _).symm
  · intro unnamed
    rw [closeWalk, unnamed]
    rfl

omit [Literal.Reader ρ] in
/-- A walk that is stuck is given up exactly if it has passed no operator and has no symbol. -/
theorem stuckOperator_idle_iff :
    stuckOperator profile state walk stop = state.become .idle ↔
      walk.terminal = none ∧ walk.pending = [] := by
  constructor
  · intro same
    have stuck := stuckOperator_stuck profile state walk stop
    generalize stuckOperator profile state walk stop = reaction at same stuck
    cases stuck with
    | @passed node count =>
        have silent := congrArg Reaction.reports same
        have idle := congrArg (fun made => made.state.mode) same
        rw [finishOperator, Reaction.feed_reports] at silent
        simp only [finishOperator, Reaction.feed_state] at idle
        generalize ((walk.pending.drop count).head?.map Located.offset).or (some stop) = stands
          at silent idle
        have closed := closeWalk_closed profile state node (stands.getD
          (((walk.pending.take count).getLast?.map Located.stop).getD state.tokenStart))
        generalize closeWalk profile state node _ = reaction at silent idle closed
        cases closed with
        | demoted | operator | unnamed => exact absurd silent (List.cons_ne_nil _ _)
        | lineComment | blockComment => contradiction
    | rejected => exact absurd (congrArg Reaction.reports same) (List.cons_ne_nil _ _)
    | empty terminal pending => exact ⟨terminal, pending⟩
  · rintro ⟨terminal, pending⟩
    rw [stuckOperator, terminal, pending]

omit [Literal.Reader ρ] in
/-- A prefix is given up exactly if it has no symbols. -/
theorem resolvePrefix_idle_iff {next : Option Fed} :
    resolvePrefix profile state node pending next = (state.become .idle).feed next.toList ↔
      Located.spanOf? pending = none := by
  constructor
  · intro same
    obtain ⟨reaction, resolved, answer⟩ := resolvePrefix_resolved profile state node pending next
    rw [answer] at same
    have silent := congrArg Reaction.reports same
    have idle := congrArg (fun made => made.state.mode) same
    cases resolved with
    | spanless missing => exact missing
    | opens | goesOn => contradiction
    | alone | digits | rejected => exact absurd silent (List.cons_ne_nil _ _)
  · intro missing
    rw [resolvePrefix, missing]

/-- A literal is not opened exactly if no reader can be had. -/
theorem openLiteral_idle_iff {introduction : List Located} :
    (openLiteral profile state node introduction).state.mode = .idle ↔
      ¬∃ number reader, profile.literals.binding? node = some number ∧
        obtainReader? profile state number = some reader := by
  have opened := openLiteral_opened profile state node introduction
  generalize openLiteral profile state node introduction = reaction at opened
  cases opened with
  | unbound missing => simp [missing]
  | unread bound missing => simp [bound, missing]
  | opens bound available => simp [bound, available]

/-- A symbol inside a literal is given back unread exactly if the reader is missing. -/
theorem readLiteral_idle_iff {number : Nat} {kind : Kind} :
    readLiteral profile state number kind fed =
        (state.become .idle).feed [.plain fed.toLocated] ↔
      state.reader? number = none := by
  constructor
  · intro same
    have continued := readLiteral_continued profile state number kind fed
    generalize readLiteral profile state number kind fed = reaction at same continued
    have silent := congrArg Reaction.reports same
    have back := congrArg Reaction.next same
    cases continued with
    | unread missing => exact missing
    | proceeds => exact absurd back (List.cons_ne_nil _ _).symm
    | proceedsWith | stops | stopsWith | failsBefore | fails =>
        exact absurd silent (List.cons_ne_nil _ _)
  · intro missing
    rw [readLiteral, missing]

theorem closeLiteral_idle_iff {number : Nat} {kind : Kind} :
    closeLiteral state number kind stop = state.become .idle ↔ state.reader? number = none := by
  constructor
  · intro same
    have closed := closeLiteral_closed state number kind stop
    generalize closeLiteral state number kind stop = reaction at same closed
    have silent := congrArg Reaction.reports same
    cases closed with
    | unread missing => exact missing
    | stops | stopsWith | fails => exact absurd silent (List.cons_ne_nil _ _)
  · intro missing
    rw [closeLiteral, missing]

/-- A function of the machine answers with a default: with something unexpected for an operator,
with no literal for its introduction, or with nothing. -/
def GivesUp (profile : Profile ρ) (state : ScanState ρ) (next : Option Fed) : Prop :=
  match state.mode with
  | .numberPrefix node pending =>
      resolvePrefix profile state node pending next = (state.become .idle).feed next.toList
  | .operator walk => (∃ stop, stuckOperator profile state walk stop = state.become .idle) ∨
      ∃ node count stop, walk.terminal = some (node, count) ∧
        closeWalk profile state node stop = state.finish .unexpected stop
  | .literalPrefix walk => ∃ node count, walk.terminal = some (node, count) ∧
      (openLiteral profile state node (walk.pending.take count)).state.mode = .idle
  | .literal number kind =>
      (∃ fed, readLiteral profile state number kind fed =
        (state.become .idle).feed [.plain fed.toLocated]) ∨
      ∃ stop, closeLiteral state number kind stop = state.become .idle
  | _ => False

theorem fallsBack_of_givesUp (sound : profile.Sound) {next : Option Fed}
    (givesUp : GivesUp profile state next) : FallsBack profile state next := by
  unfold GivesUp at givesUp
  unfold FallsBack
  cases mode : state.mode with
  | numberPrefix node pending =>
      rw [mode] at givesUp
      exact Or.inl (resolvePrefix_idle_iff.mp givesUp)
  | operator walk =>
      rw [mode] at givesUp
      rcases givesUp with ⟨stop, idle⟩ | ⟨node, count, stop, terminal, unexpected⟩
      · exact Or.inr (Or.inl (stuckOperator_idle_iff.mp idle))
      · exact Or.inr (Or.inr ⟨node, count, terminal,
          Or.inl ((closeWalk_unexpected_iff sound).mp unexpected)⟩)
  | literalPrefix walk =>
      rw [mode] at givesUp
      obtain ⟨node, count, terminal, idle⟩ := givesUp
      exact Or.inr ⟨node, count, terminal, Or.inr (Or.inr (openLiteral_idle_iff.mp idle))⟩
  | literal number kind =>
      rw [mode] at givesUp
      rcases givesUp with ⟨fed, back⟩ | ⟨stop, idle⟩
      · exact readLiteral_idle_iff.mp back
      · exact closeLiteral_idle_iff.mp idle
  | _ => simp [mode] at givesUp

/-- Wherever the machine gets to, none of its functions gives up. -/
theorem Reached.not_givesUp (made : profile.Made) (reached : Reached profile state)
    {closing : Option Nat} {queue : List Fed} {reports : List Report} {passed : Config ρ}
    (leads : Leads profile closing ⟨state, queue⟩ reports passed) :
    ¬GivesUp profile passed.state passed.queue.head? := by
  have passedValid := leads.keeps (keeps_valid made.sound closing) (reached.valid made.sound)
  exact fun givesUp =>
    not_fallsBack made.sound passedValid _ (fallsBack_of_givesUp made.sound givesUp)

/-- Between calls and inside of them, wherever the machine gets to, the data of a
mode represent what was read, and no default is used. -/
theorem valid_and_not_fallsBack (made : profile.Made) (reached : Reached profile state) :
    state.Valid profile ∧
      ∀ (closing : Option Nat) (queue : List Fed) (reports : List Report) (passed : Config ρ),
        Leads profile closing ⟨state, queue⟩ reports passed →
        passed.state.Valid profile ∧ ¬FallsBack profile passed.state passed.queue.head? := by
  have valid := reached.valid made.sound
  refine ⟨valid, fun closing queue reports passed leads => ?_⟩
  have passedValid := leads.keeps (keeps_valid made.sound closing) valid
  exact ⟨passedValid, not_fallsBack made.sound passedValid _⟩

/-- A language with a short operator on the way to a longer one. -/
def shiftProfile : Profile Literal.Stock :=
  (Builder.afterAll {} [.addOperator "<", .addOperator "<<="]).profile

theorem shiftProfile_made : shiftProfile.Made :=
  ⟨_, rfl⟩

/-- A scan of `<<` that waits after an escape symbol.  The terminal of its walk is
shorter than the walk. -/
theorem valid_and_not_fallsBack_shift :
    ∃ state : ScanState Literal.Stock,
      state.mode = .continuation
        (.operator ⟨2, [⟨'<', 0⟩, ⟨'<', 1⟩], some (1, 1)⟩) ⟨'\\', 2⟩ none ∧
      Reached shiftProfile state ∧ state.Valid shiftProfile ∧
      ∀ (closing : Option Nat) (queue : List Fed) (reports : List Report)
        (passed : Config Literal.Stock),
        Leads shiftProfile closing ⟨state, queue⟩ reports passed →
        passed.state.Valid shiftProfile ∧
          ¬FallsBack shiftProfile passed.state passed.queue.head? := by
  have start : Reached shiftProfile ({} : ScanState Literal.Stock).reset := .init {}
  have first := Reached.step ({} : Recorder) ⟨'<', 0⟩ start
    (ok_of_isOk (by decide +kernel))
  have second := Reached.step ({} : Recorder) ⟨'<', 1⟩ first (ok_of_isOk (by decide +kernel))
  have third := Reached.step ({} : Recorder) ⟨'\\', 2⟩ second (ok_of_isOk (by decide +kernel))
  exact ⟨_, by decide +kernel, third, valid_and_not_fallsBack shiftProfile_made third⟩

end Scan

end Lexing
