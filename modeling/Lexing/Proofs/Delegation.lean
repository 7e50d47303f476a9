import Lexing.Proofs.LongestMatch
import Lexing.Proofs.Renewal

/-!
# Literals are left to their readers

The longest introduction that the source has at the start of a token opens its literal.
From there on, the machine does what a fresh reader says about the symbols after the
introduction.  The reader that it asks may have read other literals before, so this
takes readers that forget them when they are reset.
-/

namespace Lexing

/-- A fresh reader for the literals with the given introduction. -/
def Profile.literalReader? {ρ : Type} (profile : Profile ρ) (introduction : List Char) : Option ρ :=
  (profile.literals.find? introduction).bind fun node =>
    (profile.literals.binding? node).bind profile.readers.instantiate?

/-! ## What a reader makes of a text -/

namespace Scan

structure Introduced where
  atLineStart : Bool
  start : Nat
  kind : Kind

/-- What becomes of a literal: the reports about it, and the text that is left. -/
structure Verdict where
  reports : List Report
  offset : Nat
  left : List Char

namespace Introduced

variable {ρ : Type} [Literal.Reader ρ] {profile : Profile ρ} {literal : Introduced}

def span (literal : Introduced) (stop : Nat) : Span :=
  ⟨literal.start, stop⟩

def complete (literal : Introduced) (reader : ρ) (stop : Nat) : Report :=
  .token {
    atLineStart := literal.atLineStart
    kind := literal.kind
    span := literal.span stop
    payload := .literal (Literal.Reader.take reader).1 }

def failed (literal : Introduced) (message : String) (stop : Nat) : List Report :=
  [.literalMessage (literal.span stop) message, .unexpected (literal.span stop) (some message),
    .token {
      atLineStart := literal.atLineStart
      kind := .unexpected
      span := literal.span stop }]

/-- The reports when the input ends at `stop` inside the literal. -/
def atEnd (literal : Introduced) (reader : ρ) (stop : Nat) : List Report :=
  match Literal.Reader.finish reader with
  | (.stop, reader) => [literal.complete reader stop]
  | (.stopWith message, reader) =>
      [.literalMessage (literal.span stop) message, literal.complete reader stop]
  | (.fail message, _) | (.proceedWith message, _) => literal.failed message stop
  | (.proceed, _) => literal.failed Literal.unterminated stop

/-- Give the symbols of a text to a reader until it stops or fails.  A line terminator
at which it fails is not part of the literal. -/
def judge (profile : Profile ρ) (literal : Introduced) : ρ → Nat → List Char → Verdict
  | reader, offset, [] => ⟨literal.atEnd reader offset, offset, []⟩
  | reader, offset, symbol :: rest =>
      let next := offset + symbol.utf8Size
      match Literal.Reader.read reader symbol with
      | (.proceed, reader) => judge profile literal reader next rest
      | (.proceedWith message, reader) =>
          let verdict := judge profile literal reader next rest
          { verdict with
            reports := .literalMessage (literal.span next) message :: verdict.reports }
      | (.stop, reader) => ⟨[literal.complete reader next], next, rest⟩
      | (.stopWith message, reader) =>
          ⟨[.literalMessage (literal.span next) message, literal.complete reader next], next, rest⟩
      | (.fail message, _) =>
          if (profile.classes.classify symbol).linefeed then
            ⟨literal.failed message offset, offset, symbol :: rest⟩
          else ⟨literal.failed message next, next, rest⟩

end Introduced

/-! ## Where readers come from -/

variable {ρ : Type} {profile : Profile ρ} {state after : ScanState ρ} {number : Nat} {fed : Fed}
  {reader fresh : ρ} {reaction : Reaction ρ} {stop : Nat}

theorem stuckOperator_readers (walk : Walk) :
    (stuckOperator profile state walk stop).state.readers = state.readers := by
  have stuck := stuckOperator_stuck profile state walk stop
  generalize stuckOperator profile state walk stop = reaction at stuck ⊢
  cases stuck with
  | passed => exact closeWalk_readers ..
  | rejected | empty => rfl

theorem reachOperator_readers (node : NodeId) (pending : List Located)
    (terminal : Option (NodeId × Nat)) :
    (reachOperator profile state node pending terminal).state.readers = state.readers := by
  unfold reachOperator
  split
  · rfl
  · exact closeWalk_readers ..

theorem releaseDot_readers (value : Numeral) (dot : Nat) (hasInteger : Bool) :
    (releaseDot state value dot hasInteger).state.readers = state.readers := by
  cases hasInteger <;> rfl

theorem joinLines_readers (resume : Resume) (escape : Located) :
    (joinLines state resume escape stop).state.readers = state.readers := by
  cases resume <;> rfl

variable [Literal.Reader ρ]

/-- All readers that were needed so far come from fresh ones. -/
def Genuine (profile : Profile ρ) (state : ScanState ρ) : Prop :=
  ∀ number, profile.Makes number (state.reader? number)

namespace Genuine

theorem of_readers (genuine : Genuine profile state) (same : after.readers = state.readers) :
    Genuine profile after := by
  intro number
  rw [ScanState.reader?, same]
  exact genuine number

theorem keep (genuine : Genuine profile state) (makes : profile.Makes number (some reader)) :
    Genuine profile (state.keepReader number reader) := by
  intro other
  by_cases same : other = number
  · rw [same, ScanState.reader?_keepReader]
    exact makes
  · rw [ScanState.reader?_keepReader_ne state reader same]
    exact genuine other

theorem makes (genuine : Genuine profile state) (found : state.reader? number = some reader) :
    profile.Makes number (some reader) :=
  found ▸ genuine number

theorem obtained (genuine : Genuine profile state)
    (available : obtainReader? profile state number = some reader) :
    ∃ fresh, profile.readers.instantiate? number = some fresh ∧ Literal.Derived fresh reader :=
  Profile.Makes.or_fresh (genuine number) reader available

/-- What two genuine states keep under the same number. -/
theorem pair (genuine : Genuine profile state) (authentic : Genuine profile after)
    {number other : Nat} (same : number = other) :
    profile.Makes number (state.reader? number) ∧ profile.Makes number (after.reader? other) :=
  ⟨genuine number, same ▸ authentic number⟩

theorem initial (profile : Profile ρ) : Genuine profile {} := by
  intro number reader found
  simp [ScanState.reader?] at found

theorem openLiteral (genuine : Genuine profile state) (node : NodeId)
    (introduction : List Located) :
    Genuine profile (openLiteral profile state node introduction).state := by
  have opened := openLiteral_opened profile state node introduction
  generalize Scan.openLiteral profile state node introduction = reaction at opened ⊢
  cases opened with
  | unbound | unread => exact genuine.of_readers rfl
  | opens _ available =>
      obtain ⟨fresh, instantiated, derived⟩ := genuine.obtained available
      exact (genuine.keep (.of_derived instantiated derived.reset)).of_readers rfl

theorem reachLiteral (genuine : Genuine profile state) (node : NodeId) (pending : List Located)
    (terminal : Option (NodeId × Nat)) :
    Genuine profile (reachLiteral profile state node pending terminal).state := by
  have reached := reachLiteral_reached profile state node pending terminal
  generalize Scan.reachLiteral profile state node pending terminal = reaction at reached ⊢
  cases reached with
  | waits => exact genuine.of_readers rfl
  | opens => exact genuine.openLiteral _ _

theorem stuckLiteral (genuine : Genuine profile state) (walk : Walk) :
    Genuine profile (stuckLiteral profile state walk).state := by
  unfold Scan.stuckLiteral
  cases walk.terminal with
  | none => exact genuine.of_readers rfl
  | some passed => exact genuine.openLiteral _ _

theorem keepTaken (genuine : Genuine profile state) (makes : profile.Makes number (some reader)) :
    Genuine profile ((state.keepReader number reader).keepReader number
      (Literal.Reader.take reader).2) :=
  (genuine.keep makes).keep makes.take

theorem readLiteral (genuine : Genuine profile state) (kind : Kind) :
    Genuine profile (readLiteral profile state number kind fed).state := by
  have further : ∀ {reader after : ρ} {signal : Literal.Signal},
      state.reader? number = some reader →
      Literal.Reader.read reader fed.symbol = (signal, after) →
      profile.Makes number (some after) := by
    intro reader after signal found answer
    have makes := (genuine.makes found).read fed.symbol
    rwa [answer] at makes
  have continued := readLiteral_continued profile state number kind fed
  generalize Scan.readLiteral profile state number kind fed = reaction at continued ⊢
  cases continued with
  | unread => exact genuine.of_readers rfl
  | proceeds found answer | proceedsWith found answer =>
      exact genuine.keep (further found answer)
  | stops found answer | stopsWith found answer =>
      exact (genuine.keepTaken (further found answer)).of_readers rfl
  | failsBefore found answer | fails found answer =>
      exact (genuine.keep (further found answer)).of_readers rfl

theorem closeLiteral (genuine : Genuine profile state) (kind : Kind) :
    Genuine profile (closeLiteral state number kind stop).state := by
  have further : ∀ {reader after : ρ} {signal : Literal.Signal},
      state.reader? number = some reader → Literal.Reader.finish reader = (signal, after) →
      profile.Makes number (some after) := by
    intro reader after signal found answer
    have makes := (genuine.makes found).finish
    rwa [answer] at makes
  have closed := closeLiteral_closed state number kind stop
  generalize Scan.closeLiteral state number kind stop = reaction at closed ⊢
  cases closed with
  | unread => exact genuine.of_readers rfl
  | stops found answer | stopsWith found answer =>
      exact (genuine.keepTaken (further found answer)).of_readers rfl
  | fails found answer => exact (genuine.keep (further found answer)).of_readers rfl

theorem dispatch (genuine : Genuine profile state) (fed : Fed) :
    Genuine profile (dispatch profile state fed).state := by
  have begun : Genuine profile (starting state fed) := genuine.of_readers rfl
  have answer := dispatched profile state fed
  generalize Scan.dispatch profile state fed = reaction at answer ⊢
  cases answer with
  | literal _ _ => exact begun.reachLiteral _ _ _
  | operator _ => exact begun.of_readers (reachOperator_readers _ _ _)
  | _ => exact begun.of_readers rfl

theorem answered {next : Option Fed} (genuine : Genuine profile state)
    (answered : Answered profile stop state next reaction) : Genuine profile reaction.state := by
  cases answered with
  | between => exact genuine.dispatch _
  | takes | completes | linefeed | closesBlock | unclosed | abandons =>
      exact genuine.of_readers rfl
  | resolves => exact genuine.of_readers (resolvePrefix_readers ..)
  | releases => exact genuine.of_readers (releaseDot_readers _ _ _)
  | extendsOperator => exact genuine.of_readers (reachOperator_readers _ _ _)
  | endsOperator => exact genuine.of_readers (stuckOperator_readers _)
  | extendsIntroduction => exact genuine.reachLiteral _ _ _
  | endsIntroduction => exact genuine.stuckLiteral _
  | reads => exact genuine.readLiteral _
  | closesLiteral => exact genuine.closeLiteral _
  | joins | joinsBefore => exact genuine.of_readers (joinLines_readers _ _)

theorem leads {closing : Option Nat} {first last : Config ρ} {reports : List Report}
    (genuine : Genuine profile first.state) (leads : Leads profile closing first reports last) :
    Genuine profile last.state :=
  Leads.keeps leads (keeps_of_answers Genuine.answered) genuine

end Genuine

/-! ## The machine asks its reader -/

omit [Literal.Reader ρ] in
theorem freshAfter_literal {kind : Kind} (literal : kind.isLiteral = true) :
    state.freshAfter kind = false := by
  apply freshAfter_eq_false
  unfold Kind.isLiteral Kind.category at literal
  grind

structure Concluded (start : Nat) (state : ScanState ρ) : Prop where
  idle : state.mode = .idle
  late : state.lineStart = false
  begun : state.tokenStart = start

section Judged

variable {kind : Kind} {model : ρ}

theorem finishLiteral_concluded {start : Nat} (stop : Nat) (literal : kind.isLiteral = true)
    (begun : state.tokenStart = start) :
    Concluded start (finishLiteral state number kind reader stop).state where
  idle := rfl
  late := freshAfter_literal literal
  begun := begun

theorem finishLiteral_reports (state : ScanState ρ)
    (decoded : (Literal.Reader.take reader).1 = (Literal.Reader.take model).1) :
    (finishLiteral state number kind reader stop).reports =
      [Introduced.complete ⟨state.lineStart, state.tokenStart, kind⟩ model stop] := by
  unfold Introduced.complete
  rw [← decoded]
  rfl

omit [Literal.Reader ρ] in
theorem failLiteral_reports (state : ScanState ρ) (kind : Kind) (start stop : Nat)
    (message : String) :
    (failLiteral state ⟨start, stop⟩ message).reports =
      Introduced.failed ⟨state.lineStart, start, kind⟩ message stop :=
  rfl

theorem closeLiteral_concluded (stop : Nat) (literal : kind.isLiteral = true)
    (found : state.reader? number = some reader) (alike : Literal.Alike reader model) :
    Concluded state.tokenStart (closeLiteral state number kind stop).state ∧
      (closeLiteral state number kind stop).reports =
        Introduced.atEnd ⟨state.lineStart, state.tokenStart, kind⟩ model stop := by
  have ending := alike.ending []
  have ended := alike.ended []
  simp only [Literal.readAll] at ending ended
  unfold closeLiteral Introduced.atEnd
  rw [found]
  dsimp only
  rw [ending]
  cases answer : Literal.Reader.finish model with
  | mk signal rest =>
      rw [answer] at ended
      cases signal with
      | stop =>
          exact ⟨finishLiteral_concluded _ literal rfl,
            finishLiteral_reports (state.keepReader number _) ended⟩
      | stopWith message =>
          exact ⟨finishLiteral_concluded stop literal rfl, congrArg (List.cons _)
            (finishLiteral_reports (state.keepReader number _) ended)⟩
      | _ => exact ⟨⟨rfl, rfl, rfl⟩, rfl⟩

/-- What one symbol inside a literal comes to: the literal goes on and leaves the verdict to the
symbols behind it, or it is over, with the symbol or before it. -/
inductive Decides (profile : Profile ρ) (state : ScanState ρ) (number : Nat) (kind : Kind)
    (model : ρ) (fed : Fed) (reaction : Reaction ρ) : Prop
  | onward {after next : ρ} : reaction.state = state.keepReader number after →
      reaction.next = [] → Literal.Alike after next →
      (∀ text, Introduced.judge profile ⟨state.lineStart, state.tokenStart, kind⟩ model fed.offset
          (fed.symbol :: text) =
        let verdict := Introduced.judge profile ⟨state.lineStart, state.tokenStart, kind⟩ next
          fed.stop text
        { verdict with reports := reaction.reports ++ verdict.reports }) →
      Decides profile state number kind model fed reaction
  | ended : Concluded state.tokenStart reaction.state → reaction.next = [] →
      (∀ text, Introduced.judge profile ⟨state.lineStart, state.tokenStart, kind⟩ model fed.offset
        (fed.symbol :: text) = ⟨reaction.reports, fed.stop, text⟩) →
      Decides profile state number kind model fed reaction
  | before : Concluded state.tokenStart reaction.state → reaction.next = [.plain fed.toLocated] →
      (∀ text, Introduced.judge profile ⟨state.lineStart, state.tokenStart, kind⟩ model fed.offset
        (fed.symbol :: text) = ⟨reaction.reports, fed.offset, fed.symbol :: text⟩) →
      Decides profile state number kind model fed reaction

/-- The machine decides about a symbol as a reader does that is like its own. -/
theorem readLiteral_decides (state : ScanState ρ) (literal : kind.isLiteral = true)
    (classes : state.ownClasses = none) (found : state.reader? number = some reader)
    (alike : Literal.Alike reader model) (stop : fed.stop = fed.offset + fed.symbol.utf8Size) :
    Decides profile state number kind model fed (readLiteral profile state number kind fed) := by
  have same := alike.signal fed.symbol
  have further := alike.read fed.symbol
  have decoded := further.decoded []
  simp only [Literal.readAll] at decoded
  have traits : state.classify profile fed.symbol = profile.classes.classify fed.symbol := by
    simp [ScanState.classify, classes]
  rcases heard : Literal.Reader.read model fed.symbol with ⟨signal, next⟩
  rw [heard] at same further decoded
  have continued := readLiteral_continued profile state number kind fed
  generalize readLiteral profile state number kind fed = reaction at continued ⊢
  cases continued with
  | unread missing => simp [missing] at found
  | proceeds available answer =>
      obtain rfl := Option.some.inj (available.symm.trans found)
      rw [answer] at same further
      subst same
      exact .onward rfl rfl further fun text => by simp [Introduced.judge, heard, stop]
  | proceedsWith available answer =>
      obtain rfl := Option.some.inj (available.symm.trans found)
      rw [answer] at same further
      subst same
      exact .onward rfl rfl further fun text => by
        simp [Introduced.judge, heard, stop, Introduced.span]
  | stops available answer =>
      obtain rfl := Option.some.inj (available.symm.trans found)
      rw [answer] at same decoded
      subst same
      refine .ended (finishLiteral_concluded _ literal rfl) rfl fun text => ?_
      rw [finishLiteral_reports _ decoded]
      simp [Introduced.judge, heard, stop, ScanState.keepReader]
  | stopsWith available answer =>
      obtain rfl := Option.some.inj (available.symm.trans found)
      rw [answer] at same decoded
      subst same
      refine .ended (finishLiteral_concluded fed.stop literal rfl) rfl fun text => ?_
      rw [Reaction.notify_reports, finishLiteral_reports _ decoded]
      simp [Introduced.judge, heard, stop, Introduced.span, ScanState.keepReader]
  | failsBefore available answer lineEnd =>
      obtain rfl := Option.some.inj (available.symm.trans found)
      rw [answer] at same
      subst same
      rw [traits] at lineEnd
      refine .before ⟨rfl, rfl, rfl⟩ rfl fun text => ?_
      rw [Reaction.feed_reports, failLiteral_reports _ kind]
      simp [Introduced.judge, heard, lineEnd, ScanState.keepReader]
  | fails available answer inside =>
      obtain rfl := Option.some.inj (available.symm.trans found)
      rw [answer] at same
      subst same
      rw [traits] at inside
      refine .ended ⟨rfl, rfl, rfl⟩ rfl fun text => ?_
      rw [failLiteral_reports _ kind]
      simp [Introduced.judge, heard, inside, stop, ScanState.keepReader]

/-- Inside a literal, the machine reports what its reader says. -/
theorem literal_leads (state : ScanState ρ) {offset : Nat} {text : List Char} {queue : List Fed}
    (mode : state.mode = .literal number kind) (literal : kind.isLiteral = true)
    (classes : state.ownClasses = none) (found : state.reader? number = some reader)
    (alike : Literal.Alike reader model)
    (symbols : queue.map Fed.toLocated = Located.ofText offset text)
    (fits : offset + byteLength text ≤ maxOffset) {verdict : Verdict}
    (judged : Introduced.judge profile ⟨state.lineStart, state.tokenStart, kind⟩ model offset text =
      verdict) :
    ∃ last left, Leads profile (some (offset + byteLength text)) ⟨state, queue⟩ verdict.reports
        ⟨last, left⟩ ∧
      Concluded state.tokenStart last ∧
      left.map Fed.toLocated = Located.ofText verdict.offset verdict.left := by
  induction text generalizing state reader model offset queue verdict with
  | nil =>
      obtain rfl : queue = [] := by simpa [Located.ofText] using symbols
      have flushed : flush? profile state (offset + byteLength []) =
          some (closeLiteral state number kind offset) := by
        simp [flush?, mode, byteLength]
      obtain ⟨concluded, reports⟩ := closeLiteral_concluded offset literal found alike
      have leads := Leads.flush flushed
      rw [reports, closeLiteral_next] at leads
      subst judged
      exact ⟨_, [], leads, concluded, rfl⟩
  | cons symbol rest ih =>
      obtain ⟨fed, queue, rfl, first, others⟩ := List.map_eq_cons_iff.mp symbols
      obtain ⟨rfl, rfl⟩ : fed.symbol = symbol ∧ fed.offset = offset := by simp [first]
      have total : fed.offset + byteLength (fed.symbol :: rest) =
          fed.offset + fed.symbol.utf8Size + byteLength rest := by
        rw [byteLength, Nat.add_assoc]
      rw [total] at fits ⊢
      have stop : fed.stop = fed.offset + fed.symbol.utf8Size := symbolEnd_eq (by omega)
      rw [← stop] at fits ⊢
      have answer : react profile state fed = readLiteral profile state number kind fed := by
        rw [react, mode]
      have leads := Leads.react profile (some (fed.stop + byteLength rest)) state fed queue
      rw [answer] at leads
      rw [← judged]
      have decides : Decides profile state number kind model fed _ :=
        readLiteral_decides state literal classes found alike stop
      cases decides with
      | @onward after next kept nothing further verdict =>
          rw [verdict]
          rw [kept, nothing] at leads
          obtain ⟨last, left, onward, concluded, unread⟩ :=
            ih (state.keepReader number after) mode classes (ScanState.reader?_keepReader ..)
              further others fits rfl
          exact ⟨last, left, leads.trans onward, concluded, unread⟩
      | ended concluded nothing verdict =>
          rw [verdict]
          rw [nothing] at leads
          exact ⟨_, _, leads, concluded, others⟩
      | before concluded back verdict =>
          rw [verdict]
          rw [back] at leads
          exact ⟨_, _, leads, concluded, symbols⟩

end Judged

/-! ## Walks along the introductions -/

/-- The walks along the introductions of literals. -/
def literalWalker (profile : Profile ρ) : Walker ρ where
  trie := profile.literals
  mode := .literalPrefix
  reach := reachLiteral profile
  stuck state walk _ := stuckLiteral profile state walk

theorem literalWalker_drives (profile : Profile ρ) :
    (literalWalker profile).Drives profile fun _ => True where
  inner state node pending terminal inner := by
    have longer : profile.literals.hasChildren node = true := inner
    cases named : profile.literals.kind? node <;>
      simp [literalWalker, reachLiteral, Walker.passed, named, longer]
  leaf state node pending terminal start last leaf ended _ _ := by
    have last : profile.literals.hasChildren node = false := leaf
    obtain ⟨kind, named⟩ : ∃ kind, profile.literals.kind? node = some kind :=
      Option.isSome_iff_exists.mp ended
    simp [literalWalker, reachLiteral, stuckLiteral, named, last, List.drop_eq_nil_of_le]
  along state walk fed child _ _ edge := by
    have along : profile.literals.advance walk.node fed.symbol = some child := edge
    simp only [literalWalker, react, ScanState.enter_mode, readLiteralPrefix, along]
    rfl
  halts state walk fed _ _ edge := by
    have halts : profile.literals.advance walk.node fed.symbol = none := edge
    simp only [literalWalker, react, ScanState.enter_mode, readLiteralPrefix, halts]
    rfl
  ends _ _ _ := rfl

theorem dispatch_literal (classes : state.ownClasses = none) (free : fed.exempt.literal = false)
    (plain : ¬CanContinue profile fed.toLocated)
    (first : (profile.classes.classify fed.symbol).literalFirst = true)
    (notLineEnd : (profile.classes.classify fed.symbol).linefeed = false)
    (notBlank : (profile.classes.classify fed.symbol).whitespace = false) {node : NodeId}
    (edge : profile.literals.advance Trie.root fed.symbol = some node) :
    dispatch profile state fed =
      reachLiteral profile (starting state fed) node [fed.toLocated] none := by
  have quiet := beginsContinuation_eq_false (starting state fed) classes plain
  have traits : (starting state fed).classify profile fed.symbol =
      profile.classes.classify fed.symbol := by
    simp [ScanState.classify, starting, classes]
  unfold dispatch
  rw [← starting]
  simp [continuationRule, quiet, lineEndRule, blankRule, literalRule, traits, edge, first,
    notLineEnd, notBlank, free]

/-- The longest introduction opens its literal, and all symbols after it are left. -/
theorem StartsToken.opens {source : String} {offset : Nat} {symbol : Char} {text word : List Char}
    {before ahead : List Token} {past future : List Report} {queue : List Fed}
    (startsToken : StartsToken profile source offset (symbol :: text) before ahead past future
      state fed queue)
    (sound : profile.Sound) {child : NodeId}
    (edge : profile.literals.advance Trie.root fed.symbol = some child)
    (dispatched : dispatch profile state fed =
      reachLiteral profile (starting state fed) child [fed.toLocated] none)
    (ends : offset + byteLength (symbol :: text) = byteLength source.toList)
    (fits : byteLength source.toList ≤ maxOffset)
    (longest : LongestStart profile.literals.Registered (symbol :: text) word) :
    ∃ behind node kind number reader left, symbol :: text = word ++ behind ∧
      profile.literals.find? word = some node ∧ profile.literals.kind? node = some kind ∧
      profile.literals.binding? node = some number ∧
      obtainReader? profile (starting state fed) number = some reader ∧
      left.map Fed.toLocated = Located.ofText (offset + byteLength word) behind ∧
      Leads profile (some (byteLength source.toList)) ⟨state, fed :: queue⟩ []
        ⟨((starting state fed).keepReader number (Literal.Reader.reset reader)).enter
          (.literal number kind), left⟩ := by
  obtain ⟨walk, others, last, passed, behind, walked, amounts⟩ :=
    startsToken.walks (literalWalker_drives profile) sound.literals (fun _ _ => trivial) edge
      dispatched ends fits
  change AmountsTo _ _ _ _ (stuckLiteral profile (starting state fed) walk) _ at amounts
  have along : symbol :: text = passed ++ behind := walked.whole
  rw [along] at longest
  obtain ⟨node, terminal, shorter, found⟩ :=
    walked.stuck.deepest_of_longest walked.deepest longest
  obtain ⟨more, rfl, _, dropped⟩ := walked.cut (by omega) (List.prefix_iff_eq_take.mpr shorter)
  rw [List.append_assoc] at along
  rw [along, byteLength_append] at ends
  have left : ((walk.pending.drop word.length).map Fed.plain ++ others).map Fed.toLocated =
      Located.ofText (offset + byteLength word) (more ++ behind) := by
    rw [dropped]
    apply map_plain_append _ (by omega)
    rw [walked.left, byteLength_append, Nat.add_assoc]
  obtain ⟨_, last, again, ended⟩ := Trie.registered_iff.mp longest.holds
  obtain rfl : node = last := Option.some.inj (found.symm.trans again)
  obtain ⟨number, kind, reader, named, bound, available, opened⟩ :=
    openLiteral_eq sound (starting state fed) ended (walk.pending.take word.length)
  have stuck : stuckLiteral profile (starting state fed) walk =
      (((starting state fed).keepReader number (Literal.Reader.reset reader)).become
        (.literal number kind)).feed ((walk.pending.drop word.length).map Fed.plain) := by
    simp only [stuckLiteral, terminal, opened]
  rw [stuck] at amounts
  exact ⟨more ++ behind, node, kind, number, reader, _, along, found, named, bound, available, left,
    startsToken.leads amounts⟩

/-! ## The longest introduction -/

/-- Exactly one token comes of a literal, and it tells whether the literal is the first
one of its line. -/
theorem Introduced.tokensOf_judge (profile : Profile ρ) (literal : Introduced) (reader : ρ)
    (offset : Nat) (text : List Char) :
    ∃ token, tokensOf (judge profile literal reader offset text).reports = [token] ∧
      token.atLineStart = literal.atLineStart := by
  induction text generalizing reader offset with
  | nil =>
      simp only [judge, atEnd]
      split <;> exact ⟨_, rfl, rfl⟩
  | cons symbol rest ih =>
      unfold judge
      dsimp only
      split
      · exact ih _ _
      · exact ih _ _
      · exact ⟨_, rfl, rfl⟩
      · exact ⟨_, rfl, rfl⟩
      · split <;> exact ⟨_, rfl, rfl⟩

/-- From the introduction of a literal on, everything happens as a fresh reader says. -/
def Delegates (profile : Profile ρ) (source : String) : Prop :=
  Delivers profile source ∧
    ∀ (before after : List Token) (token : Token) (front rest : List Char) (symbol : Char),
      tokens profile source = before ++ token :: after →
      source.toList = front ++ symbol :: rest → token.span.start = byteLength front →
      (profile.classes.classify symbol).literalFirst = true →
      (profile.classes.classify symbol).linefeed = false →
      (profile.classes.classify symbol).whitespace = false →
      ∀ word, LongestStart profile.literals.Registered (symbol :: rest) word →
        ∃ past behind kind reader verdict, tokensOf past = before ∧
          symbol :: rest = word ++ behind ∧ profile.literals.lookup? word = some kind ∧
          profile.literalReader? word = some reader ∧
          Introduced.judge profile ⟨token.atLineStart, byteLength front, kind⟩
            (Literal.Reader.reset reader) (byteLength front + byteLength word) behind = verdict ∧
          tokensOf verdict.reports = [token] ∧
          Arrives profile source (past ++ verdict.reports) .idle false (byteLength front)
            verdict.offset verdict.left

theorem delegates_of_fits {source : String}
    (delegates : byteLength source.toList ≤ maxOffset → Delegates profile source) :
    Delegates profile source := by
  by_cases fits : byteLength source.toList ≤ maxOffset
  · exact delegates fits
  · obtain ⟨nothing, delivers⟩ := events_of_large profile fits
    refine ⟨delivers, fun before after token _ _ _ cut => ?_⟩
    simp [tokens, nothing] at cut

theorem delegates_of_setting {pointed : Segment → Prop} {source : String}
    (fits : byteLength source.toList ≤ maxOffset)
    (undotted : profile.literals.advance Trie.root '.' = none)
    (setting : Setting (.tight pointed) profile (Located.ofText 0 source.toList))
    (renews : profile.Renews)
    (plain : ∀ located : Located, located.symbol ∈ source.toList →
      (profile.classes.classify located.symbol).literalFirst = true →
      ¬CanContinue profile located ∧ ∀ trail, ¬pointed ⟨located, trail⟩) :
    Delegates profile source := by
  obtain ⟨_, _, _, delivers⟩ :=
    transcribed fits (bounded_of_setting setting (Located.adjoin_source fits) undotted)
  refine ⟨delivers, ?_⟩
  intro before after token front rest symbol cut text starts first notLineEnd notBlank word longest
  have sound := setting.sound
  have member : symbol ∈ source.toList := by simp [text]
  obtain ⟨quiet, unpointed⟩ := plain ⟨symbol, byteLength front⟩ member first
  obtain ⟨past, future, state, fed, queue, startsToken⟩ :=
    StartsToken.of_tokens fits undotted setting cut text starts unpointed
  have located := startsToken.located rfl
  obtain ⟨rfl, offset⟩ : fed.symbol = symbol ∧ fed.offset = byteLength front := by simp [located]
  have ends : byteLength front + byteLength (fed.symbol :: rest) = byteLength source.toList := by
    rw [text, byteLength_append]
  obtain ⟨child, edge⟩ := Trie.Registered.root_edge longest.holds longest.starts
  have dispatched := dispatch_literal startsToken.sane.classes startsToken.free (located ▸ quiet)
    first notLineEnd notBlank edge
  obtain ⟨behind, node, kind, number, used, left, along, found, named, bound, available, symbols,
    leads⟩ := startsToken.opens sound edge dispatched ends fits longest
  rw [along, byteLength_append, ← Nat.add_assoc] at ends
  have genuine : Genuine profile (starting state fed) :=
    Genuine.of_readers (Genuine.leads (.initial profile) startsToken.reaches) rfl
  obtain ⟨fresh, instantiated, derived⟩ := genuine.obtained available
  obtain ⟨verdict, judged⟩ : ∃ verdict, Introduced.judge profile
      ⟨state.lineStart, fed.offset, kind⟩ (Literal.Reader.reset fresh)
      (byteLength front + byteLength word) behind = verdict := ⟨_, rfl⟩
  obtain ⟨final, unread, onward, concluded, ahead⟩ := literal_leads
    (ScanState.enter (.keepReader (starting state fed) number (Literal.Reader.reset used))
      (.literal number kind)) rfl (sound.literalKinds node kind named) startsToken.sane.classes
    (ScanState.reader?_keepReader ..) (renews number fresh used instantiated derived) symbols
    (by omega) judged
  rw [ends] at onward
  obtain ⟨arrives, firstToken⟩ := startsToken.arrives (leads.trans onward) ahead
  rw [concluded.idle, concluded.late, concluded.begun] at arrives
  obtain ⟨made, single, flag⟩ := Introduced.tokensOf_judge profile
    ⟨state.lineStart, fed.offset, kind⟩ (Literal.Reader.reset fresh)
    (byteLength front + byteLength word) behind
  rw [judged] at single
  have sameToken : made = token := by
    have firstOf : tokensOf verdict.reports <+: token :: after := by simpa using firstToken
    rw [single] at firstOf
    exact (List.cons_prefix_cons.mp firstOf).1
  rw [sameToken] at single flag
  have nonempty : word ≠ [] := (Trie.registered_iff.mp longest.holds).1
  have lookup : profile.literals.lookup? word = some kind := by
    simp [Trie.lookup?, nonempty, found, named]
  have reads : profile.literalReader? word = some fresh := by
    simp [Profile.literalReader?, found, bound, instantiated]
  rw [flag, ← offset]
  exact ⟨past, behind, kind, fresh, verdict, startsToken.before, along, lookup, reads,
    offset ▸ judged, single, arrives⟩

/-- A literal is left to the reader of the longest introduction when no line of the
source can be continued, and in C in any case. -/
theorem literal_delegated :
    (∀ {ρ : Type} [Literal.Reader ρ] {profile : Profile ρ}, profile.Made →
      ¬profile.StartsLiteral '.' → profile.Renews → ∀ source : String,
      (profile.options.honorLineContinuation = false ∨
        ∀ symbol ∈ source.toList, (profile.classes.classify symbol).escape = false) →
      Delegates profile source) ∧
    ∀ source : String, Delegates CLike.profile source := by
  constructor
  · intro ρ _ profile made unstarted renews source unescaped
    apply delegates_of_fits
    intro fits
    have undotted := (made.sound.not_startsLiteral_iff '.').mp unstarted
    refine delegates_of_setting fits undotted (setting_of_unescaped made.sound unescaped) renews ?_
    exact fun located member _ => ⟨not_canContinue_of_unescaped unescaped member, fun _ => id⟩
  · intro source
    apply delegates_of_fits
    intro fits
    refine delegates_of_setting fits CLike.dotted.literals (CLike.dotted.setting _)
      (Profile.renews_of_stock _) ?_
    intro located _ first
    constructor
    · rintro ⟨_, escape⟩
      rw [CLike.eq_backslash_of_escape escape] at first
      exact absurd first (by decide +kernel)
    · intro _ point
      rw [show located.symbol = '.' from point, CLike.traits_point] at first
      simp at first

/-- A language whose strings start with one quote or with three. -/
def quoteProfile : Profile Literal.Stock :=
  (Builder.afterAll {} [.addLiteral "\"" (.literal 0) (.string '"'),
    .addLiteral "\"\"\"" (.literal 1) (.string '"')]).profile

theorem quoteProfile_made : quoteProfile.Made :=
  ⟨_, rfl⟩

/-- The walk along two quotes goes past the introduction, so the second quote is given
to the reader and ends the string. -/
theorem literal_delegated_quote :
    LongestStart quoteProfile.literals.Registered "\"\"x".toList ['"'] ∧
      ∃ past, tokensOf past = [] ∧
        Arrives quoteProfile "\"\"x"
          (past ++ [.token {
            atLineStart := true
            kind := .literal 0
            span := ⟨0, 2⟩
            payload := .literal "" }]) .idle false 0 2 ['x'] := by
  have unstarted : ¬quoteProfile.StartsLiteral '.' :=
    (quoteProfile_made.sound.not_startsLiteral_iff '.').mpr (by decide +kernel)
  have plain : "\"\"x".toList.all
      (fun symbol => !(quoteProfile.classes.classify symbol).escape) = true := by
    decide +kernel
  have longest : LongestStart quoteProfile.literals.Registered "\"\"x".toList ['"'] :=
    Trie.longestStart_of_take (by decide) (show _ = true by decide +kernel) (by decide +kernel)
  have first : tokens quoteProfile "\"\"x" =
      [] ++ { atLineStart := true, kind := .literal 0, span := ⟨0, 2⟩, payload := .literal "" } ::
        (tokens quoteProfile "\"\"x").tail := by
    decide +kernel
  have kinds : quoteProfile.literals.lookup? ['"'] = some (.literal 0) := by decide +kernel
  have readers : quoteProfile.literalReader? ['"'] = some (.string '"') := by decide +kernel
  obtain ⟨past, behind, kind, reader, verdict, before, same, named, found, judged, _, arrives⟩ :=
    (literal_delegated.1 quoteProfile_made unstarted (Profile.renews_of_stock _) "\"\"x"
      (Or.inr fun symbol member => by simpa using List.all_eq_true.mp plain symbol member)).2
      _ _ _ [] ['"', 'x'] '"' first (by decide) rfl (by decide +kernel) (by decide +kernel)
      (by decide +kernel) ['"'] longest
  obtain rfl : ['"', 'x'] = behind := (List.cons_eq_cons.mp same).2
  obtain rfl := Option.some.inj (kinds.symm.trans named)
  obtain rfl := Option.some.inj (readers.symm.trans found)
  subst judged
  exact ⟨longest, past, before, arrives⟩

end Scan

end Lexing
