import Lexing.Proofs.Delegation
import Lexing.Proofs.Numbering
import Mathlib.Data.List.Forall2

/-!
# Scans that go alike

Two scans of different sources, or with profiles that number their nodes and readers
differently, can go side by side.  The offsets of their symbols differ, the texts of their
comments may differ, and so may what their readers have read.  As long as these things
correspond, the machine reacts alike to symbols that correspond, whatever the mode.
-/

namespace Lexing

namespace Scan

variable {ρ : Type}

/-- In what sense two scans correspond: in the offsets of their sources, in the symbols that
both have, in the texts of tokens of a kind, in the texts of block comments, of which the given
number of symbols of the closing marker were just seen, in the readers that read literals of a
kind, in the readers that are kept under two numbers, and in the numbers themselves. -/
structure Likeness (ρ : Type) where
  offset : Nat → Nat → Prop
  usual : Char → Prop
  text : Kind → String → String → Prop
  comment : Nat → List Char → List Char → Prop
  reader : Kind → ρ → ρ → Prop
  kept : Nat → Nat → Option ρ → Option ρ → Prop
  numbering : Numbering := .same

namespace Likeness

variable (likeness : Likeness ρ)

structure LocatedAlike (one two : Located) : Prop where
  symbol : two.symbol = one.symbol
  usual : likeness.usual one.symbol
  offset : likeness.offset one.offset two.offset
  stop : likeness.offset one.stop two.stop

variable {likeness} in
theorem LocatedAlike.of_symbol {one two : Located} {symbol : Char}
    (alike : likeness.LocatedAlike one two) (same : one.symbol = symbol) :
    likeness.LocatedAlike ⟨symbol, one.offset⟩ ⟨symbol, two.offset⟩ := by
  obtain ⟨first, offset⟩ := one
  obtain ⟨second, other⟩ := two
  obtain rfl : second = first := alike.symbol
  obtain rfl : second = symbol := same
  exact alike

structure FedAlike (one two : Fed) : Prop extends
    likeness.LocatedAlike one.toLocated two.toLocated where
  exempt : two.exempt = one.exempt

/-- Walks through two tries whose nodes correspond as given. -/
structure WalkAlike (nodes : NodeId → NodeId → Prop) (one two : Walk) : Prop where
  node : nodes one.node two.node
  pending : List.Forall₂ likeness.LocatedAlike one.pending two.pending
  terminal : Option.Rel (fun here there => nodes here.1 there.1 ∧ there.2 = here.2)
    one.terminal two.terminal

variable {likeness} in
theorem WalkAlike.terminal_none {nodes : NodeId → NodeId → Prop} {one two : Walk}
    (walks : likeness.WalkAlike nodes one two) (incomplete : one.terminal = none) :
    two.terminal = none := by
  have terminals := walks.terminal
  rw [incomplete] at terminals
  generalize two.terminal = terminal at terminals ⊢
  cases terminals
  rfl

inductive ResumeAlike : Resume → Resume → Prop
  | idle : ResumeAlike .idle .idle
  | identifier : ResumeAlike .identifier .identifier
  | operator {one two : Walk} : likeness.WalkAlike likeness.numbering.operator one two →
      ResumeAlike (.operator one) (.operator two)
  | lineComment (text : List Char) : ResumeAlike (.lineComment text) (.lineComment text)

/-- Modes that correspond.  In literals, the readers have to correspond as well, so they
are left out here. -/
inductive ModeAlike : Mode → Mode → Prop
  | idle : ModeAlike .idle .idle
  | blank {run : Char} : likeness.usual run → ModeAlike (.blank run) (.blank run)
  | identifier : ModeAlike .identifier .identifier
  | numberPrefix {here there : NodeId} {one two : List Located} :
      likeness.numbering.numberPrefix here there → List.Forall₂ likeness.LocatedAlike one two →
      ModeAlike (.numberPrefix here one) (.numberPrefix there two)
  | number (value : Numeral) : ModeAlike (.number value) (.number value)
  | maybeFloat (value : Numeral) {one two : Nat} (hasInteger : Bool) :
      likeness.LocatedAlike ⟨'.', one⟩ ⟨'.', two⟩ →
      ModeAlike (.maybeFloat value one hasInteger) (.maybeFloat value two hasInteger)
  | float (value : Numeral) : ModeAlike (.float value) (.float value)
  | operator {one two : Walk} : likeness.WalkAlike likeness.numbering.operator one two →
      ModeAlike (.operator one) (.operator two)
  | lineComment (text : List Char) : ModeAlike (.lineComment text) (.lineComment text)
  | blockComment {one two : List Char} {seen : Nat} (crossed : Bool) :
      likeness.comment seen one two →
      ModeAlike (.blockComment one seen crossed) (.blockComment two seen crossed)
  | literalPrefix {one two : Walk} : likeness.WalkAlike likeness.numbering.literal one two →
      ModeAlike (.literalPrefix one) (.literalPrefix two)
  | continuation {one two : Resume} {escape other : Located} {carriage next : Option Nat} :
      likeness.ResumeAlike one two → likeness.LocatedAlike escape other →
      Option.Rel (fun one two => likeness.LocatedAlike ⟨'\r', one⟩ ⟨'\r', two⟩) carriage next →
      ModeAlike (.continuation one escape carriage) (.continuation two other next)

/-- States that correspond in everything but the mode. -/
structure FrameAlike (one two : ScanState ρ) : Prop where
  start : likeness.offset one.tokenStart two.tokenStart
  fresh : two.lineStart = one.lineStart
  classes : two.ownClasses = one.ownClasses
  kept : ∀ {number other}, likeness.numbering.reader number other →
    likeness.kept number other (one.reader? number) (two.reader? other)

/-- What two scans are reading, literals included. -/
inductive ReadingAlike (one two : ScanState ρ) : Prop
  | mode : likeness.ModeAlike one.mode two.mode → ReadingAlike one two
  | literal {number other : Nat} {kind : Kind} {reader another : ρ} :
      one.mode = .literal number kind → two.mode = .literal other kind →
      likeness.numbering.reader number other →
      one.reader? number = some reader → two.reader? other = some another →
      likeness.reader kind reader another → ReadingAlike one two

structure StateAlike (one two : ScanState ρ) : Prop extends likeness.FrameAlike one two where
  reading : likeness.ReadingAlike one two

/-- Payloads of tokens that end at the given places, where the suffixes of numbers start. -/
inductive PayloadAlike (kind : Kind) (stop last : Nat) : Payload → Payload → Prop
  | empty : PayloadAlike kind stop last .empty .empty
  | comment {one two : String} : likeness.text kind one two →
      PayloadAlike kind stop last (.comment one) (.comment two)
  | literal {one two : String} : likeness.text kind one two →
      PayloadAlike kind stop last (.literal one) (.literal two)
  | integer (value : IntegerValue) : value.suffixStart = stop →
      PayloadAlike kind stop last (.integer value) (.integer { value with suffixStart := last })
  | float (value : FloatValue) : value.suffixStart = stop →
      PayloadAlike kind stop last (.float value) (.float { value with suffixStart := last })

structure TokenAlike (one two : Token) : Prop where
  atLineStart : two.atLineStart = one.atLineStart
  kind : two.kind = one.kind
  start : likeness.offset one.span.start two.span.start
  stop : likeness.offset one.span.stop two.span.stop
  payload : likeness.PayloadAlike one.kind one.span.stop two.span.stop one.payload two.payload

structure SpanAlike (one two : Span) : Prop where
  start : likeness.offset one.start two.start
  stop : likeness.offset one.stop two.stop

inductive ReportAlike : Report → Report → Prop
  | token {one two : Token} : likeness.TokenAlike one two → ReportAlike (.token one) (.token two)
  | unexpected {one two : Span} (complaint : Option String) : likeness.SpanAlike one two →
      ReportAlike (.unexpected one complaint) (.unexpected two complaint)
  | unknownOperator {one two : Span} : likeness.SpanAlike one two →
      ReportAlike (.unknownOperator one) (.unknownOperator two)
  | literalMessage {one two : Span} (message : String) : likeness.SpanAlike one two →
      ReportAlike (.literalMessage one message) (.literalMessage two message)

structure ReactionAlike (one two : Reaction ρ) : Prop where
  state : likeness.StateAlike one.state two.state
  reports : List.Forall₂ likeness.ReportAlike one.reports two.reports
  next : List.Forall₂ likeness.FedAlike one.next two.next

/-- The profiles differ in their numbers only, and texts and readers keep corresponding when
they receive the same usual symbols. -/
structure Lawful [Literal.Reader ρ] (likeness : Likeness ρ) (profile copy : Profile ρ) : Prop where
  relates : likeness.numbering.Relates profile copy
  lineText : ∀ text, likeness.text .lineComment text text
  commentOpens : likeness.comment 0 [] []
  commentGrows : ∀ {seen one two symbol}, likeness.comment seen one two →
    likeness.usual symbol →
    likeness.comment (markerSeen profile.blockClose seen symbol) (symbol :: one) (symbol :: two)
  commentText : ∀ {seen one two}, likeness.comment seen one two →
    profile.blockClose.length ≤ seen →
    likeness.text .blockComment (String.ofList (one.drop profile.blockClose.length).reverse)
      (String.ofList (two.drop profile.blockClose.length).reverse)
  opens : ∀ {node number other one two}, profile.literals.binding? node = some number →
    likeness.numbering.reader number other → likeness.kept number other one two →
    Option.Rel (fun reader another =>
        likeness.reader ((profile.literals.kind? node).getD .unexpected)
            (Literal.Reader.reset reader) (Literal.Reader.reset another) ∧
          likeness.kept number other (some (Literal.Reader.reset reader))
            (some (Literal.Reader.reset another)))
      (one.or (profile.readers.instantiate? number)) (two.or (copy.readers.instantiate? other))
  signal : ∀ {kind one two symbol}, likeness.reader kind one two → likeness.usual symbol →
    (Literal.Reader.read two symbol).1 = (Literal.Reader.read one symbol).1
  reads : ∀ {kind one two symbol}, likeness.reader kind one two → likeness.usual symbol →
    likeness.reader kind (Literal.Reader.read one symbol).2 (Literal.Reader.read two symbol).2
  takes : ∀ {kind one two}, likeness.reader kind one two →
    likeness.text kind (Literal.Reader.take one).1 (Literal.Reader.take two).1
  ending : ∀ {kind one two}, likeness.reader kind one two →
    (Literal.Reader.finish two).1 = (Literal.Reader.finish one).1
  ended : ∀ {kind one two}, likeness.reader kind one two →
    likeness.text kind (Literal.Reader.take (Literal.Reader.finish one).2).1
      (Literal.Reader.take (Literal.Reader.finish two).2).1
  keepsRead : ∀ {number other one two} (symbol : Char),
    likeness.kept number other (some one) (some two) →
    likeness.kept number other (some (Literal.Reader.read one symbol).2)
      (some (Literal.Reader.read two symbol).2)
  keepsTake : ∀ {number other one two}, likeness.kept number other (some one) (some two) →
    likeness.kept number other (some (Literal.Reader.take one).2)
      (some (Literal.Reader.take two).2)
  keepsFinish : ∀ {number other one two}, likeness.kept number other (some one) (some two) →
    likeness.kept number other (some (Literal.Reader.finish one).2)
      (some (Literal.Reader.finish two).2)

variable {likeness} {profile copy : Profile ρ} {one two : ScanState ρ} {fed other : Fed}
  {kind : Kind} {stop last : Nat} {mode next : Mode}

/-! ## The parts of a reaction -/

theorem FrameAlike.classify (frame : likeness.FrameAlike one two)
    (relates : likeness.numbering.Relates profile copy) (symbol : Char) :
    two.classify copy symbol = one.classify profile symbol := by
  unfold ScanState.classify
  rw [frame.classes, relates.classes]

theorem FrameAlike.beginsContinuation (frame : likeness.FrameAlike one two)
    (relates : likeness.numbering.Relates profile copy) (feds : likeness.FedAlike fed other) :
    beginsContinuation copy two other = beginsContinuation profile one fed := by
  unfold Scan.beginsContinuation
  rw [feds.symbol, feds.exempt, relates.options, frame.classify relates]

theorem FrameAlike.become (frame : likeness.FrameAlike one two)
    (modes : likeness.ModeAlike mode next) :
    likeness.ReactionAlike (one.become mode) (two.become next) where
  state := {
    start := frame.start
    fresh := frame.fresh
    classes := frame.classes
    kept := frame.kept
    reading := .mode modes }
  reports := .nil
  next := .nil

theorem FrameAlike.emit (frame : likeness.FrameAlike one two)
    (modes : likeness.ModeAlike one.mode two.mode) (kind : Kind) {span other : Span}
    (start : likeness.offset span.start other.start) (ends : likeness.offset span.stop other.stop)
    {payload another : Payload}
    (payloads : likeness.PayloadAlike kind span.stop other.stop payload another) :
    likeness.ReactionAlike (one.emit kind span payload) (two.emit kind other another) where
  state := {
    start := frame.start
    fresh := by simp [ScanState.emit, ScanState.freshAfter, frame.fresh]
    classes := frame.classes
    kept := frame.kept
    reading := .mode modes }
  reports := .cons (.token ⟨frame.fresh, rfl, start, ends, payloads⟩) .nil
  next := .nil

theorem FrameAlike.enter (frame : likeness.FrameAlike one two) (mode next : Mode) :
    likeness.FrameAlike (one.enter mode) (two.enter next) :=
  { frame with }

theorem FrameAlike.finish (frame : likeness.FrameAlike one two) (kind : Kind)
    (ends : likeness.offset stop last) {payload another : Payload}
    (payloads : likeness.PayloadAlike kind stop last payload another) :
    likeness.ReactionAlike (one.finish kind stop payload) (two.finish kind last another) :=
  (frame.enter .idle .idle).emit .idle kind frame.start ends payloads

theorem FrameAlike.finishNumber (frame : likeness.FrameAlike one two) (value : Numeral)
    (ends : likeness.offset stop last) :
    likeness.ReactionAlike (one.finishNumber value stop) (two.finishNumber value last) := by
  refine frame.finish _ ends ?_
  unfold Numeral.payload
  split
  · exact .float _ rfl
  · exact .integer _ rfl

theorem ReactionAlike.notify {reaction answer : Reaction ρ}
    (alike : likeness.ReactionAlike reaction answer) {report remark : Report}
    (told : likeness.ReportAlike report remark) :
    likeness.ReactionAlike (reaction.notify report) (answer.notify remark) where
  state := alike.state
  reports := .cons told alike.reports
  next := alike.next

theorem ReactionAlike.feed {reaction answer : Reaction ρ} {again more : List Fed}
    (alike : likeness.ReactionAlike reaction answer)
    (symbols : List.Forall₂ likeness.FedAlike again more) :
    likeness.ReactionAlike (reaction.feed again) (answer.feed more) where
  state := alike.state
  reports := alike.reports
  next := List.rel_append alike.next symbols

theorem FrameAlike.reject (frame : likeness.FrameAlike one two) {span another : Span}
    (start : likeness.offset span.start another.start)
    (ends : likeness.offset span.stop another.stop) (complaint : Option String) :
    likeness.ReactionAlike (one.reject span complaint) (two.reject another complaint) :=
  ((frame.enter .idle .idle).emit .idle .unexpected start ends .empty).notify
    (.unexpected complaint ⟨start, ends⟩)

theorem fedAlike_plain {symbols others : List Located}
    (alike : List.Forall₂ likeness.LocatedAlike symbols others) :
    List.Forall₂ likeness.FedAlike (symbols.map Fed.plain) (others.map Fed.plain) := by
  rw [List.forall₂_map_left_iff, List.forall₂_map_right_iff]
  exact alike.imp fun _ _ located => { toLocatedAlike := located, exempt := rfl }

/-! ## Symbols and spans -/

section Symbols

variable {symbols others : List Located}
  (alike : List.Forall₂ likeness.LocatedAlike symbols others)

include alike

theorem head?_alike : Option.Rel likeness.LocatedAlike symbols.head? others.head? := by
  cases alike with
  | nil => exact .none
  | cons first _ => exact .some first

theorem getLast?_alike : Option.Rel likeness.LocatedAlike symbols.getLast? others.getLast? := by
  induction alike with
  | nil => exact .none
  | cons first rest ih =>
      cases rest with
      | nil => exact .some first
      | cons => simpa [List.getLast?_cons_cons] using ih

theorem spanOf?_alike :
    Option.Rel likeness.SpanAlike (Located.spanOf? symbols) (Located.spanOf? others) := by
  cases alike with
  | nil => exact .none
  | cons first rest =>
      have last := getLast?_alike rest
      rw [Located.spanOf?_cons, Located.spanOf?_cons]
      refine .some ⟨first.offset, ?_⟩
      revert last
      generalize List.getLast? _ = one, List.getLast? _ = two
      rintro (last | _)
      · exact last.stop
      · exact first.stop

end Symbols

/-- The place where an operator ends. -/
theorem ends_alike {first second : List Located} {stop last : Option Nat} {start other : Nat}
    {left rest : List Located} (taken : List.Forall₂ likeness.LocatedAlike first second)
    (leftover : List.Forall₂ likeness.LocatedAlike left rest)
    (ends : Option.Rel likeness.offset stop last) (starts : likeness.offset start other) :
    likeness.offset
      (((left.head?.map Located.offset).or stop).getD
        ((first.getLast?.map Located.stop).getD start))
      (((rest.head?.map Located.offset).or last).getD
        ((second.getLast?.map Located.stop).getD other)) := by
  have heads := head?_alike leftover
  have lasts := getLast?_alike taken
  generalize left.head? = one, rest.head? = two at heads ⊢
  generalize first.getLast? = three, second.getLast? = four at lasts ⊢
  rcases heads with heads | _
  · exact heads.offset
  · rcases ends with ends | _
    · exact ends
    · rcases lasts with lasts | _
      · exact lasts.stop
      · exact starts

/-! ## Answers that any profile gives alike -/

section Frame

variable (frame : likeness.FrameAlike one two)

include frame

theorem releaseDot_alike (value : Numeral) {dot point : Nat} (hasInteger : Bool)
    (located : likeness.LocatedAlike ⟨'.', dot⟩ ⟨'.', point⟩) :
    likeness.ReactionAlike (releaseDot one value dot hasInteger)
      (releaseDot two value point hasInteger) := by
  have again : likeness.FedAlike
      { symbol := '.', offset := dot, exempt := { dotNumber := true } }
      { symbol := '.', offset := point, exempt := { dotNumber := true } } :=
    { toLocatedAlike := located, exempt := rfl }
  cases hasInteger with
  | true => exact (frame.finishNumber value located.offset).feed (.cons again .nil)
  | false => exact (frame.become .idle).feed (.cons again .nil)

theorem readMaybeFloat_alike (value : Numeral) {dot point : Nat} (hasInteger : Bool)
    (located : likeness.LocatedAlike ⟨'.', dot⟩ ⟨'.', point⟩) (feds : likeness.FedAlike fed other) :
    likeness.ReactionAlike (readMaybeFloat one value dot hasInteger fed)
      (readMaybeFloat two value point hasInteger other) := by
  unfold readMaybeFloat
  rw [feds.symbol]
  split
  · exact frame.become (.float _)
  · exact (releaseDot_alike frame value hasInteger located).feed (.cons feds .nil)

theorem readBlank_alike {run : Char} (usual : likeness.usual run)
    (feds : likeness.FedAlike fed other) :
    likeness.ReactionAlike (readBlank one run fed) (readBlank two run other) := by
  unfold readBlank
  rw [feds.symbol]
  split
  · split
    · exact frame.finish _ feds.stop .empty
    · exact (frame.finish _ feds.offset .empty).feed (.cons feds .nil)
  split
  · exact frame.become (.blank usual)
  · exact (frame.finish _ feds.offset .empty).feed (.cons feds .nil)

omit frame in
theorem ResumeAlike.modeAlike {resume another : Resume}
    (resumes : likeness.ResumeAlike resume another) :
    likeness.ModeAlike resume.mode another.mode := by
  cases resumes with
  | idle => exact .idle
  | identifier => exact .identifier
  | operator walks => exact .operator walks
  | lineComment text => exact .lineComment text

theorem joinLines_alike {resume another : Resume} {escape mark : Located}
    (resumes : likeness.ResumeAlike resume another) (escapes : likeness.LocatedAlike escape mark)
    (ends : likeness.offset stop last) :
    likeness.ReactionAlike (joinLines one resume escape stop)
      (joinLines two another mark last) := by
  cases resumes with
  | idle => exact (frame.enter .idle .idle).emit .idle .lineContinuation escapes.offset ends .empty
  | identifier => exact frame.become .identifier
  | operator walks => exact frame.become (.operator walks)
  | lineComment text => exact frame.become (.lineComment text)

theorem abandonContinuation_alike {resume another : Resume} {escape mark : Located}
    (resumes : likeness.ResumeAlike resume another) (escapes : likeness.LocatedAlike escape mark) :
    likeness.ReactionAlike (abandonContinuation one resume escape)
      (abandonContinuation two another mark) :=
  (frame.become resumes.modeAlike).feed (.cons { toLocatedAlike := escapes, exempt := rfl } .nil)

theorem continueLine_alike {resume another : Resume} {escape mark : Located}
    {carriage next : Option Nat} (resumes : likeness.ResumeAlike resume another)
    (escapes : likeness.LocatedAlike escape mark)
    (carriages : Option.Rel (fun one two => likeness.LocatedAlike ⟨'\r', one⟩ ⟨'\r', two⟩)
      carriage next)
    (feds : likeness.FedAlike fed other) :
    likeness.ReactionAlike (continueLine one resume escape carriage fed)
      (continueLine two another mark next other) := by
  unfold continueLine
  rw [feds.symbol]
  split
  · exact joinLines_alike frame resumes escapes feds.stop
  rcases carriages with located | _
  · exact (joinLines_alike frame resumes escapes located.stop).feed (.cons feds .nil)
  · dsimp only
    split
    case isTrue carriage =>
      exact frame.become (.continuation resumes escapes
        (.some (feds.toLocatedAlike.of_symbol carriage)))
    case isFalse =>
      exact (abandonContinuation_alike frame resumes escapes).feed (.cons feds .nil)

theorem failLiteral_alike {span another : Span}
    (start : likeness.offset span.start another.start)
    (ends : likeness.offset span.stop another.stop) (complaint : String) :
    likeness.ReactionAlike (failLiteral one span complaint) (failLiteral two another complaint) :=
  (frame.reject start ends _).notify (.literalMessage complaint ⟨start, ends⟩)

end Frame

/-! ## Numbers and identifiers -/

section Numbers

variable (relates : likeness.numbering.Relates profile copy)
  (frame : likeness.FrameAlike one two) {here there : NodeId} {pending others : List Located}

include relates frame

omit relates frame in
theorem defaultNumeral_alike (profile : Profile ρ)
    (alike : List.Forall₂ likeness.LocatedAlike pending others) :
    defaultNumeral profile others = defaultNumeral profile pending := by
  unfold defaultNumeral
  generalize Numeral.ofKind profile.defaultNumber = value
  induction alike generalizing value with
  | nil => rfl
  | cons first _ ih => simp only [List.foldl_cons, first.symbol, ih]

omit relates frame in
theorem allDigits_alike (profile : Profile ρ)
    (alike : List.Forall₂ likeness.LocatedAlike pending others) :
    (others.all fun located => isDefaultDigit profile located.symbol) =
      pending.all fun located => isDefaultDigit profile located.symbol := by
  induction alike with
  | nil => rfl
  | cons first _ ih => simp only [List.all_cons, first.symbol, ih]

theorem resolvePrefix_alike (nodes : likeness.numbering.numberPrefix here there)
    (alike : List.Forall₂ likeness.LocatedAlike pending others) {next after : Option Fed}
    (nexts : Option.Rel likeness.FedAlike next after) :
    likeness.ReactionAlike (resolvePrefix profile one here pending next)
      (resolvePrefix copy two there others after) := by
  have spans := spanOf?_alike alike
  have numerals := defaultNumeral_alike profile alike
  have digits := allDigits_alike profile alike
  have again : List.Forall₂ likeness.FedAlike next.toList after.toList := by
    rcases nexts with feds | _
    · exact .cons feds .nil
    · exact .nil
  have tests : ∀ test : Char → Bool, (after.any fun fed => test fed.symbol) =
      next.any fun fed => test fed.symbol := by
    rcases nexts with feds | _
    · simp [feds.symbol]
    · simp
  unfold resolvePrefix
  rw [relates.numberPrefixes.kind? nodes, relates.isDefaultDigit, relates.opensDigits,
    relates.continuesDefault, relates.defaultNumeral]
  generalize Located.spanOf? pending = span, Located.spanOf? others = another at spans ⊢
  rcases spans with spans | _
  · dsimp only
    rw [numerals, digits, tests, show (fun kind => after.any fun fed => opensDigits profile kind
      fed.symbol) = fun kind => next.any fun fed => opensDigits profile kind fed.symbol from
      funext fun kind => tests (opensDigits profile kind)]
    split
    · exact (frame.become (.number _)).feed again
    split
    · exact (frame.become (.number _)).feed again
    split
    · exact (frame.finishNumber _ spans.2).feed again
    split
    · exact (frame.finishNumber _ spans.2).feed again
    · exact (frame.reject spans.start spans.stop _).feed again
  · exact (frame.become .idle).feed again

theorem readNumberPrefix_alike (nodes : likeness.numbering.numberPrefix here there)
    (alike : List.Forall₂ likeness.LocatedAlike pending others)
    (feds : likeness.FedAlike fed other) :
    likeness.ReactionAlike (readNumberPrefix profile one here pending fed)
      (readNumberPrefix copy two there others other) := by
  unfold readNumberPrefix
  rw [feds.symbol]
  have further := relates.numberPrefixes.advance nodes fed.symbol
  generalize profile.numberPrefixes.advance here fed.symbol = edge,
    copy.numberPrefixes.advance there fed.symbol = edgeToo at further ⊢
  cases further with
  | some nodes =>
      exact frame.become
        (.numberPrefix nodes (List.rel_append alike (.cons feds.toLocatedAlike .nil)))
  | none => exact resolvePrefix_alike relates frame nodes alike (.some feds)

theorem readNumber_alike (value : Numeral) (feds : likeness.FedAlike fed other) :
    likeness.ReactionAlike (readNumber profile one value fed)
      (readNumber copy two value other) := by
  unfold readNumber
  rw [feds.symbol, relates.isSeparator]
  split
  · exact frame.become (.number _)
  split
  · exact frame.become (.number _)
  split
  case isTrue dot =>
    exact frame.become (.maybeFloat value true (feds.toLocatedAlike.of_symbol dot))
  case isFalse => exact (frame.finishNumber _ feds.offset).feed (.cons feds .nil)

theorem readFloat_alike (value : Numeral) (feds : likeness.FedAlike fed other) :
    likeness.ReactionAlike (readFloat profile one value fed)
      (readFloat copy two value other) := by
  unfold readFloat
  rw [feds.symbol, relates.isSeparator]
  split
  · exact frame.become (.float _)
  split
  · exact frame.become (.float _)
  · exact (frame.finishNumber _ feds.offset).feed (.cons feds .nil)

theorem readIdentifier_alike (feds : likeness.FedAlike fed other) :
    likeness.ReactionAlike (readIdentifier profile one fed) (readIdentifier copy two other) := by
  unfold readIdentifier
  rw [frame.beginsContinuation relates feds, feds.symbol, frame.classify relates]
  split
  · exact frame.become (.continuation .identifier feds.toLocatedAlike .none)
  split
  · exact frame.become .identifier
  · exact (frame.finish _ feds.offset .empty).feed (.cons feds .nil)

end Numbers

/-! ## Operators and comments -/

section Machine

variable [Literal.Reader ρ] (lawful : likeness.Lawful profile copy)
  (frame : likeness.FrameAlike one two) {here there : NodeId} {pending others : List Located}
  {terminal passed : Option (NodeId × Nat)}

include lawful frame

theorem closeWalk_alike (nodes : likeness.numbering.operator here there)
    (ends : likeness.offset stop last) :
    likeness.ReactionAlike (closeWalk profile one here stop) (closeWalk copy two there last) := by
  unfold closeWalk
  rw [lawful.relates.operators.kind? nodes, lawful.relates.fallbacks nodes, lawful.relates.options,
    frame.fresh]
  dsimp only
  split
  · split
    · exact frame.finish _ ends .empty
    · exact frame.become (.lineComment [])
  split
  · exact frame.become (.blockComment false lawful.commentOpens)
  · exact frame.finish _ ends .empty

theorem finishOperator_alike (nodes : likeness.numbering.operator here there)
    (alike : List.Forall₂ likeness.LocatedAlike pending others) (count : Nat)
    {next after : Option Nat} (ends : Option.Rel likeness.offset next after) :
    likeness.ReactionAlike (finishOperator profile one pending here count next)
      (finishOperator copy two others there count after) := by
  have leftover := List.forall₂_drop count alike
  refine (closeWalk_alike lawful frame nodes ?_).feed (fedAlike_plain leftover)
  exact ends_alike (List.forall₂_take count alike) leftover ends frame.start

theorem reachOperator_alike (nodes : likeness.numbering.operator here there)
    (alike : List.Forall₂ likeness.LocatedAlike pending others)
    (terminals : Option.Rel (fun here there => likeness.numbering.operator here.1 there.1 ∧
      there.2 = here.2) terminal passed) :
    likeness.ReactionAlike (reachOperator profile one here pending terminal)
      (reachOperator copy two there others passed) := by
  unfold reachOperator
  rw [lawful.relates.operators.hasChildren_eq nodes, lawful.relates.operators.kind? nodes,
    ← alike.length_eq]
  dsimp only
  split
  · refine frame.become (.operator ⟨nodes, alike, ?_⟩)
    dsimp only
    split
    · exact .some ⟨nodes, rfl⟩
    · exact terminals
  · exact finishOperator_alike lawful frame nodes alike _ .none

theorem stuckOperator_alike {walk another : Walk}
    (walks : likeness.WalkAlike likeness.numbering.operator walk another)
    (ends : likeness.offset stop last) :
    likeness.ReactionAlike (stuckOperator profile one walk stop)
      (stuckOperator copy two another last) := by
  obtain ⟨reached, pending, terminal⟩ := walk
  obtain ⟨reachedToo, others, passed⟩ := another
  obtain ⟨-, alike, terminals⟩ := walks
  unfold stuckOperator
  cases terminals with
  | some found =>
      obtain ⟨nodes, counts⟩ := found
      dsimp only at counts alike ⊢
      rw [counts]
      exact finishOperator_alike lawful frame nodes alike _ (.some ends)
  | none =>
      have spans := spanOf?_alike alike
      dsimp only at alike spans ⊢
      cases alike with
      | nil => exact frame.become .idle
      | @cons _ _ left right first rest =>
          rw [Located.spanOf?_cons, Located.spanOf?_cons] at spans ⊢
          obtain ⟨spans⟩ := spans
          refine ReactionAlike.feed (.notify (frame.reject first.offset ?_ _)
            (.unknownOperator spans)) (fedAlike_plain rest)
          have heads := head?_alike rest
          generalize left.head? = one, right.head? = two at heads ⊢
          rcases heads with heads | _
          · exact heads.offset
          · exact ends

theorem readOperator_alike {walk another : Walk}
    (walks : likeness.WalkAlike likeness.numbering.operator walk another)
    (feds : likeness.FedAlike fed other) :
    likeness.ReactionAlike (readOperator profile one walk fed)
      (readOperator copy two another other) := by
  unfold readOperator
  rw [frame.beginsContinuation lawful.relates feds, feds.symbol]
  split
  · exact frame.become (.continuation (.operator walks) feds.toLocatedAlike .none)
  have further := lawful.relates.operators.advance walks.node fed.symbol
  generalize profile.operators.advance walk.node fed.symbol = edge,
    copy.operators.advance another.node fed.symbol = edgeToo at further ⊢
  cases further with
  | some nodes =>
      exact reachOperator_alike lawful frame nodes
        (List.rel_append walks.pending (.cons feds.toLocatedAlike .nil)) walks.terminal
  | none => exact (stuckOperator_alike lawful frame walks feds.offset).feed (.cons feds .nil)

theorem readLineComment_alike (text : List Char) (feds : likeness.FedAlike fed other) :
    likeness.ReactionAlike (readLineComment profile one text fed)
      (readLineComment copy two text other) := by
  unfold readLineComment
  rw [frame.beginsContinuation lawful.relates feds, feds.symbol, frame.classify lawful.relates]
  split
  · exact frame.become (.continuation (.lineComment text) feds.toLocatedAlike .none)
  split
  · exact (frame.finish _ feds.offset (.comment (lawful.lineText _))).feed (.cons feds .nil)
  · exact frame.become (.lineComment _)

theorem readBlockComment_alike {text another : List Char} {seen : Nat} (crossed : Bool)
    (texts : likeness.comment seen text another) (feds : likeness.FedAlike fed other) :
    likeness.ReactionAlike (readBlockComment profile one text seen crossed fed)
      (readBlockComment copy two another seen crossed other) := by
  have grown := lawful.commentGrows texts feds.usual
  unfold readBlockComment
  rw [feds.symbol, frame.classify lawful.relates, lawful.relates.blockClose]
  dsimp only
  split
  case isTrue => exact frame.become (.blockComment _ grown)
  case isFalse complete =>
    have closed := frame.finish .blockComment feds.stop
      (.comment (lawful.commentText grown (Nat.le_of_not_lt complete)))
    exact {
      state := {
        start := closed.state.start
        fresh := congrArg (· || _) closed.state.fresh
        classes := closed.state.classes
        kept := closed.state.kept
        reading := .mode .idle }
      reports := closed.reports
      next := closed.next }

/-! ## Literals -/

omit [Literal.Reader ρ] lawful in
/-- Readers are kept under numbers that correspond. -/
theorem FrameAlike.keepReader (relates : likeness.numbering.Relates profile copy)
    {number another : Nat} (numbers : likeness.numbering.reader number another) {reader mirror : ρ}
    (kept : likeness.kept number another (some reader) (some mirror)) :
    likeness.FrameAlike (one.keepReader number reader) (two.keepReader another mirror) where
  start := frame.start
  fresh := frame.fresh
  classes := frame.classes
  kept := by
    intro place twin numbersToo
    by_cases same : place = number
    · obtain rfl : twin = another := (relates.paired numbers numbersToo).mp same
      rwa [same, ScanState.reader?_keepReader, ScanState.reader?_keepReader]
    -- A number that does not correspond misses the new entry on both sides.
    · have different : twin ≠ another :=
        fun both => same ((relates.paired numbers numbersToo).mpr both)
      rw [ScanState.reader?_keepReader_ne one reader same,
        ScanState.reader?_keepReader_ne two mirror different]
      exact frame.kept numbersToo

theorem openLiteral_alike (nodes : likeness.numbering.literal here there)
    (alike : List.Forall₂ likeness.LocatedAlike pending others) :
    likeness.ReactionAlike (openLiteral profile one here pending)
      (openLiteral copy two there others) := by
  have ends : likeness.offset (((Located.spanOf? pending).map Span.stop).getD one.tokenStart)
      (((Located.spanOf? others).map Span.stop).getD two.tokenStart) := by
    have spans := spanOf?_alike alike
    generalize Located.spanOf? pending = span, Located.spanOf? others = another at spans ⊢
    rcases spans with spans | _
    · exact spans.2
    · exact frame.start
  unfold openLiteral
  rw [lawful.relates.literals.kind? nodes]
  dsimp only
  have bindings := lawful.relates.bindings nodes
  generalize bound : profile.literals.binding? here = binding,
    copy.literals.binding? there = bindingToo at bindings ⊢
  cases bindings with
  | none => exact frame.finish _ ends .empty
  | @some number another numbers =>
      have readers := lawful.opens bound numbers (frame.kept numbers)
      dsimp only [obtainReader?]
      generalize (one.reader? number).or _ = first, (two.reader? another).or _ = second
        at readers ⊢
      cases readers with
      | none => exact frame.finish _ ends .empty
      | some related =>
          obtain ⟨reading, kept⟩ := related
          have framed := frame.keepReader lawful.relates numbers kept
          exact {
            state := {
              start := framed.start
              fresh := framed.fresh
              classes := framed.classes
              kept := framed.kept
              reading := .literal rfl rfl numbers (ScanState.reader?_keepReader ..)
                (ScanState.reader?_keepReader ..) reading }
            reports := .nil
            next := .nil }

theorem reachLiteral_alike (nodes : likeness.numbering.literal here there)
    (alike : List.Forall₂ likeness.LocatedAlike pending others)
    (terminals : Option.Rel (fun here there => likeness.numbering.literal here.1 there.1 ∧
      there.2 = here.2) terminal passed) :
    likeness.ReactionAlike (reachLiteral profile one here pending terminal)
      (reachLiteral copy two there others passed) := by
  unfold reachLiteral
  rw [lawful.relates.literals.hasChildren_eq nodes, lawful.relates.literals.kind? nodes,
    ← alike.length_eq]
  split
  · exact frame.become (.literalPrefix ⟨nodes, alike, terminals⟩)
  split
  · exact frame.become (.literalPrefix ⟨nodes, alike, .some ⟨nodes, rfl⟩⟩)
  · exact openLiteral_alike lawful frame nodes alike

theorem stuckLiteral_alike {walk another : Walk}
    (walks : likeness.WalkAlike likeness.numbering.literal walk another) :
    likeness.ReactionAlike (stuckLiteral profile one walk) (stuckLiteral copy two another) := by
  obtain ⟨reached, pending, terminal⟩ := walk
  obtain ⟨reachedToo, others, passed⟩ := another
  obtain ⟨-, alike, terminals⟩ := walks
  unfold stuckLiteral
  cases terminals with
  | none =>
      refine (frame.become .idle).feed ?_
      dsimp only at alike ⊢
      cases alike with
      | nil => exact .nil
      | cons first rest =>
          exact .cons { toLocatedAlike := first, exempt := rfl } (fedAlike_plain rest)
  | some found =>
      obtain ⟨nodes, counts⟩ := found
      dsimp only at counts alike ⊢
      rw [counts]
      exact (openLiteral_alike lawful frame nodes (List.forall₂_take _ alike)).feed
        (fedAlike_plain (List.forall₂_drop _ alike))

theorem readLiteralPrefix_alike {walk another : Walk}
    (walks : likeness.WalkAlike likeness.numbering.literal walk another)
    (feds : likeness.FedAlike fed other) :
    likeness.ReactionAlike (readLiteralPrefix profile one walk fed)
      (readLiteralPrefix copy two another other) := by
  unfold readLiteralPrefix
  rw [feds.symbol]
  have further := lawful.relates.literals.advance walks.node fed.symbol
  generalize profile.literals.advance walk.node fed.symbol = edge,
    copy.literals.advance another.node fed.symbol = edgeToo at further ⊢
  cases further with
  | some nodes =>
      exact reachLiteral_alike lawful frame nodes
        (List.rel_append walks.pending (.cons feds.toLocatedAlike .nil)) walks.terminal
  | none => exact (stuckLiteral_alike lawful frame walks).feed (.cons feds .nil)

section Readers

variable {number another : Nat} (numbers : likeness.numbering.reader number another)
  {reader mirror : ρ}

include numbers

theorem finishLiteral_alike (kept : likeness.kept number another (some reader) (some mirror))
    (texts : likeness.text kind (Literal.Reader.take reader).1 (Literal.Reader.take mirror).1)
    (ends : likeness.offset stop last) :
    likeness.ReactionAlike (finishLiteral one number kind reader stop)
      (finishLiteral two another kind mirror last) :=
  (frame.keepReader lawful.relates numbers (lawful.keepsTake kept)).finish kind ends
    (.literal texts)

variable (found : one.reader? number = some reader) (foundToo : two.reader? another = some mirror)
  (readers : likeness.reader kind reader mirror)

include found foundToo readers

theorem readLiteral_alike (feds : likeness.FedAlike fed other)
    (mode : one.mode = .literal number kind) (modeToo : two.mode = .literal another kind) :
    likeness.ReactionAlike (readLiteral profile one number kind fed)
      (readLiteral copy two another kind other) := by
  have signals := lawful.signal readers feds.usual
  have further := lawful.reads readers feds.usual
  have before := frame.kept numbers
  rw [found, foundToo] at before
  have after := lawful.keepsRead fed.symbol before
  have kept := frame.keepReader lawful.relates numbers after
  unfold readLiteral
  rw [found, foundToo, feds.symbol]
  dsimp only
  rw [signals]
  have reading : likeness.StateAlike
      (one.keepReader number (Literal.Reader.read reader fed.symbol).2)
      (two.keepReader another (Literal.Reader.read mirror fed.symbol).2) := {
    toFrameAlike := kept
    reading := .literal mode modeToo numbers (ScanState.reader?_keepReader ..)
      (ScanState.reader?_keepReader ..) further }
  cases (Literal.Reader.read reader fed.symbol).1 with
  | proceed => exact ⟨reading, .nil, .nil⟩
  | proceedWith message =>
      exact ⟨reading, .cons (.literalMessage message ⟨kept.start, feds.stop⟩) .nil, .nil⟩
  | stop => exact finishLiteral_alike lawful kept numbers after (lawful.takes further) feds.stop
  | stopWith message =>
      exact (finishLiteral_alike lawful kept numbers after (lawful.takes further) feds.stop).notify
        (.literalMessage message ⟨kept.start, feds.stop⟩)
  | fail message =>
      dsimp only
      rw [kept.classify lawful.relates]
      split
      · exact (failLiteral_alike kept kept.start feds.offset _).feed
          (.cons { toLocatedAlike := feds.toLocatedAlike, exempt := rfl } .nil)
      · exact failLiteral_alike kept kept.start feds.stop _

theorem closeLiteral_alike (ends : likeness.offset stop last) :
    likeness.ReactionAlike (closeLiteral one number kind stop)
      (closeLiteral two another kind last) := by
  have signals := lawful.ending readers
  have texts := lawful.ended readers
  have before := frame.kept numbers
  rw [found, foundToo] at before
  have after := lawful.keepsFinish before
  have kept := frame.keepReader lawful.relates numbers after
  unfold closeLiteral
  rw [found, foundToo]
  dsimp only
  rw [signals]
  cases (Literal.Reader.finish reader).1 with
  | stop => exact finishLiteral_alike lawful kept numbers after texts ends
  | stopWith message =>
      exact (finishLiteral_alike lawful kept numbers after texts ends).notify
        (.literalMessage message ⟨kept.start, ends⟩)
  | _ => exact failLiteral_alike kept kept.start ends _

end Readers

end Machine

/-! ## Between tokens -/

section Rules

variable (relates : likeness.numbering.Relates profile copy)
  (frame : likeness.FrameAlike one two) (modes : likeness.ModeAlike one.mode two.mode)
  (feds : likeness.FedAlike fed other)

include relates frame feds

theorem continuationRule_alike :
    Option.Rel likeness.ReactionAlike (continuationRule profile one fed)
      (continuationRule copy two other) := by
  unfold continuationRule
  rw [frame.beginsContinuation relates feds]
  exact rel_guard (.some (frame.become (.continuation .idle feds.toLocatedAlike .none)))

theorem blankRule_alike :
    Option.Rel likeness.ReactionAlike (blankRule profile one fed) (blankRule copy two other) := by
  unfold blankRule
  rw [feds.symbol, frame.classify relates]
  exact rel_guard (.some (frame.become (.blank feds.usual)))

theorem dotRule_alike :
    Option.Rel likeness.ReactionAlike (dotRule profile one fed) (dotRule copy two other) := by
  unfold dotRule
  rw [feds.symbol, feds.exempt, relates.defaultNumber]
  split
  case isTrue dot =>
    have point : fed.symbol = '.' := by
      simp only [Bool.and_eq_true, decide_eq_true_eq] at dot
      exact dot.1
    exact .some (frame.become (.maybeFloat _ false (feds.toLocatedAlike.of_symbol point)))
  case isFalse => exact .none

theorem digitRule_alike :
    Option.Rel likeness.ReactionAlike (digitRule profile one fed) (digitRule copy two other) := by
  unfold digitRule
  rw [feds.symbol, frame.classify relates, relates.options, relates.defaultNumber]
  refine rel_guard ?_
  have first := relates.numberPrefixes.advance relates.numberPrefixes.root fed.symbol
  generalize profile.numberPrefixes.advance Trie.root fed.symbol = edge,
    copy.numberPrefixes.advance Trie.root fed.symbol = edgeToo at first ⊢
  cases first with
  | some nodes => exact .some (frame.become (.numberPrefix nodes (.cons feds.toLocatedAlike .nil)))
  | none =>
      cases digitValue? fed.symbol profile.options.defaultBase with
      | some digit => exact .some (frame.become (.number _))
      | none => exact .none

theorem identifierRule_alike :
    Option.Rel likeness.ReactionAlike (identifierRule profile one fed)
      (identifierRule copy two other) := by
  unfold identifierRule
  rw [feds.symbol, frame.classify relates]
  exact rel_guard (.some (frame.become .identifier))

section Single

include modes

omit relates in
theorem single_alike (kind : Kind) :
    likeness.ReactionAlike (one.emit kind fed.span) (two.emit kind other.span) :=
  frame.emit modes kind feds.offset feds.stop .empty

theorem lineEndRule_alike :
    Option.Rel likeness.ReactionAlike (lineEndRule profile one fed)
      (lineEndRule copy two other) := by
  unfold lineEndRule
  rw [feds.symbol, frame.classify relates]
  refine rel_guard ?_
  split
  case isTrue carriage => exact .some (frame.become (.blank (carriage ▸ feds.usual)))
  case isFalse => exact .some (single_alike frame modes feds _)

theorem bracketRule_alike :
    Option.Rel likeness.ReactionAlike (bracketRule profile one fed)
      (bracketRule copy two other) := by
  unfold bracketRule
  rw [feds.symbol, frame.classify relates, relates.brackets]
  refine rel_guard ?_
  cases (profile.brackets.advance Trie.root fed.symbol).bind profile.brackets.kind? with
  | some kind => exact .some (single_alike frame modes feds kind)
  | none => exact .none

theorem escapeRule_alike :
    Option.Rel likeness.ReactionAlike (escapeRule profile one fed) (escapeRule copy two other) := by
  unfold escapeRule
  rw [feds.symbol, frame.classify relates]
  exact rel_guard (.some (single_alike frame modes feds _))

theorem strayRule_alike :
    Option.Rel likeness.ReactionAlike (strayRule profile one fed) (strayRule copy two other) := by
  unfold strayRule
  rw [feds.symbol, frame.classify relates]
  exact rel_guard (.some (single_alike frame modes feds _))

end Single

variable [Literal.Reader ρ] (lawful : likeness.Lawful profile copy)

omit relates
include lawful

theorem operatorRule_alike :
    Option.Rel likeness.ReactionAlike (operatorRule profile one fed)
      (operatorRule copy two other) := by
  unfold operatorRule
  rw [feds.symbol, frame.classify lawful.relates]
  refine rel_guard ?_
  have first := lawful.relates.operators.advance lawful.relates.operators.root fed.symbol
  generalize profile.operators.advance Trie.root fed.symbol = edge,
    copy.operators.advance Trie.root fed.symbol = edgeToo at first ⊢
  cases first with
  | some nodes =>
      exact .some (reachOperator_alike lawful frame nodes (.cons feds.toLocatedAlike .nil) .none)
  | none => exact .none

theorem literalRule_alike :
    Option.Rel likeness.ReactionAlike (literalRule profile one fed)
      (literalRule copy two other) := by
  unfold literalRule
  rw [feds.symbol, feds.exempt, frame.classify lawful.relates]
  refine rel_guard ?_
  have first := lawful.relates.literals.advance lawful.relates.literals.root fed.symbol
  generalize profile.literals.advance Trie.root fed.symbol = edge,
    copy.literals.advance Trie.root fed.symbol = edgeToo at first ⊢
  cases first with
  | some nodes =>
      exact .some (reachLiteral_alike lawful frame nodes (.cons feds.toLocatedAlike .nil) .none)
  | none => exact .none

theorem dispatch_alike (idle : one.mode = .idle) (idleToo : two.mode = .idle) :
    likeness.ReactionAlike (dispatch profile one fed) (dispatch copy two other) := by
  have relates := lawful.relates
  have begun : likeness.FrameAlike (starting one fed) (starting two other) :=
    { frame with start := feds.offset }
  have modes : likeness.ModeAlike (starting one fed).mode (starting two other).mode := by
    show likeness.ModeAlike one.mode two.mode
    rw [idle, idleToo]
    exact .idle
  refine rel_getD ?_ (begun.reject feds.offset feds.stop none)
  exact rel_orElse (continuationRule_alike relates begun feds) <|
    rel_orElse (lineEndRule_alike relates begun modes feds) <|
    rel_orElse (blankRule_alike relates begun feds) <|
    rel_orElse (literalRule_alike begun feds lawful) <|
    rel_orElse (dotRule_alike relates begun feds) <|
    rel_orElse (digitRule_alike relates begun feds) <|
    rel_orElse (identifierRule_alike relates begun feds) <|
    rel_orElse (bracketRule_alike relates begun modes feds) <|
    rel_orElse (operatorRule_alike begun feds lawful) <|
    rel_orElse (escapeRule_alike relates begun modes feds)
      (strayRule_alike relates begun modes feds)

end Rules

/-! ## The machine as a whole -/

section Machine

variable [Literal.Reader ρ] (lawful : likeness.Lawful profile copy)
  (states : likeness.StateAlike one two)

include lawful states

/-- The machine answers alike to symbols that correspond. -/
theorem react_alike (feds : likeness.FedAlike fed other) :
    likeness.ReactionAlike (react profile one fed) (react copy two other) := by
  have relates := lawful.relates
  have frame := states.toFrameAlike
  rcases states.reading with modes | ⟨mode, modeToo, numbers, found, foundToo, readers⟩
  · unfold react
    generalize first : one.mode = mode, second : two.mode = next at modes ⊢
    cases modes with
    | idle => exact dispatch_alike frame feds lawful first second
    | blank usual => exact readBlank_alike frame usual feds
    | identifier => exact readIdentifier_alike relates frame feds
    | numberPrefix nodes alike => exact readNumberPrefix_alike relates frame nodes alike feds
    | number value => exact readNumber_alike relates frame value feds
    | maybeFloat value hasInteger located =>
        exact readMaybeFloat_alike frame value hasInteger located feds
    | float value => exact readFloat_alike relates frame value feds
    | operator walks => exact readOperator_alike lawful frame walks feds
    | lineComment text => exact readLineComment_alike lawful frame text feds
    | blockComment crossed texts => exact readBlockComment_alike lawful frame crossed texts feds
    | literalPrefix walks => exact readLiteralPrefix_alike lawful frame walks feds
    | continuation resumes escapes carriages =>
        exact continueLine_alike frame resumes escapes carriages feds
  · simp only [react, mode, modeToo]
    exact readLiteral_alike lawful frame numbers found foundToo readers feds mode modeToo

/-- The machine answers alike to the end of the input. -/
theorem flush?_alike (ends : likeness.offset stop last) :
    Option.Rel likeness.ReactionAlike (flush? profile one stop) (flush? copy two last) := by
  have frame := states.toFrameAlike
  rcases states.reading with modes | ⟨mode, modeToo, numbers, found, foundToo, readers⟩
  · unfold flush?
    generalize one.mode = mode, two.mode = next at modes ⊢
    cases modes with
    | idle => exact .none
    | blank usual => exact .some (frame.finish _ ends .empty)
    | identifier => exact .some (frame.finish _ ends .empty)
    | numberPrefix nodes alike =>
        exact .some (resolvePrefix_alike lawful.relates frame nodes alike .none)
    | number value => exact .some (frame.finishNumber value ends)
    | maybeFloat value hasInteger located =>
        exact .some (releaseDot_alike frame value hasInteger located)
    | float value => exact .some (frame.finishNumber value ends)
    | operator walks => exact .some (stuckOperator_alike lawful frame walks ends)
    | lineComment text =>
        exact .some (frame.finish _ ends (.comment (lawful.lineText _)))
    | blockComment crossed texts => exact .some (frame.reject frame.start ends none)
    | literalPrefix walks => exact .some (stuckLiteral_alike lawful frame walks)
    | continuation resumes escapes carriages =>
        rcases carriages with located | _
        · exact .some (joinLines_alike frame resumes escapes located.stop)
        · exact .some (abandonContinuation_alike frame resumes escapes)
  · simp only [flush?, mode, modeToo]
    exact .some (closeLiteral_alike lawful frame numbers found foundToo readers ends)

theorem done_alike (ends : likeness.offset stop last)
    (done : Config.Done profile (some stop) ⟨one, []⟩) :
    Config.Done copy (some last) ⟨two, []⟩ := by
  have flushes := flush?_alike lawful states ends
  simp only [Config.Done, nextReaction?, Option.bind_some, Option.map_eq_none_iff] at done ⊢
  rw [done] at flushes
  generalize flush? copy two last = answer at flushes ⊢
  cases flushes
  rfl

theorem nextReaction?_nil_alike (ends : likeness.offset stop last) {reaction : Reaction ρ}
    {rest : List Fed} (next : nextReaction? profile (some stop) one [] = some (reaction, rest)) :
    rest = [] ∧ ∃ answer, flush? copy two last = some answer ∧
      likeness.ReactionAlike reaction answer := by
  obtain ⟨_, closed, flushed, rfl⟩ := nextReaction?_nil next
  obtain rfl := Option.some.inj closed
  have flushes := flush?_alike lawful states ends
  rw [flushed] at flushes
  generalize flush? copy two last = answer at flushes
  obtain ⟨alike⟩ := flushes
  exact ⟨rfl, _, rfl, alike⟩

end Machine

/-! ## Whole runs -/

section Runs

variable [Literal.Reader ρ]

/-- A relation that leads two runs from one pair of configurations to the next. -/
structure Guides (likeness : Likeness ρ) (profile : Profile ρ) (stop last : Nat)
    (related : Config ρ → Config ρ → Prop) : Prop where
  ends : likeness.offset stop last
  done : ∀ {one two : Config ρ}, related one two → one.Done profile (some stop) →
    two.Done profile (some last) ∧ two.state.lineStart = one.state.lineStart
  next : ∀ {one two : Config ρ} {reaction : Reaction ρ} {rest : List Fed}, related one two →
    nextReaction? profile (some stop) one.state one.queue = some (reaction, rest) →
    ∃ more others after beyond,
      Leads profile (some stop) ⟨reaction.state, reaction.next ++ rest⟩ more after ∧
      Leads profile (some last) two others beyond ∧
      List.Forall₂ likeness.ReportAlike (reaction.reports ++ more) others ∧
      related after beyond

variable {related : Config ρ → Config ρ → Prop}

theorem Guides.yields (guides : likeness.Guides profile stop last related) {count : Nat}
    {one two : Config ρ} {reports : List Report} (yields : Yields profile stop count one reports)
    (start : related one two) :
    ∃ more others, Yields profile last more two others ∧
      List.Forall₂ likeness.ReportAlike reports others := by
  induction count using Nat.strongRecOn generalizing one two reports with
  | ind count ih =>
      cases yields with
      | done _ done =>
          obtain ⟨doneToo, fresh⟩ := guides.done start done
          exact ⟨0, _, .done 0 doneToo,
            .cons (.token ⟨fresh, rfl, guides.ends, guides.ends, .empty⟩) .nil⟩
      | @next _ reaction rest later count next yields =>
          obtain ⟨more, others, after, beyond, leads, leadsToo, told, related⟩ :=
            guides.next start next
          obtain ⟨fewer, ahead, below, rfl, onward⟩ := yields.after leads
          obtain ⟨total, remaining, yieldsToo, alike⟩ := ih fewer (by omega) onward related
          obtain ⟨whole, yieldsToo⟩ := Yields.prepend leadsToo yieldsToo
          refine ⟨whole, _, yieldsToo, ?_⟩
          rw [← List.append_assoc]
          exact List.rel_append told alike

omit [Literal.Reader ρ] in
theorem tokensOf_alike {reports others : List Report}
    (alike : List.Forall₂ likeness.ReportAlike reports others) :
    List.Forall₂ likeness.TokenAlike (tokensOf reports) (tokensOf others) := by
  induction alike with
  | nil => exact .nil
  | cons told _ ih =>
      cases told with
      | token tokens => exact .cons tokens ih
      | _ => exact ih

theorem Guides.tokens {source other : String}
    (guides : likeness.Guides profile (byteLength source.toList) (byteLength other.toList) related)
    (start : related (opening source) (opening other)) {reports others : List Report}
    (foresees : Foresees profile source (opening source) reports)
    (received : events profile source = reports.map Report.event)
    (foreseesToo : Foresees profile other (opening other) others)
    (receivedToo : events profile other = others.map Report.event) :
    List.Forall₂ likeness.TokenAlike (tokens profile source) (tokens profile other) := by
  obtain ⟨count, yields⟩ := foresees
  obtain ⟨more, again, yieldsToo, alike⟩ := guides.yields yields start
  obtain rfl := foreseesToo.unique ⟨more, yieldsToo⟩
  rw [Scan.tokens, Scan.tokens, received, receivedToo, List.filterMap_map, List.filterMap_map]
  exact tokensOf_alike alike

end Runs

end Likeness

end Scan

end Lexing
