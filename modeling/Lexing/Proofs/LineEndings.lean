import Lexing.Proofs.Likeness
import Lexing.Proofs.Terminators
import Lexing.Proofs.Weaving

/-!
# Line endings

A line feed alone and a carriage return with a line feed end a line in the same way.
A scan does not notice the difference: all modes but three end their token at either of
them, between tokens both make one token, and a literal, a block comment or a line
continuation that goes on behind one of them goes on behind the other.
-/

namespace Lexing

open Literal (Stock)

/-! ## How the two scans correspond -/

namespace Scan

/-- What makes it irrelevant for a profile how lines end. -/
structure Neutral (profile : Profile Stock) : Prop where
  feed : Terminates profile '\n'
  carriage : Terminates profile '\r'
  marked : profile.blockClose ≠ []
  suits : ∀ {node number fresh}, profile.literals.binding? node = some number →
    profile.readers.instantiate? number = some fresh →
    fresh.Suits ((profile.literals.kind? node).getD .unexpected)

/-- The second source has carriage returns, and offsets move as given. -/
def lineEndings (profile : Profile Stock) (move : Nat → Nat) : Likeness Stock where
  offset here there := there = move here
  usual symbol := symbol ≠ '\n' ∧ symbol ≠ '\r'
  text kind one two := two = kind.textWithReturns one
  comment seen one two := Returned one two ∧ (profile.blockClose.take seen).reverse <+: one
  reader := Stock.Returned
  kept number _ one two := profile.Makes number one ∧ profile.Makes number two

variable {profile : Profile Stock} {move : Nat → Nat}

theorem Neutral.lawful (neutral : Neutral profile) (move : Nat → Nat) :
    (lineEndings profile move).Lawful profile profile where
  relates := Numbering.same_relates profile
  lineText text := by
    simp [lineEndings, Kind.textWithReturns, show Kind.lineComment ≠ .blockComment by decide,
      show Kind.lineComment ≠ CLike.rawString by decide]
  commentOpens := ⟨.nil, by simp⟩
  commentGrows texts usual := ⟨texts.1.cons usual.1, marker_prefix texts.2⟩
  commentText := by
    intro seen one two texts complete
    obtain ⟨returned, starts⟩ := texts
    rw [List.take_of_length_le complete] at starts
    have plain : ∀ symbol ∈ profile.blockClose.reverse, symbol ≠ '\n' := by
      rintro symbol member rfl
      exact neutral.feed.marker (List.mem_reverse.mp member)
    have behind := returned.drop plain starts
    rw [List.length_reverse] at behind
    simp only [lineEndings, Kind.textWithReturns, true_or, if_true, String.toList_ofList]
    exact congrArg String.ofList behind
  opens := by
    rintro _ number _ one two bound rfl ⟨makes, makesToo⟩
    have readers := makes.obtained makesToo
    generalize one.or _ = first, two.or _ = second at readers ⊢
    cases readers with
    | none => exact .none
    | some related =>
        obtain ⟨fresh, made, derived, derivedToo⟩ := related
        refine .some ⟨?_, .of_derived made derived.reset, .of_derived made derivedToo.reset⟩
        rw [Stock.forgetful.reset_of_derived derived, Stock.forgetful.reset_of_derived derivedToo]
        exact .reset (neutral.suits bound made)
  signal returned usual := (Stock.Returned.read returned usual).1
  reads returned usual := (Stock.Returned.read returned usual).2
  takes returned := Stock.Returned.take returned
  ending returned := (Stock.Returned.finish returned).1
  ended returned := Stock.Returned.take (Stock.Returned.finish returned).2
  keepsRead symbol kept := ⟨kept.1.read symbol, kept.2.read symbol⟩
  keepsTake kept := ⟨kept.1.take, kept.2.take⟩
  keepsFinish kept := ⟨kept.1.finish, kept.2.finish⟩

/-- Symbols that are to be fed, and those of the second source. -/
inductive Rejoined (likeness : Likeness Stock) : List Fed → List Fed → Prop
  | nil : Rejoined likeness [] []
  | usual {fed other : Fed} {rest others : List Fed} : likeness.FedAlike fed other →
      Rejoined likeness rest others → Rejoined likeness (fed :: rest) (other :: others)
  | lineFeed {start carriage stop : Nat} {rest others : List Fed} :
      likeness.offset start carriage →
      likeness.offset (Located.stop ⟨'\n', start⟩) (Located.stop ⟨'\n', stop⟩) →
      Rejoined likeness rest others →
      Rejoined likeness (.plain ⟨'\n', start⟩ :: rest)
        (.plain ⟨'\r', carriage⟩ :: .plain ⟨'\n', stop⟩ :: others)

theorem Rejoined.append {likeness : Likeness Stock} {first second rest others : List Fed}
    (alike : List.Forall₂ likeness.FedAlike first second)
    (rejoined : Rejoined likeness rest others) :
    Rejoined likeness (first ++ rest) (second ++ others) := by
  induction alike with
  | nil => exact rejoined
  | cons feds _ ih => exact .usual feds ih

/-- The second scan gets to where the first one is after a reaction. -/
def Follows (likeness : Likeness Stock) (profile : Profile Stock) (last : Nat)
    (reaction : Reaction Stock) (rest : List Fed) (two : Config Stock) : Prop :=
  ∃ others beyond, Leads profile (some last) two others beyond ∧
    List.Forall₂ likeness.ReportAlike reaction.reports others ∧
    likeness.StateAlike reaction.state beyond.state ∧
    Rejoined likeness (reaction.next ++ rest) beyond.queue

/-- Both scans react once. -/
theorem follows_react {likeness : Likeness Stock} {last : Nat} {reaction : Reaction Stock}
    {two : ScanState Stock} {fed : Fed} {rest others : List Fed}
    (alike : likeness.ReactionAlike reaction (react profile two fed))
    (rejoined : Rejoined likeness rest others) :
    Follows likeness profile last reaction rest ⟨two, fed :: others⟩ :=
  ⟨_, _, Leads.react profile _ two fed others, alike.reports, alike.state,
    .append alike.next rejoined⟩

/-! ## A line feed, and a carriage return with a line feed -/

section LineFeed

variable {one two : ScanState Stock} {start carriage stop last : Nat} {rest others : List Fed}

theorem endsWithLine_alike {mode next : Mode}
    (modes : (lineEndings profile move).ModeAlike mode next) (ends : mode.EndsWithLine) :
    next.EndsWithLine := by
  cases modes <;> exact ends

variable (neutral : Neutral profile) (own : one.ownClasses = none)
  (frame : (lineEndings profile move).FrameAlike one two)
  (starts : (lineEndings profile move).offset start carriage)
  (stops : (lineEndings profile move).offset (Located.stop ⟨'\n', start⟩)
    (Located.stop ⟨'\n', stop⟩))
  (rejoined : Rejoined (lineEndings profile move) rest others)

include neutral own frame starts stops rejoined

/-- The token that was begun ends before the line terminator. -/
theorem lineFeed_ends (modes : (lineEndings profile move).ModeAlike one.mode two.mode)
    (endsWithLine : one.mode.EndsWithLine) :
    Follows (lineEndings profile move) profile last
      (react profile one (.plain ⟨'\n', start⟩)) rest
      ⟨two, .plain ⟨'\r', carriage⟩ :: .plain ⟨'\n', stop⟩ :: others⟩ := by
  obtain ⟨reaction, flushed, reacts⟩ :=
    react_terminator (.plain ⟨'\n', start⟩) neutral.feed own endsWithLine
  obtain ⟨answer, flushedToo, answers⟩ :=
    react_terminator (.plain ⟨'\r', carriage⟩) neutral.carriage
      (frame.classes.trans own) (endsWithLine_alike modes endsWithLine)
  have alike := Likeness.flush?_alike (neutral.lawful move)
    { toFrameAlike := frame, reading := .mode modes } starts
  rw [show flush? profile one start = some reaction from flushed,
    show flush? profile two carriage = some answer from flushedToo] at alike
  obtain ⟨alike⟩ := alike
  refine ⟨_, _, Leads.react profile _ two _ _, ?_⟩
  rw [reacts, answers]
  refine ⟨alike.reports, alike.state, ?_⟩
  simp only [Reaction.feed_next, List.append_assoc]
  exact .append alike.next (.lineFeed starts stops rejoined)

/-- Between tokens, either way to end a line is a token. -/
theorem lineFeed_idle (idle : one.mode = .idle) (idleToo : two.mode = .idle) :
    Follows (lineEndings profile move) profile last
      (react profile one (.plain ⟨'\n', start⟩)) rest
      ⟨two, .plain ⟨'\r', carriage⟩ :: .plain ⟨'\n', stop⟩ :: others⟩ := by
  have first := react_idle_terminator (.plain ⟨'\n', start⟩) neutral.feed own idle
  have second := react_idle_terminator (.plain ⟨'\r', carriage⟩) neutral.carriage
    (frame.classes.trans own) idleToo
  have waits := Leads.react profile (some last) two (.plain ⟨'\r', carriage⟩)
    (.plain ⟨'\n', stop⟩ :: others)
  rw [second] at waits
  have ends := Leads.react profile (some last)
    (((starting two (.plain ⟨'\r', carriage⟩)).become (.blank '\r')).state)
    (.plain ⟨'\n', stop⟩) others
  rw [first]
  refine ⟨_, _, waits.trans ends, ?_, ?_, rejoined⟩
  · exact .cons (.token ⟨frame.fresh, rfl, starts, stops, .empty⟩) .nil
  · refine ⟨⟨starts, rfl, frame.classes, frame.kept⟩, .mode ?_⟩
    show (lineEndings profile move).ModeAlike one.mode .idle
    rw [idle]
    exact .idle

omit starts stops in
/-- A block comment goes on. -/
theorem lineFeed_blockComment {text another : List Char} {seen : Nat} {crossed : Bool}
    (mode : one.mode = .blockComment text seen crossed)
    (modeToo : two.mode = .blockComment another seen crossed)
    (texts : Returned text another) :
    Follows (lineEndings profile move) profile last
      (react profile one (.plain ⟨'\n', start⟩)) rest
      ⟨two, .plain ⟨'\r', carriage⟩ :: .plain ⟨'\n', stop⟩ :: others⟩ := by
  have ownToo := frame.classes.trans own
  have first := react_blockComment_terminator one (.plain ⟨'\n', start⟩) neutral.feed own
    neutral.marked mode
  have second := react_blockComment_terminator two (.plain ⟨'\r', carriage⟩) neutral.carriage
    ownToo neutral.marked modeToo
  have third := react_blockComment_terminator
    (two.become (.blockComment ('\r' :: another) 0 true)).state (.plain ⟨'\n', stop⟩) neutral.feed
    ownToo neutral.marked rfl
  have early := Leads.react profile (some last) two (.plain ⟨'\r', carriage⟩)
    (.plain ⟨'\n', stop⟩ :: others)
  rw [second] at early
  have late := Leads.react profile (some last)
    (two.become (.blockComment ('\r' :: another) 0 true)).state (.plain ⟨'\n', stop⟩) others
  rw [third] at late
  rw [first]
  refine ⟨_, _, early.trans late, .nil, ⟨{ frame with }, ?_⟩, rejoined⟩
  exact .mode (.blockComment true ⟨texts.lineFeed, by simp⟩)

omit neutral own starts in
/-- A line is continued. -/
theorem lineFeed_continuation {resume another : Resume} {escape mark : Located}
    (mode : one.mode = .continuation resume escape none)
    (modeToo : two.mode = .continuation another mark none)
    (resumes : (lineEndings profile move).ResumeAlike resume another)
    (escapes : (lineEndings profile move).LocatedAlike escape mark) :
    Follows (lineEndings profile move) profile last
      (react profile one (.plain ⟨'\n', start⟩)) rest
      ⟨two, .plain ⟨'\r', carriage⟩ :: .plain ⟨'\n', stop⟩ :: others⟩ := by
  have early := Leads.react profile (some last) two (.plain ⟨'\r', carriage⟩)
    (.plain ⟨'\n', stop⟩ :: others)
  have waits : react profile two (.plain ⟨'\r', carriage⟩) =
      two.become (.continuation another mark (some carriage)) := by
    rw [react, modeToo]
    rfl
  have joins : react profile one (.plain ⟨'\n', start⟩) =
      joinLines one resume escape (Located.stop ⟨'\n', start⟩) := by
    rw [react, mode]
    rfl
  rw [waits] at early
  have late := Leads.react profile (some last)
    (two.become (.continuation another mark (some carriage))).state (.plain ⟨'\n', stop⟩) others
  have waiting : (lineEndings profile move).FrameAlike one
      (two.become (.continuation another mark (some carriage))).state :=
    { frame with }
  have alike := Likeness.joinLines_alike waiting resumes escapes stops
  rw [joins]
  exact ⟨_, _, early.trans late, alike.reports, alike.state, .append alike.next rejoined⟩

/-- A literal fails at the line terminator or goes on behind it. -/
theorem lineFeed_literal {number : Nat} {kind : Kind} {reader another : Stock}
    (mode : one.mode = .literal number kind) (modeToo : two.mode = .literal number kind)
    (found : one.reader? number = some reader) (foundToo : two.reader? number = some another)
    (readers : Stock.Returned kind reader another) :
    Follows (lineEndings profile move) profile last
      (react profile one (.plain ⟨'\n', start⟩)) rest
      ⟨two, .plain ⟨'\r', carriage⟩ :: .plain ⟨'\n', stop⟩ :: others⟩ := by
  have early := Leads.react profile (some last) two (.plain ⟨'\r', carriage⟩)
    (.plain ⟨'\n', stop⟩ :: others)
  have genuine : Genuine profile one := fun place => (frame.kept (rfl : place = place)).1
  have authentic : Genuine profile two := fun place => (frame.kept (rfl : place = place)).2
  have once := genuine.keep ((genuine.makes found).read '\n')
  have returned := authentic.keep ((authentic.makes foundToo).read '\r')
  rcases readers.lineFeed with ⟨message, fails, failsToo⟩ | ⟨goesOn, waits, returns, further⟩
  · have first := react_literal_fails one (.plain ⟨'\n', start⟩) neutral.feed own mode found fails
    have second := react_literal_fails two (.plain ⟨'\r', carriage⟩) neutral.carriage
      (frame.classes.trans own) modeToo foundToo failsToo
    have kept : (lineEndings profile move).FrameAlike
        (one.keepReader number (Literal.Reader.read reader '\n').2)
        (two.keepReader number (Literal.Reader.read another '\r').2) :=
      { frame with kept := once.pair returned }
    have alike : (lineEndings profile move).ReactionAlike
        (failLiteral (one.keepReader number _) ⟨one.tokenStart, start⟩ message)
        (failLiteral (two.keepReader number _) ⟨two.tokenStart, carriage⟩ message) :=
      Likeness.failLiteral_alike kept frame.start starts message
    rw [second] at early
    rw [first]
    refine ⟨_, _, early, alike.reports, alike.state, ?_⟩
    simp only [Reaction.feed_next, List.append_assoc]
    exact .append alike.next (.lineFeed starts stops rejoined)
  · have first := react_literal_proceeds profile one (.plain ⟨'\n', start⟩) mode found goesOn
    have second := react_literal_proceeds profile two (.plain ⟨'\r', carriage⟩) modeToo foundToo
      waits
    have third := react_literal_proceeds profile
      (two.keepReader number (Literal.Reader.read another '\r').2) (.plain ⟨'\n', stop⟩) modeToo
      (ScanState.reader?_keepReader ..) returns
    have late := Leads.react profile (some last)
      (two.keepReader number (Literal.Reader.read another '\r').2) (.plain ⟨'\n', stop⟩) others
    rw [second] at early
    rw [third] at late
    rw [first]
    have twice := returned.keep (((authentic.makes foundToo).read '\r').read '\n')
    refine ⟨_, _, early.trans late, .nil, ⟨{ frame with kept := once.pair twice }, ?_⟩, rejoined⟩
    exact .literal mode modeToo rfl (ScanState.reader?_keepReader ..)
      (ScanState.reader?_keepReader ..) further

omit frame in
theorem lineFeed_follows (states : (lineEndings profile move).StateAlike one two) :
    Follows (lineEndings profile move) profile last
      (react profile one (.plain ⟨'\n', start⟩)) rest
      ⟨two, .plain ⟨'\r', carriage⟩ :: .plain ⟨'\n', stop⟩ :: others⟩ := by
  have frame := states.toFrameAlike
  rcases states.reading with modes | ⟨mode, modeToo, same, found, foundToo, readers⟩
  · by_cases endsWithLine : one.mode.EndsWithLine
    · exact lineFeed_ends neutral own frame starts stops rejoined modes endsWithLine
    generalize first : one.mode = mode, second : two.mode = next at modes endsWithLine
    cases modes with
    | idle => exact lineFeed_idle neutral own frame starts stops rejoined first second
    | blockComment crossed texts =>
        exact lineFeed_blockComment neutral own frame rejoined first second texts.1
    | continuation resumes escapes carriages =>
        rcases carriages with located | _
        · exact absurd rfl located.usual.2
        · exact lineFeed_continuation frame stops rejoined first second resumes escapes
    | blank usual => exact absurd usual endsWithLine
    | _ => exact absurd trivial endsWithLine
  · obtain rfl := same
    exact lineFeed_literal neutral own frame starts stops rejoined mode modeToo found foundToo
      readers

end LineFeed

/-! ## Whole sources -/

def carriageBefore (located : Located) : List Char :=
  if located.symbol = '\n' then ['\r'] else []

/-- Configurations of the two scans that correspond. -/
structure SameBut (profile : Profile Stock) (move : Nat → Nat) (one two : Config Stock) : Prop where
  sane : Sane profile one.state
  states : (lineEndings profile move).StateAlike one.state two.state
  queues : Rejoined (lineEndings profile move) one.queue two.queue

theorem Neutral.guides (neutral : Neutral profile) (sound : profile.Sound) {stop last : Nat}
    (ends : last = move stop) :
    (lineEndings profile move).Guides profile stop last (SameBut profile move) where
  ends := ends
  done := by
    rintro ⟨one, queue⟩ ⟨two, more⟩ same done
    refine ⟨?_, same.states.fresh⟩
    have queues := same.queues
    cases queues with
    | nil =>
        exact Likeness.done_alike (neutral.lawful move) same.states ends done
    | usual => simp [Config.Done, nextReaction?] at done
    | lineFeed => simp [Config.Done, nextReaction?] at done
  next := by
    rintro ⟨one, queue⟩ ⟨two, more⟩ reaction rest same next
    have lawful := neutral.lawful move
    have sane := keeps_sane sound _ _ _ _ same.sane next
    have follows : Follows (lineEndings profile move) profile last reaction rest ⟨two, more⟩ := by
      have queues := same.queues
      cases queues with
      | nil =>
          obtain ⟨rfl, answer, answered, alike⟩ :=
            Likeness.nextReaction?_nil_alike lawful same.states ends next
          refine ⟨_, _, Leads.flush answered, alike.reports, alike.state, ?_⟩
          simpa using Rejoined.append alike.next .nil
      | @usual fed other queue more feds queues =>
          obtain ⟨rfl, rfl⟩ := nextReaction?_cons next
          exact follows_react (Likeness.react_alike lawful same.states feds) queues
      | @lineFeed start _ _ queue more starts stops queues =>
          obtain ⟨rfl, rfl⟩ := nextReaction?_cons next
          exact lineFeed_follows neutral same.sane.classes starts stops queues same.states
    obtain ⟨others, beyond, leads, told, states, queues⟩ := follows
    refine ⟨[], others, _, beyond, .here _, leads, ?_, sane, states, queues⟩
    simpa using told

/-- Both scans begin alike. -/
theorem rejoined_of_interwoven {symbols others : List Located}
    (bare : ∀ located ∈ symbols, located.symbol ≠ '\r')
    (interwoven : Located.Interwoven carriageBefore move symbols others) :
    Rejoined (lineEndings profile move) (symbols.map .plain) (others.map .plain) := by
  induction interwoven with
  | nil => exact .nil
  | @cons located placed rest others symbol offset stop _ ih =>
      have rejoined := ih fun other member => bare other (by simp [member])
      have noReturn := bare located (by simp)
      obtain ⟨first, start⟩ := located
      obtain ⟨second, place⟩ := placed
      obtain rfl : second = first := symbol
      by_cases feed : second = '\n'
      · subst feed
        exact .lineFeed rfl stop rejoined
      · have nothing : carriageBefore ⟨second, start⟩ = [] := by simp [carriageBefore, feed]
        rw [nothing] at offset ⊢
        exact .usual ⟨⟨rfl, ⟨feed, noReturn⟩, offset, stop⟩, rfl⟩ rejoined

end Scan

def sourceWithReturns (source : String) : String :=
  String.ofList (withReturns source.toList)

/-- Number of line feeds of a source before an offset. -/
def lineFeedsBefore (source : String) (offset : Nat) : Nat :=
  (Located.ofText 0 source.toList).countP fun located =>
    located.symbol = '\n' ∧ located.offset < offset

def offsetWithReturns (source : String) (offset : Nat) : Nat :=
  offset + lineFeedsBefore source offset

/-- The payload of a token of the given kind, after a carriage return was put before
every line feed. -/
def Payload.withReturns (kind : Kind) : Payload → Payload
  | .comment text => .comment (kind.textWithReturns text)
  | .literal text => .literal (kind.textWithReturns text)
  | other => other

/-- The token that a token of the source becomes when a carriage return is put before
every line feed. -/
def Token.withReturns (source : String) (token : Token) : Token :=
  let moved := token.moved (offsetWithReturns source)
  { moved with payload := moved.payload.withReturns token.kind }

namespace Scan

theorem woven_carriageBefore (text : List Char) :
    Located.woven carriageBefore (Located.ofText 0 text) = withReturns text := by
  have steps : ∀ symbols : List Located, Located.woven carriageBefore symbols =
      withReturns (symbols.map Located.symbol) := by
    intro symbols
    rw [withReturns, List.flatMap_map]
    refine congrArg (symbols.flatMap ·) (funext fun located => ?_)
    unfold carriageBefore
    split
    case isTrue feed =>
      simp [feed]
    case isFalse => rfl
  rw [steps, Located.map_symbol_ofText]

theorem moved_carriageBefore (source : String) :
    Located.moved carriageBefore (Located.ofText 0 source.toList) = offsetWithReturns source := by
  have counted : ∀ symbols : List Located, byteLength (symbols.flatMap carriageBefore) =
      symbols.countP fun located => located.symbol = '\n' := by
    intro symbols
    induction symbols with
    | nil => rfl
    | cons located rest ih =>
        rw [List.flatMap_cons, byteLength_append, ih, List.countP_cons, carriageBefore]
        by_cases feed : located.symbol = '\n'
        · simp [feed, byteLength, show '\r'.utf8Size = 1 by decide]
          omega
        · simp [feed, byteLength]
  funext offset
  rw [Located.moved, counted, List.countP_filter]
  simp [offsetWithReturns, lineFeedsBefore]

theorem tokenAlike_withReturns {profile : Profile Stock} {source : String} {one two : Token}
    (alike : (lineEndings profile (offsetWithReturns source)).TokenAlike one two) :
    one.withReturns source = two := by
  obtain ⟨fresh, kind, ⟨start, stop⟩, payload⟩ := one
  obtain ⟨atLineStart, name, ⟨place, last⟩, content⟩ := two
  obtain ⟨freshness, kinds, starts, stops, payloads⟩ := alike
  obtain rfl : atLineStart = fresh := freshness
  obtain rfl : name = kind := kinds
  obtain rfl : place = offsetWithReturns source start := starts
  obtain rfl : last = offsetWithReturns source stop := stops
  dsimp only at payloads
  cases payloads with
  | empty => rfl
  | comment texts =>
      obtain rfl := texts
      rfl
  | literal texts =>
      obtain rfl := texts
      rfl
  | integer value same =>
      obtain rfl := same
      rfl
  | float value same =>
      obtain rfl := same
      rfl

/-! ## The ready profiles -/

/-- What the tables of a profile say about a line terminator: it is nothing else, and no
operator, introduction of a literal or prefix of a number contains it. -/
def EndsLines {ρ : Type} (profile : Profile ρ) (symbol : Char) : Prop :=
  profile.classes.classify symbol = { linefeed := true } ∧
    (∀ trie ∈ [profile.operators, profile.literals, profile.numberPrefixes],
      ∀ parent < trie.nodes.size,
        ∀ edge ∈ (trie.nodes[parent]?.map Trie.Node.children).getD [], edge.1 ≠ symbol) ∧
    profile.options.separator? ≠ some symbol ∧ symbol ∉ profile.blockClose

instance {ρ : Type} (profile : Profile ρ) (symbol : Char) : Decidable (EndsLines profile symbol) :=
  inferInstanceAs (Decidable (_ ∧ _))

theorem EndsLines.terminates {ρ : Type} {profile : Profile ρ} {symbol : Char}
    (ends : EndsLines profile symbol) (kept : symbol = '\n' ∨ symbol = '\r') :
    Terminates profile symbol := by
  obtain ⟨traits, table, separator, marker⟩ := ends
  have stuck : ∀ trie ∈ [profile.operators, profile.literals, profile.numberPrefixes],
      ∀ node, trie.advance node symbol = none := by
    intro trie member node
    refine Option.eq_none_iff_forall_ne_some.mpr fun child edge => ?_
    exact @Trie.holds_of_advance _ _ _ _ (fun _ other _ => other ≠ symbol) (table trie member) edge
      rfl
  exact {
    kept
    traits
    operators := stuck _ (by simp)
    literals := stuck _ (by simp)
    numberPrefixes := stuck _ (by simp)
    separator
    marker }

theorem Neutral.of_table {profile : Profile Stock}
    (table : EndsLines profile '\n' ∧ EndsLines profile '\r' ∧ profile.blockClose ≠ [] ∧
      ∀ node < profile.literals.nodes.size, ∀ number ∈ profile.literals.binding? node,
        ∀ fresh ∈ profile.readers.instantiate? number,
          fresh.Suits ((profile.literals.kind? node).getD .unexpected)) : Neutral profile where
  feed := table.1.terminates (.inl rfl)
  carriage := table.2.1.terminates (.inr rfl)
  marked := table.2.2.1
  suits := by
    intro node number fresh bound made
    obtain ⟨found, present, _⟩ := Option.bind_eq_some_iff.mp bound
    exact table.2.2.2 node (Array.getElem?_eq_some_iff.mp present).1 number bound fresh made

theorem CLike.neutral : Neutral CLike.profile :=
  .of_table (by decide +kernel)

theorem Diagram.neutral : Neutral Diagram.profile :=
  .of_table (by decide +kernel)

def Ends (profile : Profile Stock) : Prop :=
  ∀ source : String, byteLength source.toList ≤ maxOffset →
    Bounded profile (Located.ofText 0 source.toList) (byteLength source.toList)

theorem CLike.ends : Ends CLike.profile := fun _ fits =>
  bounded_of_setting (CLike.dotted.setting _) (Located.adjoin_source fits) CLike.dotted.literals

theorem Diagram.ends : Ends Diagram.profile := fun _ fits =>
  bounded_of_setting (setting_of_unescaped Diagram.profile_made.sound (.inl (by decide +kernel)))
    (Located.adjoin_source fits) (by decide +kernel)

theorem delivers_of_ends {profile : Profile Stock} (ends : Ends profile) (source : String) :
    Delivers profile source := by
  by_cases fits : byteLength source.toList ≤ maxOffset
  · exact (transcribed fits (ends source fits)).choose_spec.2.2
  · exact (events_of_large profile fits).2

theorem tokens_sourceWithReturns {profile : Profile Stock} (neutral : Neutral profile)
    (sound : profile.Sound) (ends : Ends profile) {source : String} (bare : '\r' ∉ source.toList)
    (fits : byteLength (sourceWithReturns source).toList ≤ maxOffset) :
    tokens profile (sourceWithReturns source) =
      (tokens profile source).map (Token.withReturns source) := by
  have text : (sourceWithReturns source).toList =
      Located.woven carriageBefore (Located.ofText 0 source.toList) := by
    rw [woven_carriageBefore, sourceWithReturns, String.toList_ofList]
  have short : byteLength source.toList ≤ maxOffset := by
    have longer := Located.byteLength_le_woven carriageBefore source.toList
    rw [← text] at longer
    omega
  have total := Located.moved_whole carriageBefore short
  have interwoven : Located.Interwoven carriageBefore _ _ _ := Located.interwoven (text ▸ fits)
  rw [moved_carriageBefore, ← text] at total interwoven
  obtain ⟨reports, foresees, received, _⟩ := transcribed short (ends source short)
  obtain ⟨others, foreseesToo, receivedToo, _⟩ := transcribed fits (ends _ fits)
  have start : SameBut profile (offsetWithReturns source) (opening source)
      (opening (sourceWithReturns source)) := {
    sane := ⟨ScanState.valid_idle rfl, rfl, by simp [opening]⟩
    states := ⟨⟨show 0 = _ by simp [opening, offsetWithReturns, lineFeedsBefore], rfl, rfl,
      (Genuine.initial profile).pair (.initial profile)⟩, .mode .idle⟩
    queues := rejoined_of_interwoven (fun located member => by
      rintro same
      exact bare (same ▸ Located.symbol_mem_of_mem_ofText member)) interwoven }
  have alike := (neutral.guides sound total.symm).tokens start foresees received foreseesToo
    receivedToo
  have same : List.Forall₂ Eq ((tokens profile source).map (Token.withReturns source))
      (tokens profile (sourceWithReturns source)) :=
    List.forall₂_map_left_iff.mpr (alike.imp fun _ _ => tokenAlike_withReturns)
  rw [List.forall₂_eq_eq_eq] at same
  exact same.symm

/-- It does not matter how lines end. -/
theorem line_endings_irrelevant {profile : Profile Stock}
    (ready : profile = CLike.profile ∨ profile = Diagram.profile) {source : String}
    (bare : '\r' ∉ source.toList) :
    Delivers profile source ∧ Delivers profile (sourceWithReturns source) ∧
      tokens profile (sourceWithReturns source) =
        if byteLength (sourceWithReturns source).toList ≤ maxOffset then
          (tokens profile source).map (Token.withReturns source)
        else [] := by
  have facts : Neutral profile ∧ profile.Sound ∧ Ends profile := by
    cases ready with
    | inl same =>
        rw [same]
        exact ⟨CLike.neutral, CLike.profile_made.sound, CLike.ends⟩
    | inr same =>
        rw [same]
        exact ⟨Diagram.neutral, Diagram.profile_made.sound, Diagram.ends⟩
  obtain ⟨neutral, sound, ends⟩ := facts
  refine ⟨delivers_of_ends ends _, delivers_of_ends ends _, ?_⟩
  by_cases fits : byteLength (sourceWithReturns source).toList ≤ maxOffset
  · rw [if_pos fits]
    exact tokens_sourceWithReturns neutral sound ends bare fits
  · rw [if_neg fits, tokens, (events_of_large profile fits).1]
    rfl

/-- A block comment, a raw string and a line continuation with line feeds in them. -/
theorem line_endings_irrelevant_lines :
    '\r' ∉ "/*\n*/R\"(\n)\"\\\n".toList ∧
      tokens CLike.profile (sourceWithReturns "/*\n*/R\"(\n)\"\\\n") =
        [{ atLineStart := true, kind := .blockComment, span := ⟨0, 6⟩, payload := .comment "\r\n" },
          { atLineStart := true, kind := CLike.rawString, span := ⟨6, 13⟩,
            payload := .literal "\r\n" },
          { kind := .lineContinuation, span := ⟨13, 16⟩ }, { kind := .fin, span := ⟨16, 16⟩ }] := by
  have bare : '\r' ∉ "/*\n*/R\"(\n)\"\\\n".toList := by decide
  refine ⟨bare, ((line_endings_irrelevant (.inl rfl) bare).2.2).trans ?_⟩
  decide +kernel

end Scan

end Lexing
