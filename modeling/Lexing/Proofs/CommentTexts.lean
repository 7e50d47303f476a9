import Lexing.Proofs.ClosingMarkers
import Lexing.Proofs.Closings
import Lexing.Proofs.Unexpected

/-!
# The symbols of comments

While the machine reads a comment, the symbols since it began are the marker that opens it and
then its text.  In a block comment the last symbols of the text are those that were seen of the
closing marker.
-/

namespace Lexing.Scan

variable {ρ : Type} {profile : Profile ρ} {source : String} {pointed : Segment → Prop}
  {state : ScanState ρ} {config : Config ρ} {reaction : Reaction ρ} {rest : List Fed}
  {next : Option Fed} {stop : Nat} {others : List Located}

/-! ## Reactions inside of comments -/

/-- What the machine can do inside of comments at a symbol, or at the end of the input when there
is none. -/
inductive Dwells (profile : Profile ρ) (stop : Nat) (state : ScanState ρ) :
    Option Fed → Reaction ρ → Prop
  | waits {text : List Char} {next : Option Fed} {reaction : Reaction ρ} :
      profile.options.honorLineContinuation = true →
      state.mode.resting = .lineComment text → reaction.state.mode.resting = .lineComment text →
      reaction.state.lineStart = state.lineStart → tokensOf reaction.reports = [] →
      Dwells profile stop state next reaction
  | lineGoesOn {text : List Char} {fed : Fed} : state.mode = .lineComment text →
      (profile.classes.classify fed.symbol).linefeed = false →
      Dwells profile stop state (some fed) (state.become (.lineComment (fed.symbol :: text)))
  | lineEnds {text : List Char} {next : Option Fed} : state.mode = .lineComment text →
      (∀ fed ∈ next, (profile.classes.classify fed.symbol).linefeed = true) →
      Dwells profile stop state next
        ((state.finish .lineComment (next.elim stop fun fed => fed.offset)
          (commentPayload text)).feed next.toList)
  | blockGoesOn {text : List Char} {seen : Nat} {crossed : Bool} {fed : Fed} (later : Bool) :
      state.mode = .blockComment text seen crossed →
      markerSeen profile.blockClose seen fed.symbol < profile.blockClose.length →
      Dwells profile stop state (some fed) (state.become
        (.blockComment (fed.symbol :: text) (markerSeen profile.blockClose seen fed.symbol) later))
  | blockEnds {text : List Char} {seen : Nat} {crossed : Bool} {fed : Fed}
      {reaction : Reaction ρ} : state.mode = .blockComment text seen crossed →
      profile.blockClose.length ≤ markerSeen profile.blockClose seen fed.symbol →
      reaction.reports = (state.finish .blockComment fed.stop (commentPayload
        ((fed.symbol :: text).drop profile.blockClose.length))).reports →
      reaction.state.mode = .idle → reaction.next = [] →
      Dwells profile stop state (some fed) reaction
  | unclosed {text : List Char} {seen : Nat} {crossed : Bool} :
      state.mode = .blockComment text seen crossed →
      Dwells profile stop state none (state.reject ⟨state.tokenStart, stop⟩)

/-- A token that is reported inside of a comment. -/
theorem Dwells.told (dwells : Dwells profile stop state next reaction) {token : Token}
    (told : token ∈ tokensOf reaction.reports) :
    (∃ text, state.mode = .lineComment text ∧
      (∀ fed ∈ next, (profile.classes.classify fed.symbol).linefeed = true) ∧
      token = {
        atLineStart := state.lineStart
        kind := .lineComment
        span := ⟨state.tokenStart, next.elim stop fun fed => fed.offset⟩
        payload := commentPayload text }) ∨
    (∃ text seen crossed fed, next = some fed ∧ state.mode = .blockComment text seen crossed ∧
      profile.blockClose.length ≤ markerSeen profile.blockClose seen fed.symbol ∧
      token = {
        atLineStart := state.lineStart
        kind := .blockComment
        span := ⟨state.tokenStart, fed.stop⟩
        payload := commentPayload ((fed.symbol :: text).drop profile.blockClose.length) }) ∨
    token.kind = .unexpected := by
  cases dwells with
  | waits _ _ _ _ silent => simp [silent] at told
  | lineGoesOn | blockGoesOn => exact absurd told List.not_mem_nil
  | lineEnds mode ends => exact Or.inl ⟨_, mode, ends, List.mem_singleton.mp told⟩
  | blockEnds mode complete reports =>
      rw [reports] at told
      exact Or.inr (Or.inl ⟨_, _, _, _, rfl, mode, complete, List.mem_singleton.mp told⟩)
  | unclosed =>
      obtain rfl := List.mem_singleton.mp told
      exact Or.inr (Or.inr rfl)

theorem eq_lineComment_of_inComment {resume : Resume} (inside : resume.mode.InComment) :
    ∃ text, resume = .lineComment text := by
  cases resume with
  | lineComment text => exact ⟨text, rfl⟩
  | _ => exact inside.elim

variable [Literal.Reader ρ]

/-- What the machine answers inside of a comment. -/
theorem Answered.dwells (answered : Answered profile stop state next reaction)
    (sane : Sane profile state) (inside : state.mode.resting.InComment) :
    Dwells profile stop state next reaction := by
  have seen : ∀ symbol, state.classify profile symbol = profile.classes.classify symbol := by
    simp [ScanState.classify, sane.classes]
  cases answered with
  | takes mode takes =>
      rw [mode] at inside
      cases takes with
      | lineComment _ goesOn => exact .lineGoesOn mode (by rwa [seen] at goesOn)
      | blockComment goesOn => exact .blockGoesOn _ mode goesOn
      | escape resumes _ begins =>
          subst resumes
          rw [resting_resume] at inside
          obtain ⟨text, rfl⟩ := eq_lineComment_of_inComment inside
          exact .waits (sane.canContinue begins).1 (by rw [mode]; rfl) rfl rfl rfl
      | carriage =>
          obtain ⟨text, rfl⟩ := eq_lineComment_of_inComment inside
          exact .waits (sane.waits _ _ _ mode).1 (by rw [mode]; rfl) rfl rfl rfl
      | _ => exact inside.elim
  | completes mode completed =>
      rw [mode] at inside
      cases completed with
      | lineComment ends =>
          simp only [seen] at ends
          exact .lineEnds mode fun fed ahead => (ends fed ahead).2
      | _ => exact inside.elim
  | closesBlock mode closed => exact .blockEnds mode closed rfl rfl rfl
  | unclosed mode => exact .unclosed mode
  | joins mode | joinsBefore mode | abandons mode =>
      rw [mode] at inside
      obtain ⟨text, rfl⟩ := eq_lineComment_of_inComment inside
      exact .waits (sane.waits _ _ _ mode).1 (by rw [mode]; rfl) rfl rfl rfl
  | between mode | linefeed mode | resolves mode | releases mode | extendsOperator mode
  | endsOperator mode | extendsIntroduction mode | endsIntroduction mode | reads mode
  | closesLiteral mode =>
      rw [mode] at inside
      exact inside.elim

/-- Every reaction to the next symbol of a queue, or to the end of the input behind it, goes on
with a comment or closes a walk or lies aside. -/
theorem next_moves (sound : profile.Sound) (sane : Sane profile state) {queue : List Fed}
    (nextReaction : nextReaction? profile (some stop) state queue = some (reaction, rest)) :
    ∃ symbol : Option Fed, queue = symbol.toList ++ rest ∧ (symbol = none → rest = []) ∧
      (Dwells profile stop state symbol reaction ∨
        ¬state.mode.resting.InComment ∧ Acts profile stop state symbol reaction) := by
  obtain ⟨symbol, same, last, answered⟩ := answered_next nextReaction
  refine ⟨symbol, same, last, ?_⟩
  by_cases inside : state.mode.resting.InComment
  · exact Or.inl (answered.dwells sane inside)
  · exact Or.inr ⟨inside, answered.acts sound sane.valid inside⟩

/-! ## Reports -/

omit [Literal.Reader ρ] in
/-- Outside of comments none is reported. -/
theorem Acts.not_comment (sound : profile.Sound) (acts : Acts profile stop state next reaction)
    {token : Token} (told : token ∈ tokensOf reaction.reports) : token.kind.isComment = false := by
  cases acts with
  | aside aside => exact (aside.told token told).2
  | closes _ closed =>
      cases closed with
      | operator _ operator =>
          obtain rfl := List.mem_singleton.mp told
          exact Kind.isComment_of_isOperator operator
      | demoted present =>
          obtain rfl := List.mem_singleton.mp told
          exact Kind.isComment_of_isOperator (sound.fallbackOperator present)
      | lineComment | blockComment => exact absurd told List.not_mem_nil

/-- So comments are reported from inside of them. -/
theorem next_dwells (sound : profile.Sound) (sane : Sane profile state) {queue : List Fed}
    (nextReaction : nextReaction? profile (some stop) state queue = some (reaction, rest))
    {token : Token} (told : token ∈ tokensOf reaction.reports)
    (comment : token.kind.isComment = true) :
    ∃ symbol, queue = Option.toList symbol ++ rest ∧ (symbol = none → rest = []) ∧
      Dwells profile stop state symbol reaction := by
  obtain ⟨symbol, same, last, dwells | ⟨_, acts⟩⟩ := next_moves sound sane nextReaction
  · exact ⟨symbol, same, last, dwells⟩
  · exact absurd comment (by simp [acts.not_comment sound told])

/-! ## Openings -/

/-- A marker of comments as it was read.  Line continuations can stand between its symbols, and
behind them only if some operator is longer. -/
structure OpensWith (pointed : Segment → Prop) (profile : Profile ρ) (kind : Kind)
    (marker opener : List Located) : Prop where
  registered : profile.operators.lookup? (marker.map Located.symbol) = some kind
  spliced : Spliced pointed profile marker opener
  tight : ∀ node, profile.operators.find? (marker.map Located.symbol) = some node →
    profile.operators.hasChildren node = false →
    ∃ early last read, marker = early ++ [last] ∧ opener = read ++ [last] ∧
      Spliced pointed profile early read

section Openings

variable {start : ScanState ρ} {marker opener : List Located} {again : List Fed} {node : NodeId}
  {kind : Kind} {walk : Walk}

omit [Literal.Reader ρ] in
theorem hasChildren_of_prefix {trie : Trie} {first second : List Char} {one two : NodeId}
    (before : first <+: second) (found : trie.find? first = some one)
    (foundToo : trie.find? second = some two) (longer : trie.hasChildren two = true) :
    trie.hasChildren one = true := by
  obtain ⟨more, rfl⟩ := before
  rw [Trie.find?, Trie.walkFrom_append] at foundToo
  rw [Trie.find?] at found
  rw [found, Option.bind_some] at foundToo
  cases more with
  | nil =>
      obtain rfl : one = two := by simpa [Trie.walkFrom] using foundToo
      exact longer
  | cons symbol rest =>
      rw [Trie.walkFrom] at foundToo
      cases edge : trie.advance one symbol with
      | none => simp [edge] at foundToo
      | some child => exact Trie.hasChildren_iff.mpr ⟨symbol, child, edge⟩

omit [Literal.Reader ρ] in
/-- A marker that no operator continues is complete with the last symbol that was fed. -/
theorem EndsWalk.last (ends : EndsWalk profile stop state next start marker again node)
    (traces : walk.Traces profile.operators) (mode : state.mode = .operator walk)
    (longer : profile.operators.hasChildren walk.node = true)
    (leaf : profile.operators.hasChildren node = false) :
    ∃ fed, next = some fed ∧ marker = walk.pending ++ [fed.toLocated] ∧ again = [] := by
  have parts := ends.parts
  rw [mode, Mode.pending] at parts
  have inside : ¬marker <+: walk.pending := by
    intro before
    have continued := hasChildren_of_prefix (before.map _) ends.found traces.reaches longer
    rw [leaf] at continued
    contradiction
  cases next with
  | none =>
      rw [Option.toList_none, List.map_nil, List.append_nil] at parts
      exact absurd ⟨_, parts.symm⟩ inside
  | some fed =>
      rcases List.eq_nil_or_concat again with rfl | ⟨early, last, rfl⟩
      · exact ⟨fed, rfl, by simpa using parts.symm, rfl⟩
      · rw [List.concat_eq_append, List.map_append, ← List.append_assoc] at parts
        exact absurd ⟨_, (List.append_inj' parts rfl).1.symm⟩ inside

omit [Literal.Reader ρ] in
/-- A walk that ends with the marker of a comment has read it. -/
theorem EndsWalk.opens (fits : byteLength source.toList ≤ maxOffset)
    (ends : EndsWalk profile stop state next start marker again node)
    (known : profile.operators.kind? node = some kind)
    (moment : Moment pointed profile source ⟨state, next.toList ++ rest⟩)
    (longer : ∀ walk, state.mode = .operator walk →
      profile.operators.hasChildren walk.node = true)
    (unpointed : ∀ fed ∈ next, state.mode = .idle → ∀ trail, ¬pointed ⟨fed.toLocated, trail⟩)
    (after : Ahead source start.tokenStart (opener ++ (again ++ rest).map Fed.toLocated)) :
    OpensWith pointed profile kind marker opener := by
  have registered : profile.operators.lookup? (marker.map Located.symbol) = some kind := by
    rw [Trie.lookup?_of_find? ends.found (by simpa using ends.nonempty), known]
  rcases ends.begins with ⟨idle, fed, rfl, rfl⟩ | ⟨⟨walk, mode⟩, rfl⟩
  · obtain ⟨sane, ⟨_, _, standing⟩, _⟩ := moment
    obtain ⟨trail, chain, before⟩ := standing.ahead_idle fits idle
    obtain rfl := chain.resolve_right (unpointed fed rfl idle trail)
    have parts : [fed.toLocated] = marker ++ again.map Fed.toLocated := by
      simpa [idle, Mode.pending] using ends.parts
    obtain ⟨empty, _⟩ | ⟨rfl, none⟩ := List.singleton_eq_append_iff.mp parts
    · exact absurd empty ends.nonempty
    obtain rfl := List.map_eq_nil_iff.mp none
    have same : [fed.toLocated] ++ rest.map Fed.toLocated = opener ++ rest.map Fed.toLocated :=
      before.unique after
    obtain rfl := List.append_cancel_right same
    have single : Spliced pointed profile ([] ++ [fed.toLocated]) ([] ++ [fed.toLocated]) :=
      Spliced.nil.symbol _
    exact ⟨registered, single, fun _ _ _ => ⟨[], _, [], rfl, rfl, .nil⟩⟩
  · have valid := moment.sane.valid
    have reads := moment.reads
    unfold ScanState.Valid at valid
    rw [mode] at valid
    dsimp only at reads
    rw [mode] at reads
    obtain ⟨read, before, recalls⟩ := reads (by simp [Mode.resting])
    have parts : walk.pending ++ next.toList.map Fed.toLocated =
        marker ++ again.map Fed.toLocated := by
      simpa [mode, Mode.pending] using ends.parts
    have same : read ++ (next.toList ++ rest).map Fed.toLocated =
        opener ++ (again ++ rest).map Fed.toLocated :=
      before.unique after
    rw [List.map_append, List.map_append, ← List.append_assoc, ← List.append_assoc] at same
    have whole : read ++ next.toList.map Fed.toLocated = opener ++ again.map Fed.toLocated :=
      List.append_cancel_right same
    have followed : Spliced pointed profile walk.pending read := recalls
    have spliced : Spliced pointed profile (marker ++ again.map Fed.toLocated)
        (opener ++ again.map Fed.toLocated) := by
      rw [← parts, ← whole]
      cases next with
      | none => simpa using followed
      | some fed => exact followed.symbol _
    have nodup : (opener ++ again.map Fed.toLocated).Nodup := by
      have all := after.nodup fits
      rw [List.map_append, ← List.append_assoc] at all
      exact (List.nodup_append.mp all).1
    refine ⟨registered, spliced.drop nodup, fun other found leaf => ?_⟩
    obtain rfl : node = other := Option.some.inj (ends.found.symm.trans found)
    obtain ⟨fed, rfl, rfl, rfl⟩ := ends.last valid mode (longer walk mode) leaf
    exact ⟨walk.pending, fed.toLocated, read, rfl, by simpa using whole.symm, followed⟩

/-- Where something was absorbed behind a symbol, no comment begins with it. -/
theorem not_pointed_of_inComment (setting : Setting (.tight pointed) profile others)
    (own : state.ownClasses = none) (idle : state.mode = .idle) {fed : Fed}
    (inside : (react profile state fed).state.mode.InComment) (trail : List Splice) :
    ¬pointed ⟨fed.toLocated, trail⟩ := by
  intro isPointed
  rw [react_idle idle] at inside
  rcases setting.points state fed trail own isPointed with ⟨_, answer⟩ | ⟨longer, children, answer⟩
  · rw [answer] at inside
    exact inside
  · rw [answer, reachOperator, if_pos children] at inside
    exact inside

end Openings

/-! ## Configurations inside of comments -/

/-- The symbols since the token began are a marker of comments of the given kind, the text and
those that are still to be fed. -/
def Within (pointed : Segment → Prop) (profile : Profile ρ) (source : String) (config : Config ρ)
    (kind : Kind) (text : List Char) : Prop :=
  ∃ marker opener content, OpensWith pointed profile kind marker opener ∧
    content.map Located.symbol = text.reverse ∧
    Ahead source config.state.tokenStart
      ((opener ++ content) ++ config.queue.map Fed.toLocated)

/-- The closing marker is looked for in the text. -/
structure Searches (close text : List Char) (seen : Nat) : Prop where
  bound : seen < close.length
  atEnd : close.take seen <:+ text.reverse
  seeks : Unrepeated close → Seeks close text.reverse seen

/-- What is known inside of a comment.  A line comment is only followed where lines are never
continued. -/
def Commented (pointed : Segment → Prop) (profile : Profile ρ) (source : String)
    (config : Config ρ) : Prop :=
  match config.state.mode with
  | .lineComment text => profile.options.honorLineContinuation = false →
      Within pointed profile source config .lineComment text
  | .blockComment text seen _ => Within pointed profile source config .blockComment text ∧
      Searches profile.blockClose text seen
  | _ => True

/-- A moment of a scan at which every walk can become longer and every comment knows its text. -/
structure Grounded (pointed : Segment → Prop) (profile : Profile ρ) (source : String)
    (config : Config ρ) : Prop extends Moment pointed profile source config where
  longer : ∀ walk, config.state.mode.resting = .operator walk →
    profile.operators.hasChildren walk.node = true
  commented : Commented pointed profile source config

section Texts

variable {kind : Kind} {text : List Char} {fed : Fed}

omit [Literal.Reader ρ] in
theorem Within.push (within : Within pointed profile source ⟨state, fed :: rest⟩ kind text)
    (mode : Mode) :
    Within pointed profile source ⟨state.enter mode, rest⟩ kind (fed.symbol :: text) := by
  obtain ⟨marker, opener, content, opens, spelled, ahead⟩ := within
  refine ⟨marker, opener, content ++ [fed.toLocated], opens, by simp [spelled], ?_⟩
  simpa using ahead

theorem Searches.push {close : List Char} {seen : Nat} {symbol : Char}
    (searches : Searches close text seen) (goesOn : markerSeen close seen symbol < close.length) :
    Searches close (symbol :: text) (markerSeen close seen symbol) where
  bound := goesOn
  atEnd := by
    rw [List.reverse_cons]
    exact markerSeen_suffix _ searches.atEnd
  seeks unrepeated := by
    have seeks := searches.seeks unrepeated
    rw [List.reverse_cons]
    refine seeks.concat unrepeated searches.bound searches.atEnd fun complete => ?_
    have closed := (seeks.closes_iff unrepeated searches.bound searches.atEnd).mpr complete
    omega

theorem searches_nil {close : List Char} (nonempty : close ≠ []) : Searches close [] 0 where
  bound := List.length_pos_iff.mpr nonempty
  atEnd := by simp
  seeks _ := seeks_nil nonempty

end Texts

section Runs

variable (fits : byteLength source.toList ≤ maxOffset)
  (setting : Setting (.tight pointed) profile (Located.ofText 0 source.toList))

include fits setting

/-- A comment that a walk opens. -/
theorem Grounded.opened {start : ScanState ρ} {marker : List Located} {again : List Fed}
    {node : NodeId} {kind : Kind} {mode : Mode}
    (grounded : Grounded pointed profile source ⟨state, next.toList ++ rest⟩)
    (ends : EndsWalk profile stop state next start marker again node)
    (known : profile.operators.kind? node = some kind)
    (reacts : ∀ fed ∈ next, react profile state fed = (start.become mode).feed again)
    (moment : Moment pointed profile source ⟨start.enter mode, again ++ rest⟩)
    (inside : mode.InComment) (resting : mode.resting = mode) (waiting : mode.waiting = []) :
    Within pointed profile source ⟨start.enter mode, again ++ rest⟩ kind [] := by
  have busy : (start.enter mode).mode.resting ≠ .idle := by
    show mode.resting ≠ .idle
    rw [resting]
    rintro rfl
    exact inside
  obtain ⟨opener, after, _⟩ := moment.reads busy
  have whole : Ahead source start.tokenStart (opener ++ (again ++ rest).map Fed.toLocated) := by
    have ahead : Ahead source start.tokenStart
        (opener ++ (mode.waiting ++ (again ++ rest).map Fed.toLocated)) := after
    rwa [waiting] at ahead
  refine ⟨marker, opener, [], ?_, rfl, by simpa using whole⟩
  refine ends.opens fits known grounded.toMoment (fun walk walks => ?_) (fun fed fedNext idle => ?_)
    whole
  · refine grounded.longer walk ?_
    show state.mode.resting = _
    rw [walks]
    rfl
  · refine not_pointed_of_inComment setting grounded.sane.classes idle ?_
    rw [reacts fed fedNext]
    exact inside

omit fits setting [Literal.Reader ρ] in
theorem Dwells.grounded (dwells : Dwells profile stop state next reaction)
    (grounded : Grounded pointed profile source ⟨state, next.toList ++ rest⟩)
    (moment : Moment pointed profile source ⟨reaction.state, reaction.next ++ rest⟩) :
    Grounded pointed profile source ⟨reaction.state, reaction.next ++ rest⟩ := by
  have commented := grounded.commented
  unfold Commented at commented
  cases dwells with
  | waits honored _ resting =>
      refine ⟨moment, fun walk walks => by simp [resting] at walks, ?_⟩
      cases entered : reaction.state.mode with
      | lineComment => simp [Commented, entered, honored]
      | blockComment => simp [entered, Mode.resting] at resting
      | _ => simp [Commented, entered]
  | lineGoesOn mode =>
      dsimp only at commented
      rw [mode] at commented
      exact ⟨moment, by rintro _ ⟨⟩, fun off => (commented off).push _⟩
  | lineEnds => exact ⟨moment, by rintro _ ⟨⟩, trivial⟩
  | blockGoesOn later mode goesOn =>
      dsimp only at commented
      rw [mode] at commented
      exact ⟨moment, by rintro _ ⟨⟩, commented.1.push _, commented.2.push goesOn⟩
  | blockEnds _ _ _ idle =>
      refine ⟨moment, fun walk walks => by simp [idle, Mode.resting] at walks, ?_⟩
      simp [Commented, idle]
  | unclosed => exact ⟨moment, by rintro _ ⟨⟩, trivial⟩

theorem Acts.grounded (acts : Acts profile stop state next reaction)
    (grounded : Grounded pointed profile source ⟨state, next.toList ++ rest⟩)
    (reacts : ∀ fed ∈ next, react profile state fed = reaction)
    (moment : Moment pointed profile source ⟨reaction.state, reaction.next ++ rest⟩) :
    Grounded pointed profile source ⟨reaction.state, reaction.next ++ rest⟩ := by
  cases acts with
  | aside aside =>
      refine ⟨moment, fun walk walks => (aside.longer walk walks).elim id (grounded.longer walk),
        ?_⟩
      have away := aside.outside
      cases entered : reaction.state.mode with
      | lineComment | blockComment => simp [entered, Mode.resting, Mode.InComment] at away
      | _ => simp [Commented, entered]
  | @closes _ _ _ node _ ends closed =>
      cases closed with
      | operator => exact ⟨moment, by rintro _ ⟨⟩, trivial⟩
      | demoted => exact ⟨moment, by rintro _ ⟨⟩, trivial⟩
      | lineComment known =>
          exact ⟨moment, by rintro _ ⟨⟩, fun _ =>
            grounded.opened fits setting ends known reacts moment trivial rfl rfl⟩
      | blockComment known =>
          exact ⟨moment, by rintro _ ⟨⟩,
            grounded.opened fits setting ends known reacts moment trivial rfl rfl,
            searches_nil (setting.sound.blockClose node known)⟩

theorem Grounded.step (grounded : Grounded pointed profile source config)
    (nextReaction : nextReaction? profile (some (byteLength source.toList)) config.state
      config.queue = some (reaction, rest)) :
    Grounded pointed profile source ⟨reaction.state, reaction.next ++ rest⟩ := by
  have moment := keeps_moment fits setting config reaction rest grounded.toMoment nextReaction
  obtain ⟨state, queue⟩ := config
  obtain ⟨symbol, rfl, _, dwells | ⟨_, acts⟩⟩ :=
    next_moves setting.sound grounded.sane nextReaction
  · exact dwells.grounded grounded moment
  · refine acts.grounded fits setting grounded ?_ moment
    rintro fed rfl
    exact congrArg Prod.fst (Option.some.inj nextReaction)

/-- Everything that a scan reaches is such a moment. -/
theorem Reaches.grounded {past : List Report} (reaches : Reaches profile source past config) :
    Grounded pointed profile source config := by
  refine Leads.keeps reaches (fun _ _ _ => Grounded.step fits setting) ⟨?_, nofun, trivial⟩
  exact Reaches.moment fits setting (.here _)

end Runs

/-! ## Where no line is continued -/

omit [Literal.Reader ρ] in
/-- Where no line is continued, a word was read as it is. -/
theorem Spliced.eq_word {word read : List Located}
    (spliced : Spliced (fun _ => False) profile word read)
    (never : ∀ located ∈ read, ¬CanContinue profile located) : read = word := by
  induction spliced with
  | nil => rfl
  | point isPointed => exact isPointed.elim
  | symbol located _ ih => rw [ih fun other member => never other (by simp [member])]
  | joint _ _ joins =>
      obtain ⟨escape, _, _, rfl, continues, _⟩ := joins
      exact absurd continues (never escape (by simp))

end Lexing.Scan
