import Lexing.Proofs.CommentTexts
import Lexing.Proofs.LongestWalk
import Lexing.Proofs.Origins

/-!
# Block comments

The text of a block comment is a marker that opens it, what its payload says and the marker that
closes it.  Where the first symbol of the closing marker does not occur in it again, the comment
ends with the first closing marker behind its opening one, and it is only rejected if there is
none.
-/

namespace Lexing

namespace Scan

variable {ρ : Type} {profile : Profile ρ} {source : String} {pointed : Segment → Prop}
  {state : ScanState ρ} {config : Config ρ} {reaction : Reaction ρ} {queue rest : List Fed}
  {next : Option Fed} {stop : Nat} {text close : List Char} {seen : Nat} {crossed : Bool}

/-! ## Where the closing marker is read -/

/-- What was read up to the closing marker is the payload. -/
theorem Searches.closed (searches : Searches close text seen) {symbol : Char}
    (complete : close.length ≤ markerSeen close seen symbol) :
    ∃ content, text.reverse ++ [symbol] = content ++ close ∧
      commentPayload ((symbol :: text).drop close.length) =
        .comment (String.ofList content) ∧
      (Unrepeated close → FirstClosed close content) := by
  have atEnd := markerSeen_suffix symbol searches.atEnd
  rw [List.take_of_length_le complete] at atEnd
  obtain ⟨content, whole⟩ := atEnd
  refine ⟨content, whole.symm, ?_,
    fun unrepeated => (searches.seeks unrepeated).firstClosed whole.symm⟩
  have backwards : symbol :: text = close.reverse ++ content.reverse := by
    rw [← List.reverse_append, whole]
    simp
  rw [backwards, List.drop_left' (by simp), commentPayload, List.reverse_reverse]

/-- The marker that closes a comment is cut off by its bytes as it is by its symbols. -/
theorem Searches.takeBytes_closed (searches : Searches close text seen) {symbol : Char}
    (complete : close.length ≤ markerSeen close seen symbol) :
    takeBytes (byteLength (symbol :: text) - byteLength close) (symbol :: text).reverse =
      some ((symbol :: text).drop close.length).reverse := by
  have atEnd := markerSeen_suffix symbol searches.atEnd
  rw [List.take_of_length_le complete] at atEnd
  have ends : close.reverse <+: symbol :: text := by
    rw [← List.reverse_suffix]
    simpa using atEnd
  simpa [byteLength_reverse] using takeBytes_reverse ends

/-- The comment goes on over symbols that do not complete the marker. -/
theorem Searches.goesOn (searches : Searches close text seen) (unrepeated : Unrepeated close)
    {symbol : Char} (missing : ¬close <:+ text.reverse ++ [symbol]) :
    markerSeen close seen symbol < close.length := by
  rw [← Nat.not_le, (searches.seeks unrepeated).closes_iff unrepeated searches.bound searches.atEnd]
  exact missing

/-! ## Texts of comments -/

/-- The symbols of a comment's marker in the source. -/
def OpensAs (opens : List Char → Prop) (pointed : Segment → Prop) (profile : Profile ρ)
    (source : String) : Prop :=
  ∀ marker opener offset behind, OpensWith pointed profile .blockComment marker opener →
    Ahead source offset (opener ++ behind) → opens (opener.map Located.symbol)

/-- The text of the comment is a marker that opens it, the payload and the marker that closes
it. -/
def Encloses (profile : Profile ρ) (opens : List Char → Prop) (source : String) (token : Token) :
    Prop :=
  ∃ opener content, opens opener ∧ token.payload = .comment (String.ofList content) ∧
    token.text source = String.ofList (opener ++ (content ++ profile.blockClose)) ∧
    (Unrepeated profile.blockClose → FirstClosed profile.blockClose content)

section Runs

variable [Literal.Reader ρ] {opens : List Char → Prop}
  (fits : byteLength source.toList ≤ maxOffset)
  (setting : Setting (.tight pointed) profile (Located.ofText 0 source.toList))
  (opensAs : OpensAs opens pointed profile source)

include fits

omit [Literal.Reader ρ] in
/-- The last symbol of a closing marker. -/
theorem Within.encloses {fed : Fed} (opensAs : OpensAs opens pointed profile source)
    (within : Within pointed profile source ⟨state, fed :: queue⟩ .blockComment text)
    (searches : Searches profile.blockClose text seen)
    (complete : profile.blockClose.length ≤ markerSeen profile.blockClose seen fed.symbol)
    {token : Token} (span : token.span = ⟨state.tokenStart, fed.stop⟩)
    (payload : token.payload =
      commentPayload ((fed.symbol :: text).drop profile.blockClose.length)) :
    Encloses profile opens source token := by
  obtain ⟨marker, opener, content, opened, spelled, ahead⟩ := within
  obtain ⟨body, whole, said, first⟩ := searches.closed complete
  refine ⟨opener.map Located.symbol, body, ?_, payload.trans said, ?_, first⟩
  · rw [List.append_assoc] at ahead
    exact opensAs marker opener _ _ opened ahead
  · have stop := Ahead.stop_eq fits ahead
    have parts : Ahead source state.tokenStart
        (((opener ++ content) ++ [fed.toLocated]) ++ queue.map Fed.toLocated) := by
      simpa using ahead
    rw [parts.text fits (by rw [span]) (by rw [span]; exact stop), List.map_append, List.map_append,
      spelled, List.append_assoc, ← whole]
    rfl

include setting opensAs

theorem Grounded.encloses (grounded : Grounded pointed profile source config)
    (nextReaction : nextReaction? profile (some (byteLength source.toList)) config.state
      config.queue = some (reaction, rest))
    {token : Token} (told : token ∈ tokensOf reaction.reports)
    (kind : token.kind = .blockComment) : Encloses profile opens source token := by
  obtain ⟨state, queue⟩ := config
  obtain ⟨symbol, same, _, dwells⟩ :=
    next_dwells setting.sound grounded.sane nextReaction told (by rw [kind]; decide)
  have commented := grounded.commented
  obtain rfl : queue = _ := same
  unfold Commented at commented
  rcases dwells.told told with ⟨_, _, _, rfl⟩ | ⟨_, _, _, _, rfl, mode, complete, rfl⟩ | rejected
  · exact absurd kind (show Kind.lineComment ≠ .blockComment by decide)
  · dsimp only at commented
    rw [mode] at commented
    exact commented.1.encloses fits opensAs commented.2 complete rfl rfl
  · exact absurd (rejected.symm.trans kind) (by decide)

end Runs

/-! ## From an opened comment on -/

section Onward

variable [Literal.Reader ρ] {piece : List Fed}

/-- The comment goes on over symbols without the closing marker. -/
theorem leads_over (searches : Searches profile.blockClose text seen)
    (unrepeated : Unrepeated profile.blockClose)
    (mode : state.mode = .blockComment text seen crossed)
    (missing : ¬profile.blockClose <:+: text.reverse ++ piece.map fun fed => fed.symbol)
    (closing : Option Nat) (queue : List Fed) :
    ∃ reached later, Searches profile.blockClose ((piece.map fun fed => fed.symbol).reverse ++ text)
        reached ∧
      Leads profile closing ⟨state, piece ++ queue⟩ []
        ⟨state.enter (.blockComment ((piece.map fun fed => fed.symbol).reverse ++ text) reached
          later), queue⟩ := by
  induction piece generalizing state text seen crossed with
  | nil =>
      refine ⟨seen, crossed, searches, ?_⟩
      have same : state.enter (.blockComment text seen crossed) = state := by
        rw [← mode]
        rfl
      rw [List.map_nil, List.reverse_nil, List.nil_append, List.nil_append, same]
      exact .here _
  | cons fed piece ih =>
      have goesOn : markerSeen profile.blockClose seen fed.symbol < profile.blockClose.length := by
        refine searches.goesOn unrepeated fun atEnd => missing ?_
        rw [List.map_cons, List.append_cons]
        exact atEnd.isInfix.trans (List.prefix_append _ _).isInfix
      have first := Leads.react profile closing state fed (piece ++ queue)
      simp only [react, mode, readBlockComment, if_pos goesOn] at first
      have behind : ¬profile.blockClose <:+:
          (fed.symbol :: text).reverse ++ piece.map fun fed => fed.symbol := by
        simpa using missing
      have entered : (state.enter (.blockComment (fed.symbol :: text)
          (markerSeen profile.blockClose seen fed.symbol)
          (crossed || (state.classify profile fed.symbol).linefeed))).mode = _ := rfl
      obtain ⟨reached, later, searches, onward⟩ := ih (searches.push goesOn) entered behind
      refine ⟨reached, later, by simpa using searches, ?_⟩
      have whole := first.trans onward
      simpa [ScanState.enter] using whole

/-- With the closing marker the comment is complete. -/
theorem leads_closed (searches : Searches profile.blockClose text seen)
    (unrepeated : Unrepeated profile.blockClose)
    (mode : state.mode = .blockComment text seen crossed)
    {fed : Fed} {content : List Char} (closed : FirstClosed profile.blockClose content)
    (whole : text.reverse ++ (piece.map (fun fed => fed.symbol) ++ [fed.symbol]) =
      content ++ profile.blockClose) (closing : Option Nat) (queue : List Fed) :
    ∃ last, Leads profile closing ⟨state, piece ++ fed :: queue⟩
      [.token {
        atLineStart := state.lineStart
        kind := .blockComment
        span := ⟨state.tokenStart, fed.stop⟩
        payload := .comment (String.ofList content) }] last := by
  have missing : ¬profile.blockClose <:+: text.reverse ++ piece.map fun fed => fed.symbol := by
    rintro ⟨front, back, early⟩
    have parts : content ++ profile.blockClose =
        front ++ (profile.blockClose ++ (back ++ [fed.symbol])) := by
      rw [← whole, ← List.append_assoc, ← early]
      simp
    simpa using closed _ _ parts
  obtain ⟨reached, later, onward, leads⟩ :=
    leads_over searches unrepeated mode missing closing (fed :: queue)
  generalize read : (piece.map fun fed => fed.symbol).reverse ++ text = done at onward leads
  have ended : done.reverse ++ [fed.symbol] = content ++ profile.blockClose := by
    rw [← read, ← whole]
    simp
  have complete : profile.blockClose.length ≤ markerSeen profile.blockClose reached fed.symbol := by
    rw [(onward.seeks unrepeated).closes_iff unrepeated onward.bound onward.atEnd]
    exact ⟨content, ended.symm⟩
  obtain ⟨body, same, said, _⟩ := onward.closed complete
  obtain rfl : body = content := List.append_cancel_right (same.symm.trans ended)
  have last :=
    Leads.react profile closing (state.enter (.blockComment done reached later)) fed queue
  have reacts : react profile (state.enter (.blockComment done reached later)) fed =
      readBlockComment profile (state.enter (.blockComment done reached later)) done reached later
        fed := rfl
  rw [reacts, readBlockComment, if_neg (Nat.not_lt.mpr complete)] at last
  dsimp only at last
  rw [said] at last
  exact ⟨_, leads.trans last⟩

/-- Without it the comment is rejected at the end of the input. -/
theorem leads_unclosed (searches : Searches profile.blockClose text seen)
    (unrepeated : Unrepeated profile.blockClose)
    (mode : state.mode = .blockComment text seen crossed)
    (missing : ¬profile.blockClose <:+: text.reverse ++ queue.map fun fed => fed.symbol)
    (stop : Nat) :
    ∃ last, Leads profile (some stop) ⟨state, queue⟩
      [.unexpected ⟨state.tokenStart, stop⟩ none, .token {
        atLineStart := state.lineStart
        kind := .unexpected
        span := ⟨state.tokenStart, stop⟩ }] last := by
  obtain ⟨reached, later, onward, leads⟩ :=
    leads_over searches unrepeated mode missing (some stop) []
  rw [List.append_nil] at leads
  generalize (queue.map fun fed => fed.symbol).reverse ++ text = done at leads
  have flushed : flush? profile (state.enter (.blockComment done reached later)) stop =
      some ((state.enter (.blockComment done reached later)).reject ⟨state.tokenStart, stop⟩) := rfl
  exact ⟨_, leads.trans (Leads.flush flushed)⟩

end Onward

/-! ## Whole sources -/

section Sources

variable [Literal.Reader ρ]

/-- The text behind a marker that has opened a comment decides what is told next: the comment up
to the closing marker or, only if there is none, that it is rejected. -/
structure Resolves (profile : Profile ρ) (opens : List Char → Prop) (source : String)
    (past : List Report) (fresh : Bool) (start next : Nat) (behind : List Char) : Prop where
  opened : ∃ front opener, source.toList = front ++ (opener ++ behind) ∧
    byteLength front = start ∧ opens opener
  closed : ∀ content rest, behind = content ++ (profile.blockClose ++ rest) →
    FirstClosed profile.blockClose content →
    past.map Report.event ++ [.token {
      atLineStart := fresh
      kind := .blockComment
      span := ⟨start, next + byteLength (content ++ profile.blockClose)⟩
      payload := .comment (String.ofList content) }] <+: events profile source
  rejected : past.map Report.event ++ [.unexpected ⟨start, byteLength source.toList⟩] <+:
    events profile source ↔ ¬profile.blockClose <:+: behind

/-- Block comments end at the right place with the right text. -/
structure BlockComments (profile : Profile ρ) (opens : List Char → Prop) (source : String) :
    Prop where
  delivers : Delivers profile source
  encloses : ∀ token ∈ tokens profile source, token.kind = .blockComment →
    Encloses profile opens source token
  resolves : byteLength source.toList ≤ maxOffset → Unrepeated profile.blockClose →
    ∀ {past fresh start next behind},
      Arrives profile source past (.blockComment [] 0 false) fresh start next behind →
        Resolves profile opens source past fresh start next behind

section Arrivals

variable {opens : List Char → Prop} {past : List Report} {fresh : Bool} {start offset : Nat}
  {behind content after : List Char} {marker opener : List Located}
  (fits : byteLength source.toList ≤ maxOffset)
  (unrepeated : Unrepeated profile.blockClose)
  (mode : state.mode = .blockComment [] 0 false)
  (searches : Searches profile.blockClose [] 0)
  (ahead : Ahead source state.tokenStart (opener ++ queue.map Fed.toLocated))
  (symbols : queue.map Fed.toLocated = Located.ofText offset behind)

omit [Literal.Reader ρ] in
include symbols in
theorem map_symbol_of_ofText : queue.map (fun fed => fed.symbol) = behind := by
  have same := congrArg (List.map Located.symbol) symbols
  rw [Located.map_symbol_ofText, List.map_map] at same
  exact same

include fits unrepeated mode searches ahead symbols

/-- The comment up to the closing marker is told next. -/
theorem arrival_closed (whole : behind = content ++ (profile.blockClose ++ after))
    (closed : FirstClosed profile.blockClose content) (closing : Option Nat) :
    ∃ last, Leads profile closing ⟨state, queue⟩ [.token {
      atLineStart := state.lineStart
      kind := .blockComment
      span := ⟨state.tokenStart, offset + byteLength (content ++ profile.blockClose)⟩
      payload := .comment (String.ofList content) }] last := by
  have nonempty : content ++ profile.blockClose ≠ [] := by
    have := searches.bound
    exact List.append_ne_nil_of_right_ne_nil _ (List.length_pos_iff.mp this)
  obtain ⟨early, last, cut⟩ : ∃ early last, content ++ profile.blockClose = early ++ [last] :=
    ⟨_, _, (List.dropLast_concat_getLast nonempty).symm⟩
  have spelled := map_symbol_of_ofText symbols
  rw [whole, ← List.append_assoc, cut, List.append_assoc] at spelled
  obtain ⟨piece, others, rfl, rfl, rest⟩ := List.map_eq_append_iff.mp spelled
  obtain ⟨fed, left, rfl, rfl, _⟩ := List.map_eq_cons_iff.mp rest
  have begun : offset = state.tokenStart + byteLength (opener.map Located.symbol) := by
    cases queueEq : piece ++ fed :: left with
    | nil => simp at queueEq
    | cons first remaining =>
        rw [queueEq, List.map_cons] at ahead symbols
        rw [← ahead.offset_eq fits]
        cases behind with
        | nil => simp [Located.ofText] at symbols
        | cons symbol text => exact (congrArg Located.offset (List.cons_eq_cons.mp symbols).1).symm
  have stop : fed.stop = offset + byteLength (content ++ profile.blockClose) := by
    rw [List.map_append, List.map_cons, ← List.append_assoc] at ahead
    rw [ahead.stop_eq fits, begun, cut]
    simp only [List.map_append, List.map_map, List.map_cons, List.map_nil, byteLength_append,
      Function.comp_def, Nat.add_assoc]
  rw [← stop]
  exact leads_closed searches unrepeated mode closed (by simpa using cut.symm) closing left

end Arrivals

section Settings

variable {opens : List Char → Prop} (fits : byteLength source.toList ≤ maxOffset)
  (undotted : profile.literals.advance Trie.root '.' = none)
  (setting : Setting (.tight pointed) profile (Located.ofText 0 source.toList))
  (opensAs : OpensAs opens pointed profile source)

include fits undotted setting opensAs

theorem Arrives.resolves (unrepeated : Unrepeated profile.blockClose) {past : List Report}
    {fresh : Bool} {start offset : Nat} {behind : List Char}
    (arrives : Arrives profile source past (.blockComment [] 0 false) fresh start offset behind) :
    Resolves profile opens source past fresh start offset behind := by
  obtain ⟨_, state, queue, reaches, mode, rfl, rfl, symbols⟩ := arrives
  have commented := (reaches.grounded fits setting).commented
  unfold Commented at commented
  dsimp only at commented
  rw [mode] at commented
  obtain ⟨⟨marker, opener, content, opened, spelled, ahead⟩, searches⟩ := commented
  obtain rfl := List.map_eq_nil_iff.mp spelled
  rw [List.append_nil] at ahead
  obtain ⟨reports, foresees, recorded, _⟩ :=
    transcribed fits (bounded_of_setting setting (Located.adjoin_source fits) undotted)
  have told : ∀ {later last}, Leads profile (some (byteLength source.toList)) ⟨state, queue⟩ later
      last → past.map Report.event ++ later.map Report.event <+: events profile source := by
    intro later last leads
    obtain ⟨behind, rfl, _⟩ := foresees.after (reaches.trans leads)
    rw [recorded, ← List.map_append]
    exact (List.prefix_append _ behind).map _
  have ended : ∀ content rest, behind = content ++ (profile.blockClose ++ rest) →
      FirstClosed profile.blockClose content → _ := fun content rest whole closed =>
    (arrival_closed fits unrepeated mode searches ahead symbols whole closed
      (some (byteLength source.toList))).elim fun _ leads => told leads
  refine ⟨?_, ended, fun rejected inside => ?_, fun missing => ?_⟩
  · obtain ⟨front, rest, whole, length, behindEq⟩ := ahead.parts fits
    have same := congrArg (List.map Located.symbol) (symbols.symm.trans behindEq)
    rw [Located.map_symbol_ofText, Located.map_symbol_ofText] at same
    exact ⟨front, opener.map Located.symbol, same ▸ whole, length, opensAs _ _ _ _ opened ahead⟩
  · obtain ⟨content, rest, whole, closed⟩ := exists_firstClosed inside
    have both :=
      List.prefix_of_prefix_length_le rejected (ended content rest whole closed) (by simp)
    have same := both.eq_of_length (by simp)
    simpa [Report.event] using List.append_cancel_left same
  · have absent : ¬profile.blockClose <:+: [].reverse ++ queue.map fun fed => fed.symbol := by
      rwa [map_symbol_of_ofText symbols]
    obtain ⟨last, leads⟩ :=
      leads_unclosed searches unrepeated mode absent (byteLength source.toList)
    refine List.IsPrefix.trans ?_ (told leads)
    exact (List.prefix_append_right_inj _).mpr
      (List.cons_prefix_cons.mpr ⟨rfl, List.nil_prefix⟩)

theorem blockComments_of_setting : BlockComments profile opens source where
  delivers := (transcribed fits
    (bounded_of_setting setting (Located.adjoin_source fits) undotted)).choose_spec.2.2
  encloses token told kind := by
    have inner : token.kind ≠ .fin := by
      rw [kind]
      decide
    obtain ⟨_, _, _, _, _, leads, next, told⟩ := exists_reaction_of_token told inner
    exact Grounded.encloses fits setting opensAs (leads.grounded fits setting) next told kind
  resolves _ unrepeated _ _ _ _ _ arrives :=
    arrives.resolves fits undotted setting opensAs unrepeated

end Settings

/-! ## Markers as they are written -/

omit [Literal.Reader ρ] in
theorem Ahead.symbol_mem {offset : Nat} {symbols : List Located} {located : Located}
    (ahead : Ahead source offset symbols) (member : located ∈ symbols) :
    located.symbol ∈ source.toList := by
  obtain ⟨front, rest, whole, _, rfl⟩ := ahead
  rw [whole]
  exact List.mem_append_right _ (Located.symbol_mem_of_mem_ofText member)

omit [Literal.Reader ρ] in
/-- Where no line is continued, the marker is a registered one. -/
theorem opensAs_of_unescaped
    (unescaped : profile.options.honorLineContinuation = false ∨
      ∀ symbol ∈ source.toList, (profile.classes.classify symbol).escape = false) :
    OpensAs (fun opener => profile.operatorKind? (String.ofList opener) = some .blockComment)
      (fun _ => False) profile source := by
  intro marker opener offset behind opened ahead
  have never : ∀ located ∈ opener, ¬CanContinue profile located := fun located member =>
    not_canContinue_of_unescaped unescaped (ahead.symbol_mem (List.mem_append_left _ member))
  rw [opened.spliced.eq_word never, Profile.operatorKind?, String.toList_ofList]
  exact opened.registered

end Sources

end Scan

namespace CLike

open Scan

/-- The marker that opens block comments, with line continuations inside. -/
def OpensBlock (opener : List Char) : Prop :=
  ∃ ends : List LineEnd, opener = '/' :: (ends.flatMap LineEnd.splice ++ ['*'])

theorem blockComment_table : ∀ node < profile.operators.nodes.size,
    profile.operators.kind? node = some .blockComment →
      profile.operators.hasChildren node = false := by
  decide +kernel

theorem opensAs (source : String) : OpensAs OpensBlock IsPoint profile source := by
  intro marker opener offset behind opened _
  obtain ⟨node, found, named⟩ := Trie.exists_of_lookup? opened.registered
  have bound := (profile_made.sound.operators.toLinked.find?_bound found).1
  obtain ⟨early, last, read, rfl, rfl, spliced⟩ :=
    opened.tight node found (blockComment_table node bound named)
  have spelled := words_table.1 node bound named
  rw [spells_table.1.symbolsTo found, List.map_append] at spelled
  obtain ⟨begun, star⟩ := List.append_inj' (show _ = ['/'] ++ ['*'] from spelled) rfl
  obtain ⟨first, rfl, slash⟩ := List.map_eq_singleton_iff.mp begun
  have unpointed : ∀ trail, ¬IsPoint ⟨first, trail⟩ := by
    intro trail point
    have isPoint : first.symbol = '.' := point
    simp [slash] at isPoint
  obtain ⟨ends, begins⟩ := Spliced.single eq_backslash_of_continues unpointed spliced
  exact ⟨ends, by rw [List.map_append, begins, slash, star, List.cons_append]⟩

end CLike

namespace Scan

theorem blockComments_of_fits {ρ : Type} [Literal.Reader ρ] {profile : Profile ρ}
    {opens : List Char → Prop} {source : String}
    (fitting : byteLength source.toList ≤ maxOffset → BlockComments profile opens source) :
    BlockComments profile opens source := by
  by_cases fits : byteLength source.toList ≤ maxOffset
  · exact fitting fits
  · obtain ⟨nothing, delivers⟩ := events_of_large profile fits
    exact {
      delivers
      encloses := by simp [tokens, nothing]
      resolves := fun small => absurd small fits }

/-- Block comments end at the right place with the right text when no line of the source can be
continued, and in C in any case, where their markers can be spliced. -/
theorem block_comments :
    (∀ {ρ : Type} [Literal.Reader ρ] {profile : Profile ρ}, profile.Made →
      ¬profile.StartsLiteral '.' → ∀ source : String,
      (profile.options.honorLineContinuation = false ∨
        ∀ symbol ∈ source.toList, (profile.classes.classify symbol).escape = false) →
      BlockComments profile
        (fun opener => profile.operatorKind? (String.ofList opener) = some .blockComment)
        source) ∧
    ∀ source : String, BlockComments CLike.profile CLike.OpensBlock source := by
  constructor
  · intro ρ _ profile made unstarted source unescaped
    apply blockComments_of_fits
    intro fits
    have undotted := (made.sound.not_startsLiteral_iff '.').mp unstarted
    exact blockComments_of_setting fits undotted (setting_of_unescaped made.sound unescaped)
      (opensAs_of_unescaped unescaped)
  · intro source
    apply blockComments_of_fits
    intro fits
    exact blockComments_of_setting fits CLike.dotted.literals (CLike.dotted.setting _)
      (CLike.opensAs source)

/-- A language where the marker that opens comments begins a longer operator. -/
def starProfile : Profile Literal.Stock :=
  (Builder.afterAll {} [.setOptions { honorLineContinuation := false },
    .setBlockComment "(*" "*)", .addOperator "(**="]).profile

theorem starProfile_made : starProfile.Made :=
  ⟨_, rfl⟩

/-- The walk along two stars goes past the marker, so the second star is the first symbol of the
comment.  In C the marker is spliced. -/
theorem block_comments_overshot :
    Encloses starProfile
        (fun opener => starProfile.operatorKind? (String.ofList opener) = some .blockComment)
        "(**x*)" {
          atLineStart := true
          kind := .blockComment
          span := ⟨0, 6⟩
          payload := .comment "*x" } ∧
      [.unexpected ⟨0, 5⟩] <+: events starProfile "(**x)" ∧
      Encloses CLike.profile CLike.OpensBlock "/\\\n**/" {
        atLineStart := true
        kind := .blockComment
        span := ⟨0, 6⟩
        payload := .comment "" } := by
  have unstarted : ¬starProfile.StartsLiteral '.' :=
    (starProfile_made.sound.not_startsLiteral_iff '.').mpr (by decide +kernel)
  have ignored : starProfile.options.honorLineContinuation = false := by decide +kernel
  have plain : ∀ source, BlockComments starProfile _ source := fun source =>
    block_comments.1 starProfile_made unstarted source (Or.inl ignored)
  refine ⟨(plain _).encloses _ (by decide +kernel) rfl, ?_, ?_⟩
  · have arrives : Arrives starProfile "(**x)" [] (.blockComment [] 0 false) true 0 2
        ['*', 'x', ')'] := by
      have reaches := Config.leads_reacted starProfile (some (byteLength "(**x)".toList)) 4
        (opening "(**x)")
      have silent : ((opening "(**x)").reacted starProfile 4).1 = [] := by decide +kernel
      rw [silent] at reaches
      exact ⟨List.nil_prefix, _, _, reaches, by decide +kernel, by decide +kernel,
        by decide +kernel, by decide +kernel⟩
    have unrepeated : Unrepeated starProfile.blockClose := by
      have close : starProfile.blockClose = ['*', ')'] := by decide +kernel
      rintro first rest same
      rw [close] at same
      obtain ⟨rfl, rfl⟩ := List.cons_eq_cons.mp same
      decide
    have resolves := (plain "(**x)").resolves (by decide +kernel) unrepeated arrives
    exact resolves.rejected.mpr (by decide +kernel)
  · exact (block_comments.2 _).encloses _ (by decide +kernel) rfl

end Scan

end Lexing
