import Lexing.Proofs.CommentTexts
import Lexing.Proofs.Markers
import Lexing.Proofs.Origins

/-!
# Line comments

A line comment ends before its line does.  Where such comments only begin at the start of a line,
a marker anywhere else is an operator of its own kind.  All of this is decided when the walk along
the marker ends, which may be some symbols behind it, and the comment is reported later.
-/

namespace Lexing

namespace Scan

variable {ρ : Type} {profile : Profile ρ} {source : String} {state : ScanState ρ}
  {reaction : Reaction ρ} {queue rest : List Fed} {next : Option Fed} {stop : Nat} {token : Token}

/-! ## What is known inside of line comments -/

/-- The comment has not left its line, and it has begun where such comments may. -/
structure OnLine (profile : Profile ρ) (state : ScanState ρ) : Prop where
  inside : ∀ {text}, state.mode.resting = .lineComment text →
    ∀ symbol ∈ text, (profile.classes.classify symbol).linefeed = false
  fresh : ∀ {text}, state.mode.resting = .lineComment text →
    profile.options.lineCommentOnlyAtLineStart = true → state.lineStart = true

theorem onLine_of_outside (outside : ¬state.mode.resting.InComment) : OnLine profile state where
  inside comment := absurd (by rw [comment]; trivial) outside
  fresh comment := absurd (by rw [comment]; trivial) outside

theorem Dwells.onLine (dwells : Dwells profile stop state next reaction)
    (onLine : OnLine profile state) : OnLine profile reaction.state := by
  cases dwells with
  | waits _ before after same =>
      refine ⟨fun comment => ?_, fun comment only => same ▸ onLine.fresh before only⟩
      obtain rfl := Mode.lineComment.inj (after.symm.trans comment)
      exact onLine.inside before
  | @lineGoesOn text fed mode free =>
      have before : state.mode.resting = .lineComment text := by rw [mode]; rfl
      refine ⟨fun comment => ?_, fun _ => onLine.fresh before⟩
      obtain rfl := Mode.lineComment.inj comment
      simpa [free] using onLine.inside before
  | lineEnds => exact onLine_of_outside id
  | blockGoesOn => exact ⟨nofun, nofun⟩
  | blockEnds _ _ _ idle => exact onLine_of_outside (by rw [idle]; exact id)
  | unclosed => exact onLine_of_outside id

theorem Acts.onLine (marked : profile.Marked []) (acts : Acts profile stop state next reaction) :
    OnLine profile reaction.state := by
  cases acts with
  | aside aside => exact onLine_of_outside aside.outside
  | closes ends closed =>
      cases closed with
      | operator => exact onLine_of_outside id
      | demoted => exact onLine_of_outside id
      | lineComment known fresh =>
          refine ⟨fun comment => ?_, fun _ only => ?_⟩
          · obtain rfl := Mode.lineComment.inj comment
            simp
          · exact fresh only (marked.falls ends.found known List.not_mem_nil)
      | blockComment => exact ⟨nofun, nofun⟩

/-! ## Texts of comments -/

/-- The token spans the word in the source, before the other symbols. -/
def Spans (source : String) (token : Token) (word behind : List Char) : Prop :=
  ∃ front, source.toList = front ++ (word ++ behind) ∧
    token.span = ⟨byteLength front, byteLength front + byteLength word⟩

/-- The comment has no line terminator in it, and it has begun where it may. -/
structure LineComment (profile : Profile ρ) (source : String) (token : Token) : Prop where
  text : ∃ content, token.payload = .comment (String.ofList content) ∧
    (∀ symbol ∈ content, (profile.classes.classify symbol).linefeed = false) ∧
    (profile.options.honorLineContinuation = false →
      ∃ marker behind, profile.operatorKind? (String.ofList marker) = some .lineComment ∧
        Spans source token (marker ++ content) behind ∧
        token.text source = String.ofList (marker ++ content) ∧
        ∀ symbol ∈ behind.head?, (profile.classes.classify symbol).linefeed = true)
  fresh : profile.options.lineCommentOnlyAtLineStart = true → token.atLineStart = true

theorem Spliced.eq_of_off (off : profile.options.honorLineContinuation = false)
    {word read : List Located} (spliced : Spliced (fun _ => False) profile word read) :
    read = word :=
  spliced.eq_word fun _ _ continues => absurd continues.1 (by simp [off])

section Off

variable (fits : byteLength source.toList ≤ maxOffset)
  (off : profile.options.honorLineContinuation = false)

include fits

/-- What stands in the source from here on, up to the next symbol or to its end. -/
theorem Ahead.spans {piece : List Located} {symbol : Option Fed}
    (ahead : Ahead source token.span.start (piece ++ (symbol.toList ++ rest).map Fed.toLocated))
    (last : symbol = none → rest = [])
    (stop : token.span.stop = symbol.elim (byteLength source.toList) fun fed => fed.offset) :
    ∃ behind, Spans source token (piece.map Located.symbol) behind ∧
      token.text source = String.ofList (piece.map Located.symbol) ∧
      behind.head? = symbol.map fun fed => fed.symbol := by
  have ends : token.span.stop =
      token.span.start + byteLength (piece.map Located.symbol) := by
    rw [stop]
    exact ahead.border_eq fits last
  obtain ⟨front, behind, whole, length, same⟩ := ahead.parts fits
  refine ⟨behind, ⟨front, whole, ?_⟩, ahead.text fits rfl ends, ?_⟩
  · rw [length, ← ends]
  · have spelled := congrArg (List.map Located.symbol) same
    rw [Located.map_symbol_ofText] at spelled
    rw [← spelled]
    cases symbol with
    | none =>
        obtain rfl := last rfl
        rfl
    | some fed => rfl

include off

/-- Every line comment that is reported is one. -/
theorem Grounded.spans {text : List Char} {symbol : Option Fed}
    (grounded : Grounded (fun _ => False) profile source ⟨state, symbol.toList ++ rest⟩)
    (mode : state.mode = .lineComment text) (last : symbol = none → rest = [])
    (span : token.span = ⟨state.tokenStart, symbol.elim (byteLength source.toList) fun fed =>
      fed.offset⟩) :
    ∃ marker behind, profile.operatorKind? (String.ofList marker) = some .lineComment ∧
      Spans source token (marker ++ text.reverse) behind ∧
      token.text source = String.ofList (marker ++ text.reverse) ∧
      behind.head? = symbol.map fun fed => fed.symbol := by
  have commented := grounded.commented
  unfold Commented at commented
  dsimp only at commented
  rw [mode] at commented
  obtain ⟨marker, opener, content, opens, spelled, ahead⟩ := commented off
  obtain rfl := opens.spliced.eq_of_off off
  rw [show state.tokenStart = token.span.start by rw [span]] at ahead
  obtain ⟨behind, spans, texts, head⟩ := ahead.spans fits last (by rw [span])
  rw [List.map_append, spelled] at spans texts
  refine ⟨opener.map Located.symbol, behind, ?_, spans, texts, head⟩
  rw [Profile.operatorKind?, String.toList_ofList]
  exact opens.registered

/-! ## Demoted markers -/

/-- A marker where its walk ends. -/
theorem EndsWalk.ahead {start : ScanState ρ} {marker : List Located} {again : List Fed}
    {node : NodeId}
    (ends : EndsWalk profile stop state next start marker again node)
    (moment : Moment (fun _ => False) profile source ⟨state, next.toList ++ rest⟩) :
    Ahead source start.tokenStart (marker ++ (again ++ rest).map Fed.toLocated) := by
  rw [List.map_append, ← List.append_assoc, ← ends.parts]
  rcases ends.begins with ⟨idle, fed, rfl, rfl⟩ | ⟨⟨walk, mode⟩, rfl⟩
  · obtain ⟨_, ⟨_, _, standing⟩, _⟩ := moment
    obtain ⟨trail, chain, ahead⟩ := standing.ahead_idle fits idle
    obtain rfl := chain.resolve_right id
    rw [idle]
    exact ahead
  · obtain ⟨read, ahead, recalls⟩ := moment.reads (by simp [mode, Mode.resting])
    dsimp only at ahead recalls
    rw [mode] at ahead recalls
    obtain rfl := Spliced.eq_of_off off recalls
    rw [mode]
    simpa [Mode.pending, Mode.waiting] using ahead

end Off

/-- Where a marker ends. -/
theorem EndsWalk.markerStop_eq (fits : byteLength source.toList ≤ maxOffset)
    {start : ScanState ρ} {marker : List Located} {again : List Fed} {node : NodeId}
    (ends : EndsWalk profile stop state next start marker again node)
    (last : next = none → rest = [])
    (ahead : Ahead source start.tokenStart (marker ++ (again ++ rest).map Fed.toLocated)) :
    markerStop (byteLength source.toList) next again =
      start.tokenStart + byteLength (marker.map Located.symbol) := by
  cases again with
  | cons fed others => exact ahead.offset_eq fits
  | nil =>
      cases next with
      | none =>
          obtain rfl := last rfl
          exact Ahead.length_eq fits (by simpa using ahead)
      | some fed =>
          have parts := ends.parts
          simp only [Option.toList_some, List.map_cons, List.map_nil, List.append_nil] at parts
          rw [← parts] at ahead ⊢
          rw [List.append_assoc] at ahead
          exact ahead.stop_eq fits

/-- The token is a marker of line comments where none may begin. -/
structure Demoted (profile : Profile ρ) (source : String) (token : Token) (marker : String) :
    Prop where
  only : profile.options.lineCommentOnlyAtLineStart = true
  late : token.atLineStart = false
  text : profile.options.honorLineContinuation = false → token.text source = marker

/-! ## Reports -/

/-- Inside of comments no operator is reported. -/
theorem Dwells.not_operator (dwells : Dwells profile stop state next reaction)
    (told : token ∈ tokensOf reaction.reports) : token.kind.isOperator = false := by
  rcases dwells.told told with ⟨_, _, _, rfl⟩ | ⟨_, _, _, _, _, _, _, rfl⟩ | rejected
  · exact (show Kind.lineComment.isOperator = false by decide)
  · exact (show Kind.blockComment.isOperator = false by decide)
  · rw [rejected]
    decide

variable [Literal.Reader ρ]

theorem Reaches.onLine (sound : profile.Sound) (marked : profile.Marked []) {past : List Report}
    {config : Config ρ} (reaches : Reaches profile source past config) :
    Sane profile config.state ∧ OnLine profile config.state := by
  have keeps : Keeps profile (some (byteLength source.toList)) fun config =>
      Sane profile config.state ∧ OnLine profile config.state := by
    rintro ⟨state, queue⟩ reaction rest ⟨sane, onLine⟩ next
    refine ⟨keeps_sane sound _ _ _ _ sane next, ?_⟩
    obtain ⟨_, _, _, dwells | ⟨_, acts⟩⟩ := next_moves sound sane next
    · exact dwells.onLine onLine
    · exact acts.onLine marked
  refine Leads.keeps reaches keeps ⟨⟨ScanState.valid_idle rfl, rfl, by simp [opening]⟩, ?_⟩
  exact onLine_of_outside id

/-- A line comment is reported where its line or the input ends. -/
theorem next_lineComment (sound : profile.Sound) (sane : Sane profile state)
    (nextReaction : nextReaction? profile (some stop) state queue = some (reaction, rest))
    (told : token ∈ tokensOf reaction.reports) (kind : token.kind = .lineComment) :
    ∃ text symbol, state.mode = .lineComment text ∧ queue = Option.toList symbol ++ rest ∧
      (symbol = none → rest = []) ∧
      (∀ fed ∈ symbol, (profile.classes.classify fed.symbol).linefeed = true) ∧
      token = {
        atLineStart := state.lineStart
        kind := .lineComment
        span := ⟨state.tokenStart, symbol.elim stop fun fed => fed.offset⟩
        payload := commentPayload text } := by
  obtain ⟨symbol, same, last, dwells⟩ :=
    next_dwells sound sane nextReaction told (by rw [kind]; decide)
  rcases dwells.told told with ⟨text, mode, ends, tokenEq⟩ | ⟨_, _, _, _, _, _, _, rfl⟩ | rejected
  · exact ⟨text, symbol, mode, same, last, ends, tokenEq⟩
  · exact absurd kind (show Kind.blockComment ≠ .lineComment by decide)
  · exact absurd (rejected.symm.trans kind) (by decide)

section Reactions

variable {strict : Prop} {past : List Report} (fits : byteLength source.toList ≤ maxOffset)
  (sound : profile.Sound) (reaches : Reaches profile source past ⟨state, queue⟩)
  (nextReaction : nextReaction? profile (some (byteLength source.toList)) state queue =
    some (reaction, rest))
  (told : token ∈ tokensOf reaction.reports)

include fits sound reaches nextReaction told

theorem lineComment_of_told (marked : profile.Marked []) (kind : token.kind = .lineComment) :
    LineComment profile source token := by
  obtain ⟨sane, onLine⟩ := reaches.onLine sound marked
  obtain ⟨text, symbol, mode, rfl, last, ends, tokenEq⟩ :=
    next_lineComment sound sane nextReaction told kind
  have resting : state.mode.resting = .lineComment text := by
    rw [mode]
    rfl
  refine ⟨⟨text.reverse, by rw [tokenEq]; rfl, ?_, fun off => ?_⟩, fun only => ?_⟩
  · simpa using onLine.inside resting
  · have grounded := reaches.grounded fits (setting_of_unescaped sound (Or.inl off))
    obtain ⟨marker, behind, registered, spans, texts, head⟩ :=
      grounded.spans fits off mode last (congrArg Token.span tokenEq)
    refine ⟨marker, behind, registered, spans, texts, ?_⟩
    rw [head]
    intro _ member
    obtain ⟨fed, isNext, rfl⟩ := Option.map_eq_some_iff.mp member
    exact ends fed isNext
  · rw [tokenEq]
    exact onLine.fresh resting only

theorem demoted_of_told (marked : profile.Marked []) (spells : profile.Spells [] strict)
    (isStrict : strict) {marker : String}
    (known : profile.fallbackKind? marker = some token.kind) :
    Demoted profile source token marker := by
  have inverse := spells.inverse sound
  have only : ∀ {sequence : String}, profile.Answers strict sequence token.kind →
      sequence = marker := by
    rintro sequence ⟨spelling, described, _, same⟩
    obtain ⟨other, describedToo, _, sameToo⟩ := inverse.fallback known
    rw [← same isStrict, ← sameToo isStrict]
    exact Option.some.inj (described.symm.trans describedToo)
  obtain ⟨node, walked, fallback⟩ := spells.fallback_iff.mp known
  have operator := sound.fallbackOperator fallback
  obtain ⟨sane, _⟩ := reaches.onLine sound marked
  obtain ⟨symbol, rfl, last, dwells | ⟨_, acts⟩⟩ := next_moves sound sane nextReaction
  · exact absurd operator (by simp [dwells.not_operator told])
  cases acts with
  | aside aside => exact absurd operator (by simp [(aside.told token told).1])
  | @closes start word again node closed ends isClosed =>
      have spelled : (String.ofList (word.map Located.symbol)).toList = word.map Located.symbol :=
        String.toList_ofList
      cases isClosed with
      | @operator kind named _ =>
          obtain rfl := List.mem_singleton.mp told
          have ended : profile.operators.kindOf? (String.ofList (word.map Located.symbol)).toList =
              some kind := by
            rw [spelled, Trie.kindOf?_of_find? ends.found, named]
          have answers := inverse.ended (by simp [Profile.tries]) ended
            (Kind.isComment_of_isOperator operator)
          obtain rfl := only answers
          have comment := spells.operatorKind?_of_fallback walked fallback
          rw [spells.operatorKind?_eq, ended] at comment
          obtain rfl : kind = .lineComment := Option.some.inj comment
          exact absurd operator (show ¬Kind.lineComment.isOperator = true by decide)
      | @demoted kind present off late =>
          obtain rfl := List.mem_singleton.mp told
          have fallsBack : profile.fallbackKind? (String.ofList (word.map Located.symbol)) =
              some kind := spells.fallback_iff.mpr ⟨node, by rw [spelled, ends.found], present⟩
          obtain rfl := only (inverse.fallback fallsBack)
          refine ⟨off, late, fun honored => ?_⟩
          have moment := reaches.moment fits (setting_of_unescaped sound (Or.inl honored))
          have ahead := ends.ahead fits honored moment
          exact ahead.text fits rfl (ends.markerStop_eq fits last ahead)
      | lineComment | blockComment => exact absurd told List.not_mem_nil

end Reactions

/-! ## Whole sources -/

/-- The line comments of a source, and the markers of such comments that begin none. -/
structure LineComments (profile : Profile ρ) (strict : Prop) (source : String) : Prop where
  delivers : ∀ {σ : Type} [Sink σ] (sink : σ),
    (tokenize profile {} sink source).sink = (Sink.sendAll sink (events profile source)).sink
  comments : ∀ token ∈ tokens profile source, token.kind = .lineComment →
    LineComment profile source token
  demoted : strict → ∀ token ∈ tokens profile source, ∀ marker,
    profile.fallbackKind? marker = some token.kind → Demoted profile source token marker

/-- Line comments stay on their lines and begin where they may, in every profile that accepted
calls build.  This also holds of what is reported by scans that do not come to an end. -/
theorem line_comments {calls : List (Build.Call ρ)} {builder : Builder ρ}
    (built : Build.Accepts (calls.forM Build.Call.perform) {} () builder) (source : String) :
    LineComments builder.profile (∀ call ∈ calls, call ≠ .allowKindReuse true) source := by
  have sound : builder.Sound :=
    (Build.keeps_forM Build.Call.perform_keeps calls).accepted Builder.fresh_sound built
  have spells := (Build.settles_forM id []).accepted (Build.fresh_spells _) built
  have marked := marked_of_accepted built
  by_cases fits : byteLength source.toList ≤ maxOffset
  case neg =>
    obtain ⟨nothing, _⟩ := events_of_large builder.profile fits
    exact ⟨fun sink => tokenize_sink _ _ sink source, by simp [tokens, nothing],
      by simp [tokens, nothing]⟩
  refine ⟨fun sink => tokenize_sink _ _ sink source, fun token member kind => ?_,
    fun isStrict token member marker known => ?_⟩
  · have inner : token.kind ≠ .fin := by
      rw [kind]
      decide
    obtain ⟨_, _, _, _, _, reaches, next, told⟩ := exists_reaction_of_token member inner
    exact lineComment_of_told fits sound.profile reaches next told marked kind
  · have inner : token.kind ≠ .fin := by
      intro fin
      obtain ⟨_, _, fallback⟩ := spells.profile.fallback_iff.mp known
      have operator := sound.profile.fallbackOperator fallback
      rw [fin] at operator
      exact absurd operator (by decide)
    obtain ⟨_, _, _, _, _, reaches, next, told⟩ := exists_reaction_of_token member inner
    exact demoted_of_told fits sound.profile reaches next told marked spells.profile isStrict known

/-- Line comments that only begin at the start of a line, with a marker that begins a longer
operator. -/
def slashCalls : List (Build.Call Literal.Stock) :=
  [.setOptions { honorLineContinuation := false, lineCommentOnlyAtLineStart := true },
    .addLineComment "//", .addOperator "//!="]

/-- The walk along the marker goes past it, so what is left of the walk is the first symbol of the
comment.  Inside of a line the marker is an operator. -/
theorem line_comments_overshot : ∃ builder : Builder Literal.Stock,
    Build.Accepts (slashCalls.forM Build.Call.perform) {} () builder ∧
      LineComment builder.profile "//!a\nb//" {
        atLineStart := true
        kind := .lineComment
        span := ⟨0, 4⟩
        payload := .comment "!a" } ∧
      Demoted builder.profile "//!a\nb//" {
        atLineStart := false
        kind := .operator 0
        span := ⟨6, 8⟩ } "//" := by
  have built : Build.Accepts (slashCalls.forM Build.Call.perform) {} () _ :=
    ⟨by decide +kernel, rfl⟩
  have strict : ∀ call ∈ slashCalls, call ≠ .allowKindReuse true := by
    simp [slashCalls]
  have lines := line_comments built "//!a\nb//"
  exact ⟨_, built, lines.comments _ (by decide +kernel) rfl,
    lines.demoted strict _ (by decide +kernel) "//" (by decide +kernel)⟩

end Scan

end Lexing
