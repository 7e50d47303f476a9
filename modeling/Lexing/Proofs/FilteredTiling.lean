import Lexing.Proofs.Passing

/-!
# Filters keep a source covered

The stock filters buffer tokens, merge them, take them apart and put control tokens
between them.  Whatever a filter has sent on so far, together with what it still holds
back, covers the same part of the source as the tokens it has seen: one step keeps this,
so a whole stream does.  The token at the end makes every filter let go of what it holds.
-/

namespace Lexing

/-! ## Covers with control tokens -/

/-- Tokens from one offset to another: those that are no control tokens tile the range,
and the others are points where they stand and do not mark the end of the input. -/
def Laid : Nat → List Token → Nat → Prop
  | start, [], stop => start = stop
  | start, token :: rest, stop =>
      if token.kind.isControl then
        token.kind ≠ .fin ∧ token.span = .point start ∧ Laid start rest stop
      else token.span.start = start ∧ start < token.span.stop ∧ Laid token.span.stop rest stop

def textTokens (tokens : List Token) : List Token :=
  tokens.filter fun token => !token.kind.isControl

/-- A complete stream of tokens of a text: only the last one marks the end of the input,
those that are no control tokens tile the text, and every control token is a point between
two of them. -/
structure Complete (tokens : List Token) (length : Nat) : Prop where
  closed : ∃ body last, tokens = body ++ [last] ∧ last.kind = .fin ∧ last.span = .point length ∧
    ∀ token ∈ body, token.kind ≠ .fin
  tiles : Tiles 0 (textTokens tokens) length
  points : ∀ before token after, tokens = before ++ token :: after →
    token.kind.isControl = true → ∃ offset, token.span = .point offset ∧
      Tiles 0 (textTokens before) offset ∧ Tiles offset (textTokens after) length

variable {start middle stop : Nat} {token : Token} {first second tokens : List Token}

theorem laid_append :
    Laid start (first ++ second) stop ↔ ∃ middle, Laid start first middle ∧
      Laid middle second stop := by
  induction first generalizing start with
  | nil => simp [Laid]
  | cons token rest ih =>
      rw [List.cons_append, Laid]
      simp only [ih, Laid]
      split <;> simp [and_assoc]

theorem laid_control (control : token.kind.isControl = true) :
    Laid start [token] stop ↔ token.kind ≠ .fin ∧ token.span = .point start ∧ start = stop := by
  simp [Laid, control]

theorem laid_marker {kind : Kind} {atLineStart : Bool} (control : kind.isControl = true)
    (named : kind ≠ .fin) : Laid start [{ atLineStart, kind, span := .point start }] start :=
  (laid_control control).mpr ⟨named, rfl, rfl⟩

theorem laid_text (text : token.kind.isControl = false) :
    Laid start [token] stop ↔
      token.span.start = start ∧ start < token.span.stop ∧ token.span.stop = stop := by
  simp [Laid, text]

theorem laid_of_tiles (text : ∀ token ∈ tokens, token.kind.isControl = false)
    (tiles : Tiles start tokens stop) : Laid start tokens stop := by
  induction tokens generalizing start with
  | nil => exact tiles
  | cons token rest ih =>
      simp only [Laid, text token (by simp)]
      exact ⟨tiles.1, tiles.2.1, ih (fun other member => text other (by simp [member])) tiles.2.2⟩

theorem Laid.tiles (laid : Laid start tokens stop) : Tiles start (textTokens tokens) stop := by
  induction tokens generalizing start with
  | nil => exact laid
  | cons token rest ih =>
      rw [Laid] at laid
      cases control : token.kind.isControl with
      | true =>
          rw [if_pos control] at laid
          simpa [textTokens, control] using ih laid.2.2
      | false =>
          rw [if_neg (by simp [control])] at laid
          have following := ih laid.2.2
          rw [textTokens] at following ⊢
          simpa [control, Tiles, laid.1, laid.2.1] using following

theorem Laid.ne_fin (laid : Laid start tokens stop) : ∀ token ∈ tokens, token.kind ≠ .fin := by
  induction tokens generalizing start with
  | nil => simp
  | cons token rest ih =>
      rw [Laid] at laid
      split at laid
      case isTrue => exact List.forall_mem_cons.mpr ⟨laid.1, ih laid.2.2⟩
      case isFalse text =>
        refine List.forall_mem_cons.mpr ⟨?_, ih laid.2.2⟩
        rintro kind
        exact text (by rw [kind]; decide)

theorem Laid.le (laid : Laid start tokens stop) : start ≤ stop := by
  induction tokens generalizing start with
  | nil => exact Nat.le_of_eq laid
  | cons token rest ih =>
      rw [Laid] at laid
      split at laid
      · exact ih laid.2.2
      · exact Nat.le_trans (Nat.le_of_lt laid.2.1) (ih laid.2.2)

theorem Laid.start_eq (laid : Laid start [token] stop) : token.span.start = start := by
  cases control : token.kind.isControl with
  | true => rw [((laid_control control).mp laid).2.1, Span.point]
  | false => exact ((laid_text control).mp laid).1

theorem textTokens_append (first second : List Token) :
    textTokens (first ++ second) = textTokens first ++ textTokens second :=
  List.filter_append ..

/-- Tokens that are laid over a text, with one behind them that marks its end. -/
theorem Laid.complete {length : Nat} {last : Token} (laid : Laid 0 tokens length)
    (fin : last.kind = .fin) (span : last.span = .point length) :
    Complete (tokens ++ [last]) length where
  closed := ⟨tokens, last, rfl, fin, span, laid.ne_fin⟩
  tiles := by
    have control : last.kind.isControl = true := by rw [fin]; decide
    rw [textTokens_append]
    simpa [textTokens, control] using laid.tiles
  points := by
    intro before token after cut control
    have last_control : last.kind.isControl = true := by rw [fin]; decide
    obtain rfl | ⟨others, final, rfl⟩ := List.eq_nil_or_concat after
    · obtain ⟨rfl, same⟩ := List.append_inj' cut rfl
      obtain rfl : last = token := by simpa using same
      exact ⟨length, span, laid.tiles, rfl⟩
    · rw [List.concat_eq_append, ← List.cons_append, ← List.append_assoc] at cut
      obtain ⟨rfl, same⟩ := List.append_inj' cut rfl
      obtain rfl : last = final := by simpa using same
      obtain ⟨offset, early, late⟩ := laid_append.mp laid
      rw [Laid, if_pos control] at late
      refine ⟨offset, late.2.1, early.tiles, ?_⟩
      rw [List.concat_eq_append, textTokens_append]
      simpa [textTokens, last_control] using late.2.2.tiles

/-! ## What is asked of the filters -/

namespace StockFilter

/-- A filter as it is made, before it has seen any token. -/
def Initial : StockFilter → Prop
  | .suffixGlue glue => glue.held = none
  | .modeGate gate => gate.active = false
  | .lineDirective directive => directive.active = false
  | .sequenceComposer composer => composer.held = []

/-- A filter that makes no control token of a token with text: a run does not become one,
and a gate takes none apart. -/
def Plain : StockFilter → Prop
  | .modeGate gate => ∀ entry ∈ gate.gated, entry.1.isControl = false
  | .sequenceComposer composer => composer.compound.isControl = false
  | _ => True

/-- The spelling of a token that the filter takes apart: a gate whose mode is off does so
with its gated kinds. -/
def spelling? : StockFilter → Token → Option (List Char)
  | .modeGate gate, token =>
      if token.kind = gate.enter ∨ token.kind = gate.exit ∨ gate.active then none
      else (gate.gated.lookup token.kind).filter fun spelling => !spelling.isEmpty
  | _, _ => none

/-- Every token of a stream that the filter takes apart is as long as its spelling. -/
def Roomy (filter : StockFilter) : List Token → Prop
  | [] => True
  | token :: rest =>
      (∀ spelling ∈ filter.spelling? token, byteLength spelling ≤ token.span.length) ∧
        Roomy (Filter.react filter token).accepted rest

/-- The same of all filters, the first one of the list first, and the streams that they
see. -/
def AllRoomy : List StockFilter → List Token → Prop
  | [], _ => True
  | filter :: behind, tokens =>
      filter.Roomy tokens ∧ AllRoomy behind (Filter.pass filter tokens).1

instance decidableRoomy : (filter : StockFilter) → (tokens : List Token) →
    Decidable (filter.Roomy tokens)
  | _, [] => .isTrue trivial
  | filter, token :: rest =>
      have := decidableRoomy (Filter.react filter token).accepted rest
      inferInstanceAs (Decidable (_ ∧ _))

instance decidableAllRoomy : (filters : List StockFilter) → (tokens : List Token) →
    Decidable (AllRoomy filters tokens)
  | [], _ => .isTrue trivial
  | filter :: behind, tokens =>
      have := decidableAllRoomy behind (Filter.pass filter tokens).1
      inferInstanceAs (Decidable (_ ∧ _))

def held : StockFilter → List Token
  | .suffixGlue glue => glue.held.toList
  | .modeGate _ => []
  | .lineDirective _ => []
  | .sequenceComposer composer => composer.held

theorem Initial.held {filter : StockFilter} (initial : filter.Initial) : filter.held = [] := by
  cases filter with
  | suffixGlue glue => simp [StockFilter.held, show glue.held = none from initial]
  | modeGate gate => rfl
  | lineDirective directive => rfl
  | sequenceComposer composer => exact initial

end StockFilter

/-! ## One token -/

/-- What a filter has sent on and what it then holds covers a range, and it only holds tokens
with text. -/
structure StockFilter.Keeps (filter : StockFilter) (sent : List Token) (start stop : Nat) :
    Prop where
  laid : Laid start (sent ++ filter.held) stop
  text : ∀ token ∈ filter.held, token.kind.isControl = false
  plain : filter.Plain

theorem SuffixGlue.glue_laid {number suffix : Token} (text : number.kind.isControl = false)
    (isSuffix : isSuffix number suffix = true) (laid : Laid start [number, suffix] stop) :
    Laid start [glue number suffix] stop := by
  obtain ⟨identifier, adjacent⟩ : suffix.kind = .identifier ∧
      suffix.span.start = number.span.stop := by
    simpa [SuffixGlue.isSuffix] using isSuffix
  have suffixText : suffix.kind.isControl = false := by rw [identifier]; decide
  simp only [Laid, text, suffixText, Bool.false_eq_true, if_false] at laid
  obtain ⟨begins, nonempty, _, more, ends⟩ := laid
  have glued : (glue number suffix).kind.isControl = false := text
  refine (laid_text glued).mpr ?_
  simp only [glue, Span.merge]
  omega

theorem ModeGate.rawTokens_laid {spelling : List Char} (fits : stop ≤ maxOffset)
    (nonempty : spelling ≠ []) (room : start + byteLength spelling ≤ stop) (positive : start < stop)
    (atLineStart : Bool) :
    Laid start ((rawTokens stop start atLineStart spelling).filterMap Event.token?) stop := by
  have raw : Kind.rawChar.isControl = false := by decide
  induction spelling generalizing start atLineStart with
  | nil => contradiction
  | cons symbol rest ih =>
      cases rest with
      | nil => exact (laid_text raw).mpr ⟨rfl, positive, rfl⟩
      | cons second others =>
          have size := second.utf8Size_pos
          have own := symbol.utf8Size_pos
          simp only [byteLength] at room ih
          have next : min (symbolEnd symbol start) stop = start + symbol.utf8Size := by
            unfold symbolEnd
            omega
          simp only [rawTokens, next]
          have following : Laid (start + symbol.utf8Size) _ stop :=
            ih (by simp) (by omega) (by omega) false
          simp only [List.filterMap_cons, Event.token?, Laid, raw]
          exact ⟨trivial, by omega, following⟩

theorem Span.foldl_merge {span : Span} (proper : span.start ≤ span.stop)
    (tiles : Tiles span.stop tokens stop) :
    tokens.foldl (fun span token => span.merge token.span) span = ⟨span.start, stop⟩ := by
  induction tokens generalizing span with
  | nil =>
      obtain rfl : span.stop = stop := tiles
      rfl
  | cons token rest ih =>
      obtain ⟨begins, nonempty, onward⟩ := tiles
      have merged : span.merge token.span = ⟨span.start, token.span.stop⟩ := by
        simp only [Span.merge, Span.mk.injEq]
        omega
      rw [List.foldl_cons, merged]
      exact @ih ⟨span.start, token.span.stop⟩ (by dsimp only; omega) onward

theorem SequenceComposer.compose_laid {filter : SequenceComposer} {head : Token}
    (compound : filter.compound.isControl = false)
    (text : ∀ token ∈ head :: tokens, token.kind.isControl = false)
    (laid : Laid start (head :: tokens) stop) : Laid start [filter.compose head tokens] stop := by
  have tiles := laid.tiles
  have whole : textTokens (head :: tokens) = head :: tokens :=
    List.filter_eq_self.mpr fun token member => by simp [text token member]
  rw [whole] at tiles
  obtain ⟨begins, nonempty, onward⟩ := tiles
  have composed : (filter.compose head tokens).kind.isControl = false := compound
  have bound := (laid_of_tiles (fun token member => text token (by simp [member])) onward).le
  refine (laid_text composed).mpr ?_
  rw [compose, Span.foldl_merge (by omega) onward]
  exact ⟨begins, by dsimp only; omega, rfl⟩

theorem SuffixGlue.Answers.keeps {filter after : SuffixGlue} {sent : List Token}
    (answers : filter.Answers token sent after)
    (text : ∀ token ∈ (StockFilter.suffixGlue filter).held, token.kind.isControl = false)
    (laid : Laid start ((StockFilter.suffixGlue filter).held ++ [token]) stop) :
    (StockFilter.suffixGlue after).Keeps sent start stop := by
  cases answers with
  | @glue number held isSuffix =>
      have number : number.kind.isControl = false := text _ (by simp [StockFilter.held, held])
      simp only [StockFilter.held, held] at laid
      exact ⟨SuffixGlue.glue_laid number isSuffix laid, by simp [StockFilter.held], trivial⟩
  | hold number =>
      have own : token.kind.isControl = false := Kind.isControl_of_isNumber number
      exact ⟨laid, by simpa [StockFilter.held] using own, trivial⟩
  | send => exact ⟨by simpa [StockFilter.held] using laid, by simp [StockFilter.held], trivial⟩

theorem ModeGate.Answers.keeps {gate after : ModeGate} {sent : List Token}
    (answers : gate.Answers token sent after) (plain : (StockFilter.modeGate gate).Plain)
    (fits : stop ≤ maxOffset)
    (room : ∀ spelling ∈ (StockFilter.modeGate gate).spelling? token,
      byteLength spelling ≤ token.span.length)
    (laid : Laid start [token] stop) : (StockFilter.modeGate after).Keeps sent start stop := by
  cases answers with
  | pass | unspelled =>
      exact ⟨by simpa [StockFilter.held] using laid, by simp [StockFilter.held], plain⟩
  | @demote spelling inactive notEnter notExit listed nonempty =>
      obtain ⟨_, _, entries, _⟩ := List.lookup_eq_some_iff.mp listed
      have text : token.kind.isControl = false := plain (token.kind, spelling) (by simp [entries])
      obtain ⟨begins, positive, ends⟩ := (laid_text text).mp laid
      have rewritten : (StockFilter.modeGate gate).spelling? token = some spelling := by
        simp [StockFilter.spelling?, inactive, notEnter, notExit, listed, nonempty]
      have enough := room spelling rewritten
      rw [Span.length] at enough
      have raw : Laid start _ stop :=
        rawTokens_laid fits nonempty (by omega) (by omega) token.atLineStart
      rw [← begins, ← ends] at raw
      refine ⟨?_, by simp [StockFilter.held], plain⟩
      rw [StockFilter.held, List.append_nil, ← begins, ← ends]
      exact raw

theorem LineDirective.Answers.keeps {filter after : LineDirective} {sent : List Token}
    (answers : filter.Answers token sent after) (laid : Laid start [token] stop) :
    (StockFilter.lineDirective after).Keeps sent start stop := by
  obtain rfl : token.span.start = start := laid.start_eq
  refine ⟨?_, by simp [StockFilter.held], trivial⟩
  rw [StockFilter.held, List.append_nil]
  cases answers with
  | close => exact laid_append.mpr ⟨_, laid_marker (by decide) (by decide), laid⟩
  | begin => exact laid_append.mpr ⟨_, laid_marker (by decide) (by decide), laid⟩
  | pass => exact laid

theorem SequenceComposer.Answers.keeps {filter after : SequenceComposer} {sent : List Token}
    (answers : filter.Answers token sent after)
    (plain : (StockFilter.sequenceComposer filter).Plain)
    (text : ∀ token ∈ filter.held, token.kind.isControl = false)
    (laid : Laid start (filter.held ++ [token]) stop) :
    (StockFilter.sequenceComposer after).Keeps sent start stop := by
  cases answers with
  | @hold _ run held own =>
      rw [held] at laid text
      refine ⟨by simpa [StockFilter.held] using laid, ?_, plain⟩
      simp only [StockFilter.held, List.mem_append, List.mem_singleton]
      rintro other (member | rfl)
      · exact text other (by simp [member])
      · exact own
  | @compose _ run rest head held own whole =>
      rw [held, List.append_assoc, whole] at laid
      obtain ⟨middle, early, late⟩ := laid_append.mp laid
      have composed := compose_laid plain (fun other member => ?_) late
      · refine ⟨?_, by simp [StockFilter.held, cleared], plain⟩
        simpa [StockFilter.held, cleared] using laid_append.mpr ⟨middle, early, composed⟩
      · rw [← whole, List.mem_append, List.mem_singleton] at member
        rcases member with member | rfl
        · exact text other (by simp [held, member])
        · exact own
  | send =>
      exact ⟨by simpa [StockFilter.held, cleared] using laid, by simp [StockFilter.held, cleared],
        plain⟩

/-- An answer to a token that does not mark the end of the input keeps the cover. -/
theorem StockFilter.react_keeps {filter : StockFilter} (plain : filter.Plain)
    (text : ∀ token ∈ filter.held, token.kind.isControl = false) (fits : stop ≤ maxOffset)
    (room : ∀ spelling ∈ filter.spelling? token, byteLength spelling ≤ token.span.length)
    (laid : Laid start (filter.held ++ [token]) stop) :
    (Filter.react filter token).accepted.Keeps (Filter.react filter token).sent start stop := by
  cases filter with
  | suffixGlue filter => exact (filter.answers token).keeps text laid
  | modeGate gate => exact (gate.answers token).keeps plain fits room laid
  | lineDirective filter => exact (filter.answers token).keeps laid
  | sequenceComposer filter => exact (filter.answers token).keeps plain text laid

/-! ## The end of the input -/

/-- A filter has let go of all that it held: what it has sent on covers a range, with the
last token behind it. -/
structure StockFilter.Releases (filter : StockFilter) (sent : List Token) (last : Token)
    (start stop : Nat) : Prop where
  laid : ∃ front, sent = front ++ [last] ∧ Laid start front stop
  held : filter.held = []

section Fin

variable {sent : List Token} (fin : token.kind = .fin) (span : token.span = .point stop)

include fin

theorem isControl_of_fin : token.kind.isControl = true := by
  rw [fin]
  decide

theorem SuffixGlue.Answers.releases {filter after : SuffixGlue}
    (answers : filter.Answers token sent after)
    (laid : Laid start (StockFilter.suffixGlue filter).held stop) :
    (StockFilter.suffixGlue after).Releases sent token start stop := by
  cases answers with
  | glue _ isSuffix =>
      have identifier : token.kind = .identifier := by
        simp only [SuffixGlue.isSuffix, Bool.and_eq_true, decide_eq_true_eq] at isSuffix
        exact isSuffix.1
      rw [fin] at identifier
      exact absurd identifier (by decide)
  | hold number =>
      have text := Kind.isControl_of_isNumber number
      rw [isControl_of_fin fin] at text
      contradiction
  | send => exact ⟨⟨filter.held.toList, rfl, laid⟩, rfl⟩

theorem ModeGate.Answers.releases {gate after : ModeGate}
    (answers : gate.Answers token sent after) (plain : (StockFilter.modeGate gate).Plain) :
    (StockFilter.modeGate after).Releases sent token stop stop := by
  cases answers with
  | pass | unspelled => exact ⟨⟨[], rfl, rfl⟩, rfl⟩
  | @demote spelling _ _ _ listed _ =>
      obtain ⟨_, _, entries, _⟩ := List.lookup_eq_some_iff.mp listed
      have text : token.kind.isControl = false := plain (token.kind, spelling) (by simp [entries])
      rw [isControl_of_fin fin] at text
      contradiction

omit fin in
include span in
theorem LineDirective.Answers.releases {filter after : LineDirective}
    (answers : filter.Answers token sent after) :
    (StockFilter.lineDirective after).Releases sent token stop stop := by
  obtain rfl : token.span.start = stop := by
    rw [span]
    rfl
  cases answers with
  | close => exact ⟨⟨[_], rfl, laid_marker (by decide) (by decide)⟩, rfl⟩
  | begin => exact ⟨⟨[_], rfl, laid_marker (by decide) (by decide)⟩, rfl⟩
  | pass => exact ⟨⟨[], rfl, rfl⟩, rfl⟩

theorem SequenceComposer.Answers.releases {filter after : SequenceComposer}
    (answers : filter.Answers token sent after) (laid : Laid start filter.held stop) :
    (StockFilter.sequenceComposer after).Releases sent token start stop := by
  cases answers with
  | hold _ text | compose _ text _ =>
      rw [isControl_of_fin fin] at text
      contradiction
  | send => exact ⟨⟨filter.held, rfl, laid⟩, rfl⟩

include span in
/-- At the end of the input a filter lets go of all that it holds. -/
theorem StockFilter.react_releases {filter : StockFilter} (plain : filter.Plain)
    (laid : Laid start filter.held stop) :
    (Filter.react filter token).accepted.Releases (Filter.react filter token).sent token start
      stop := by
  cases filter with
  | suffixGlue filter => exact (filter.answers token).releases fin laid
  | modeGate gate =>
      obtain rfl : start = stop := laid
      exact (gate.answers token).releases fin plain
  | lineDirective filter =>
      obtain rfl : start = stop := laid
      exact (filter.answers token).releases span
  | sequenceComposer filter => exact (filter.answers token).releases fin laid

end Fin

/-! ## Whole streams -/

namespace StockFilter

/-- A filter that may hold tokens already keeps the cover of a stream, up to what it holds
afterwards. -/
theorem pass_keeps {filter : StockFilter} (plain : filter.Plain)
    (text : ∀ token ∈ filter.held, token.kind.isControl = false) (fits : stop ≤ maxOffset)
    (last : Token) (room : filter.Roomy (tokens ++ [last]))
    (laid : Laid start (filter.held ++ tokens) stop) :
    (Filter.pass filter tokens).2.Keeps (Filter.pass filter tokens).1 start stop := by
  induction tokens generalizing filter start with
  | nil => exact ⟨by simpa [Filter.pass] using laid, text, plain⟩
  | cons token rest ih =>
      rw [← List.singleton_append, ← List.append_assoc] at laid
      obtain ⟨middle, early, late⟩ := laid_append.mp laid
      have bound := late.le
      obtain ⟨sent, holds, stays⟩ := react_keeps plain text (by omega) room.1 early
      obtain ⟨between, sent, holding⟩ := laid_append.mp sent
      have following := ih stays holds room.2 (laid_append.mpr ⟨middle, holding, late⟩)
      refine ⟨?_, following.text, following.plain⟩
      rw [Filter.pass, List.append_assoc]
      exact laid_append.mpr ⟨between, sent, following.laid⟩

/-- A filter that holds nothing makes a complete stream of a stream whose only control token
is the last one, and then holds nothing again. -/
theorem pass_releases {filter : StockFilter} {last : Token} (plain : filter.Plain)
    (empty : filter.held = []) (fits : stop ≤ maxOffset) (fin : last.kind = .fin)
    (span : last.span = .point stop) (room : filter.Roomy (tokens ++ [last]))
    (laid : Laid start tokens stop) :
    (Filter.pass filter (tokens ++ [last])).2.Releases (Filter.pass filter (tokens ++ [last])).1
      last start stop := by
  have kept := pass_keeps plain (by simp [empty]) fits last room (by simpa [empty] using laid)
  obtain ⟨middle, early, holding⟩ := laid_append.mp kept.laid
  obtain ⟨⟨front, sent, laid⟩, none⟩ := react_releases fin span kept.plain holding
  rw [Filter.pass_append, Filter.pass_singleton]
  refine ⟨⟨(Filter.pass filter tokens).1 ++ front, ?_, laid_append.mpr ⟨middle, early, laid⟩⟩, none⟩
  rw [sent, List.append_assoc]

/-- The same of many filters. -/
theorem passAll_releases {filters : List StockFilter} {last : Token}
    (filtering : ∀ filter ∈ filters, filter.Plain ∧ filter.held = []) (fits : stop ≤ maxOffset)
    (fin : last.kind = .fin) (span : last.span = .point stop)
    (room : AllRoomy filters (tokens ++ [last])) (laid : Laid start tokens stop) :
    (∃ front, (Filter.passAll filters (tokens ++ [last])).1 = front ++ [last] ∧
        Laid start front stop) ∧
      ∀ filter ∈ (Filter.passAll filters (tokens ++ [last])).2, filter.held = [] := by
  induction filters generalizing tokens with
  | nil => exact ⟨⟨tokens, rfl, laid⟩, by simp [Filter.passAll]⟩
  | cons filter behind ih =>
      obtain ⟨⟨plain, empty⟩, others⟩ := List.forall_mem_cons.mp filtering
      obtain ⟨⟨front, sent, passed⟩, none⟩ :=
        pass_releases plain empty fits fin span room.1 laid
      have onward := room.2
      rw [sent] at onward
      obtain ⟨complete, after⟩ := ih others onward passed
      simp only [Filter.passAll, sent]
      exact ⟨complete, List.forall_mem_cons.mpr ⟨none, after⟩⟩

end StockFilter

end Lexing
