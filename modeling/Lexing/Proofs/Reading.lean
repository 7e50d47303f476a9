import Lexing.Proofs.Absorption
import Lexing.Proofs.Splices
import Lexing.Proofs.TrieContents

/-!
# What was read since a token began

While the machine reads a token, the symbols of the source from the start of the token on are
those that it has read, then those that it holds back behind an escape symbol, and then those
that are still to be fed.  So what a mode knows about the symbols that it has read can be
carried along a scan: every reaction only moves the borders between these parts.  When a token
is reported, its text is what was read up to the symbols that are given back.
-/

namespace Lexing

namespace Scan

variable {ρ : Type} {profile : Profile ρ} {source : String} {pointed : Segment → Prop}
  {state : ScanState ρ} {reaction : Reaction ρ} {tokens : List Token} {splices : List Splice}
  {symbols others queue : List Located} {offset : Nat}

/-! ## The rest of a source -/

/-- The symbols of a source from an offset on. -/
def Ahead (source : String) (offset : Nat) (symbols : List Located) : Prop :=
  ∃ front rest, source.toList = front ++ rest ∧ byteLength front = offset ∧
    symbols = Located.ofText offset rest

namespace Ahead

theorem unique (ahead : Ahead source offset symbols) (again : Ahead source offset others) :
    symbols = others := by
  obtain ⟨front, rest, whole, length, rfl⟩ := ahead
  obtain ⟨first, last, same, size, rfl⟩ := again
  obtain ⟨_, rfl⟩ := eq_of_byteLength (whole.symm.trans same) (length.trans size.symm)
  rfl

theorem nodup (fits : byteLength source.toList ≤ maxOffset) (ahead : Ahead source offset symbols) :
    symbols.Nodup := by
  obtain ⟨front, rest, whole, length, rfl⟩ := ahead
  rw [whole, byteLength_append] at fits
  have bound : offset + byteLength rest ≤ maxOffset := by omega
  exact (Located.adjoin_ofText bound).nodup fun located member =>
    Located.offset_lt_stop_of_mem_ofText bound member

/-- What lies behind some segments of a source. -/
theorem of_segments {done rest : List Segment} {first : Segment}
    (fits : byteLength source.toList ≤ maxOffset)
    (all : Segment.flatten done ++ Segment.flatten (first :: rest) =
      Located.ofText 0 source.toList) :
    Ahead source first.symbol.offset (Segment.flatten (first :: rest)) := by
  obtain ⟨front, text, whole, _, behind⟩ := Located.ofText_eq_append (by simpa using fits) all
  rw [Nat.zero_add] at behind
  have offset : first.symbol.offset = byteLength front := by
    cases text with
    | nil => simp [Located.ofText, Segment.located] at behind
    | cons symbol text =>
        rw [Segment.flatten_cons, Segment.located, List.cons_append, Located.ofText] at behind
        exact congrArg Located.offset (List.cons_eq_cons.mp behind).1
  exact ⟨front, text, whole, offset.symm, by rw [behind, offset]⟩

section Parts

variable {piece : List Located} {located : Located}
  (fits : byteLength source.toList ≤ maxOffset)

include fits

theorem parts (ahead : Ahead source offset (piece ++ symbols)) :
    ∃ front rest, source.toList = front ++ (piece.map Located.symbol ++ rest) ∧
      byteLength front = offset ∧
      symbols = Located.ofText (offset + byteLength (piece.map Located.symbol)) rest := by
  obtain ⟨front, text, whole, length, same⟩ := ahead
  have bound : offset + byteLength text ≤ maxOffset := by
    rwa [← length, ← byteLength_append, ← whole]
  obtain ⟨middle, rest, rfl, rfl, rfl⟩ := Located.ofText_eq_append bound same
  exact ⟨front, rest, by rw [whole, Located.map_symbol_ofText], length,
    by rw [Located.map_symbol_ofText]⟩

theorem offset_eq (ahead : Ahead source offset (piece ++ located :: symbols)) :
    located.offset = offset + byteLength (piece.map Located.symbol) := by
  obtain ⟨_, rest, _, _, same⟩ := ahead.parts fits
  cases rest with
  | nil => simp [Located.ofText] at same
  | cons symbol rest => rw [(List.cons_eq_cons.mp same).1]

theorem length_eq (ahead : Ahead source offset piece) :
    byteLength source.toList = offset + byteLength (piece.map Located.symbol) := by
  rw [← List.append_nil piece] at ahead
  obtain ⟨front, rest, whole, length, same⟩ := ahead.parts fits
  cases rest with
  | nil => rw [whole, byteLength_append, length, List.append_nil]
  | cons symbol rest => simp [Located.ofText] at same

/-- What was read ends before the next symbol, or with the input. -/
theorem border_eq {next : Option Fed} {rest : List Fed}
    (ahead : Ahead source offset (piece ++ (next.toList ++ rest).map Fed.toLocated))
    (ended : next = none → rest = []) :
    (next.elim (byteLength source.toList) fun fed => fed.offset) =
      offset + byteLength (piece.map Located.symbol) := by
  cases next with
  | some fed => exact ahead.offset_eq fits
  | none =>
      obtain rfl := ended rfl
      exact length_eq fits (by simpa using ahead)

theorem stop_eq (ahead : Ahead source offset (piece ++ located :: symbols)) :
    located.stop = offset + byteLength ((piece ++ [located]).map Located.symbol) := by
  have start := ahead.offset_eq fits
  rw [List.append_cons] at ahead
  obtain ⟨front, rest, whole, length, _⟩ := ahead.parts fits
  rw [whole, byteLength_append, byteLength_append, length] at fits
  simp only [List.map_append, List.map_cons, List.map_nil, byteLength_append, byteLength] at fits ⊢
  rw [Located.stop, symbolEnd, start]
  omega

theorem spanOf {span : Span} (ahead : Ahead source offset (piece ++ symbols))
    (spanEq : Located.spanOf? piece = some span) :
    span = ⟨offset, offset + byteLength (piece.map Located.symbol)⟩ := by
  cases piece with
  | nil => simp [Located.spanOf?] at spanEq
  | cons first rest =>
      rw [Located.spanOf?_cons] at spanEq
      obtain rfl := Option.some.inj spanEq
      have begun : Ahead source offset ([] ++ first :: (rest ++ symbols)) := ahead
      have start := begun.offset_eq fits
      obtain ⟨front, last, cut⟩ : ∃ front last, first :: rest = front ++ [last] :=
        ⟨_, _, (List.dropLast_concat_getLast (List.cons_ne_nil first rest)).symm⟩
      have final : rest.getLast?.getD first = last := by
        simpa [List.getLast?_cons] using congrArg List.getLast? cut
      rw [cut, List.append_assoc, List.singleton_append] at ahead
      rw [final, ahead.stop_eq fits, ← cut, start]
      rfl

/-- The text of a token from here on. -/
theorem text {token : Token} (ahead : Ahead source offset (piece ++ symbols))
    (start : token.span.start = offset)
    (stop : token.span.stop = offset + byteLength (piece.map Located.symbol)) :
    token.text source = String.ofList (piece.map Located.symbol) := by
  obtain ⟨front, rest, whole, length, _⟩ := ahead.parts fits
  have span : token.span = ⟨byteLength front,
      byteLength front + byteLength (piece.map Located.symbol)⟩ := by
    rw [length, ← stop, ← start]
  rw [Token.text, whole, span, slice?_append, Option.getD_some]

end Parts

end Ahead

/-! ## The symbols of a token -/

/-- Inside of tokens nothing is absorbed behind a symbol that is to be fed. -/
theorem rests_bare {mode : Mode} {body queued : List Segment}
    (rests : Rests (.tight pointed) profile mode body queued) (busy : mode ≠ .idle) :
    ∀ segment ∈ queued, segment.trail = [] := by
  cases mode with
  | idle => contradiction
  | numberPrefix | literalPrefix => exact fun segment member => rests.2 segment (by simp [member])
  | maybeFloat =>
      obtain ⟨_, _, _, _, _, chain⟩ := rests
      exact chain.2
  | operator => exact rests.2.2.1
  | _ => exact rests

/-- Inside of a token, the symbols of the source from its start on are those that were read,
those that are held back and those that are to be fed. -/
theorem Standing.ahead (fits : byteLength source.toList ≤ maxOffset)
    (standing : Standing (.tight pointed) profile (Located.ofText 0 source.toList)
      (byteLength source.toList) tokens splices state queue [])
    (busy : state.mode.resting ≠ .idle) :
    ∃ read, Ahead source state.tokenStart (read ++ (state.mode.waiting ++ queue)) := by
  obtain ⟨done, body, wait, queued, account, layout⟩ := standing
  obtain ⟨first, rest, rfl, begun⟩ := layout.begun busy
  have bare := rests_bare layout.rests busy
  have behind : Segment.flatten (wait ++ queued) = state.mode.waiting ++ queue := by
    rw [Segment.flatten_of_bare bare, List.map_append, layout.waiting, layout.feeds]
  have all := account.all
  rw [List.append_nil, Segment.flatten_append, List.cons_append] at all
  have ahead := Ahead.of_segments fits all
  refine ⟨Segment.flatten (first :: rest), ?_⟩
  rw [← begun, ← behind, ← Segment.flatten_append]
  exact ahead

/-- Between tokens, the same from the next symbol on.  Only behind a pointed symbol something
was absorbed. -/
theorem Standing.ahead_idle {located : Located} (fits : byteLength source.toList ≤ maxOffset)
    (standing : Standing (.tight pointed) profile (Located.ofText 0 source.toList)
      (byteLength source.toList) tokens splices state (located :: queue) [])
    (idle : state.mode = .idle) :
    ∃ trail, (trail = [] ∨ pointed ⟨located, trail⟩) ∧
      Ahead source located.offset (located :: (trail.map Splice.symbol ++ queue)) := by
  obtain ⟨done, body, wait, queued, account, layout⟩ := standing
  have held := layout.waiting
  have rests := layout.rests
  rw [idle] at held rests
  obtain rfl : wait = [] := by simpa [Mode.waiting] using held
  obtain ⟨rfl, chain⟩ := rests
  obtain ⟨⟨first, trail⟩, more, rfl, rfl, feeds⟩ := List.map_eq_cons_iff.mp layout.feeds
  have loose : Segment.flatten more = queue := by
    rw [Segment.flatten_of_bare chain.2, feeds]
  have all := account.all
  rw [List.append_nil, Segment.flatten_append, List.nil_append, List.nil_append] at all
  refine ⟨trail, chain.1, ?_⟩
  rw [← loose, ← List.cons_append]
  exact Ahead.of_segments fits all

/-! ## What a mode recalls -/

/-- A line continuation as it is read. -/
def Joint (profile : Profile ρ) (symbols : List Located) : Prop :=
  ∃ (escape : Located) (rest : List Located) (lineEnd : LineEnd),
    symbols = escape :: rest ∧ CanContinue profile escape ∧
      rest.map Located.symbol = lineEnd.splice.tail

/-- What was read is a word with line continuations behind its symbols, or a single symbol
with all that was absorbed behind it. -/
inductive Spliced (pointed : Segment → Prop) (profile : Profile ρ) :
    List Located → List Located → Prop
  | nil : Spliced pointed profile [] []
  | point {segment : Segment} : pointed segment →
      Spliced pointed profile [segment.symbol] segment.located
  | symbol {word read : List Located} (located : Located) : Spliced pointed profile word read →
      Spliced pointed profile (word ++ [located]) (read ++ [located])
  | joint {word read joint : List Located} : Spliced pointed profile word read → word ≠ [] →
      Joint profile joint → Spliced pointed profile word (read ++ joint)

namespace Spliced

variable {word read leftover : List Located}

theorem sublist (spliced : Spliced pointed profile word read) : word.Sublist read := by
  induction spliced with
  | nil => exact .slnil
  | point _ => exact (List.nil_sublist _).cons_cons _
  | symbol located _ ih => exact ih.append (List.Sublist.refl _)
  | joint _ _ _ ih => exact ih.trans (List.sublist_append_left _ _)

/-- Symbols that are given back were the last ones. -/
theorem drop_last {located : Located}
    (spliced : Spliced pointed profile (word ++ [located]) (read ++ [located]))
    (nodup : (read ++ [located]).Nodup) : Spliced pointed profile word read := by
  have fresh : located ∉ read := by
    intro member
    exact (List.nodup_append.mp nodup).2.2 _ member _ (by simp) rfl
  generalize wordEq : word ++ [located] = whole at spliced
  generalize readEq : read ++ [located] = text at spliced
  cases spliced with
  | nil => simp at wordEq
  | @point segment _ =>
      obtain ⟨rfl, same⟩ := List.append_eq_singleton_iff.mp wordEq |>.resolve_right (by simp)
      obtain rfl : located = segment.symbol := by simpa using same
      cases read with
      | nil => exact .nil
      | cons first read =>
          obtain ⟨rfl, _⟩ := List.cons_eq_cons.mp readEq
          simp at fresh
  | symbol other spliced =>
      obtain ⟨rfl, _⟩ := List.append_inj' wordEq rfl
      obtain ⟨rfl, _⟩ := List.append_inj' readEq rfl
      exact spliced
  | @joint _ early joint spliced _ joins =>
      obtain ⟨escape, rest, _, rfl, _⟩ := joins
      -- The last symbol of the word would be read twice.
      obtain ⟨front, last, same⟩ : ∃ front last, escape :: rest = front ++ [last] :=
        ⟨_, _, (List.dropLast_concat_getLast (by simp)).symm⟩
      rw [same, ← List.append_assoc] at readEq
      obtain ⟨rfl, _⟩ := List.append_inj' readEq rfl
      have member : located ∈ early := spliced.sublist.subset (by simp [← wordEq])
      exact absurd (List.mem_append_left _ member) fresh

theorem drop (spliced : Spliced pointed profile (word ++ leftover) (read ++ leftover))
    (nodup : (read ++ leftover).Nodup) : Spliced pointed profile word read := by
  induction leftover generalizing word read with
  | nil => simpa using spliced
  | cons located rest ih =>
      rw [List.append_cons read] at spliced nodup
      rw [List.append_cons word] at spliced
      exact (ih spliced nodup).drop_last (List.nodup_append.mp nodup).1

end Spliced

/-- What a mode tells about the symbols that were read since its token began. -/
def Recalls (pointed : Segment → Prop) (profile : Profile ρ) (mode : Mode)
    (read : List Located) : Prop :=
  match mode with
  | .numberPrefix _ pending => read = pending
  | .literalPrefix walk => read = walk.pending
  | .operator walk => Spliced pointed profile walk.pending read
  | .literal _ kind => ∃ introduction, introduction <+: read ∧
      profile.literals.lookup? (introduction.map Located.symbol) = some kind
  | .blockComment .. => ∃ marker opener, opener <+: read ∧ Spliced pointed profile marker opener ∧
      profile.operators.lookup? (marker.map Located.symbol) = some .blockComment
  | _ => True

/-- After a reaction to the last of some symbols, the mode recalls those of them that are
neither held back nor given back. -/
def Carries (pointed : Segment → Prop) (profile : Profile ρ) (symbols : List Located)
    (reaction : Reaction ρ) : Prop :=
  ∀ read, symbols = read ++ (reaction.state.mode.waiting ++ reaction.next.map Fed.toLocated) →
    Recalls pointed profile reaction.state.mode.resting read

section Handlers

variable {read held : List Located} {fed : Fed} {node : NodeId} {walk : Walk}

theorem carries_of_idle (idle : reaction.state.mode.resting = .idle) :
    Carries pointed profile symbols reaction := by
  intro read _
  rw [idle]
  trivial

theorem carries_become {mode : Mode} (known : ∀ read, symbols = read ++ mode.waiting →
    Recalls pointed profile mode.resting read) :
    Carries pointed profile symbols (state.become mode) :=
  fun read same => known read (by simpa using same)

/-- What is given back behind the others was not read. -/
theorem carries_feed {again : List Fed}
    (carries : ∀ kept, symbols = kept ++ again.map Fed.toLocated →
      Carries pointed profile kept reaction) :
    Carries pointed profile symbols (reaction.feed again) := by
  intro read same
  rw [Reaction.feed_state, Reaction.feed_next, List.map_append] at same
  refine carries (read ++ (reaction.state.mode.waiting ++ reaction.next.map Fed.toLocated)) ?_ read
    rfl
  simpa using same

theorem Carries.refeed {again : List Fed} (carries : Carries pointed profile symbols reaction) :
    Carries pointed profile (symbols ++ again.map Fed.toLocated) (reaction.feed again) := by
  refine carries_feed fun kept same => ?_
  obtain ⟨rfl, _⟩ := List.append_inj' same rfl
  exact carries

theorem map_toLocated_plain (symbols : List Located) :
    (symbols.map Fed.plain).map Fed.toLocated = symbols := by
  simp [Function.comp_def, Fed.plain]

theorem closeWalk_carries {marker : List Located} (nonempty : marker ≠ [])
    (found : profile.operators.find? (marker.map Located.symbol) = some node)
    (spliced : Spliced pointed profile marker symbols) (stop : Nat) :
    Carries pointed profile symbols (closeWalk profile state node stop) := by
  have closed := closeWalk_closed profile state node stop
  generalize closeWalk profile state node stop = reaction at closed ⊢
  cases closed with
  | demoted | operator | unnamed => exact carries_of_idle rfl
  | lineComment => exact carries_become fun _ _ => trivial
  | blockComment known =>
      refine carries_become fun read same => ?_
      obtain rfl : symbols = read := by simpa [Mode.waiting] using same
      refine ⟨marker, symbols, List.prefix_rfl, spliced, ?_⟩
      rw [Trie.lookup?_of_find? found (by simpa using nonempty), known]

theorem reachOperator_carries {pending : List Located} (nonempty : pending ≠ [])
    (found : profile.operators.find? (pending.map Located.symbol) = some node)
    (spliced : Spliced pointed profile pending symbols) (terminal : Option (NodeId × Nat)) :
    Carries pointed profile symbols (reachOperator profile state node pending terminal) := by
  unfold reachOperator
  split
  · refine carries_become fun read same => ?_
    obtain rfl : symbols = read := by simpa [Mode.waiting] using same
    exact spliced
  · refine carries_feed fun kept same => ?_
    obtain rfl : symbols = kept := by simpa using same
    exact closeWalk_carries nonempty found spliced _

theorem stuckOperator_carries (traces : walk.Traces profile.operators)
    (spliced : Spliced pointed profile walk.pending symbols) (nodup : symbols.Nodup) (stop : Nat) :
    Carries pointed profile symbols (stuckOperator profile state walk stop) := by
  have stuck := stuckOperator_stuck profile state walk stop
  generalize stuckOperator profile state walk stop = reaction at stuck ⊢
  cases stuck with
  | @passed node count terminal =>
      have found := traces.deepest
      rw [terminal] at found
      refine carries_feed fun kept same => ?_
      rw [map_toLocated_plain] at same
      subst same
      have parts : Spliced pointed profile (walk.pending.take count ++ walk.pending.drop count)
          (kept ++ walk.pending.drop count) := by rwa [List.take_append_drop]
      refine closeWalk_carries (traces.take_ne_nil terminal) ?_ (parts.drop nodup) _
      rw [List.map_take]
      exact found.2.2.1
  | rejected | empty => exact carries_of_idle rfl

/-! ### Numbers and introductions of literals -/

theorem resolvePrefix_carries (pending : List Located) (next : Option Fed) :
    Carries pointed profile symbols (resolvePrefix profile state node pending next) := by
  obtain ⟨_, resolved, answer⟩ := resolvePrefix_resolved profile state node pending next
  rw [answer]
  cases resolved with
  | spanless | alone | digits | rejected => exact carries_of_idle rfl
  | opens | goesOn => exact fun _ _ => trivial

variable [Literal.Reader ρ]

theorem openLiteral_carries (sound : profile.Sound) (nonempty : symbols ≠ [])
    (found : profile.literals.find? (symbols.map Located.symbol) = some node)
    (ended : (profile.literals.kind? node).isSome = true) (introduction : List Located) :
    Carries pointed profile symbols (openLiteral profile state node introduction) := by
  obtain ⟨number, kind, reader, known, _, _, opened⟩ :=
    openLiteral_eq sound state ended introduction
  rw [opened]
  refine carries_become fun read same => ?_
  obtain rfl : symbols = read := by simpa [Mode.waiting] using same
  refine ⟨symbols, List.prefix_rfl, ?_⟩
  rw [Trie.lookup?_of_find? found (by simpa using nonempty), known]

theorem reachLiteral_carries (sound : profile.Sound) (nonempty : symbols ≠ [])
    (found : profile.literals.find? (symbols.map Located.symbol) = some node)
    (terminal : Option (NodeId × Nat)) :
    Carries pointed profile symbols (reachLiteral profile state node symbols terminal) := by
  have reached := reachLiteral_reached profile state node symbols terminal
  generalize reachLiteral profile state node symbols terminal = reaction at reached ⊢
  cases reached with
  | waits =>
      refine carries_become fun read same => ?_
      obtain rfl : symbols = read := by simpa [Mode.waiting] using same
      rfl
  | opens ended => exact openLiteral_carries sound nonempty found ended _

theorem stuckLiteral_carries (sound : profile.Sound) (traces : walk.Traces profile.literals) :
    Carries pointed profile walk.pending (stuckLiteral profile state walk) := by
  unfold stuckLiteral
  cases terminal : walk.terminal with
  | none => exact carries_of_idle rfl
  | some passed =>
      obtain ⟨node, count⟩ := passed
      have found := traces.deepest
      rw [terminal] at found
      refine carries_feed fun kept same => ?_
      rw [map_toLocated_plain] at same
      obtain rfl : walk.pending.take count = kept :=
        List.append_cancel_right ((List.take_append_drop count walk.pending).trans same)
      refine openLiteral_carries sound (traces.take_ne_nil terminal) ?_
        (traces.terminal_bound terminal).2.2 _
      rw [List.map_take]
      exact found.2.2.1

theorem readLiteral_carries {number : Nat} {kind : Kind} (mode : state.mode = .literal number kind)
    (recalls : Recalls pointed profile (.literal number kind) read) :
    Carries pointed profile (read ++ [fed.toLocated])
      (readLiteral profile state number kind fed) := by
  obtain ⟨introduction, begins, known⟩ := recalls
  have inside : ∀ reaction : Reaction ρ, reaction.state.mode = .literal number kind →
      reaction.next = [] → Carries pointed profile (read ++ [fed.toLocated]) reaction := by
    intro reaction stays next kept same
    rw [stays] at same ⊢
    obtain rfl : _ = kept := by simpa [Mode.waiting, next] using same
    exact ⟨introduction, begins.trans (List.prefix_append _ _), known⟩
  have continued := readLiteral_continued profile state number kind fed
  generalize readLiteral profile state number kind fed = reaction at continued ⊢
  cases continued with
  | proceeds | proceedsWith => exact inside _ mode rfl
  | unread | stops | stopsWith | failsBefore | fails => exact carries_of_idle rfl

/-! ### Line continuations -/

omit [Literal.Reader ρ] in
theorem recalls_joined {resume : Resume} {joint : List Located} (valid : resume.Valid profile)
    (recalls : Recalls pointed profile resume.mode read) (joins : Joint profile joint) :
    Recalls pointed profile resume.mode (read ++ joint) := by
  cases resume with
  | operator walk => exact Spliced.joint recalls valid.nonempty joins
  | _ => trivial

omit [Literal.Reader ρ] in
theorem resumed_carries {resume : Resume} (mode : reaction.state.mode = resume.mode)
    (known : ∀ read, symbols = read ++ reaction.next.map Fed.toLocated →
      Recalls pointed profile resume.mode read) :
    Carries pointed profile symbols reaction := by
  intro read same
  rw [mode, waiting_resume, List.nil_append] at same
  rw [mode, resting_resume]
  exact known read same

omit [Literal.Reader ρ] in
theorem joinLines_carries {resume : Resume} {escape : Located} {rest : List Located}
    {lineEnd : LineEnd} (valid : resume.Valid profile) (continues : CanContinue profile escape)
    (spelled : rest.map Located.symbol = lineEnd.splice.tail)
    (recalls : Recalls pointed profile resume.mode read) (stop : Nat) :
    Carries pointed profile (read ++ escape :: rest) (joinLines state resume escape stop) := by
  refine resumed_carries (joinLines_mode _ _ _ _) fun kept same => ?_
  obtain rfl : _ = kept := by simpa using same
  exact recalls_joined valid recalls ⟨escape, rest, lineEnd, rfl, continues, spelled⟩

/-! ### Between tokens -/

theorem dispatch_carries (sound : profile.Sound) (idle : state.mode = .idle) :
    Carries pointed profile [fed.toLocated] (dispatch profile state fed) := by
  have answer := dispatched profile state fed
  have sameMode : (starting state fed).mode = .idle := idle
  generalize dispatch profile state fed = reaction at answer ⊢
  cases answer with
  | continuation _ => exact carries_of_idle rfl
  | single _ => exact carries_of_idle (by simp [sameMode, Mode.resting])
  | reject => exact carries_of_idle rfl
  | blank | point | number | identifier => exact fun _ _ => trivial
  | numberPrefix edge =>
      refine carries_become fun kept same => ?_
      obtain rfl : _ = kept := by simpa [Mode.waiting] using same
      rfl
  | literal edge _ =>
      refine reachLiteral_carries sound (by simp) ?_ _
      simpa [Trie.find?, Trie.walkFrom_singleton] using edge
  | operator edge =>
      refine reachOperator_carries (by simp) ?_ (Spliced.nil.symbol fed.toLocated) _
      simpa [Trie.find?, Trie.walkFrom_singleton] using edge

/-- Something that was absorbed may stand behind a pointed symbol. -/
theorem dispatch_pointed_carries (setting : Setting (.tight pointed) profile others)
    (own : state.ownClasses = none) {trail : List Splice}
    (isPointed : pointed ⟨fed.toLocated, trail⟩) :
    Carries pointed profile (fed.toLocated :: trail.map Splice.symbol)
      (dispatch profile state fed) := by
  rcases setting.points state fed trail own isPointed with ⟨_, answer⟩ | ⟨node, longer, answer⟩
  · rw [answer]
    exact carries_become fun _ _ => trivial
  · rw [answer, reachOperator, if_pos longer]
    refine carries_become fun kept same => ?_
    obtain rfl : _ = kept := by simpa [Mode.waiting] using same
    exact .point isPointed

/-! ### All modes -/

omit [Literal.Reader ρ] in
theorem Takes.carries {before after : Mode} (takes : Takes profile state fed before after)
    (recalls : Recalls pointed profile before.resting read) :
    Carries pointed profile (read ++ (before.waiting ++ [fed.toLocated])) (state.become after) := by
  cases takes with
  | numberPrefix =>
      obtain rfl := recalls
      refine carries_become fun kept same => ?_
      obtain rfl : _ = kept := by simpa [Mode.waiting] using same
      rfl
  | blockComment =>
      obtain ⟨marker, opener, begins, spliced, known⟩ := recalls
      refine carries_become fun kept same => ?_
      obtain rfl : _ = kept := by simpa [Mode.waiting] using same
      exact ⟨marker, opener, begins.trans (List.prefix_append _ _), spliced, known⟩
  | @escape _ resume same =>
      subst same
      rw [resting_resume] at recalls
      rw [waiting_resume]
      refine carries_become fun kept same => ?_
      obtain ⟨rfl, _⟩ := List.append_inj' same rfl
      exact recalls
  | carriage =>
      refine carries_become fun kept same => ?_
      obtain ⟨rfl, _⟩ := List.append_inj' same (by simp [Mode.waiting])
      exact recalls
  | _ => exact fun _ _ => trivial

/-- What a mode recalls of the symbols that were read, it recalls after every answer. -/
theorem Answered.carries {stop : Nat} {next : Option Fed}
    (answered : Answered profile stop state next reaction) (sound : profile.Sound)
    (sane : Sane profile state) (busy : state.mode.resting ≠ .idle) (nodup : read.Nodup)
    (recalls : Recalls pointed profile state.mode.resting read) :
    Carries pointed profile (read ++ (state.mode.waiting ++ next.toList.map Fed.toLocated))
      reaction := by
  have valid := sane.valid
  unfold ScanState.Valid at valid
  cases answered with
  | between mode => simp [mode, Mode.resting] at busy
  | takes mode takes =>
      subst mode
      exact takes.carries recalls
  | completes | linefeed | closesBlock | unclosed => exact carries_of_idle rfl
  | releases | closesLiteral => exact carries_of_idle (by simp [Mode.resting])
  | resolves => exact resolvePrefix_carries _ _
  | extendsOperator mode _ edge =>
      rw [mode] at recalls valid ⊢
      refine reachOperator_carries (by simp) ?_ (Spliced.symbol _ recalls) _
      simpa using Trie.find?_snoc valid.reaches edge
  | endsOperator mode =>
      rw [mode] at recalls valid ⊢
      exact (stuckOperator_carries valid recalls nodup _).refeed
  | extendsIntroduction mode edge =>
      rw [mode] at recalls valid ⊢
      obtain rfl := recalls
      refine reachLiteral_carries sound (by simp) ?_ _
      simpa [Mode.waiting] using Trie.find?_snoc valid.reaches edge
  | endsIntroduction mode =>
      rw [mode] at recalls valid ⊢
      obtain rfl := recalls
      exact (stuckLiteral_carries sound valid).refeed
  | reads mode =>
      have inside := recalls
      rw [mode] at inside ⊢
      exact readLiteral_carries mode inside
  | @joins _ _ carriage fed mode feed =>
      have continues := sane.waits _ _ _ mode
      rw [mode] at recalls valid ⊢
      cases carriage with
      | none =>
          have spelled : [fed.toLocated].map Located.symbol = LineEnd.feed.splice.tail := by
            simp [feed, LineEnd.splice]
          exact joinLines_carries valid continues spelled recalls _
      | some offset =>
          have spelled : [⟨'\r', offset⟩, fed.toLocated].map Located.symbol =
              LineEnd.both.splice.tail := by
            simp [feed, LineEnd.splice]
          exact joinLines_carries valid continues spelled recalls _
  | @joinsBefore _ escape offset _ mode =>
      have continues := sane.waits _ _ _ mode
      rw [mode] at recalls valid ⊢
      have spelled : [(⟨'\r', offset⟩ : Located)].map Located.symbol =
          LineEnd.carriage.splice.tail := rfl
      rw [← List.append_assoc]
      exact (joinLines_carries valid continues spelled recalls _).refeed
  | abandons mode =>
      rw [mode] at recalls ⊢
      rw [← List.append_assoc]
      refine Carries.refeed (resumed_carries rfl fun kept same => ?_)
      obtain ⟨rfl, _⟩ := List.append_inj' same (by simp [Mode.waiting])
      exact recalls

end Handlers

end Scan

end Lexing
