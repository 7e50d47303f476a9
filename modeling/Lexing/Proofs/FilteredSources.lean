import Lexing.Proofs.FilteredTiling
import Lexing.Proofs.LineEndings
import Lexing.Proofs.Utterances

/-!
# Covered sources behind filters

A gate only takes a token apart without losing text if the token is as long as the symbols
that it is taken apart into.  In a scan it is, even if lines are continued inside of it: an
operator has at least as many bytes as its sequence has symbols.  So the stock filters keep
every source covered behind the profiles that they belong to.
-/

namespace Lexing

namespace Scan

variable {ρ : Type} {profile : Profile ρ} {source : String} {pointed : Segment → Prop}
  {state : ScanState ρ} {reaction : Reaction ρ} {next : Option Fed} {rest : List Fed}
  {token : Token}

/-! ## The length of operators -/

/-- The token is the operator of a sequence that is not longer than the token. -/
def Roomed (profile : Profile ρ) (token : Token) : Prop :=
  ∃ node, node < profile.operators.nodes.size ∧
    (profile.operators.kind? node = some token.kind ∨
      profile.fallbackAt? node = some token.kind) ∧
    profile.operators.depth node ≤ token.span.length

theorem Closes.roomed {node : NodeId} {span : Span} {sequence : List Char}
    (closes : Closes profile node span reaction) (sound : profile.Sound)
    (found : profile.operators.find? sequence = some node)
    (room : span.start + sequence.length ≤ span.stop)
    (member : .token token ∈ reaction.reports) : Roomed profile token := by
  obtain ⟨bound, depth⟩ := sound.operators.toLinked.find?_bound found
  rcases closes with silent | ⟨other, told, _, rfl, names⟩
  · simp [silent] at member
  · obtain rfl : token = other := by simpa [told] using member
    refine ⟨node, bound, names, ?_⟩
    rw [depth, Span.length]
    omega

/-- What stands behind some symbols of a text is at least their number of bytes away. -/
theorem length_add_le {word read : List Located} (sublist : word.Sublist read) (start : Nat) :
    start + word.length ≤ start + byteLength (read.map Located.symbol) := by
  have longer := sublist.length_le
  have bytes := length_le_byteLength (read.map Located.symbol)
  rw [List.length_map] at bytes
  omega

section Lengths

variable (fits : byteLength source.toList ≤ maxOffset)

include fits

/-- A token that ends after some symbols of a walk has room for them: it goes up to the first
symbol that is given back, or up to what is read next. -/
theorem add_length_take_le {start : Nat} {read pending : List Located}
    (ahead : Ahead source start (read ++ (next.toList ++ rest).map Fed.toLocated))
    (atEnd : next = none → rest = []) (sublist : pending.Sublist read) (count : Nat) :
    start + (pending.take count).length ≤ ((pending.drop count).head?.map
      Located.offset).getD (next.elim (byteLength source.toList) fun fed => fed.offset) := by
  rw [← List.take_append_drop count pending] at sublist
  cases leftover : pending.drop count with
  | cons first more =>
      rw [leftover] at sublist
      obtain ⟨front, back, rfl, taken, given⟩ := List.append_sublist_iff.mp sublist
      obtain ⟨early, late, rfl, here, _⟩ := List.cons_sublist_iff.mp given
      obtain ⟨between, behind, rfl⟩ := List.append_of_mem here
      have cut : Ahead source start ((front ++ between) ++ first ::
          (behind ++ late ++ (next.toList ++ rest).map Fed.toLocated)) := by
        simpa using ahead
      rw [List.head?_cons, Option.map_some, Option.getD_some, cut.offset_eq fits]
      exact length_add_le (taken.trans (List.sublist_append_left _ _)) _
  | nil =>
      rw [leftover, List.append_nil] at sublist
      rw [List.head?_nil, Option.map_none, Option.getD_none, ahead.border_eq fits atEnd]
      exact length_add_le sublist _

end Lengths

variable [Literal.Reader ρ] (fits : byteLength source.toList ≤ maxOffset) (sound : profile.Sound)

include fits sound

/-- Whatever operator a scan reports, its token is not shorter than its sequence. -/
theorem Utters.roomed (moment : Moment pointed profile source ⟨state, next.toList ++ rest⟩)
    (atEnd : next = none → rest = [])
    (utters : Utters profile (byteLength source.toList) state next reaction)
    (member : .token token ∈ reaction.reports) (operator : token.kind.isOperator = true) :
    Roomed profile token := by
  have valid := moment.sane.valid
  have reads := moment.reads
  dsimp only at valid reads
  cases utters with
  | routine routine =>
      rw [(routine _ member).2] at operator
      contradiction
  | rejected rejects =>
      rw [rejects.unexpected member] at operator
      exact absurd operator (by decide)
  | @begun fed node reaction idle edge closes =>
      obtain ⟨_, ⟨_, _, standing⟩, _⟩ := moment
      obtain ⟨trail, _, ahead⟩ := standing.ahead_idle fits idle
      have start : Ahead source fed.offset ([] ++ fed.toLocated :: _) := ahead
      have found : profile.operators.find? [fed.symbol] = some node := by
        rw [Trie.find?, Trie.walkFrom_singleton, edge]
      refine closes.roomed sound found ?_ member
      have longer := length_add_le (List.Sublist.refl [fed.toLocated]) fed.offset
      exact Nat.le_trans longer (Nat.le_of_eq (start.stop_eq fits).symm)
  | @continued walk fed node reaction mode edge closes =>
      rw [ScanState.Valid, mode] at valid
      have traces : walk.Traces profile.operators := valid
      rw [mode] at reads
      obtain ⟨read, ahead, spliced⟩ := reads (by simp [Mode.resting])
      have onward : Ahead source state.tokenStart (read ++ fed.toLocated :: _) := ahead
      refine closes.roomed sound (Trie.find?_snoc traces.reaches edge) ?_ member
      have longer := length_add_le (spliced.sublist.append (.refl [fed.toLocated]))
        state.tokenStart
      rw [← onward.stop_eq fits] at longer
      simpa using longer
  | @passed walk node count next reaction mode terminal closes =>
      rw [ScanState.Valid, mode] at valid
      have traces : walk.Traces profile.operators := valid
      rw [mode] at reads
      obtain ⟨read, ahead, spliced⟩ := reads (by simp [Mode.resting])
      have deepest := traces.deepest
      rw [terminal] at deepest
      obtain ⟨_, _, found, _⟩ := deepest
      refine closes.roomed sound found ?_ member
      rw [← List.map_take, List.length_map]
      exact add_length_take_le fits ahead atEnd spliced.sublist count

/-- All operators of a scan have room for their sequences. -/
theorem tokens_roomed (undotted : profile.literals.advance Trie.root '.' = none)
    (setting : Setting (.tight pointed) profile (Located.ofText 0 source.toList))
    (member : token ∈ tokens profile source) (operator : token.kind.isOperator = true) :
    Roomed profile token := by
  obtain ⟨before, after, cut⟩ := List.append_of_mem (mem_tokens.mp member)
  have inner : token.kind ≠ .fin := by
    intro fin
    rw [fin] at operator
    exact absurd operator (by decide)
  obtain ⟨past, _, arises⟩ := arises_of_token fits undotted setting cut inner
  cases arises with
  | @intro _ told more middle reaction rest leads next _ reports =>
      obtain ⟨state, queue⟩ := middle
      have moment := Reaches.moment fits setting leads
      obtain ⟨symbol, rfl, atEnd, utters⟩ := next_utters sound moment.sane.valid next
      exact utters.roomed fits sound moment atEnd (by simp [reports]) operator

end Scan

/-! ## Gates with room -/

namespace StockFilter

/-- The kinds that the filter takes apart, with their spellings. -/
def listed : StockFilter → List (Kind × List Char)
  | .modeGate gate => gate.gated
  | .suffixGlue _ | .lineDirective _ | .sequenceComposer _ => []

theorem listed_react (filter : StockFilter) (token : Token) :
    (Filter.react filter token).accepted.listed = filter.listed := by
  cases filter <;> rfl

theorem lookup_of_spelling? {filter : StockFilter} {token : Token} {spelling : List Char}
    (spelled : filter.spelling? token = some spelling) :
    filter.listed.lookup token.kind = some spelling := by
  cases filter with
  | modeGate gate =>
      rw [spelling?] at spelled
      split at spelled
      · contradiction
      · exact (Option.filter_eq_some_iff.mp spelled).1
  | suffixGlue | lineDirective | sequenceComposer => contradiction

/-- It is enough that every token has room for what its kind could be taken apart into. -/
theorem roomy_of_listed {filter : StockFilter} {tokens : List Token}
    (room : ∀ token ∈ tokens, ∀ spelling, filter.listed.lookup token.kind = some spelling →
      byteLength spelling ≤ token.span.length) : filter.Roomy tokens := by
  induction tokens generalizing filter with
  | nil => trivial
  | cons token rest ih =>
      obtain ⟨own, others⟩ := List.forall_mem_cons.mp room
      refine ⟨fun spelling spelled => own spelling (lookup_of_spelling? spelled), ih ?_⟩
      rw [listed_react]
      exact others

theorem roomy_of_unlisted {filter : StockFilter} (unlisted : filter.listed = [])
    (tokens : List Token) : filter.Roomy tokens :=
  roomy_of_listed (by simp [unlisted])

end StockFilter

theorem LineDirective.Answers.mem {filter after : LineDirective} {token other : Token}
    {sent : List Token} (answers : filter.Answers token sent after) (member : other ∈ sent) :
    other = token ∨ other.kind = .directiveEnter ∨ other.kind = .directiveExit := by
  cases answers with
  | close =>
      rcases List.mem_pair.mp member with rfl | same
      · exact Or.inr (Or.inr rfl)
      · exact Or.inl same
  | begin =>
      rcases List.mem_pair.mp member with rfl | same
      · exact Or.inr (Or.inl rfl)
      · exact Or.inl same
  | pass => exact Or.inl (List.mem_singleton.mp member)

/-- A directive filter only adds control tokens. -/
theorem LineDirective.mem_pass {filter : LineDirective} {tokens : List Token} {token : Token}
    (member : token ∈ (Filter.pass (StockFilter.lineDirective filter) tokens).1) :
    token ∈ tokens ∨ token.kind = .directiveEnter ∨ token.kind = .directiveExit := by
  induction tokens generalizing filter with
  | nil => exact Or.inl member
  | cons first rest ih =>
      rcases List.mem_append.mp member with sent | later
      · exact ((filter.answers first).mem sent).imp (fun same => by simp [same]) id
      · exact (ih later).imp (List.mem_cons_of_mem _) id

/-! ## Complete streams behind filters -/

/-- The tokens tile a text of the given length, and the last one, which marks its end, is the
only control token. -/
structure TextStream (body : List Token) (last : Token) (length : Nat) : Prop where
  fits : length ≤ maxOffset
  text : ∀ token ∈ body, token.kind.isControl = false
  tiles : Tiles 0 body length
  fin : last.kind = .fin
  span : last.span = .point length

/-- Behind the filters, every sink that never stops receives a complete stream of a text of
the given length, and then the filters hold nothing back. -/
def Completes (filters : List StockFilter) (events : List Event) (length : Nat) : Prop :=
  let passed := Filter.relayAll filters.reverse events
  Complete (passed.1.filterMap Event.token?) length ∧ (∀ filter ∈ passed.2, filter.held = []) ∧
    ∀ {σ : Type} [Sink σ] (sink : σ), Sink.Steady sink →
      let reply := Sink.sendAll ((Chain.ofSink sink).installAll filters) events
      reply.flow = .proceed ∧ reply.sink.sink = (Sink.sendAll sink passed.1).sink ∧
        reply.sink.filters = passed.2

theorem TextStream.completes {filters : List StockFilter} {body : List Token} {last : Token}
    {length : Nat} {events : List Event} (stream : TextStream body last length)
    (initial : ∀ filter ∈ filters, filter.Initial ∧ filter.Plain)
    (tokens : events.filterMap Event.token? = body ++ [last])
    (room : StockFilter.AllRoomy filters.reverse (body ++ [last])) :
    Completes filters events length := by
  have passed := Filter.relayAll_tokens filters.reverse events
  rw [tokens] at passed
  have ready : ∀ filter ∈ filters.reverse, filter.Plain ∧ filter.held = [] := by
    intro filter member
    obtain ⟨fresh, plain⟩ := initial filter (List.mem_reverse.mp member)
    exact ⟨plain, fresh.held⟩
  obtain ⟨⟨front, received, laid⟩, held⟩ := StockFilter.passAll_releases ready stream.fits
    stream.fin stream.span room (laid_of_tiles stream.text stream.tiles)
  rw [← passed] at received held
  refine ⟨?_, held, fun sink steady => Chain.sendAll_installAll filters steady events⟩
  dsimp only at received ⊢
  rw [received]
  exact laid.complete stream.fin stream.span

/-! ## Scans -/

section Scans

open Scan

variable {ρ : Type} [Literal.Reader ρ] {profile : Profile ρ} {source : String}
  {pointed : Segment → Prop}

/-- The tokens of a scan are such a stream. -/
theorem textStream_of_setting (fits : byteLength source.toList ≤ maxOffset)
    (made : profile.Made) (undotted : profile.literals.advance Trie.root '.' = none)
    (setting : Setting (.tight pointed) profile (Located.ofText 0 source.toList)) :
    ∃ body last, tokens profile source = body ++ [last] ∧
      TextStream body last (byteLength source.toList) := by
  obtain ⟨body, last, whole, tiling⟩ := tokens_tiling fits undotted setting
  refine ⟨body, last, whole, fits, fun token member => ?_, tiling.tiles, tiling.fin.1,
    tiling.fin.2⟩
  have ordinary := tokens_ordinary made source token (by simp [whole, member])
  exact Bool.eq_false_iff.mpr fun control =>
    tiling.others token member (ordinary.2 control)

/-- The filters complete all that a scan delivers to them.  Of a source that is too large it
delivers nothing. -/
def CompletesSource (profile : Profile ρ) (filters : List StockFilter) (source : String) : Prop :=
  DeliversThrough profile filters source ∧
    if byteLength source.toList ≤ maxOffset then
      Completes filters (events profile source) (byteLength source.toList)
    else filtered profile filters source = []

omit [Literal.Reader ρ] in
theorem relayAll_nil (filters : List StockFilter) : (Filter.relayAll filters []).1 = [] := by
  induction filters with
  | nil => rfl
  | cons filter behind ih => exact ih

theorem completesSource {filters : List StockFilter} (made : profile.Made)
    (delivers : Delivers profile source)
    (undotted : profile.literals.advance Trie.root '.' = none)
    (setting : Setting (.tight pointed) profile (Located.ofText 0 source.toList))
    (initial : ∀ filter ∈ filters, filter.Initial ∧ filter.Plain)
    (room : byteLength source.toList ≤ maxOffset →
      StockFilter.AllRoomy filters.reverse (tokens profile source)) :
    CompletesSource profile filters source := by
  refine ⟨delivers.through filters, ?_⟩
  split
  case isTrue fits =>
    obtain ⟨body, last, whole, stream⟩ := textStream_of_setting fits made undotted setting
    exact stream.completes initial whole (whole ▸ room fits)
  case isFalse large =>
    rw [filtered, (events_of_large profile large).1]
    exact relayAll_nil filters.reverse

end Scans

namespace CLike

open Scan

/-- The two hash operators are spelled with their sequences. -/
theorem gated_table :
    ∀ entry ∈ [(hash, ['#']), (hashHash, ['#', '#'])], entry.1.isOperator = true ∧
      ∀ node < profile.operators.nodes.size,
        profile.operators.kind? node = some entry.1 ∨ profile.fallbackAt? node = some entry.1 →
          byteLength entry.2 ≤ profile.operators.depth node := by
  decide +kernel

theorem filters_roomy {source : String} (fits : byteLength source.toList ≤ maxOffset) :
    StockFilter.AllRoomy filters.reverse (tokens profile source) := by
  refine ⟨StockFilter.roomy_of_unlisted rfl _, StockFilter.roomy_of_listed ?_,
    StockFilter.roomy_of_unlisted rfl _, trivial⟩
  intro token member spelling listed
  obtain ⟨_, _, entries, _⟩ := List.lookup_eq_some_iff.mp listed
  have entry : (token.kind, spelling) ∈ [(hash, ['#']), (hashHash, ['#', '#'])] := by
    rw [show [(hash, ['#']), (hashHash, ['#', '#'])] = _ from entries]
    simp
  obtain ⟨operator, table⟩ := gated_table _ entry
  rcases LineDirective.mem_pass member with scanned | marker
  · obtain ⟨node, bound, names, room⟩ := tokens_roomed fits profile_made.sound dotted.literals
      (dotted.setting _) scanned operator
    exact Nat.le_trans (table node bound names) room
  · have control : ∀ kind ∈ [Kind.directiveEnter, .directiveExit], kind.isOperator = false := by
      decide
    rw [control token.kind (by simpa using marker)] at operator
    contradiction

theorem filters_initial : ∀ filter ∈ filters, filter.Initial ∧ filter.Plain := by
  refine List.forall_mem_cons.mpr ⟨⟨rfl, trivial⟩, List.forall_mem_cons.mpr ⟨⟨rfl, ?_⟩,
    List.forall_mem_singleton.mpr ⟨rfl, trivial⟩⟩⟩
  show ∀ entry ∈ [(hash, ['#']), (hashHash, ['#', '#'])], entry.1.isControl = false
  decide

theorem completesSource (source : String) : CompletesSource profile filters source :=
  Lexing.completesSource profile_made (delivers_of_ends CLike.ends source) dotted.literals
    (dotted.setting _) filters_initial filters_roomy

end CLike

namespace Diagram

open Scan

theorem filters_initial : ∀ filter ∈ filters, filter.Initial ∧ filter.Plain :=
  List.forall_mem_singleton.mpr ⟨rfl, show directive.isControl = false by decide⟩

theorem completesSource (source : String) : CompletesSource profile filters source := by
  have undotted : profile.literals.advance Trie.root '.' = none := by decide +kernel
  have unescaped : profile.options.honorLineContinuation = false := by decide +kernel
  exact Lexing.completesSource profile_made (delivers_of_ends Diagram.ends source) undotted
    (setting_of_unescaped profile_made.sound (Or.inl unescaped)) filters_initial
    fun _ => ⟨StockFilter.roomy_of_unlisted rfl _, trivial⟩

end Diagram

/-- Behind stock filters, a stream of tokens of a text stays complete: whatever they buffer,
merge, take apart or put in between, the text stays covered, and nothing is held back at the
end.  In particular this holds for every source behind the filters of its profile. -/
theorem filters_complete :
    (∀ {filters : List StockFilter} {body : List Token} {last : Token} {length : Nat},
      TextStream body last length → (∀ filter ∈ filters, filter.Initial ∧ filter.Plain) →
      StockFilter.AllRoomy filters.reverse (body ++ [last]) →
      Completes filters ((body ++ [last]).map .token) length) ∧
    ∀ source, CompletesSource CLike.profile CLike.filters source ∧
      CompletesSource Diagram.profile Diagram.filters source :=
  ⟨fun stream initial room => stream.completes initial (filterMap_token _) room,
    fun source => ⟨CLike.completesSource source, Diagram.completesSource source⟩⟩

/-- Behind the filters of the C-like profile, a number with a suffix and, outside of a
directive, a hash operator with a line continuation inside. -/
theorem filters_complete_spliced :
    let body : List Token := [{ kind := .numberDecimal, span := ⟨0, 1⟩ },
      { kind := .identifier, span := ⟨1, 2⟩ }, { kind := CLike.hashHash, span := ⟨2, 6⟩ }]
    let last : Token := { kind := .fin, span := ⟨6, 6⟩ }
    TextStream body last 6 ∧ (∀ filter ∈ CLike.filters, filter.Initial ∧ filter.Plain) ∧
      StockFilter.AllRoomy CLike.filters.reverse (body ++ [last]) ∧
      Completes CLike.filters ((body ++ [last]).map .token) 6 ∧
      (Chain.process CLike.filters (body ++ [last])).1 =
        [{ kind := .numberDecimal, span := ⟨0, 2⟩ }, { kind := .rawChar, span := ⟨2, 3⟩ },
          { kind := .rawChar, span := ⟨3, 6⟩ }, last] := by
  intro body last
  have stream : TextStream body last 6 := {
    fits := by decide
    text := by decide
    tiles := ⟨rfl, by decide, rfl, by decide, rfl, by decide, rfl⟩
    fin := rfl
    span := rfl }
  have room : StockFilter.AllRoomy CLike.filters.reverse (body ++ [last]) := by decide
  exact ⟨stream, CLike.filters_initial, room,
    filters_complete.1 stream CLike.filters_initial room, by decide⟩

end Lexing
