import Lexing.Proofs.Utterances

/-!
# Unexpected input in C-like sources

In the C-like profile every symbol of a source has a rule except for some control symbols, and
every operator is complete from its first symbol on.  What is left are prefixes of numbers
without digits, malformed literals and comments that are not closed.
-/

namespace Lexing

namespace Scan

variable {ρ : Type} {profile : Profile ρ} {state : ScanState ρ} {fed : Fed}

/-! ## Symbols that have a rule -/

/-- Some rule applies to the symbol between tokens, whatever rules it is exempt from. -/
def Ruled (profile : Profile ρ) (symbol : Char) : Bool :=
  let traits := profile.classes.classify symbol
  traits.linefeed || traits.whitespace || traits.identifierFirst || traits.escape ||
    traits.strayPunct ||
    (traits.digit && ((profile.numberPrefixes.advance Trie.root symbol).isSome ||
      (digitValue? symbol profile.options.defaultBase).isSome)) ||
    ((traits.opening || traits.closing) &&
      ((profile.brackets.advance Trie.root symbol).bind profile.brackets.kind?).isSome) ||
    (traits.operator && (profile.operators.advance Trie.root symbol).isSome) ||
    (traits.literalFirst && (profile.literals.advance Trie.root symbol).any fun node =>
      (profile.literals.kind? node).isSome)

/-- A symbol that is exempt from introducing a literal introduces none by itself. -/
def Unopened (profile : Profile ρ) (fed : Fed) : Prop :=
  fed.exempt.literal = true → ∃ node, profile.literals.advance Trie.root fed.symbol = some node ∧
    profile.literals.kind? node = none

variable [Literal.Reader ρ]

theorem firstRule_ne_none (own : state.ownClasses = none) (unopened : Unopened profile fed)
    (ruled : Ruled profile fed.symbol = true) : firstRule profile state fed ≠ none := by
  have seen : state.classify profile fed.symbol = profile.classes.classify fed.symbol := by
    simp [ScanState.classify, own]
  intro none
  simp only [firstRule, earlyRules, lateRules, Option.orElse_eq_orElse, Option.orElse_eq_or,
    Option.or_eq_none_iff] at none
  obtain ⟨⟨⟨_, lineEnd, blank⟩, literal⟩, _, digit, identifier, bracket, operator, escape,
    stray⟩ := none
  simp only [Ruled, Bool.or_eq_true, Bool.and_eq_true] at ruled
  rcases ruled with (((((((isLineEnd | isBlank) | isFirst) | isEscape) | isStray) |
    ⟨isDigit, begins⟩) | ⟨isBracket, named⟩) | ⟨isOperator, edge⟩) | ⟨isLiteral, edge⟩
  · simp only [lineEndRule, seen, isLineEnd, if_true] at lineEnd
    split at lineEnd <;> simp at lineEnd
  · simp [blankRule, seen, isBlank] at blank
  · simp [identifierRule, seen, isFirst] at identifier
  · simp [escapeRule, seen, isEscape] at escape
  · simp [strayRule, seen, isStray] at stray
  · simp only [digitRule, seen, isDigit, if_true] at digit
    cases edge : profile.numberPrefixes.advance Trie.root fed.symbol with
    | some node => simp [edge] at digit
    | none =>
        rw [edge] at digit begins
        simp [Option.map_eq_none_iff.mp digit] at begins
  · obtain ⟨kind, found⟩ := Option.isSome_iff_exists.mp named
    obtain ⟨node, edge, known⟩ := Option.bind_eq_some_iff.mp found
    rw [← Bool.or_eq_true] at isBracket
    simp [bracketRule, seen, isBracket, edge, known] at bracket
  · obtain ⟨node, child⟩ := Option.isSome_iff_exists.mp edge
    simp [operatorRule, seen, isOperator, child] at operator
  · cases first : profile.literals.advance Trie.root fed.symbol with
    | none => simp [first] at edge
    | some node =>
        have named : (profile.literals.kind? node).isSome = true := by simpa [first] using edge
        have free : fed.exempt.literal = false := by
          rw [Bool.eq_false_iff]
          intro exempt
          obtain ⟨other, same, bare⟩ := unopened exempt
          obtain rfl : node = other := by simpa [first] using same
          simp [bare] at named
        simp [literalRule, seen, isLiteral, first, free] at literal

/-! ## Symbols that introduce no literal -/

omit [Literal.Reader ρ] in
theorem grants_unopened (valid : state.Valid profile) : Grants state (Unopened profile) where
  plain _ := by simp [Unopened, Fed.plain]
  point _ := by simp [Unopened, Fed.exemptPoint]
  escape _ := by simp [Unopened]
  first mode incomplete pending _ := by
    rw [ScanState.Valid, mode] at valid
    exact Walk.Traces.first_bare valid incomplete pending

/-- All symbols that are exempt from introducing a literal introduce none by themselves. -/
theorem Reaches.unopened (sound : profile.Sound) {source : String} {past : List Report}
    {config : Config ρ} (reaches : Reaches profile source past config) :
    ∀ fed ∈ config.queue, Unopened profile fed := by
  have keeps : Keeps profile (some (byteLength source.toList)) fun config =>
      Sane profile config.state ∧ ∀ fed ∈ config.queue, Unopened profile fed := by
    rintro ⟨state, queue⟩ reaction rest ⟨sane, unopened⟩ next
    exact ⟨keeps_sane sound _ _ _ _ sane next,
      next_gives (grants_unopened sane.valid) unopened next⟩
  have sane : Sane profile (opening source : Config ρ).state :=
    ⟨ScanState.valid_idle rfl, rfl, by simp [opening]⟩
  exact (Leads.keeps reaches keeps
    ⟨sane, (grants_unopened sane.valid).map_plain _⟩).2

/-! ## Markers with line continuations inside -/

section Markers

variable {pointed : Segment → Prop} {first second : Located} {read : List Located}
  (backslash : ∀ located, CanContinue profile located → located.symbol = '\\')
  (unpointed : ∀ trail, ¬pointed ⟨first, trail⟩)

include backslash

omit [Literal.Reader ρ] in
theorem Joint.spelled {joint : List Located} (joins : Joint profile joint) :
    ∃ lineEnd : LineEnd, joint.map Located.symbol = lineEnd.splice := by
  obtain ⟨escape, rest, lineEnd, rfl, continues, spelled⟩ := joins
  refine ⟨lineEnd, ?_⟩
  rw [List.map_cons, backslash escape continues, spelled]
  cases lineEnd <;> rfl

omit backslash [Literal.Reader ρ] in
theorem Spliced.eq_nil (spliced : Spliced pointed profile [] read) : read = [] := by
  generalize wordEq : [] = word at spliced
  cases spliced with
  | nil => rfl
  | point _ => simp at wordEq
  | symbol => simp at wordEq
  | joint _ nonempty => exact absurd wordEq.symm nonempty

include unpointed

omit [Literal.Reader ρ] in
theorem Spliced.single (spliced : Spliced pointed profile [first] read) :
    ∃ ends : List LineEnd,
      read.map Located.symbol = first.symbol :: ends.flatMap LineEnd.splice := by
  generalize wordEq : [first] = word at spliced
  induction spliced with
  | nil => simp at wordEq
  | @point segment isPointed =>
      obtain rfl : first = segment.symbol := by simpa using wordEq
      exact absurd isPointed (unpointed _)
  | symbol located spliced _ =>
      obtain ⟨rfl, same⟩ := List.append_inj' (show [] ++ [first] = _ from wordEq) rfl
      obtain rfl : first = located := by simpa using same
      exact ⟨[], by simp [spliced.eq_nil]⟩
  | joint _ _ joins ih =>
      obtain ⟨ends, spelled⟩ := ih wordEq
      obtain ⟨lineEnd, joint⟩ := Joint.spelled backslash joins
      exact ⟨ends ++ [lineEnd], by simp [spelled, joint]⟩

omit [Literal.Reader ρ] in
theorem Spliced.pair (spliced : Spliced pointed profile [first, second] read) :
    ∃ (ends : List LineEnd) (content : List Char), read.map Located.symbol =
      first.symbol :: (ends.flatMap LineEnd.splice ++ second.symbol :: content) := by
  generalize wordEq : [first, second] = word at spliced
  induction spliced with
  | nil => simp at wordEq
  | point _ => simp at wordEq
  | symbol located spliced _ =>
      obtain ⟨rfl, same⟩ := List.append_inj' (show [first] ++ [second] = _ from wordEq) rfl
      obtain rfl : second = located := by simpa using same
      obtain ⟨ends, spelled⟩ := Spliced.single backslash unpointed spliced
      exact ⟨ends, [], by simp [spelled]⟩
  | joint _ _ joins ih =>
      obtain ⟨ends, content, spelled⟩ := ih wordEq
      obtain ⟨lineEnd, joint⟩ := Joint.spelled backslash joins
      exact ⟨ends, content ++ lineEnd.splice, by simp [spelled, joint]⟩

end Markers

end Scan

/-! ## Spellings in tries -/

namespace Trie

variable {trie : Trie} {node : NodeId} {word : List Char}

/-- An edge adds its symbol to the spelling of the node that it leaves. -/
def AddsSymbol (trie : Trie) (parent : NodeId) (symbol : Char) (child : NodeId) : Prop :=
  trie.symbolsTo child = trie.symbolsTo parent ++ [symbol]

instance (trie : Trie) (parent : NodeId) (symbol : Char) (child : NodeId) :
    Decidable (trie.AddsSymbol parent symbol child) :=
  inferInstanceAs (Decidable (_ = _))

def Spells (trie : Trie) : Prop :=
  ∀ parent < trie.nodes.size, ∀ edge ∈ (trie.nodes[parent]?.map Node.children).getD [],
    trie.AddsSymbol parent edge.1 edge.2

instance (trie : Trie) : Decidable trie.Spells :=
  inferInstanceAs (Decidable (∀ parent < trie.nodes.size, ∀ edge ∈ _, trie.AddsSymbol _ _ _))

theorem symbolsTo_root (trie : Trie) : trie.symbolsTo root = [] := by
  unfold symbolsTo
  cases trie.nodes.size with
  | zero => rfl
  | succ size => simp [climb]

/-- The spelling of a node is the way to it. -/
theorem Spells.symbolsTo (spells : trie.Spells) (found : trie.find? word = some node) :
    trie.symbolsTo node = word := by
  suffices general : ∀ start, trie.walkFrom start word = some node →
      trie.symbolsTo node = trie.symbolsTo start ++ word by
    simpa [symbolsTo_root] using general root found
  have added : ∀ {parent symbol child}, trie.advance parent symbol = some child →
      trie.AddsSymbol parent symbol child := holds_of_advance spells
  clear found
  induction word with
  | nil =>
      intro start found
      obtain rfl : start = node := by simpa [walkFrom] using found
      simp
  | cons symbol rest ih =>
      intro start found
      rw [walkFrom] at found
      cases edge : trie.advance start symbol with
      | none => simp [edge] at found
      | some next =>
          rw [edge] at found
          rw [ih next found, added edge, List.append_assoc]
          rfl

end Trie

/-! ## Sources in C -/

namespace CLike

open Scan
open Literal (Stock)

/-- A control symbol, including the one that deletes, that is neither a blank nor the end of a
line. -/
def IsControl (symbol : Char) : Prop :=
  (symbol.toNat < 0x20 ∨ symbol.toNat = 0x7F) ∧ symbol ∉ ['\t', '\n', '\x0b', '\x0c', '\r']

instance (symbol : Char) : Decidable (IsControl symbol) :=
  inferInstanceAs (Decidable (_ ∧ _))

/-- The prefixes of numbers in other bases than ten and eight. -/
def basePrefixes : List String :=
  ["0x", "0X", "0b", "0B"]

def introductions : List String :=
  ["\"", "'", "L\"", "L'", "u8\"", "R\""]

theorem ruled_table :
    (∀ code < 128, IsControl (Char.ofNat code) ∨ Ruled profile (Char.ofNat code) = true) ∧
      profile.classes.nonAscii.identifierFirst = true := by
  decide +kernel

theorem spells_table :
    profile.operators.Spells ∧ profile.literals.Spells ∧ profile.numberPrefixes.Spells := by
  decide +kernel

theorem words_table :
    (∀ node < profile.operators.nodes.size, profile.operators.kind? node = some .blockComment →
        profile.operators.symbolsTo node = ['/', '*']) ∧
      (∀ node < profile.literals.nodes.size, (profile.literals.kind? node).isSome = true →
        String.ofList (profile.literals.symbolsTo node) ∈ introductions) ∧
      ∀ node < profile.numberPrefixes.nodes.size,
        profile.numberPrefixes.symbolsTo node ∈ [[], ['0']] ∨
          String.ofList (profile.numberPrefixes.symbolsTo node) ∈ basePrefixes := by
  decide +kernel

theorem isControl_of_unruled {symbol : Char} (unruled : Ruled profile symbol = false) :
    IsControl symbol := by
  by_cases ascii : symbol.toNat < 128
  · have known := ruled_table.1 symbol.toNat ascii
    rw [Char.ofNat_toNat] at known
    exact known.resolve_right (by simp [unruled])
  · have first : (profile.classes.classify symbol).identifierFirst = true := by
      simp [CharClass.Table.classify, ascii, ruled_table.2]
    simp [Ruled, first] at unruled

/-- Why a text is unexpected in a C-like source, given the events before its token. -/
inductive Unexpected (source : String) (before : List Event) (token : Token) : Prop
  | control (symbol : Char) : IsControl symbol → token.text source = String.ofList [symbol] →
      Unexpected source before token
  | digitless : token.text source ∈ basePrefixes → Unexpected source before token
  | literal (introduction content message : String) {past : List Event} :
      introduction ∈ introductions → token.text source = introduction ++ content →
      before = past ++ [.literalMessage token.span message, .unexpected token.span] →
      Unexpected source before token
  | comment (ends : List LineEnd) (content : List Char) :
      token.text source =
        String.ofList ('/' :: (ends.flatMap LineEnd.splice ++ '*' :: content)) →
      token.span.stop = byteLength source.toList → Unexpected source before token

/-- Behind a point something can be absorbed that is fed again. -/
abbrev IsPoint (segment : Segment) : Prop :=
  segment.symbol.symbol = '.'

section Moments

variable {source : String} {state : ScanState Stock} {next : Option Fed} {rest : List Fed}
  {reaction : Reaction Stock} {told : List Report} {token : Token}
  (fits : byteLength source.toList ≤ maxOffset)

theorem told_of_reject {span : Span} {complaint : Option String} {symbols : List Fed}
    (reports : ((state.reject span complaint).feed symbols).reports = told ++ [.token token]) :
    token.span = span := by
  have parts : [.unexpected span complaint] ++ [Report.token
      { atLineStart := state.lineStart, kind := .unexpected, span }] = told ++ [.token token] :=
    reports
  obtain ⟨_, same⟩ := List.append_inj' parts rfl
  obtain rfl : _ = token := by simpa using same
  rfl

theorem told_of_failLiteral {span : Span} {message : String}
    (reports : (failLiteral state span message).reports = told ++ [.token token]) :
    token.span = span ∧ told = [.literalMessage span message, .unexpected span (some message)] := by
  have parts : [.literalMessage span message, .unexpected span (some message)] ++ [Report.token
      { atLineStart := state.lineStart, kind := .unexpected, span }] = told ++ [.token token] :=
    reports
  obtain ⟨rfl, same⟩ := List.append_inj' parts rfl
  obtain rfl : _ = token := by simpa using same
  exact ⟨rfl, rfl⟩

/-- Every operator is complete from its first symbol on. -/
theorem terminal_ne_none {walk : Walk} (sane : Sane profile state)
    (mode : state.mode = .operator walk) : walk.terminal ≠ none := by
  intro incomplete
  have valid := sane.valid
  rw [ScanState.Valid, mode] at valid
  have traces : walk.Traces profile.operators := valid
  obtain ⟨first, others, pending⟩ := List.exists_cons_of_ne_nil traces.nonempty
  obtain ⟨child, edge, bare⟩ := traces.first_bare incomplete pending
  -- Only the walk of two points is not complete, and it does not start at the root.
  have atRoot := ((dotted.edges edge).2 bare).2
  exact Nat.ne_of_lt (profile_made.sound.operators.toLinked.edge dotted.edge).1 atRoot

include fits

theorem unexpected_between {fed : Fed}
    (moment : Moment IsPoint profile source ⟨state, fed :: rest⟩)
    (unopened : Unopened profile fed) (idle : state.mode = .idle)
    (unruled : firstRule profile (starting state fed) fed = none) (span : token.span = fed.span)
    (before : List Event) : Unexpected source before token := by
  obtain ⟨sane, ⟨_, _, standing⟩, _⟩ := moment
  obtain ⟨trail, _, ahead⟩ := standing.ahead_idle fits idle
  have start : Ahead source fed.offset ([] ++ fed.toLocated :: _) := ahead
  have stop := start.stop_eq fits
  refine .control fed.symbol (isControl_of_unruled ?_) ?_
  · have own : (starting state fed).ownClasses = none := sane.classes
    rw [← Bool.not_eq_true]
    exact fun ruled => firstRule_ne_none own unopened ruled unruled
  · rw [List.append_cons] at start
    exact start.text fits (by rw [span]; rfl) (by rw [span]; exact stop)

theorem unexpected_numberPrefix {node : NodeId} {pending : List Located} {span : Span}
    (moment : Moment IsPoint profile source ⟨state, next.toList ++ rest⟩)
    (mode : state.mode = .numberPrefix node pending)
    (spanEq : Located.spanOf? pending = some span)
    (undigital : (pending.all fun located => isDefaultDigit profile located.symbol) = false)
    (same : token.span = span) (before : List Event) : Unexpected source before token := by
  obtain ⟨sane, _, reads⟩ := moment
  have valid := sane.valid
  dsimp only at reads
  rw [ScanState.Valid, mode] at valid
  rw [mode] at reads
  obtain ⟨read, ahead, recalls⟩ := reads (by simp [Mode.resting])
  obtain rfl : read = pending := recalls
  obtain ⟨nonempty, found⟩ := valid
  have spelled := spells_table.2.2.symbolsTo found
  have bound := (profile_made.sound.numberPrefixes.toLinked.find?_bound found).1
  rcases words_table.2.2 node bound with digits | prefixed
  · rw [spelled] at digits
    have zero : read.map Located.symbol = ['0'] := by simpa [nonempty] using digits
    have all : (read.map Located.symbol).all (isDefaultDigit profile) = true := by
      rw [zero]
      decide +kernel
    rw [List.all_map] at all
    exact absurd all (by simp [Function.comp_def, undigital])
  · have whole := ahead.spanOf fits spanEq
    refine .digitless ?_
    rw [ahead.text fits (by rw [same, whole]) (by rw [same, whole]), ← spelled]
    exact prefixed

theorem unexpected_literal {number : Nat} {kind : Kind} {message : String}
    (moment : Moment IsPoint profile source ⟨state, next.toList ++ rest⟩)
    (atEnd : next = none → rest = []) (mode : state.mode = .literal number kind)
    (start : token.span.start = state.tokenStart)
    (stop : next.elim (token.span.stop = byteLength source.toList) fun fed =>
      token.span.stop = fed.offset ∨ token.span.stop = fed.stop)
    {before past : List Event}
    (told : before = past ++ [.literalMessage token.span message, .unexpected token.span]) :
    Unexpected source before token := by
  obtain ⟨sane, _, reads⟩ := moment
  dsimp only at reads
  rw [mode] at reads
  obtain ⟨read, ahead, introduction, ⟨content, rfl⟩, known⟩ := reads (by simp [Mode.resting])
  obtain ⟨node, found, named⟩ := Trie.exists_of_lookup? known
  have spelled := spells_table.2.1.symbolsTo found
  have bound := (profile_made.sound.literals.toLinked.find?_bound found).1
  have introduces := words_table.2.1 node bound (by simp [named])
  rw [spelled] at introduces
  obtain ⟨more, text⟩ : ∃ more, token.text source =
      String.ofList ((introduction ++ more).map Located.symbol) := by
    cases next with
    | none =>
        obtain rfl := atEnd rfl
        have whole : Ahead source state.tokenStart ((introduction ++ content) ++ []) := ahead
        refine ⟨content, whole.text fits start ?_⟩
        rw [List.append_nil] at whole
        exact stop.trans (whole.length_eq fits)
    | some fed =>
        have ahead : Ahead source state.tokenStart
            ((introduction ++ content) ++ fed.toLocated :: rest.map Fed.toLocated) := ahead
        rcases stop with early | late
        · exact ⟨content, ahead.text fits start (early.trans (ahead.offset_eq fits))⟩
        · have behind := ahead.stop_eq fits
          rw [List.append_cons, List.append_assoc introduction] at ahead
          rw [List.append_assoc] at behind
          exact ⟨content ++ [fed.toLocated], ahead.text fits start (late.trans behind)⟩
  refine .literal _ (String.ofList (more.map Located.symbol)) message introduces ?_ told
  rw [text, List.map_append, String.ofList_append]

theorem unexpected_comment {text : List Char} {seen : Nat} {crossed : Bool}
    (moment : Moment IsPoint profile source ⟨state, []⟩)
    (mode : state.mode = .blockComment text seen crossed)
    (span : token.span = ⟨state.tokenStart, byteLength source.toList⟩) (before : List Event) :
    Unexpected source before token := by
  obtain ⟨sane, _, reads⟩ := moment
  dsimp only at reads
  rw [mode] at reads
  obtain ⟨read, ahead, marker, opener, ⟨content, rfl⟩, spliced, known⟩ :=
    reads (by simp [Mode.resting])
  obtain ⟨node, found, named⟩ := Trie.exists_of_lookup? known
  have bound := (profile_made.sound.operators.toLinked.find?_bound found).1
  have spelled := words_table.1 node bound named
  rw [spells_table.1.symbolsTo found] at spelled
  obtain ⟨first, _, rfl, slash, rest⟩ := List.map_eq_cons_iff.mp spelled
  obtain ⟨second, _, rfl, star, nothing⟩ := List.map_eq_cons_iff.mp rest
  obtain rfl := List.map_eq_nil_iff.mp nothing
  have unpointed : ∀ trail, ¬IsPoint ⟨first, trail⟩ := by
    intro trail point
    have isPoint : first.symbol = '.' := point
    simp [slash] at isPoint
  obtain ⟨ends, more, begins⟩ := Spliced.pair eq_backslash_of_continues unpointed spliced
  have whole : Ahead source state.tokenStart ((opener ++ content) ++ []) := ahead
  rw [List.append_nil] at whole
  refine .comment ends (more ++ content.map Located.symbol) ?_ (by rw [span])
  have stop := whole.length_eq fits
  rw [Ahead.text fits ahead (by rw [span]) (by rw [span]; exact stop), List.map_append, begins,
    slash, star]
  simp

theorem Unexpected.of_utters (moment : Moment IsPoint profile source ⟨state, next.toList ++ rest⟩)
    (unopened : ∀ fed ∈ next.toList, Unopened profile fed) (atEnd : next = none → rest = [])
    (utters : Utters profile (byteLength source.toList) state next reaction)
    (reports : reaction.reports = told ++ [.token token]) (kind : token.kind = .unexpected)
    (past : List Event) : Unexpected source (past ++ told.map Report.event) token := by
  have member : .token token ∈ reaction.reports := by simp [reports]
  cases rejects_of_utters utters member fun accepts => accepts kind with
  | unruled idle unruled =>
      exact unexpected_between fits moment (unopened _ (by simp)) idle unruled
        (told_of_reject reports) _
  | digitless mode spanEq undigital =>
      exact unexpected_numberPrefix fits moment mode spanEq undigital (told_of_reject reports) _
  | incomplete mode terminal _ => exact absurd terminal (terminal_ne_none moment.sane mode)
  | malformed mode same start stop =>
      obtain ⟨rfl, rfl⟩ := told_of_failLiteral (same.symm.trans reports)
      exact unexpected_literal fits moment atEnd mode start stop rfl
  | unclosed mode =>
      obtain rfl := atEnd rfl
      exact unexpected_comment fits moment mode (told_of_reject reports) _

end Moments

section Sources

variable {source : String} (fits : byteLength source.toList ≤ maxOffset)

include fits

theorem known_of_arises {past : List Report} {span : Span} :
    ¬Arises profile (byteLength source.toList) (opening source) past (.unknownOperator span) := by
  rintro ⟨leads, next, _, told⟩
  have moment := Reaches.moment fits (dotted.setting _) leads
  have member : Report.unknownOperator span ∈ _ := told ▸ List.mem_append_right _ (.head _)
  obtain ⟨symbol, _, _, utters⟩ := next_utters profile_made.sound moment.sane.valid next
  cases rejects_of_utters utters member id with
  | unruled | digitless | unclosed => simp [ScanState.reject, ScanState.emit] at member
  | incomplete mode terminal _ => exact absurd terminal (terminal_ne_none moment.sane mode)
  | malformed mode same => simp [same, failLiteral, ScanState.reject, ScanState.emit] at member

theorem Unexpected.of_arises {past : List Report} {token : Token}
    (arises : Arises profile (byteLength source.toList) (opening source) past (.token token))
    (kind : token.kind = .unexpected) : Unexpected source (past.map Report.event) token := by
  cases arises with
  | @intro past told more middle reaction rest leads next split reports =>
      obtain ⟨state, queue⟩ := middle
      have moment := Reaches.moment fits (dotted.setting _) leads
      have unopened := Reaches.unopened profile_made.sound leads
      obtain ⟨symbol, rfl, atEnd, utters⟩ :=
        next_utters profile_made.sound moment.sane.valid next
      obtain rfl := (next_tells profile_made.sound moment.sane.valid next).last reports
      rw [split, List.map_append]
      exact .of_utters fits moment
        (fun fed member => unopened fed (List.mem_append_left _ member))
        atEnd utters
        reports kind _

end Sources

/-- Scanned as C, no operator is unknown, and every unexpected token is a control symbol, the
prefix of a number without digits, a malformed literal or a comment that is not closed. -/
theorem unexpected_explained (source : String) :
    Delivers profile source ∧ (∀ span, .unknownOperator span ∉ events profile source) ∧
      ∀ before token after, events profile source = before ++ .token token :: after →
        token.kind = .unexpected → Unexpected source before token := by
  refine ⟨delivers_of_ends CLike.ends source, ?_⟩
  by_cases fits : byteLength source.toList ≤ maxOffset
  · have setting := dotted.setting (Located.ofText 0 source.toList)
    constructor
    · intro span member
      obtain ⟨before, after, cut⟩ := List.append_of_mem member
      obtain ⟨past, report, same, _, arises⟩ :=
        arises_of_events fits dotted.literals setting cut (by simp)
      obtain rfl := Report.event_eq_unknownOperator.mp same
      exact known_of_arises fits arises
    · intro before token after cut kind
      obtain ⟨past, rfl, arises⟩ :=
        arises_of_token fits dotted.literals setting cut (kind ▸ by decide)
      exact .of_arises fits arises kind
  · obtain ⟨nothing, _⟩ := events_of_large profile fits
    simp [nothing]

end CLike

end Lexing
