import Lexing.Proofs.Weaving

/-!
# The inside of tokens

Line continuations are absorbed inside of identifiers, operators and line comments.  What
lies inside of such a token cannot lie on the border of another one.  So when the machine
stands inside of one, it is not between tokens, and it is not in a mode in which the next
token is certain to be of another kind.
-/

namespace Lexing

theorem Tiles.le {start stop : Nat} {tokens : List Token} (tiles : Tiles start tokens stop) :
    start ≤ stop := by
  induction tokens generalizing start with
  | nil => exact Nat.le_of_eq tiles
  | cons token rest ih => exact Nat.le_trans (Nat.le_of_lt tiles.2.1) (ih tiles.2.2)

theorem Tiles.bounds {start stop : Nat} {tokens : List Token} (tiles : Tiles start tokens stop)
    {token : Token} (member : token ∈ tokens) :
    start ≤ token.span.start ∧ token.span.start < token.span.stop ∧ token.span.stop ≤ stop := by
  induction tokens generalizing start with
  | nil => simp at member
  | cons first rest ih =>
      obtain ⟨begins, positive, others⟩ := tiles
      rcases List.mem_cons.mp member with rfl | later
      · exact ⟨Nat.le_of_eq begins.symm, begins ▸ positive, others.le⟩
      · obtain ⟨behind, nonempty, ends⟩ := ih others later
        exact ⟨by omega, nonempty, ends⟩

/-- The tokens on both sides of a token. -/
theorem Tiles.around {start stop : Nat} {before after : List Token} {token : Token}
    (tiles : Tiles start (before ++ token :: after) stop) :
    (∀ other ∈ before, other.span.stop ≤ token.span.start) ∧
      ∀ other ∈ after, token.span.stop ≤ other.span.start := by
  obtain ⟨middle, early, begins, _, late⟩ := tiles_append.mp tiles
  refine ⟨fun other member => ?_, fun other member => (late.bounds member).1⟩
  rw [begins]
  exact (early.bounds member).2.2

/-! ## Kinds -/

namespace Kind

/-- Kinds of tokens in which line continuations are absorbed. -/
def Spliceable (kind : Kind) : Prop :=
  kind = .identifier ∨ kind.isOperator = true ∨ kind = .lineComment

instance : DecidablePred Spliceable :=
  fun _ => inferInstanceAs (Decidable (_ ∨ _ ∨ _))

theorem Spliceable.category {kind : Kind} (spliceable : kind.Spliceable) :
    kind.category = .atomic ∨ kind.category = .operator := by
  rcases spliceable with rfl | operator | rfl
  · exact Or.inl (by decide)
  · exact Or.inr (by simpa [isOperator] using operator)
  · exact Or.inl (by decide)

theorem not_spliceable_of_isLiteral {kind : Kind} (literal : kind.isLiteral = true) :
    ¬kind.Spliceable := by
  intro spliceable
  have category : kind.category = .literal := by simpa [isLiteral] using literal
  simpa [category] using spliceable.category

end Kind

theorem Numeral.not_spliceable {value : Numeral} (number : value.kind.isNumber = true) :
    ¬value.finalKind.Spliceable := by
  have final := Numeral.category_finalKind number
  intro spliceable
  simpa [final] using spliceable.category

namespace Scan

variable {ρ : Type} [Literal.Reader ρ] {profile : Profile ρ} {source : String}

/-- An offset strictly inside of a token in which line continuations are absorbed. -/
def Interior (profile : Profile ρ) (source : String) (offset : Nat) : Prop :=
  ∃ token ∈ tokens profile source, token.kind.Spliceable ∧ token.span.start < offset ∧
    offset < token.span.stop

/-! ## Modes that settle the kind of a token -/

/-- Modes in which the next token reaches at least up to the mark, and in which line
continuations are not absorbed. -/
def Solid (mark : Nat) : Mode → Prop
  | .blank _ | .number _ | .float _ | .blockComment .. | .literal .. => True
  | .numberPrefix _ pending => ∀ span, Located.spanOf? pending = some span → mark ≤ span.stop
  | .maybeFloat _ dot hasInteger => hasInteger = true ∧ mark ≤ dot
  | _ => False

/-- The reaction reports a token beyond the mark in which line continuations are not
absorbed. -/
def Settles (mark : Nat) (reaction : Reaction ρ) : Prop :=
  ∃ token, tokensOf reaction.reports = [token] ∧ ¬token.kind.Spliceable ∧ mark ≤ token.span.stop

/-- The reaction settles the kind of the next token or leaves it settled. -/
def Stays (mark : Nat) (reaction : Reaction ρ) (again : List Fed) : Prop :=
  Settles mark reaction ∨
    tokensOf reaction.reports = [] ∧ Solid mark reaction.state.mode ∧ reaction.next ⊆ again

variable {state : ScanState ρ} {fed : Fed} {reaction : Reaction ρ} {mark stop : Nat}
  {again : List Fed}

omit [Literal.Reader ρ] in
theorem settles_finish {kind : Kind} {payload : Payload} (other : ¬kind.Spliceable)
    (beyond : mark ≤ stop) : Settles mark (state.finish kind stop payload) :=
  ⟨_, rfl, other, beyond⟩

omit [Literal.Reader ρ] in
theorem settles_reject {span : Span} {complaint : Option String} (beyond : mark ≤ span.stop) :
    Settles mark (state.reject span complaint) :=
  ⟨_, rfl, show ¬Kind.Spliceable .unexpected by decide, beyond⟩

omit [Literal.Reader ρ] in
theorem Settles.notify {report : Report} (settles : Settles mark reaction)
    (silent : report.event.token? = none) : Settles mark (reaction.notify report) := by
  obtain ⟨token, made, settled⟩ := settles
  exact ⟨token, by simpa [tokensOf, silent] using made, settled⟩

theorem blankKind_not_spliceable (run : Char) : ¬(blankKind run).Spliceable := by
  unfold blankKind
  split
  · decide
  · split <;> decide

omit [Literal.Reader ρ] in
theorem resolvePrefix_stays (sound : profile.Sound) {node : NodeId} {pending : List Located}
    (nonempty : pending ≠ [])
    (reaches : ∀ span, Located.spanOf? pending = some span → mark ≤ span.stop)
    (next : Option Fed) :
    Stays mark (resolvePrefix profile state node pending next) next.toList := by
  have beyond : ∀ {span : Span}, Located.spanOf? pending = some span → mark ≤ span.stop :=
    fun spanned => reaches _ spanned
  have plain := defaultNumeral_isNumber sound pending
  obtain ⟨_, resolved, answer⟩ := resolvePrefix_resolved profile state node pending next
  rw [answer]
  cases resolved with
  | spanless missing =>
      obtain ⟨first, rest, rfl⟩ := List.exists_cons_of_ne_nil nonempty
      simp [Located.spanOf?_cons] at missing
  | opens | goesOn => exact Or.inr ⟨rfl, trivial, List.Subset.refl _⟩
  | alone spanned known =>
      exact Or.inl (settles_finish (Numeral.not_spliceable (sound.numberKinds node _ known).1)
        (beyond spanned))
  | digits spanned =>
      exact Or.inl (settles_finish (Numeral.not_spliceable plain) (beyond spanned))
  | rejected spanned => exact Or.inl (settles_reject (beyond spanned))

omit [Literal.Reader ρ] in
theorem releaseDot_settles {value : Numeral} {dot : Nat} {hasInteger : Bool}
    (number : value.kind.isNumber = true) (integer : hasInteger = true) (beyond : mark ≤ dot) :
    Settles mark (releaseDot state value dot hasInteger) := by
  subst integer
  exact settles_finish (Numeral.not_spliceable number) beyond

theorem closeLiteral_settles {number : Nat} {kind : Kind}
    (available : (state.reader? number).isSome = true) (literal : kind.isLiteral = true)
    (beyond : mark ≤ stop) : Settles mark (closeLiteral state number kind stop) := by
  have other := Kind.not_spliceable_of_isLiteral literal
  have closed := closeLiteral_closed state number kind stop
  generalize closeLiteral state number kind stop = reaction at closed ⊢
  cases closed with
  | unread missing => simp [missing] at available
  | stops => exact settles_finish other beyond
  | stopsWith => exact (settles_finish other beyond).notify rfl
  | fails => exact (settles_reject beyond).notify rfl

theorem readLiteral_stays {number : Nat} {kind : Kind} (mode : state.mode = .literal number kind)
    (available : (state.reader? number).isSome = true) (literal : kind.isLiteral = true)
    (here : mark ≤ fed.offset) (beyond : mark ≤ fed.stop) :
    Stays mark (readLiteral profile state number kind fed) again := by
  have other := Kind.not_spliceable_of_isLiteral literal
  have continued := readLiteral_continued profile state number kind fed
  generalize readLiteral profile state number kind fed = reaction at continued ⊢
  cases continued with
  | unread missing => simp [missing] at available
  | proceeds | proceedsWith => exact Or.inr ⟨rfl, by simp [Solid, mode], List.nil_subset _⟩
  | stops => exact Or.inl (settles_finish other beyond)
  | stopsWith => exact Or.inl ((settles_finish other beyond).notify rfl)
  | failsBefore => exact Or.inl ((settles_reject here).notify rfl)
  | fails => exact Or.inl ((settles_reject beyond).notify rfl)

omit [Literal.Reader ρ] in
theorem Takes.solid {before after : Mode} (takes : Takes profile state fed before after)
    (solid : Solid mark before) (here : mark ≤ fed.offset) (beyond : mark ≤ fed.stop) :
    Solid mark after := by
  cases takes with
  | numberPrefix =>
      intro span found
      rw [Located.spanOf?, List.getLast?_concat] at found
      obtain ⟨first, _, same⟩ := Option.bind_eq_some_iff.mp found
      obtain rfl : ⟨first.offset, fed.stop⟩ = span := Option.some.inj same
      exact beyond
  | point => exact ⟨rfl, here⟩
  | @escape _ resume same =>
      subst same
      cases resume <;> exact solid.elim
  | identifier | lineComment | carriage => exact solid.elim
  | _ => trivial

omit [Literal.Reader ρ] in
theorem Completed.not_spliceable {next : Option Fed} {before : Mode} {kind : Kind}
    {payload : Payload} (completed : Completed profile state next stop before kind payload)
    (mode : state.mode = before) (valid : state.Valid profile) (solid : Solid mark before) :
    ¬kind.Spliceable := by
  unfold ScanState.Valid at valid
  rw [mode] at valid
  cases completed with
  | carriage => decide
  | blank => exact blankKind_not_spliceable _
  | number | float => exact Numeral.not_spliceable valid
  | identifier | lineComment => exact solid.elim

/-- Once the kind of the next token is settled, every answer leaves it so. -/
theorem Answered.stays {next : Option Fed} (answered : Answered profile stop state next reaction)
    (sound : profile.Sound) (valid : state.Valid profile) (solid : Solid mark state.mode)
    (ahead : ∀ fed ∈ next, mark ≤ fed.offset ∧ mark ≤ fed.stop) (beyond : mark ≤ stop) :
    Stays mark reaction next.toList := by
  have known := valid
  unfold ScanState.Valid at known
  cases answered with
  | takes mode takes =>
      obtain ⟨here, behind⟩ := ahead _ rfl
      subst mode
      exact Or.inr ⟨rfl, takes.solid solid here behind, List.nil_subset _⟩
  | completes mode completed =>
      have here : mark ≤ next.elim stop fun fed => fed.offset := by
        cases next with
        | none => exact beyond
        | some fed => exact (ahead fed rfl).1
      rw [mode] at solid
      exact Or.inl (settles_finish (completed.not_spliceable mode valid solid) here)
  | linefeed => exact Or.inl (settles_finish (by decide) (ahead _ rfl).2)
  | resolves mode =>
      rw [mode] at solid known
      exact resolvePrefix_stays sound known.1 solid _
  | releases mode =>
      rw [mode] at solid known
      exact Or.inl (releaseDot_settles known solid.1 solid.2)
  | closesBlock =>
      exact Or.inl ⟨_, rfl, show ¬Kind.Spliceable .blockComment by decide, (ahead _ rfl).2⟩
  | unclosed => exact Or.inl (settles_reject beyond)
  | reads mode =>
      obtain ⟨here, behind⟩ := ahead _ rfl
      rw [mode] at known
      exact readLiteral_stays mode known.1 known.2 here behind
  | closesLiteral mode =>
      rw [mode] at known
      exact Or.inl (closeLiteral_settles known.1 known.2 beyond)
  | between mode | extendsOperator mode | endsOperator mode | extendsIntroduction mode
  | endsIntroduction mode | joins mode | joinsBefore mode | abandons mode =>
      rw [mode] at solid
      exact solid.elim

/-- The first token from a configuration in which its kind is settled. -/
theorem Yields.settled (sound : profile.Sound) {count : Nat} {config : Config ρ}
    {reports : List Report} (yields : Yields profile stop count config reports)
    (sane : Sane profile config.state) (solid : Solid mark config.state.mode)
    (ahead : ∀ fed ∈ config.queue, mark ≤ fed.offset ∧ mark ≤ fed.stop) (beyond : mark ≤ stop) :
    ∃ token rest, tokensOf reports = token :: rest ∧ ¬token.kind.Spliceable ∧
      mark ≤ token.span.stop := by
  induction yields with
  | done _ done =>
      rw [done.mode] at solid
      exact solid.elim
  | @next config reaction rest reports _ next yields ih =>
      obtain ⟨symbol, same, _, answered⟩ := answered_next next
      rw [same] at ahead
      obtain ⟨first, others⟩ := List.forall_mem_append.mp ahead
      rw [tokensOf_append]
      rcases answered.stays sound sane.valid solid (by simpa using first) beyond with
        ⟨token, made, other, reaches⟩ | ⟨quiet, solid, given⟩
      · exact ⟨token, tokensOf reports, by rw [made]; rfl, other, reaches⟩
      · rw [quiet, List.nil_append]
        refine ih (answered.sane sound sane) solid (List.forall_mem_append.mpr ⟨?_, others⟩)
        exact fun fed member => first fed (given member)

/-! ## Positions -/

omit [Literal.Reader ρ] in
/-- Without line continuations no segment that is to be fed has absorbed anything. -/
theorem Rests.bare {mode : Mode} {body queued : List Segment}
    (rests : Rests (.tight fun _ => False) profile mode body queued) :
    ∀ segment ∈ queued, segment.trail = [] := by
  have chained : ∀ {segments : List Segment}, (Policy.tight fun _ => False).Chain segments →
      ∀ segment ∈ segments, segment.trail = [] := by
    intro segments chain segment member
    cases segments with
    | nil => simp at member
    | cons first others =>
        rcases List.mem_cons.mp member with rfl | later
        · exact chain.1.resolve_right id
        · exact chain.2 segment later
  unfold Rests at rests
  intro segment member
  cases mode with
  | idle => exact chained rests.2 segment member
  | numberPrefix node pending => exact rests.2 segment (by simp [member])
  | literalPrefix walk => exact rests.2 segment (by simp [member])
  | maybeFloat value dot hasInteger =>
      obtain ⟨_, _, _, _, _, chain⟩ := rests
      exact chained chain segment (by simp [member])
  | operator walk => exact rests.2.2.1 segment member
  | _ => exact rests segment member

/-- Where the machine stands in the source when it looks at a symbol. -/
structure StandsAt (profile : Profile ρ) (source : String) (past : List Report)
    (state : ScanState ρ) (fed : Fed) (rest : List Fed) (border : Nat) : Prop where
  sane : Sane profile state
  tiles : Tiles 0 (tokensOf past) border
  behind : border ≤ fed.offset
  between : state.mode = .idle → border = fed.offset
  ahead : ∀ other ∈ fed :: rest, fed.offset ≤ other.offset ∧ fed.offset ≤ other.stop
  inside : fed.offset ≤ byteLength source.toList
  follows : ∃ front text, source.toList = front ++ text ∧ fed.offset = byteLength front ∧
    (fed :: rest).map Fed.toLocated = Located.ofText fed.offset text
  adjacent : ∀ node pending, state.mode = .numberPrefix node pending →
    ∀ span, Located.spanOf? pending = some span → fed.offset ≤ span.stop
  waits : ∀ resume escape carriage, state.mode = .continuation resume escape carriage →
    escape.symbol ∈ source.toList

theorem Reaches.stands {past : List Report} {rest : List Fed}
    (fits : byteLength source.toList ≤ maxOffset)
    (setting : Setting (.tight fun _ => False) profile (Located.ofText 0 source.toList))
    (reaches : Reaches profile source past ⟨state, fed :: rest⟩) :
    ∃ border, StandsAt profile source past state fed rest border := by
  obtain ⟨reported, held, ahead, body, wait, queued, apportions⟩ := reaches.apportions fits setting
  have bare := Rests.bare apportions.rests
  have whole := apportions.whole
  have aheadText := apportions.aheadText
  rw [Segment.flatten_of_bare fun segment member => bare segment (by simp [member]),
    apportions.feeds] at aheadText
  have total : byteLength source.toList = byteLength (reported ++ held) + byteLength ahead := by
    rw [whole, ← List.append_assoc, byteLength_append]
  have first : fed.offset = byteLength (reported ++ held) := by
    cases ahead with
    | nil => simp [Located.ofText] at aheadText
    | cons symbol ahead => exact congrArg Located.offset (List.cons_eq_cons.mp aheadText).1
  have behind : byteLength (reported ++ held) = byteLength reported + byteLength held :=
    byteLength_append ..
  refine ⟨byteLength reported, apportions.sane, apportions.tiles, by omega, ?_, ?_, by omega,
    ⟨reported ++ held, ahead, by rw [whole, List.append_assoc], first, first ▸ aheadText⟩, ?_, ?_⟩
  · intro idle
    obtain ⟨rfl, _⟩ := apportions.between idle
    rw [first, List.append_nil]
  · intro other member
    have inside : other.toLocated ∈ Located.ofText (byteLength (reported ++ held)) ahead := by
      rw [← aheadText]
      exact List.mem_map_of_mem member
    have bounds := Located.offset_of_mem_ofText (by omega) inside
    have stop : other.offset ≤ other.stop := by
      unfold Located.stop symbolEnd
      omega
    omega
  · intro node pending mode span found
    have waiting := apportions.waiting
    have rests := apportions.rests
    have heldText := apportions.heldText
    rw [mode] at waiting rests
    obtain rfl : wait = [] := by simpa [Mode.waiting] using waiting
    obtain ⟨rfl, loose⟩ := rests
    rw [List.append_nil, Segment.flatten_of_bare fun segment member => loose segment
      (by simp [member])] at heldText
    have nonempty : held ≠ [] := by
      rintro rfl
      rw [heldText] at found
      simp [Located.ofText, Located.spanOf?] at found
    rw [heldText, Located.spanOf?_ofText _ nonempty (by omega)] at found
    obtain rfl := Option.some.inj found
    exact Nat.le_of_eq (first.trans behind)
  · intro resume escape carriage mode
    have waiting := apportions.waiting
    rw [mode] at waiting
    obtain ⟨segment, _, rfl, rfl, _⟩ := List.map_eq_cons_iff.mp waiting
    have inside : segment.symbol ∈ Located.ofText (byteLength reported) held := by
      rw [← apportions.heldText]
      simp [Segment.flatten, Segment.located]
    have symbol := Located.symbol_mem_of_mem_ofText inside
    simp [whole, symbol]

/-! ## The token around an inner offset -/

/-- Tokens of a source that are reported up to some moment, and those from there on. -/
theorem Reaches.future {past reports : List Report} {config : Config ρ}
    (foresees : Foresees profile source (opening source) reports)
    (received : events profile source = reports.map Report.event)
    (reaches : Reaches profile source past config) :
    ∃ future, Foresees profile source config future ∧
      tokens profile source = tokensOf past ++ tokensOf future := by
  obtain ⟨future, rfl, ahead⟩ := foresees.after reaches
  refine ⟨future, ahead, ?_⟩
  rw [tokens, received, List.filterMap_map, ← tokensOf_append]
  rfl

section Around

variable {inner before after : List Token} {last first : Token} {border : Nat}

theorem Interior.bounds (interior : Interior profile source mark)
    (decomposed : tokens profile source = inner ++ [last]) (tiling : Tiling source inner last) :
    ∃ token ∈ inner, token.kind.Spliceable ∧ token.span.start < mark ∧ mark < token.span.stop := by
  obtain ⟨token, member, spliceable, starts, stops⟩ := interior
  rw [decomposed] at member
  rcases List.mem_append.mp member with early | late
  · exact ⟨token, early, spliceable, starts, stops⟩
  · obtain rfl := List.mem_singleton.mp late
    rw [tiling.fin.2] at starts stops
    simp only [Span.point] at starts stops
    omega

/-- No token begins or ends inside of another one. -/
theorem Interior.not_border (interior : Interior profile source mark)
    (decomposed : tokens profile source = inner ++ [last]) (tiling : Tiling source inner last)
    {other : Token} (member : other ∈ tokens profile source) :
    other.span.start ≠ mark ∧ other.span.stop ≠ mark := by
  obtain ⟨token, inside, _, starts, stops⟩ := interior.bounds decomposed tiling
  have total := (tiling.tiles.bounds inside).2.2
  rw [decomposed] at member
  rcases List.mem_append.mp member with early | late
  · have positive := (tiling.tiles.bounds early).2.1
    obtain ⟨before, after, rfl⟩ := List.append_of_mem inside
    obtain ⟨left, right⟩ := tiling.tiles.around
    rcases List.mem_append.mp early with front | back
    · have below := left other front
      omega
    rcases List.mem_cons.mp back with rfl | behind
    · omega
    · have above := right other behind
      omega
  · obtain rfl := List.mem_singleton.mp late
    rw [tiling.fin.2]
    simp only [Span.point]
    omega

/-- The token around an offset that is not passed yet is the next one or a later one. -/
theorem Interior.next (interior : Interior profile source mark)
    (decomposed : tokens profile source = inner ++ [last]) (tiling : Tiling source inner last)
    (cut : tokens profile source = before ++ first :: after) (tiles : Tiles 0 before border)
    (behind : border ≤ mark) :
    first.span.start = border ∧ border < first.span.stop ∧
      ∃ token : Token, token.kind.Spliceable ∧ token.span.start < mark ∧ mark < token.span.stop ∧
        (token = first ∨ first.span.stop ≤ token.span.start) := by
  obtain ⟨token, inside, spliceable, starts, stops⟩ := interior.bounds decomposed tiling
  have passed : token ∉ before := fun member => by
    have bounds := (tiles.bounds member).2.2
    omega
  rw [cut] at decomposed
  rcases List.eq_nil_or_concat after with rfl | ⟨more, final, rfl⟩
  · obtain ⟨rfl, _⟩ := List.append_inj' decomposed rfl
    exact absurd inside passed
  · rw [List.concat_eq_append, ← List.cons_append, ← List.append_assoc] at decomposed
    obtain ⟨rfl, _⟩ := List.append_inj' decomposed rfl
    obtain ⟨middle, early, begins, positive, _⟩ := tiles_append.mp tiling.tiles
    obtain rfl := tiles.unique early
    refine ⟨begins, positive, token, spliceable, starts, stops, ?_⟩
    rcases List.mem_append.mp inside with front | back
    · exact absurd front passed
    rcases List.mem_cons.mp back with same | later
    · exact Or.inl same
    · exact Or.inr (tiling.tiles.around.2 token later)

/-- The next token does not reach up to the offset if it is of another kind. -/
theorem Interior.not_next (interior : Interior profile source mark)
    (decomposed : tokens profile source = inner ++ [last]) (tiling : Tiling source inner last)
    (cut : tokens profile source = before ++ first :: after) (tiles : Tiles 0 before border)
    (behind : border ≤ mark) (beyond : mark ≤ first.span.stop)
    (other : ¬first.kind.Spliceable) : False := by
  obtain ⟨_, _, token, spliceable, starts, stops, rfl | later⟩ :=
    interior.next decomposed tiling cut tiles behind
  · exact other spliceable
  · omega

/-- The machine is not between tokens there. -/
theorem Interior.not_between (interior : Interior profile source mark)
    (decomposed : tokens profile source = inner ++ [last]) (tiling : Tiling source inner last)
    (cut : tokens profile source = before ++ first :: after) (tiles : Tiles 0 before mark) :
    False := by
  obtain ⟨begins, positive, token, _, starts, stops, rfl | later⟩ :=
    interior.next decomposed tiling cut tiles (Nat.le_refl mark)
  · omega
  · omega

end Around

/-! ## Scans inside of a token -/

theorem Yields.tokens_ne_nil {count : Nat} {config : Config ρ} {reports : List Report}
    (yields : Yields profile stop count config reports) : tokensOf reports ≠ [] := by
  induction yields with
  | done => simp [tokensOf, Report.event, Event.token?]
  | next _ _ ih => simp [ih]

/-- A source without line continuations, with the reports and the tokens of its scan. -/
structure Surveyed (profile : Profile ρ) (source : String) (reports : List Report)
    (inner : List Token) (last : Token) : Prop where
  fits : byteLength source.toList ≤ maxOffset
  inert : ∀ located : Located, located.symbol ∈ source.toList → ¬CanContinue profile located
  setting : Setting (.tight fun _ => False) profile (Located.ofText 0 source.toList)
  foresees : Foresees profile source (opening source) reports
  received : events profile source = reports.map Report.event
  decomposed : tokens profile source = inner ++ [last]
  tiling : Tiling source inner last

theorem surveyed_of_unescaped (sound : profile.Sound)
    (undotted : profile.literals.advance Trie.root '.' = none)
    (unescaped : profile.options.honorLineContinuation = false ∨
      ∀ symbol ∈ source.toList, (profile.classes.classify symbol).escape = false)
    (fits : byteLength source.toList ≤ maxOffset) :
    ∃ reports inner last, Surveyed profile source reports inner last := by
  have setting := setting_of_unescaped sound unescaped
  obtain ⟨reports, foresees, received, _⟩ :=
    transcribed fits (bounded_of_setting setting (Located.adjoin_source fits) undotted)
  obtain ⟨inner, last, decomposed, tiling⟩ := tokens_tiling fits undotted setting
  exact ⟨reports, inner, last, fits, fun _ => not_canContinue_of_unescaped unescaped, setting,
    foresees, received, decomposed, tiling⟩

namespace Surveyed

variable {reports past made : List Report} {inner : List Token} {last : Token}
  {rest : List Fed} {config : Config ρ} (surveyed : Surveyed profile source reports inner last)

include surveyed

theorem sane (reaches : Reaches profile source past config) : Sane profile config.state :=
  Leads.keeps reaches (keeps_sane surveyed.setting.sound _)
    ⟨ScanState.valid_idle rfl, rfl, by simp [opening]⟩

variable (reaches : Reaches profile source past ⟨state, fed :: rest⟩)

include reaches

/-- No symbol begins a line continuation. -/
theorem unheld : beginsContinuation profile state fed = false := by
  obtain ⟨border, stands⟩ := reaches.stands surveyed.fits surveyed.setting
  obtain ⟨front, text, whole, _, symbols⟩ := stands.follows
  refine beginsContinuation_eq_false state stands.sane.classes (surveyed.inert _ ?_)
  have member : fed.toLocated ∈ Located.ofText fed.offset text := by simp [← symbols]
  rw [whole]
  exact List.mem_append_right _ (Located.symbol_mem_of_mem_ofText member)

theorem not_waiting (resume : Resume) (escape : Located) (carriage : Option Nat) :
    state.mode ≠ .continuation resume escape carriage := by
  intro mode
  obtain ⟨border, stands⟩ := reaches.stands surveyed.fits surveyed.setting
  exact surveyed.inert escape (stands.waits _ _ _ mode) (stands.sane.waits _ _ _ mode)

variable (interior : Interior profile source fed.offset)

include interior

/-- Inside of a token, the machine is not between tokens. -/
theorem not_idle : state.mode ≠ .idle := by
  intro idle
  obtain ⟨border, stands⟩ := reaches.stands surveyed.fits surveyed.setting
  obtain ⟨future, ⟨_, yields⟩, cut⟩ := reaches.future surveyed.foresees surveyed.received
  obtain ⟨first, after, ahead⟩ := List.exists_cons_of_ne_nil yields.tokens_ne_nil
  rw [ahead] at cut
  exact interior.not_between surveyed.decomposed surveyed.tiling cut
    (stands.between idle ▸ stands.tiles)

variable (leads : Leads profile (some (byteLength source.toList)) ⟨state, fed :: rest⟩ made config)

include leads

/-- The machine does not get to where the next token is certain to be of another kind. -/
theorem not_solid (silent : tokensOf made = []) (ahead : config.queue ⊆ fed :: rest) :
    ¬Solid fed.offset config.state.mode := by
  intro solid
  obtain ⟨border, stands⟩ := reaches.stands surveyed.fits surveyed.setting
  obtain ⟨future, foresees, cut⟩ := reaches.future surveyed.foresees surveyed.received
  obtain ⟨later, rfl, _, yields⟩ := foresees.after leads
  obtain ⟨token, others, first, kind, beyond⟩ := yields.settled surveyed.setting.sound
    (surveyed.sane (reaches.trans leads)) solid
    (fun other member => stands.ahead other (ahead member)) stands.inside
  rw [tokensOf_append, silent, first, List.nil_append] at cut
  exact interior.not_next surveyed.decomposed surveyed.tiling cut stands.tiles stands.behind
    beyond kind

end Surveyed

end Scan

end Lexing
