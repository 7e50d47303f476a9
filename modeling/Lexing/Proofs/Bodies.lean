import Lexing.Proofs.Layout

/-!
# What tokens cover while they are read

Blanks, identifiers, numbers, comments and the content of literals go on symbol by
symbol.  Their tokens end before or with the symbol that ends them.  A prefix of a
number that turns out to be none gives its symbols back, and so does a point without
a digit behind it.
-/

namespace Lexing

namespace Scan

variable {ρ : Type} {policy : Policy} {profile : Profile ρ} {symbols unread queue : List Located}
  {stop : Nat} {tokens : List Token} {splices : List Splice} {state : ScanState ρ}
  {done body queued more : List Segment} {reaction : Reaction ρ} {fed : Fed}

/-! ## Tokens that go on symbol by symbol -/

/-- Tokens that are complete before the next symbol are blanks, line terminators, identifiers,
line comments or numbers. -/
theorem Completed.kind_cases {next : Option Fed} {before : Mode} {kind : Kind} {payload : Payload}
    (completed : Completed profile state next stop before kind payload)
    (mode : state.mode = before) (valid : state.Valid profile) :
    kind ∈ [.linefeed, .space, .tab, .formFeed, .identifier, .lineComment] ∨
      kind.category = .number := by
  unfold ScanState.Valid at valid
  rw [mode] at valid
  cases completed with
  | carriage | identifier | lineComment => exact Or.inl (by decide)
  | blank =>
      unfold blankKind
      split
      · exact Or.inl (by decide)
      · split <;> exact Or.inl (by decide)
  | number | float => exact Or.inr (Numeral.category_finalKind valid)

theorem Completed.ne_fin {next : Option Fed} {before : Mode} {kind : Kind} {payload : Payload}
    (completed : Completed profile state next stop before kind payload)
    (mode : state.mode = before) (valid : state.Valid profile) : kind ≠ .fin := by
  rintro rfl
  rcases completed.kind_cases mode valid with plain | number
  · exact absurd plain (by decide)
  · exact absurd number (by decide)

section Bodies

variable {trail : List Splice}
  (facing : Facing policy symbols stop tokens splices unread (fed.toLocated :: queue) done body
    (⟨fed.toLocated, trail⟩ :: more))
  (begun : Segment.Begin state.tokenStart body)
  (loose : ∀ segment ∈ (⟨fed.toLocated, trail⟩ : Segment) :: more, policy.loose segment)
include facing begun loose

/-- The machine takes the symbol and goes over to a mode that knows nothing about
its symbols. -/
theorem become_stands {mode : Mode} (settled : mode.waiting = []) (same : mode.resting = mode)
    (rests : (∀ segment ∈ more, policy.loose segment) →
      Rests policy profile mode (body ++ [⟨fed.toLocated, trail⟩]) more) :
    Stands policy profile symbols stop tokens splices unread queue (state.become mode) := by
  refine facing.extend rfl rfl settled (begun.append _) ?_
  rw [ScanState.become_mode, same]
  exact rests fun segment member => loose segment (by simp [member])

theorem readLiteral_stands [Literal.Reader ρ] {number : Nat} {kind : Kind}
    (mode : state.mode = .literal number kind) (present : (state.reader? number).isSome = true)
    (literal : kind.isLiteral = true) :
    Stands policy profile symbols stop tokens splices unread queue
      (readLiteral profile state number kind fed) := by
  have named : kind ≠ .fin := Kind.ne_of_category (Kind.category_of_isLiteral literal) (by decide)
  have behind : ∀ segment ∈ more, policy.loose segment :=
    fun segment member => loose segment (by simp [member])
  have continued := readLiteral_continued profile state number kind fed
  generalize readLiteral profile state number kind fed = reaction at continued ⊢
  cases continued with
  | unread missing => simp [missing] at present
  | proceeds | proceedsWith =>
      refine facing.extend rfl rfl ?_ (begun.append _) ?_
      · simp [mode, Mode.waiting]
      · simpa [mode, Mode.resting, Rests] using behind
  | stops => exact facing.closing_with ⟨rfl, rfl, _, rfl, named, rfl⟩ (begun.append _) rfl loose
  | stopsWith =>
      exact facing.closing_with (Closing.notify ⟨rfl, rfl, _, rfl, named, rfl⟩ rfl)
        (begun.append _) rfl loose
  | failsBefore =>
      exact stands_feed.mpr (facing.closing_before ((closing_reject _ _ _).notify rfl) begun rfl
        (Policy.chain_of_loose loose))
  | fails =>
      exact facing.closing_with ((closing_reject _ _ _).notify rfl) (begun.append _) rfl loose

end Bodies

theorem closeLiteral_closing [Literal.Reader ρ] {number : Nat} {kind : Kind} {last : Nat}
    (present : (state.reader? number).isSome = true) (literal : kind.isLiteral = true) :
    Closing (closeLiteral state number kind last) state.tokenStart last := by
  have named : kind ≠ .fin := Kind.ne_of_category (Kind.category_of_isLiteral literal) (by decide)
  have closed := closeLiteral_closed state number kind last
  generalize closeLiteral state number kind last = reaction at closed ⊢
  cases closed with
  | unread missing => simp [missing] at present
  | stops => exact ⟨rfl, rfl, _, rfl, named, rfl⟩
  | stopsWith =>
      refine Closing.notify ?_ rfl
      exact ⟨rfl, rfl, _, rfl, named, rfl⟩
  | fails => exact (closing_reject _ _ _).notify rfl

theorem closing_closeBlock {text : List Char} {crossed : Bool} {last : Nat} :
    Closing (closeBlock profile state text crossed last) state.tokenStart last := by
  have named : Kind.blockComment ≠ .fin := by decide
  exact ⟨rfl, rfl, _, rfl, named, rfl⟩

theorem Completed.loose {next : Option Fed} {before : Mode} {kind : Kind} {payload : Payload}
    {place : Nat} (completed : Completed profile state next place before kind payload)
    (rests : Rests policy profile before body queued) :
    ∀ segment ∈ queued, policy.loose segment := by
  cases completed <;> exact rests

/-! ## Prefixes of numbers -/

theorem spanOf?_body {start : Nat} (begun : Segment.Begin start body) {front : List Segment}
    {last : Segment} (cut : body = front ++ [last]) :
    Located.spanOf? (body.map Segment.symbol) = some ⟨start, last.symbol.stop⟩ := by
  obtain ⟨first, others, rfl, offset⟩ := begun
  have final : (List.map Segment.symbol (first :: others)).getLast? = some last.symbol := by
    rw [cut]
    simp
  rw [List.map_cons] at final ⊢
  rw [Located.spanOf?, final]
  simp [offset]

theorem resolvePrefix_stands {node : NodeId} (next : Option Fed) (sound : profile.Sound)
    (facing : Facing policy symbols stop tokens splices unread
      (next.toList.map Fed.toLocated ++ queue) done body queued)
    (begun : Segment.Begin state.tokenStart body)
    (loose : ∀ segment ∈ body ++ queued, policy.loose segment) :
    Stands policy profile symbols stop tokens splices unread queue
      (resolvePrefix profile state node (body.map Segment.symbol) next) := by
  have behind : ∀ segment ∈ queued, policy.loose segment :=
    fun segment member => loose segment (by simp [member])
  obtain rfl | ⟨front, last, cut⟩ := List.eq_nil_or_concat body
  · exact absurd rfl begun.ne_nil
  rw [List.concat_eq_append] at cut
  have span := spanOf?_body begun cut
  have closed : ∀ reaction : Reaction ρ, Closing reaction state.tokenStart last.symbol.stop →
      Stands policy profile symbols stop tokens splices unread queue
        (reaction.feed next.toList) := by
    intro reaction closing
    refine stands_feed.mpr (facing.closing closing begun ?_ (Policy.chain_of_loose behind))
    intro other final again
    obtain ⟨_, rfl⟩ :=
      List.append_inj' (again.symm.trans cut) rfl |>.imp_right List.singleton_inj.mp
    exact Or.inl ⟨rfl, loose _ (by simp [cut])⟩
  have goesOn : ∀ value, Stands policy profile symbols stop tokens splices unread queue
      ((state.become (.number value)).feed next.toList) := by
    intro value
    have whole : Facing policy symbols stop tokens splices unread
        (next.toList.map Fed.toLocated ++ queue) done (body ++ []) queued := by simpa using facing
    exact stands_feed.mpr (whole.keep rfl rfl rfl (fun _ => begun) behind)
  have prefixed : ∀ kind, profile.numberPrefixes.kind? node = some kind →
      (Numeral.ofKind kind).finalKind ≠ .fin := fun kind found =>
    Kind.ne_of_category (Numeral.category_finalKind (sound.numberKinds node kind found).1)
      (by decide)
  have plain : (defaultNumeral profile (body.map Segment.symbol)).finalKind ≠ .fin :=
    Kind.ne_of_category (Numeral.category_finalKind (defaultNumeral_isNumber sound _)) (by decide)
  obtain ⟨_, resolved, answer⟩ :=
    resolvePrefix_resolved profile state node (body.map Segment.symbol) next
  rw [answer]
  cases resolved with
  | spanless missing => simp [span] at missing
  | opens | goesOn => exact goesOn _
  | alone spanned known =>
      obtain rfl := Option.some.inj (span.symm.trans spanned)
      exact closed _ (closing_finish state (prefixed _ known) _ _)
  | digits spanned =>
      obtain rfl := Option.some.inj (span.symm.trans spanned)
      exact closed _ (closing_finish state plain _ _)
  | rejected spanned =>
      obtain rfl := Option.some.inj (span.symm.trans spanned)
      exact closed _ (closing_reject state _ _)

/-! ## Points -/

theorem releaseDot_stands {value : Numeral} {dot : Nat} {hasInteger : Bool}
    (number : value.kind.isNumber = true)
    (facing : Facing policy symbols stop tokens splices unread queue done body queued)
    (begun : Segment.Begin state.tokenStart body)
    (rests : Rests policy profile (.maybeFloat value dot hasInteger) body queued) :
    Stands policy profile symbols stop tokens splices unread queue
      (releaseDot state value dot hasInteger) := by
  obtain ⟨front, point, rfl, symbol, absent, chain⟩ := rests
  cases hasInteger with
  | false =>
      obtain rfl : front = [] := absent.mpr rfl
      exact facing.keep rfl (by simp [releaseDot, symbol]) rfl (by simp [releaseDot, Mode.resting])
        ⟨rfl, chain⟩
  | true =>
      have before : front ≠ [] := fun empty => by simpa using absent.mp empty
      obtain ⟨first, others, rfl⟩ := List.exists_cons_of_ne_nil before
      have integer : Segment.Begin state.tokenStart (first :: others) := by
        obtain ⟨_, _, same, offset⟩ := begun
        obtain ⟨rfl, _⟩ := List.cons_eq_cons.mp same
        exact ⟨first, others, rfl, offset⟩
      have named := Kind.ne_of_category (Numeral.category_finalKind number)
        (show Kind.fin.category ≠ .number by decide)
      refine facing.close rfl named integer ?_ (by simp [releaseDot, symbol])
        rfl chain
      intro front last cut
      have ends := facing.ends_inside cut
      rwa [symbol] at ends

/-! ## Escape symbols -/

theorem awaitLineEnd_stands (resume : Resume) {trail : List Splice}
    (facing : Facing policy symbols stop tokens splices unread (fed.toLocated :: queue) done body
      (⟨fed.toLocated, trail⟩ :: more))
    (begun : resume.mode ≠ .idle → Segment.Begin state.tokenStart body)
    (rests : Rests policy profile resume.mode body (⟨fed.toLocated, trail⟩ :: more)) :
    Stands policy profile symbols stop tokens splices unread queue
      (awaitLineEnd state resume fed) := by
  refine ⟨done, body, [⟨fed.toLocated, trail⟩], more, by simpa using facing.account, ?_⟩
  exact ⟨by simpa [awaitLineEnd, tokensOf] using facing.covers, facing.shift.feeds, rfl, begun,
    rests⟩

/-! ## Symbols that belong to a token -/

/-- What a mode takes belongs to its token. -/
theorem Takes.stands {before after : Mode} {trail : List Splice}
    (takes : Takes profile state fed before after)
    (plain : ∀ resume escape carriage, before ≠ .continuation resume escape carriage)
    (facing : Facing policy symbols stop tokens splices unread (fed.toLocated :: queue) done body
      (⟨fed.toLocated, trail⟩ :: more))
    (begun : Segment.Begin state.tokenStart body)
    (rests : Rests policy profile before body (⟨fed.toLocated, trail⟩ :: more)) :
    Stands policy profile symbols stop tokens splices unread queue (state.become after) := by
  cases takes with
  | blank | identifier | digit | separator | fraction | fractionSeparator | lineComment
  | blockComment => exact become_stands facing begun rests rfl rfl id
  | numberPrefix =>
      obtain ⟨rfl, loose⟩ := rests
      refine facing.extend rfl rfl rfl (begun.append _) ⟨by simp, ?_⟩
      exact fun segment member => loose segment (by simpa using member)
  | point _ dot =>
      refine become_stands facing begun rests rfl rfl fun behind => ?_
      refine ⟨body, ⟨fed.toLocated, trail⟩, rfl, ?_, by simp [begun.ne_nil], ?_⟩
      · rw [← dot]
      · exact Policy.chain_of_loose rests
  | firstFraction =>
      obtain ⟨_, _, _, _, _, chain⟩ := rests
      exact become_stands facing begun chain.2 rfl rfl id
  | escape resumes =>
      subst resumes
      exact awaitLineEnd_stands _ facing (fun _ => begun) rests
  | carriage => exact (plain _ _ _ rfl).elim

end Scan

end Lexing
