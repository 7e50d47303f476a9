import Lexing.Proofs.Coverage

/-!
# Absorbed line ends

An operator absorbs the line ends inside it.  When the operator turns out to be
shorter than the walk that read it, the symbols behind it are fed again, but the line
ends that were absorbed among them are not.  Such a line end lies inside a token
exactly when the symbol in front of it does not happen to be the end of one.  Line
ends that were absorbed while the walk had nothing to give back are always inside a
token.
-/

namespace Lexing

/-! ## Symbols in the order of a text -/

namespace Located

theorem offset_lt_stop_of_mem_ofText {offset : Nat} {text : List Char} {located : Located}
    (fits : offset + byteLength text ≤ maxOffset) (member : located ∈ ofText offset text) :
    located.offset < located.stop := by
  induction text generalizing offset with
  | nil => simp [ofText] at member
  | cons symbol rest ih =>
      have size := symbol.utf8Size_pos
      simp only [byteLength] at fits
      have stop : symbolEnd symbol offset = offset + symbol.utf8Size := by
        unfold symbolEnd
        omega
      rcases List.mem_cons.mp member with rfl | later
      · simp only [Located.stop, stop]
        omega
      · exact ih (by omega) (stop ▸ later)

theorem Adjoin.bounds {first last : Nat} {symbols : List Located}
    (adjoin : Adjoin first symbols last)
    (solid : ∀ located ∈ symbols, located.offset < located.stop) :
    first ≤ last ∧ ∀ located ∈ symbols, first ≤ located.offset ∧ located.stop ≤ last := by
  induction symbols generalizing first with
  | nil =>
      have same : first = last := adjoin
      simp [same]
  | cons head rest ih =>
      obtain ⟨offset, tail⟩ := adjoin
      have size := solid head (by simp)
      obtain ⟨le, inside⟩ := ih tail fun located member => solid located (by simp [member])
      refine ⟨by omega, ?_⟩
      intro located member
      rcases List.mem_cons.mp member with rfl | later
      · omega
      · have := inside located later
        omega

theorem Adjoin.nodup {first last : Nat} {symbols : List Located}
    (adjoin : Adjoin first symbols last)
    (solid : ∀ located ∈ symbols, located.offset < located.stop) : symbols.Nodup := by
  induction symbols generalizing first with
  | nil => exact List.nodup_nil
  | cons head rest ih =>
      have others : ∀ located ∈ rest, located.offset < located.stop :=
        fun located member => solid located (by simp [member])
      refine List.nodup_cons.mpr ⟨fun again => ?_, ih adjoin.2 others⟩
      have bounds := (adjoin.2.bounds others).2 head again
      have size := solid head (by simp)
      omega

end Located

/-! ## Tokens around a symbol -/

def Token.spans (token : Token) (located : Located) : Bool :=
  token.span.start ≤ located.offset ∧ located.stop ≤ token.span.stop

def spanCount (tokens : List Token) (located : Located) : Nat :=
  tokens.countP (·.spans located)

/-- No two of the tokens span the absorbed symbol, and one does unless a token ends
with the symbol in front. -/
structure Fate (tokens : List Token) (anchor absorbed : Located) : Prop where
  atMost : spanCount tokens absorbed ≤ 1
  once : spanCount tokens absorbed = 1 ↔ ∀ token ∈ tokens, token.span.stop ≠ anchor.stop

variable {tokens : List Token} {token : Token} {anchor absorbed : Located}

/-- A token that starts behind a symbol does not count. -/
theorem spanCount_of_behind (tokens : List Token) (behind : absorbed.offset < token.span.start) :
    spanCount (tokens ++ [token]) absorbed = spanCount tokens absorbed := by
  have misses : token.spans absorbed = false := by
    rw [Token.spans, decide_eq_false_iff_not]
    omega
  simp [spanCount, misses]

/-- Tokens that stop before a symbol do not count. -/
theorem spanCount_of_early {start : Nat} (early : ∀ token ∈ tokens, token.span.stop ≤ start)
    (behind : start < absorbed.stop) :
    spanCount (tokens ++ [token]) absorbed = if token.spans absorbed then 1 else 0 := by
  have none : tokens.countP (·.spans absorbed) = 0 := by
    rw [List.countP_eq_zero]
    intro other member spans
    have stop := early other member
    simp only [Token.spans, decide_eq_true_eq] at spans
    omega
  rw [spanCount, List.countP_append, none, List.countP_singleton, Nat.zero_add]

theorem Fate.append (fate : Fate tokens anchor absorbed)
    (behind : absorbed.offset < token.span.start) (later : anchor.stop < token.span.stop) :
    Fate (tokens ++ [token]) anchor absorbed := by
  refine ⟨by rw [spanCount_of_behind tokens behind]; exact fate.atMost, ?_⟩
  rw [spanCount_of_behind tokens behind, fate.once]
  constructor
  · intro free other member
    rcases List.mem_append.mp member with early | late
    · exact free other early
    · obtain rfl : other = token := by simpa using late
      omega
  · exact fun free other member => free other (by simp [member])

/-- The first token that comes near the symbols decides. -/
theorem fate_of_first {start : Nat} (early : ∀ token ∈ tokens, token.span.stop ≤ start)
    (anchorBehind : start < anchor.stop) (absorbedBehind : start < absorbed.stop)
    (decides : token.spans absorbed = true ↔ token.span.stop ≠ anchor.stop) :
    Fate (tokens ++ [token]) anchor absorbed := by
  have count : spanCount (tokens ++ [token]) absorbed = if token.spans absorbed then 1 else 0 :=
    spanCount_of_early early absorbedBehind
  have others : ∀ other ∈ tokens, other.span.stop ≠ anchor.stop := by
    intro other member
    have stop := early other member
    omega
  have all : (∀ other ∈ tokens ++ [token], other.span.stop ≠ anchor.stop) ↔
      token.span.stop ≠ anchor.stop := by
    simpa [or_imp, forall_and] using fun _ => others
  constructor
  · rw [count]
    split <;> omega
  · rw [count, all, ← decides]
    cases token.spans absorbed <;> simp

/-! ## Covered segments -/

theorem Located.bounds_of_mem {first last : Nat} {segments : List Segment} {segment : Segment}
    (adjoin : Adjoin first (Segment.flatten segments) last)
    (solid : ∀ located ∈ Segment.flatten segments, located.offset < located.stop)
    (member : segment ∈ segments) :
    first < segment.symbol.stop ∧ segment.symbol.stop ≤ last ∧
      ∀ splice ∈ segment.trail, segment.symbol.stop ≤ splice.symbol.offset ∧
        splice.symbol.offset < splice.symbol.stop ∧ splice.symbol.stop ≤ last := by
  obtain ⟨front, rest, rfl⟩ := List.append_of_mem member
  have bounds := (adjoin.bounds solid).2 segment.symbol (by simp [Segment.located])
  have size := solid segment.symbol (by simp [Segment.located])
  rw [Segment.flatten_append] at adjoin
  obtain ⟨_, _, tail⟩ := adjoin_append.mp adjoin
  have solidBehind : ∀ located ∈ segment.trail.map Splice.symbol ++ Segment.flatten rest,
      located.offset < located.stop := by
    intro located part
    refine solid located ?_
    simp only [Segment.flatten_append, Segment.flatten_cons, Segment.located]
    exact List.mem_append_right _ (List.mem_cons_of_mem _ part)
  refine ⟨by omega, bounds.2, ?_⟩
  intro splice part
  have listed : splice.symbol ∈ segment.trail.map Splice.symbol ++ Segment.flatten rest :=
    List.mem_append_left _ (List.mem_map_of_mem part)
  have behind := (tail.2.bounds solidBehind).2 splice.symbol listed
  exact ⟨behind.1, solidBehind _ listed, behind.2⟩

/-- What a token does to the trails of the segments that it covers. -/
theorem Policy.Ends.decides {policy : Policy} {front : List Segment} {last : Segment}
    {start stop : Nat} (begun : Segment.Begin token.span.start (front ++ [last]))
    (ends : policy.Ends last token.span.stop)
    (adjoin : Located.Adjoin start (Segment.flatten (front ++ [last])) stop)
    (solid : ∀ located ∈ Segment.flatten (front ++ [last]), located.offset < located.stop) :
    token.span.start = start ∧ start < token.span.stop ∧ token.span.stop ≤ stop ∧
      ∀ segment ∈ front ++ [last], ∀ splice ∈ segment.trail,
        (token.spans splice.symbol = true ↔ token.span.stop ≠ segment.symbol.stop) ∧
          (token.spans splice.symbol = false → policy.loose segment) := by
  have startEq : token.span.start = start := by
    obtain ⟨first, rest, cut, offset⟩ := begun
    rw [cut] at adjoin
    exact offset.symm.trans adjoin.1
  rw [Segment.flatten_append] at adjoin solid
  obtain ⟨middle, before, tail⟩ := Located.adjoin_append.mp adjoin
  have solidBefore : ∀ located ∈ Segment.flatten front, located.offset < located.stop :=
    fun located member => solid located (List.mem_append_left _ member)
  have solidLast : ∀ located ∈ Segment.flatten [last], located.offset < located.stop :=
    fun located member => solid located (List.mem_append_right _ member)
  obtain ⟨lastBehind, lastInside, trailBounds⟩ :=
    Located.bounds_of_mem tail solidLast (List.mem_singleton_self last)
  have startLe := (before.bounds solidBefore).1
  have behindLast : Located.Adjoin last.symbol.stop (last.trail.map Splice.symbol) stop := by
    simpa [Segment.located] using tail.2
  have reaches : last.symbol.stop ≤ token.span.stop ∧ token.span.stop ≤ stop := by
    rcases ends with ⟨same, _⟩ | adjoins
    · omega
    · have same := adjoins.unique behindLast
      omega
  refine ⟨startEq, by omega, reaches.2, ?_⟩
  intro segment member splice part
  rcases List.mem_append.mp member with early | late
  · obtain ⟨_, symbolInside, inside⟩ := Located.bounds_of_mem before solidBefore early
    have := inside splice part
    have spans : token.spans splice.symbol = true := by
      rw [Token.spans, decide_eq_true_eq]
      omega
    simp only [spans, true_iff, Bool.true_eq_false, false_implies, and_true]
    omega
  · obtain rfl : segment = last := by simpa using late
    have := trailBounds splice part
    rcases ends with ⟨same, loose⟩ | adjoins
    · refine ⟨?_, fun _ => loose⟩
      rw [Token.spans, decide_eq_true_eq]
      omega
    · have same := adjoins.unique behindLast
      have spans : token.spans splice.symbol = true := by
        rw [Token.spans, decide_eq_true_eq]
        omega
      simp only [spans, true_iff, Bool.true_eq_false, false_implies, and_true]
      omega

theorem Covers.fate {policy : Policy} {tokens : List Token} {done : List Segment}
    (covers : Covers policy tokens done) {stop : Nat}
    (adjoin : Located.Adjoin 0 (Segment.flatten done) stop)
    (solid : ∀ located ∈ Segment.flatten done, located.offset < located.stop) :
    (∀ token ∈ tokens, token.span.stop ≤ stop) ∧
      ∀ segment ∈ done, ∀ splice ∈ segment.trail,
        Fate tokens segment.symbol splice.symbol ∧
          (spanCount tokens splice.symbol = 1 ∨ policy.loose segment) := by
  induction covers generalizing stop with
  | nil => simp
  | @close tokens done front token last covers kind begun ends ih =>
      rw [Segment.flatten_append] at adjoin solid
      obtain ⟨middle, before, tail⟩ := Located.adjoin_append.mp adjoin
      have solidBefore : ∀ located ∈ Segment.flatten done, located.offset < located.stop :=
        fun located member => solid located (List.mem_append_left _ member)
      have solidTail : ∀ located ∈ Segment.flatten (front ++ [last]),
          located.offset < located.stop :=
        fun located member => solid located (List.mem_append_right _ member)
      obtain ⟨early, fates⟩ := ih before solidBefore
      obtain ⟨start, later, inside, decides⟩ := ends.decides begun tail solidTail
      constructor
      · intro other member
        rcases List.mem_append.mp member with old | new
        · have := early other old
          omega
        · obtain rfl : other = token := by simpa using new
          exact inside
      · intro segment member splice part
        rcases List.mem_append.mp member with old | new
        · obtain ⟨_, _, bounds⟩ := Located.bounds_of_mem before solidBefore old
          obtain ⟨fate, known⟩ := fates segment old splice part
          have := bounds splice part
          have behind : splice.symbol.offset < token.span.start := by omega
          refine ⟨fate.append behind (by omega), ?_⟩
          rwa [spanCount_of_behind tokens behind]
        · obtain ⟨symbolBehind, _, bounds⟩ := Located.bounds_of_mem tail solidTail new
          obtain ⟨iff, lost⟩ := decides segment new splice part
          have := bounds splice part
          have behind : middle < splice.symbol.stop := by omega
          refine ⟨fate_of_first early symbolBehind behind iff, ?_⟩
          rw [spanCount_of_early early behind]
          cases spans : token.spans splice.symbol with
          | false => exact Or.inr (lost spans)
          | true => exact Or.inl rfl

/-! ## The symbol in front of an absorbed one -/

/-- The anchor is the last symbol before the absorbed one that no operator has
absorbed. -/
def Anchors (symbols : List Located) (splices : List Splice) (anchor absorbed : Located) : Prop :=
  anchor ∉ splices.map Splice.symbol ∧
    ∃ before between after, symbols = before ++ (anchor :: (between ++ (absorbed :: after))) ∧
      ∀ located ∈ between, located ∈ splices.map Splice.symbol

theorem Account.anchors {symbols : List Located} {stop : Nat} {splices : List Splice}
    {segments : List Segment} (account : Account symbols stop splices [] segments)
    (nodup : symbols.Nodup) {segment : Segment} (member : segment ∈ segments) {splice : Splice}
    (part : splice ∈ segment.trail) :
    Anchors symbols splices segment.symbol splice.symbol := by
  obtain ⟨before, after, rfl⟩ := List.append_of_mem member
  obtain ⟨between, rest, trail⟩ := List.append_of_mem part
  have all : symbols = Segment.flatten before ++
      (segment.symbol :: (segment.trail.map Splice.symbol ++ Segment.flatten after)) := by
    rw [← account.all]
    simp [Segment.located]
  constructor
  · -- The symbols of a source are distinct, so none is both absorbed and not absorbed.
    rw [all, List.nodup_append, List.nodup_cons] at nodup
    obtain ⟨_, ⟨notBehind, _⟩, apart⟩ := nodup
    intro absorbed
    obtain ⟨other, listed, same⟩ := List.mem_map.mp absorbed
    obtain ⟨owner, owned, inTrail⟩ := List.mem_flatMap.mp ((account.spliced other).mp listed)
    have within : segment.symbol ∈ owner.trail.map Splice.symbol :=
      List.mem_map.mpr ⟨other, inTrail, same⟩
    have inOwner : segment.symbol ∈ owner.located := List.mem_cons_of_mem _ within
    rcases List.mem_append.mp owned with early | late
    · have inFlatten : segment.symbol ∈ Segment.flatten before :=
        List.mem_flatMap.mpr ⟨owner, early, inOwner⟩
      exact apart _ inFlatten _ (by simp) rfl
    · rcases List.mem_cons.mp late with rfl | later
      · exact notBehind (List.mem_append_left _ within)
      · exact notBehind (List.mem_append_right _ (List.mem_flatMap.mpr ⟨owner, later, inOwner⟩))
  · refine ⟨Segment.flatten before, between.map Splice.symbol,
      rest.map Splice.symbol ++ Segment.flatten after, ?_, ?_⟩
    · rw [all, trail]
      simp
    · intro located inside
      obtain ⟨other, listed, rfl⟩ := List.mem_map.mp inside
      refine List.mem_map_of_mem ((account.spliced other).mpr ?_)
      exact List.mem_flatMap.mpr ⟨segment, by simp, by simp [trail, listed]⟩

/-! ## Segments that may lose their trail -/

/-- A token may end with any symbol behind which nothing safe was absorbed. -/
def Policy.lossy : Policy where
  loose segment := ∀ splice ∈ segment.trail, splice.safe = false
  pointed _ := False
  bare _ := by simp

namespace Policy

theorem loose_of_chain {segments : List Segment} (chain : lossy.Chain segments) :
    ∀ segment ∈ segments, lossy.loose segment := by
  cases segments with
  | nil => simp
  | cons first rest =>
      intro segment member
      rcases List.mem_cons.mp member with rfl | later
      · exact chain.1.elim id False.elim
      · exact chain.2 segment later

theorem loose_absorb {last : Segment} {others : List Segment} (loose : lossy.loose last)
    (behind : ∀ other ∈ others, lossy.loose other) : lossy.loose (last.absorb false others) := by
  intro splice part
  rcases List.mem_append.mp part with old | new
  · exact loose splice old
  · rcases Segment.mem_splices.mp new with fresh | inner
    · obtain ⟨other, _, rfl⟩ := List.mem_map.mp fresh
      rfl
    · obtain ⟨other, member, inTrail⟩ := List.mem_flatMap.mp inner
      exact behind other member splice inTrail

end Policy

namespace Scan

variable {ρ : Type} [Literal.Reader ρ] {profile : Profile ρ}

theorem setting_of_harmless (sound : profile.Sound)
    (harmless : ∀ symbol, (profile.classes.classify symbol).escape = true →
      Harmless profile symbol) (symbols : List Located) :
    Setting .lossy profile symbols where
  sound := sound
  harmless _ _ canContinue := harmless _ canContinue.2
  points _ _ _ _ pointed := pointed.elim
  absorbs := by
    intro _ _ _ walk front last others queued traces bare rests
    obtain ⟨pending, chain, behind, _⟩ := rests
    have loose := Policy.loose_of_chain chain
    have left : ∀ segment ∈ (front ++ [last.absorb false others]).drop walk.kept,
        Policy.lossy.loose segment := by
      by_cases kept : walk.kept ≤ front.length
      · rw [List.drop_append_of_le_length kept] at loose ⊢
        intro segment member
        rcases List.mem_append.mp member with early | late
        · exact loose segment (by simp [early])
        · obtain rfl : segment = last.absorb false others := by simpa using late
          refine Policy.loose_absorb (loose last (by simp)) ?_
          exact fun other inside => behind other (by simp [inside])
      · have all : (front ++ [last.absorb false others]).drop walk.kept = [] := by
          rw [List.drop_eq_nil_iff, List.length_append, List.length_singleton]
          omega
        simp [all]
    have queuedLoose : ∀ segment ∈ queued, Policy.lossy.loose segment :=
      fun segment member => behind segment (by simp [member])
    refine ⟨by simpa [Segment.absorb] using pending, ?_, queuedLoose, fun _ => left⟩
    exact (Policy.chain_of_loose left).append queuedLoose

/-! ## Scans -/

/-- A journey through a whole source. -/
def Traverses (profile : Profile ρ) (source : String) (reports : List Report)
    (splices : List Splice) (state : ScanState ρ) : Prop :=
  Journey profile (Located.ofText 0 source.toList) (byteLength source.toList) reports splices
    ⟨state, []⟩ [] ∧ state.mode = .idle

/-- All tokens of such a journey, with the one that marks the end. -/
def delivered (source : String) (reports : List Report) (state : ScanState ρ) : List Token :=
  tokensOf reports ++ [finToken state (byteLength source.toList)]

theorem Traverses.fate {source : String} {reports : List Report} {splices : List Splice}
    {state : ScanState ρ} (traverses : Traverses profile source reports splices state)
    (fits : byteLength source.toList ≤ maxOffset)
    (setting : Setting .lossy profile (Located.ofText 0 source.toList)) {splice : Splice}
    (absorbed : splice ∈ splices) :
    ∃ anchor, Anchors (Located.ofText 0 source.toList) splices anchor splice.symbol ∧
      Fate (delivered source reports state) anchor splice.symbol ∧
      (splice.safe = true → spanCount (delivered source reports state) splice.symbol = 1) := by
  obtain ⟨journey, idle⟩ := traverses
  have adjoin := Located.adjoin_source fits
  have solid : ∀ located ∈ Located.ofText 0 source.toList, located.offset < located.stop :=
    fun located => Located.offset_lt_stop_of_mem_ofText (by omega)
  obtain ⟨done, account, covers⟩ := journey.covers setting adjoin idle
  have all : Segment.flatten done = Located.ofText 0 source.toList := by simpa using account.all
  obtain ⟨segment, member, part⟩ := List.mem_flatMap.mp ((account.spliced splice).mp absorbed)
  refine ⟨segment.symbol, account.anchors (adjoin.nodup solid) member part, ?_⟩
  rw [← all] at adjoin solid
  obtain ⟨fate, known⟩ := (covers.fate adjoin solid).2 segment member splice part
  have bounds := (Located.bounds_of_mem adjoin solid member).2.2 splice part
  have behind : splice.symbol.offset < (finToken state (byteLength source.toList)).span.start := by
    change splice.symbol.offset < byteLength source.toList
    omega
  refine ⟨fate.append behind ?_, ?_⟩
  · change segment.symbol.stop < byteLength source.toList
    omega
  · intro safe
    rw [delivered, spanCount_of_behind _ behind]
    rcases known with once | loose
    · exact once
    · have lost := loose splice part
      simp [safe] at lost

/-- Every absorbed symbol lies inside exactly one token unless a token ends with the
last symbol before it that was not absorbed.  What was absorbed while the operator had
nothing to give back always does. -/
theorem absorbed_spanned_iff (made : profile.Made) (undotted : ¬profile.StartsLiteral '.')
    (unescaped : ∀ symbol, (profile.classes.classify symbol).escape = true →
      ¬profile.StartsLiteral symbol)
    (plain : (profile.classes.classify '.').escape = false) {source : String}
    (fits : byteLength source.toList ≤ maxOffset) :
    (∃ reports splices state, Traverses profile source reports splices state ∧
      ∀ {σ : Type} [Sink σ] (sink : σ), Sink.Steady sink →
        (tokenize profile {} sink source).result = .ok () ∧
          (tokenize profile {} sink source).sink = (Sink.sendAll sink (reports.map Report.event ++
            [.token (finToken state (byteLength source.toList))])).sink) ∧
    ∀ reports splices state, Traverses profile source reports splices state →
      ∀ splice ∈ splices, ∃ anchor,
        Anchors (Located.ofText 0 source.toList) splices anchor splice.symbol ∧
        Fate (delivered source reports state) anchor splice.symbol ∧
        (splice.safe = true → spanCount (delivered source reports state) splice.symbol = 1) := by
  have undottedRoot := (made.sound.not_startsLiteral_iff '.').mp undotted
  have harmless : ∀ symbol, (profile.classes.classify symbol).escape = true →
      Harmless profile symbol := by
    intro symbol escape
    refine ⟨(made.sound.not_startsLiteral_iff symbol).mp (unescaped symbol escape), ?_⟩
    rintro rfl
    simp [plain] at escape
  have setting := setting_of_harmless made.sound harmless (Located.ofText 0 source.toList)
  constructor
  · have bounded := bounded_of_setting setting (Located.adjoin_source fits) undottedRoot
    obtain ⟨reports, splices, state, journey, idle, tokenized⟩ := tokenize_journey fits bounded
    refine ⟨reports, splices, state, ⟨journey, idle⟩, ?_⟩
    intro σ _ sink steady
    rw [tokenized sink steady]
    exact ⟨rfl, rfl⟩
  · intro reports splices state traverses splice absorbed
    exact traverses.fate fits setting absorbed

/-- A short operator begins a longer one, whose second symbol is an operator too. -/
def detourProfile : Profile Literal.Stock :=
  (Builder.afterAll {} [.addOperator "+", .addOperator "+-=", .addOperator "-"]).profile

theorem detourProfile_made : detourProfile.Made :=
  ⟨_, rfl⟩

theorem Journey.leaves {symbols unread : List Located} {stop : Nat} {reports : List Report}
    {splices : List Splice} {state : ScanState ρ} {queue : List Fed}
    (journey : Journey profile symbols stop reports splices ⟨state, queue⟩ unread)
    (left : List Fed) (same : queue = left) :
    Journey profile symbols stop reports splices ⟨state, left⟩ unread :=
  same ▸ journey

theorem detour_traversed :
    ∃ reports splices state, Traverses detourProfile "+-\\\nx" reports splices state ∧
      ⟨⟨'\n', 3⟩, false⟩ ∈ splices ∧
      spanCount (delivered "+-\\\nx" reports state) ⟨'\n', 3⟩ = 0 := by
  have begun : Journey detourProfile (Located.ofText 0 "+-\\\nx".toList) 5 [] [] ⟨{}, []⟩
      [⟨'+', 0⟩, ⟨'-', 1⟩, ⟨'\\', 2⟩, ⟨'\n', 3⟩, ⟨'x', 4⟩] := .start
  have plus := begun.read.react.leaves [] (by decide +kernel)
  have minus := plus.read.react.leaves [] (by decide +kernel)
  have escape := minus.read.react.leaves [] (by decide +kernel)
  have newline := escape.read.react.leaves [] (by decide +kernel)
  have stuck := newline.read.react.leaves [.plain ⟨'-', 1⟩, .plain ⟨'x', 4⟩] (by decide +kernel)
  have minusAgain := stuck.react.leaves [.plain ⟨'x', 4⟩] (by decide +kernel)
  have letter := minusAgain.react.leaves [] (by decide +kernel)
  have ended := (letter.flush (Option.some_get (by decide +kernel)).symm).leaves []
    (by decide +kernel)
  exact ⟨_, _, _, ⟨ended, by decide +kernel⟩, by decide +kernel, by decide +kernel⟩

/-- The line end behind the second symbol of `+-` is in no token. -/
theorem absorbed_spanned_iff_detour :
    ∃ reports splices state, Traverses detourProfile "+-\\\nx" reports splices state ∧
      ∃ splice ∈ splices, ∃ anchor,
        Anchors (Located.ofText 0 "+-\\\nx".toList) splices anchor splice.symbol ∧
        spanCount (delivered "+-\\\nx" reports state) splice.symbol = 0 ∧
        ∃ token ∈ delivered "+-\\\nx" reports state, token.span.stop = anchor.stop := by
  obtain ⟨reports, splices, state, traverses, absorbed, lost⟩ := detour_traversed
  have sound := detourProfile_made.sound
  have literals : ∀ symbol, detourProfile.literals.advance Trie.root symbol = none := by
    intro symbol
    rfl
  have unstarted : ∀ symbol, ¬detourProfile.StartsLiteral symbol :=
    fun symbol => (sound.not_startsLiteral_iff symbol).mpr (literals symbol)
  obtain ⟨anchor, anchors, fate, _⟩ := (absorbed_spanned_iff detourProfile_made (unstarted '.')
    (fun symbol _ => unstarted symbol) (by decide +kernel) (by decide +kernel)).2
    reports splices state traverses _ absorbed
  refine ⟨reports, splices, state, traverses, _, absorbed, anchor, anchors, lost, ?_⟩
  have ends : ¬∀ token ∈ delivered "+-\\\nx" reports state, token.span.stop ≠ anchor.stop := by
    intro free
    have once : spanCount (delivered "+-\\\nx" reports state) ⟨'\n', 3⟩ = 1 :=
      fate.once.mpr free
    omega
  simpa using ends

end Scan

end Lexing
