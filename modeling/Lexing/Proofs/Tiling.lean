import Lexing.Proofs.Bytes
import Lexing.Proofs.Points

/-!
# Tokens tile the source

When no absorbed symbol is ever left out, the tokens of a scan follow one another
without a gap from the start of the source to its end, and their texts put together
are the source.  This is so where no line can be continued, and for sources in C:
there a symbol with absorbed symbols behind it is given back only if it is a point,
and a point always waits for the next symbol.
-/

namespace Lexing

/-! ## Cutting a text -/

/-- A text can be cut where its located symbols can. -/
theorem Located.ofText_eq_append {offset : Nat} {text : List Char} {first second : List Located}
    (fits : offset + byteLength text ≤ maxOffset)
    (cut : first ++ second = ofText offset text) :
    ∃ before after, text = before ++ after ∧ first = ofText offset before ∧
      second = ofText (offset + byteLength before) after := by
  induction first generalizing offset text with
  | nil => exact ⟨[], text, rfl, rfl, cut⟩
  | cons located rest ih =>
      cases text with
      | nil => simp [ofText] at cut
      | cons symbol text =>
          obtain ⟨rfl, tail⟩ := List.cons_eq_cons.mp cut
          simp only [byteLength] at fits
          have stop : symbolEnd symbol offset = offset + symbol.utf8Size := by
            unfold symbolEnd
            omega
          rw [stop] at tail
          obtain ⟨before, after, rfl, rfl, rfl⟩ := ih (by omega) tail
          refine ⟨symbol :: before, after, rfl, by simp [ofText, stop], ?_⟩
          simp only [byteLength, Nat.add_assoc]

theorem Located.symbol_mem_of_mem_ofText {offset : Nat} {text : List Char} {located : Located}
    (member : located ∈ ofText offset text) : located.symbol ∈ text := by
  induction text generalizing offset with
  | nil => simp [ofText] at member
  | cons symbol rest ih =>
      rcases List.mem_cons.mp member with rfl | later
      · simp
      · exact List.mem_cons_of_mem _ (ih later)

/-! ## Tilings -/

/-- Tokens with something in them that follow one another without a gap, from one
offset to another. -/
def Tiles : Nat → List Token → Nat → Prop
  | start, [], stop => start = stop
  | start, token :: rest, stop =>
      token.span.start = start ∧ start < token.span.stop ∧ Tiles token.span.stop rest stop

theorem consecutive_tiles :
    Consecutive Tiles (fun start token => token.span.start = start ∧ start < token.span.stop)
      fun token => token.span.stop :=
  ⟨.rfl, and_assoc.symm⟩

theorem tiles_append {start stop : Nat} {first second : List Token} :
    Tiles start (first ++ second) stop ↔
      ∃ middle, Tiles start first middle ∧ Tiles middle second stop :=
  consecutive_tiles.append

theorem Tiles.unique {start stop other : Nat} {tokens : List Token}
    (tiles : Tiles start tokens stop) (again : Tiles start tokens other) : stop = other :=
  consecutive_tiles.unique tiles again

/-- An offset between two symbols of a text, or at one of its ends. -/
def Boundary (source : String) (offset : Nat) : Prop :=
  ∃ before after, source.toList = before ++ after ∧ byteLength before = offset

/-- The tokens of a whole source, the last one marking its end. -/
structure Tiling (source : String) (tokens : List Token) (last : Token) : Prop where
  fin : last.kind = .fin ∧ last.span = .point (byteLength source.toList)
  others : ∀ token ∈ tokens, token.kind ≠ .fin
  tiles : Tiles 0 tokens (byteLength source.toList)
  boundaries : ∀ token ∈ tokens, Boundary source token.span.start ∧ Boundary source token.span.stop
  text : String.join (tokens.map fun token => token.text source) = source

namespace Scan

variable {ρ : Type}

theorem adjoin_of_ends {pointed : Segment → Prop} {last : Segment} {stop : Nat}
    (ends : (Policy.tight pointed).Ends last stop) :
    Located.Adjoin last.symbol.stop (last.trail.map Splice.symbol) stop := by
  rcases ends with ⟨rfl, bare⟩ | adjoin
  · have none : last.trail = [] := bare
    rw [none]
    rfl
  · exact adjoin

/-- Tokens that cover the segments of a part of a source, from its start on. -/
theorem Covers.tiling {pointed : Segment → Prop} {tokens : List Token} {done : List Segment}
    (covers : Covers (.tight pointed) tokens done) {source : String} {part rest : List Char}
    (whole : source.toList = part ++ rest) (fits : byteLength part ≤ maxOffset)
    (all : Segment.flatten done = Located.ofText 0 part) :
    (∀ token ∈ tokens, token.kind ≠ .fin) ∧ Tiles 0 tokens (byteLength part) ∧
      (∀ token ∈ tokens, Boundary source token.span.start ∧ Boundary source token.span.stop) ∧
      (tokens.map fun token => token.text source).flatMap String.toList = part := by
  induction covers generalizing part rest with
  | nil =>
      cases part with
      | nil => simp [Tiles, byteLength]
      | cons symbol part => simp [Located.ofText] at all
  | @close tokens done front token last covers kind begun ends ih =>
      rw [Segment.flatten_append] at all
      obtain ⟨before, after, rfl, doneText, blockText⟩ :=
        Located.ofText_eq_append (by simpa using fits) all
      rw [byteLength_append] at fits
      rw [Nat.zero_add] at blockText
      rw [List.append_assoc] at whole
      obtain ⟨others, tiles, boundaries, text⟩ := ih whole (by omega) doneText
      -- The block is the next piece of text, and the token spans it.
      have adjoin := Located.adjoin_ofText fits
      rw [← blockText] at adjoin
      have start : token.span.start = byteLength before := by
        obtain ⟨first, segments, cut, offset⟩ := begun
        rw [cut] at adjoin
        exact offset.symm.trans adjoin.1
      have stop : token.span.stop = byteLength before + byteLength after := by
        rw [Segment.flatten_append] at adjoin
        obtain ⟨_, _, tail⟩ := Located.adjoin_append.mp adjoin
        simp only [Segment.flatten_cons, Segment.flatten_nil, List.append_nil,
          Segment.located] at tail
        exact (adjoin_of_ends ends).unique tail.2
      have nonempty : after ≠ [] := by
        rintro rfl
        simp [Located.ofText, Segment.flatten, Segment.located] at blockText
      have positive := byteLength_pos nonempty
      have span : token.span = ⟨byteLength before, byteLength before + byteLength after⟩ := by
        rw [← stop, ← start]
      have slice : token.text source = String.ofList after := by
        rw [Token.text, span, whole, slice?_append, Option.getD_some]
      refine ⟨?_, ?_, ?_, ?_⟩
      · simpa [or_imp, forall_and] using ⟨others, kind⟩
      · refine tiles_append.mpr ⟨byteLength before, tiles, start, by omega, ?_⟩
        rw [stop, byteLength_append]
        rfl
      · intro member inside
        rcases List.mem_append.mp inside with early | late
        · exact boundaries member early
        · obtain rfl : member = token := by simpa using late
          refine ⟨⟨before, after ++ rest, whole, start.symm⟩, before ++ after, rest, ?_, ?_⟩
          · rw [whole, List.append_assoc]
          · rw [stop, byteLength_append]
      · simp [text, slice]

/-! ## Scans that tile their source -/

variable [Literal.Reader ρ]

/-- A fresh scan of the source delivers the same events to every steady sink, and
their tokens tile the source. -/
def TilesSource (profile : Profile ρ) (source : String) : Prop :=
  ∃ events tokens last, events.filterMap Event.token? = tokens ++ [last] ∧
    Tiling source tokens last ∧
    ∀ {σ : Type} [Sink σ] (sink : σ), Sink.Steady sink →
      (tokenize profile {} sink source).result = .ok () ∧
        (tokenize profile {} sink source).sink = (Sink.sendAll sink events).sink

variable {profile : Profile ρ} {source : String}

theorem tilesSource_of_setting {pointed : Segment → Prop}
    (fits : byteLength source.toList ≤ maxOffset)
    (undotted : profile.literals.advance Trie.root '.' = none)
    (setting : Setting (.tight pointed) profile (Located.ofText 0 source.toList)) :
    TilesSource profile source := by
  have adjoin := Located.adjoin_source fits
  obtain ⟨reports, splices, state, journey, idle, tokenized⟩ :=
    tokenize_journey fits (bounded_of_setting setting adjoin undotted)
  obtain ⟨done, account, covers⟩ := journey.covers setting adjoin idle
  have all : Segment.flatten done = Located.ofText 0 source.toList := by simpa using account.all
  obtain ⟨others, tiles, boundaries, text⟩ :=
    Covers.tiling covers (List.append_nil _).symm fits all
  refine ⟨reports.map Report.event ++ [.token (finToken state (byteLength source.toList))],
    tokensOf reports, finToken state (byteLength source.toList), ?_,
    ⟨⟨rfl, rfl⟩, others, tiles, boundaries, ?_⟩, ?_⟩
  · simp [tokensOf, List.filterMap_map, Function.comp_def, Event.token?]
  · apply String.toList_inj.mp
    rw [String.toList_join, text]
  · intro σ _ sink steady
    rw [tokenized sink steady]
    exact ⟨rfl, rfl⟩

/-! ## Sources without continued lines -/

omit [Literal.Reader ρ] in
theorem not_canContinue_of_unescaped {located : Located}
    (unescaped : profile.options.honorLineContinuation = false ∨
      ∀ symbol ∈ source.toList, (profile.classes.classify symbol).escape = false)
    (member : located.symbol ∈ source.toList) : ¬CanContinue profile located := by
  rintro ⟨honored, escape⟩
  rcases unescaped with off | plain
  · simp [off] at honored
  · simp [plain _ member] at escape

theorem setting_of_unescaped (sound : profile.Sound)
    (unescaped : profile.options.honorLineContinuation = false ∨
      ∀ symbol ∈ source.toList, (profile.classes.classify symbol).escape = false) :
    Setting (.tight fun _ => False) profile (Located.ofText 0 source.toList) := by
  have never : ∀ located ∈ Located.ofText 0 source.toList, ¬CanContinue profile located :=
    fun _ member => not_canContinue_of_unescaped unescaped (Located.symbol_mem_of_mem_ofText member)
  exact {
    sound
    harmless := fun located member canContinue => absurd canContinue (never located member)
    absorbs := fun located member canContinue => absurd canContinue (never located member)
    points := fun _ _ _ _ pointed => pointed.elim }

/-! ## Every source -/

/-- A source is tiled, unless it is too large to be scanned at all. -/
def TilesOrRefuses {ρ : Type} [Literal.Reader ρ] (profile : Profile ρ) (source : String) : Prop :=
  if byteLength source.toList ≤ maxOffset then TilesSource profile source
  else ∀ {σ : Type} [Sink σ] (sink : σ), (tokenize profile {} sink source).result =
    .error (.sourceTooLarge (byteLength source.toList))

theorem tilesOrRefuses_of_fits {ρ : Type} [Literal.Reader ρ] {profile : Profile ρ}
    {source : String} (tiles : byteLength source.toList ≤ maxOffset → TilesSource profile source) :
    TilesOrRefuses profile source := by
  unfold TilesOrRefuses
  split
  case isTrue => exact tiles ‹_›
  case isFalse tooLarge =>
    intro σ _ sink
    simp [tokenize, tooLarge]

/-- The tokens of a scan tile its source when no line of it can be continued, and in
C in any case. -/
theorem tokenize_tiles :
    (∀ {ρ : Type} [Literal.Reader ρ] {profile : Profile ρ}, profile.Made →
      ¬profile.StartsLiteral '.' → ∀ source : String,
      (profile.options.honorLineContinuation = false ∨
        ∀ symbol ∈ source.toList, (profile.classes.classify symbol).escape = false) →
      TilesOrRefuses profile source) ∧
    ∀ source : String, TilesOrRefuses CLike.profile source := by
  constructor
  · intro ρ _ profile made unstarted source unescaped
    apply tilesOrRefuses_of_fits
    intro fits
    have undotted := (made.sound.not_startsLiteral_iff '.').mp unstarted
    exact tilesSource_of_setting fits undotted (setting_of_unescaped made.sound unescaped)
  · intro source
    apply tilesOrRefuses_of_fits
    intro fits
    exact tilesSource_of_setting fits CLike.dotted.literals (CLike.dotted.setting _)

theorem tokenize_tiles_shift :
    TilesSource shiftProfile "<<a<<=" ∧ TilesSource CLike.profile "..\\\n!" := by
  have unstarted : ¬shiftProfile.StartsLiteral '.' :=
    (shiftProfile_made.sound.not_startsLiteral_iff '.').mpr (by decide +kernel)
  have plain : "<<a<<=".toList.all
      (fun symbol => !(shiftProfile.classes.classify symbol).escape) = true := by
    decide +kernel
  have shift := tokenize_tiles.1 shiftProfile_made unstarted "<<a<<="
    (Or.inr fun symbol member => by simpa using List.all_eq_true.mp plain symbol member)
  have clike := tokenize_tiles.2 "..\\\n!"
  unfold TilesOrRefuses at shift clike
  rw [if_pos (by decide +kernel)] at shift clike
  exact ⟨shift, clike⟩

end Scan

end Lexing
