import Lexing.Proofs.Replacements
import Mathlib.Data.List.Chain

/-!
# Runs that become compounds

A composer holds the beginning of a run of its pattern.  When the next token does not
continue the run, the tokens that are held stay, and only the next token may begin another
run.  So a composer replaces nothing but runs of its pattern, whatever the pattern is.  It
can overlook a run that begins inside of the tokens which it holds, and it cannot when the
first kind of the pattern does not occur in it again.
-/

namespace Lexing

/-- The next token starts where a token ends. -/
def Touches (token next : Token) : Prop :=
  token.span.stop = next.span.start

namespace SequenceComposer

/-- Adjacent tokens whose kinds are those of the pattern become one token. -/
structure Composes (pattern : List Kind) (compound : Kind) (run : List Token) (token : Token) :
    Prop where
  kinds : run.map Token.kind = pattern
  adjacent : run.IsChain Touches
  made : ∃ first last, run.head? = some first ∧ run.getLast? = some last ∧
    token = {
      atLineStart := first.atLineStart
      kind := compound
      span := ⟨first.span.start, last.span.stop⟩
      payload := .empty }

/-- The pattern asks for some token and for no control token, and its first kind does not
occur in it again. -/
def Distinctive (pattern : List Kind) : Prop :=
  ∃ first others, pattern = first :: others ∧ (∀ kind ∈ pattern, kind.isControl = false) ∧
    first ∉ others

/-- What a composer holds is the beginning of a run. -/
structure Holds (pattern : List Kind) (held : List Token) : Prop where
  kinds : held.map Token.kind <+: pattern
  short : held ≠ [] → held.length < pattern.length
  adjacent : held.IsChain Touches
  text : ∀ token ∈ held, token.kind.isControl = false
  ordered : ∀ token ∈ held, token.span.start ≤ token.span.stop

variable {pattern : List Kind} {compound : Kind} {held rest tokens : List Token} {token : Token}

theorem holds_nil (pattern : List Kind) : Holds pattern [] where
  kinds := List.nil_prefix
  short := by simp
  adjacent := .nil
  text := by simp
  ordered := by simp

theorem extendsRun_iff :
    extendsRun ⟨pattern, compound, held⟩ token = true ↔
      pattern[held.length]? = some token.kind ∧ token.kind.isControl = false ∧
        ∀ last ∈ held.getLast?, Touches last token := by
  simp [extendsRun, Touches, Option.all_eq_true, and_assoc]

/-! ## Longer runs -/

section Continued

variable (holds : Holds pattern held)
  (continues : extendsRun ⟨pattern, compound, held⟩ token = true)

include holds continues

theorem kinds_concat : (held ++ [token]).map Token.kind <+: pattern := by
  obtain ⟨expected, _, _⟩ := extendsRun_iff.mp continues
  obtain ⟨others, rfl⟩ := holds.kinds
  cases others with
  | nil => simp at expected
  | cons kind others =>
      obtain rfl : kind = token.kind := by simpa using expected
      exact ⟨others, by simp⟩

theorem adjacent_concat : (held ++ [token]).IsChain Touches := by
  obtain ⟨_, _, touches⟩ := extendsRun_iff.mp continues
  apply List.isChain_append.mpr
  refine ⟨holds.adjacent, .singleton _, fun last final next member => ?_⟩
  obtain rfl : token = next := by simpa using member
  exact touches last final

end Continued

theorem holds_concat (holds : Holds pattern held) (proper : token.span.start ≤ token.span.stop)
    (continues : extendsRun ⟨pattern, compound, held⟩ token = true)
    (short : held.length + 1 < pattern.length) : Holds pattern (held ++ [token]) where
  kinds := kinds_concat holds continues
  short _ := by simpa using short
  adjacent := adjacent_concat holds continues
  text := by
    obtain ⟨_, text, _⟩ := extendsRun_iff.mp continues
    simpa [or_imp, forall_and, text] using holds.text
  ordered := by simpa [or_imp, forall_and, proper] using holds.ordered

/-! ## The compound -/

/-- Spans that touch are merged into one from the start of the first to the end of the
last. -/
theorem foldl_merge_of_adjacent (span : Span) (tokens : List Token)
    (proper : span.start ≤ span.stop)
    (ordered : ∀ token ∈ tokens, token.span.start ≤ token.span.stop)
    (follows : ∀ next ∈ tokens.head?, span.stop = next.span.start)
    (adjacent : tokens.IsChain Touches) :
    tokens.foldl (fun span token => span.merge token.span) span =
      ⟨span.start, (tokens.getLast?.map fun last => last.span.stop).getD span.stop⟩ := by
  induction tokens generalizing span with
  | nil => rfl
  | cons token rest ih =>
      obtain ⟨touches, onward⟩ := List.isChain_cons.mp adjacent
      have start := follows token rfl
      have own := ordered token (by simp)
      have merged : span.merge token.span = ⟨span.start, token.span.stop⟩ := by
        simp only [Span.merge, Span.mk.injEq]
        omega
      rw [List.foldl_cons, merged, ih ⟨span.start, token.span.stop⟩ (by dsimp only; omega)
        (fun other member => ordered other (by simp [member])) touches onward, List.getLast?_cons]
      cases rest.getLast? <;> rfl

theorem composes_compose (filter : SequenceComposer) (first : Token) (others : List Token)
    (kinds : (first :: others).map Token.kind = filter.pattern)
    (adjacent : (first :: others).IsChain Touches)
    (ordered : ∀ token ∈ first :: others, token.span.start ≤ token.span.stop) :
    Composes filter.pattern filter.compound (first :: others) (filter.compose first others) where
  kinds := kinds
  adjacent := adjacent
  made := by
    obtain ⟨follows, onward⟩ := List.isChain_cons.mp adjacent
    obtain ⟨own, others_ordered⟩ := List.forall_mem_cons.mp ordered
    have span := foldl_merge_of_adjacent first.span others own others_ordered follows onward
    refine ⟨first, others.getLast?.getD first, rfl, List.getLast?_cons, ?_⟩
    rw [compose, span]
    cases others.getLast? <;> rfl

/-! ## Where runs begin -/

theorem led_composes {first : Kind} {others : List Kind} (once : first ∉ others) :
    Led (Composes (first :: others) compound) (fun token => token.kind = first)
      (first :: others).length where
  length_eq := by
    intro run made composes
    rw [← composes.kinds, List.length_map]
  begins := by
    intro run made composes
    obtain ⟨lead, further, rfl, leading, kinds⟩ := List.map_eq_cons_iff.mp composes.kinds
    refine ⟨lead, further, rfl, leading, fun other member same => once ?_⟩
    rw [← kinds, ← same]
    exact List.mem_map_of_mem member

/-- No run begins with the first token that is held, since the run would go on with a token
that does not continue what is held. -/
theorem unbegun_of_short (text : ∀ kind ∈ pattern, kind.isControl = false)
    (short : held.length < pattern.length)
    (broken : extendsRun ⟨pattern, compound, held⟩ token = false) :
    Unbegun (Composes pattern compound) (held ++ token :: rest) := by
  intro run after made whole composes
  have length : run.length = pattern.length := by rw [← composes.kinds, List.length_map]
  rcases List.append_eq_append_iff.mp whole with ⟨more, longer, ends⟩ | ⟨more, shorter, _⟩
  · cases more with
    | nil =>
        rw [longer, List.append_nil] at length
        omega
    | cons next more =>
        obtain ⟨rfl, _⟩ := List.cons_eq_cons.mp ends
        have kinds := composes.kinds
        have adjacent := composes.adjacent
        rw [longer] at kinds adjacent
        have continues : extendsRun ⟨pattern, compound, held⟩ token = true := by
          apply extendsRun_iff.mpr
          refine ⟨by simp [← kinds], text token.kind (by simp [← kinds]), fun last final => ?_⟩
          exact (List.isChain_append.mp adjacent).2.2 last final token rfl
        rw [continues] at broken
        contradiction
  · rw [shorter, List.length_append] at short
    omega

/-- No run begins with a later token that is held, which has a later kind of the pattern. -/
theorem unbegun_of_later (holds : Holds pattern held) {first : Kind} {others : List Kind}
    (spelled : pattern = first :: others) (once : first ∉ others) {earlier start : Token}
    {before inner : List Token} (cut : held = earlier :: before ++ start :: inner) :
    Unbegun (Composes pattern compound) (start :: inner ++ tokens) := by
  intro run after made whole composes
  have kinds := composes.kinds
  have begins := holds.kinds
  rw [spelled] at kinds begins
  obtain ⟨lead, further, rfl, leading, _⟩ := List.map_eq_cons_iff.mp kinds
  obtain ⟨rfl, _⟩ := List.cons_eq_cons.mp whole
  rw [cut, List.cons_append, List.map_cons] at begins
  apply once
  rw [← leading]
  exact (List.cons_prefix_cons.mp begins).2.subset (by simp)

/-- When a run breaks off, no run begins with any of the tokens that are held. -/
theorem unbegun_of_broken (holds : Holds pattern held) (distinctive : Distinctive pattern)
    (broken : extendsRun ⟨pattern, compound, held⟩ token = false) {before inner : List Token}
    (cut : held = before ++ inner) (nonempty : inner ≠ []) :
    Unbegun (Composes pattern compound) (inner ++ token :: rest) := by
  obtain ⟨first, others, spelled, text, once⟩ := distinctive
  obtain ⟨start, inner, rfl⟩ := List.exists_cons_of_ne_nil nonempty
  cases before with
  | nil =>
      rw [List.nil_append] at cut
      rw [← cut]
      exact unbegun_of_short text (holds.short (by simp [cut])) broken
  | cons earlier before => exact unbegun_of_later holds spelled once cut

/-! ## One token -/

theorem extendRun_short {before : List Event}
    (continues : extendsRun ⟨pattern, compound, held⟩ token = true)
    (short : held.length + 1 < pattern.length) :
    extendRun ⟨pattern, compound, held⟩ before token =
      ⟨before, ⟨pattern, compound, held ++ [token]⟩, ⟨pattern, compound, []⟩⟩ := by
  obtain ⟨first, others, run⟩ := List.exists_cons_of_ne_nil (List.concat_ne_nil token held)
  have length : others.length = held.length := by simpa using (congrArg List.length run).symm
  simp [extendRun, continues, run, length, short, cleared]

theorem extendRun_full {before : List Event} {first : Token} {others : List Token}
    (continues : extendsRun ⟨pattern, compound, held⟩ token = true)
    (full : ¬held.length + 1 < pattern.length) (run : held ++ [token] = first :: others) :
    extendRun ⟨pattern, compound, held⟩ before token =
      ⟨before ++ [.token (compose ⟨pattern, compound, held⟩ first others)],
        ⟨pattern, compound, []⟩, ⟨pattern, compound, []⟩⟩ := by
  have length : others.length = held.length := by simpa using (congrArg List.length run).symm
  simp only [extendRun, continues, run, length, full, cleared, if_true, if_false]

theorem extendRun_before (composer : SequenceComposer) (before : List Event) (token : Token) :
    (extendRun composer before token).forward =
        before ++ (extendRun composer [] token).forward ∧
      (extendRun composer before token).accepted = (extendRun composer [] token).accepted := by
  unfold extendRun
  dsimp only
  cases composer.held ++ [token] with
  | nil => split_ifs <;> simp
  | cons first others =>
      dsimp only
      split_ifs <;> simp

theorem pass_extend (continues : extendsRun ⟨pattern, compound, held⟩ token = true)
    (short : held.length + 1 < pattern.length) :
    Filter.pass (⟨pattern, compound, held⟩ : SequenceComposer) (token :: rest) =
      Filter.pass (⟨pattern, compound, held ++ [token]⟩ : SequenceComposer) rest := by
  simp [Filter.pass, Filter.react, react, continues, extendRun_short continues short, Relay.sent]

theorem pass_complete (continues : extendsRun ⟨pattern, compound, held⟩ token = true)
    (full : ¬held.length + 1 < pattern.length) {first : Token} {others : List Token}
    (run : held ++ [token] = first :: others) :
    Filter.pass (⟨pattern, compound, held⟩ : SequenceComposer) (token :: rest) =
      (compose ⟨pattern, compound, held⟩ first others ::
          (Filter.pass (⟨pattern, compound, []⟩ : SequenceComposer) rest).1,
        (Filter.pass (⟨pattern, compound, []⟩ : SequenceComposer) rest).2) := by
  simp [Filter.pass, Filter.react, react, continues, extendRun_full continues full run, Relay.sent,
    Event.token?]

/-- When a run breaks off, the tokens that are held are sent on, and the token is treated as
if none had been held. -/
theorem pass_release (broken : extendsRun ⟨pattern, compound, held⟩ token = false) :
    Filter.pass (⟨pattern, compound, held⟩ : SequenceComposer) (token :: rest) =
      (held ++ (Filter.pass (⟨pattern, compound, []⟩ : SequenceComposer) (token :: rest)).1,
        (Filter.pass (⟨pattern, compound, []⟩ : SequenceComposer) (token :: rest)).2) := by
  cases held with
  | nil => rfl
  | cons first others =>
      obtain ⟨forward, accepted⟩ :=
        extendRun_before ⟨pattern, compound, []⟩ ((first :: others).map .token) token
      have answer : Filter.react (⟨pattern, compound, first :: others⟩ : SequenceComposer) token =
          extendRun ⟨pattern, compound, []⟩ ((first :: others).map .token) token := by
        simp [Filter.react, react, broken, cleared]
      have alone : Filter.react (⟨pattern, compound, []⟩ : SequenceComposer) token =
          extendRun ⟨pattern, compound, []⟩ [] token := by
        simp [Filter.react, react]
      simp only [Filter.pass, answer, alone, Relay.sent, forward, accepted, List.filterMap_append,
        filterMap_token, List.append_assoc]

theorem pass_send (broken : extendsRun ⟨pattern, compound, []⟩ token = false) :
    Filter.pass (⟨pattern, compound, []⟩ : SequenceComposer) (token :: rest) =
      (token :: (Filter.pass (⟨pattern, compound, []⟩ : SequenceComposer) rest).1,
        (Filter.pass (⟨pattern, compound, []⟩ : SequenceComposer) rest).2) := by
  simp [Filter.pass, Filter.react, react, extendRun, broken, Relay.sent, Event.token?]

/-! ## Whole streams -/

/-- The composer cuts the stream that begins with what it holds, and replaces every run if
its pattern is distinctive. -/
def Settles (pattern : List Kind) (compound : Kind) (held tokens : List Token) : Prop :=
  ∃ pieces, Cuts (Composes pattern compound) (Distinctive pattern) (held ++ tokens) pieces ∧
    Filter.pass (⟨pattern, compound, held⟩ : SequenceComposer) tokens =
      (pieces.map Piece.result, ⟨pattern, compound, []⟩)

theorem settles_nil : Settles pattern compound [] [] :=
  ⟨[], .nil, rfl⟩

theorem settles_extend (continues : extendsRun ⟨pattern, compound, held⟩ token = true)
    (short : held.length + 1 < pattern.length)
    (later : Settles pattern compound (held ++ [token]) rest) :
    Settles pattern compound held (token :: rest) := by
  obtain ⟨pieces, cuts, passed⟩ := later
  rw [List.append_assoc] at cuts
  exact ⟨pieces, cuts, (pass_extend continues short).trans passed⟩

theorem settles_complete (holds : Holds pattern held)
    (proper : token.span.start ≤ token.span.stop)
    (continues : extendsRun ⟨pattern, compound, held⟩ token = true)
    (full : ¬held.length + 1 < pattern.length) (later : Settles pattern compound [] rest) :
    Settles pattern compound held (token :: rest) := by
  obtain ⟨pieces, cuts, passed⟩ := later
  obtain ⟨first, others, run⟩ := List.exists_cons_of_ne_nil (List.concat_ne_nil token held)
  have begins := kinds_concat holds continues
  have kinds : (held ++ [token]).map Token.kind = pattern := by
    apply begins.eq_of_length
    have bound := begins.length_le
    simp only [List.length_map, List.length_append, List.length_singleton] at bound ⊢
    omega
  have adjacent := adjacent_concat holds continues
  have ordered : ∀ other ∈ held ++ [token], other.span.start ≤ other.span.stop := by
    simpa [or_imp, forall_and, proper] using holds.ordered
  rw [run] at kinds adjacent ordered
  have composes := composes_compose ⟨pattern, compound, held⟩ first others kinds adjacent ordered
  refine ⟨.replaced (first :: others) (compose ⟨pattern, compound, held⟩ first others) :: pieces,
    ?_, ?_⟩
  · have whole : held ++ token :: rest = (first :: others) ++ rest := by simp [← run]
    rw [whole]
    exact .replace composes cuts
  · rw [pass_complete continues full run, passed]
    rfl

theorem settles_send (broken : extendsRun ⟨pattern, compound, []⟩ token = false)
    (later : Settles pattern compound [] rest) : Settles pattern compound [] (token :: rest) := by
  obtain ⟨pieces, cuts, passed⟩ := later
  refine ⟨.kept token :: pieces, .keep (fun distinctive => ?_) cuts, ?_⟩
  · obtain ⟨first, others, rfl, text, _⟩ := distinctive
    exact unbegun_of_short text (by simp) broken
  · rw [pass_send broken, passed]
    rfl

theorem settles_release (holds : Holds pattern held)
    (broken : extendsRun ⟨pattern, compound, held⟩ token = false)
    (later : Settles pattern compound [] (token :: rest)) :
    Settles pattern compound held (token :: rest) := by
  obtain ⟨pieces, cuts, passed⟩ := later
  refine ⟨held.map .kept ++ pieces, cuts.keepAll ?_, ?_⟩
  · intro distinctive before inner cut nonempty
    exact unbegun_of_broken holds distinctive broken cut nonempty
  · rw [pass_release broken, passed, List.map_append, Piece.map_result_kept]

/-- The control token at the end of a stream makes a composer let go of what it holds. -/
theorem settles (holds : Holds pattern held) (tokens : List Token)
    (closed : ∀ front last, tokens = front ++ [last] → last.kind.isControl = true)
    (released : tokens = [] → held = [])
    (ordered : ∀ token ∈ tokens, token.span.start ≤ token.span.stop) :
    Settles pattern compound held tokens := by
  induction tokens generalizing held with
  | nil =>
      rw [released rfl]
      exact settles_nil
  | cons token rest ih =>
      obtain ⟨proper, orderedRest⟩ := List.forall_mem_cons.mp ordered
      have closedRest (front : List Token) (last : Token) (ends : rest = front ++ [last]) :
          last.kind.isControl = true :=
        closed (token :: front) last (by rw [ends]; rfl)
      have empty : Settles pattern compound [] rest :=
        ih (holds_nil pattern) closedRest (fun _ => rfl) orderedRest
      -- A token that continues what is held is no control token, so more is to come.
      have onward {held : List Token} (holds : Holds pattern held)
          (continues : extendsRun ⟨pattern, compound, held⟩ token = true) :
          Settles pattern compound held (token :: rest) := by
        by_cases short : held.length + 1 < pattern.length
        · refine settles_extend continues short ?_
          refine ih (holds_concat holds proper continues short) closedRest ?_ orderedRest
          rintro rfl
          obtain ⟨_, text, _⟩ := extendsRun_iff.mp continues
          rw [closed [] token rfl] at text
          contradiction
        · exact settles_complete holds proper continues short empty
      cases continues : extendsRun ⟨pattern, compound, held⟩ token with
      | true => exact onward holds continues
      | false =>
          apply settles_release holds continues
          cases begins : extendsRun ⟨pattern, compound, []⟩ token with
          | true => exact onward (holds_nil pattern) begins
          | false => exact settles_send begins empty

theorem sendsTokens : Filter.SendsTokens SequenceComposer :=
  fun composer token => StockFilter.sendsTokens (.sequenceComposer composer) token

/-- A composer replaces nothing but runs of its pattern, whatever the pattern is, and all
other tokens come out of it as they were; a composer with a distinctive pattern replaces
every run.  The stream has to end with a control token, and afterwards the composer holds
nothing. -/
theorem runs_composed (pattern : List Kind) (compound : Kind) (tokens : List Token)
    (closed : ∃ front last, tokens = front ++ [last] ∧ last.kind.isControl = true)
    (ordered : ∀ token ∈ tokens, token.span.start ≤ token.span.stop) :
    ∃ pieces output, Rewrites (Composes pattern compound) tokens output pieces ∧
      (Distinctive pattern → ReplacesEvery (Composes pattern compound) tokens pieces) ∧
      ∀ {σ : Type} [Sink σ] (sink : σ), Sink.Steady sink →
        let reply := Sink.sendAll (⟨{ pattern, compound }, sink⟩ : Filtered SequenceComposer σ)
          (tokens.map .token)
        reply.flow = .proceed ∧
          reply.sink = ⟨{ pattern, compound }, (Sink.sendAll sink (output.map .token)).sink⟩ := by
  obtain ⟨front, last, rfl, control⟩ := closed
  obtain ⟨pieces, cuts, passed⟩ : Settles pattern compound [] (front ++ [last]) := by
    apply settles (holds_nil pattern) _ _ (fun _ => rfl) ordered
    intro others final ends
    obtain ⟨_, same⟩ := List.append_inj' ends rfl
    obtain rfl := List.singleton_inj.mp same
    exact control
  refine ⟨pieces, pieces.map Piece.result, cuts.rewrites, ?_, ?_⟩
  · intro distinctive
    obtain ⟨first, others, rfl, _, once⟩ := id distinctive
    exact cuts.replacesEvery (led_composes once) distinctive
  · intro σ _ sink steady
    have sent := sendsTokens.sendAll ({ pattern, compound } : SequenceComposer) steady
      (front ++ [last])
    rw [passed] at sent
    exact sent

/-- A run that a gap breaks off, a whole run, and the beginning of a third one at the end of
the input. -/
def interrupted : List Token :=
  [{ kind := .operator 0, span := ⟨0, 1⟩ },
    { kind := .operator 1, span := ⟨1, 2⟩ },
    { atLineStart := true, kind := .operator 0, span := ⟨3, 4⟩ },
    { kind := .operator 1, span := ⟨4, 5⟩ },
    { kind := .operator 2, span := ⟨5, 7⟩ },
    { kind := .operator 0, span := ⟨7, 8⟩ },
    { kind := .fin, span := ⟨8, 8⟩ }]

/-- Only the whole run is replaced, and all other tokens stay. -/
theorem runs_composed_interrupted :
    (∃ front last, interrupted = front ++ [last] ∧ last.kind.isControl = true) ∧
      (∀ token ∈ interrupted, token.span.start ≤ token.span.stop) ∧
      Distinctive [.operator 0, .operator 1, .operator 2] ∧
      ∃ pieces, Rewrites (Composes [.operator 0, .operator 1, .operator 2] (.operator 3))
          interrupted
          [{ kind := .operator 0, span := ⟨0, 1⟩ },
            { kind := .operator 1, span := ⟨1, 2⟩ },
            { atLineStart := true, kind := .operator 3, span := ⟨3, 7⟩ },
            { kind := .operator 0, span := ⟨7, 8⟩ },
            { kind := .fin, span := ⟨8, 8⟩ }] pieces ∧
        ReplacesEvery (Composes [.operator 0, .operator 1, .operator 2] (.operator 3)) interrupted
          pieces := by
  have closed : ∃ front last, interrupted = front ++ [last] ∧ last.kind.isControl = true :=
    ⟨interrupted.dropLast, _, rfl, by decide⟩
  have ordered : ∀ token ∈ interrupted, token.span.start ≤ token.span.stop := by decide
  have distinctive : Distinctive [.operator 0, .operator 1, .operator 2] :=
    ⟨_, _, rfl, by decide, by decide⟩
  obtain ⟨pieces, output, rewrites, every, received⟩ :=
    runs_composed [.operator 0, .operator 1, .operator 2] (.operator 3) interrupted closed ordered
  have recorded := congrArg (fun stage => Recorder.tokens stage.next)
    (received ({} : Recorder) Scan.steady_recorder).2
  rw [recorded_tokens] at recorded
  rw [← recorded] at rewrites
  exact ⟨closed, ordered, distinctive, pieces, rewrites, every distinctive⟩

end SequenceComposer

end Lexing
