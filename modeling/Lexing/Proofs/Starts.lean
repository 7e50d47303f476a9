import Lexing.Proofs.Transcript

/-!
# Where tokens start

Every token of a scan starts at a moment at which the machine is between tokens and
all tokens before it have been reported.  The symbols that are to be fed at that
moment are those of the source from the start of the token on, and the first of them
may introduce a literal.
-/

namespace Lexing

theorem Segment.flatten_of_bare {segments : List Segment}
    (bare : ∀ segment ∈ segments, segment.trail = []) :
    flatten segments = segments.map symbol := by
  induction segments with
  | nil => rfl
  | cons segment rest ih =>
      have others := ih fun other member => bare other (by simp [member])
      simp [located, bare segment (by simp), others]

/-- Nothing is absorbed behind symbols that are to be fed when the first one is not pointed. -/
theorem Policy.Chain.symbols_of_unpointed {pointed : Segment → Prop} {queued : List Segment}
    {offset : Nat} {symbol : Char} {rest : List Char}
    (chain : (Policy.tight pointed).Chain queued)
    (text : Segment.flatten queued = Located.ofText offset (symbol :: rest))
    (unpointed : ∀ trail, ¬pointed ⟨⟨symbol, offset⟩, trail⟩) :
    queued.map Segment.symbol = Located.ofText offset (symbol :: rest) := by
  rw [← text]
  refine (Segment.flatten_of_bare ?_).symm
  cases queued with
  | nil => simp
  | cons head behind =>
      have first : head.symbol = ⟨symbol, offset⟩ := by
        simpa [Segment.located, Located.ofText] using congrArg List.head? text
      intro segment member
      rcases List.mem_cons.mp member with rfl | later
      · rcases chain.1 with bare | isPointed
        · exact bare
        · refine absurd ?_ (unpointed segment.trail)
          rwa [← first]
      · exact chain.2 segment later

namespace Scan

variable {ρ : Type} {profile : Profile ρ} {state : ScanState ρ} {fed : Fed}
  {reaction : Reaction ρ} {stop : Nat}

@[simp] theorem tokensOf_nil : tokensOf [] = [] := rfl

/-! ## What a reaction reports and gives back -/

/-- The reaction reports nothing, or one token after which nothing is begun. -/
def Brief (reaction : Reaction ρ) : Prop :=
  tokensOf reaction.reports = [] ∨
    ∃ token, tokensOf reaction.reports = [token] ∧ reaction.state.mode = .idle

/-- A brief reaction that allows all symbols it gives back to introduce a literal,
unless it only goes back to where the first of them was seen. -/
structure Tidy (reaction : Reaction ρ) : Prop where
  brief : Brief reaction
  behind : ∀ again ∈ reaction.next.tail, again.exempt.literal = false
  front : reaction.state.mode ≠ .idle ∨ tokensOf reaction.reports ≠ [] →
    ∀ again ∈ reaction.next, again.exempt.literal = false

theorem Brief.tidy (brief : Brief reaction)
    (free : ∀ again ∈ reaction.next, again.exempt.literal = false) : Tidy reaction where
  brief := brief
  behind again member := free again (List.mem_of_mem_tail member)
  front _ := free

theorem Brief.tidy_of_next (brief : Brief reaction) (next : reaction.next = []) : Tidy reaction :=
  brief.tidy (by simp [next])

theorem brief_become (state : ScanState ρ) (mode : Mode) : Brief (state.become mode) :=
  Or.inl rfl

theorem brief_finish (state : ScanState ρ) (kind : Kind) (stop : Nat) (payload : Payload) :
    Brief (state.finish kind stop payload) :=
  Or.inr ⟨_, rfl, rfl⟩

theorem brief_reject (state : ScanState ρ) (span : Span) (complaint : Option String) :
    Brief (state.reject span complaint) :=
  Or.inr ⟨_, rfl, rfl⟩

theorem Brief.notify (brief : Brief reaction) {report : Report}
    (remark : report.event.token? = none) : Brief (reaction.notify report) := by
  have same : tokensOf (reaction.notify report).reports = tokensOf reaction.reports := by
    simp [tokensOf, remark]
  unfold Brief
  rw [same]
  exact brief

theorem Brief.feed (brief : Brief reaction) (symbols : List Fed) : Brief (reaction.feed symbols) :=
  brief

theorem closeWalk_brief (node : NodeId) : Brief (closeWalk profile state node stop) := by
  have closed := closeWalk_closed profile state node stop
  generalize closeWalk profile state node stop = reaction at closed ⊢
  cases closed with
  | demoted | operator | unnamed => exact brief_finish _ _ _ _
  | lineComment | blockComment => exact brief_become _ _

theorem free_map_plain (symbols : List Located) :
    ∀ again ∈ symbols.map Fed.plain, again.exempt.literal = false := by
  intro again member
  obtain ⟨located, _, rfl⟩ := List.mem_map.mp member
  rfl

theorem stuckOperator_brief (walk : Walk) : Brief (stuckOperator profile state walk stop) := by
  have stuck := stuckOperator_stuck profile state walk stop
  generalize stuckOperator profile state walk stop = reaction at stuck ⊢
  cases stuck with
  | passed => exact (closeWalk_brief _).feed _
  | rejected => exact ((brief_reject _ _ _).notify rfl).feed _
  | empty => exact brief_become _ _

theorem stuckOperator_free (walk : Walk) :
    ∀ again ∈ (stuckOperator profile state walk stop).next, again.exempt.literal = false := by
  have stuck := stuckOperator_stuck profile state walk stop
  generalize stuckOperator profile state walk stop = reaction at stuck ⊢
  cases stuck with
  | passed =>
      rw [finishOperator_next]
      exact free_map_plain _
  | rejected => exact free_map_plain _
  | empty => simp

theorem reachOperator_brief (node : NodeId) (pending : List Located)
    (terminal : Option (NodeId × Nat)) :
    Brief (reachOperator profile state node pending terminal) := by
  unfold reachOperator
  split
  · exact brief_become _ _
  · exact (closeWalk_brief _).feed _

theorem resolvePrefix_brief (node : NodeId) (pending : List Located) (next : Option Fed) :
    Brief (resolvePrefix profile state node pending next) := by
  obtain ⟨_, resolved, answer⟩ := resolvePrefix_resolved profile state node pending next
  rw [answer]
  cases resolved with
  | spanless | opens | goesOn => exact brief_become _ _
  | alone | digits => exact (brief_finish _ _ _ _).feed _
  | rejected => exact (brief_reject _ _ _).feed _

theorem releaseDot_brief (value : Numeral) (dot : Nat) (hasInteger : Bool) :
    Brief (releaseDot state value dot hasInteger) := by
  cases hasInteger with
  | false => exact brief_become _ _
  | true => exact (brief_finish _ _ _ _).feed _

theorem joinLines_brief (resume : Resume) (escape : Located) :
    Brief (joinLines state resume escape stop) := by
  cases resume with
  | idle => exact Or.inr ⟨_, rfl, rfl⟩
  | _ => exact Or.inl rfl

variable [Literal.Reader ρ]

theorem openLiteral_brief (node : NodeId) (introduction : List Located) :
    Brief (openLiteral profile state node introduction) := by
  have opened := openLiteral_opened profile state node introduction
  generalize openLiteral profile state node introduction = reaction at opened ⊢
  cases opened with
  | unbound | unread => exact brief_finish _ _ _ _
  | opens => exact brief_become _ _

theorem reachLiteral_brief (node : NodeId) (pending : List Located)
    (terminal : Option (NodeId × Nat)) :
    Brief (reachLiteral profile state node pending terminal) := by
  have reached := reachLiteral_reached profile state node pending terminal
  generalize reachLiteral profile state node pending terminal = reaction at reached ⊢
  cases reached with
  | waits => exact brief_become _ _
  | opens => exact openLiteral_brief _ _

/-- A walk that leads to no literal goes back to its first symbol, and this one is
exempt.  Otherwise no symbol is. -/
theorem stuckLiteral_feed_tidy (walk : Walk) {again : List Fed}
    (free : ∀ fed ∈ again, fed.exempt.literal = false) :
    Tidy ((stuckLiteral profile state walk).feed again) := by
  unfold stuckLiteral
  cases walk.terminal with
  | none =>
      refine ⟨Or.inl rfl, ?_, fun busy => by simp at busy⟩
      cases pending : walk.pending with
      | nil =>
          intro fed member
          exact free fed (List.mem_of_mem_tail (by simpa [Fed.firstExempt] using member))
      | cons first rest =>
          intro fed member
          simp only [Reaction.feed_next, ScanState.become_next, List.nil_append, Fed.firstExempt,
            List.cons_append, List.tail_cons, List.mem_append, List.mem_map] at member
          rcases member with ⟨located, _, rfl⟩ | member
          · rfl
          · exact free fed member
  | some passed =>
      refine Brief.tidy (((openLiteral_brief _ _).feed _).feed _) ?_
      intro fed member
      simp only [Reaction.feed_next, openLiteral_next, List.nil_append, List.mem_append,
        List.mem_map] at member
      rcases member with ⟨located, _, rfl⟩ | member
      · rfl
      · exact free fed member

theorem readLiteral_tidy (number : Nat) (kind : Kind) :
    Tidy (readLiteral profile state number kind fed) := by
  have given : ∀ again ∈ [Fed.plain fed.toLocated], again.exempt.literal = false := by
    simp [Fed.plain]
  have continued := readLiteral_continued profile state number kind fed
  generalize readLiteral profile state number kind fed = reaction at continued ⊢
  cases continued with
  | unread => exact ((brief_become _ _).feed _).tidy given
  | proceeds | proceedsWith => exact Brief.tidy_of_next (Or.inl rfl) rfl
  | stops => exact Brief.tidy_of_next (brief_finish _ _ _ _) rfl
  | stopsWith => exact Brief.tidy_of_next ((brief_finish _ _ _ _).notify rfl) rfl
  | failsBefore => exact (((brief_reject _ _ _).notify rfl).feed _).tidy given
  | fails => exact ((brief_reject _ _ _).notify rfl).tidy_of_next rfl

theorem closeLiteral_brief (number : Nat) (kind : Kind) :
    Brief (closeLiteral state number kind stop) := by
  have closed := closeLiteral_closed state number kind stop
  generalize closeLiteral state number kind stop = reaction at closed ⊢
  cases closed with
  | unread => exact brief_become _ _
  | stops => exact brief_finish _ _ _ _
  | stopsWith => exact (brief_finish _ _ _ _).notify rfl
  | fails => exact (brief_reject _ _ _).notify rfl

theorem dispatch_brief (idle : state.mode = .idle) : Brief (dispatch profile state fed) := by
  have sameMode : (starting state fed).mode = .idle := idle
  have answer := dispatched profile state fed
  generalize dispatch profile state fed = reaction at answer ⊢
  cases answer with
  | single _ => exact Or.inr ⟨_, rfl, sameMode⟩
  | literal _ _ => exact reachLiteral_brief _ _ _
  | operator _ => exact reachOperator_brief _ _ _
  | reject => exact brief_reject _ _ _
  | continuation | blank | point | numberPrefix | number | identifier => exact brief_become _ _

/-- Every answer is tidy, if the symbol that it gives back may introduce a literal. -/
theorem Answered.tidy {next : Option Fed} (answered : Answered profile stop state next reaction)
    (free : state.mode ≠ .idle → ∀ fed ∈ next, fed.exempt.literal = false) : Tidy reaction := by
  have again : state.mode ≠ .idle → ∀ fed ∈ next.toList, fed.exempt.literal = false := by
    simpa using free
  cases answered with
  | between mode => exact (dispatch_brief mode).tidy_of_next (by simp)
  | takes => exact (brief_become _ _).tidy_of_next rfl
  | completes mode completed =>
      exact ((brief_finish _ _ _ _).feed _).tidy (again (by simpa [mode] using completed.ne_idle))
  | linefeed => exact (brief_finish _ _ _ _).tidy_of_next rfl
  | resolves mode =>
      refine (resolvePrefix_brief _ _ _).tidy ?_
      simpa using again (by simp [mode])
  | releases mode =>
      refine ((releaseDot_brief _ _ _).feed _).tidy
        (List.forall_mem_append.mpr ⟨?_, again (by simp [mode])⟩)
      simp [Fed.exemptPoint]
  | extendsOperator => exact (reachOperator_brief _ _ _).tidy_of_next (by simp)
  | endsOperator mode =>
      exact ((stuckOperator_brief _).feed _).tidy
        (List.forall_mem_append.mpr ⟨stuckOperator_free _, again (by simp [mode])⟩)
  | closesBlock => exact Brief.tidy_of_next (Or.inr ⟨_, rfl, rfl⟩) rfl
  | unclosed => exact (brief_reject _ _ _).tidy_of_next rfl
  | extendsIntroduction => exact (reachLiteral_brief _ _ _).tidy_of_next (by simp)
  | endsIntroduction mode => exact stuckLiteral_feed_tidy _ (again (by simp [mode]))
  | reads => exact readLiteral_tidy _ _
  | closesLiteral => exact (closeLiteral_brief _ _).tidy_of_next (by simp)
  | joins => exact (joinLines_brief _ _).tidy_of_next (by simp)
  | joinsBefore mode =>
      refine ((joinLines_brief _ _).feed _).tidy ?_
      simpa using again (by simp [mode])
  | abandons mode =>
      refine Brief.tidy (Or.inl rfl) (List.forall_mem_append.mpr ⟨?_, again (by simp [mode])⟩)
      simp

/-! ## Cutting a run before a token -/

/-- Only the first symbol can be exempt from introducing a literal, and only between
tokens. -/
structure Config.Free (config : Config ρ) : Prop where
  behind : ∀ fed ∈ config.queue.tail, fed.exempt.literal = false
  front : config.state.mode ≠ .idle → ∀ fed ∈ config.queue, fed.exempt.literal = false

omit [Literal.Reader ρ] in
theorem Tidy.free {rest : List Fed} (tidy : Tidy reaction)
    (others : ∀ fed ∈ rest, fed.exempt.literal = false) :
    Config.Free ⟨reaction.state, reaction.next ++ rest⟩ := by
  constructor
  · intro again member
    cases next : reaction.next with
    | nil =>
        rw [next] at member
        exact others again (List.mem_of_mem_tail member)
    | cons first more =>
        rw [next] at member
        rcases List.mem_append.mp member with early | late
        · exact tidy.behind again (by rwa [next])
        · exact others again late
  · intro busy again member
    rcases List.mem_append.mp member with early | late
    · exact tidy.front (Or.inl busy) again early
    · exact others again late

theorem next_tidy {config : Config ρ} {rest : List Fed} (free : config.Free)
    (next : nextReaction? profile (some stop) config.state config.queue = some (reaction, rest)) :
    Tidy reaction ∧ ∀ fed ∈ rest, fed.exempt.literal = false := by
  obtain ⟨symbol, same, last, answered⟩ := answered_next next
  have behind := free.behind
  have front := free.front
  rw [same] at behind front
  refine ⟨answered.tidy fun busy fed ahead => ?_, ?_⟩
  · obtain rfl : symbol = some fed := ahead
    exact front busy fed (List.mem_cons_self ..)
  · cases symbol with
    | none => simp [last rfl]
    | some first => exact behind

/-- Right after the last of some tokens the machine is between tokens, and no symbol is
exempt from introducing a literal. -/
theorem Yields.cut {count : Nat} {config : Config ρ} {reports : List Report}
    {before after : List Token} {token : Token}
    (yields : Yields profile stop count config reports) (free : config.Free)
    (split : tokensOf reports = before ++ token :: after) (some : before ≠ []) :
    ∃ past later middle, reports = past ++ later ∧
      Leads profile (.some stop) config past middle ∧
      (∃ fewer, Yields profile stop fewer middle later) ∧ tokensOf past = before ∧
      middle.state.mode = .idle ∧ ∀ fed ∈ middle.queue, fed.exempt.literal = false := by
  induction yields generalizing before with
  | done _ done =>
      have single : [finToken _ stop] = before ++ token :: after := split
      have length := congrArg List.length single
      have positive := List.length_pos_iff.mpr some
      simp only [List.length_cons, List.length_nil, List.length_append] at length
      omega
  | @next config reaction rest reports _ next yields ih =>
      obtain ⟨tidy, plain⟩ := next_tidy free next
      have onward : Leads profile (.some stop) config reaction.reports
          ⟨reaction.state, reaction.next ++ rest⟩ := Leads.single next
      rw [tokensOf_append] at split
      rcases tidy.brief with quiet | ⟨single, made, idle⟩
      · rw [quiet, List.nil_append] at split
        obtain ⟨past, later, middle, rfl, leads, rest⟩ := ih (tidy.free plain) split some
        refine ⟨reaction.reports ++ past, later, middle, by simp, onward.trans leads, ?_⟩
        simpa [quiet] using rest
      · rw [made] at split
        obtain ⟨first, before, rfl⟩ := List.exists_cons_of_ne_nil some
        obtain ⟨rfl, others⟩ := List.cons_eq_cons.mp split
        cases before with
        | nil =>
            refine ⟨reaction.reports, reports, _, rfl, onward, ⟨_, yields⟩, made, idle, ?_⟩
            intro again member
            rcases List.mem_append.mp member with early | late
            · exact tidy.front (Or.inr (by simp [made])) again early
            · exact plain again late
        | cons second before =>
            obtain ⟨past, later, middle, rfl, leads, ahead, covered, rest⟩ :=
              ih (tidy.free plain) others (by simp)
            refine ⟨reaction.reports ++ past, later, middle, by simp, onward.trans leads, ahead,
              ?_, rest⟩
            rw [tokensOf_append, made, covered]
            rfl

/-! ## The symbols from a token on -/

/-- The symbols are accounted for after any part of a run. -/
theorem Leads.standing {policy : Policy} {symbols : List Located} {first last : Config ρ}
    {past : List Report} {tokens : List Token} {splices : List Splice}
    (setting : Setting policy profile symbols) (sane : Sane profile first.state)
    (standing : Standing policy profile symbols stop tokens splices first.state
      (first.queue.map Fed.toLocated) [])
    (leads : Leads profile (some stop) first past last) :
    Sane profile last.state ∧ ∃ splices, Standing policy profile symbols stop
      (tokens ++ tokensOf past) splices last.state (last.queue.map Fed.toLocated) [] := by
  induction leads generalizing tokens splices with
  | here => exact ⟨sane, splices, by simpa using standing⟩
  | @there config last reaction rest reports next _ ih =>
      rw [tokensOf_append, ← List.append_assoc]
      obtain ⟨_, stands⟩ := next_standing setting sane standing next
      exact ih (keeps_sane setting.sound _ _ _ _ sane next) stands

omit [Literal.Reader ρ] in
theorem opening_standing {policy : Policy} {source : String}
    (fits : byteLength source.toList ≤ maxOffset) :
    Standing policy profile (Located.ofText 0 source.toList) (byteLength source.toList) [] []
      ({} : ScanState ρ) ((Located.ofText 0 source.toList).map (Fed.toLocated ∘ Fed.plain)) [] := by
  have flattened : Segment.flatten ((Located.ofText 0 source.toList).map (Segment.mk · [])) = _ :=
    Segment.flatten_of_bare (by simp)
  refine ⟨[], [], [], (Located.ofText 0 source.toList).map (Segment.mk · []),
    ⟨Located.adjoin_source fits, by simp [flattened, Function.comp_def], by simp⟩, .nil, ?_, rfl,
    by simp [Mode.resting], rfl, Policy.chain_of_loose ?_⟩
  · simp [Function.comp_def, Fed.plain]
  · intro segment member
    obtain ⟨located, _, rfl⟩ := List.mem_map.mp member
    exact policy.bare located

/-- How the text of a source is shared out at some moment of its scan: the reported tokens
cover its beginning, a part behind them is held back, and the rest is to be fed. -/
structure Apportions (pointed : Segment → Prop) (profile : Profile ρ) (source : String)
    (past : List Report) (config : Config ρ) (reported held ahead : List Char)
    (body wait queued : List Segment) : Prop where
  sane : Sane profile config.state
  whole : source.toList = reported ++ (held ++ ahead)
  tiles : Tiles 0 (tokensOf past) (byteLength reported)
  heldText : Segment.flatten (body ++ wait) = Located.ofText (byteLength reported) held
  aheadText : Segment.flatten queued = Located.ofText (byteLength (reported ++ held)) ahead
  feeds : queued.map Segment.symbol = config.queue.map Fed.toLocated
  waiting : wait.map Segment.symbol = config.state.mode.waiting
  rests : Rests (.tight pointed) profile config.state.mode.resting body (wait ++ queued)

theorem Reaches.apportions {pointed : Segment → Prop} {source : String} {past : List Report}
    {config : Config ρ} (reaches : Reaches profile source past config)
    (fits : byteLength source.toList ≤ maxOffset)
    (setting : Setting (.tight pointed) profile (Located.ofText 0 source.toList)) :
    ∃ reported held ahead body wait queued,
      Apportions pointed profile source past config reported held ahead body wait queued := by
  have standing : Standing (.tight pointed) profile (Located.ofText 0 source.toList)
      (byteLength source.toList) [] [] ({} : ScanState ρ)
      ((opening source : Config ρ).queue.map Fed.toLocated) [] := by
    simpa [opening] using opening_standing fits
  obtain ⟨sane, _, done, body, wait, queued, account, layout⟩ :=
    Leads.standing setting ⟨ScanState.valid_idle rfl, rfl, by simp [opening]⟩ standing reaches
  have all : Segment.flatten done ++ (Segment.flatten (body ++ wait) ++ Segment.flatten queued) =
      Located.ofText 0 source.toList := by
    simpa [Segment.flatten_append, List.append_assoc] using account.all
  obtain ⟨reported, others, whole, doneText, text⟩ :=
    Located.ofText_eq_append (by simpa using fits) all
  have total : byteLength source.toList = byteLength reported + byteLength others := by
    rw [whole, byteLength_append]
  obtain ⟨held, ahead, rfl, heldText, aheadText⟩ := Located.ofText_eq_append (by omega) text
  have tiled := (Covers.tiling layout.covers whole (by omega) doneText).2.1
  rw [Nat.zero_add] at heldText aheadText
  rw [← byteLength_append] at aheadText
  exact ⟨reported, held, ahead, body, wait, queued, sane, whole, by simpa using tiled, heldText,
    aheadText, layout.feeds, layout.waiting, layout.rests⟩

namespace Apportions

variable {pointed : Segment → Prop} {source : String} {past : List Report} {config : Config ρ}
  {reported held ahead : List Char} {body wait queued : List Segment}

omit [Literal.Reader ρ] in
/-- Between tokens nothing is held back. -/
theorem between (apportions : Apportions pointed profile source past config reported held ahead
    body wait queued) (idle : config.state.mode = .idle) :
    held = [] ∧ (Policy.tight pointed).Chain queued := by
  have waiting := apportions.waiting
  have rests := apportions.rests
  have heldText := apportions.heldText
  rw [idle] at waiting rests
  obtain rfl : wait = [] := by simpa [Mode.waiting] using waiting
  obtain ⟨rfl, chain⟩ := rests
  refine ⟨?_, chain⟩
  cases held with
  | nil => rfl
  | cons symbol held => simp [Located.ofText, Segment.flatten] at heldText

end Apportions

end Scan

/-! ## Unique positions -/

/-- Each token starts where the tokens before it end. -/
theorem Tiling.start_eq {source : String} {inner before after : List Token} {last token : Token}
    {border : Nat} (tiling : Tiling source inner last)
    (cut : inner ++ [last] = before ++ token :: after) (tiles : Tiles 0 before border) :
    token.span.start = border := by
  rcases List.eq_nil_or_concat after with rfl | ⟨more, final, rfl⟩
  · obtain ⟨rfl, same⟩ := List.append_inj' cut rfl
    obtain rfl := List.singleton_inj.mp same
    rw [tiling.fin.2, tiles.unique tiling.tiles]
    rfl
  · rw [List.concat_eq_append, ← List.cons_append, ← List.append_assoc] at cut
    obtain ⟨rfl, _⟩ := List.append_inj' cut rfl
    obtain ⟨middle, early, late⟩ := tiles_append.mp tiling.tiles
    rw [tiles.unique early]
    exact late.1

namespace Scan

variable {ρ : Type} [Literal.Reader ρ] {profile : Profile ρ} {source : String}

theorem tokens_tiling {pointed : Segment → Prop} (fits : byteLength source.toList ≤ maxOffset)
    (undotted : profile.literals.advance Trie.root '.' = none)
    (setting : Setting (.tight pointed) profile (Located.ofText 0 source.toList)) :
    ∃ inner last, tokens profile source = inner ++ [last] ∧ Tiling source inner last := by
  obtain ⟨received, inner, last, split, tiling, delivers⟩ :=
    tilesSource_of_setting fits undotted setting
  refine ⟨inner, last, ?_, tiling⟩
  rw [← split, tokens, events, (delivers _ steady_recorder).2, (sendAll_recorder {} rfl rfl _).2]
  rfl

/-- The moment at which the machine looks at the first symbol of a token: the tokens
before are reported, those from here on lie ahead, and all symbols from the start of
the token on are to be fed. -/
structure StartsToken (profile : Profile ρ) (source : String) (offset : Nat) (text : List Char)
    (before ahead : List Token) (past future : List Report) (state : ScanState ρ) (fed : Fed)
    (queue : List Fed) : Prop where
  reaches : Reaches profile source past ⟨state, fed :: queue⟩
  foresees : Foresees profile source ⟨state, fed :: queue⟩ future
  received : events profile source = (past ++ future).map Report.event
  before : tokensOf past = before
  ahead : tokensOf future = ahead
  idle : state.mode = .idle
  sane : Sane profile state
  free : fed.exempt.literal = false
  symbols : (fed :: queue).map Fed.toLocated = Located.ofText offset text

/-- The machine comes between any two tokens of a source, with no symbol exempt from
introducing a literal. -/
theorem Foresees.between {reports : List Report} {before after : List Token} {token : Token}
    (foresees : Foresees profile source (opening source) reports)
    (split : tokensOf reports = before ++ token :: after) :
    ∃ past future middle, reports = past ++ future ∧ Reaches profile source past middle ∧
      Foresees profile source middle future ∧ tokensOf past = before ∧
      tokensOf future = token :: after ∧ middle.state.mode = .idle ∧
      ∀ fed ∈ middle.queue, fed.exempt.literal = false := by
  by_cases some : before = []
  · subst some
    exact ⟨[], reports, opening source, rfl, .here _, foresees, rfl, split, rfl,
      free_map_plain _⟩
  · obtain ⟨count, yields⟩ := foresees
    have free : (opening source : Config ρ).Free :=
      ⟨fun fed member => free_map_plain _ fed (List.mem_of_mem_tail member),
        fun busy => absurd rfl busy⟩
    obtain ⟨past, future, middle, rfl, leads, ahead, covered, rest⟩ := yields.cut free split some
    rw [tokensOf_append, covered] at split
    exact ⟨past, future, middle, rfl, leads, ahead, covered, List.append_cancel_left split, rest⟩

theorem StartsToken.of_tokens {pointed : Segment → Prop}
    (fits : byteLength source.toList ≤ maxOffset)
    (undotted : profile.literals.advance Trie.root '.' = none)
    (setting : Setting (.tight pointed) profile (Located.ofText 0 source.toList))
    {before after : List Token} {token : Token}
    (cut : tokens profile source = before ++ token :: after) {front rest : List Char}
    {symbol : Char} (text : source.toList = front ++ symbol :: rest)
    (starts : token.span.start = byteLength front)
    (unpointed : ∀ trail, ¬pointed ⟨⟨symbol, byteLength front⟩, trail⟩) :
    ∃ past future state fed queue, StartsToken profile source (byteLength front) (symbol :: rest)
      before (token :: after) past future state fed queue := by
  obtain ⟨reports, foresees, recorded, _⟩ :=
    transcribed fits (bounded_of_setting setting (Located.adjoin_source fits) undotted)
  have split : tokensOf reports = before ++ token :: after := by
    rw [← cut, tokens, recorded, List.filterMap_map]
    rfl
  obtain ⟨past, future, ⟨state, queue⟩, rfl, reaches, ahead, covered, sameAhead, idle, free⟩ :=
    foresees.between split
  obtain ⟨reported, held, left, body, wait, queued, apportions⟩ := reaches.apportions fits setting
  obtain ⟨rfl, chain⟩ := apportions.between idle
  -- The first token that is not reported starts where the reported ones end.
  obtain ⟨inner, last, decomposed, tiling⟩ := tokens_tiling fits undotted setting
  have border : token.span.start = byteLength reported :=
    tiling.start_eq (decomposed.symm.trans cut) (covered ▸ apportions.tiles)
  obtain ⟨rfl, rfl⟩ :=
    eq_of_byteLength (apportions.whole.symm.trans text) (border.symm.trans starts)
  have queuedText := apportions.aheadText
  rw [List.append_nil] at queuedText
  have feeds := chain.symbols_of_unpointed queuedText unpointed
  rw [apportions.feeds] at feeds
  cases queue with
  | nil => simp [Located.ofText] at feeds
  | cons fed queue =>
      exact ⟨past, future, state, fed, queue, reaches, ahead, recorded, covered, sameAhead, idle,
        apportions.sane, free fed (by simp), feeds⟩

end Scan

end Lexing
