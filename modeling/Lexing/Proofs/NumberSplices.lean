import Lexing.Proofs.ExactNumbers
import Lexing.Proofs.Unexpected

/-!
# Line continuations in numbers

A number reads symbols that stand side by side in the source, so no line continuation gets into
it.  There is one exception.  When two points have absorbed line continuations and no third
point follows, the second one is given back, and a digit that is fed next makes both a number.
The text of this number holds what was absorbed.  So a language that leaves points open has line
continuations inside of numbers, but only right behind a point that begins the number, and only
behind an operator that is a point.
-/

namespace Lexing

/-- Where the point stands that a digit would make part of a number. -/
def Mode.point? : Mode → Option Nat
  | .maybeFloat _ dot _ => some dot
  | _ => none

namespace Scan

variable {ρ : Type} {profile : Profile ρ} {source : String} {pointed : Segment → Prop}
  {state : ScanState ρ} {reaction : Reaction ρ} {fed : Fed} {point : NodeId} {start stop : Nat}
  {symbols read piece gap behind : List Located} {located : Located}

/-! ## Symbols side by side -/

theorem Ahead.drop (fits : byteLength source.toList ≤ maxOffset)
    (ahead : Ahead source start (piece ++ located :: symbols)) :
    Ahead source located.offset (located :: symbols) := by
  have place := ahead.offset_eq fits
  obtain ⟨front, rest, whole, length, same⟩ := ahead.parts fits
  refine ⟨front ++ piece.map Located.symbol, rest, by rw [whole, List.append_assoc], ?_, ?_⟩
  · rw [byteLength_append, length, place]
  · rw [same, place]

/-- No gap is left where symbols were read side by side. -/
theorem Ahead.gapless (fits : byteLength source.toList ≤ maxOffset)
    (ahead : Ahead source start (piece ++ located :: behind))
    (apart : Ahead source located.offset (located :: (gap ++ behind))) : gap = [] := by
  have same := (List.cons_eq_cons.mp ((ahead.drop fits).unique apart)).2
  simpa using same

/-! ## What is given back -/

/-- What is given back are the last ones of some symbols, and so is a point that waits. -/
structure Returns (symbols : List Located) (reaction : Reaction ρ) : Prop where
  next : reaction.next.map Fed.toLocated <:+ symbols
  point : ∀ dot, reaction.state.mode.point? = some dot →
    ⟨'.', dot⟩ :: reaction.next.map Fed.toLocated <:+ symbols

theorem returns_of_next (next : reaction.next = []) (settled : reaction.state.mode.point? = none) :
    Returns symbols reaction := by
  refine ⟨?_, fun dot waits => ?_⟩
  · rw [next]
    exact List.nil_suffix
  · rw [settled] at waits
    contradiction

theorem Returns.feed (returns : Returns symbols reaction) (again : List Fed) :
    Returns (symbols ++ again.map Fed.toLocated) (reaction.feed again) := by
  refine ⟨?_, fun dot waits => ?_⟩
  · obtain ⟨kept, same⟩ := returns.next
    exact ⟨kept, by simp [← same]⟩
  · obtain ⟨kept, same⟩ := returns.point dot waits
    exact ⟨kept, by simp [← same]⟩

theorem closeWalk_point? (node : NodeId) :
    (closeWalk profile state node stop).state.mode.point? = none := by
  rcases closeWalk_mode state profile node stop with mode | mode | mode <;>
    simp [mode, Mode.point?]

theorem reachOperator_returns (node : NodeId) (pending : List Located)
    (terminal : Option (NodeId × Nat)) :
    Returns symbols (reachOperator profile state node pending terminal) := by
  refine returns_of_next (by simp) ?_
  unfold reachOperator
  split
  · rfl
  · exact closeWalk_point? _

theorem resolvePrefix_returns (node : NodeId) (pending : List Located) (next : Option Fed) :
    Returns (symbols ++ next.toList.map Fed.toLocated)
      (resolvePrefix profile state node pending next) := by
  have settled : (resolvePrefix profile state node pending next).state.mode.point? = none := by
    rcases resolvePrefix_mode state profile node pending next with mode | ⟨_, mode⟩ <;>
      simp [mode, Mode.point?]
  refine ⟨by simp, fun dot waits => ?_⟩
  rw [settled] at waits
  contradiction

theorem point?_resume (resume : Resume) : resume.mode.point? = none := by
  cases resume <;> rfl

theorem joinLines_returns (resume : Resume) (escape : Located) :
    Returns symbols (joinLines state resume escape stop) :=
  returns_of_next (by simp) (by rw [joinLines_mode, point?_resume])

theorem abandonContinuation_returns (resume : Resume) (escape : Located) :
    Returns (symbols ++ [escape]) (abandonContinuation state resume escape) := by
  refine ⟨by simp, fun dot waits => ?_⟩
  rw [abandonContinuation_state, ScanState.enter_mode, point?_resume] at waits
  contradiction

/-- A point waits where it was read. -/
theorem Takes.returns {before after : Mode} (takes : Takes profile state fed before after) :
    Returns (symbols ++ [fed.toLocated]) (state.become after) := by
  cases takes with
  | point _ dot =>
      refine ⟨List.nil_suffix, fun offset waits => ?_⟩
      obtain rfl : fed.offset = offset := by simpa [Mode.point?] using waits
      rw [← dot]
      exact List.suffix_append _ _
  | _ => exact returns_of_next rfl rfl

variable [Literal.Reader ρ]

theorem openLiteral_point? (node : NodeId) (introduction : List Located) :
    (openLiteral profile state node introduction).state.mode.point? = none := by
  rcases openLiteral_mode state profile node introduction with mode | ⟨_, _, mode⟩ <;>
    simp [mode, Mode.point?]

theorem reachLiteral_returns (node : NodeId) (pending : List Located)
    (terminal : Option (NodeId × Nat)) :
    Returns symbols (reachLiteral profile state node pending terminal) := by
  refine returns_of_next (by simp) ?_
  have reached := reachLiteral_reached profile state node pending terminal
  generalize reachLiteral profile state node pending terminal = reaction at reached ⊢
  cases reached with
  | waits => rfl
  | opens => exact openLiteral_point? _ _

theorem stuckLiteral_returns (walk : Walk) :
    Returns walk.pending (stuckLiteral profile state walk) := by
  unfold stuckLiteral
  cases walk.terminal with
  | none =>
      refine ⟨?_, fun dot waits => by simp [Mode.point?] at waits⟩
      rw [Reaction.feed_next, ScanState.become_next, List.nil_append]
      cases walk.pending with
      | nil => exact List.suffix_rfl
      | cons first rest =>
          rw [Fed.firstExempt, List.map_cons, map_toLocated_plain]
  | some passed =>
      refine ⟨?_, fun dot waits => ?_⟩
      · rw [Reaction.feed_next, openLiteral_next, List.nil_append, map_toLocated_plain]
        exact List.drop_suffix _ _
      · rw [Reaction.feed_state, openLiteral_point?] at waits
        contradiction

theorem readLiteral_returns {number : Nat} {kind : Kind}
    (mode : state.mode = .literal number kind) :
    Returns (read ++ [fed.toLocated]) (readLiteral profile state number kind fed) := by
  have continued := readLiteral_continued profile state number kind fed
  generalize readLiteral profile state number kind fed = reaction at continued ⊢
  cases continued with
  | unread => exact (returns_of_next rfl rfl).feed [.plain fed.toLocated]
  | proceeds | proceedsWith => exact returns_of_next rfl (by simp [mode, Mode.point?])
  | stops | stopsWith | fails => exact returns_of_next rfl rfl
  | failsBefore => exact (returns_of_next rfl rfl).feed [.plain fed.toLocated]

/-- Away from points and operators, the last symbols that were read are given back. -/
theorem Answered.returns {next : Option Fed} (answered : Answered profile stop state next reaction)
    (busy : state.mode ≠ .idle) (settled : state.mode.point? = none)
    (whole : ∀ walk, state.mode ≠ .operator walk)
    (recalls : Recalls pointed profile state.mode.resting read) :
    Returns (read ++ state.mode.waiting ++ next.toList.map Fed.toLocated) reaction := by
  cases answered with
  | between => contradiction
  | releases mode => simp [mode, Mode.point?] at settled
  | extendsOperator mode | endsOperator mode => exact absurd mode (whole _)
  | takes _ takes => exact takes.returns
  | completes => exact (returns_of_next rfl rfl).feed _
  | linefeed | closesBlock | unclosed => exact returns_of_next rfl rfl
  | resolves => exact resolvePrefix_returns _ _ _
  | extendsIntroduction => exact reachLiteral_returns _ _ _
  | endsIntroduction mode =>
      rw [mode] at recalls ⊢
      obtain rfl := recalls
      exact Returns.feed (by simpa [Mode.waiting] using stuckLiteral_returns _) _
  | reads mode => exact readLiteral_returns mode
  | closesLiteral => exact returns_of_next (by simp) (by simp [Mode.point?])
  | joins => exact joinLines_returns _ _
  | joinsBefore => exact (joinLines_returns _ _).feed _
  | abandons mode =>
      rw [mode]
      exact (abandonContinuation_returns _ _).feed _

/-! ## Symbols behind an open point -/

omit [Literal.Reader ρ] in
/-- Behind the last symbol of a longer word only line continuations were read. -/
theorem Spliced.behind_last {word : List Located}
    (backslash : ∀ located, CanContinue profile located → located.symbol = '\\')
    (spliced : Spliced pointed profile (word ++ [located]) read) (longer : word ≠ []) :
    ∃ (front tail : List Located) (ends : List LineEnd),
      read = front ++ located :: tail ∧ tail.map Located.symbol = ends.flatMap LineEnd.splice := by
  generalize wordEq : word ++ [located] = whole at spliced
  induction spliced with
  | nil => simp at wordEq
  | @point segment _ =>
      have one := congrArg List.length wordEq
      simp [longer] at one
  | @symbol early text last _ _ =>
      obtain ⟨_, same⟩ := List.append_inj' wordEq rfl
      obtain rfl : located = last := by simpa using same
      exact ⟨text, [], [], by simp, rfl⟩
  | @joint early text joint _ _ joins ih =>
      obtain ⟨front, tail, ends, rfl, spelled⟩ := ih wordEq
      obtain ⟨lineEnd, last⟩ := Joint.spelled backslash joins
      exact ⟨front, tail ++ joint, ends ++ [lineEnd], by simp, by simp [spelled, last]⟩

/-- The gap consists of line continuations, and it stands behind a point that was given back by
the operator before it, which is a point as well. -/
def BehindPoint (profile : Profile ρ) (point : NodeId) (told : List Token) (start : Nat)
    (gap : List Char) : Prop :=
  ∃ (ends : List LineEnd) (early : List Token) (last : Token),
    gap = ends.flatMap LineEnd.splice ∧ told = early ++ [last] ∧
      profile.operators.kind? point = some last.kind ∧ last.span.stop = start

/-- A symbol is followed by the next one, but for a gap of the given sort. -/
def Fronts (gapped : Nat → List Char → Prop) (source : String) (located : Located)
    (behind : List Located) : Prop :=
  ∀ gap, Ahead source located.offset (located :: (gap ++ behind)) →
    gap = [] ∨ gapped located.offset (gap.map Located.symbol)

/-- So is the next symbol between tokens, and a point that waits for a digit.  Behind an integer
such a point has no gap. -/
def Placed (profile : Profile ρ) (point : NodeId) (source : String) (past : List Report)
    (config : Config ρ) : Prop :=
  match config.state.mode with
  | .idle => ∀ fed rest, config.queue = fed :: rest →
      Fronts (BehindPoint profile point (tokensOf past)) source fed.toLocated
        (rest.map Fed.toLocated)
  | .maybeFloat _ dot hasInteger =>
      Fronts (fun start gap => hasInteger = false ∧
        BehindPoint profile point (tokensOf past) start gap) source ⟨'.', dot⟩
        (config.queue.map Fed.toLocated)
  | _ => True

section Runs

variable {past : List Report} {config : Config ρ} {rest again : List Fed}
  (fits : byteLength source.toList ≤ maxOffset)

include fits

omit [Literal.Reader ρ] in
theorem Returns.placed (returns : Returns symbols reaction)
    (ahead : Ahead source start (symbols ++ rest.map Fed.toLocated)) :
    Placed profile point source past ⟨reaction.state, reaction.next ++ rest⟩ := by
  unfold Placed
  cases mode : reaction.state.mode with
  | idle =>
      intro fed others queue gap apart
      obtain ⟨kept, rfl⟩ := returns.next
      rw [List.append_assoc, ← List.map_append, show reaction.next ++ rest = _ from queue] at ahead
      exact Or.inl (ahead.gapless fits apart)
  | maybeFloat value dot hasInteger =>
      intro gap apart
      obtain ⟨kept, rfl⟩ := returns.point dot (by rw [mode, Mode.point?])
      rw [List.append_assoc, List.cons_append, ← List.map_append] at ahead
      exact Or.inl (ahead.gapless fits apart)
  | _ => trivial

omit fits [Literal.Reader ρ] in
/-- A point that waits is given back as it was. -/
theorem releaseDot_placed {value : Numeral} {dot : Nat} {hasInteger : Bool} {queue : List Fed}
    (placed : Fronts (fun start gap => hasInteger = false ∧
        BehindPoint profile point (tokensOf past) start gap) source ⟨'.', dot⟩
        (queue.map Fed.toLocated)) :
    Placed profile point source (past ++ (releaseDot state value dot hasInteger).reports)
      ⟨(releaseDot state value dot hasInteger).state,
        (releaseDot state value dot hasInteger).next ++ queue⟩ := by
  unfold Placed
  rw [releaseDot_mode, releaseDot_next]
  intro fed others same gap apart
  obtain ⟨rfl, rfl⟩ := List.cons_eq_cons.mp same
  rcases placed gap apart with bare | ⟨rfl, known⟩
  · exact Or.inl bare
  · refine Or.inr ?_
    rwa [show (releaseDot state value dot false).reports = [] from rfl, List.append_nil]

variable (dotted : Dotted profile point)
  (backslash : ∀ located, CanContinue profile located → located.symbol = '\\')

include dotted

omit fits [Literal.Reader ρ] in
/-- A single point is an operator. -/
theorem Dotted.closeWalk_point (state : ScanState ρ) (stop : Nat) :
    ∃ kind, profile.operators.kind? point = some kind ∧
      closeWalk profile state point stop = state.finish kind stop := by
  obtain ⟨kind, known, operator⟩ := dotted.kind
  have notLine : kind ≠ .lineComment := by
    rintro rfl
    exact absurd operator (by decide)
  have notBlock : kind ≠ .blockComment := by
    rintro rfl
    exact absurd operator (by decide)
  exact ⟨kind, known, by simp [closeWalk, known, notLine, notBlock]⟩

include backslash

omit [Literal.Reader ρ] in
/-- Only a walk of two points gives something back, and it is the second one. -/
theorem stuckOperator_placed {walk : Walk} (traces : walk.Traces profile.operators)
    (spliced : Spliced pointed profile walk.pending read)
    (ahead : Ahead source start (read ++ (again ++ rest).map Fed.toLocated)) :
    Placed profile point source
      (past ++ ((stuckOperator profile state walk stop).feed again).reports)
      ⟨((stuckOperator profile state walk stop).feed again).state,
        ((stuckOperator profile state walk stop).feed again).next ++ rest⟩ := by
  cases ended : profile.operators.kind? walk.node with
  | some kind =>
      have whole := traces.deepest.eq_whole (by simpa using traces.nonempty) traces.reaches
        (by simp [ended])
      have returns : Returns read (stuckOperator profile state walk stop) := by
        rw [List.length_map] at whole
        unfold stuckOperator
        rw [whole]
        refine returns_of_next (by simp) ?_
        exact closeWalk_point? _
      exact (returns.feed again).placed fits (by simpa using ahead)
  | none =>
      obtain ⟨points, terminal⟩ := dotted.traces traces ended
      obtain ⟨first, _, pending, _, rest⟩ := List.map_eq_cons_iff.mp points
      obtain ⟨second, _, rfl, _, nothing⟩ := List.map_eq_cons_iff.mp rest
      obtain rfl := List.map_eq_nil_iff.mp nothing
      obtain ⟨kind, known, closed⟩ := dotted.closeWalk_point state second.offset
      have answer : stuckOperator profile state walk stop =
          (state.finish kind second.offset).feed [.plain second] := by
        unfold stuckOperator
        rw [terminal, pending]
        dsimp only
        rw [← closed]
        rfl
      rw [answer]
      intro fed others queue gap apart
      obtain ⟨rfl, rfl⟩ := List.cons_eq_cons.mp (show Fed.plain second :: (again ++ _) = _ by
        simpa using queue)
      have spliced : Spliced pointed profile ([first] ++ [second]) read := by
        rwa [pending] at spliced
      obtain ⟨front, tail, ends, rfl, spelled⟩ := spliced.behind_last backslash (by simp)
      right
      rw [List.append_assoc, List.cons_append] at ahead
      have same := (List.cons_eq_cons.mp ((ahead.drop fits).unique apart)).2
      obtain rfl : tail = gap := List.append_cancel_right same
      obtain ⟨token, told, kindEq, stopEq⟩ : ∃ token,
          tokensOf (state.finish kind second.offset).reports = [token] ∧ token.kind = kind ∧
            token.span.stop = second.offset := ⟨_, rfl, rfl, rfl⟩
      refine ⟨ends, tokensOf past, token, spelled, ?_, by rw [known, kindEq], stopEq⟩
      rw [tokensOf_append, Reaction.feed_reports, Reaction.feed_reports, told]

/-! ## Whole scans -/

omit fits dotted backslash in
theorem dispatch_returns (idle : state.mode = .idle) :
    Returns symbols (dispatch profile state fed) ∨
      fed.symbol = '.' ∧ dispatch profile state fed = (starting state fed).become
        (.maybeFloat (.ofKind profile.defaultNumber) fed.offset false) := by
  have sameMode : (starting state fed).mode = .idle := idle
  have answer := dispatched profile state fed
  generalize dispatch profile state fed = reaction at answer ⊢
  cases answer with
  | point dot _ => exact Or.inr ⟨dot, rfl⟩
  | literal => exact Or.inl (reachLiteral_returns _ _ _)
  | operator => exact Or.inl (reachOperator_returns _ _ _)
  | single => exact Or.inl (returns_of_next rfl (by simp [sameMode, Mode.point?]))
  | _ => exact Or.inl (returns_of_next rfl rfl)

omit dotted backslash [Literal.Reader ρ] in
/-- Whatever the machine is busy with, the symbols ahead are those that were read, those that it
holds back and those that are to be fed. -/
theorem Moment.ahead {queue : List Fed} (moment : Moment pointed profile source ⟨state, queue⟩)
    (busy : state.mode ≠ .idle)
    (plain : ∀ located trail, CanContinue profile located → ¬pointed ⟨located, trail⟩) :
    ∃ start read, Ahead source start (read ++ (state.mode.waiting ++ queue.map Fed.toLocated)) ∧
      Recalls pointed profile state.mode.resting read := by
  by_cases waits : ∃ escape carriage, state.mode = .continuation .idle escape carriage
  · obtain ⟨escape, carriage, mode⟩ := waits
    obtain ⟨sane, ⟨_, _, done, body, wait, queued, account, layout⟩, _⟩ := moment
    have held := layout.waiting
    have rests := layout.rests
    rw [mode] at held rests
    obtain ⟨rfl, chain⟩ := rests
    obtain ⟨⟨first, trail⟩, others, rfl, rfl, waiting⟩ := List.map_eq_cons_iff.mp held
    obtain rfl : trail = [] := chain.1.resolve_right (plain _ _ (sane.waits _ _ _ mode))
    have bare : ∀ segment ∈ (⟨first, []⟩ :: others) ++ queued, segment.trail = [] :=
      List.forall_mem_cons.mpr ⟨rfl, chain.2⟩
    have flat := Segment.flatten_of_bare bare
    rw [List.map_append, layout.waiting, layout.feeds] at flat
    have all := account.all
    rw [List.append_nil, Segment.flatten_append, List.nil_append] at all
    refine ⟨first.offset, [], ?_, by rw [mode]; trivial⟩
    rw [List.nil_append, ← flat]
    exact Ahead.of_segments fits all
  · obtain ⟨read, ahead, recalls⟩ := moment.reads (resting_ne_idle busy waits)
    exact ⟨state.tokenStart, read, ahead, recalls⟩

omit backslash in
theorem dispatch_placed {queue : List Fed}
    (reaches : Reaches profile source past ⟨state, fed :: queue⟩) (idle : state.mode = .idle)
    (placed : Placed profile point source past ⟨state, fed :: queue⟩) :
    Placed profile point source (past ++ (dispatch profile state fed).reports)
      ⟨(dispatch profile state fed).state, (dispatch profile state fed).next ++ queue⟩ := by
  obtain ⟨_, _, standing⟩ := (reaches.moment fits (dotted.setting _)).standing
  obtain ⟨trail, _, ahead⟩ := standing.ahead_idle fits idle
  rw [← List.cons_append] at ahead
  rcases dispatch_returns idle with returns | ⟨dot, answer⟩
  · exact returns.placed fits ahead
  · rw [answer]
    rw [Placed, idle] at placed
    have same : fed.toLocated = ⟨'.', fed.offset⟩ := by rw [← dot]
    intro gap apart
    rcases placed fed queue rfl gap (by rwa [same]) with bare | known
    · exact Or.inl bare
    · exact Or.inr ⟨rfl, by simpa using known⟩

/-- Inside of tokens, every answer leaves the symbols in their places. -/
theorem Answered.placed {next : Option Fed} {read : List Located}
    (answered : Answered profile stop state next reaction) (busy : state.mode ≠ .idle)
    (valid : state.Valid profile) (recalls : Recalls pointed profile state.mode.resting read)
    (ahead : Ahead source start
      (read ++ (state.mode.waiting ++ (next.toList ++ rest).map Fed.toLocated)))
    (placed : Placed profile point source past ⟨state, next.toList ++ rest⟩) :
    Placed profile point source (past ++ reaction.reports)
      ⟨reaction.state, reaction.next ++ rest⟩ := by
  have follows : Ahead source start
      (read ++ state.mode.waiting ++ next.toList.map Fed.toLocated ++
        rest.map Fed.toLocated) := by
    simpa using ahead
  by_cases plain : state.mode.point? = none ∧ ∀ walk, state.mode ≠ .operator walk
  · exact (answered.returns busy plain.1 plain.2 recalls).placed fits follows
  unfold ScanState.Valid at valid
  cases answered with
  | takes _ takes => exact takes.returns.placed fits follows
  | completes => exact ((returns_of_next rfl rfl).feed _).placed fits follows
  | extendsOperator => exact (reachOperator_returns _ _ _).placed fits follows
  | endsOperator mode =>
      rw [mode] at ahead recalls valid
      exact stuckOperator_placed fits dotted backslash valid recalls ahead
  | releases mode =>
      rw [Placed, mode] at placed
      simpa using releaseDot_placed placed
  | between mode | linefeed mode | resolves mode | closesBlock mode
  | unclosed mode | extendsIntroduction mode | endsIntroduction mode | reads mode
  | closesLiteral mode | joins mode | joinsBefore mode | abandons mode =>
      exact absurd ⟨by simp [mode, Mode.point?], by simp [mode]⟩ plain

theorem next_placed (reaches : Reaches profile source past config)
    (placed : Placed profile point source past config)
    (next : nextReaction? profile (some (byteLength source.toList)) config.state config.queue =
      some (reaction, rest)) :
    Placed profile point source (past ++ reaction.reports)
      ⟨reaction.state, reaction.next ++ rest⟩ := by
  obtain ⟨state, queue⟩ := config
  have moment := reaches.moment fits (dotted.setting _)
  have plain : ∀ located trail, CanContinue profile located →
      ¬(Segment.mk located trail).symbol.symbol = '.' := by
    intro located _ continues dot
    simp [backslash located continues] at dot
  obtain ⟨symbol, rfl, _, answered⟩ := answered_next next
  by_cases idle : state.mode = .idle
  · obtain ⟨fed, rfl, rfl⟩ := answered.of_idle idle
    exact dispatch_placed fits dotted reaches idle placed
  · obtain ⟨start, read, ahead, recalls⟩ := moment.ahead fits idle plain
    exact answered.placed fits dotted backslash idle moment.sane.valid recalls ahead placed

theorem Reaches.placed (reaches : Reaches profile source past config) :
    Placed profile point source past config := by
  refine Reaches.induction ?_ (next_placed fits dotted backslash) reaches
  intro fed rest queue gap apart
  have all : Ahead source 0 ([] ++ (fed :: rest).map Fed.toLocated) := by
    refine ⟨[], source.toList, rfl, rfl, ?_⟩
    rw [← show _ = fed :: rest from queue]
    exact map_toLocated_plain _
  exact Or.inl (Ahead.gapless fits all apart)

/-- Where points are left open, only a line continuation behind such a point separates a symbol
between tokens from the next one. -/
theorem Dotted.spaced : Spaced (BehindPoint profile point) profile source := by
  intro past state fed rest reaches idle
  obtain ⟨_, _, standing⟩ := (reaches.moment fits (dotted.setting _)).standing
  obtain ⟨trail, _, ahead⟩ := standing.ahead_idle fits idle
  have placed := reaches.placed fits dotted backslash
  rw [Placed, show (Config.mk state (fed :: rest)).state.mode = .idle from idle] at placed
  exact ⟨trail.map Splice.symbol, placed fed rest rfl _ ahead, ahead⟩

end Runs

end Scan

/-! ## Sources in C -/

namespace CLike

open Scan

/-- A symbol of a line continuation, or one that ends a line. -/
def Breaks (symbol : Char) : Prop :=
  symbol = '\\' ∨ (profile.classes.classify symbol).linefeed = true

instance (symbol : Char) : Decidable (Breaks symbol) :=
  inferInstanceAs (Decidable (_ ∨ _))

theorem breaks_table :
    (∀ code < 128, Breaks (Char.ofNat code) →
      Char.ofNat code = '\\' ∨ Char.ofNat code = '\n' ∨ Char.ofNat code = '\r') ∧
      profile.classes.nonAscii.linefeed = false ∧
      profile.options.separator? = some '\'' ∧
      ∀ opening ∈ "" :: "0" :: basePrefixes,
        '\\' ∉ opening.toList ∧ '\n' ∉ opening.toList ∧ '\r' ∉ opening.toList := by
  decide +kernel

theorem eq_of_breaks {symbol : Char} (breaks : Breaks symbol) :
    symbol = '\\' ∨ symbol = '\n' ∨ symbol = '\r' := by
  by_cases ascii : symbol.toNat < 128
  · have known := breaks_table.1 symbol.toNat ascii
    rw [Char.ofNat_toNat] at known
    exact known breaks
  · rcases breaks with rfl | ends
    · simp
    · simp [CharClass.Table.classify, ascii, breaks_table.2.1] at ends

theorem not_breaks_of_numeric {base : Nat} {symbol : Char} (numeric : Numeric profile base symbol) :
    ¬Breaks symbol := by
  intro breaks
  have known := eq_of_breaks breaks
  rcases numeric with digit | separator
  · have worthless : digitWorth? symbol = none := by
      rcases known with rfl | rfl | rfl <;> decide
    simp [digitValue?, worthless] at digit
  · obtain rfl : symbol = '\'' := by simpa [breaks_table.2.2.1] using separator.symm
    exact absurd known (by decide)

theorem not_breaks_of_opens {kind : Kind} {opening : List Char}
    (opens : Opens profile kind opening) :
    ∀ symbol ∈ opening, ¬Breaks symbol := by
  rcases opens with registered | ⟨rfl, _⟩
  · obtain ⟨node, found, _⟩ := Trie.exists_of_lookup? registered
    rw [String.toList_ofList] at found
    have bound := (profile_made.sound.numberPrefixes.toLinked.find?_bound found).1
    have known := words_table.2.2 node bound
    rw [spells_table.2.2.symbolsTo found] at known
    have listed : String.ofList opening ∈ "" :: "0" :: basePrefixes := by
      rcases known with short | longer
      · obtain rfl | rfl : opening = [] ∨ opening = ['0'] := by simpa using short
        · exact List.mem_cons_self ..
        · exact List.mem_cons_of_mem _ (List.mem_cons_self ..)
      · exact List.mem_cons_of_mem _ (List.mem_cons_of_mem _ longer)
    have clean := breaks_table.2.2.2 _ listed
    rw [String.toList_ofList] at clean
    intro symbol member breaks
    rcases eq_of_breaks breaks with rfl | rfl | rfl
    · exact clean.1 member
    · exact clean.2.1 member
    · exact clean.2.2 member
  · simp

theorem not_breaks_of_valued {base stop : Nat} {body : List Char} {payload : Payload}
    (valued : Valued profile base [] body stop payload) : ∀ symbol ∈ body, ¬Breaks symbol := by
  cases valued with
  | integer _ numeric _ => exact fun symbol member => not_breaks_of_numeric (numeric symbol member)
  | @float left right first _ _ _ _ _ cut _ isDigit numeric _ _ =>
      intro symbol member
      have parts : symbol ∈ left ∨ symbol = '.' ∨ symbol = first ∨ symbol ∈ right := by
        simpa [cut] using member
      rcases parts with before | rfl | rfl | after
      · exact not_breaks_of_numeric (numeric symbol (List.mem_append_left _ before))
      · exact fun breaks => absurd (eq_of_breaks breaks) (by decide)
      · exact not_breaks_of_numeric (Or.inl isDigit)
      · exact not_breaks_of_numeric (numeric symbol (List.mem_append_right _ after))

/-- Scanned as C, a number has a line continuation inside only if it begins with a point and the
operator before it, which is a point, ends where the number starts.  The continuation stands
between the point and the first digit. -/
theorem numbers_spliced (source : String) :
    Delivers profile source ∧
      ∀ before token after, events profile source = before ++ .token token :: after →
        token.kind.isNumber = true →
        ∃ (opening : List Char) (ends : List LineEnd) (body : List Char),
          Denotes profile source token opening (ends.flatMap LineEnd.splice) body ∧
          ((∃ symbol ∈ (token.text source).toList, Breaks symbol) ↔ ends ≠ []) ∧
          (ends ≠ [] → opening = [] ∧
            (∃ rest, body = '.' :: (ends.flatMap LineEnd.splice ++ rest)) ∧
            ∃ early last, before.filterMap Event.token? = early ++ [last] ∧
              last.kind = .operator 36 ∧ last.span.stop = token.span.start) := by
  refine ⟨delivers_of_ends CLike.ends source, ?_⟩
  by_cases fits : byteLength source.toList ≤ maxOffset
  · intro before token after cut number
    obtain ⟨opening, gap, body, denotes, known⟩ := denotes_of_events profile_made fits
      dotted.literals (dotted.setting _) (dotted.spaced fits eq_backslash_of_continues) cut number
    by_cases bare : gap = []
    · obtain rfl := bare
      refine ⟨opening, [], body, denotes, ⟨fun ⟨symbol, member, breaks⟩ => ?_, by simp⟩, by simp⟩
      obtain ⟨base, _, valued⟩ := denotes.valued
      rw [denotes.text, String.toList_ofList] at member
      rcases List.mem_append.mp member with opens | inside
      · exact absurd breaks (not_breaks_of_opens denotes.opens symbol opens)
      · exact absurd breaks (not_breaks_of_valued valued symbol inside)
    · obtain ⟨rfl, ⟨rest, rfl⟩, ends, early, last, rfl, told, kind, stop⟩ :=
        known.resolve_left bare
      have some : ends ≠ [] := fun none => bare (by rw [none, List.flatMap_nil])
      have inside : '\\' ∈ ends.flatMap LineEnd.splice := by
        obtain ⟨first, others, rfl⟩ := List.exists_cons_of_ne_nil some
        cases first <;> simp [LineEnd.splice]
      refine ⟨[], ends, _, denotes, ⟨fun _ => some, fun _ => ⟨'\\', ?_, Or.inl rfl⟩⟩,
        fun _ => ⟨rfl, ⟨rest, rfl⟩, early, last, told, ?_, stop⟩⟩
      · rw [denotes.text, String.toList_ofList]
        simp [inside]
      · rw [operators_table.2.2.1] at kind
        exact (Option.some.inj kind).symm
  · obtain ⟨nothing, _⟩ := events_of_large profile fits
    simp [nothing]

/-- The second of two points absorbs the line continuation behind it, and the digit makes it a
number. -/
theorem numbers_spliced_point :
    ∃ before token after, events profile "..\\\n5" = before ++ .token token :: after ∧
      token.kind.isNumber = true ∧ token.text "..\\\n5" = ".\\\n5" ∧
      ∃ (ends : List LineEnd) (body : List Char), ends ≠ [] ∧
        Denotes profile "..\\\n5" token [] (ends.flatMap LineEnd.splice) body := by
  have received : ∃ token ∈ tokens profile "..\\\n5",
      token.kind.isNumber = true ∧ token.text "..\\\n5" = ".\\\n5" := by
    decide +kernel
  obtain ⟨token, member, number, text⟩ := received
  obtain ⟨before, after, cut⟩ := List.append_of_mem (mem_tokens.mp member)
  obtain ⟨opening, ends, body, denotes, spliced, point⟩ :=
    (numbers_spliced "..\\\n5").2 before token after cut number
  have absorbed : ends ≠ [] := by
    refine spliced.mp ⟨'\\', ?_, Or.inl rfl⟩
    rw [text]
    decide
  obtain ⟨rfl, _, _⟩ := point absorbed
  exact ⟨before, token, after, cut, number, text, ends, body, absorbed, denotes⟩

end CLike

end Lexing
