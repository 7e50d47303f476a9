import Lexing.Proofs.Frame
import Lexing.Proofs.Guarantees

/-!
# What the tokens of a journey cover

Every reaction of a journey leaves the symbols of its source accounted for.  What is
left to consider are the line continuations, which move symbols from one segment to
another, and the end of the input.
-/

namespace Lexing

namespace Scan

variable {ρ : Type} {policy : Policy} {profile : Profile ρ} {symbols unread queue : List Located}
  {stop : Nat} {tokens : List Token} {splices : List Splice} {state : ScanState ρ}
  {done body queued more : List Segment} {reaction : Reaction ρ} {fed : Fed} {rest : List Fed}

/-- Only a mode that waits absorbs anything. -/
theorem absorbed_eq_nil_of_plain
    (plain : ∀ resume escape carriage, state.mode ≠ .continuation resume escape carriage)
    (next : Option Fed) : absorbed state next = [] := by
  unfold absorbed
  cases mode : state.mode with
  | continuation => exact (plain _ _ _ mode).elim
  | _ => rfl

/-- In a mode that does not wait, nothing is held back. -/
theorem Layout.facing {wait : List Segment}
    (layout : Layout policy profile tokens state queue done body wait queued)
    (plain : ∀ resume escape carriage, state.mode ≠ .continuation resume escape carriage)
    (account : Account symbols stop splices unread (done ++ (body ++ (wait ++ queued)))) :
    Facing policy symbols stop tokens splices unread queue done body queued ∧
      (state.mode ≠ .idle → Segment.Begin state.tokenStart body) ∧
      Rests policy profile state.mode body queued := by
  have bare : state.mode.waiting = [] := by
    cases mode : state.mode with
    | continuation => exact (plain _ _ _ mode).elim
    | _ => rfl
  have rested : state.mode.resting = state.mode := by
    cases mode : state.mode with
    | continuation => exact (plain _ _ _ mode).elim
    | _ => rfl
  obtain rfl : wait = [] := by simpa [bare] using layout.waiting
  have begun := layout.begun
  have rests := layout.rests
  rw [rested] at begun rests
  exact ⟨⟨account, layout.covers, layout.feeds⟩, begun, rests⟩

/-! ## Line continuations -/

theorem resting_resume (resume : Resume) : resume.mode.resting = resume.mode := by
  cases resume <;> rfl

theorem waiting_resume (resume : Resume) : resume.mode.waiting = [] := by
  cases resume <;> rfl

/-- What an operator absorbs of some segments when a line goes on. -/
def gained (resume : Resume) (others : List Segment) : List Splice :=
  match resume with
  | .operator walk =>
      others.map fun other => ⟨other.symbol, walk.pending.length ≤ walk.kept⟩
  | _ => []

theorem gained_eq_absorbed {resume : Resume} {escape : Located} {carriage : Option Nat}
    (mode : state.mode = .continuation resume escape carriage) {others : List Segment}
    {next : Option Fed} (same : others.map Segment.symbol = joined escape carriage next) :
    gained resume others = absorbed state next := by
  cases resume with
  | operator walk => simp [gained, absorbed, mode, ← same, Function.comp_def]
  | _ => simp [gained, absorbed, mode]

theorem absorbed_eq_nil {resume : Resume} {escape : Located} {carriage : Option Nat}
    (mode : state.mode = .continuation resume escape carriage) {next : Option Fed}
    (nothing : joined escape carriage next = []) : absorbed state next = [] := by
  cases resume <;> simp [absorbed, mode, nothing]

theorem abandonContinuation_standing {resume : Resume} {wait : List Segment} {escape : Located}
    (account : Account symbols stop splices unread (done ++ (body ++ (wait ++ queued))))
    (covers : Covers policy tokens done) (feeds : queued.map Segment.symbol = queue)
    (held : wait.map Segment.symbol = [escape])
    (begun : resume.mode ≠ .idle → Segment.Begin state.tokenStart body)
    (rests : Rests policy profile resume.mode body (wait ++ queued)) :
    Standing policy profile symbols stop
      (tokens ++ tokensOf (abandonContinuation state resume escape).reports) (splices ++ [])
      (abandonContinuation state resume escape).state
      ((abandonContinuation state resume escape).next.map Fed.toLocated ++ queue) unread := by
  refine ⟨done, body, [], wait ++ queued, by simpa using account, ?_, ?_, ?_, ?_, ?_⟩
  · simpa [abandonContinuation, tokensOf] using covers
  · simp [abandonContinuation, held, feeds]
  · simp [abandonContinuation, waiting_resume]
  · simpa [abandonContinuation, resting_resume] using begun
  · simpa [abandonContinuation, resting_resume] using rests

variable [Literal.Reader ρ]

/-- An operator takes over the segments behind its last symbol. -/
theorem rests_absorb (setting : Setting policy profile symbols) (located : Located)
    (member : located ∈ symbols) (continues : CanContinue profile located) {walk : Walk}
    (traces : walk.Traces profile.operators) {front : List Segment} {last : Segment}
    (others : List Segment)
    (rests : Rests policy profile (.operator walk) (front ++ [last]) (others ++ queued)) :
    Rests policy profile (.operator walk)
      (front ++ [last.absorb (walk.pending.length ≤ walk.kept) others]) queued := by
  by_cases safe : walk.pending.length ≤ walk.kept
  · obtain ⟨pending, _, behind, _⟩ := rests
    have length : (front ++ [last]).length = walk.pending.length := by
      rw [← pending, List.length_map]
    have all : (front ++ [last.absorb true others]).drop walk.kept = [] := by
      rw [List.drop_eq_nil_iff]
      simpa using Nat.le_trans (Nat.le_of_eq length) safe
    have loose : ∀ segment ∈ queued, policy.loose segment :=
      fun segment inside => behind segment (by simp [inside])
    rw [decide_eq_true safe]
    refine ⟨by simpa [Segment.absorb] using pending, ?_, loose, ?_⟩
    · rw [all, List.nil_append]
      exact Policy.chain_of_loose loose
    · rw [all]
      simp
  · rw [decide_eq_false safe]
    exact setting.absorbs located member continues walk front last others queued traces
      (bare_of_kept_lt traces (Nat.lt_of_not_le safe)) rests

theorem joinLines_standing (setting : Setting policy profile symbols) {located : Located}
    (member : located ∈ symbols) (continues : CanContinue profile located) {resume : Resume}
    (valid : resume.Valid profile) {others middle : List Segment} {first final : Segment}
    (account : Account symbols stop splices unread (done ++ (body ++ (others ++ queued))))
    (covers : Covers policy tokens done) (feeds : queued.map Segment.symbol = queue)
    (parts : others = first :: (middle ++ [final]))
    (begun : resume.mode ≠ .idle → Segment.Begin state.tokenStart body)
    (rests : Rests policy profile resume.mode body (others ++ queued)) :
    Standing policy profile symbols stop
      (tokens ++ tokensOf (joinLines state resume first.symbol final.symbol.stop).reports)
      (splices ++ gained resume others)
      (joinLines state resume first.symbol final.symbol.stop).state queue unread := by
  have swallowed : resume.mode ≠ .idle → (∀ segment ∈ others ++ queued, policy.loose segment) →
      (∀ body, (∀ segment ∈ queued, policy.loose segment) →
        Rests policy profile resume.mode body queued) →
      Standing policy profile symbols stop tokens splices (state.enter resume.mode) queue
        unread := by
    intro busy loose known
    refine ⟨done, body ++ others, [], queued, by simpa using account, covers, feeds, ?_, ?_, ?_⟩
    · simp [waiting_resume]
    · exact fun _ => (begun busy).append others
    · rw [ScanState.enter_mode, resting_resume]
      exact known _ fun segment inside => loose segment (by simp [inside])
  cases resume with
  | idle =>
      obtain ⟨rfl, chain⟩ := rests
      have loose : ∀ segment ∈ middle ++ final :: queued, policy.loose segment := by
        have tail := chain
        rw [parts] at tail
        exact fun segment inside => tail.2 segment (by simpa using inside)
      have named : Kind.lineContinuation ≠ .fin := by decide
      have block : Segment.Begin first.symbol.offset (first :: middle ++ [final]) :=
        ⟨first, middle ++ [final], rfl, rfl⟩
      have ends : policy.Ends final final.symbol.stop := Or.inl ⟨rfl, loose final (by simp)⟩
      refine ⟨done ++ (first :: middle ++ [final]), [], [], queued, ?_, ?_, feeds, rfl, ?_, ?_⟩
      · simpa [parts, gained] using account
      · exact Covers.close covers named block ends
      · simp [joinLines, Resume.mode, Mode.resting]
      · refine ⟨rfl, Policy.chain_of_loose fun segment inside => loose segment ?_⟩
        exact List.mem_append_right middle (List.mem_cons_of_mem final inside)
  | identifier =>
      simpa [joinLines, gained, tokensOf] using
        swallowed (by simp [Resume.mode]) rests fun _ => id
  | lineComment text =>
      simpa [joinLines, gained, tokensOf] using
        swallowed (by simp [Resume.mode]) rests fun _ => id
  | operator walk =>
      have start := begun (by simp [Resume.mode])
      obtain rfl | ⟨front, last, rfl⟩ := List.eq_nil_or_concat body
      · exact absurd rfl start.ne_nil
      rw [List.concat_eq_append] at *
      have absorbs := rests_absorb setting located member continues valid others rests
      refine ⟨done, front ++ [last.absorb (walk.pending.length ≤ walk.kept) others], [],
        queued, ?_, ?_, feeds, rfl, ?_, absorbs⟩
      · have cut : Account symbols stop splices unread
            ((done ++ front) ++ (last :: (others ++ queued))) := by simpa using account
        simpa [gained] using cut.absorb (walk.pending.length ≤ walk.kept)
      · simpa [joinLines, tokensOf] using covers
      · exact fun _ => start.absorb _ others

theorem joined_of_feed {escape : Located} {carriage : Option Nat} (feed : fed.symbol = '\n') :
    joined escape carriage (some fed) =
      escape :: (carriage.toList.map (Located.mk '\r') ++ [fed.toLocated]) := by
  simp [joined, feed, Option.filter]

theorem joined_of_noFeed {escape : Located} {carriage : Option Nat} {next : Option Fed}
    (noFeed : ∀ fed ∈ next, fed.symbol ≠ '\n') :
    joined escape carriage next =
      if carriage.isSome then escape :: carriage.toList.map (Located.mk '\r') else [] := by
  have nothing : next.filter (fun fed => fed.symbol = '\n') = none := by
    simpa [Option.filter_eq_none_iff] using noFeed
  simp [joined, nothing]

/-- The answers of the machine when it waits for what follows an escape symbol. -/
theorem Answered.standing_of_waits {next : Option Fed}
    (answered : Answered profile stop state next reaction)
    (setting : Setting policy profile symbols) {resume : Resume} {escape : Located}
    {carriage : Option Nat} {wait : List Segment}
    (mode : state.mode = .continuation resume escape carriage) (valid : resume.Valid profile)
    (continues : CanContinue profile escape)
    (account : Account symbols stop splices unread (done ++ (body ++ (wait ++ queued))))
    (covers : Covers policy tokens done)
    (feeds : queued.map Segment.symbol = next.toList.map Fed.toLocated ++ queue)
    (held : wait.map Segment.symbol = escape :: carriage.toList.map (Located.mk '\r'))
    (begun : resume.mode ≠ .idle → Segment.Begin state.tokenStart body)
    (rests : Rests policy profile resume.mode body (wait ++ queued)) :
    Standing policy profile symbols stop (tokens ++ tokensOf reaction.reports)
      (splices ++ absorbed state next) reaction.state
      (reaction.next.map Fed.toLocated ++ queue) unread := by
  obtain ⟨first, middle, rfl, rfl, carriages⟩ := List.map_eq_cons_iff.mp held
  have member : first.symbol ∈ symbols := account.mem_of_mem (by simp)
  cases answered.continued mode with
  | @joins _ fed feed =>
      obtain ⟨⟨_, trail⟩, more, rfl, rfl, others⟩ := List.map_eq_cons_iff.mp feeds
      have together : Account symbols stop splices unread
          (done ++ (body ++ ((first :: (middle ++ [⟨fed.toLocated, trail⟩])) ++ more))) := by
        simpa using account
      have joins := joinLines_standing setting member continues valid together covers others rfl
        begun (by simpa using rests)
      have spelled : (first :: (middle ++ [(⟨fed.toLocated, trail⟩ : Segment)])).map
          Segment.symbol = joined first.symbol carriage (some fed) := by
        rw [joined_of_feed feed, ← carriages]
        simp
      rw [gained_eq_absorbed mode spelled] at joins
      simpa using joins
  | @joinsBefore offset _ noFeed =>
      obtain ⟨final, rfl, symbol⟩ : ∃ final, middle = [final] ∧ final.symbol = ⟨'\r', offset⟩ := by
        simpa [List.map_eq_singleton_iff] using carriages
      have parts : [first, final] = first :: ([] ++ [final]) := rfl
      have joins := joinLines_standing setting member continues valid account covers feeds parts
        begun rests
      have spelled : [first, final].map Segment.symbol =
          joined first.symbol (some offset) next := by
        rw [joined_of_noFeed noFeed]
        simp [symbol]
      rw [gained_eq_absorbed mode spelled, symbol] at joins
      simpa [Located.stop] using joins
  | @carriage fed isCarriage =>
      obtain rfl : middle = [] := by simpa using carriages
      obtain ⟨⟨_, trail⟩, more, rfl, rfl, others⟩ := List.map_eq_cons_iff.mp feeds
      have symbol : fed.toLocated = ⟨'\r', fed.offset⟩ := by rw [← isCarriage]
      have nothing : joined first.symbol none (some fed) = [] :=
        joined_of_noFeed (by simp [isCarriage])
      rw [absorbed_eq_nil mode nothing]
      refine ⟨done, body, [first, ⟨fed.toLocated, trail⟩], more, by simpa using account, ?_,
        others, ?_, begun, by simpa [Mode.resting] using rests⟩
      · simpa [tokensOf] using covers
      · simp [Mode.waiting, ← symbol]
  | abandons others =>
      obtain rfl : middle = [] := by simpa using carriages
      have nothing : joined first.symbol none next = [] :=
        joined_of_noFeed fun fed ahead => (others fed ahead).1
      rw [absorbed_eq_nil mode nothing]
      simpa using abandonContinuation_standing account covers feeds (by simp) begun rests

/-! ## All modes -/

/-- What is known about a state beside the account of its symbols. -/
structure Sane (profile : Profile ρ) (state : ScanState ρ) : Prop where
  valid : state.Valid profile
  classes : state.ownClasses = none
  waits : ∀ resume escape carriage, state.mode = .continuation resume escape carriage →
    CanContinue profile escape

omit [Literal.Reader ρ] in
/-- A symbol that may continue a line is an escape symbol of the profile. -/
theorem Sane.canContinue (sane : Sane profile state)
    (begins : beginsContinuation profile state fed = true) : CanContinue profile fed.toLocated := by
  unfold beginsContinuation ScanState.classify at begins
  simp only [sane.classes, Option.getD_none, Bool.and_eq_true] at begins
  exact ⟨begins.1.2, begins.1.1⟩

theorem Answered.sane {next : Option Fed} (answered : Answered profile stop state next reaction)
    (sound : profile.Sound) (sane : Sane profile state) : Sane profile reaction.state := by
  refine ⟨answered.valid sound sane.valid, answered.ownClasses.trans sane.classes, ?_⟩
  intro resume escape carriage mode
  rcases answered.waits mode with ⟨fed, rfl, rfl, begins⟩ | ⟨earlier, missing, held⟩
  · exact sane.canContinue begins
  · exact sane.waits earlier escape missing held

theorem keeps_sane (sound : profile.Sound) (closing : Option Nat) :
    Keeps profile closing fun config => Sane profile config.state :=
  keeps_of_answers fun sane answered => answered.sane sound sane

theorem Facing.exists_cut
    (facing : Facing policy symbols stop tokens splices unread (fed.toLocated :: queue) done body
      queued) :
    ∃ trail more, queued = ⟨fed.toLocated, trail⟩ :: more := by
  obtain ⟨⟨_, trail⟩, more, rfl, rfl, _⟩ := List.map_eq_cons_iff.mp facing.feeds
  exact ⟨trail, more, rfl⟩

section Answers

variable {next : Option Fed}
  (facing : Facing policy symbols stop tokens splices unread
    (next.toList.map Fed.toLocated ++ queue) done body queued)
  (ended : next = none → queued = [] ∧ unread = [])

include facing ended

omit [Literal.Reader ρ] in
/-- A token that is complete covers its segments. -/
theorem Completed.stands {before : Mode} {kind : Kind} {payload : Payload}
    (completed : Completed profile state next (next.elim stop fun fed => fed.offset) before kind
      payload)
    (mode : state.mode = before) (valid : state.Valid profile)
    (begun : Segment.Begin state.tokenStart body)
    (rests : Rests policy profile before body queued) :
    Stands policy profile symbols stop tokens splices unread queue
      ((state.finish kind (next.elim stop fun fed => fed.offset) payload).feed next.toList) :=
  stands_feed.mpr (facing.closing (closing_finish state (completed.ne_fin mode valid) _ _) begun
    (fun _ _ cut => facing.ends_next ended cut) (Policy.chain_of_loose (completed.loose rests)))

/-- In a mode that does not wait, every answer leaves the symbols accounted for. -/
theorem Answered.stands (answered : Answered profile stop state next reaction)
    (setting : Setting policy profile symbols) (sane : Sane profile state)
    (plain : ∀ resume escape carriage, state.mode ≠ .continuation resume escape carriage)
    (begun : state.mode ≠ .idle → Segment.Begin state.tokenStart body)
    (rests : Rests policy profile state.mode body queued) :
    Stands policy profile symbols stop tokens splices unread queue reaction := by
  have sound := setting.sound
  have valid := sane.valid
  unfold ScanState.Valid at valid
  cases answered with
  | between mode =>
      obtain ⟨trail, more, rfl⟩ := facing.exists_cut
      rw [mode] at rests
      obtain ⟨rfl, chain⟩ := rests
      exact dispatch_stands facing setting mode sane.classes chain
  | takes mode takes =>
      obtain ⟨trail, more, rfl⟩ := facing.exists_cut
      subst mode
      exact takes.stands plain facing (begun takes.ne_idle) rests
  | completes mode completed =>
      rw [mode] at begun rests
      exact completed.stands facing ended mode sane.valid (begun completed.ne_idle) rests
  | linefeed mode =>
      obtain ⟨trail, more, rfl⟩ := facing.exists_cut
      rw [mode] at begun rests
      exact facing.closing_with (closing_finish state (by decide) _ _)
        ((begun (by simp)).append _) rfl rests
  | resolves mode =>
      rw [mode] at begun rests
      obtain ⟨rfl, loose⟩ := rests
      exact resolvePrefix_stands _ sound facing (begun (by simp)) loose
  | releases mode =>
      rw [mode] at begun rests valid
      exact stands_feed.mpr (releaseDot_stands valid facing (begun (by simp)) rests)
  | extendsOperator mode _ edge =>
      obtain ⟨trail, more, rfl⟩ := facing.exists_cut
      rw [mode] at begun rests valid
      exact advanceOperator_stands sound valid edge facing (begun (by simp)) rests
  | endsOperator mode =>
      rw [mode] at begun rests valid
      exact stands_feed.mpr (stuckOperator_stands sound valid facing (begun (by simp)) rests
        fun _ _ cut => facing.ends_next ended cut)
  | closesBlock mode =>
      obtain ⟨trail, more, rfl⟩ := facing.exists_cut
      rw [mode] at begun rests
      exact facing.closing_with closing_closeBlock ((begun (by simp)).append _) rfl rests
  | unclosed mode =>
      obtain ⟨rfl, rfl⟩ := ended rfl
      exact facing.closing_last (closing_reject state ⟨state.tokenStart, stop⟩ _)
        (begun (by simp [mode])) rfl
  | extendsIntroduction mode =>
      obtain ⟨trail, more, rfl⟩ := facing.exists_cut
      rw [mode] at begun rests
      exact advanceLiteral_stands _ sound facing (begun (by simp)) rests
  | endsIntroduction mode =>
      rw [mode] at begun rests valid
      exact stands_feed.mpr (stuckLiteral_stands sound valid facing (begun (by simp)) rests)
  | reads mode =>
      obtain ⟨trail, more, rfl⟩ := facing.exists_cut
      rw [mode] at begun rests valid
      exact readLiteral_stands facing (begun (by simp)) rests mode valid.1 valid.2
  | closesLiteral mode =>
      obtain ⟨rfl, rfl⟩ := ended rfl
      rw [mode] at begun valid
      exact facing.closing_last (closeLiteral_closing valid.1 valid.2) (begun (by simp)) rfl
  | joins mode | joinsBefore mode | abandons mode => exact (plain _ _ _ mode).elim

end Answers

/-- Every answer leaves the symbols accounted for. -/
theorem Answered.standing {next : Option Fed}
    (answered : Answered profile stop state next reaction)
    (setting : Setting policy profile symbols) (sane : Sane profile state)
    (ended : next = none → queue = [] ∧ unread = [])
    (standing : Standing policy profile symbols stop tokens splices state
      (next.toList.map Fed.toLocated ++ queue) unread) :
    Standing policy profile symbols stop (tokens ++ tokensOf reaction.reports)
      (splices ++ absorbed state next) reaction.state
      (reaction.next.map Fed.toLocated ++ queue) unread := by
  obtain ⟨done, body, wait, queued, account, layout⟩ := standing
  by_cases waits : ∃ resume escape carriage, state.mode = .continuation resume escape carriage
  · obtain ⟨resume, escape, carriage, mode⟩ := waits
    have valid := sane.valid
    have held := layout.waiting
    have begun := layout.begun
    have rests := layout.rests
    unfold ScanState.Valid at valid
    rw [mode] at valid held begun rests
    simp only [Mode.resting] at begun rests
    exact answered.standing_of_waits setting mode valid (sane.waits _ _ _ mode) account
      layout.covers layout.feeds held begun rests
  · have plain : ∀ resume escape carriage, state.mode ≠ .continuation resume escape carriage :=
      fun resume escape carriage mode => waits ⟨resume, escape, carriage, mode⟩
    obtain ⟨facing, begun, rests⟩ := layout.facing plain account
    rw [absorbed_eq_nil_of_plain plain, List.append_nil]
    refine answered.stands facing (fun missing => ?_) setting sane plain begun rests
    obtain ⟨rfl, rfl⟩ := ended missing
    subst missing
    exact ⟨by simpa using facing.feeds, rfl⟩

theorem next_standing (setting : Setting policy profile symbols) (sane : Sane profile state)
    {queue : List Fed}
    (standing : Standing policy profile symbols stop tokens splices state
      (queue.map Fed.toLocated) [])
    (next : nextReaction? profile (some stop) state queue = some (reaction, rest)) :
    ∃ splices, Standing policy profile symbols stop (tokens ++ tokensOf reaction.reports) splices
      reaction.state ((reaction.next ++ rest).map Fed.toLocated) [] := by
  obtain ⟨symbol, rfl, last, answered⟩ := answered_next next
  rw [List.map_append] at standing ⊢
  exact ⟨_, answered.standing setting sane (fun missing => by simp [last missing]) standing⟩

/-- Along a journey the symbols are accounted for. -/
theorem Journey.standing (setting : Setting policy profile symbols)
    (adjoin : Located.Adjoin 0 symbols stop) {reports : List Report} {config : Config ρ}
    (journey : Journey profile symbols stop reports splices config unread) :
    Sane profile config.state ∧
      Standing policy profile symbols stop (tokensOf reports) splices config.state
        (config.queue.map Fed.toLocated) unread := by
  induction journey with
  | start =>
      refine ⟨⟨ScanState.valid_idle rfl, rfl, by simp⟩, [], [], [], [], ⟨adjoin, by simp, by simp⟩,
        .nil, rfl, rfl, by simp [Mode.resting], rfl, trivial⟩
  | @read _ _ _ located _ _ ih =>
      obtain ⟨sane, done, body, wait, queued, account, layout⟩ := ih
      obtain rfl : queued = [] := by simpa using layout.feeds
      refine ⟨sane, done, body, wait, [⟨located, []⟩], by simpa using account.read, layout.covers,
        rfl, layout.waiting, layout.begun, ?_⟩
      exact rests_append (by simpa using layout.rests) fun segment member => by
        obtain rfl : segment = _ := by simpa using member
        exact policy.bare _
  | @react _ _ state fed _ _ _ ih =>
      obtain ⟨sane, standing⟩ := ih
      have answered := answered_react profile stop state fed
      refine ⟨answered.sane setting.sound sane, ?_⟩
      simpa [tokensOf] using answered.standing setting sane (by simp) standing
  | flush _ flushed ih =>
      obtain ⟨sane, standing⟩ := ih
      have answered := answered_flush? flushed
      refine ⟨answered.sane setting.sound sane, ?_⟩
      simpa [tokensOf] using answered.standing setting sane (fun _ => ⟨rfl, rfl⟩) standing

theorem bounded_of_setting (setting : Setting policy profile symbols)
    (adjoin : Located.Adjoin 0 symbols stop)
    (undotted : profile.literals.advance Trie.root '.' = none) :
    Bounded profile symbols stop := by
  refine ⟨undotted, fun reports splices config unread journey => ?_⟩
  obtain ⟨sane, done, body, wait, queued, account, layout⟩ := journey.standing setting adjoin
  refine ⟨sane.valid, fun resume escape carriage mode => ?_⟩
  have held := layout.waiting
  rw [mode, Mode.waiting] at held
  obtain ⟨first, others, rfl, symbol, _⟩ := List.map_eq_cons_iff.mp held
  have member : first.symbol ∈ symbols := account.mem_of_mem (by simp)
  rw [symbol] at member
  exact setting.harmless escape member (sane.waits resume escape carriage mode)

theorem Journey.covers (setting : Setting policy profile symbols)
    (adjoin : Located.Adjoin 0 symbols stop) {reports : List Report}
    (journey : Journey profile symbols stop reports splices ⟨state, []⟩ [])
    (idle : state.mode = .idle) :
    ∃ done, Account symbols stop splices [] done ∧ Covers policy (tokensOf reports) done := by
  obtain ⟨_, done, body, wait, queued, account, layout⟩ := journey.standing setting adjoin
  have held := layout.waiting
  have rests := layout.rests
  rw [idle] at held rests
  obtain rfl : wait = [] := by simpa [Mode.waiting] using held
  obtain rfl : queued = [] := by simpa using layout.feeds
  obtain rfl : body = [] := rests.1
  exact ⟨done, by simpa using account, layout.covers⟩

end Scan

end Lexing
