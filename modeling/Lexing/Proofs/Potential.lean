import Lexing.Proofs.Representation

/-!
# A measure for the machine

The machine may look at a symbol many times: a walk that gets stuck gives its
symbols back, and so do a point without digits after it and an escape symbol
without a line terminator.  Three quantities show that it gets past every symbol.
The number of symbols that can still be fed never grows.  While it stays the same,
the rank of the configuration never grows, and while that stays the same, the
weight of the symbols falls.
-/

namespace Lexing

/-! ## The measure -/

/-- How many symbols a mode may give back. -/
def Mode.held : Mode → Nat
  | .maybeFloat .. => 1
  | .operator walk => walk.pending.length
  | .literalPrefix walk => walk.pending.length
  | .continuation (.operator walk) _ _ => walk.pending.length + 1
  | .continuation .. => 1
  | _ => 0

/-- An escape symbol that is held back is one symbol more. -/
theorem Mode.held_continuation (resume : Resume) (escape : Located) (carriage : Option Nat) :
    (Mode.continuation resume escape carriage).held = resume.mode.held + 1 := by
  cases resume <;> rfl

/-- What the symbols that a mode holds back weigh, beside those of a walk. -/
def Mode.heldWeight : Mode → Nat
  | .maybeFloat .. => 4
  | .continuation .. => 2
  | _ => 0

/-- The weight of a symbol falls with each rule that has failed on it. -/
def Fed.weight (fed : Fed) : Nat :=
  if fed.symbol = '.' then
    if fed.exempt.dotNumber then 3 else 5
  else if fed.exempt.continuation then 1
  else 3

namespace Scan

variable {ρ : Type}

/-- Between tokens, a symbol that may introduce a literal ranks higher. -/
def idleRank (profile : Profile ρ) : List Fed → Nat
  | [] => 0
  | fed :: _ =>
      if (profile.literals.advance Trie.root fed.symbol).isSome && !fed.exempt.literal then 2
      else 1

/-- How far the machine is from a decision on the next symbol. -/
def rank (profile : Profile ρ) (queue : List Fed) : Mode → Nat
  | .idle => idleRank profile queue
  | .operator _ => 0
  | .continuation (.operator _) _ _ => 0
  | .continuation .idle _ _ => 1
  | .maybeFloat .. => 1
  | .literalPrefix _ => 2
  | .numberPrefix .. => 4
  | _ => 3

def queueWeight : List Fed → Nat
  | [] => 0
  | fed :: rest => fed.weight + queueWeight rest

namespace Config

def size (config : Config ρ) : Nat :=
  config.state.mode.held + config.queue.length

def weight (config : Config ρ) : Nat :=
  config.state.mode.heldWeight + queueWeight config.queue

/-- The three quantities in one number. -/
def potential (profile : Profile ρ) (config : Config ρ) : Nat :=
  13 * config.size * config.size +
    rank profile config.queue config.state.mode * (5 * config.size + 1) + config.weight

end Config

/-- The first of the three quantities that changes falls. -/
def Falls (profile : Profile ρ) (next config : Config ρ) : Prop :=
  next.size < config.size ∨
    next.size ≤ config.size ∧
      (rank profile next.queue next.state.mode < rank profile config.queue config.state.mode ∨
        rank profile next.queue next.state.mode ≤ rank profile config.queue config.state.mode ∧
          next.weight < config.weight)

variable {profile : Profile ρ}

theorem idleRank_le (profile : Profile ρ) (queue : List Fed) : idleRank profile queue ≤ 2 := by
  cases queue with
  | nil => exact Nat.zero_le 2
  | cons fed rest =>
      rw [idleRank]
      split_ifs <;> decide

theorem rank_le (profile : Profile ρ) (queue : List Fed) (mode : Mode) :
    rank profile queue mode ≤ 4 := by
  cases mode with
  | idle => exact Nat.le_trans (idleRank_le profile queue) (by decide)
  | continuation resume escape carriage => cases resume <;> simp [rank]
  | _ => simp [rank]

theorem weight_le (fed : Fed) : fed.weight ≤ 5 := by
  unfold Fed.weight
  split_ifs <;> decide

theorem weight_pos (fed : Fed) : 0 < fed.weight := by
  unfold Fed.weight
  split_ifs <;> decide

theorem queueWeight_le (queue : List Fed) : queueWeight queue ≤ 5 * queue.length := by
  induction queue with
  | nil => exact Nat.zero_le _
  | cons fed rest ih =>
      have bound := weight_le fed
      rw [queueWeight, List.length_cons]
      omega

theorem heldWeight_le (mode : Mode) : mode.heldWeight ≤ 5 * mode.held := by
  cases mode with
  | continuation resume escape carriage =>
      cases resume <;> grind [Mode.heldWeight, Mode.held]
  | maybeFloat value dot hasInteger =>
      simp only [Mode.heldWeight, Mode.held]
      omega
  | _ => exact Nat.zero_le _

theorem Config.weight_le (config : Config ρ) : config.weight ≤ 5 * config.size := by
  have queued := queueWeight_le config.queue
  have held := heldWeight_le config.state.mode
  unfold Config.weight Config.size
  omega

/-- Everything that fits into a configuration weighs less than one more symbol. -/
theorem Config.potential_lt_of_size {next config : Config ρ} (smaller : next.size < config.size) :
    next.potential profile < config.potential profile := by
  have squares : (next.size + 1) * (next.size + 1) ≤ config.size * config.size :=
    Nat.mul_le_mul smaller smaller
  have ranks : rank profile next.queue next.state.mode * (5 * next.size + 1) ≤
      4 * (5 * next.size + 1) :=
    Nat.mul_le_mul_right _ (rank_le profile next.queue next.state.mode)
  have weights := next.weight_le
  unfold Config.potential
  rw [Nat.add_mul, Nat.mul_add] at squares
  rw [Nat.mul_assoc, Nat.mul_assoc]
  omega

/-- The potential falls with the first quantity that changes. -/
theorem Falls.potential_lt {next config : Config ρ} (falls : Falls profile next config) :
    next.potential profile < config.potential profile := by
  rcases falls with smaller | ⟨notLarger, later⟩
  · exact Config.potential_lt_of_size smaller
  rcases Nat.lt_or_eq_of_le notLarger with smaller | same
  · exact Config.potential_lt_of_size smaller
  have weights := next.weight_le
  unfold Config.potential
  rw [same] at weights ⊢
  rcases later with lower | ⟨notHigher, lighter⟩
  · have ranks := Nat.mul_le_mul_right (5 * config.size + 1) (Nat.succ_le_of_lt lower)
    rw [Nat.succ_mul] at ranks
    omega
  · have ranks := Nat.mul_le_mul_right (5 * config.size + 1) notHigher
    omega

/-! ## Every reaction falls -/

section Handlers

variable {state : ScanState ρ} {fed : Fed} {rest : List Fed}

theorem falls_of_fewer {reaction : Reaction ρ} {symbols : List Fed}
    (fewer : reaction.state.mode.held + reaction.next.length <
      state.mode.held + symbols.length) :
    Falls profile ⟨reaction.state, reaction.next ++ rest⟩ ⟨state, symbols ++ rest⟩ := by
  left
  simp only [Config.size, List.length_append]
  omega

theorem falls_of_lt {reaction : Reaction ρ}
    (fewer : reaction.state.mode.held + reaction.next.length < state.mode.held + 1) :
    Falls profile ⟨reaction.state, reaction.next ++ rest⟩ ⟨state, fed :: rest⟩ :=
  falls_of_fewer (show _ < _ + [fed].length from fewer)

/-- The token has ended before the symbol, if there is one. -/
theorem falls_of_idle {reaction : Reaction ρ} {symbols : List Fed}
    (idle : reaction.state.mode = .idle) (next : reaction.next.length ≤ symbols.length)
    (high : 2 < rank profile (symbols ++ rest) state.mode) :
    Falls profile ⟨reaction.state, reaction.next ++ rest⟩ ⟨state, symbols ++ rest⟩ := by
  right
  have low := idleRank_le profile (reaction.next ++ rest)
  refine ⟨?_, Or.inl ?_⟩
  · simp only [Config.size, idle, Mode.held, List.length_append]
    omega
  · simpa [idle, rank] using Nat.lt_of_le_of_lt low high

/-- The symbol has become part of what the mode holds back. -/
theorem falls_of_weight {reaction : Reaction ρ}
    (held : reaction.state.mode.held = state.mode.held + 1) (next : reaction.next = [])
    (notHigher : rank profile rest reaction.state.mode ≤ rank profile (fed :: rest) state.mode)
    (lighter : reaction.state.mode.heldWeight < state.mode.heldWeight + fed.weight) :
    Falls profile ⟨reaction.state, reaction.next ++ rest⟩ ⟨state, fed :: rest⟩ := by
  right
  refine ⟨?_, Or.inr ⟨?_, ?_⟩⟩
  · simp only [Config.size, next, held, List.nil_append, List.length_cons]
    omega
  · simpa [next] using notHigher
  · simp only [Config.weight, next, List.nil_append, queueWeight]
    omega

theorem beginsContinuation_weight (begins : beginsContinuation profile state fed = true) :
    2 < fed.weight := by
  have continues : fed.exempt.continuation = false := by
    simp only [beginsContinuation, Bool.and_eq_true, Bool.not_eq_true'] at begins
    exact begins.2
  unfold Fed.weight
  rw [continues, if_neg Bool.false_ne_true]
  split_ifs <;> decide

theorem awaitLineEnd_falls (resume : Resume) (resumed : state.mode = resume.mode)
    (begins : beginsContinuation profile state fed = true) :
    Falls profile
      ⟨(awaitLineEnd state resume fed).state, (awaitLineEnd state resume fed).next ++ rest⟩
      ⟨state, fed :: rest⟩ := by
  have heavy := beginsContinuation_weight begins
  apply falls_of_weight
  · cases resume <;> simp [awaitLineEnd, resumed, Resume.mode, Mode.held]
  · simp [awaitLineEnd]
  · cases resume <;> simp [awaitLineEnd, resumed, Resume.mode, rank, idleRank]
    split <;> omega
  · simp only [awaitLineEnd, ScanState.become_mode, Mode.heldWeight]
    omega

/-! ### Operators -/

@[simp]
theorem closeWalk_held (profile : Profile ρ) (state : ScanState ρ) (node : NodeId) (stop : Nat) :
    (closeWalk profile state node stop).state.mode.held = 0 := by
  rcases closeWalk_mode state profile node stop with mode | mode | mode <;> simp [mode, Mode.held]

@[simp]
theorem finishOperator_held (profile : Profile ρ) (state : ScanState ρ) (pending : List Located)
    (node : NodeId) (count : Nat) (stop : Option Nat) :
    (finishOperator profile state pending node count stop).state.mode.held = 0 :=
  closeWalk_held profile state node _

/-- A walk that is stuck gives back fewer symbols than it holds. -/
theorem stuckOperator_fewer {walk : Walk} (traces : walk.Traces profile.operators)
    (state : ScanState ρ) (stop : Nat) :
    (stuckOperator profile state walk stop).state.mode.held +
      (stuckOperator profile state walk stop).next.length < walk.pending.length := by
  have stuck := stuckOperator_stuck profile state walk stop
  generalize stuckOperator profile state walk stop = reaction at stuck ⊢
  cases stuck with
  | passed terminal =>
      obtain ⟨positive, bound, _⟩ := traces.terminal_bound terminal
      rw [finishOperator_held, finishOperator_next, List.length_map, List.length_drop]
      omega
  | rejected _ pending => simp [pending, Mode.held]
  | empty _ pending => exact absurd pending traces.nonempty

theorem reachOperator_falls {node : NodeId} {pending : List Located}
    {terminal : Option (NodeId × Nat)} (held : pending.length = state.mode.held + 1) :
    Falls profile
      ⟨(reachOperator profile state node pending terminal).state,
        (reachOperator profile state node pending terminal).next ++ rest⟩
      ⟨state, fed :: rest⟩ := by
  unfold reachOperator
  split
  · refine falls_of_weight ?_ rfl ?_ ?_
    · simpa [Mode.held] using held
    · simp [rank]
    · have positive := weight_pos fed
      simp only [ScanState.become_mode, Mode.heldWeight]
      omega
  · apply falls_of_lt
    simp

/-! ### Literals -/

@[simp]
theorem openLiteral_held [Literal.Reader ρ] (profile : Profile ρ) (state : ScanState ρ)
    (node : NodeId) (introduction : List Located) :
    (openLiteral profile state node introduction).state.mode.held = 0 := by
  rcases openLiteral_mode state profile node introduction with mode | ⟨_, _, mode⟩ <;>
    simp [mode, Mode.held]

theorem reachLiteral_falls [Literal.Reader ρ] {node : NodeId} {pending : List Located}
    {terminal : Option (NodeId × Nat)} (held : pending.length = state.mode.held + 1)
    (high : 2 ≤ rank profile (fed :: rest) state.mode) :
    Falls profile
      ⟨(reachLiteral profile state node pending terminal).state,
        (reachLiteral profile state node pending terminal).next ++ rest⟩
      ⟨state, fed :: rest⟩ := by
  have positive := weight_pos fed
  have reached := reachLiteral_reached profile state node pending terminal
  generalize reachLiteral profile state node pending terminal = reaction at reached ⊢
  cases reached with
  | waits =>
      refine falls_of_weight ?_ rfl ?_ ?_
      · simpa [Mode.held] using held
      · simpa [rank] using high
      · simp only [ScanState.become_mode, Mode.heldWeight]
        omega
  | opens =>
      apply falls_of_lt
      simp

theorem stuckLiteral_falls [Literal.Reader ρ] {walk : Walk}
    (mode : state.mode = .literalPrefix walk) (traces : walk.Traces profile.literals)
    (queue : List Fed) :
    Falls profile
      ⟨(stuckLiteral profile state walk).state, (stuckLiteral profile state walk).next ++ queue⟩
      ⟨state, queue⟩ := by
  unfold stuckLiteral
  cases terminal : walk.terminal with
  | none =>
      obtain ⟨first, rest, pending⟩ := List.exists_cons_of_ne_nil traces.nonempty
      right
      refine ⟨?_, Or.inl ?_⟩
      · simp only [Config.size, mode, Mode.held, pending, Fed.firstExempt, Reaction.feed_state,
          Reaction.feed_next, ScanState.become_mode, ScanState.become_next, List.nil_append,
          List.cons_append, List.length_cons, List.length_append, List.length_map]
        omega
      · simp [mode, rank, pending, Fed.firstExempt, idleRank]
  | some passed =>
      obtain ⟨positive, bound, _⟩ := traces.terminal_bound terminal
      have held : state.mode.held = walk.pending.length := by rw [mode, Mode.held]
      left
      simp only [Config.size, Reaction.feed_state, openLiteral_held, Reaction.feed_next,
        openLiteral_next, List.nil_append, List.length_append, List.length_map, List.length_drop]
      omega

theorem readLiteral_falls [Literal.Reader ρ] {number : Nat} {kind : Kind}
    (mode : state.mode = .literal number kind) :
    Falls profile
      ⟨(readLiteral profile state number kind fed).state,
        (readLiteral profile state number kind fed).next ++ rest⟩
      ⟨state, fed :: rest⟩ := by
  have again : ∀ {reaction : Reaction ρ}, reaction.state.mode = .idle →
      reaction.next.length ≤ 1 → Falls profile ⟨reaction.state, reaction.next ++ rest⟩
        ⟨state, [fed] ++ rest⟩ :=
    fun idle next => falls_of_idle idle next (by simp [mode, rank])
  have continued := readLiteral_continued profile state number kind fed
  generalize readLiteral profile state number kind fed = reaction at continued ⊢
  cases continued with
  | unread => exact again rfl (by simp)
  | proceeds | proceedsWith =>
      apply falls_of_lt
      simp [mode, Mode.held]
  | stops | stopsWith =>
      apply falls_of_lt
      simp [finishLiteral, Mode.held]
  | failsBefore => exact again rfl (by simp [failLiteral])
  | fails =>
      apply falls_of_lt
      simp [failLiteral, Mode.held]

/-! ### Numbers, comments and continuations -/

theorem resolvePrefix_falls {node : NodeId} {pending : List Located}
    (mode : state.mode = .numberPrefix node pending) (next : Option Fed) (rest : List Fed) :
    Falls profile
      ⟨(resolvePrefix profile state node pending next).state,
        (resolvePrefix profile state node pending next).next ++ rest⟩
      ⟨state, next.toList ++ rest⟩ := by
  -- The symbols of the prefix are not fed again, so only the rank has to fall.
  have high : rank profile (next.toList ++ rest) state.mode = 4 := by rw [mode, rank]
  right
  rw [resolvePrefix_next, high]
  rcases resolvePrefix_mode state profile node pending next with idle | ⟨value, number⟩
  · have low := idleRank_le profile (next.toList ++ rest)
    refine ⟨by simp [Config.size, idle, Mode.held], Or.inl ?_⟩
    rw [idle, rank]
    exact Nat.lt_of_le_of_lt low (by decide)
  · exact ⟨by simp [Config.size, number, Mode.held], Or.inl (by simp [number, rank])⟩

theorem releaseDot_falls {value : Numeral} {dot : Nat} {hasInteger : Bool}
    (undotted : profile.literals.advance Trie.root '.' = none)
    (mode : state.mode = .maybeFloat value dot hasInteger) (queue : List Fed) :
    Falls profile
      ⟨(releaseDot state value dot hasInteger).state,
        (releaseDot state value dot hasInteger).next ++ queue⟩
      ⟨state, queue⟩ := by
  right
  refine ⟨?_, Or.inr ⟨?_, ?_⟩⟩
  · simp only [Config.size, releaseDot_mode, releaseDot_next, mode, Mode.held, List.cons_append,
      List.nil_append, List.length_cons]
    omega
  · simp [mode, rank, idleRank, Fed.exemptPoint, undotted]
  · simp [Config.weight, mode, Mode.heldWeight, queueWeight, Fed.exemptPoint, Fed.weight]

/-- An escape symbol that comes back from a continuation starts nothing that would
hold it back again. -/
def Harmless (profile : Profile ρ) (symbol : Char) : Prop :=
  profile.literals.advance Trie.root symbol = none ∧ symbol ≠ '.'

theorem joinLines_fewer (resume : Resume) (escape : Located) (carriage : Option Nat) (stop : Nat)
    (mode : state.mode = .continuation resume escape carriage) :
    (joinLines state resume escape stop).state.mode.held +
      (joinLines state resume escape stop).next.length < state.mode.held := by
  rw [mode, Mode.held_continuation, joinLines_mode, joinLines_next]
  exact Nat.lt_succ_self _

/-- The escape symbol that is given back is exempt from continuing the line. -/
theorem abandonContinuation_falls {resume : Resume} {escape : Located} {carriage : Option Nat}
    (harmless : Harmless profile escape.symbol)
    (mode : state.mode = .continuation resume escape carriage) (queue : List Fed) :
    Falls profile
      ⟨(abandonContinuation state resume escape).state,
        (abandonContinuation state resume escape).next ++ queue⟩
      ⟨state, queue⟩ := by
  obtain ⟨unread, notDot⟩ := harmless
  right
  refine ⟨?_, Or.inr ⟨?_, ?_⟩⟩
  · simp only [Config.size, abandonContinuation_state, abandonContinuation_next, mode,
      Mode.held_continuation, ScanState.enter_mode, List.singleton_append, List.length_cons]
    omega
  · cases resume <;> simp [abandonContinuation, mode, Resume.mode, rank, idleRank, unread]
  · cases resume <;>
      simp [abandonContinuation, Config.weight, mode, Resume.mode, Mode.heldWeight, queueWeight,
        Fed.weight, notDot]

theorem Takes.falls {before after : Mode} (mode : state.mode = before)
    (takes : Takes profile state fed before after) :
    Falls profile
      ⟨(state.become after).state, (state.become after).next ++ rest⟩ ⟨state, fed :: rest⟩ := by
  have taken : after.held < state.mode.held + 1 → Falls profile
      ⟨(state.become after).state, (state.become after).next ++ rest⟩ ⟨state, fed :: rest⟩ :=
    fun fewer => falls_of_lt fewer
  cases takes with
  | point =>
      right
      simp [Config.size, mode, Mode.held, rank]
      omega
  | escape resumes _ begins => exact awaitLineEnd_falls _ (mode.trans resumes) begins
  | @carriage resume => exact taken (by cases resume <;> simp [mode, Mode.held])
  | _ => exact taken (Nat.succ_pos _)

theorem Completed.rank_eq {before : Mode} {kind : Kind} {payload : Payload} {next : Option Fed}
    {stop : Nat} (completed : Completed profile state next stop before kind payload)
    (queue : List Fed) : rank profile queue before = 3 := by
  cases completed <;> rfl

variable [Literal.Reader ρ]

theorem dispatch_falls (idle : state.mode = .idle) :
    Falls profile
      ⟨(dispatch profile state fed).state, (dispatch profile state fed).next ++ rest⟩
      ⟨state, fed :: rest⟩ := by
  have sameMode : (starting state fed).mode = .idle := idle
  have positive := weight_pos fed
  suffices falls : Falls profile
      ⟨(dispatch profile state fed).state, (dispatch profile state fed).next ++ rest⟩
      ⟨starting state fed, fed :: rest⟩ from falls
  have answer := dispatched profile state fed
  generalize dispatch profile state fed = reaction at answer ⊢
  cases answer with
  | continuation begins => exact awaitLineEnd_falls .idle sameMode begins
  | literal edge unexempt =>
      apply reachLiteral_falls
      · simp [sameMode, Mode.held]
      · simp [sameMode, rank, idleRank, edge, unexempt]
  | point dot unexempt =>
      apply falls_of_weight
      · simp [sameMode, Mode.held]
      · rfl
      · simp [sameMode, rank, idleRank]
        split <;> omega
      · simp [sameMode, Mode.heldWeight, Fed.weight, dot, unexempt]
  | operator edge =>
      apply reachOperator_falls
      simp [sameMode, Mode.held]
  | blank | single | numberPrefix | number | identifier | reject =>
      apply falls_of_lt
      simp [sameMode, Mode.held]

/-! ### All modes -/

/-- An escape symbol that a mode holds back is harmless. -/
def Settled (profile : Profile ρ) (state : ScanState ρ) : Prop :=
  ∀ resume escape carriage, state.mode = .continuation resume escape carriage →
    Harmless profile escape.symbol

/-- The end of the input ends a token, or gives symbols back as a symbol would. -/
theorem Answered.falls {stop : Nat} {next : Option Fed} {reaction : Reaction ρ}
    (answered : Answered profile stop state next reaction)
    (undotted : profile.literals.advance Trie.root '.' = none)
    (valid : state.Valid profile) (settled : Settled profile state) :
    Falls profile ⟨reaction.state, reaction.next ++ rest⟩ ⟨state, next.toList ++ rest⟩ := by
  unfold ScanState.Valid at valid
  cases answered with
  | between mode => exact dispatch_falls mode
  | takes mode takes => exact takes.falls mode
  | completes mode completed =>
      refine falls_of_idle rfl (by simp) ?_
      rw [mode, completed.rank_eq]
      exact Nat.lt_succ_self 2
  | linefeed | closesBlock => exact falls_of_lt (Nat.succ_pos _)
  | unclosed mode => exact falls_of_idle rfl (Nat.le_refl _) (by simp [mode, rank])
  | resolves mode => exact resolvePrefix_falls mode next rest
  | releases mode => simpa using releaseDot_falls undotted mode (next.toList ++ rest)
  | extendsOperator mode =>
      apply reachOperator_falls
      simp [mode, Mode.held]
  | endsOperator mode =>
      rw [mode] at valid
      have fewer := stuckOperator_fewer valid state (next.elim stop fun fed => fed.offset)
      have held : state.mode.held = _ := congrArg Mode.held mode
      apply falls_of_fewer
      rw [held, Reaction.feed_state, Reaction.feed_next, List.length_append, Mode.held]
      omega
  | extendsIntroduction mode =>
      apply reachLiteral_falls
      · simp [mode, Mode.held]
      · simp [mode, rank]
  | endsIntroduction mode =>
      rw [mode] at valid
      simpa using stuckLiteral_falls mode valid (next.toList ++ rest)
  | reads mode => exact readLiteral_falls mode
  | closesLiteral mode => exact falls_of_idle (by simp) (by simp) (by simp [mode, rank])
  | @joins _ _ _ fed mode =>
      have fewer := joinLines_fewer _ _ _ fed.stop mode
      exact falls_of_lt (by omega)
  | @joinsBefore _ _ carriage _ mode =>
      have fewer := joinLines_fewer _ _ _ (symbolEnd '\r' carriage) mode
      apply falls_of_fewer
      simp only [Reaction.feed_state, Reaction.feed_next, List.length_append]
      omega
  | abandons mode =>
      simpa using abandonContinuation_falls (settled _ _ _ mode) mode (next.toList ++ rest)

theorem potential_lt_of_next (undotted : profile.literals.advance Trie.root '.' = none)
    {closing : Option Nat} {config : Config ρ} (valid : config.state.Valid profile)
    (settled : Settled profile config.state) {reaction : Reaction ρ}
    (next : nextReaction? profile closing config.state config.queue = some (reaction, rest)) :
    Config.potential profile ⟨reaction.state, reaction.next ++ rest⟩ <
      config.potential profile := by
  obtain ⟨state, queue⟩ := config
  obtain ⟨symbol, rfl, _, answered⟩ := answered_next next
  exact (answered.falls undotted valid settled).potential_lt

end Handlers

/-! ## The budget of a call -/

theorem held_le_pending (mode : Mode) : mode.held ≤ mode.pending.length + 1 := by
  cases mode with
  | continuation resume escape carriage => cases resume <;> simp [Mode.held, Mode.pending]
  | _ => simp [Mode.held, Mode.pending]

/-- The budget of a call covers the potential that it starts with. -/
theorem potential_le_budget (profile : Profile ρ) (state : ScanState ρ) (queue : List Fed)
    (short : queue.length ≤ 1) :
    Config.potential profile ⟨state, queue⟩ ≤ budget state.mode 1 := by
  have held := held_le_pending state.mode
  have sizes : Config.size ⟨state, queue⟩ ≤ state.mode.pending.length + 2 := by
    simp only [Config.size]
    omega
  have squares := Nat.mul_le_mul sizes sizes
  have ranks := Nat.mul_le_mul_right (5 * Config.size ⟨state, queue⟩ + 1)
    (rank_le profile queue state.mode)
  have weights := Config.weight_le ⟨state, queue⟩
  unfold Config.potential budget
  dsimp only at *
  rw [Nat.mul_assoc]
  generalize Config.size ⟨state, queue⟩ = size at *
  simp only [Nat.add_mul, Nat.mul_add] at *
  omega

end Scan

end Lexing
