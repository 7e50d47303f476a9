import Lexing.Proofs.Answers

/-!
# What reactions leave alone

No reaction changes the classes of the symbols.  A reaction holds an escape symbol
back only if it is the symbol that was fed, and may continue a line, or if it was
held back before.
-/

namespace Lexing.Scan

variable {ρ : Type} {profile : Profile ρ} {state after : ScanState ρ} {fed : Fed} {stop : Nat}
  {reaction : Reaction ρ}

/-- The part of a state in which a reaction to a symbol is not free. -/
structure Framed (profile : Profile ρ) (state : ScanState ρ) (fed : Fed) (after : ScanState ρ) :
    Prop where
  classes : after.ownClasses = state.ownClasses
  escape : ∀ resume escape carriage, after.mode = .continuation resume escape carriage →
    (escape = fed.toLocated ∧ beginsContinuation profile state fed = true) ∨
      ∃ earlier missing, state.mode = .continuation earlier escape missing

/-- A state that waits for no line terminator. -/
structure Unheld (state after : ScanState ρ) : Prop where
  classes : after.ownClasses = state.ownClasses
  mode : ∀ resume escape carriage, after.mode ≠ .continuation resume escape carriage

theorem Unheld.framed (unheld : Unheld state after) : Framed profile state fed after where
  classes := unheld.classes
  escape resume escape carriage waits := (unheld.mode resume escape carriage waits).elim

theorem unheld_of_idle (classes : after.ownClasses = state.ownClasses)
    (idle : after.mode = .idle) : Unheld state after where
  classes := classes
  mode := by simp [idle]

theorem unheld_resume (state : ScanState ρ) (resume : Resume) :
    Unheld state (state.enter resume.mode) where
  classes := rfl
  mode := by cases resume <;> simp [Resume.mode]

theorem closeWalk_unheld (node : NodeId) (stop : Nat) :
    Unheld state (closeWalk profile state node stop).state := by
  refine ⟨by simp, fun _ _ _ => ?_⟩
  rcases closeWalk_mode state profile node stop with mode | mode | mode <;> simp [mode]

theorem stuckOperator_unheld (walk : Walk) (stop : Nat) :
    Unheld state (stuckOperator profile state walk stop).state := by
  have stuck := stuckOperator_stuck profile state walk stop
  generalize stuckOperator profile state walk stop = reaction at stuck ⊢
  cases stuck with
  | passed => exact closeWalk_unheld _ _
  | rejected | empty => exact unheld_of_idle rfl rfl

theorem reachOperator_unheld (node : NodeId) (pending : List Located)
    (terminal : Option (NodeId × Nat)) :
    Unheld state (reachOperator profile state node pending terminal).state := by
  unfold reachOperator
  split
  · exact ⟨rfl, by simp⟩
  · exact closeWalk_unheld _ _

theorem resolvePrefix_unheld (node : NodeId) (pending : List Located) (next : Option Fed) :
    Unheld state (resolvePrefix profile state node pending next).state := by
  refine ⟨by simp, fun _ _ _ => ?_⟩
  rcases resolvePrefix_mode state profile node pending next with mode | ⟨_, mode⟩ <;> simp [mode]

theorem joinLines_unheld (resume : Resume) (escape : Located) (stop : Nat) :
    Unheld state (joinLines state resume escape stop).state where
  classes := by simp
  mode := by cases resume <;> simp [Resume.mode]

theorem awaitLineEnd_framed (resume : Resume)
    (begins : beginsContinuation profile state fed = true) :
    Framed profile state fed (awaitLineEnd state resume fed).state where
  classes := rfl
  escape resumed escape carriage waits := by
    obtain ⟨_, rfl, _⟩ : _ ∧ fed.toLocated = escape ∧ _ := by simpa [awaitLineEnd] using waits
    exact Or.inl ⟨rfl, begins⟩

theorem Takes.framed {before next : Mode} (mode : state.mode = before)
    (takes : Takes profile state fed before next) :
    Framed profile state fed (state.become next).state := by
  cases takes with
  | escape _ _ begins => exact awaitLineEnd_framed _ begins
  | @carriage resume escape _ =>
      refine ⟨rfl, fun resumed held carriage waits => Or.inr ?_⟩
      obtain ⟨_, rfl, _⟩ : _ ∧ escape = held ∧ _ := by simpa using waits
      exact ⟨resume, none, mode⟩
  | _ => exact Unheld.framed ⟨rfl, by simp⟩

variable [Literal.Reader ρ]

theorem openLiteral_unheld (node : NodeId) (introduction : List Located) :
    Unheld state (openLiteral profile state node introduction).state := by
  refine ⟨by simp, fun _ _ _ => ?_⟩
  rcases openLiteral_mode state profile node introduction with mode | ⟨_, _, mode⟩ <;> simp [mode]

theorem stuckLiteral_unheld (walk : Walk) :
    Unheld state (stuckLiteral profile state walk).state := by
  unfold stuckLiteral
  split
  · exact unheld_of_idle rfl rfl
  · exact openLiteral_unheld _ _

theorem reachLiteral_unheld (node : NodeId) (pending : List Located)
    (terminal : Option (NodeId × Nat)) :
    Unheld state (reachLiteral profile state node pending terminal).state := by
  have reached := reachLiteral_reached profile state node pending terminal
  generalize reachLiteral profile state node pending terminal = reaction at reached ⊢
  cases reached with
  | waits => exact ⟨rfl, by simp⟩
  | opens => exact openLiteral_unheld _ _

theorem readLiteral_unheld {number : Nat} {kind : Kind} (mode : state.mode = .literal number kind) :
    Unheld state (readLiteral profile state number kind fed).state := by
  refine ⟨by simp, fun _ _ _ => ?_⟩
  rcases readLiteral_mode state profile number kind fed with same | idle
  · simp [same, mode]
  · simp [idle]

theorem dispatch_framed (idle : state.mode = .idle) :
    Framed profile state fed (dispatch profile state fed).state := by
  suffices framed : Framed profile (starting state fed) fed (dispatch profile state fed).state from
    ⟨framed.classes, framed.escape⟩
  have sameMode : (starting state fed).mode = .idle := idle
  have answer := dispatched profile state fed
  generalize dispatch profile state fed = reaction at answer ⊢
  cases answer with
  | continuation begins => exact awaitLineEnd_framed .idle begins
  | literal => exact (reachLiteral_unheld _ _ _).framed
  | operator => exact (reachOperator_unheld _ _ _).framed
  | single => exact Unheld.framed (unheld_of_idle rfl (by simpa using sameMode))
  | blank | point | numberPrefix | number | identifier | reject =>
      exact Unheld.framed ⟨rfl, by simp⟩

/-- What an answer leaves alone.  Only a symbol can be held back. -/
theorem Answered.framed {next : Option Fed} (answered : Answered profile stop state next reaction) :
    Unheld state reaction.state ∨
      ∃ fed, next = some fed ∧ Framed profile state fed reaction.state := by
  cases answered with
  | between mode => exact Or.inr ⟨_, rfl, dispatch_framed mode⟩
  | takes mode takes => exact Or.inr ⟨_, rfl, takes.framed mode⟩
  | completes | linefeed | closesBlock | unclosed => exact Or.inl (unheld_of_idle rfl rfl)
  | resolves => exact Or.inl (resolvePrefix_unheld _ _ _)
  | releases | closesLiteral => exact Or.inl (unheld_of_idle (by simp) (by simp))
  | extendsOperator => exact Or.inl (reachOperator_unheld _ _ _)
  | endsOperator => exact Or.inl (stuckOperator_unheld _ _)
  | extendsIntroduction => exact Or.inl (reachLiteral_unheld _ _ _)
  | endsIntroduction => exact Or.inl (stuckLiteral_unheld _)
  | reads mode => exact Or.inl (readLiteral_unheld mode)
  | joins | joinsBefore => exact Or.inl (joinLines_unheld _ _ _)
  | abandons => exact Or.inl (unheld_resume state _)

/-- No answer changes the classes of the symbols. -/
theorem Answered.ownClasses {next : Option Fed}
    (answered : Answered profile stop state next reaction) :
    reaction.state.ownClasses = state.ownClasses := by
  rcases answered.framed with unheld | ⟨_, _, framed⟩
  · exact unheld.classes
  · exact framed.classes

/-- A token that has begun keeps its start. -/
theorem Answered.tokenStart {next : Option Fed}
    (answered : Answered profile stop state next reaction) (busy : state.mode ≠ .idle) :
    reaction.state.tokenStart = state.tokenStart := by
  cases answered with
  | between mode => contradiction
  | takes | completes | linefeed | closesBlock | unclosed => rfl
  | _ => simp

/-- An escape symbol that is held back after an answer was held back before, or it is the
symbol that the machine answers to. -/
theorem Answered.waits {next : Option Fed} (answered : Answered profile stop state next reaction)
    {resume : Resume} {escape : Located} {carriage : Option Nat}
    (mode : reaction.state.mode = .continuation resume escape carriage) :
    (∃ fed, next = some fed ∧ escape = fed.toLocated ∧
        beginsContinuation profile state fed = true) ∨
      ∃ earlier missing, state.mode = .continuation earlier escape missing := by
  rcases answered.framed with unheld | ⟨fed, same, framed⟩
  · exact (unheld.mode resume escape carriage mode).elim
  · exact (framed.escape resume escape carriage mode).imp_left fun begins => ⟨fed, same, begins⟩

end Lexing.Scan
