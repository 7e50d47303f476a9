import Lexing.Proofs.Walks

/-!
# What a language has to guarantee

A policy says which segments may lose what was absorbed behind them.  Two things about
the language have to support it: an operator that absorbs something while it is not
complete still keeps to the policy, and a pointed segment that is given back never
ends a token with its symbol.  The second one is a matter of the rules between tokens.
-/

namespace Lexing

namespace Scan

variable {ρ : Type} {policy : Policy} {profile : Profile ρ} {symbols unread queue : List Located}
  {stop : Nat} {tokens : List Token} {splices : List Splice} {state : ScanState ρ}
  {done queued more : List Segment} {reaction : Reaction ρ} {fed : Fed}

/-- A symbol can make the machine wait for a line terminator. -/
def CanContinue (profile : Profile ρ) (located : Located) : Prop :=
  profile.options.honorLineContinuation = true ∧
    (profile.classes.classify located.symbol).escape = true

variable [Literal.Reader ρ]

/-- Why the segments of the given symbols keep to a policy.  An operator that is not
complete may absorb what stands behind it, and a pointed segment never ends a token
with its symbol. -/
structure Setting (policy : Policy) (profile : Profile ρ) (symbols : List Located) : Prop where
  sound : profile.Sound
  harmless : ∀ located ∈ symbols, CanContinue profile located → Harmless profile located.symbol
  absorbs : ∀ located ∈ symbols, CanContinue profile located →
    ∀ (walk : Walk) (front : List Segment) (last : Segment) (others queued : List Segment),
      walk.Traces profile.operators → profile.operators.kind? walk.node = none →
      Rests policy profile (.operator walk) (front ++ [last]) (others ++ queued) →
      Rests policy profile (.operator walk) (front ++ [last.absorb false others]) queued
  points : ∀ (state : ScanState ρ) (fed : Fed) (trail : List Splice),
    state.ownClasses = none → policy.pointed ⟨fed.toLocated, trail⟩ →
    (fed.symbol = '.' ∧ dispatch profile state fed = (starting state fed).become
        (.maybeFloat (.ofKind profile.defaultNumber) fed.offset false)) ∨
      ∃ node, profile.operators.hasChildren node = true ∧
        dispatch profile state fed =
          reachOperator profile (starting state fed) node [fed.toLocated] none

/-! ## Between tokens -/

section Dispatch

variable {trail : List Splice}
  (facing : Facing policy symbols stop tokens splices unread (fed.toLocated :: queue) done []
    (⟨fed.toLocated, trail⟩ :: more))
include facing

omit [Literal.Reader ρ] in
/-- A point begins a number that may turn out to be none. -/
theorem point_stands {value : Numeral} (dot : fed.symbol = '.')
    (chain : policy.Chain (⟨fed.toLocated, trail⟩ :: more)) :
    Stands policy profile symbols stop tokens splices unread queue
      ((starting state fed).become (.maybeFloat value fed.offset false)) := by
  refine facing.extend rfl rfl rfl ⟨_, [], rfl, rfl⟩ ?_
  exact ⟨[], ⟨fed.toLocated, trail⟩, rfl, by rw [← dot], by simp, chain⟩

omit [Literal.Reader ρ] in
theorem operator_stands {node : NodeId} (sound : profile.Sound)
    (behind : ∀ segment ∈ more, policy.loose segment)
    (ended : profile.operators.hasChildren node = false →
      (profile.operators.kind? node).isSome = true ∧ policy.loose ⟨fed.toLocated, trail⟩) :
    Stands policy profile symbols stop tokens splices unread queue
      (reachOperator profile (starting state fed) node [fed.toLocated] none) := by
  have begun : Segment.Begin (starting state fed).tokenStart
      ([] ++ [(⟨fed.toLocated, trail⟩ : Segment)]) := ⟨_, [], rfl, rfl⟩
  have rests : Rests policy profile
      (.operator ⟨node, ([] ++ [(⟨fed.toLocated, trail⟩ : Segment)]).map Segment.symbol, none⟩)
      ([] ++ [⟨fed.toLocated, trail⟩]) more := by
    refine ⟨rfl, ?_, behind, by simp [Walk.kept]⟩
    simpa [Walk.kept] using Policy.chain_of_loose behind
  have loose : profile.operators.hasChildren node = false → ∀ front last,
      [] ++ [(⟨fed.toLocated, trail⟩ : Segment)] = front ++ [last] → policy.loose last := by
    intro childless front last cut
    obtain ⟨_, rfl⟩ := List.append_inj' cut rfl |>.imp_right List.singleton_inj.mp
    exact (ended childless).2
  have stands := reachOperator_stands sound facing.shift begun
    (fun childless => (ended childless).1) rests loose
  simpa only [List.nil_append, List.map_cons, List.map_nil] using stands

/-- A loose segment may go wherever the rules want. -/
theorem dispatch_loose_stands (sound : profile.Sound) (idle : state.mode = .idle)
    (loose : ∀ segment ∈ (⟨fed.toLocated, trail⟩ : Segment) :: more, policy.loose segment) :
    Stands policy profile symbols stop tokens splices unread queue
      (dispatch profile state fed) := by
  have behind : ∀ segment ∈ more, policy.loose segment :=
    fun segment member => loose segment (by simp [member])
  have sameMode : (starting state fed).mode = .idle := idle
  have begun : Segment.Begin fed.offset ([] ++ [(⟨fed.toLocated, trail⟩ : Segment)]) :=
    ⟨_, [], rfl, rfl⟩
  have answer := dispatched profile state fed
  generalize dispatch profile state fed = reaction at answer ⊢
  cases answer with
  | continuation _ =>
      exact awaitLineEnd_stands .idle facing (by simp [Resume.mode])
        ⟨rfl, Policy.chain_of_loose loose⟩
  | blank => exact facing.extend rfl rfl rfl begun behind
  | number digit => exact facing.extend rfl rfl rfl begun behind
  | identifier => exact facing.extend rfl rfl rfl begun behind
  | numberPrefix edge => exact facing.extend rfl rfl rfl begun ⟨rfl, loose⟩
  | point dot _ => exact point_stands facing dot (Policy.chain_of_loose loose)
  | @single kind known =>
      have named : kind ≠ .fin := by
        rcases known with rfl | rfl | rfl | ⟨node, found⟩
        · decide
        · decide
        · decide
        · exact Kind.ne_of_category (sound.bracketKinds node kind found) (by decide)
      exact facing.closing_with (closing_emit sameMode named fed.span _) begun rfl loose
  | reject => exact facing.closing_with (closing_reject _ fed.span _) begun rfl loose
  | @literal node edge _ =>
      have start : Segment.Begin (starting state fed).tokenStart
          ([] ++ [(⟨fed.toLocated, trail⟩ : Segment)]) := begun
      have stands := reachLiteral_stands node none sound facing.shift start loose
      simpa only [List.nil_append, List.map_cons, List.map_nil] using stands
  | operator edge =>
      refine operator_stands facing sound behind fun childless => ?_
      exact ⟨sound.operators.ended_of_edge edge childless, loose _ (by simp)⟩

theorem dispatch_stands (setting : Setting policy profile symbols) (idle : state.mode = .idle)
    (classes : state.ownClasses = none)
    (chain : policy.Chain (⟨fed.toLocated, trail⟩ :: more)) :
    Stands policy profile symbols stop tokens splices unread queue
      (dispatch profile state fed) := by
  rcases chain.1 with loose | pointed
  · refine dispatch_loose_stands facing setting.sound idle ?_
    intro segment member
    rcases List.mem_cons.mp member with rfl | inside
    · exact loose
    · exact chain.2 segment inside
  · rcases setting.points state fed trail classes pointed with ⟨dot, answer⟩ | ⟨node, inner, answer⟩
    · rw [answer]
      exact point_stands facing dot chain
    · rw [answer]
      exact operator_stands facing setting.sound chain.2 (by simp [inner])

end Dispatch

end Scan

end Lexing
