import Lexing.Proofs.Bodies

/-!
# What walks cover

Operators and the introductions of literals are read by walks.  A walk that gets stuck
covers the symbols up to its terminal and gives the others back.
-/

namespace Lexing

namespace Scan

variable {ρ : Type} {policy : Policy} {profile : Profile ρ} {symbols unread queue : List Located}
  {stop : Nat} {tokens : List Token} {splices : List Splice} {state : ScanState ρ}
  {done body queued more taken left : List Segment} {head : Segment} {fed : Fed}

/-! ## Operators -/

theorem ends_after
    (facing : Facing policy symbols stop tokens splices unread queue done (taken ++ left) queued)
    {next : Nat}
    (ends : ∀ front last, taken ++ left = front ++ [last] → policy.Ends last next)
    {front : List Segment} {last : Segment} (cut : taken = front ++ [last]) :
    policy.Ends last ((left.head?.map fun segment => segment.symbol.offset).getD next) := by
  cases left with
  | nil => exact ends front last (by simpa using cut)
  | cons segment left => exact facing.ends_inside cut

/-- Closing a walk covers the segments of the operator, or makes them the start of a
comment. -/
theorem closeWalk_stands {node : NodeId} {next : Nat} (sound : profile.Sound)
    (facing : Facing policy symbols stop tokens splices unread queue done (taken ++ left) queued)
    (ended : (profile.operators.kind? node).isSome = true)
    (begun : Segment.Begin state.tokenStart taken)
    (ends : ∀ front last, taken = front ++ [last] → policy.Ends last next)
    (chain : policy.Chain (left ++ queued))
    (comment : profile.operators.kind? node = some .lineComment ∨
      profile.operators.kind? node = some .blockComment →
      ∀ segment ∈ left ++ queued, policy.loose segment) :
    Stands policy profile symbols stop tokens splices unread queue
      ((closeWalk profile state node next).feed
        (left.map fun segment => .plain segment.symbol)) := by
  have again : (left.map fun segment => Fed.plain segment.symbol).map Fed.toLocated =
      left.map Segment.symbol := by
    simp [Function.comp_def, Fed.plain]
  have named : ∀ {kind : Kind}, kind.isOperator = true → kind ≠ .fin := fun operator =>
    Kind.ne_of_category (Kind.category_of_isOperator operator) (by decide)
  have closes : ClosesWalk profile state node next _ := closeWalk_ends sound ended next
  generalize closeWalk profile state node next = reaction at closes ⊢
  cases closes with
  | operator _ operator => exact facing.close rfl (named operator) begun ends again rfl chain
  | demoted present =>
      exact facing.close rfl (named (sound.fallbackOperator present)) begun ends again rfl chain
  | lineComment known =>
      exact facing.keep rfl again rfl (fun _ => begun) (comment (Or.inl known))
  | blockComment known =>
      exact facing.keep rfl again rfl (fun _ => begun) (comment (Or.inr known))

theorem finishOperator_stands {node : NodeId} {count next : Nat} (sound : profile.Sound)
    (facing : Facing policy symbols stop tokens splices unread queue done body queued)
    (ended : (profile.operators.kind? node).isSome = true) (positive : 0 < count)
    (begun : Segment.Begin state.tokenStart body)
    (ends : ∀ front last, body = front ++ [last] → policy.Ends last next)
    (chain : policy.Chain (body.drop count ++ queued))
    (comment : profile.operators.kind? node = some .lineComment ∨
      profile.operators.kind? node = some .blockComment →
      ∀ segment ∈ body.drop count ++ queued, policy.loose segment) :
    Stands policy profile symbols stop tokens splices unread queue
      (finishOperator profile state (body.map Segment.symbol) node count (some next)) := by
  have parts : Facing policy symbols stop tokens splices unread queue done
      (body.take count ++ body.drop count) queued := by rwa [List.take_append_drop]
  have taken : Segment.Begin state.tokenStart (body.take count) := begun.take positive
  have cutEnds : ∀ front last, body.take count = front ++ [last] → policy.Ends last
      (((body.drop count).head?.map fun segment => segment.symbol.offset).getD next) := by
    intro front last cut
    exact ends_after parts (by rwa [List.take_append_drop]) cut
  have stands := closeWalk_stands sound parts ended taken cutEnds chain comment
  unfold finishOperator
  simpa [← List.map_drop, Function.comp_def, List.head?_map] using stands

theorem stuckOperator_stands {walk : Walk} {next : Nat} (sound : profile.Sound)
    (traces : walk.Traces profile.operators)
    (facing : Facing policy symbols stop tokens splices unread queue done body queued)
    (begun : Segment.Begin state.tokenStart body)
    (rests : Rests policy profile (.operator walk) body queued)
    (ends : ∀ front last, body = front ++ [last] → policy.Ends last next) :
    Stands policy profile symbols stop tokens splices unread queue
      (stuckOperator profile state walk next) := by
  obtain ⟨pending, chain, behind, comment⟩ := rests
  have stuck := stuckOperator_stuck profile state walk next
  generalize stuckOperator profile state walk next = reaction at stuck ⊢
  cases stuck with
  | @passed node count terminal =>
      obtain ⟨positive, bound, ended⟩ := traces.terminal_bound terminal
      have kept : walk.kept = count := by simp [Walk.kept, terminal]
      rw [← pending]
      rw [kept] at chain comment
      refine finishOperator_stands sound facing ended positive begun ends chain ?_
      intro opens segment member
      rcases List.mem_append.mp member with inside | outside
      · exact comment ⟨node, count, terminal, opens⟩ segment inside
      · exact behind segment outside
  | rejected terminal whole spanned =>
      have kept : walk.kept = 1 := by simp [Walk.kept, terminal]
      obtain ⟨first, others, rfl, offset⟩ := begun
      rw [← pending, List.map_cons] at whole spanned
      obtain ⟨rfl, rfl⟩ := List.cons_eq_cons.mp whole
      rw [kept, List.drop_succ_cons, List.drop_zero] at chain
      have parts : Facing policy symbols stop tokens splices unread queue done
          ([first] ++ others) queued := facing
      have named : Kind.unexpected ≠ .fin := by decide
      refine parts.close rfl named ⟨first, [], rfl, rfl⟩ ?_ ?_ rfl chain
      · intro front last cut
        have cutEnds := ends_after parts ends cut
        simpa [List.head?_map, Function.comp_def] using cutEnds
      · simp [Function.comp_def, Fed.plain]
  | empty _ nothing => exact absurd nothing traces.nonempty

theorem reachOperator_stands {node : NodeId} {terminal : Option (NodeId × Nat)}
    (sound : profile.Sound)
    (facing : Facing policy symbols stop tokens splices unread queue done body queued)
    (begun : Segment.Begin state.tokenStart body)
    (ended : profile.operators.hasChildren node = false →
      (profile.operators.kind? node).isSome = true)
    (rests : Rests policy profile (.operator ⟨node, body.map Segment.symbol, terminal⟩) body queued)
    (loose : profile.operators.hasChildren node = false →
      ∀ front last, body = front ++ [last] → policy.loose last) :
    Stands policy profile symbols stop tokens splices unread queue
      (reachOperator profile state node (body.map Segment.symbol) terminal) := by
  have parts : Facing policy symbols stop tokens splices unread queue done (body ++ []) queued := by
    simpa using facing
  obtain ⟨_, chain, behind, comment⟩ := rests
  unfold reachOperator
  split
  case isTrue =>
    dsimp only
    refine parts.keep rfl rfl rfl (fun _ => begun) ?_
    split
    · -- All symbols belong to the operator, so none would be given back.
      have whole : body.drop (body.map Segment.symbol).length = [] := by simp
      refine ⟨rfl, ?_, behind, ?_⟩
      · simpa [Walk.kept] using Policy.chain_of_loose behind
      · simp [Walk.kept]
    · exact ⟨rfl, chain, behind, comment⟩
  case isFalse leaf =>
    have childless : profile.operators.hasChildren node = false := by simpa using leaf
    obtain rfl | ⟨front, last, cut⟩ := List.eq_nil_or_concat body
    · exact absurd rfl begun.ne_nil
    rw [List.concat_eq_append] at cut
    have ends : ∀ front final, body = front ++ [final] → policy.Ends final last.symbol.stop := by
      intro other final again
      obtain ⟨_, rfl⟩ :=
        List.append_inj' (again.symm.trans cut) rfl |>.imp_right List.singleton_inj.mp
      exact Or.inl ⟨rfl, loose childless front final cut⟩
    have stands := closeWalk_stands sound parts (ended childless) begun ends
      (Policy.chain_of_loose behind) (fun _ => behind)
    have final : (body.map Segment.symbol).getLast? = some last.symbol := by simp [cut]
    unfold finishOperator
    simp only [List.drop_length, List.take_length, final, List.head?_nil, Option.map_none,
      Option.or_none, Option.map_some, Option.getD_some, Option.getD_none, List.map_nil]
    exact stands

theorem kept_le {walk : Walk} (traces : walk.Traces profile.operators) :
    walk.kept ≤ walk.pending.length := by
  unfold Walk.kept
  cases terminal : walk.terminal with
  | none => exact List.length_pos_iff.mpr traces.nonempty
  | some passed => exact (traces.terminal_bound terminal).2.1

/-- A walk that would give something back is not complete. -/
theorem bare_of_kept_lt {walk : Walk} (traces : walk.Traces profile.operators)
    (fewer : walk.kept < walk.pending.length) : profile.operators.kind? walk.node = none := by
  cases ended : profile.operators.kind? walk.node with
  | none => rfl
  | some kind =>
      have nonempty : walk.pending.map Located.symbol ≠ [] := by simpa using traces.nonempty
      have terminal := traces.deepest.eq_whole nonempty traces.reaches (by simp [ended])
      simp [Walk.kept, terminal] at fewer

theorem rests_advance {walk : Walk} (traces : walk.Traces profile.operators)
    (rests : Rests policy profile (.operator walk) body (head :: more)) (node : NodeId) :
    Rests policy profile
      (.operator ⟨node, (body ++ [head]).map Segment.symbol, walk.terminal⟩) (body ++ [head])
      more := by
  obtain ⟨pending, chain, behind, comment⟩ := rests
  have bound : walk.kept ≤ body.length := by
    have kept := kept_le traces
    rwa [← pending, List.length_map] at kept
  have left : (body ++ [head]).drop walk.kept = body.drop walk.kept ++ [head] :=
    List.drop_append_of_le_length bound
  refine ⟨rfl, ?_, fun segment member => behind segment (by simp [member]), ?_⟩
  · change policy.Chain ((body ++ [head]).drop walk.kept ++ more)
    simpa [left] using chain
  · intro opens segment member
    have inside : segment ∈ body.drop walk.kept ++ [head] := left ▸ member
    rcases List.mem_append.mp inside with old | new
    · exact comment opens segment old
    · rw [List.mem_singleton.mp new]
      exact behind head (List.mem_cons_self ..)

theorem advanceOperator_stands {walk : Walk} {node : NodeId} {trail : List Splice}
    (sound : profile.Sound) (traces : walk.Traces profile.operators)
    (edge : profile.operators.advance walk.node fed.symbol = some node)
    (facing : Facing policy symbols stop tokens splices unread (fed.toLocated :: queue) done body
      (⟨fed.toLocated, trail⟩ :: more))
    (begun : Segment.Begin state.tokenStart body)
    (rests : Rests policy profile (.operator walk) body (⟨fed.toLocated, trail⟩ :: more)) :
    Stands policy profile symbols stop tokens splices unread queue
      (reachOperator profile state node (walk.pending ++ [fed.toLocated]) walk.terminal) := by
  have stands := reachOperator_stands sound facing.shift (begun.append _)
    (fun childless => sound.operators.ended_of_edge edge childless)
    (rests_advance traces rests node) ?_
  · simpa [rests.1] using stands
  · intro _ front last cut
    obtain ⟨_, rfl⟩ := List.append_inj' cut rfl |>.imp_right List.singleton_inj.mp
    exact rests.2.2.1 _ (by simp)

/-! ## Introductions of literals -/

section Introductions

variable [Literal.Reader ρ]

theorem openLiteral_stands {node : NodeId} (sound : profile.Sound)
    (facing : Facing policy symbols stop tokens splices unread queue done (taken ++ left) queued)
    (ended : (profile.literals.kind? node).isSome = true)
    (begun : Segment.Begin state.tokenStart taken)
    (loose : ∀ segment ∈ left ++ queued, policy.loose segment) (introduction : List Located) :
    Stands policy profile symbols stop tokens splices unread queue
      ((openLiteral profile state node introduction).feed
        (left.map fun segment => .plain segment.symbol)) := by
  obtain ⟨number, kind, reader, _, _, _, opened⟩ := openLiteral_eq sound state ended introduction
  rw [opened]
  refine facing.keep rfl ?_ rfl (fun _ => begun) loose
  simp [Function.comp_def, Fed.plain]

theorem reachLiteral_stands (node : NodeId) (terminal : Option (NodeId × Nat))
    (sound : profile.Sound)
    (facing : Facing policy symbols stop tokens splices unread queue done body queued)
    (begun : Segment.Begin state.tokenStart body)
    (loose : ∀ segment ∈ body ++ queued, policy.loose segment) :
    Stands policy profile symbols stop tokens splices unread queue
      (reachLiteral profile state node (body.map Segment.symbol) terminal) := by
  have parts : Facing policy symbols stop tokens splices unread queue done (body ++ []) queued := by
    simpa using facing
  have reached := reachLiteral_reached profile state node (body.map Segment.symbol) terminal
  generalize reachLiteral profile state node (body.map Segment.symbol) terminal = reaction
    at reached ⊢
  cases reached with
  | waits => exact parts.keep rfl rfl rfl (fun _ => begun) ⟨rfl, loose⟩
  | opens ended =>
      have behind : ∀ segment ∈ [] ++ queued, policy.loose segment :=
        fun segment member => loose segment (List.mem_append_right body member)
      simpa [stands_feed] using
        openLiteral_stands sound parts ended begun behind (body.map Segment.symbol)

theorem stuckLiteral_stands {walk : Walk} (sound : profile.Sound)
    (traces : walk.Traces profile.literals)
    (facing : Facing policy symbols stop tokens splices unread queue done body queued)
    (begun : Segment.Begin state.tokenStart body)
    (rests : Rests policy profile (.literalPrefix walk) body queued) :
    Stands policy profile symbols stop tokens splices unread queue
      (stuckLiteral profile state walk) := by
  obtain ⟨pending, loose⟩ := rests
  unfold stuckLiteral
  cases terminal : walk.terminal with
  | none =>
      have parts : Facing policy symbols stop tokens splices unread queue done ([] ++ body)
          queued := facing
      refine parts.keep rfl ?_ rfl (by simp [Mode.resting]) ⟨rfl, Policy.chain_of_loose loose⟩
      dsimp only
      rw [← pending]
      cases body with
      | nil => rfl
      | cons first others => simp [Fed.firstExempt, Function.comp_def, Fed.plain]
  | some passed =>
      obtain ⟨node, count⟩ := passed
      obtain ⟨positive, _, ended⟩ := traces.terminal_bound terminal
      have parts : Facing policy symbols stop tokens splices unread queue done
          (body.take count ++ body.drop count) queued := by rwa [List.take_append_drop]
      have taken : Segment.Begin state.tokenStart (body.take count) := begun.take positive
      have behind : ∀ segment ∈ body.drop count ++ queued, policy.loose segment := by
        intro segment member
        rcases List.mem_append.mp member with inside | outside
        · exact loose segment (List.mem_append_left _ (List.mem_of_mem_drop inside))
        · exact loose segment (List.mem_append_right _ outside)
      have stands :=
        openLiteral_stands sound parts ended taken behind (walk.pending.take count)
      rw [← pending] at stands ⊢
      simpa [← List.map_drop, Function.comp_def] using stands

theorem advanceLiteral_stands {walk : Walk} {trail : List Splice} (node : NodeId)
    (sound : profile.Sound)
    (facing : Facing policy symbols stop tokens splices unread (fed.toLocated :: queue) done body
      (⟨fed.toLocated, trail⟩ :: more))
    (begun : Segment.Begin state.tokenStart body)
    (rests : Rests policy profile (.literalPrefix walk) body (⟨fed.toLocated, trail⟩ :: more)) :
    Stands policy profile symbols stop tokens splices unread queue
      (reachLiteral profile state node (walk.pending ++ [fed.toLocated]) walk.terminal) := by
  obtain ⟨pending, loose⟩ := rests
  have all : ∀ segment ∈ (body ++ [⟨fed.toLocated, trail⟩]) ++ more, policy.loose segment :=
    fun segment member => loose segment (by simpa using member)
  simpa [pending] using
    reachLiteral_stands node walk.terminal sound facing.shift (begun.append _) all

end Introductions

end Scan

end Lexing
