import Lexing.Proofs.Coverage
import Lexing.Proofs.Termination

/-!
# Languages that leave points open

In some languages only two points lead to an operator that is not complete, because
three points are one and a single point is one.  When such a walk gets stuck after it
has absorbed the end of a line, the second point is given back with what stands
behind it.  It then waits for the next symbol, as the first symbol of a number or of
an operator, so that nothing behind it is lost.  C is such a language.
-/

namespace Lexing

namespace Scan

variable {ρ : Type} {profile : Profile ρ}

/-- An edge to the node of a single point leaves the root, one to a node at which no
operator ends leaves the node of a single point.  Both add a point. -/
def PointEdge (trie : Trie) (point parent : NodeId) (symbol : Char) (child : NodeId) : Prop :=
  (child = point → symbol = '.' ∧ parent = Trie.root) ∧
    (trie.kind? child = none → symbol = '.' ∧ parent = point)

instance (trie : Trie) (point parent : NodeId) (symbol : Char) (child : NodeId) :
    Decidable (PointEdge trie point parent symbol child) :=
  inferInstanceAs (Decidable (_ ∧ _))

/-- Lines are continued by harmless symbols, and an operator that is not complete
consists of two points.  A single point is an operator too, at the given node. -/
structure Dotted (profile : Profile ρ) (point : NodeId) : Prop where
  sound : profile.Sound
  harmless : ∀ symbol, (profile.classes.classify symbol).escape = true → Harmless profile symbol
  traits : profile.classes.classify '.' = { operator := true }
  literals : profile.literals.advance Trie.root '.' = none
  edge : profile.operators.advance Trie.root '.' = some point
  longer : profile.operators.hasChildren point = true
  kind : ∃ kind, profile.operators.kind? point = some kind ∧ kind.isOperator = true
  edges : ∀ {parent symbol child}, profile.operators.advance parent symbol = some child →
    PointEdge profile.operators point parent symbol child

namespace Dotted

variable {point : NodeId}

theorem eq_points (dotted : Dotted profile point) {symbols : List Char} {node : NodeId}
    (nonempty : symbols ≠ []) (found : profile.operators.find? symbols = some node)
    (bare : profile.operators.kind? node = none) : symbols = ['.', '.'] := by
  have linked := dotted.sound.operators.toLinked
  obtain ⟨front, last, parent, rfl, walked, edge⟩ := Trie.exists_edge_of_find? found nonempty
  obtain ⟨rfl, rfl⟩ := (dotted.edges edge).2 bare
  have inner : front ≠ [] := by
    rintro rfl
    have atRoot : Trie.root = parent := Option.some.inj walked
    exact Nat.ne_of_lt (linked.edge dotted.edge).1 atRoot
  obtain ⟨rest, first, start, rfl, walked, edge⟩ := Trie.exists_edge_of_find? walked inner
  obtain ⟨rfl, rfl⟩ := (dotted.edges edge).1 rfl
  cases rest with
  | nil => rfl
  | cons symbol rest => exact absurd (linked.pos_of_find? walked (by simp)) (Nat.lt_irrefl _)

/-- A walk that is not complete has passed a single point. -/
theorem traces (dotted : Dotted profile point) {walk : Walk}
    (traces : walk.Traces profile.operators) (bare : profile.operators.kind? walk.node = none) :
    walk.pending.map Located.symbol = ['.', '.'] ∧ walk.terminal = some (point, 1) := by
  have points := dotted.eq_points (by simpa using traces.nonempty) traces.reaches bare
  refine ⟨points, ?_⟩
  have deepest := traces.deepest
  have whole := traces.reaches
  rw [points] at deepest whole
  obtain ⟨kind, named, _⟩ := dotted.kind
  have single : profile.operators.find? (['.', '.'].take 1) = some point := by
    simp [Trie.find?, Trie.walkFrom_singleton, dotted.edge]
  cases terminal : walk.terminal with
  | none =>
      rw [terminal] at deepest
      have unended := deepest 1 point (by omega) (by simp) single
      simp [named] at unended
  | some passed =>
      obtain ⟨node, count⟩ := passed
      rw [terminal] at deepest
      obtain ⟨positive, below, walked, _, ended, _⟩ := deepest
      have counts : count = 1 ∨ count = 2 := by
        simp only [List.length_cons, List.length_nil] at below
        omega
      rcases counts with rfl | rfl
      · rw [single] at walked
        rw [Option.some.inj walked]
      · rw [List.take_of_length_le (by simp), whole] at walked
        rw [← Option.some.inj walked, bare] at ended
        simp at ended

variable [Literal.Reader ρ]

theorem dispatch_point (dotted : Dotted profile point) {state : ScanState ρ} {fed : Fed}
    (own : state.ownClasses = none) (dot : fed.symbol = '.') :
    dispatch profile state fed = (starting state fed).become
        (.maybeFloat (.ofKind profile.defaultNumber) fed.offset false) ∨
      dispatch profile state fed =
        reachOperator profile (starting state fed) point [fed.toLocated] none := by
  have traits : (starting state fed).classify profile '.' = { operator := true } := by
    simp [ScanState.classify, starting, own, dotted.traits]
  unfold dispatch
  rw [← starting]
  cases exempt : fed.exempt.dotNumber <;>
    simp [continuationRule, beginsContinuation, lineEndRule, blankRule, literalRule, dotRule,
      digitRule, identifierRule, bracketRule, operatorRule, dot, traits, exempt, dotted.edge]

theorem setting (dotted : Dotted profile point) (symbols : List Located) :
    Setting (.tight fun segment => segment.symbol.symbol = '.') profile symbols where
  sound := dotted.sound
  harmless _ _ canContinue := dotted.harmless _ canContinue.2
  absorbs := by
    intro _ _ _ walk front last others queued traces bare rests
    obtain ⟨points, terminal⟩ := dotted.traces traces bare
    obtain ⟨pending, chain, behind, _⟩ := rests
    have symbols : (front ++ [last]).map (fun segment => segment.symbol.symbol) = ['.', '.'] := by
      rw [← points, ← pending, List.map_map]
      rfl
    obtain ⟨first, rfl⟩ : ∃ first, front = [first] := by
      have length := congrArg List.length symbols
      simpa [List.length_eq_one_iff] using length
    have kept : walk.kept = 1 := by simp [Walk.kept, terminal]
    have dot : last.symbol.symbol = '.' := by simpa using congrArg List.getLast? symbols
    have loose : ∀ segment ∈ queued, segment.trail = [] :=
      fun segment member => behind segment (by simp [member])
    refine ⟨by simpa [Segment.absorb] using pending, ?_, loose, ?_⟩
    · rw [kept]
      exact ⟨Or.inr dot, loose⟩
    · rintro ⟨node, count, passed, comment⟩
      obtain ⟨rfl, rfl⟩ : point = node ∧ 1 = count := by simpa [terminal] using passed
      obtain ⟨kind, named, operator⟩ := dotted.kind
      rw [named] at comment
      rcases comment with line | block
      · rw [Option.some.inj line] at operator
        exact absurd operator (by decide)
      · rw [Option.some.inj block] at operator
        exact absurd operator (by decide)
  points := by
    intro state fed trail own dot
    rcases dotted.dispatch_point own dot with number | operator
    · exact Or.inl ⟨dot, number⟩
    · exact Or.inr ⟨point, dotted.longer, operator⟩

theorem tokenize_ne_endless (dotted : Dotted profile point) {state : ScanState ρ}
    (own : state.ownClasses = none) {σ : Type} [Sink σ] (sink : σ) (source : String) :
    (tokenize profile state sink source).result ≠ .error .endless := by
  refine Scan.tokenize_ne_endless dotted.sound dotted.literals ?_ sink source
  intro _ symbol escape
  rw [own] at escape
  exact dotted.harmless symbol escape

end Dotted

end Scan

/-! ## Sources in C -/

namespace CLike

open Scan

theorem symbols_table :
    (∀ code (bound : code < 128), (profile.classes.ascii[code]).escape = true → code = 92) ∧
      profile.classes.nonAscii.escape = false ∧
      profile.classes.classify '.' = { operator := true } ∧
      profile.literals.advance Trie.root '.' = none ∧
      profile.literals.advance Trie.root '\\' = none := by
  decide +kernel

theorem traits_point : profile.classes.classify '.' = { operator := true } :=
  symbols_table.2.2.1

/-- The node of the operator that is a point. -/
def point : NodeId :=
  (profile.operators.advance Trie.root '.').getD Trie.root

theorem operators_table :
    profile.operators.advance Trie.root '.' = some point ∧
      profile.operators.hasChildren point = true ∧
      profile.operators.kind? point = some (.operator 36) ∧
      ∀ parent < profile.operators.nodes.size,
        ∀ edge ∈ (profile.operators.nodes[parent]?.map Trie.Node.children).getD [],
          PointEdge profile.operators point parent edge.1 edge.2 := by
  decide +kernel

theorem eq_backslash_of_escape {symbol : Char}
    (escape : (profile.classes.classify symbol).escape = true) : symbol = '\\' := by
  unfold CharClass.Table.classify at escape
  split at escape
  case isTrue bound =>
    exact Char.toNat_inj.mp (symbols_table.1 symbol.toNat bound escape)
  case isFalse => simp [symbols_table.2.1] at escape

theorem eq_backslash_of_continues (located : Located) (continues : CanContinue profile located) :
    located.symbol = '\\' :=
  eq_backslash_of_escape continues.2

theorem unescaped {text : List Char} (bare : '\\' ∉ text) :
    ∀ symbol ∈ text, (profile.classes.classify symbol).escape = false := by
  intro symbol member
  rw [Bool.eq_false_iff]
  intro escape
  rw [eq_backslash_of_escape escape] at member
  exact bare member

theorem dotted : Dotted profile point where
  sound := profile_made.sound
  harmless := by
    intro symbol escape
    rw [eq_backslash_of_escape escape]
    exact ⟨symbols_table.2.2.2.2, by decide⟩
  traits := traits_point
  literals := symbols_table.2.2.2.1
  edge := operators_table.1
  longer := operators_table.2.1
  kind := ⟨.operator 36, operators_table.2.2.1, by decide⟩
  edges := Trie.holds_of_advance operators_table.2.2.2

end CLike

end Lexing
