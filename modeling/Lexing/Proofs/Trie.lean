import Lexing.Trie

/-!
# Sound tries

Whatever sequences are inserted, accepted or refused, a trie stays a tree: an edge
leads to a node of a higher number that is one symbol deeper, and a node that no
edge leaves is the end of a sequence.  So every walk that can begin can also be
completed.  The last part says what a walk knows about the sequences that it has
passed.
-/

namespace Lexing.Trie

variable {trie : Trie} {parent node child : Nat} {symbol : Char}

/-! ## Walks -/

@[simp]
theorem walkFrom_append (trie : Trie) (node : NodeId) (first second : List Char) :
    trie.walkFrom node (first ++ second) =
      (trie.walkFrom node first).bind fun reached => trie.walkFrom reached second := by
  induction first generalizing node with
  | nil => rfl
  | cons symbol rest ih =>
      simp only [List.cons_append, walkFrom]
      cases trie.advance node symbol with
      | none => rfl
      | some next => exact ih next

theorem walkFrom_singleton (trie : Trie) (node : NodeId) (symbol : Char) :
    trie.walkFrom node [symbol] = trie.advance node symbol := by
  simp only [walkFrom]
  cases trie.advance node symbol <;> rfl

theorem find?_snoc {sequence : List Char} (found : trie.find? sequence = some node)
    (edge : trie.advance node symbol = some child) :
    trie.find? (sequence ++ [symbol]) = some child := by
  unfold find? at found ⊢
  rw [walkFrom_append, found, Option.bind_some, walkFrom_singleton, edge]

theorem exists_edge_of_find? {sequence : List Char} (found : trie.find? sequence = some node)
    (nonempty : sequence ≠ []) :
    ∃ before last parent, sequence = before ++ [last] ∧ trie.find? before = some parent ∧
      trie.advance parent last = some node := by
  rw [← List.dropLast_concat_getLast nonempty, find?, walkFrom_append] at found
  obtain ⟨parent, walked, edge⟩ := Option.bind_eq_some_iff.mp found
  rw [walkFrom_singleton] at edge
  exact ⟨_, _, parent, (List.dropLast_concat_getLast nonempty).symm, walked, edge⟩

/-- What holds of all listed edges holds of every edge that a walk can take. -/
theorem holds_of_advance {property : NodeId → Char → NodeId → Prop}
    (table : ∀ parent < trie.nodes.size,
      ∀ edge ∈ (trie.nodes[parent]?.map Node.children).getD [], property parent edge.1 edge.2)
    (edge : trie.advance parent symbol = some child) : property parent symbol child := by
  obtain ⟨found, present, looked⟩ := Option.bind_eq_some_iff.mp edge
  obtain ⟨before, after, cut, _⟩ := List.lookup_eq_some_iff.mp looked
  have bound := (Array.getElem?_eq_some_iff.mp present).1
  exact table parent bound (symbol, child) (by simp [present, cut])

theorem hasChildren_iff :
    trie.hasChildren node = true ↔ ∃ symbol child, trie.advance node symbol = some child := by
  unfold hasChildren advance
  cases trie.nodes[node]? with
  | none => simp
  | some found =>
      cases children : found.children with
      | nil => simp [children]
      | cons edge rest =>
          obtain ⟨symbol, child⟩ := edge
          simp only [Option.any_some, children, List.isEmpty_cons, Bool.not_false, true_iff]
          exact ⟨symbol, child, by simp [children]⟩

/-! ## Soundness -/

/-- The edges of a tree whose nodes are numbered away from the root. -/
structure Linked (trie : Trie) : Prop where
  size_pos : 0 < trie.nodes.size
  depth_root : trie.depth root = 0
  edge : ∀ {parent child : Nat} {symbol : Char}, trie.advance parent symbol = some child →
    parent < child ∧ child < trie.nodes.size ∧ trie.depth child = trie.depth parent + 1

/-- Every node but the root and `unfinished` that no edge leaves is the end of a
sequence. -/
def EndedBut (trie : Trie) (unfinished : Nat) : Prop :=
  ∀ node, 0 < node → node < trie.nodes.size → node ≠ unfinished →
    trie.hasChildren node = false → (trie.kind? node).isSome

/-- A tree in which every path leads to the end of a sequence. -/
structure Sound (trie : Trie) : Prop extends Linked trie where
  ended : ∀ node, 0 < node → node < trie.nodes.size →
    trie.hasChildren node = false → (trie.kind? node).isSome

/-- An edge to a node that no edge leaves completes a sequence. -/
theorem Sound.ended_of_edge (sound : trie.Sound) {child : Nat}
    (edge : trie.advance node symbol = some child) (childless : trie.hasChildren child = false) :
    (trie.kind? child).isSome := by
  obtain ⟨above, bound, _⟩ := sound.edge edge
  exact sound.ended child (Nat.zero_lt_of_lt above) bound childless

theorem Sound.endedBut (sound : trie.Sound) (unfinished : Nat) : trie.EndedBut unfinished :=
  fun node positive bound _ childless => sound.ended node positive bound childless

@[simp]
theorem kind?_empty (node : Nat) : empty.kind? node = none := by
  cases node with
  | zero => rfl
  | succ node => simp [kind?, empty]

@[simp]
theorem binding?_empty (node : Nat) : empty.binding? node = none := by
  cases node with
  | zero => rfl
  | succ node => simp [binding?, empty]

theorem empty_sound : empty.Sound where
  size_pos := by decide
  depth_root := rfl
  edge := by
    intro parent child symbol edge
    have : empty.hasChildren parent = true := hasChildren_iff.mpr ⟨symbol, child, edge⟩
    cases parent with
    | zero => simp [hasChildren, empty] at this
    | succ parent => simp [hasChildren, empty] at this
  ended := by
    intro node positive bound
    simp only [empty, List.size_toArray, List.length_singleton] at bound
    omega

theorem Linked.find?_bound (linked : trie.Linked) {sequence : List Char}
    (found : trie.find? sequence = some node) :
    node < trie.nodes.size ∧ trie.depth node = sequence.length := by
  suffices general : ∀ (sequence : List Char) (start : Nat), start < trie.nodes.size →
      trie.walkFrom start sequence = some node →
      node < trie.nodes.size ∧ trie.depth node = trie.depth start + sequence.length by
    have reached := general sequence root linked.size_pos found
    rw [linked.depth_root, Nat.zero_add] at reached
    exact reached
  intro sequence
  induction sequence with
  | nil =>
      intro start bound walked
      obtain rfl : start = node := by simpa [walkFrom] using walked
      exact ⟨bound, rfl⟩
  | cons symbol rest ih =>
      intro start bound walked
      simp only [walkFrom] at walked
      cases edge : trie.advance start symbol with
      | none => simp [edge] at walked
      | some next =>
          rw [edge] at walked
          obtain ⟨_, nextBound, nextDepth⟩ := linked.edge edge
          obtain ⟨nodeBound, nodeDepth⟩ := ih next nextBound walked
          refine ⟨nodeBound, ?_⟩
          rw [nodeDepth, nextDepth, List.length_cons]
          omega

theorem Linked.pos_of_find? (linked : trie.Linked) {sequence : List Char}
    (found : trie.find? sequence = some node) (nonempty : sequence ≠ []) : 0 < node := by
  have depth := (linked.find?_bound found).2
  have length := List.length_pos_iff.mpr nonempty
  apply Nat.pos_of_ne_zero
  intro atRoot
  rw [atRoot, ← root, linked.depth_root] at depth
  omega

/-- From every node but the root some sequence can be completed. -/
theorem Sound.exists_end (sound : trie.Sound) (positive : 0 < node)
    (bound : node < trie.nodes.size) :
    ∃ rest last, trie.walkFrom node rest = some last ∧ (trie.kind? last).isSome := by
  -- Edges lead to higher numbers, so the distance to the number of nodes shrinks.
  induction gap : trie.nodes.size - node using Nat.strongRecOn generalizing node with
  | ind gap ih =>
      cases children : trie.hasChildren node with
      | false => exact ⟨[], node, rfl, sound.ended node positive bound children⟩
      | true =>
          obtain ⟨symbol, child, edge⟩ := hasChildren_iff.mp children
          obtain ⟨above, childBound, _⟩ := sound.edge edge
          obtain ⟨rest, last, walked, ended⟩ :=
            ih (trie.nodes.size - child) (by omega) (Nat.lt_trans positive above) childBound rfl
          exact ⟨symbol :: rest, last, by simp [walkFrom, edge, walked], ended⟩

/-- A symbol leaves the root exactly when a registered sequence starts with it. -/
theorem Sound.advance_root_eq_none_iff (sound : trie.Sound) (symbol : Char) :
    trie.advance root symbol = none ↔
      ∀ sequence, (trie.lookup? sequence).isSome → sequence.head? ≠ some symbol := by
  constructor
  · intro stuck sequence registered starts
    cases sequence with
    | nil => simp at starts
    | cons first rest =>
        obtain rfl : first = symbol := by simpa using starts
        simp [lookup?, find?, walkFrom, stuck] at registered
  · intro excluded
    cases edge : trie.advance root symbol with
    | none => rfl
    | some child =>
        obtain ⟨positive, bound, _⟩ := sound.edge edge
        obtain ⟨rest, last, walked, ended⟩ := sound.exists_end positive bound
        refine absurd rfl (excluded (symbol :: rest) ?_)
        simpa [lookup?, find?, walkFrom, edge, walked] using ended

/-! ## Insertion -/

section NewChild

variable (missing : trie.advance parent symbol = none)
include missing

theorem nodes_descend (index : Nat) :
    (trie.descend parent symbol).2.nodes[index]? =
      if index = trie.nodes.size then
        some { symbol, parent := some parent, depth := trie.depth parent + 1 }
      else if parent = index then
        trie.nodes[index]?.map fun found =>
          { found with children := (symbol, trie.nodes.size) :: found.children }
      else trie.nodes[index]? := by
  simp only [descend, missing, Array.getElem?_push, Array.size_modify, Array.getElem?_modify]

theorem kind?_descend (node : Nat) :
    (trie.descend parent symbol).2.kind? node = trie.kind? node := by
  simp only [kind?, nodes_descend missing]
  split
  · subst node; simp
  · split
    · cases trie.nodes[node]? <;> rfl
    · rfl

theorem binding?_descend (node : Nat) :
    (trie.descend parent symbol).2.binding? node = trie.binding? node := by
  simp only [binding?, nodes_descend missing]
  split
  · subst node; simp
  · split
    · cases trie.nodes[node]? <;> rfl
    · rfl

theorem depth_descend {node : Nat} (old : node < trie.nodes.size) :
    (trie.descend parent symbol).2.depth node = trie.depth node := by
  simp only [depth, nodes_descend missing, Nat.ne_of_lt old, ↓reduceIte]
  split
  · cases trie.nodes[node]? <;> rfl
  · rfl

/-- The only new edge leads to the new child. -/
theorem advance_descend {source target : Nat} {other : Char}
    (edge : (trie.descend parent symbol).2.advance source other = some target) :
    (source = parent ∧ target = trie.nodes.size) ∨ trie.advance source other = some target := by
  simp only [advance, nodes_descend missing] at edge ⊢
  split at edge
  · simp at edge
  · split at edge
    · subst source
      cases found : trie.nodes[parent]? with
      | none => simp [found] at edge
      | some node =>
          simp only [found, Option.map_some, Option.bind_some, List.lookup_cons] at edge ⊢
          split at edge
          · exact Or.inl ⟨trivial, by simpa using edge.symm⟩
          · exact Or.inr edge
    · exact Or.inr edge

/-- The parent has a child, and no other node lost or gained one. -/
theorem hasChildren_descend {node : Nat} (old : node < trie.nodes.size)
    (childless : (trie.descend parent symbol).2.hasChildren node = false) :
    node ≠ parent ∧ trie.hasChildren node = false := by
  simp only [hasChildren, nodes_descend missing, Nat.ne_of_lt old, ↓reduceIte] at childless ⊢
  split at childless
  · subst node
    simp [Array.getElem?_eq_getElem old] at childless
  · exact ⟨Ne.symm ‹_›, childless⟩

theorem size_descend : (trie.descend parent symbol).2.nodes.size = trie.nodes.size + 1 := by
  simp [descend, missing]

theorem linked_descend (linked : trie.Linked) (bound : parent < trie.nodes.size) :
    (trie.descend parent symbol).2.Linked := by
  have size := size_descend missing
  have newDepth : (trie.descend parent symbol).2.depth trie.nodes.size =
      trie.depth parent + 1 := by
    simp [depth, nodes_descend missing]
  refine ⟨by omega, ?_, ?_⟩
  · exact (depth_descend missing linked.size_pos).trans linked.depth_root
  · intro source target other advanced
    rcases advance_descend missing advanced with ⟨rfl, rfl⟩ | old
    · exact ⟨bound, by omega, by rw [newDepth, depth_descend missing bound]⟩
    · obtain ⟨above, targetBound, targetDepth⟩ := linked.edge old
      refine ⟨above, by omega, ?_⟩
      rw [depth_descend missing targetBound, depth_descend missing (by omega), targetDepth]

end NewChild

/-- What changes when a trie grows by the path of a sequence that ends in `last`:
new nodes carry neither a kind nor a reader. -/
structure Grows (trie grown : Trie) (last : Nat) : Prop where
  linked : grown.Linked
  bound : last < grown.nodes.size
  endedBut : grown.EndedBut last
  kind?_eq : ∀ node, grown.kind? node = trie.kind? node
  binding?_eq : ∀ node, grown.binding? node = trie.binding? node

/-- Going down to a child, an old or a new one. -/
theorem grows_descend (linked : trie.Linked) (bound : parent < trie.nodes.size)
    (endedBut : trie.EndedBut parent) (symbol : Char) :
    Grows trie (trie.descend parent symbol).2 (trie.descend parent symbol).1 ∧
      parent < (trie.descend parent symbol).1 := by
  cases edge : trie.advance parent symbol with
  | some child =>
      have same : trie.descend parent symbol = (child, trie) := by simp [descend, edge]
      obtain ⟨above, childBound, _⟩ := linked.edge edge
      rw [same]
      refine ⟨⟨linked, childBound, ?_, fun _ => rfl, fun _ => rfl⟩, above⟩
      intro node positive nodeBound _ childless
      refine endedBut node positive nodeBound ?_ childless
      rintro rfl
      rw [hasChildren_iff.mpr ⟨symbol, child, edge⟩] at childless
      exact absurd childless (by simp)
  | none =>
      have child : (trie.descend parent symbol).1 = trie.nodes.size := by simp [descend, edge]
      have size := size_descend edge
      rw [child]
      refine ⟨⟨linked_descend edge linked bound, by omega, ?_, kind?_descend edge,
        binding?_descend edge⟩, bound⟩
      intro node positive nodeBound different childless
      have old : node < trie.nodes.size := by omega
      obtain ⟨notParent, oldChildless⟩ := hasChildren_descend edge old childless
      rw [kind?_descend edge]
      exact endedBut node positive old notParent oldChildless

theorem grows_descendAll (sequence : List Char) (linked : trie.Linked)
    (bound : node < trie.nodes.size) (endedBut : trie.EndedBut node) :
    Grows trie (trie.descendAll node sequence).2 (trie.descendAll node sequence).1 ∧
      (sequence ≠ [] → node < (trie.descendAll node sequence).1) := by
  induction sequence generalizing trie node with
  | nil => exact ⟨⟨linked, bound, endedBut, fun _ => rfl, fun _ => rfl⟩, by simp⟩
  | cons symbol rest ih =>
      obtain ⟨first, above⟩ := grows_descend linked bound endedBut symbol
      obtain ⟨second, further⟩ := ih first.linked first.bound first.endedBut
      have unfolded : trie.descendAll node (symbol :: rest) =
          (trie.descend node symbol).2.descendAll (trie.descend node symbol).1 rest := rfl
      rw [unfolded]
      refine ⟨⟨second.linked, second.bound, second.endedBut, fun other => ?_, fun other => ?_⟩, ?_⟩
      · rw [second.kind?_eq, first.kind?_eq]
      · rw [second.binding?_eq, first.binding?_eq]
      · intro _
        cases rest with
        | nil => exact above
        | cons next others => exact Nat.lt_trans above (further (by simp))

/-- A change of one node that leaves its edges and its depth. -/
structure Relabels (change : Node → Node) : Prop where
  children : ∀ found, (change found).children = found.children
  depth : ∀ found, (change found).depth = found.depth

theorem Relabels.advance {change : Node → Node} (relabels : Relabels change) (trie : Trie)
    (node other : Nat) (symbol : Char) :
    (trie.modifyNode node change).advance other symbol = trie.advance other symbol := by
  simp only [Trie.advance, modifyNode, Array.getElem?_modify]
  split
  · cases trie.nodes[other]? <;> simp [relabels.children]
  · rfl

theorem Relabels.depth_eq {change : Node → Node} (relabels : Relabels change) (trie : Trie)
    (node other : Nat) : (trie.modifyNode node change).depth other = trie.depth other := by
  simp only [Trie.depth, modifyNode, Array.getElem?_modify]
  split
  · cases trie.nodes[other]? <;> simp [relabels.depth]
  · rfl

theorem Relabels.hasChildren {change : Node → Node} (relabels : Relabels change) (trie : Trie)
    (node other : Nat) :
    (trie.modifyNode node change).hasChildren other = trie.hasChildren other := by
  simp only [Trie.hasChildren, modifyNode, Array.getElem?_modify]
  split
  · cases trie.nodes[other]? <;> simp [relabels.children]
  · rfl

theorem Relabels.linked {change : Node → Node} (relabels : Relabels change)
    (linked : trie.Linked) (node : Nat) : (trie.modifyNode node change).Linked where
  size_pos := by simpa [modifyNode] using linked.size_pos
  depth_root := by rw [relabels.depth_eq, linked.depth_root]
  edge := by
    intro parent child symbol edge
    rw [relabels.advance] at edge
    rw [relabels.depth_eq, relabels.depth_eq]
    simpa [modifyNode] using linked.edge edge

def setKind (trie : Trie) (node : NodeId) (kind : Kind) : Trie :=
  trie.modifyNode node fun found => { found with kind := some kind }

def setBinding (trie : Trie) (node : NodeId) (reader : Nat) : Trie :=
  trie.modifyNode node fun found => { found with binding := some reader }

theorem kind?_setKind (trie : Trie) (node other : Nat) (kind : Kind) :
    (trie.setKind node kind).kind? other =
      if node = other ∧ other < trie.nodes.size then some kind else trie.kind? other := by
  simp only [kind?, setKind, modifyNode, Array.getElem?_modify]
  by_cases same : node = other
  · by_cases bound : other < trie.nodes.size
    · simp [same, bound]
    · simp [same, bound]
  · simp [same]

@[simp]
theorem binding?_setKind (trie : Trie) (node other : Nat) (kind : Kind) :
    (trie.setKind node kind).binding? other = trie.binding? other := by
  simp only [binding?, setKind, modifyNode, Array.getElem?_modify]
  split
  · cases trie.nodes[other]? <;> rfl
  · rfl

@[simp]
theorem kind?_setBinding (trie : Trie) (node other : Nat) (reader : Nat) :
    (trie.setBinding node reader).kind? other = trie.kind? other := by
  simp only [kind?, setBinding, modifyNode, Array.getElem?_modify]
  split
  · cases trie.nodes[other]? <;> rfl
  · rfl

theorem binding?_setBinding (trie : Trie) (node other : Nat) (reader : Nat) :
    (trie.setBinding node reader).binding? other =
      if node = other ∧ other < trie.nodes.size then some reader else trie.binding? other := by
  simp only [binding?, setBinding, modifyNode, Array.getElem?_modify]
  by_cases same : node = other
  · by_cases bound : other < trie.nodes.size
    · simp [same, bound]
    · simp [same, bound]
  · simp [same]

/-- The path of a sequence becomes sound when the sequence is ended. -/
theorem Grows.sound_setKind {grown : Trie} {last : Nat} (grows : Grows trie grown last)
    (kind : Kind) : (grown.setKind last kind).Sound := by
  have relabels : Relabels fun found : Node => { found with kind := some kind } :=
    ⟨fun _ => rfl, fun _ => rfl⟩
  refine ⟨relabels.linked grows.linked last, ?_⟩
  intro node positive bound childless
  have inside : node < grown.nodes.size := by simpa [setKind, modifyNode] using bound
  rw [kind?_setKind]
  split
  case isTrue => rfl
  case isFalse others =>
    have different : node ≠ last := by
      rintro rfl
      exact others ⟨rfl, inside⟩
    refine grows.endedBut node positive inside different ?_
    exact (relabels.hasChildren grown last node).symm.trans childless

/-- The path of a sequence is sound when the sequence had been ended before. -/
theorem Grows.sound {grown : Trie} {last : Nat} (grows : Grows trie grown last)
    (ended : (grown.kind? last).isSome) : grown.Sound := by
  refine ⟨grows.linked, ?_⟩
  intro node positive bound childless
  by_cases same : node = last
  · rw [same]
    exact ended
  · exact grows.endedBut node positive bound same childless

theorem Sound.setBinding (sound : trie.Sound) (node reader : Nat) :
    (trie.setBinding node reader).Sound := by
  have relabels : Relabels fun found : Node => { found with binding := some reader } :=
    ⟨fun _ => rfl, fun _ => rfl⟩
  refine ⟨relabels.linked sound.toLinked node, ?_⟩
  intro other positive bound childless
  rw [kind?_setBinding]
  refine sound.ended other positive (by simpa [Trie.setBinding, modifyNode] using bound) ?_
  exact (relabels.hasChildren trie node other).symm.trans childless

/-- The answer of an insertion and the trie that it leaves behind. -/
inductive Inserted (trie : Trie) (kind : Kind) (binding : Option Nat) :
    Except InsertError NodeId × Trie → Prop
  | empty : Inserted trie kind binding (.error .emptySequence, trie)
  | otherKind {error grown last} : Grows trie grown last → (grown.kind? last).isSome →
      Inserted trie kind binding (.error error, grown)
  | otherReader {error grown last} : Grows trie grown last → binding ≠ none →
      (grown.binding? last).isSome →
      Inserted trie kind binding (.error error, grown.setKind last kind)
  | plain {grown last} : Grows trie grown last → binding = none →
      Inserted trie kind binding (.ok last, grown.setKind last kind)
  | bound {grown last reader} : Grows trie grown last → binding = some reader →
      Inserted trie kind binding (.ok last, (grown.setKind last kind).setBinding last reader)

theorem inserted (sound : trie.Sound) (sequence : String) (kind : Kind) (binding : Option Nat) :
    Inserted trie kind binding (trie.insert sequence kind binding) := by
  unfold insert
  split
  · exact .empty
  · have rootBound : root < trie.nodes.size := sound.size_pos
    have grows := (grows_descendAll sequence.toList sound.toLinked rootBound
      (sound.endedBut root)).1
    dsimp only
    split
    next _ existing conflict =>
      exact .otherKind grows (by simp [(Option.filter_eq_some_iff.mp conflict).1])
    next =>
      cases binding with
      | none => exact .plain grows rfl
      | some reader =>
        dsimp only
        split
        next _ existing conflict =>
          refine .otherReader grows (by simp) ?_
          have found := (Option.filter_eq_some_iff.mp conflict).1
          rw [← setKind, binding?_setKind] at found
          simp [found]
        · exact .bound grows rfl

/-- Insertions keep tries sound. -/
theorem Sound.insert (sound : trie.Sound) (sequence : String) (kind : Kind)
    (binding : Option Nat) : (trie.insert sequence kind binding).2.Sound := by
  have answer := inserted sound sequence kind binding
  generalize trie.insert sequence kind binding = after at answer ⊢
  cases answer with
  | empty => exact sound
  | otherKind grows ended => exact grows.sound ended
  | otherReader grows _ _ => exact grows.sound_setKind kind
  | plain grows _ => exact grows.sound_setKind kind
  | bound grows _ => exact (grows.sound_setKind kind).setBinding _ _

/-- Every kind of a trie after an insertion was there before or is the new one. -/
theorem kind?_insert (sound : trie.Sound) {sequence : String} {kind found : Kind}
    {binding : Option Nat} {node : Nat}
    (present : (trie.insert sequence kind binding).2.kind? node = some found) :
    trie.kind? node = some found ∨ found = kind := by
  have answer := inserted sound sequence kind binding
  generalize trie.insert sequence kind binding = after at answer present
  have ended : ∀ {grown last}, Grows trie grown last →
      (grown.setKind last kind).kind? node = some found →
      trie.kind? node = some found ∨ found = kind := by
    intro grown last grows present
    rw [kind?_setKind, grows.kind?_eq] at present
    split at present
    · exact Or.inr (by simpa using present.symm)
    · exact Or.inl present
  cases answer with
  | empty => exact Or.inl present
  | otherKind grows _ => exact Or.inl ((grows.kind?_eq node).symm.trans present)
  | otherReader grows _ _ => exact ended grows present
  | plain grows _ => exact ended grows present
  | bound grows _ => exact ended grows (by simpa only [kind?_setBinding] using present)

theorem kind?_insert_of_error (sound : trie.Sound) {sequence : String} {kind : Kind}
    {error : InsertError} (refused : (trie.insert sequence kind none).1 = .error error)
    (node : Nat) : (trie.insert sequence kind none).2.kind? node = trie.kind? node := by
  have answer := inserted sound sequence kind none
  generalize trie.insert sequence kind none = after at answer refused ⊢
  cases answer with
  | empty => rfl
  | otherKind grows _ => exact grows.kind?_eq node
  | otherReader _ given _ => exact absurd rfl given
  | plain _ _ => simp at refused
  | bound _ _ => simp at refused

/-- Every sequence of the trie is bound to a reader, and all readers are below
`limit`. -/
structure Bound (trie : Trie) (limit : Nat) : Prop where
  isSome : ∀ node, (trie.kind? node).isSome → (trie.binding? node).isSome
  below : ∀ node reader, trie.binding? node = some reader → reader < limit

theorem Bound.mono {limit larger : Nat} (bound : trie.Bound limit) (le : limit ≤ larger) :
    trie.Bound larger where
  isSome := bound.isSome
  below node reader binding := Nat.lt_of_lt_of_le (bound.below node reader binding) le

/-- A sequence that is inserted with a registered reader is bound to one. -/
theorem Bound.insert {limit reader : Nat} (bound : trie.Bound limit) (sound : trie.Sound)
    (registered : reader < limit) (sequence : String) (kind : Kind) :
    (trie.insert sequence kind (some reader)).2.Bound limit := by
  have answer := inserted sound sequence kind (some reader)
  generalize trie.insert sequence kind (some reader) = after at answer ⊢
  cases answer with
  | empty => exact bound
  | otherKind grows _ =>
      refine ⟨fun node ended => ?_, fun node number binding => ?_⟩
      · rw [grows.kind?_eq] at ended
        rw [grows.binding?_eq]
        exact bound.isSome node ended
      · rw [grows.binding?_eq] at binding
        exact bound.below node number binding
  | otherReader grows _ kept =>
      refine ⟨fun node ended => ?_, fun node number binding => ?_⟩
      · rw [kind?_setKind] at ended
        rw [binding?_setKind]
        split at ended
        case isTrue same =>
          rw [← same.1]
          exact kept
        case isFalse =>
          rw [grows.kind?_eq] at ended
          rw [grows.binding?_eq]
          exact bound.isSome node ended
      · rw [binding?_setKind, grows.binding?_eq] at binding
        exact bound.below node number binding
  | plain _ given => simp at given
  | @bound grown last other grows given =>
      obtain rfl : reader = other := by simpa using given
      refine ⟨fun node ended => ?_, fun node number binding => ?_⟩
      · rw [kind?_setBinding, kind?_setKind] at ended
        rw [binding?_setBinding]
        by_cases same : last = node ∧ node < grown.nodes.size
        · simp [setKind, modifyNode, same]
        · have other : ¬(last = node ∧ node < (grown.setKind last kind).nodes.size) := by
            simpa [setKind, modifyNode] using same
          rw [if_neg same, grows.kind?_eq] at ended
          rw [if_neg other, binding?_setKind, grows.binding?_eq]
          exact bound.isSome node ended
      · rw [binding?_setBinding, binding?_setKind, grows.binding?_eq] at binding
        split at binding
        · obtain rfl : reader = number := by simpa using binding
          exact registered
        · exact bound.below node number binding

/-! ## The sequences that a walk has passed -/

/-- No sequence ends on the way along `symbols` after more than `count` of them. -/
def BareAfter (trie : Trie) (symbols : List Char) (count : Nat) : Prop :=
  ∀ longer node, count < longer → longer ≤ symbols.length →
    trie.find? (symbols.take longer) = some node → trie.kind? node = none

/-- The deepest node with a kind on the way along `symbols`, with its depth. -/
def Deepest (trie : Trie) (symbols : List Char) : Option (NodeId × Nat) → Prop
  | none => trie.BareAfter symbols 0
  | some (node, count) =>
      0 < count ∧ count ≤ symbols.length ∧ trie.find? (symbols.take count) = some node ∧
        trie.depth node = count ∧ (trie.kind? node).isSome ∧ trie.BareAfter symbols count

theorem BareAfter.snoc {symbols : List Char} {count : Nat} (bare : trie.BareAfter symbols count)
    (found : trie.find? (symbols ++ [symbol]) = some node) (unended : trie.kind? node = none) :
    trie.BareAfter (symbols ++ [symbol]) count := by
  intro longer other above below walked
  by_cases whole : longer = (symbols ++ [symbol]).length
  · rw [whole, List.take_length, found] at walked
    obtain rfl : node = other := by simpa using walked
    exact unended
  · rw [List.length_append, List.length_singleton] at below whole
    rw [List.take_append_of_le_length (by omega)] at walked
    exact bare longer other above (by omega) walked

/-- One more symbol, after which no sequence ends. -/
theorem Deepest.snoc_bare {symbols : List Char} {terminal : Option (NodeId × Nat)}
    (deepest : trie.Deepest symbols terminal)
    (found : trie.find? (symbols ++ [symbol]) = some node) (unended : trie.kind? node = none) :
    trie.Deepest (symbols ++ [symbol]) terminal := by
  cases terminal with
  | none => exact BareAfter.snoc deepest found unended
  | some passed =>
      obtain ⟨positive, below, walked, depth, ended, bare⟩ := deepest
      refine ⟨positive, ?_, ?_, depth, ended, bare.snoc found unended⟩
      · rw [List.length_append]
        omega
      · rwa [List.take_append_of_le_length below]

theorem Linked.deepest_whole (linked : trie.Linked) {symbols : List Char} (nonempty : symbols ≠ [])
    (found : trie.find? symbols = some node) (ended : (trie.kind? node).isSome) :
    trie.Deepest symbols (some (node, symbols.length)) := by
  refine ⟨List.length_pos_iff.mpr nonempty, Nat.le_refl _, by rwa [List.take_length],
    (linked.find?_bound found).2, ended, ?_⟩
  intro longer other above below
  omega

theorem deepest_nil (trie : Trie) : trie.Deepest [] none := by
  intro longer node above below
  rw [List.length_nil] at below
  omega

/-- When a sequence ends with the last symbol, it is the deepest one. -/
theorem Deepest.eq_whole {symbols : List Char} {terminal : Option (NodeId × Nat)}
    (deepest : trie.Deepest symbols terminal) (nonempty : symbols ≠ [])
    (found : trie.find? symbols = some node) (ended : (trie.kind? node).isSome) :
    terminal = some (node, symbols.length) := by
  have positive := List.length_pos_iff.mpr nonempty
  have walked : trie.find? (symbols.take symbols.length) = some node := by
    rwa [List.take_length]
  cases terminal with
  | none =>
      rw [deepest symbols.length node positive (Nat.le_refl _) walked] at ended
      simp at ended
  | some passed =>
      obtain ⟨other, count⟩ := passed
      obtain ⟨_, below, walkedOther, _, _, bare⟩ := deepest
      by_cases whole : count = symbols.length
      · rw [whole, walked] at walkedOther
        rw [whole]
        simpa using walkedOther.symm
      · rw [bare symbols.length node (by omega) (Nat.le_refl _) walked] at ended
        simp at ended

end Lexing.Trie
