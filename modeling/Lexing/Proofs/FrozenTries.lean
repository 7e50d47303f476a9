import Lexing.Proofs.TrieContents
import Lexing.Trie.Frozen
import Mathlib.Data.List.Nodup

/-!
# Frozen tries answer alike

The edges of a node have different symbols, so the order in which a node hands them out is
lost when they are sorted, and a bisection finds an edge exactly when the node has it.  A
frozen trie therefore answers every question as the trie that it was made of.
-/

namespace Lexing.Trie

variable {trie : Trie} {listing : Listing} {parent node child : Nat} {symbol : Char}

/-! ## Edges with different symbols -/

def Keyed (trie : Trie) : Prop :=
  ∀ (node : Nat) (found : Node), trie.nodes[node]? = some found →
    (found.children.map Prod.fst).Nodup

theorem empty_keyed : empty.Keyed := by
  intro node found present
  cases node with
  | zero =>
      obtain rfl := Option.some.inj present
      exact List.nodup_nil
  | succ node => simp [empty] at present

theorem Keyed.descend (keyed : trie.Keyed) (parent : NodeId) (symbol : Char) :
    (trie.descend parent symbol).2.Keyed := by
  cases missing : trie.advance parent symbol with
  | some child =>
      have same : (trie.descend parent symbol).2 = trie := by simp [Trie.descend, missing]
      rw [same]
      exact keyed
  | none =>
      intro node found present
      rw [nodes_descend missing] at present
      split at present
      · obtain rfl := Option.some.inj present
        exact List.nodup_nil
      · split at present
        case isTrue atParent =>
          subst atParent
          obtain ⟨older, stored, rfl⟩ := Option.map_eq_some_iff.mp present
          have absent : older.children.lookup symbol = none := by
            simpa [Trie.advance, stored] using missing
          apply List.nodup_cons.mpr
          refine ⟨?_, keyed parent older stored⟩
          intro member
          obtain ⟨edge, listed, rfl⟩ := List.mem_map.mp member
          have different := List.lookup_eq_none_iff.mp absent edge listed
          simp at different
        case isFalse => exact keyed node found present

theorem Keyed.descendAll (keyed : trie.Keyed) (node : NodeId) (sequence : List Char) :
    (trie.descendAll node sequence).2.Keyed := by
  induction sequence generalizing trie node with
  | nil => exact keyed
  | cons symbol rest ih => exact ih (keyed.descend node symbol) _

theorem Keyed.modifyNode (keyed : trie.Keyed) {change : Node → Node} (relabels : Relabels change)
    (node : NodeId) : (trie.modifyNode node change).Keyed := by
  intro other found present
  simp only [Trie.modifyNode, Array.getElem?_modify] at present
  split at present
  · obtain ⟨older, stored, rfl⟩ := Option.map_eq_some_iff.mp present
    rw [relabels.children]
    exact keyed other older stored
  · exact keyed other found present

/-- An insertion keeps what the way along the sequence and the labels at its end keep. -/
theorem insert_preserves {property : Trie → Prop} {text : String} (holds : property trie)
    (descends : property (trie.descendAll root text.toList).2)
    (names : ∀ {trie : Trie} (node : NodeId) (kind : Kind), property trie →
      property (trie.setKind node kind))
    (binds : ∀ {trie : Trie} (node : NodeId) (reader : Nat), property trie →
      property (trie.setBinding node reader))
    (kind : Kind) (binding : Option Nat) : property (trie.insert text kind binding).2 := by
  unfold Trie.insert
  split
  · exact holds
  · dsimp only
    split
    · exact descends
    · have named := names (trie.descendAll root text.toList).1 kind descends
      split
      · exact named
      · split
        · exact named
        · exact binds _ _ named

theorem Keyed.insert (keyed : trie.Keyed) (sequence : String) (kind : Kind)
    (binding : Option Nat) : (trie.insert sequence kind binding).2.Keyed :=
  insert_preserves keyed (keyed.descendAll root sequence.toList)
    (fun node kind known => known.modifyNode (relabels_kind kind) node)
    (fun node reader known => known.modifyNode (relabels_binding reader) node) kind binding

theorem lookup_eq_some_iff_mem {edges : List (Char × NodeId)}
    (distinct : (edges.map Prod.fst).Nodup) :
    edges.lookup symbol = some child ↔ (symbol, child) ∈ edges := by
  induction edges with
  | nil => simp
  | cons edge rest ih =>
      obtain ⟨found, target⟩ := edge
      obtain ⟨absent, others⟩ := List.nodup_cons.mp distinct
      rw [List.lookup_cons]
      by_cases same : symbol = found
      · subst same
        have elsewhere : (symbol, child) ∉ rest := fun member =>
          absent (List.mem_map.mpr ⟨(symbol, child), member, rfl⟩)
        simp [elsewhere, eq_comm]
      · simp [beq_false_of_ne same, same, ih others]

/-! ## Bisection -/

namespace Frozen

variable {edges : Array (Char × NodeId)} {start stop : Nat}

/-- Between two indices the symbols of the edges increase. -/
def Sorted (edges : Array (Char × NodeId)) (start stop : Nat) : Prop :=
  ∀ {first second : Nat} {before after : Char × NodeId}, start ≤ first → first < second →
    second < stop → edges[first]? = some before → edges[second]? = some after →
    before.1 < after.1

/-- What a bisection finds stands between the two indices. -/
theorem exists_of_search (found : search edges symbol start stop = some child) :
    ∃ index, start ≤ index ∧ index < stop ∧ edges[index]? = some (symbol, child) := by
  fun_induction search edges symbol start stop with
  | case1 start stop below middle absent => simp at found
  | case2 start stop below middle target present =>
      obtain rfl := Option.some.inj found
      exact ⟨middle, by omega, by omega, present⟩
  | case3 start stop below middle letter target present different less ih =>
      obtain ⟨index, lower, upper, here⟩ := ih found
      exact ⟨index, by omega, upper, here⟩
  | case4 start stop below middle letter target present different notLess ih =>
      obtain ⟨index, lower, upper, here⟩ := ih found
      exact ⟨index, lower, by omega, here⟩
  | case5 start stop above => simp at found

/-- A bisection finds what stands between the two indices. -/
theorem search_of_exists {index : Nat} (sorted : Sorted edges start stop)
    (bound : stop ≤ edges.size) (lower : start ≤ index) (upper : index < stop)
    (here : edges[index]? = some (symbol, child)) :
    search edges symbol start stop = some child := by
  fun_induction search edges symbol start stop with
  | case1 start stop below middle absent =>
      rw [Array.getElem?_eq_none_iff] at absent
      omega
  | case2 start stop below middle target present =>
      rcases Nat.lt_trichotomy index middle with less | same | greater
      · exact absurd (sorted lower less (by omega) here present) (Char.lt_irrefl _)
      · rw [same, present] at here
        simpa using here
      · exact absurd (sorted (by omega) greater upper present here) (Char.lt_irrefl _)
  | case3 start stop below middle letter target present different less ih =>
      -- The symbol at the middle is too small, so the edge stands behind it.
      have beyond : middle < index := by
        rcases Nat.lt_trichotomy index middle with before | same | after
        · exact absurd (sorted lower before (by omega) here present) (Char.lt_asymm less)
        · rw [same, present] at here
          simp [different] at here
        · exact after
      exact ih (fun low => sorted (by omega)) bound beyond upper
  | case4 start stop below middle letter target present different notLess ih =>
      have ahead : index < middle := by
        rcases Nat.lt_trichotomy index middle with before | same | after
        · exact before
        · rw [same, present] at here
          simp [different] at here
        · exact absurd (sorted (by omega) after upper present here) notLess
      exact ih (fun low less high => sorted low less (by omega)) (by omega) lower ahead
  | case5 start stop above => omega

theorem search_eq_some_iff (sorted : Sorted edges start stop) (bound : stop ≤ edges.size) :
    search edges symbol start stop = some child ↔
      ∃ index, start ≤ index ∧ index < stop ∧ edges[index]? = some (symbol, child) :=
  ⟨exists_of_search, fun ⟨_, lower, upper, here⟩ => search_of_exists sorted bound lower upper here⟩

/-! ## Sorting -/

/-- In the order of their symbols, edges with different symbols increase. -/
theorem sortEdges_increases {edges : List (Char × NodeId)}
    (distinct : (edges.map Prod.fst).Nodup) :
    (sortEdges edges).Pairwise fun first second => first.1 < second.1 := by
  have ordered : (sortEdges edges).Pairwise fun first second =>
      decide (first.1 ≤ second.1) = true := by
    apply List.pairwise_mergeSort
    · simpa using fun _ _ _ => Char.le_trans
    · simpa using fun _ _ => Char.le_total _ _
  have different : (sortEdges edges).Pairwise fun first second => first.1 ≠ second.1 := by
    apply List.pairwise_map.mp
    exact ((List.mergeSort_perm edges _).map Prod.fst).nodup_iff.mpr distinct
  refine (ordered.and different).imp fun both => ?_
  exact Std.lt_of_le_of_ne (by simpa using both.1) both.2

/-- The order in which a node hands out its edges is lost when they are sorted. -/
theorem sortEdges_perm {edges handed : List (Char × NodeId)}
    (distinct : (edges.map Prod.fst).Nodup) (perm : handed.Perm edges) :
    sortEdges handed = sortEdges edges := by
  have distinctHanded : (handed.map Prod.fst).Nodup := (perm.map Prod.fst).nodup_iff.mpr distinct
  refine List.Perm.eq_of_pairwise ?_ (sortEdges_increases distinctHanded)
    (sortEdges_increases distinct) ?_
  · intro first second _ _ less greater
    exact absurd greater (Char.lt_asymm less)
  · exact (List.mergeSort_perm handed _).trans (perm.trans (List.mergeSort_perm edges _).symm)

/-! ## The layout -/

/-- Every node has its edges, sorted, where its range says. -/
structure Lays (listing : Listing) (nodes : List Trie.Node) (frozen : Frozen) : Prop where
  size : frozen.nodes.size = nodes.length
  laid : ∀ (index : Nat) (node : Trie.Node), nodes[index]? = some node → ∃ start,
    frozen.nodes[index]? = some {
      symbol := node.symbol
      parent := node.parent
      edgesStart := start
      edgesStop := start + node.children.length
      depth := node.depth
      kind := node.kind
      binding := node.binding } ∧
    start + node.children.length ≤ frozen.edges.size ∧
    ∀ offset < node.children.length,
      frozen.edges[start + offset]? = (sortEdges (listing.list index node.children))[offset]?
  empty_iff : frozen.edges.size = 0 ↔ ∀ node ∈ nodes, node.children = []

theorem length_sortEdges (listing : Listing) (node : NodeId) (edges : List (Char × NodeId)) :
    (sortEdges (listing.list node edges)).length = edges.length := by
  rw [sortEdges, List.length_mergeSort, (listing.perm node edges).length_eq]

theorem Lays.add {before : List Trie.Node} {frozen : Frozen} (lays : Lays listing before frozen)
    (node : Trie.Node) :
    Lays listing (before ++ [node])
      (frozen.add node (listing.list frozen.nodes.size node.children)) := by
  have length := length_sortEdges listing frozen.nodes.size node.children
  have edges : (frozen.add node (listing.list frozen.nodes.size node.children)).edges =
      frozen.edges ++ (sortEdges (listing.list frozen.nodes.size node.children)).toArray :=
    rfl
  constructor
  · simp [Frozen.add, lays.size]
  · intro index found present
    rw [edges]
    by_cases older : index < before.length
    · rw [List.getElem?_append_left older] at present
      obtain ⟨start, stored, bound, sorted⟩ := lays.laid index found present
      refine ⟨start, ?_, ?_, ?_⟩
      · simp [Frozen.add, Array.getElem?_push, lays.size, Nat.ne_of_lt older, stored]
      · rw [Array.size_append]
        omega
      · intro offset below
        rw [Array.getElem?_append_left (by omega)]
        exact sorted offset below
    · obtain rfl : index = before.length := by
        have := (List.getElem?_eq_some_iff.mp present).1
        rw [List.length_append, List.length_singleton] at this
        omega
      obtain rfl : node = found := by simpa using present
      refine ⟨frozen.edges.size, ?_, ?_, ?_⟩
      · rw [Frozen.add, Array.getElem?_push, if_pos lays.size.symm]
        simp [length]
      · simp [length]
      · intro offset below
        rw [Array.getElem?_append_right (by omega), Nat.add_sub_cancel_left, List.getElem?_toArray,
          lays.size]
  · have size : (frozen.add node (listing.list frozen.nodes.size node.children)).edges.size =
        frozen.edges.size + node.children.length := by
      simp [edges, length]
    rw [size, Nat.add_eq_zero_iff, lays.empty_iff]
    simp [or_imp, forall_and]

theorem lays_freeze (trie : Trie) (listing : Listing) :
    Lays listing trie.nodes.toList (trie.freeze listing) := by
  unfold freeze
  induction trie.nodes.toList using List.reverseRecOn with
  | nil => exact ⟨rfl, by simp, by simp⟩
  | append_singleton before node ih =>
      rw [List.foldl_append]
      exact ih.add node

/-! ## The same answers -/

/-- The node of a frozen trie in the place of a node of the trie. -/
theorem exists_laid (trie : Trie) (listing : Listing) {index : Nat} {node : Trie.Node}
    (present : trie.nodes[index]? = some node) : ∃ start,
      (trie.freeze listing).nodes[index]? = some {
        symbol := node.symbol
        parent := node.parent
        edgesStart := start
        edgesStop := start + node.children.length
        depth := node.depth
        kind := node.kind
        binding := node.binding } ∧
      start + node.children.length ≤ (trie.freeze listing).edges.size ∧
      ∀ offset < node.children.length, (trie.freeze listing).edges[start + offset]? =
        (sortEdges (listing.list index node.children))[offset]? :=
  (lays_freeze trie listing).laid index node (by simpa using present)

theorem laid_eq_none (trie : Trie) (listing : Listing) {index : Nat}
    (absent : trie.nodes[index]? = none) : (trie.freeze listing).nodes[index]? = none := by
  have size := (lays_freeze trie listing).size
  rw [Array.getElem?_eq_none_iff] at absent ⊢
  rw [size, Array.length_toList]
  exact absent

/-- A question about one node has one answer. -/
theorem bind_laid {α : Type} (trie : Trie) (listing : Listing) (node : NodeId)
    {ask : Node → Option α} {answer : Trie.Node → Option α}
    (same : ∀ (found : Trie.Node) (start : Nat), trie.nodes[node]? = some found →
      ask ⟨found.symbol, found.parent, start, start + found.children.length, found.depth,
        found.kind, found.binding⟩ = answer found) :
    (trie.freeze listing).nodes[node]?.bind ask = trie.nodes[node]?.bind answer := by
  cases present : trie.nodes[node]? with
  | none => rw [laid_eq_none trie listing present, Option.bind_none, Option.bind_none]
  | some found =>
      obtain ⟨start, stored, _⟩ := exists_laid trie listing present
      rw [stored, Option.bind_some, Option.bind_some, same found start present]

theorem kind?_freeze (trie : Trie) (listing : Listing) (node : NodeId) :
    (trie.freeze listing).kind? node = trie.kind? node :=
  bind_laid trie listing node fun _ _ _ => rfl

theorem binding?_freeze (trie : Trie) (listing : Listing) (node : NodeId) :
    (trie.freeze listing).binding? node = trie.binding? node :=
  bind_laid trie listing node fun _ _ _ => rfl

theorem hasChildren_freeze (trie : Trie) (listing : Listing) (node : NodeId) :
    (trie.freeze listing).hasChildren node = trie.hasChildren node := by
  unfold hasChildren Trie.hasChildren
  cases present : trie.nodes[node]? with
  | none => rw [laid_eq_none trie listing present]; rfl
  | some found =>
      obtain ⟨start, stored, _⟩ := exists_laid trie listing present
      rw [stored]
      cases children : found.children <;> simp [children]

theorem depth_freeze (trie : Trie) (listing : Listing) (node : NodeId) :
    (trie.freeze listing).depth node = trie.depth node := by
  unfold depth Trie.depth
  cases present : trie.nodes[node]? with
  | none => rw [laid_eq_none trie listing present]; rfl
  | some found =>
      obtain ⟨start, stored, _⟩ := exists_laid trie listing present
      rw [stored]
      rfl

theorem symbolsTo_freeze (trie : Trie) (listing : Listing) (node : NodeId) :
    (trie.freeze listing).symbolsTo node = trie.symbolsTo node := by
  unfold symbolsTo Trie.symbolsTo
  rw [(lays_freeze trie listing).size, Array.length_toList]
  generalize trie.nodes.size = fuel, [] = symbols
  induction fuel generalizing node symbols with
  | zero => rfl
  | succ fuel ih =>
      unfold climb Trie.climb
      cases present : trie.nodes[node]? with
      | none => rw [laid_eq_none trie listing present]
      | some found =>
          obtain ⟨start, stored, _⟩ := exists_laid trie listing present
          rw [stored]
          cases parent : found.parent with
          | none => simp only [parent]
          | some parent => simp only [parent, ih]

theorem isEmpty_freeze (trie : Trie) (listing : Listing) :
    (trie.freeze listing).isEmpty = trie.isEmpty := by
  rw [Bool.eq_iff_iff, isEmpty, Trie.isEmpty, Array.isEmpty_iff_size_eq_zero,
    (lays_freeze trie listing).empty_iff, ← Array.all_toList, List.all_eq_true]
  simp only [List.isEmpty_iff]

theorem nodeCount_freeze (trie : Trie) (listing : Listing) :
    (trie.freeze listing).nodeCount = trie.nodeCount :=
  (lays_freeze trie listing).size

/-- The range of a node holds sorted edges. -/
theorem sorted_range {edges : Array (Char × NodeId)} {listed : List (Char × NodeId)} {start : Nat}
    (increases : listed.Pairwise fun first second => first.1 < second.1)
    (laid : ∀ offset < listed.length, edges[start + offset]? = listed[offset]?) :
    Sorted edges start (start + listed.length) := by
  intro first second before after low less high here there
  obtain ⟨offset, rfl⟩ := Nat.exists_eq_add_of_le low
  obtain ⟨further, rfl⟩ := Nat.exists_eq_add_of_le (Nat.le_trans low (Nat.le_of_lt less))
  rw [laid offset (by omega)] at here
  rw [laid further (by omega)] at there
  obtain ⟨inside, rfl⟩ := List.getElem?_eq_some_iff.mp here
  obtain ⟨insideToo, rfl⟩ := List.getElem?_eq_some_iff.mp there
  exact List.pairwise_iff_getElem.mp increases offset further inside insideToo (by omega)

theorem exists_index_iff {edges : Array (Char × NodeId)} {listed : List (Char × NodeId)}
    {start : Nat} {edge : Char × NodeId}
    (laid : ∀ offset < listed.length, edges[start + offset]? = listed[offset]?) :
    (∃ index, start ≤ index ∧ index < start + listed.length ∧ edges[index]? = some edge) ↔
      edge ∈ listed := by
  rw [List.mem_iff_getElem?]
  constructor
  · rintro ⟨index, low, high, here⟩
    obtain ⟨offset, rfl⟩ := Nat.exists_eq_add_of_le low
    exact ⟨offset, (laid offset (by omega)).symm.trans here⟩
  · rintro ⟨offset, here⟩
    have inside := (List.getElem?_eq_some_iff.mp here).1
    exact ⟨start + offset, by omega, by omega, (laid offset inside).trans here⟩

theorem advance_freeze {trie : Trie} (keyed : trie.Keyed) (listing : Listing) (node : NodeId)
    (symbol : Char) : (trie.freeze listing).advance node symbol = trie.advance node symbol := by
  unfold advance Trie.advance
  cases present : trie.nodes[node]? with
  | none => rw [laid_eq_none trie listing present]; rfl
  | some found =>
      obtain ⟨start, stored, bound, laid⟩ := exists_laid trie listing present
      have distinct := keyed node found present
      have handed := listing.perm node found.children
      have increases := sortEdges_increases ((handed.map Prod.fst).nodup_iff.mpr distinct)
      rw [← length_sortEdges listing node found.children] at bound laid
      rw [stored, Option.bind_some, Option.bind_some]
      ext child
      rw [← length_sortEdges listing node found.children,
        search_eq_some_iff (sorted_range increases laid) bound, exists_index_iff laid,
        lookup_eq_some_iff_mem distinct]
      exact ((List.mergeSort_perm _ _).trans handed).mem_iff

theorem find?_freeze {trie : Trie} (keyed : trie.Keyed) (listing : Listing)
    (sequence : List Char) : (trie.freeze listing).find? sequence = trie.find? sequence := by
  suffices general : ∀ node, (trie.freeze listing).walkFrom node sequence =
      trie.walkFrom node sequence from general root
  induction sequence with
  | nil => exact fun _ => rfl
  | cons symbol rest ih =>
      intro node
      cases edge : trie.advance node symbol with
      | none => simp only [walkFrom, Trie.walkFrom, advance_freeze keyed, edge]
      | some next => simp only [walkFrom, Trie.walkFrom, advance_freeze keyed, edge, ih]

/-- The frozen trie answers all questions as the trie does. -/
structure Mirrors (frozen : Frozen) (trie : Trie) : Prop where
  nodeCount : frozen.nodeCount = trie.nodeCount
  isEmpty : frozen.isEmpty = trie.isEmpty
  find? : ∀ sequence, frozen.find? sequence = trie.find? sequence
  kind? : ∀ node, frozen.kind? node = trie.kind? node
  binding? : ∀ node, frozen.binding? node = trie.binding? node
  hasChildren : ∀ node, frozen.hasChildren node = trie.hasChildren node
  depth : ∀ node, frozen.depth node = trie.depth node
  symbolsTo : ∀ node, frozen.symbolsTo node = trie.symbolsTo node

theorem mirrors_freeze {trie : Trie} (keyed : trie.Keyed) (listing : Listing) :
    (trie.freeze listing).Mirrors trie where
  nodeCount := nodeCount_freeze trie listing
  isEmpty := isEmpty_freeze trie listing
  find? := find?_freeze keyed listing
  kind? := kind?_freeze trie listing
  binding? := binding?_freeze trie listing
  hasChildren := hasChildren_freeze trie listing
  depth := depth_freeze trie listing
  symbolsTo := symbolsTo_freeze trie listing

/-- The orders in which the nodes hand out their edges leave no trace. -/
theorem freeze_eq {trie : Trie} (keyed : trie.Keyed) (listing other : Listing) :
    trie.freeze listing = trie.freeze other := by
  have sorts (listing : Listing) : trie.freeze listing =
      trie.nodes.toList.foldl (fun frozen node => frozen.add node node.children) {} := by
    apply List.foldl_ext
    intro frozen node member
    obtain ⟨index, stored⟩ := List.mem_iff_getElem?.mp member
    have distinct := keyed index node (by simpa using stored)
    rw [add, add, sortEdges_perm distinct (listing.perm _ _)]
  rw [sorts listing, sorts other]

end Frozen

end Lexing.Trie
