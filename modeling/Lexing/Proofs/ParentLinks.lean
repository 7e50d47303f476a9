import Lexing.Proofs.InsertionHistories

/-!
# Parent links

Apart from its edges, which lead down, a trie keeps for every node the symbol on the edge to it
and the node that this edge leaves.  These links lead back along the edges: climbing from a node
to the root spells the sequence that a walk from the root to this node takes.  Edges lead to
higher numbers, so the climb ends, and in no more turns than the trie has nodes.
-/

namespace Lexing.Trie

variable {trie : Trie} {parent node other child : Nat} {symbol : Char} {sequence path : List Char}

/-! ## Links and edges -/

/-- The symbol on the edge to a node, and the node that this edge leaves. -/
def link? (trie : Trie) (node : NodeId) : Option (Char × Option NodeId) :=
  trie.nodes[node]?.map fun found => (found.symbol, found.parent)

/-- The link of every node that an edge leads to is the way back along this edge. -/
def Backlinked (trie : Trie) : Prop :=
  ∀ (parent child : Nat) (symbol : Char), trie.advance parent symbol = some child →
    trie.link? child = some (symbol, some parent)

theorem empty_backlinked : empty.Backlinked := by
  intro parent child symbol edge
  have bound := (empty_sound.edge edge).2.1
  have above := (empty_sound.edge edge).1
  simp only [empty, List.size_toArray, List.length_singleton] at bound
  omega

theorem link?_descend (missing : trie.advance node symbol = none) (other : NodeId) :
    (trie.descend node symbol).2.link? other =
      if other = trie.nodes.size then some (symbol, some node) else trie.link? other := by
  simp only [link?, nodes_descend missing]
  by_cases new : other = trie.nodes.size
  · rw [if_pos new, if_pos new, Option.map_some]
  · rw [if_neg new, if_neg new]
    split
    · cases trie.nodes[other]? <;> rfl
    · rfl

theorem link?_modifyNode {change : Node → Node} (trie : Trie) (node other : NodeId)
    (same : ∀ found, (change found).symbol = found.symbol ∧ (change found).parent = found.parent) :
    (trie.modifyNode node change).link? other = trie.link? other := by
  simp only [link?, modifyNode, Array.getElem?_modify]
  split
  · cases trie.nodes[other]? <;> simp [same]
  · rfl

theorem Backlinked.descend (backlinked : trie.Backlinked) (bound : node < trie.nodes.size)
    (symbol : Char) : (trie.descend node symbol).2.Backlinked := by
  intro parent child letter edge
  cases missing : trie.advance node symbol with
  | some known =>
      have same : (trie.descend node symbol).2 = trie := by simp [Trie.descend, missing]
      rw [same] at edge ⊢
      exact backlinked _ _ _ edge
  | none =>
      rw [advance_descend_eq missing bound] at edge
      rw [link?_descend missing]
      split at edge
      case isTrue new =>
        obtain ⟨rfl, rfl⟩ := new
        rw [if_pos (Option.some.inj edge).symm]
      case isFalse =>
        have linked := backlinked parent child letter edge
        have old : child ≠ trie.nodes.size := by
          rintro rfl
          simp [link?] at linked
        rw [if_neg old, linked]

theorem Backlinked.descendAll (backlinked : trie.Backlinked) (tree : trie.Tree)
    (found : trie.find? path = some node) (sequence : List Char) :
    (trie.descendAll node sequence).2.Backlinked := by
  induction sequence generalizing trie path node with
  | nil => exact backlinked
  | cons symbol rest ih =>
      have grows := extends_descend tree found symbol
      have first := backlinked.descend (tree.find?_bound found).1 symbol
      exact ih first grows.tree grows.ends

theorem Backlinked.modifyNode (backlinked : trie.Backlinked) {change : Node → Node}
    (relabels : Relabels change) (node : NodeId)
    (same : ∀ found, (change found).symbol = found.symbol ∧ (change found).parent = found.parent) :
    (trie.modifyNode node change).Backlinked := by
  intro parent child symbol edge
  rw [relabels.advance] at edge
  rw [link?_modifyNode trie node child same]
  exact backlinked _ _ _ edge

theorem Backlinked.insert (backlinked : trie.Backlinked) (tree : trie.Tree) (sequence : String)
    (kind : Kind) (binding : Option Nat) :
    (trie.insert sequence kind binding).2.Backlinked :=
  insert_preserves backlinked (backlinked.descendAll tree (find?_nil trie) sequence.toList)
    (fun node kind known => known.modifyNode (relabels_kind kind) node fun _ => ⟨rfl, rfl⟩)
    (fun node reader known => known.modifyNode (relabels_binding reader) node fun _ => ⟨rfl, rfl⟩)
    kind binding

theorem Backlinked.performAll (backlinked : trie.Backlinked) (tree : trie.Tree)
    (calls : List Insertion) : (Insertion.performAll trie calls).Backlinked := by
  induction calls generalizing trie with
  | nil => exact backlinked
  | cons call rest ih =>
      apply ih
      · exact backlinked.insert tree call.sequence call.kind call.binding
      · exact tree.insert call.sequence call.kind call.binding

/-- A node is at most as deep as its number is large. -/
theorem Linked.length_le (linked : trie.Linked) (found : trie.find? sequence = some node) :
    sequence.length ≤ node := by
  induction sequence using List.reverseRecOn generalizing node with
  | nil => exact Nat.zero_le node
  | append_singleton before symbol ih =>
      rw [find?_concat] at found
      obtain ⟨parent, walked, edge⟩ := Option.bind_eq_some_iff.mp found
      have above := (linked.edge edge).1
      have shorter := ih walked
      rw [List.length_append, List.length_singleton]
      omega

/-! ## Climbing -/

namespace Frozen

variable {frozen : Frozen} {listing : Listing} {cursor : Option NodeId}
  {symbols spelled : List Char}

/-- The loop that climbs along the links: it starts at the cursor with the symbols found so far,
and when it has ended they are `spelled`.  It ends at the root, without a link and outside of the
trie, and each other turn puts one symbol in front. -/
inductive Climbs (frozen : Frozen) : Option NodeId → List Char → List Char → Prop
  | unlinked (symbols : List Char) : Climbs frozen none symbols symbols
  | root (symbols : List Char) : Climbs frozen (some root) symbols symbols
  | outside {node : NodeId} (symbols : List Char) : node ≠ Trie.root →
      frozen.nodes[node]? = none → Climbs frozen (some node) symbols symbols
  | up {node : NodeId} {found : Node} {symbols spelled : List Char} : node ≠ Trie.root →
      frozen.nodes[node]? = some found →
      Climbs frozen found.parent (found.symbol :: symbols) spelled →
      Climbs frozen (some node) symbols spelled

/-- The loop does not end in two ways. -/
theorem Climbs.unique {result : List Char} (climbs : frozen.Climbs cursor symbols spelled)
    (again : frozen.Climbs cursor symbols result) : result = spelled := by
  induction climbs with
  | unlinked symbols =>
      cases again
      rfl
  | root symbols =>
      cases again with
      | root | outside => rfl
      | up elsewhere => exact absurd rfl elsewhere
  | outside symbols elsewhere absent =>
      cases again with
      | root | outside => rfl
      | up _ present =>
          rw [absent] at present
          contradiction
  | up elsewhere present _ ih =>
      cases again with
      | root => exact absurd rfl elsewhere
      | outside _ _ absent =>
          rw [absent] at present
          contradiction
      | up _ presentToo onward =>
          obtain rfl := Option.some.inj (present.symm.trans presentToo)
          exact ih onward

theorem Climbs.length_le (climbs : frozen.Climbs cursor symbols spelled) :
    symbols.length ≤ spelled.length := by
  induction climbs with
  | unlinked | root | outside => exact Nat.le_refl _
  | up _ _ _ ih =>
      rw [List.length_cons] at ih
      omega

/-- A climb that may take as many turns as the loop takes spells what the loop spells. -/
theorem Climbs.climb_eq {fuel : Nat} (climbs : frozen.Climbs (some node) symbols spelled)
    (enough : spelled.length ≤ symbols.length + fuel) :
    frozen.climb fuel node symbols = spelled := by
  induction fuel generalizing node symbols with
  | zero =>
      cases climbs with
      | root | outside => rfl
      | up _ _ onward =>
          have longer := onward.length_le
          rw [List.length_cons] at longer
          omega
  | succ fuel ih =>
      unfold climb
      cases climbs with
      | root => rw [if_pos rfl]
      | outside _ elsewhere absent => rw [if_neg elsewhere, absent]
      | @up _ found _ _ elsewhere present onward =>
          rw [if_neg elsewhere, present]
          dsimp only
          cases link : found.parent with
          | none =>
              rw [link] at onward
              cases onward
              rfl
          | some parent =>
              rw [link] at onward
              apply ih onward
              rw [List.length_cons]
              omega

theorem exists_linked (listing : Listing) (linked : trie.link? node = some (symbol, some parent)) :
    ∃ found, (trie.freeze listing).nodes[node]? = some found ∧ found.symbol = symbol ∧
      found.parent = some parent := by
  obtain ⟨found, present, link⟩ := Option.map_eq_some_iff.mp linked
  obtain ⟨start, stored, _⟩ := exists_laid trie listing present
  simp only [Prod.mk.injEq] at link
  exact ⟨_, stored, link⟩

/-- From the end of a walk the loop ends with the symbols of the walk. -/
theorem climbs_of_find? (tree : trie.Tree) (backlinked : trie.Backlinked) (listing : Listing)
    (found : trie.find? sequence = some node) (symbols : List Char) :
    (trie.freeze listing).Climbs (some node) symbols (sequence ++ symbols) := by
  -- The loop takes the last symbol first, so the sequence is taken apart from its end.
  induction sequence using List.reverseRecOn generalizing node symbols with
  | nil =>
      obtain rfl := Option.some.inj found
      exact .root symbols
  | append_singleton before symbol ih =>
      have elsewhere : node ≠ Trie.root :=
        Nat.ne_of_gt (tree.pos_of_find? found (by simp))
      rw [find?_concat] at found
      obtain ⟨parent, walked, edge⟩ := Option.bind_eq_some_iff.mp found
      obtain ⟨stored, present, rfl, link⟩ := exists_linked listing (backlinked _ _ _ edge)
      have onward := ih walked (stored.symbol :: symbols)
      rw [← link] at onward
      rw [List.append_assoc, List.singleton_append]
      exact .up elsewhere present onward

theorem climbs_iff (tree : trie.Tree) (backlinked : trie.Backlinked) (listing : Listing)
    (found : trie.find? sequence = some node) :
    (trie.freeze listing).Climbs (some node) [] symbols ↔ symbols = sequence := by
  have climbs := climbs_of_find? tree backlinked listing found []
  rw [List.append_nil] at climbs
  constructor
  · exact climbs.unique
  · rintro rfl
    exact climbs

theorem symbolsTo_of_find? (tree : trie.Tree) (backlinked : trie.Backlinked) (listing : Listing)
    (found : trie.find? sequence = some node) :
    (trie.freeze listing).symbolsTo node = sequence := by
  have climbs := (climbs_iff tree backlinked listing found).mpr rfl
  apply climbs.climb_eq
  have bound := (tree.find?_bound found).1
  have shallow := tree.length_le found
  have size : (trie.freeze listing).nodes.size = trie.nodes.size := nodeCount_freeze trie listing
  rw [size, List.length_nil]
  omega

end Frozen

/-! ## Histories -/

namespace Insertion

theorem mem_of_mem_accepted {call : Insertion} {calls : List Insertion}
    (member : call ∈ accepted trie calls) : call ∈ calls := by
  induction calls generalizing trie with
  | nil => simp [accepted] at member
  | cons first rest ih =>
      unfold accepted at member
      split at member
      · rcases List.mem_cons.mp member with rfl | later
        · exact List.mem_cons_self
        · exact List.mem_cons_of_mem _ (ih later)
      · exact List.mem_cons_of_mem _ (ih member)

end Insertion

/-- No node is deeper than the longest sequence is long. -/
theorem Records.depth_le {kept : List Insertion} {limit : Nat} (records : trie.Records kept)
    (short : ∀ call ∈ kept, call.sequence.toList.length ≤ limit) (node : NodeId) :
    trie.depth node ≤ limit := by
  by_cases bound : node < trie.nodes.size
  · obtain ⟨sequence, found⟩ := records.exists_find? bound
    have walks : (trie.find? sequence).isSome = true := by rw [found]; rfl
    rw [(records.find?_bound found).2]
    obtain rfl | ⟨call, member, begins⟩ := (records.isSome_iff sequence).mp walks
    · exact Nat.zero_le limit
    · exact begins.length_le.trans (short call member)
  · have absent : trie.nodes[node]? = none := Array.getElem?_eq_none (Nat.le_of_not_lt bound)
    rw [depth, absent]
    exact Nat.zero_le limit

/-- After any history of insertions, climbing undoes walking.  From every node of the frozen trie
the loop along the links ends, in one way only, with symbols that lead from the root back to the
node and of which there are as many as the node is deep, and from the end of every walk it ends
with the symbols of the walk.  Depths are bounded as the lengths of the sequences are. -/
theorem climbing_undoes_walking (calls : List Insertion) (listing : Listing) :
    let frozen := (Insertion.performAll empty calls).freeze listing
    (∀ node < frozen.nodeCount,
      (∀ symbols, frozen.Climbs (some node) [] symbols ↔ symbols = frozen.symbolsTo node) ∧
        frozen.find? (frozen.symbolsTo node) = some node ∧
        frozen.depth node = (frozen.symbolsTo node).length) ∧
      (∀ sequence node, frozen.find? sequence = some node → frozen.symbolsTo node = sequence) ∧
      ∀ limit, (∀ call ∈ calls, call.sequence.length ≤ limit) →
        ∀ node, frozen.depth node ≤ limit := by
  intro frozen
  have records := empty_records.performAll calls
  have backlinked := empty_backlinked.performAll empty_tree calls
  have mirrors := Frozen.mirrors_freeze records.keyed listing
  have spells : ∀ sequence node, frozen.find? sequence = some node →
      frozen.symbolsTo node = sequence := by
    intro sequence node found
    rw [mirrors.find?] at found
    exact Frozen.symbolsTo_of_find? records.toTree backlinked listing found
  constructor
  · intro node bound
    rw [mirrors.nodeCount] at bound
    obtain ⟨sequence, found⟩ := records.exists_find? bound
    rw [spells sequence node ((mirrors.find? sequence).trans found), mirrors.find?, mirrors.depth]
    refine ⟨?_, found, (records.find?_bound found).2⟩
    intro symbols
    exact Frozen.climbs_iff records.toTree backlinked listing found
  · constructor
    · exact spells
    · intro limit short node
      rw [mirrors.depth]
      apply records.depth_le
      intro call member
      rw [List.nil_append] at member
      exact short call (Insertion.mem_of_mem_accepted member)

/-- Sequences that share their beginnings, a refused call, and edges that are handed out in
reverse. -/
theorem climbing_undoes_walking_shared :
    let calls : List Insertion := [⟨"<<=", .operator 1, none⟩, ⟨"<-", .operator 2, none⟩,
      ⟨"<<", .operator 3, some 0⟩, ⟨"<-", .operator 4, none⟩]
    let reversed : Listing := ⟨fun _ edges => edges.reverse, fun _ => List.reverse_perm⟩
    let frozen := (Insertion.performAll empty calls).freeze reversed
    3 < frozen.nodeCount ∧ frozen.Climbs (some 3) [] ['<', '<', '='] ∧
      frozen.find? ['<', '<', '='] = some 3 ∧ frozen.depth 3 = 3 ∧
      frozen.find? ['<', '-'] = some 4 ∧ frozen.symbolsTo 4 = ['<', '-'] ∧
      (∀ call ∈ calls, call.sequence.length ≤ 3) ∧ frozen.depth 4 ≤ 3 := by
  intro calls reversed frozen
  obtain ⟨back, spells, shallow⟩ := climbing_undoes_walking calls reversed
  have mirrors := Frozen.mirrors_freeze (empty_records.performAll calls).keyed reversed
  have inside : 3 < frozen.nodeCount := by
    rw [mirrors.nodeCount]
    decide +kernel
  have deep : frozen.find? ['<', '<', '='] = some 3 := (mirrors.find? _).trans (by decide +kernel)
  have aside : frozen.find? ['<', '-'] = some 4 := (mirrors.find? _).trans (by decide +kernel)
  have short : ∀ call ∈ calls, call.sequence.length ≤ 3 := by decide +kernel
  obtain ⟨climbs, leads, depth⟩ := back 3 inside
  have spelled := spells _ _ deep
  exact ⟨inside, (climbs _).mpr spelled.symm, deep, by rw [depth, spelled]; rfl, aside,
    spells _ _ aside, short, shallow 3 short 4⟩

end Lexing.Trie
