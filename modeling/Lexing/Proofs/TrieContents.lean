import Lexing.Proofs.Trie
import Mathlib.Data.List.Induction

/-!
# What a trie contains

The numbers of the nodes tell in which order the sequences were inserted.  Everything
else about a trie is what can be observed along sequences: which of them can be walked,
and which kind and which reader is found at the end.  Every node is reached by exactly
one sequence, so an insertion changes what is observed at the inserted sequence and makes
its beginnings walkable, and nothing else.
-/

namespace Lexing.Trie

variable {trie grown : Trie} {node last : Nat} {symbol : Char} {path sequence : List Char}

/-! ## Observations -/

def kindOf? (trie : Trie) (sequence : List Char) : Option Kind :=
  (trie.find? sequence).bind trie.kind?

def bindingOf? (trie : Trie) (sequence : List Char) : Option Nat :=
  (trie.find? sequence).bind trie.binding?

@[simp] theorem kindOf?_empty (sequence : List Char) : empty.kindOf? sequence = none :=
  Option.bind_eq_none_iff.mpr fun node _ => kind?_empty node

@[simp] theorem bindingOf?_empty (sequence : List Char) : empty.bindingOf? sequence = none :=
  Option.bind_eq_none_iff.mpr fun node _ => binding?_empty node

theorem kindOf?_of_find? (found : trie.find? sequence = some node) :
    trie.kindOf? sequence = trie.kind? node := by
  rw [kindOf?, found, Option.bind_some]

theorem bindingOf?_of_find? (found : trie.find? sequence = some node) :
    trie.bindingOf? sequence = trie.binding? node := by
  rw [bindingOf?, found, Option.bind_some]

@[simp]
theorem find?_nil (trie : Trie) : trie.find? [] = some root :=
  rfl

theorem find?_concat (trie : Trie) (sequence : List Char) (symbol : Char) :
    trie.find? (sequence ++ [symbol]) =
      (trie.find? sequence).bind fun reached => trie.advance reached symbol := by
  simp only [find?, walkFrom_append, walkFrom_singleton]

theorem lookup?_of_find? (found : trie.find? sequence = some node) (nonempty : sequence ≠ []) :
    trie.lookup? sequence = trie.kind? node := by
  rw [lookup?, if_neg (by simpa using nonempty), found, Option.bind_some]

theorem exists_of_lookup? {kind : Kind} (known : trie.lookup? sequence = some kind) :
    ∃ node, trie.find? sequence = some node ∧ trie.kind? node = some kind := by
  unfold lookup? at known
  split at known
  · contradiction
  · exact Option.bind_eq_some_iff.mp known

/-- What can be walked can be begun. -/
theorem find?_isSome_of_begins (found : (trie.find? sequence).isSome = true)
    (begins : path <+: sequence) : (trie.find? path).isSome = true := by
  obtain ⟨rest, rfl⟩ := begins
  rw [find?, walkFrom_append] at found
  obtain ⟨last, walked⟩ := Option.isSome_iff_exists.mp found
  obtain ⟨reached, begun, _⟩ := Option.bind_eq_some_iff.mp walked
  exact Option.isSome_of_eq_some begun

/-! ## Trees -/

/-- Every node but the root is entered by exactly one edge, and nothing ends at the root. -/
structure Tree (trie : Trie) : Prop extends Linked trie where
  unnamed : trie.kind? root = none
  entered : ∀ node, 0 < node → node < trie.nodes.size →
    ∃ parent symbol, trie.advance parent symbol = some node
  unique : ∀ {parent other node : Nat} {symbol letter : Char},
    trie.advance parent symbol = some node → trie.advance other letter = some node →
    parent = other ∧ symbol = letter

theorem empty_tree : empty.Tree where
  toLinked := empty_sound.toLinked
  unnamed := kind?_empty root
  entered node positive bound := by
    simp only [empty, List.size_toArray, List.length_singleton] at bound
    omega
  unique edge _ := by
    have bound := (empty_sound.edge edge).2.1
    have above := (empty_sound.edge edge).1
    simp only [empty, List.size_toArray, List.length_singleton] at bound
    omega

namespace Tree

/-- Only one sequence leads to a node. -/
theorem find?_injective (tree : trie.Tree) {first second : List Char}
    (one : trie.find? first = some node) (two : trie.find? second = some node) :
    first = second := by
  have length : first.length = second.length :=
    (tree.find?_bound one).2.symm.trans (tree.find?_bound two).2
  induction first using List.reverseRecOn generalizing second node with
  | nil => exact (List.length_eq_zero_iff.mp length.symm).symm
  | append_singleton before symbol ih =>
      obtain rfl | ⟨others, letter, rfl⟩ := List.eq_nil_or_concat second
      · simp at length
      rw [List.concat_eq_append] at two length ⊢
      rw [find?_concat] at one two
      obtain ⟨parent, walked, edge⟩ := Option.bind_eq_some_iff.mp one
      obtain ⟨other, walkedToo, edgeToo⟩ := Option.bind_eq_some_iff.mp two
      obtain ⟨rfl, rfl⟩ := tree.unique edge edgeToo
      rw [ih walked walkedToo (by simpa using length)]

/-- Some sequence leads to every node. -/
theorem exists_find? (tree : trie.Tree) (bound : node < trie.nodes.size) :
    ∃ sequence, trie.find? sequence = some node := by
  induction node using Nat.strongRecOn with
  | ind node ih =>
      by_cases atRoot : node = root
      · exact ⟨[], atRoot ▸ rfl⟩
      · obtain ⟨parent, symbol, edge⟩ := tree.entered node (Nat.pos_of_ne_zero atRoot) bound
        have above := (tree.edge edge).1
        obtain ⟨before, walked⟩ := ih parent above (Nat.lt_trans above bound)
        exact ⟨before ++ [symbol], find?_snoc walked edge⟩

theorem kindOf?_nil (tree : trie.Tree) : trie.kindOf? [] = none :=
  (kindOf?_of_find? (find?_nil trie)).trans tree.unnamed

/-- What can be looked up is the kind at the end of a sequence. -/
theorem lookup?_eq (tree : trie.Tree) (sequence : List Char) :
    trie.lookup? sequence = trie.kindOf? sequence := by
  cases sequence with
  | nil => exact tree.kindOf?_nil.symm
  | cons symbol rest => rfl

/-- Every kind can be looked up. -/
theorem exists_lookup? (tree : trie.Tree) {kind : Kind} (present : trie.kind? node = some kind) :
    ∃ sequence, trie.find? sequence = some node ∧ trie.lookup? sequence = some kind := by
  obtain ⟨found, stored, _⟩ := Option.bind_eq_some_iff.mp present
  obtain ⟨sequence, walked⟩ := tree.exists_find? (Array.getElem?_eq_some_iff.mp stored).1
  exact ⟨sequence, walked, by rw [tree.lookup?_eq, kindOf?_of_find? walked, present]⟩

end Tree

/-! ## Growing -/

/-- A trie that was grown by the nodes on the way along `sequence`, which ends in `last`. -/
structure Extends (trie grown : Trie) (sequence : List Char) (last : NodeId) : Prop where
  tree : grown.Tree
  ends : grown.find? sequence = some last
  old : ∀ {passed : List Char} {node : NodeId}, trie.find? passed = some node →
    grown.find? passed = some node
  isSome_iff : ∀ passed, (grown.find? passed).isSome = true ↔
    (trie.find? passed).isSome = true ∨ passed <+: sequence
  kindOf?_eq : ∀ passed, grown.kindOf? passed = trie.kindOf? passed
  bindingOf?_eq : ∀ passed, grown.bindingOf? passed = trie.bindingOf? passed

theorem Extends.refl (tree : trie.Tree) (found : trie.find? sequence = some node) :
    Extends trie trie sequence node where
  tree := tree
  ends := found
  old walked := walked
  isSome_iff _ := ⟨Or.inl, fun walked => walked.elim id
    (find?_isSome_of_begins (Option.isSome_of_eq_some found))⟩
  kindOf?_eq _ := rfl
  bindingOf?_eq _ := rfl

theorem Extends.trans {middle : Trie} {rest : List Char} (first : Extends trie middle path node)
    (second : Extends middle grown (path ++ rest) last) :
    Extends trie grown (path ++ rest) last where
  tree := second.tree
  ends := second.ends
  old walked := second.old (first.old walked)
  isSome_iff passed := by
    rw [second.isSome_iff, first.isSome_iff, or_assoc]
    refine or_congr_right ⟨fun begins => begins.elim ?_ id, Or.inr⟩
    exact fun begins => begins.trans (List.prefix_append path rest)
  kindOf?_eq passed := (second.kindOf?_eq passed).trans (first.kindOf?_eq passed)
  bindingOf?_eq passed := (second.bindingOf?_eq passed).trans (first.bindingOf?_eq passed)

section NewChild

variable (missing : trie.advance node symbol = none) (bound : node < trie.nodes.size)

include missing bound

theorem advance_descend_eq (source : Nat) (letter : Char) :
    (trie.descend node symbol).2.advance source letter =
      if source = node ∧ letter = symbol then some trie.nodes.size
      else trie.advance source letter := by
  simp only [advance, nodes_descend missing]
  by_cases new : source = trie.nodes.size
  · have different : source ≠ node := by omega
    rw [if_pos new, if_neg fun both => different both.1, new]
    simp
  rw [if_neg new]
  by_cases same : node = source
  · subst same
    rw [if_pos rfl, Array.getElem?_eq_getElem bound]
    simp only [Option.map_some, Option.bind_some, List.lookup_cons, true_and]
    by_cases letters : letter = symbol
    · simp [letters]
    · rw [if_neg letters, beq_false_of_ne letters]
  · rw [if_neg same, if_neg fun both => same both.1.symm]

theorem find?_descend (tree : trie.Tree) (found : trie.find? path = some node)
    (passed : List Char) :
    (trie.descend node symbol).2.find? passed =
      if passed = path ++ [symbol] then some trie.nodes.size else trie.find? passed := by
  induction passed using List.reverseRecOn with
  | nil => simp
  | append_singleton before letter ih =>
      rw [find?_concat, ih, find?_concat]
      by_cases through : before = path ++ [symbol]
      · have bare : trie.find? before = none := by
          rw [through, find?_concat, found, Option.bind_some, missing]
        have beyond : before ++ [letter] ≠ path ++ [symbol] := by
          rw [through]
          simp
        rw [if_pos through, if_neg beyond, Option.bind_some, bare, Option.bind_none,
          advance_descend_eq missing bound, if_neg (by omega)]
        simp [advance]
      rw [if_neg through]
      cases walked : trie.find? before with
      | none =>
          have aside : before ++ [letter] ≠ path ++ [symbol] := by
            intro same
            obtain ⟨rfl, _⟩ := List.append_inj' same rfl
            rw [found] at walked
            contradiction
          rw [if_neg aside, Option.bind_none, Option.bind_none]
      | some reached =>
          rw [Option.bind_some, Option.bind_some, advance_descend_eq missing bound]
          refine if_congr ⟨?_, ?_⟩ rfl rfl
          · rintro ⟨rfl, rfl⟩
            rw [tree.find?_injective walked found]
          · intro same
            obtain ⟨rfl, letters⟩ := List.append_inj' same rfl
            rw [found] at walked
            exact ⟨by simpa using walked.symm, by simpa using letters⟩

theorem Tree.descend (tree : trie.Tree) : (trie.descend node symbol).2.Tree where
  toLinked := linked_descend missing tree.toLinked bound
  unnamed := (kind?_descend missing root).trans tree.unnamed
  entered child positive childBound := by
    have size := size_descend missing
    by_cases new : child = trie.nodes.size
    · exact ⟨node, symbol, by rw [advance_descend_eq missing bound, new]; simp⟩
    · obtain ⟨parent, letter, edge⟩ := tree.entered child positive (by omega)
      refine ⟨parent, letter, ?_⟩
      rw [advance_descend_eq missing bound, if_neg, edge]
      rintro ⟨rfl, rfl⟩
      rw [missing] at edge
      contradiction
  unique edge edgeToo := by
    rw [advance_descend_eq missing bound] at edge edgeToo
    split_ifs at edge edgeToo with one two two
    · exact ⟨one.1.trans two.1.symm, one.2.trans two.2.symm⟩
    · obtain rfl := Option.some.inj edge
      exact absurd (tree.edge edgeToo).2.1 (Nat.lt_irrefl _)
    · obtain rfl := Option.some.inj edgeToo
      exact absurd (tree.edge edge).2.1 (Nat.lt_irrefl _)
    · exact tree.unique edge edgeToo

end NewChild

/-- A new child has no label, so nothing new is found at its sequence. -/
theorem bind_find?_descend {α : Type} {before after : NodeId → Option α}
    (missing : trie.advance node symbol = none) (tree : trie.Tree)
    (found : trie.find? path = some node) (same : ∀ other, after other = before other)
    (unlabelled : before trie.nodes.size = none) (passed : List Char) :
    ((trie.descend node symbol).2.find? passed).bind after = (trie.find? passed).bind before := by
  have bound := (tree.find?_bound found).1
  rw [find?_descend missing bound tree found, funext same]
  split
  case isTrue ends =>
    have absent : trie.find? passed = none := by
      rw [ends, find?_concat, found, Option.bind_some, missing]
    rw [absent, Option.bind_some, unlabelled, Option.bind_none]
  case isFalse => rfl

theorem extends_descend (tree : trie.Tree) (found : trie.find? path = some node)
    (symbol : Char) :
    Extends trie (trie.descend node symbol).2 (path ++ [symbol]) (trie.descend node symbol).1 := by
  have bound := (tree.find?_bound found).1
  cases edge : trie.advance node symbol with
  | some child =>
      have same : trie.descend node symbol = (child, trie) := by simp [descend, edge]
      rw [same]
      exact .refl tree (find?_snoc found edge)
  | none =>
      have child : (trie.descend node symbol).1 = trie.nodes.size := by simp [descend, edge]
      have walks := find?_descend edge bound tree found
      rw [child]
      refine ⟨Tree.descend edge bound tree, by rw [walks, if_pos rfl], ?_, ?_, ?_, ?_⟩
      · intro passed reached walked
        rw [walks, if_neg, walked]
        rintro rfl
        rw [find?_concat, found, Option.bind_some, edge] at walked
        contradiction
      · intro passed
        rw [walks]
        split
        case isTrue same =>
          simp [same]
        case isFalse different =>
          refine ⟨Or.inl, fun walked => walked.elim id fun begins => ?_⟩
          rcases List.prefix_concat_iff.mp begins with same | earlier
          · exact absurd same different
          · exact find?_isSome_of_begins (Option.isSome_of_eq_some found) earlier
      · exact bind_find?_descend edge tree found (kind?_descend edge) (by simp [kind?])
      · exact bind_find?_descend edge tree found (binding?_descend edge) (by simp [binding?])

theorem extends_descendAll (tree : trie.Tree) (found : trie.find? path = some node)
    (sequence : List Char) :
    Extends trie (trie.descendAll node sequence).2 (path ++ sequence)
      (trie.descendAll node sequence).1 := by
  induction sequence generalizing trie path node with
  | nil =>
      rw [List.append_nil]
      exact .refl tree found
  | cons symbol rest ih =>
      have first := extends_descend tree found symbol
      have whole := first.trans (ih first.tree first.ends)
      rwa [List.append_assoc, List.singleton_append] at whole

/-! ## Labels -/

section Relabels

variable {change : Node → Node} (relabels : Relabels change)

include relabels

theorem Relabels.find? (trie : Trie) (node : Nat) (sequence : List Char) :
    (trie.modifyNode node change).find? sequence = trie.find? sequence := by
  suffices general : ∀ start, (trie.modifyNode node change).walkFrom start sequence =
      trie.walkFrom start sequence from general root
  induction sequence with
  | nil => exact fun _ => rfl
  | cons symbol rest ih =>
      intro start
      simp only [walkFrom, relabels.advance, ih]

theorem Relabels.tree (tree : trie.Tree) (node : Nat)
    (unnamed : (trie.modifyNode node change).kind? root = none) :
    (trie.modifyNode node change).Tree where
  toLinked := relabels.linked tree.toLinked node
  unnamed := unnamed
  entered other positive bound := by
    simp only [relabels.advance]
    exact tree.entered other positive (by simpa [modifyNode] using bound)
  unique edge edgeToo := by
    rw [relabels.advance] at edge edgeToo
    exact tree.unique edge edgeToo

end Relabels

theorem relabels_kind (kind : Kind) : Relabels fun found => { found with kind := some kind } :=
  ⟨fun _ => rfl, fun _ => rfl⟩

theorem relabels_binding (reader : Nat) :
    Relabels fun found => { found with binding := some reader } :=
  ⟨fun _ => rfl, fun _ => rfl⟩

theorem Tree.setKind (tree : trie.Tree) (positive : 0 < node) (kind : Kind) :
    (trie.setKind node kind).Tree := by
  refine (relabels_kind kind).tree tree node ?_
  have elsewhere : node ≠ root := Nat.ne_of_gt positive
  rw [← Trie.setKind, kind?_setKind, if_neg fun both => elsewhere both.1, tree.unnamed]

theorem Tree.setBinding (tree : trie.Tree) (node reader : Nat) :
    (trie.setBinding node reader).Tree :=
  (relabels_binding reader).tree tree node
    ((kind?_setBinding trie node root reader).trans tree.unnamed)

@[simp]
theorem find?_setKind (trie : Trie) (node : Nat) (kind : Kind) (sequence : List Char) :
    (trie.setKind node kind).find? sequence = trie.find? sequence :=
  (relabels_kind kind).find? trie node sequence

@[simp]
theorem find?_setBinding (trie : Trie) (node reader : Nat) (sequence : List Char) :
    (trie.setBinding node reader).find? sequence = trie.find? sequence :=
  (relabels_binding reader).find? trie node sequence

section Labels

variable (tree : trie.Tree) (found : trie.find? sequence = some node)

include tree found

/-- A label that is read off at the end of every sequence and that a change of the node at
the end of `sequence` sets there. -/
theorem bind_find?_eq {α : Type} {read before : NodeId → Option α} {value : α}
    (set : ∀ other, read other =
      if node = other ∧ other < trie.nodes.size then some value else before other)
    (passed : List Char) :
    (trie.find? passed).bind read =
      if passed = sequence then some value else (trie.find? passed).bind before := by
  by_cases same : passed = sequence
  · rw [if_pos same, same, found, Option.bind_some, set,
      if_pos ⟨rfl, (tree.find?_bound found).1⟩]
  rw [if_neg same]
  cases walked : trie.find? passed with
  | none => rfl
  | some other =>
      rw [Option.bind_some, Option.bind_some, set, if_neg]
      rintro ⟨rfl, _⟩
      exact same (tree.find?_injective walked found)

theorem kindOf?_setKind (kind : Kind) (passed : List Char) :
    (trie.setKind node kind).kindOf? passed =
      if passed = sequence then some kind else trie.kindOf? passed := by
  rw [kindOf?, find?_setKind]
  exact bind_find?_eq tree found (fun other => kind?_setKind trie node other kind) passed

theorem bindingOf?_setBinding (reader : Nat) (passed : List Char) :
    (trie.setBinding node reader).bindingOf? passed =
      if passed = sequence then some reader else trie.bindingOf? passed := by
  rw [bindingOf?, find?_setBinding]
  exact bind_find?_eq tree found (fun other => binding?_setBinding trie node other reader) passed

end Labels

@[simp]
theorem bindingOf?_setKind (trie : Trie) (node : Nat) (kind : Kind) (passed : List Char) :
    (trie.setKind node kind).bindingOf? passed = trie.bindingOf? passed := by
  rw [bindingOf?, bindingOf?, find?_setKind]
  exact congrArg _ (funext fun other => binding?_setKind trie node other kind)

@[simp]
theorem kindOf?_setBinding (trie : Trie) (node reader : Nat) (passed : List Char) :
    (trie.setBinding node reader).kindOf? passed = trie.kindOf? passed := by
  rw [kindOf?, kindOf?, find?_setBinding]
  exact congrArg _ (funext fun other => kind?_setBinding trie node other reader)

/-! ## Insertion -/

/-- What can be observed of a trie after it has accepted a sequence. -/
structure Accepted (trie : Trie) (sequence : List Char) (kind : Kind) (binding : Option Nat)
    (node : NodeId) (grown : Trie) : Prop where
  nonempty : sequence ≠ []
  ends : grown.find? sequence = some node
  isSome_iff : ∀ passed, (grown.find? passed).isSome = true ↔
    (trie.find? passed).isSome = true ∨ passed <+: sequence
  kindOf?_eq : ∀ passed, grown.kindOf? passed =
    if passed = sequence then some kind else trie.kindOf? passed
  bindingOf?_eq : ∀ passed, grown.bindingOf? passed =
    if passed = sequence then binding.or (trie.bindingOf? passed) else trie.bindingOf? passed
  sameKind : ∀ earlier, trie.kindOf? sequence = some earlier → earlier = kind
  sameBinding : ∀ reader earlier, binding = some reader →
    trie.bindingOf? sequence = some earlier → earlier = reader

theorem eq_of_filter_ne {α : Type} [DecidableEq α] {known : Option α} {wanted : α}
    (agrees : known.filter (· ≠ wanted) = none) {earlier : α} (present : known = some earlier) :
    earlier = wanted := by
  subst present
  by_contra different
  simp [Option.filter, different] at agrees

/-- What an insertion can leave, accepted or refused. -/
inductive Outcome (trie : Trie) (sequence : List Char) (kind : Kind) : Trie → Prop
  | grown {grown : Trie} {node : NodeId} : Extends trie grown sequence node →
      Outcome trie sequence kind grown
  | named {grown : Trie} {node : NodeId} : Extends trie grown sequence node → 0 < node →
      (∀ earlier, trie.kindOf? sequence = some earlier → earlier = kind) →
      Outcome trie sequence kind (grown.setKind node kind)
  | bound {grown : Trie} {node : NodeId} (reader : Nat) : Extends trie grown sequence node →
      0 < node → (∀ earlier, trie.kindOf? sequence = some earlier → earlier = kind) →
      Outcome trie sequence kind ((grown.setKind node kind).setBinding node reader)

theorem Tree.outcome (tree : trie.Tree) (sequence : String) (kind : Kind)
    (binding : Option Nat) :
    Outcome trie sequence.toList kind (trie.insert sequence kind binding).2 := by
  have grows := extends_descendAll tree (find?_nil trie) sequence.toList
  rw [List.nil_append] at grows
  unfold Trie.insert
  by_cases given : sequence.isEmpty = true
  · have nothing : sequence.toList = [] := by simpa using given
    rw [if_pos given, nothing]
    exact .grown (.refl tree (find?_nil trie))
  rw [if_neg given]
  have positive := grows.tree.pos_of_find? grows.ends (by simpa using given)
  dsimp only
  cases agrees : ((trie.descendAll root sequence.toList).2.kind?
      (trie.descendAll root sequence.toList).1).filter (· ≠ kind) with
  | some other => exact .grown grows
  | none =>
      have same : ∀ earlier, trie.kindOf? sequence.toList = some earlier → earlier = kind := by
        intro earlier present
        rw [← grows.kindOf?_eq, kindOf?_of_find? grows.ends] at present
        exact eq_of_filter_ne agrees present
      cases binding with
      | none => exact .named grows positive same
      | some reader =>
          dsimp only
          split
          · exact .named grows positive same
          · exact .bound _ grows positive same

namespace Outcome

variable {kind found : Kind} {passed : List Char}

theorem tree (outcome : Outcome trie sequence kind grown) : grown.Tree := by
  cases outcome with
  | grown grows => exact grows.tree
  | named grows positive => exact grows.tree.setKind positive kind
  | bound reader grows positive => exact (grows.tree.setKind positive kind).setBinding _ reader

/-- Every walk goes on to where it went. -/
theorem find?_old (outcome : Outcome trie sequence kind grown)
    (walked : trie.find? passed = some node) : grown.find? passed = some node := by
  cases outcome with
  | grown grows => exact grows.old walked
  | named grows | bound _ grows => simpa using grows.old walked

theorem kindOf?_named (grows : Extends trie grown sequence node) :
    (grown.setKind node kind).kindOf? = fun passed =>
      if passed = sequence then some kind else trie.kindOf? passed := by
  funext passed
  rw [kindOf?_setKind grows.tree grows.ends, grows.kindOf?_eq]

/-- The kinds that are found are the old ones, but perhaps for the one of the new sequence. -/
theorem kindOf?_eq (outcome : Outcome trie sequence kind grown) :
    grown.kindOf? = trie.kindOf? ∨
      (∀ earlier, trie.kindOf? sequence = some earlier → earlier = kind) ∧
        grown.kindOf? = fun passed =>
          if passed = sequence then some kind else trie.kindOf? passed := by
  cases outcome with
  | grown grows => exact Or.inl (funext grows.kindOf?_eq)
  | named grows _ same => exact Or.inr ⟨same, kindOf?_named grows⟩
  | bound reader grows _ same =>
      exact Or.inr ⟨same, (funext (kindOf?_setBinding _ _ reader)).trans (kindOf?_named grows)⟩

/-- Every kind that was found is found again. -/
theorem kindOf?_old (outcome : Outcome trie sequence kind grown)
    (present : trie.kindOf? passed = some found) : grown.kindOf? passed = some found := by
  rcases outcome.kindOf?_eq with same | ⟨agrees, set⟩
  · rw [same, present]
  · simp only [set]
    split
    case isTrue here => rw [agrees found (here ▸ present)]
    case isFalse => exact present

/-- Every kind that is found was found before, or is the new one at the end of the new
sequence. -/
theorem kindOf?_cases (outcome : Outcome trie sequence kind grown)
    (present : grown.kindOf? passed = some found) :
    trie.kindOf? passed = some found ∨ passed = sequence ∧ found = kind := by
  rcases outcome.kindOf?_eq with same | ⟨_, set⟩
  · exact Or.inl (same ▸ present)
  · simp only [set] at present
    split at present
    case isTrue here => exact Or.inr ⟨here, (Option.some.inj present).symm⟩
    case isFalse => exact Or.inl present

end Outcome

/-- Insertions, accepted or refused, leave a tree. -/
theorem Tree.insert (tree : trie.Tree) (sequence : String) (kind : Kind)
    (binding : Option Nat) : (trie.insert sequence kind binding).2.Tree :=
  (tree.outcome sequence kind binding).tree

/-- How an insertion is accepted: neither another kind nor another reader is in the way. -/
theorem insert_ok {sequence : String} {kind : Kind} {binding : Option Nat}
    (accepted : (trie.insert sequence kind binding).1 = .ok node) :
    sequence.toList ≠ [] ∧ ∃ middle, trie.descendAll root sequence.toList = (node, middle) ∧
      (∀ earlier, middle.kind? node = some earlier → earlier = kind) ∧
      (∀ reader earlier, binding = some reader → middle.binding? node = some earlier →
        earlier = reader) ∧
      (trie.insert sequence kind binding).2 =
        (binding.map ((middle.setKind node kind).setBinding node)).getD
          (middle.setKind node kind) := by
  unfold insert at accepted ⊢
  by_cases given : sequence.isEmpty = true
  · simp [given] at accepted
  rw [if_neg given] at accepted ⊢
  refine ⟨by simpa using given, ?_⟩
  rcases descended : trie.descendAll root sequence.toList with ⟨last, middle⟩
  rw [descended] at accepted
  dsimp only at accepted ⊢
  cases conflict : (middle.kind? last).filter (· ≠ kind) with
  | some existing =>
      rw [conflict] at accepted
      simp at accepted
  | none =>
      rw [conflict] at accepted
      rw [← setKind] at accepted ⊢
      cases binding with
      | none =>
          obtain rfl : last = node := by simpa using accepted
          exact ⟨middle, rfl, fun _ => eq_of_filter_ne conflict, by simp, rfl⟩
      | some reader =>
          dsimp only at accepted ⊢
          cases taken : ((middle.setKind last kind).binding? last).filter (· ≠ reader) with
          | some existing =>
              rw [taken] at accepted
              simp at accepted
          | none =>
              rw [taken] at accepted
              obtain rfl : last = node := by simpa using accepted
              refine ⟨middle, rfl, fun _ => eq_of_filter_ne conflict, ?_, rfl⟩
              rintro given earlier same present
              obtain rfl := Option.some.inj same
              exact eq_of_filter_ne taken (by simpa using present)

/-- An accepted insertion decides what is found at its sequence. -/
theorem Tree.insert_accepted (tree : trie.Tree) {sequence : String} {kind : Kind}
    {binding : Option Nat} (accepted : (trie.insert sequence kind binding).1 = .ok node) :
    Accepted trie sequence.toList kind binding node (trie.insert sequence kind binding).2 := by
  obtain ⟨nonempty, middle, descended, kindAgrees, bindingAgrees, result⟩ := insert_ok accepted
  have grows := extends_descendAll tree (find?_nil trie) sequence.toList
  rw [List.nil_append, descended] at grows
  dsimp only at grows
  have kinds := kindOf?_setKind grows.tree grows.ends kind
  have sameKind : ∀ earlier, trie.kindOf? sequence.toList = some earlier → earlier = kind := by
    intro earlier present
    rw [← grows.kindOf?_eq, kindOf?_of_find? grows.ends] at present
    exact kindAgrees earlier present
  have sameBinding : ∀ reader earlier, binding = some reader →
      trie.bindingOf? sequence.toList = some earlier → earlier = reader := by
    intro reader earlier given present
    rw [← grows.bindingOf?_eq, bindingOf?_of_find? grows.ends] at present
    exact bindingAgrees reader earlier given present
  rw [result]
  cases binding with
  | none =>
      exact {
        nonempty, sameKind, sameBinding
        ends := by simpa using grows.ends
        isSome_iff := by simpa using grows.isSome_iff
        kindOf?_eq := by simpa [grows.kindOf?_eq] using kinds
        bindingOf?_eq := by simp [grows.bindingOf?_eq] }
  | some reader =>
      have positive := grows.tree.pos_of_find? grows.ends nonempty
      have bindings := bindingOf?_setBinding (grows.tree.setKind positive kind)
        ((find?_setKind middle node kind sequence.toList).trans grows.ends) reader
      exact {
        nonempty, sameKind, sameBinding
        ends := by simpa using grows.ends
        isSome_iff := by simpa using grows.isSome_iff
        kindOf?_eq := by simpa [grows.kindOf?_eq] using kinds
        bindingOf?_eq := by simpa [grows.bindingOf?_eq] using bindings }

end Lexing.Trie
