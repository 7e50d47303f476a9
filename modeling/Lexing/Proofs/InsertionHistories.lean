import Lexing.Proofs.FrozenTries
import Lexing.Proofs.Registrations
import Mathlib.Data.List.Dedup
import Mathlib.Data.List.Infix

/-!
# Histories of insertions

A trie is determined by the insertions that it has accepted.  A refused insertion leaves it
as it was: what is in its way stands at the end of the sequence, so the sequence can be
walked already and no node is missing, and a sequence that is bound to a reader has its kind
already.  After any history the trie, frozen, is the finite map of the accepted sequences.
-/

namespace Lexing.Trie

variable {trie : Trie} {node last : Nat} {sequence passed : List Char}

structure Insertion where
  sequence : String
  kind : Kind
  binding : Option Nat := none
deriving Repr, DecidableEq

namespace Insertion

/-- The answer to the call and the trie afterwards. -/
def answer (call : Insertion) (trie : Trie) : Except InsertError NodeId × Trie :=
  trie.insert call.sequence call.kind call.binding

/-- The trie after a number of calls, accepted or refused. -/
def performAll : Trie → List Insertion → Trie
  | trie, [] => trie
  | trie, call :: rest => performAll (call.answer trie).2 rest

def accepted : Trie → List Insertion → List Insertion
  | _, [] => []
  | trie, call :: rest =>
      match call.answer trie with
      | (.ok _, grown) => call :: accepted grown rest
      | (.error _, grown) => accepted grown rest

/-- The kind that the first call for a sequence gives it. -/
def firstKind? (calls : List Insertion) (sequence : List Char) : Option Kind :=
  (calls.find? fun call => call.sequence.toList = sequence).map kind

/-- The first reader that a call binds to a sequence. -/
def firstBinding? (calls : List Insertion) (sequence : List Char) : Option Nat :=
  calls.findSome? fun call => if call.sequence.toList = sequence then call.binding else none

/-- The different beginnings of the sequences, without the empty one. -/
def beginnings (calls : List Insertion) : List (List Char) :=
  ((calls.flatMap fun call => call.sequence.toList.inits).filter (· ≠ [])).dedup

end Insertion

/-! ## Refused insertions -/

theorem descendAll_of_walkFrom (walked : trie.walkFrom node sequence = some last) :
    trie.descendAll node sequence = (last, trie) := by
  induction sequence generalizing node with
  | nil =>
      obtain rfl := Option.some.inj walked
      rfl
  | cons symbol rest ih =>
      simp only [walkFrom] at walked
      cases edge : trie.advance node symbol with
      | none => simp [edge] at walked
      | some child =>
          rw [edge] at walked
          simp only [descendAll, descend, edge, ih walked]

/-- Ending a sequence with the kind that it has changes nothing. -/
theorem setKind_of_kind? {kind : Kind} (known : trie.kind? node = some kind) :
    trie.setKind node kind = trie := by
  obtain ⟨nodes⟩ := trie
  simp only [setKind, modifyNode, Trie.mk.injEq]
  apply Array.ext_getElem?
  intro index
  rw [Array.getElem?_modify]
  split
  case isTrue same =>
    subst same
    obtain ⟨found, present, ended⟩ := Option.bind_eq_some_iff.mp known
    rw [present, Option.map_some]
    rw [← ended]
  case isFalse => rfl

/-- A sequence is bound to a reader only if it has a kind. -/
def Labelled (trie : Trie) : Prop :=
  ∀ sequence, (trie.bindingOf? sequence).isSome = true → (trie.kindOf? sequence).isSome = true

/-- Where a sequence has been walked before, an insertion is refused before it changes
anything. -/
theorem insert_of_walked (labelled : trie.Labelled) {text : String} {kind : Kind}
    {binding : Option Nat} {error : InsertError} (walked : trie.find? text.toList = some last)
    (refused : (trie.insert text kind binding).1 = .error error) :
    (trie.insert text kind binding).2 = trie := by
  unfold Trie.insert at refused ⊢
  rw [descendAll_of_walkFrom walked] at refused ⊢
  dsimp only at refused ⊢
  by_cases given : text.isEmpty = true
  · rw [if_pos given]
  rw [if_neg given] at refused ⊢
  cases agrees : (trie.kind? last).filter (· ≠ kind) with
  | some earlier => rfl
  | none =>
      rw [agrees] at refused
      cases binding with
      | none => simp at refused
      | some reader =>
          dsimp only at refused ⊢
          rw [← setKind, binding?_setKind] at refused ⊢
          cases conflict : (trie.binding? last).filter (· ≠ reader) with
          | none =>
              rw [conflict] at refused
              simp at refused
          | some earlier =>
              -- The sequence is bound to another reader, so it has a kind: the given one.
              have bound : trie.binding? last = some earlier :=
                (Option.filter_eq_some_iff.mp conflict).1
              have ended : (trie.kind? last).isSome = true := by
                rw [← kindOf?_of_find? walked]
                apply labelled
                rw [bindingOf?_of_find? walked, bound]
                rfl
              obtain ⟨present, known⟩ := Option.isSome_iff_exists.mp ended
              obtain rfl := eq_of_filter_ne agrees known
              exact setKind_of_kind? known

/-- At the end of a new path nothing is in the way. -/
theorem Tree.exists_of_unwalked (tree : trie.Tree) {text : String} (given : text.isEmpty = false)
    (unwalked : trie.find? text.toList = none) (kind : Kind) (binding : Option Nat) :
    ∃ node, (trie.insert text kind binding).1 = .ok node := by
  have grows := extends_descendAll tree (find?_nil trie) text.toList
  rw [List.nil_append] at grows
  have unnamed : (trie.descendAll root text.toList).2.kind?
      (trie.descendAll root text.toList).1 = none := by
    rw [← kindOf?_of_find? grows.ends, grows.kindOf?_eq, kindOf?, unwalked, Option.bind_none]
  have unbound : (trie.descendAll root text.toList).2.binding?
      (trie.descendAll root text.toList).1 = none := by
    rw [← bindingOf?_of_find? grows.ends, grows.bindingOf?_eq, bindingOf?, unwalked,
      Option.bind_none]
  unfold Trie.insert
  rw [if_neg (by simp [given])]
  dsimp only
  rw [unnamed, Option.filter_none]
  cases binding with
  | none => exact ⟨_, rfl⟩
  | some reader =>
      dsimp only
      rw [← Trie.setKind, binding?_setKind, unbound, Option.filter_none]
      exact ⟨_, rfl⟩

/-- A refused insertion leaves a trie as it was. -/
theorem Tree.insert_of_error (tree : trie.Tree) (labelled : trie.Labelled) {text : String}
    {kind : Kind} {binding : Option Nat} {error : InsertError}
    (refused : (trie.insert text kind binding).1 = .error error) :
    (trie.insert text kind binding).2 = trie := by
  cases walked : trie.find? text.toList with
  | some last => exact insert_of_walked labelled walked refused
  | none =>
      cases given : text.isEmpty with
      | true =>
          unfold Trie.insert
          rw [if_pos given]
      | false =>
          obtain ⟨node, accepted⟩ := tree.exists_of_unwalked given walked kind binding
          rw [accepted] at refused
          contradiction

/-! ## Records -/

/-- What can be observed of a trie is what the given insertions say. -/
structure Records (trie : Trie) (kept : List Insertion) : Prop extends Tree trie, Sound trie where
  keyed : trie.Keyed
  isSome_iff : ∀ passed, (trie.find? passed).isSome = true ↔
    passed = [] ∨ ∃ call ∈ kept, passed <+: call.sequence.toList
  kindOf?_eq : ∀ passed, trie.kindOf? passed = Insertion.firstKind? kept passed
  bindingOf?_eq : ∀ passed, trie.bindingOf? passed = Insertion.firstBinding? kept passed

namespace Insertion

variable {kept : List Insertion} {call : Insertion}

theorem firstKind?_concat (kept : List Insertion) (call : Insertion) (passed : List Char) :
    firstKind? (kept ++ [call]) passed =
      (firstKind? kept passed).or
        (if passed = call.sequence.toList then some call.kind else none) := by
  rw [firstKind?, List.find?_append, Option.map_or, List.find?_singleton, firstKind?]
  by_cases ends : call.sequence.toList = passed
  · simp [ends]
  · simp [ends, Ne.symm ends]

theorem firstBinding?_concat (kept : List Insertion) (call : Insertion) (passed : List Char) :
    firstBinding? (kept ++ [call]) passed =
      (firstBinding? kept passed).or
        (if passed = call.sequence.toList then call.binding else none) := by
  simp only [firstBinding?, List.findSome?_append, List.findSome?_singleton, eq_comm]

/-- A call that binds a reader to a sequence gives it a kind as well. -/
theorem firstKind?_isSome_of_firstBinding? {passed : List Char}
    (bound : (firstBinding? kept passed).isSome = true) :
    (firstKind? kept passed).isSome = true := by
  obtain ⟨call, member, binds⟩ := List.findSome?_isSome_iff.mp bound
  rw [firstKind?, Option.isSome_map, List.find?_isSome]
  refine ⟨call, member, ?_⟩
  split at binds
  · simpa
  · simp at binds

end Insertion

open Insertion (firstKind? firstBinding? firstKind?_concat firstBinding?_concat)

theorem empty_records : empty.Records [] where
  toTree := empty_tree
  ended := empty_sound.ended
  keyed := empty_keyed
  isSome_iff passed := by simp [find?_empty]
  kindOf?_eq passed := by simp [kindOf?, firstKind?]
  bindingOf?_eq passed := by simp [bindingOf?, firstBinding?]

namespace Records

variable {kept : List Insertion} {call : Insertion} {passed : List Char}

theorem labelled (records : trie.Records kept) : trie.Labelled := by
  intro sequence bound
  rw [records.bindingOf?_eq] at bound
  rw [records.kindOf?_eq]
  exact Insertion.firstKind?_isSome_of_firstBinding? bound

/-- An accepted insertion is recorded as the newest. -/
theorem insert_accepted (records : trie.Records kept)
    (accepted : (call.answer trie).1 = .ok node) :
    (call.answer trie).2.Records (kept ++ [call]) := by
  have inserted := records.toTree.insert_accepted accepted
  have sound := records.toSound.insert call.sequence call.kind call.binding
  constructor
  · exact records.toTree.insert _ _ _
  · exact sound.ended
  · exact records.keyed.insert _ _ _
  · intro passed
    rw [Insertion.answer, inserted.isSome_iff, records.isSome_iff, or_assoc]
    simp [or_and_right, exists_or]
  · intro passed
    rw [Insertion.answer, inserted.kindOf?_eq, firstKind?_concat, ← records.kindOf?_eq]
    split
    case isTrue ends =>
      subst ends
      cases earlier : trie.kindOf? call.sequence.toList with
      | none => rfl
      | some kind => rw [inserted.sameKind kind earlier, Option.some_or]
    case isFalse => rw [Option.or_none]
  · intro passed
    rw [Insertion.answer, inserted.bindingOf?_eq, firstBinding?_concat, ← records.bindingOf?_eq]
    split
    case isTrue ends =>
      subst ends
      cases earlier : trie.bindingOf? call.sequence.toList with
      | none => rw [Option.or_none, Option.none_or]
      | some number =>
          cases given : call.binding with
          | none => rfl
          | some reader => rw [inserted.sameBinding reader number given earlier]
    case isFalse => rw [Option.or_none]

/-- A refused insertion leaves no trace. -/
theorem insert_refused (records : trie.Records kept) {error : InsertError}
    (refused : (call.answer trie).1 = .error error) : (call.answer trie).2 = trie :=
  records.toTree.insert_of_error records.labelled refused

/-- After any history a trie records the insertions that were accepted. -/
theorem performAll (records : trie.Records kept) (calls : List Insertion) :
    (Insertion.performAll trie calls).Records (kept ++ Insertion.accepted trie calls) := by
  induction calls generalizing trie kept with
  | nil =>
      rw [Insertion.accepted, List.append_nil]
      exact records
  | cons call rest ih =>
      unfold Insertion.performAll Insertion.accepted
      rcases answered : call.answer trie with ⟨error | node, grown⟩
      · have same := records.insert_refused (congrArg Prod.fst answered)
        rw [answered] at same
        subst same
        exact ih records
      · have grows := records.insert_accepted (congrArg Prod.fst answered)
        rw [answered] at grows
        have whole := ih grows
        rwa [List.append_assoc, List.singleton_append] at whole

/-- A longer sequence goes on at the end of every proper beginning. -/
theorem hasChildren_iff (records : trie.Records kept) (found : trie.find? passed = some node) :
    trie.hasChildren node = true ↔
      ∃ call ∈ kept, passed <+: call.sequence.toList ∧ passed ≠ call.sequence.toList := by
  have edge (symbol : Char) : (trie.find? (passed ++ [symbol])).isSome = true ↔
      ∃ child, trie.advance node symbol = some child := by
    rw [find?_concat, found, Option.bind_some, Option.isSome_iff_exists]
  rw [Trie.hasChildren_iff]
  constructor
  · rintro ⟨symbol, child, leads⟩
    have longer := (edge symbol).mpr ⟨child, leads⟩
    obtain nothing | ⟨call, member, begins⟩ := (records.isSome_iff _).mp longer
    · simp at nothing
    · refine ⟨call, member, (List.prefix_append passed [symbol]).trans begins, ?_⟩
      rintro rfl
      have length := begins.length_le
      rw [List.length_append, List.length_singleton] at length
      omega
  · rintro ⟨call, member, ⟨rest, whole⟩, different⟩
    cases rest with
    | nil =>
        rw [List.append_nil] at whole
        exact absurd whole different
    | cons symbol rest =>
        apply Exists.intro symbol
        apply (edge symbol).mp
        apply (records.isSome_iff _).mpr
        exact Or.inr ⟨call, member, rest, by simpa using whole⟩

/-- Every node but the root belongs to one beginning. -/
theorem nodeCount_eq (records : trie.Records kept) :
    trie.nodeCount = 1 + (Insertion.beginnings kept).length := by
  have walks (passed : List Char) : passed ∈ Insertion.beginnings kept ↔
      passed ≠ [] ∧ (trie.find? passed).isSome = true := by
    rw [records.isSome_iff]
    simp only [Insertion.beginnings, List.mem_dedup, List.mem_filter, List.mem_flatMap,
      List.mem_inits, decide_eq_true_eq]
    tauto
  have distinct : ((Insertion.beginnings kept).map trie.find?).Nodup := by
    apply List.Nodup.map_on _ (List.nodup_dedup _)
    intro first listed second _ same
    obtain ⟨node, walked⟩ := Option.isSome_iff_exists.mp ((walks first).mp listed).2
    exact records.find?_injective walked (same ▸ walked)
  have perm : ((Insertion.beginnings kept).map trie.find?).Perm
      ((List.range' 1 (trie.nodes.size - 1)).map some) := by
    have numbers := List.Nodup.map (fun _ _ => Option.some.inj)
      (List.nodup_range' (s := 1) (n := trie.nodes.size - 1))
    apply (List.perm_ext_iff_of_nodup distinct numbers).mpr
    intro reached
    simp only [List.mem_map, List.mem_range'_1, walks]
    constructor
    · rintro ⟨passed, ⟨nonempty, walked⟩, rfl⟩
      obtain ⟨node, walked⟩ := Option.isSome_iff_exists.mp walked
      have positive := records.pos_of_find? walked nonempty
      have bound := (records.find?_bound walked).1
      exact ⟨node, by omega, walked.symm⟩
    · rintro ⟨node, within, rfl⟩
      have bound : node < trie.nodes.size := by omega
      obtain ⟨passed, walked⟩ := records.exists_find? bound
      refine ⟨passed, ⟨?_, by simp [walked]⟩, walked⟩
      rintro rfl
      obtain rfl := Option.some.inj walked
      exact absurd within.1 (by decide)
  have length := perm.length_eq
  rw [List.length_map, List.length_map, List.length_range'] at length
  have positive := records.size_pos
  unfold nodeCount
  omega

end Records

/-! ## Frozen tries as maps -/

open Insertion (beginnings accepted)

/-- A frozen trie is the finite map that the given insertions describe: to its nodes belong
the different beginnings of their sequences, and a sequence has the kind and the reader that
it was given first. -/
structure Frozen.Maps (frozen : Frozen) (kept : List Insertion) : Prop where
  walks : ∀ sequence, sequence ≠ [] → ((frozen.find? sequence).isSome = true ↔
    ∃ call ∈ kept, sequence <+: call.sequence.toList)
  kinds : ∀ sequence node, frozen.find? sequence = some node →
    frozen.kind? node = firstKind? kept sequence
  bindings : ∀ sequence node, frozen.find? sequence = some node →
    frozen.binding? node = firstBinding? kept sequence
  goesOn : ∀ sequence node, frozen.find? sequence = some node →
    (frozen.hasChildren node = true ↔
      ∃ call ∈ kept, sequence <+: call.sequence.toList ∧ sequence ≠ call.sequence.toList)
  ended : ∀ node, node ≠ root → node < frozen.nodeCount → frozen.hasChildren node = false →
    (frozen.kind? node).isSome = true
  nodeCount_eq : frozen.nodeCount = 1 + (beginnings kept).length

theorem Records.maps {kept : List Insertion} (records : trie.Records kept) (listing : Listing) :
    (trie.freeze listing).Maps kept := by
  have mirrors := Frozen.mirrors_freeze records.keyed listing
  constructor
  · intro sequence nonempty
    rw [mirrors.find?, records.isSome_iff, or_iff_right nonempty]
  · intro sequence node found
    rw [mirrors.find?] at found
    rw [mirrors.kind?, ← kindOf?_of_find? found, records.kindOf?_eq]
  · intro sequence node found
    rw [mirrors.find?] at found
    rw [mirrors.binding?, ← bindingOf?_of_find? found, records.bindingOf?_eq]
  · intro sequence node found
    rw [mirrors.find?] at found
    rw [mirrors.hasChildren]
    exact records.hasChildren_iff found
  · intro node elsewhere bound childless
    rw [mirrors.nodeCount] at bound
    rw [mirrors.hasChildren] at childless
    rw [mirrors.kind?]
    exact records.ended node (Nat.pos_of_ne_zero elsewhere) bound childless
  · rw [mirrors.nodeCount]
    exact records.nodeCount_eq

/-- After any history of insertions a refused one leaves the trie as it was, and the trie,
frozen, is the finite map of the accepted ones, whose nodes have the numbers that they had.
The orders in which the nodes hand out their edges leave no trace. -/
theorem frozen_maps (calls : List Insertion) :
    let trie := Insertion.performAll empty calls
    (∀ (call : Insertion) (error : InsertError), (call.answer trie).1 = .error error →
      (call.answer trie).2 = trie) ∧
    ∀ listing : Listing,
      (∀ sequence, (trie.freeze listing).find? sequence = trie.find? sequence) ∧
      (trie.freeze listing).Maps (accepted empty calls) ∧
      ∀ other : Listing, trie.freeze listing = trie.freeze other := by
  intro trie
  have records : trie.Records (accepted empty calls) := empty_records.performAll calls
  constructor
  · intro call error refused
    exact records.insert_refused refused
  · intro listing
    refine ⟨(Frozen.mirrors_freeze records.keyed listing).find?, records.maps listing, ?_⟩
    intro other
    exact Frozen.freeze_eq records.keyed listing other

/-- Another kind, nothing at all and another reader are refused. -/
theorem frozen_maps_refused :
    let calls : List Insertion := [⟨"+=", .operator 1, none⟩, ⟨"+=", .operator 2, none⟩,
      ⟨"", .operator 2, none⟩, ⟨"<<", .operator 3, some 0⟩]
    let trie := Insertion.performAll empty calls
    let rival : Insertion := ⟨"<<", .operator 3, some 1⟩
    let reversed : Listing := ⟨fun _ edges => edges.reverse, fun _ => List.reverse_perm⟩
    accepted empty calls = [⟨"+=", .operator 1, none⟩, ⟨"<<", .operator 3, some 0⟩] ∧
      (rival.answer trie).1 = .error (.bindingConflict "<<") ∧ (rival.answer trie).2 = trie ∧
      beginnings (accepted empty calls) = [['+'], ['+', '='], ['<'], ['<', '<']] ∧
      (trie.freeze reversed).nodeCount = 5 ∧ (trie.freeze reversed).find? ['<', '<'] = some 4 := by
  intro calls trie rival reversed
  have kept : accepted empty calls =
      [⟨"+=", .operator 1, none⟩, ⟨"<<", .operator 3, some 0⟩] := by decide +kernel
  have refused : (rival.answer trie).1 = .error (.bindingConflict "<<") := by decide +kernel
  have begun : beginnings (accepted empty calls) = [['+'], ['+', '='], ['<'], ['<', '<']] := by
    decide +kernel
  obtain ⟨unchanged, frozen⟩ := frozen_maps calls
  obtain ⟨same, maps, _⟩ := frozen reversed
  have count := maps.nodeCount_eq
  rw [begun] at count
  exact ⟨kept, refused, unchanged rival _ refused, begun, count,
    (same _).trans (by decide +kernel)⟩

end Lexing.Trie
