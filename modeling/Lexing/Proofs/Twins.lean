import Lexing.Proofs.Independence
import Lexing.Proofs.TrieContents

/-!
# Profiles that differ in their numbers only

Nodes of two tries correspond if the same sequence leads to them, and readers if they are
bound to the same introduction.  Profiles with the same entries, in whatever order they
were made, then have the same scans.
-/

namespace Lexing

/-! ## Tries -/

namespace Trie

variable {one two : Trie} {here there : NodeId}

/-- The same sequences can be walked, with the same kinds at their ends. -/
structure Alike (one two : Trie) : Prop where
  walkable : ∀ sequence, (one.find? sequence).isSome = (two.find? sequence).isSome
  kinds : ∀ sequence, one.kindOf? sequence = two.kindOf? sequence

/-- The same sequence leads to both nodes. -/
def Corresponds (one two : Trie) (here there : NodeId) : Prop :=
  ∃ sequence, one.find? sequence = some here ∧ two.find? sequence = some there

/-- From corresponding nodes the same symbols lead to corresponding nodes. -/
theorem Corresponds.advance (corresponds : Corresponds one two here there)
    (alike : Alike one two) (symbol : Char) :
    Option.Rel (Corresponds one two) (one.advance here symbol) (two.advance there symbol) := by
  obtain ⟨sequence, walked, walkedToo⟩ := corresponds
  have further := find?_concat one sequence symbol
  have furtherToo := find?_concat two sequence symbol
  have same := alike.walkable (sequence ++ [symbol])
  rw [walked, Option.bind_some] at further
  rw [walkedToo, Option.bind_some] at furtherToo
  rw [further, furtherToo] at same
  cases edge : one.advance here symbol with
  | none =>
      rw [edge, Option.isSome_none] at same
      rw [Option.isSome_eq_false_iff.mp same.symm |> Option.isNone_iff_eq_none.mp]
      exact .none
  | some child =>
      rw [edge, Option.isSome_some] at same
      obtain ⟨other, edgeToo⟩ := Option.isSome_iff_exists.mp same.symm
      rw [edgeToo]
      exact .some ⟨sequence ++ [symbol], further.trans edge, furtherToo.trans edgeToo⟩

theorem Alike.corresponds (alike : Alike one two) : Matches (Corresponds one two) one two where
  root := ⟨[], rfl, rfl⟩
  advance corresponds symbol := corresponds.advance alike symbol
  kind? := by
    rintro here there ⟨sequence, walked, walkedToo⟩
    rw [← kindOf?_of_find? walked, ← kindOf?_of_find? walkedToo, alike.kinds]

/-- A single symbol leads to the same kind in both tries. -/
theorem Alike.single (alike : Alike one two) (symbol : Char) :
    (two.advance root symbol).bind two.kind? = (one.advance root symbol).bind one.kind? := by
  have first := alike.corresponds.advance alike.corresponds.root symbol
  generalize one.advance root symbol = edge, two.advance root symbol = other at first
  cases first with
  | none => rfl
  | some nodes => exact alike.corresponds.kind? nodes

end Trie

/-! ## Profiles -/

variable {ρ : Type}

/-- The same introduction of a literal is bound to both readers. -/
def Profile.Binds (one two : Profile ρ) (here there : Nat) : Prop :=
  ∃ sequence, one.literals.bindingOf? sequence = some here ∧
    two.literals.bindingOf? sequence = some there

/-- Two profiles that differ in the numbers of their nodes and readers only. -/
structure Profile.Twins (one two : Profile ρ) : Prop where
  classes : one.classes = two.classes
  options : one.options = two.options
  defaultNumber : one.defaultNumber = two.defaultNumber
  numberPrefixes : one.numberPrefixes.Alike two.numberPrefixes
  brackets : one.brackets.Alike two.brackets
  operators : one.operators.Alike two.operators
  literals : one.literals.Alike two.literals
  bound : ∀ sequence, (one.literals.bindingOf? sequence).isSome =
    (two.literals.bindingOf? sequence).isSome
  fresh : ∀ {here there}, one.Binds two here there →
    one.readers.instantiate? here = two.readers.instantiate? there
  paired : ∀ {here there other another}, one.Binds two here there →
    one.Binds two other another → (other = here ↔ another = there)
  blockClose : one.blockClose = two.blockClose
  fallbacks : ∀ {here there}, one.operators.Corresponds two.operators here there →
    one.fallbackAt? here = two.fallbackAt? there

namespace Profile

variable {one two : Profile ρ}

/-- Nodes correspond by the sequences that lead to them, and readers by the introductions that
are bound to them. -/
def numbering (one two : Profile ρ) : Numbering where
  numberPrefix := one.numberPrefixes.Corresponds two.numberPrefixes
  operator := one.operators.Corresponds two.operators
  literal := one.literals.Corresponds two.literals
  reader := one.Binds two

/-- Corresponding introductions are bound to corresponding readers, or both to none. -/
theorem Twins.bindings (twins : one.Twins two) {node other : NodeId}
    (nodes : one.literals.Corresponds two.literals node other) :
    Option.Rel (one.Binds two) (one.literals.binding? node) (two.literals.binding? other) := by
  obtain ⟨sequence, walked, walkedToo⟩ := nodes
  have bound := twins.bound sequence
  rw [← Trie.bindingOf?_of_find? walked, ← Trie.bindingOf?_of_find? walkedToo]
  cases reader : one.literals.bindingOf? sequence with
  | none =>
      rw [reader, Option.isSome_none] at bound
      rw [Option.isNone_iff_eq_none.mp (Option.isSome_eq_false_iff.mp bound.symm)]
      exact .none
  | some number =>
      rw [reader, Option.isSome_some] at bound
      obtain ⟨another, readerToo⟩ := Option.isSome_iff_exists.mp bound.symm
      rw [readerToo]
      exact .some ⟨sequence, reader, readerToo⟩

theorem Twins.relates (twins : one.Twins two) : (one.numbering two).Relates one two where
  classes := twins.classes.symm
  options := twins.options.symm
  defaultNumber := twins.defaultNumber.symm
  blockClose := twins.blockClose.symm
  numberPrefixes := twins.numberPrefixes.corresponds
  operators := twins.operators.corresponds
  literals := twins.literals.corresponds
  brackets := twins.brackets.single
  fallbacks nodes := (twins.fallbacks nodes).symm
  bindings := twins.bindings
  paired := twins.paired

end Profile

/-! ## Scans -/

namespace Scan

variable [Literal.Reader ρ] {one two : Profile ρ}

/-- Scans of one source in which corresponding readers are the same. -/
def twinned (one two : Profile ρ) : Likeness ρ where
  offset here there := there = here
  usual _ := True
  text _ := Eq
  comment _ := Eq
  reader _ := Eq
  kept _ _ := Eq
  numbering := one.numbering two

theorem twinned_lawful (twins : one.Twins two) : (twinned one two).Lawful one two where
  relates := twins.relates
  lineText _ := rfl
  commentOpens := rfl
  commentGrows := by
    rintro _ _ _ _ rfl _
    rfl
  commentText := by
    rintro _ _ _ rfl _
    rfl
  opens := by
    rintro _ number other kept _ _ binds rfl
    rw [twins.fresh binds]
    cases kept.or (two.readers.instantiate? other) with
    | none => exact .none
    | some reader => exact .some ⟨rfl, rfl⟩
  signal same _ := by rw [same]
  reads same _ := by rw [same]; rfl
  takes same := by rw [same]; rfl
  ending same := by rw [same]
  ended same := by rw [same]; rfl
  keepsRead symbol same := by rw [Option.some.inj same]; rfl
  keepsTake same := by rw [Option.some.inj same]; rfl
  keepsFinish same := by rw [Option.some.inj same]; rfl

omit [Literal.Reader ρ] in
theorem twinned_reports {reports others : List Report}
    (alike : List.Forall₂ (twinned one two).ReportAlike reports others) : others = reports := by
  induction alike with
  | nil => rfl
  | @cons report other _ _ first _ ih =>
      have same : other = report.moved id := first.moved (fun moves => moves) Eq.symm
      rw [ih, same, Report.moved_id]

/-- The numbers of nodes and readers cannot be told from a scan. -/
theorem tokenize_twin (twins : one.Twins two) (here there : ScanState ρ)
    (classes : there.ownClasses = here.ownClasses)
    (readers : ∀ {number other}, one.Binds two number other →
      here.reader? number = there.reader? other)
    {σ : Type} [Sink σ] (sink : σ) (source : String) :
    (tokenize one here sink source).sink = (tokenize two there sink source).sink ∧
      (tokenize one here sink source).result = (tokenize two there sink source).result := by
  have first := tokenize_delivered one here sink source
  have second := tokenize_delivered two there sink source
  by_cases fits : byteLength source.toList ≤ maxOffset
  · have states : (twinned one two).StateAlike here.reset there.reset := {
      start := rfl
      fresh := rfl
      classes
      kept := readers
      reading := .mode .idle }
    have alike := Likeness.tokenize_alike (twinned_lawful twins) states fits
      (fun located _ => ⟨rfl, trivial, rfl, rfl⟩) rfl
    exact first.agree second (twinned_reports alike.reports).symm alike.result.symm
  · rw [Trace.tokenize_of_large _ fits] at first second
    exact first.agree second rfl rfl

end Scan

end Lexing
