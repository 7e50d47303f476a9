import Lexing.Proofs.Trie
import Lexing.Scan.Number

/-!
# Numbers of nodes and readers

The numbers of trie nodes and of readers tell in which order a profile was built.  They are
only used to look something up.  So two profiles in which corresponding numbers have the
same meaning answer every other question alike.
-/

namespace Lexing

/-! ## Tries -/

namespace Trie

/-- Nodes that correspond have the same kinds, and the same symbols lead on from them. -/
structure Matches (nodes : NodeId → NodeId → Prop) (one two : Trie) : Prop where
  root : nodes root root
  advance : ∀ {here there}, nodes here there → ∀ symbol,
    Option.Rel nodes (one.advance here symbol) (two.advance there symbol)
  kind? : ∀ {here there}, nodes here there → two.kind? there = one.kind? here

theorem Matches.hasChildren_eq {nodes : NodeId → NodeId → Prop} {one two : Trie}
    (tries : Matches nodes one two) {here there : NodeId} (same : nodes here there) :
    two.hasChildren there = one.hasChildren here := by
  rw [Bool.eq_iff_iff, hasChildren_iff, hasChildren_iff]
  refine exists_congr fun symbol => ?_
  have further := tries.advance same symbol
  generalize one.advance here symbol = edge, two.advance there symbol = other at further
  cases further <;> simp

theorem matches_self (trie : Trie) : Matches Eq trie trie where
  root := rfl
  advance := by
    rintro here _ rfl symbol
    cases trie.advance here symbol with
    | none => exact .none
    | some child => exact .some rfl
  kind? := by
    rintro here _ rfl
    rfl

end Trie

/-! ## Profiles -/

/-- Which numbers of two profiles correspond. -/
structure Numbering where
  numberPrefix : NodeId → NodeId → Prop
  operator : NodeId → NodeId → Prop
  literal : NodeId → NodeId → Prop
  reader : Nat → Nat → Prop

namespace Numbering

def same : Numbering :=
  ⟨Eq, Eq, Eq, Eq⟩

variable {ρ : Type}

/-- Two profiles that differ in their numbers only. -/
structure Relates (numbering : Numbering) (profile copy : Profile ρ) : Prop where
  classes : copy.classes = profile.classes
  options : copy.options = profile.options
  defaultNumber : copy.defaultNumber = profile.defaultNumber
  blockClose : copy.blockClose = profile.blockClose
  numberPrefixes : Trie.Matches numbering.numberPrefix profile.numberPrefixes copy.numberPrefixes
  operators : Trie.Matches numbering.operator profile.operators copy.operators
  literals : Trie.Matches numbering.literal profile.literals copy.literals
  brackets : ∀ symbol, (copy.brackets.advance Trie.root symbol).bind copy.brackets.kind? =
    (profile.brackets.advance Trie.root symbol).bind profile.brackets.kind?
  fallbacks : ∀ {here there}, numbering.operator here there →
    copy.fallbackAt? there = profile.fallbackAt? here
  bindings : ∀ {here there}, numbering.literal here there →
    Option.Rel numbering.reader (profile.literals.binding? here) (copy.literals.binding? there)
  paired : ∀ {here there other another}, numbering.reader here there →
    numbering.reader other another → (other = here ↔ another = there)

theorem same_relates (profile : Profile ρ) : same.Relates profile profile where
  classes := rfl
  options := rfl
  defaultNumber := rfl
  blockClose := rfl
  numberPrefixes := Trie.matches_self _
  operators := Trie.matches_self _
  literals := Trie.matches_self _
  brackets _ := rfl
  fallbacks := by
    rintro here _ rfl
    rfl
  bindings := by
    rintro here _ rfl
    cases profile.literals.binding? here with
    | none => exact .none
    | some number => exact .some rfl
  paired := by
    rintro here _ other _ rfl rfl
    exact Iff.rfl

namespace Relates

open Scan

variable {numbering : Numbering} {profile copy : Profile ρ}
  (relates : numbering.Relates profile copy)

include relates

theorem isSeparator : isSeparator copy = isSeparator profile := by
  funext symbol
  rw [Scan.isSeparator, Scan.isSeparator, relates.options]

theorem isDefaultDigit : isDefaultDigit copy = isDefaultDigit profile := by
  funext symbol
  rw [Scan.isDefaultDigit, Scan.isDefaultDigit, relates.options]

theorem defaultNumeral : defaultNumeral copy = defaultNumeral profile := by
  funext symbols
  rw [Scan.defaultNumeral, Scan.defaultNumeral, relates.options, relates.defaultNumber]

theorem opensDigits : opensDigits copy = opensDigits profile := by
  funext kind symbol
  rw [Scan.opensDigits, Scan.opensDigits, relates.options, relates.isSeparator]

theorem continuesDefault : continuesDefault copy = continuesDefault profile := by
  funext symbol
  rw [Scan.continuesDefault, Scan.continuesDefault, relates.isDefaultDigit, relates.isSeparator]

end Relates

end Numbering

end Lexing
