import Lexing.CharClass.Table
import Lexing.Literal.Registry
import Lexing.Options
import Lexing.Trie

/-!
# Profiles

A profile is everything that a scan has to know about a language: the classes of
its symbols, the options, the sequences of symbols with a meaning of their own,
and the readers of its literals.  It never changes during a scan and is shared by
any number of scans.
-/

namespace Lexing

/-- The description of a language.  The operators include the markers that open comments, the
fallbacks are the operator kinds of line comment markers that open no comment, by the node of
the marker, and the spellings are the sequences that kinds were registered for. -/
structure Profile (ρ : Type) where
  classes : CharClass.Table := .standard
  options : Options := {}
  defaultNumber : Kind := .numberDecimal
  numberPrefixes : Trie := .empty
  brackets : Trie := .empty
  operators : Trie := .empty
  literals : Trie := .empty
  readers : Literal.Registry ρ := {}
  blockClose : List Char := []
  fallbacks : List (NodeId × Kind) := []
  spellings : List (Kind × String) := []

namespace Profile

variable {ρ τ : Type}

/-- The kind of an operator.  A comment marker has the kind of its comments. -/
def operatorKind? (profile : Profile ρ) (sequence : String) : Option Kind :=
  profile.operators.lookup? sequence.toList

/-- The kind of numbers with the given prefix. -/
def numberPrefixKind? (profile : Profile ρ) (sequence : String) : Option Kind :=
  profile.numberPrefixes.lookup? sequence.toList

/-- The kind of literals with the given introduction. -/
def literalKind? (profile : Profile ρ) (sequence : String) : Option Kind :=
  profile.literals.lookup? sequence.toList

/-- The operator kind of the line comment marker at a node of the operators. -/
def fallbackAt? (profile : Profile ρ) (node : NodeId) : Option Kind :=
  profile.fallbacks.lookup node

/-- The operator kind of a line comment marker. -/
def fallbackKind? (profile : Profile ρ) (marker : String) : Option Kind :=
  if marker.isEmpty then none
  else (profile.operators.find? marker.toList).bind profile.fallbackAt?

def describe? (profile : Profile ρ) (kind : Kind) : Option String :=
  profile.spellings.lookup kind

def mapReaders (change : ρ → τ) (profile : Profile ρ) : Profile τ :=
  { profile with readers := profile.readers.map change }

end Profile

end Lexing
