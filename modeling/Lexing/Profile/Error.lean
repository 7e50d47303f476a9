import Lexing.Trie

/-!
# Refused registrations

Building a profile checks every call at once.  This file lists the reasons for
which a call is refused, with their wording.
-/

namespace Lexing

/-- The role of a registered sequence. -/
inductive SequenceRole where
  | numericPrefix
  | commentMarker
  | operator
  | literalPrefix
deriving Repr, DecidableEq

def SequenceRole.text : SequenceRole → String
  | .numericPrefix => "numeric prefix"
  | .commentMarker => "comment marker"
  | .operator => "operator"
  | .literalPrefix => "literal prefix"

/-- The range that a kind has to lie in. -/
inductive KindRange where
  | integerNumber
  | operator
  | literal
deriving Repr, DecidableEq

def KindRange.text : KindRange → String
  | .integerNumber => "integer number"
  | .operator => "operator"
  | .literal => "literal"

/-- Why a call that builds a profile was refused. -/
inductive BuildError where
  | duplicateKind (kind : Kind) (existing : String)
  | emptySequence (role : SequenceRole)
  | prefixNotDigit (sequence : String)
  | kindOutOfRange (kind : Kind) (expected : KindRange)
  | unsupportedBase (base : Nat)
  | malformedBracketPair (pair : String)
  | operatorKindsExhausted
  | readersExhausted
  | trie (cause : Trie.InsertError)
deriving Repr, DecidableEq

def BuildError.message : BuildError → String
  | .duplicateKind kind existing =>
      "kind " ++ kind.text ++ " is already assigned to " ++ Text.quote existing
  | .emptySequence role => "empty " ++ role.text ++ " sequence"
  | .prefixNotDigit sequence =>
      "numeric prefix " ++ Text.quote sequence ++ " must start with a digit"
  | .kindOutOfRange kind expected =>
      "kind " ++ kind.text ++ " is outside the " ++ expected.text ++ " range"
  | .unsupportedBase base => "numeric base " ++ toString base ++ " is not supported"
  | .malformedBracketPair pair =>
      "bracket pair " ++ Text.quote pair ++
        " must be exactly two symbols with an open bracket kind"
  | .operatorKindsExhausted => "operator kind space exhausted"
  | .readersExhausted => "literal parser id space exhausted"
  | .trie cause => cause.message

end Lexing
