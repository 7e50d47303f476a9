import Lexing.Span
import Lexing.Kind

/-!
# Tokens and events

A scan produces tokens and, between them, diagnostics.  Together they form the
sequence of events that a receiver sees.
-/

namespace Lexing

/-- The value of a number without a fraction, as far as its digits fit into 64 bits, and the
offset at which a glued suffix starts. -/
structure IntegerValue where
  value : Nat
  overflow : Bool
  suffixStart : Nat
deriving Repr, DecidableEq

/-- The value of a number with a fraction, as the bits of its double-precision value. -/
structure FloatValue where
  bits : UInt64
  integerOverflow : Bool
  fractionOverflow : Bool
  suffixStart : Nat
deriving Repr, DecidableEq

/-- What a token carries beside its kind and span. -/
inductive Payload where
  | empty
  | comment (text : String)
  | literal (text : String)
  | integer (value : IntegerValue)
  | float (value : FloatValue)
deriving Repr, DecidableEq, Inhabited

namespace Payload

def text? : Payload → Option String
  | .comment text => some text
  | .literal text => some text
  | _ => none

def suffixStart? : Payload → Option Nat
  | .integer value => some value.suffixStart
  | .float value => some value.suffixStart
  | _ => none

/-- The same payload with the suffix of a number moved to `offset`. -/
def withSuffixStart (payload : Payload) (offset : Nat) : Payload :=
  match payload with
  | .integer value => .integer { value with suffixStart := offset }
  | .float value => .float { value with suffixStart := offset }
  | other => other

end Payload

/-- One classified token.  It is at a line start if only trivia precedes it there. -/
structure Token where
  atLineStart : Bool := false
  kind : Kind
  span : Span
  payload : Payload := .empty
deriving Repr, DecidableEq, Inhabited

/-- The source text of a token, empty when its span is no proper cut of the
source. -/
def Token.text (token : Token) (source : String) : String :=
  String.ofList ((token.span.slice? source.toList).getD [])

/-- What a receiver sees of a scan: tokens, input that no rule accepts, symbols that begin an
operator but complete none, and remarks of the readers of literals. -/
inductive Event where
  | token (token : Token)
  | unexpected (span : Span)
  | unknownOperator (span : Span)
  | literalMessage (span : Span) (message : String)
deriving Repr, DecidableEq

def Event.token? : Event → Option Token
  | .token delivered => some delivered
  | _ => none

end Lexing
