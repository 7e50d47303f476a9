import Lexing.Filter.Basic

/-!
# Gluing suffixes

A number that is directly followed by an identifier becomes one token, whose
payload remembers where the identifier began.  For this a number is held back
until the next token is known.
-/

namespace Lexing

/-- The filter that merges numbers with the identifiers right behind them.  It holds a
number that waits for its successor. -/
structure SuffixGlue where
  held : Option Token := none
deriving Repr, DecidableEq

namespace SuffixGlue

/-- A number merged with the identifier right behind it. -/
def glue (number suffix : Token) : Token :=
  { number with
    span := number.span.merge suffix.span
    payload := number.payload.withSuffixStart suffix.span.start }

/-- Whether a token is an identifier that starts where the number ends. -/
def isSuffix (number token : Token) : Bool :=
  token.kind = .identifier && token.span.start = number.span.stop

/-- Hold a number back and send everything else on, after the tokens in `before`. -/
def holdOrSend (before : List Event) (token : Token) : Relay SuffixGlue :=
  if token.kind.isNumber then ⟨before, ⟨some token⟩, {}⟩
  else ⟨before ++ [.token token], {}, {}⟩

def react (filter : SuffixGlue) (token : Token) : Relay SuffixGlue :=
  match filter.held with
  | none => holdOrSend [] token
  | some number =>
      if isSuffix number token then ⟨[.token (glue number token)], {}, {}⟩
      else holdOrSend [.token number] token

instance : Filter SuffixGlue where
  react := react

end SuffixGlue

end Lexing
