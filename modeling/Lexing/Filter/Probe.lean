import Lexing.Filter.Basic

/-!
# Probes

A probe shows what a sink does with diagnostics: in front of every token of one
kind it sends one diagnostic of each sort.
-/

namespace Lexing

/-- The filter that sends diagnostics in front of tokens of one kind. -/
structure Probe where
  kind : Kind
deriving Repr, DecidableEq

/-- The diagnostics that announce a token. -/
def Probe.announcement (token : Token) : List Event :=
  [.literalMessage token.span "probe", .unknownOperator token.span, .unexpected token.span]

/-- Every token is sent on, announced if it has the kind in question. -/
instance : Filter Probe where
  react filter token :=
    let before := if token.kind = filter.kind then Probe.announcement token else []
    ⟨before ++ [.token token], filter, filter⟩

end Lexing
