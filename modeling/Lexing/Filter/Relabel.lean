import Lexing.Filter.Basic

/-!
# Relabelling
-/

namespace Lexing

/-- The filter that turns one kind into another. -/
structure Relabel where
  source : Kind
  target : Kind
deriving Repr, DecidableEq

/-- Every token is sent on, with its kind replaced if it is the one to replace. -/
instance : Filter Relabel where
  react filter token :=
    let kind := if token.kind = filter.source then filter.target else token.kind
    ⟨[.token { token with kind }], filter, filter⟩

end Lexing
