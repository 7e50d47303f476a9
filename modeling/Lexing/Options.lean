/-!
# Scanning options
-/

namespace Lexing

/-- Switches that a profile carries into every scan.  By the first one, line comment markers
open a comment only as the first token of their line that is no trivia, and are operators
elsewhere.  The default base is that of numbers without a prefix. -/
structure Options where
  lineCommentOnlyAtLineStart : Bool := false
  honorLineContinuation : Bool := true
  allowDigitSeparator : Bool := false
  defaultBase : Nat := 10
  digitSeparator : Char := '\''
deriving Repr, DecidableEq, Inhabited

/-- The separator, if separators are allowed. -/
def Options.separator? (options : Options) : Option Char :=
  if options.allowDigitSeparator then some options.digitSeparator else none

end Lexing
