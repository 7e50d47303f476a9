import Lexing.Filter.Basic

/-!
# Line directives

A line that starts with a marker is a directive.  It is put between two control
tokens, one in front of the marker and one in front of the line terminator, or of
the end of input, that ends the line.  A line continuation is no line terminator
and so does not end a directive.
-/

namespace Lexing

/-- The filter that brackets directive lines, which the marker kind starts. -/
structure LineDirective where
  marker : Kind
  active : Bool := false
deriving Repr, DecidableEq

namespace LineDirective

/-- Answer to one token.  The directive opens or closes before its control token
is sent on. -/
def react (filter : LineDirective) (token : Token) : Relay LineDirective :=
  let start := Span.point token.span.start
  if filter.active ∧ (token.kind = .linefeed ∨ token.kind = .fin) then
    let closed := { filter with active := false }
    ⟨[.token { kind := .directiveExit, span := start }, .token token], closed, closed⟩
  else if ¬filter.active ∧ token.kind = filter.marker ∧ token.atLineStart then
    let opened := { filter with active := true }
    ⟨[.token { atLineStart := true, kind := .directiveEnter, span := start }, .token token],
      opened, opened⟩
  else ⟨[.token token], filter, filter⟩

instance : Filter LineDirective where
  react := react

end LineDirective

end Lexing
