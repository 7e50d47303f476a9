import Lexing.Filter.Basic

/-!
# Mode gates

A gate lets certain kinds through only while a mode is on.  One kind switches the
mode on, another one off, and both pass.  While the mode is off, a gated token is
taken apart into one raw token for each symbol of its spelling.
-/

namespace Lexing

/-- The filter that takes gated tokens apart while its mode is off.  The gated kinds
come with their spellings. -/
structure ModeGate where
  enter : Kind
  exit : Kind
  gated : List (Kind × List Char)
  active : Bool := false
deriving Repr, DecidableEq

namespace ModeGate

/-- The raw tokens for the symbols of a spelling, from `start` on.  The last one
ends where the gated token ends, and none reaches beyond it. -/
def rawTokens (stop : Nat) : Nat → Bool → List Char → List Event
  | _, _, [] => []
  | start, atLineStart, [_] => [.token { atLineStart, kind := .rawChar, span := ⟨start, stop⟩ }]
  | start, atLineStart, symbol :: rest =>
      let next := min (symbolEnd symbol start) stop
      .token { atLineStart, kind := .rawChar, span := ⟨start, next⟩ } ::
        rawTokens stop next false rest

/-- What a token becomes while the mode is off. -/
def demote (gate : ModeGate) (token : Token) : List Event :=
  match gate.gated.lookup token.kind with
  | none | some [] => [.token token]
  | some spelling => rawTokens token.span.stop token.span.start token.atLineStart spelling

/-- Whether the mode is on after a token of the given kind. -/
def activeAfter (gate : ModeGate) (kind : Kind) : Bool :=
  if kind = gate.enter then true
  else if kind = gate.exit then false
  else gate.active

/-- Answer to one token.  The mode changes before the token is sent on. -/
def react (gate : ModeGate) (token : Token) : Relay ModeGate :=
  let next := { gate with active := gate.activeAfter token.kind }
  let passes := token.kind = gate.enter ∨ token.kind = gate.exit ∨ gate.active
  ⟨if passes then [.token token] else gate.demote token, next, next⟩

instance : Filter ModeGate where
  react := react

end ModeGate

end Lexing
