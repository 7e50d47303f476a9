import Lexing.Filter.Basic

/-!
# Composing sequences

Adjacent tokens whose kinds spell a pattern become one compound token.  The
beginning of a possible run is held back.  When the run breaks off, the held
tokens are sent on and only the current token may start a new run.
-/

namespace Lexing

/-- The filter that replaces runs of a pattern.  It holds the beginning of a run. -/
structure SequenceComposer where
  pattern : List Kind
  compound : Kind
  held : List Token := []
deriving Repr, DecidableEq

namespace SequenceComposer

def cleared (filter : SequenceComposer) : SequenceComposer :=
  { filter with held := [] }

/-- Whether a token continues the run that is held: it has the next kind of the
pattern and starts where the run ends. -/
def extendsRun (filter : SequenceComposer) (token : Token) : Bool :=
  filter.pattern[filter.held.length]? = some token.kind && !token.kind.isControl &&
    filter.held.getLast?.all fun last => last.span.stop = token.span.start

/-- The token that a complete run becomes. -/
def compose (filter : SequenceComposer) (first : Token) (rest : List Token) : Token where
  atLineStart := first.atLineStart
  kind := filter.compound
  span := rest.foldl (fun span token => span.merge token.span) first.span

/-- Add a token to the run that is held, or send it on if it does not continue
the run.  A complete run is sent on as one token. -/
def extendRun (filter : SequenceComposer) (before : List Event) (token : Token) :
    Relay SequenceComposer :=
  let cleared := filter.cleared
  if filter.extendsRun token then
    match filter.held ++ [token] with
    | [] => ⟨before, filter, cleared⟩
    | first :: rest =>
        if rest.length + 1 < filter.pattern.length then
          ⟨before, { filter with held := first :: rest }, cleared⟩
        else ⟨before ++ [.token (filter.compose first rest)], cleared, cleared⟩
  else ⟨before ++ [.token token], filter, cleared⟩

def react (filter : SequenceComposer) (token : Token) : Relay SequenceComposer :=
  if filter.held.isEmpty ∨ filter.extendsRun token then filter.extendRun [] token
  else filter.cleared.extendRun (filter.held.map .token) token

instance : Filter SequenceComposer where
  react := react

end SequenceComposer

end Lexing
