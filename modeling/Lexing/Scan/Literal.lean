import Lexing.Scan.Reaction

/-!
# Literals

A literal is introduced by a registered sequence, found by walking the trie of
such sequences as far as possible.  The longest complete sequence passed opens the
literal, and its reader receives all symbols after it.  When no sequence was
complete, all symbols of the walk are fed again and the first one is exempt from
introducing a literal.
-/

namespace Lexing.Scan

variable {ρ : Type} [Literal.Reader ρ]

/-- The reader with the given number: the one kept from an earlier literal, or a
fresh one. -/
def obtainReader? (profile : Profile ρ) (state : ScanState ρ) (number : Nat) : Option ρ :=
  (state.reader? number).or (profile.readers.instantiate? number)

/-- Open the literal that the given symbols introduce. -/
def openLiteral (profile : Profile ρ) (state : ScanState ρ) (node : NodeId)
    (introduction : List Located) : Reaction ρ :=
  let kind := (profile.literals.kind? node).getD .unexpected
  let stop := ((Located.spanOf? introduction).map Span.stop).getD state.tokenStart
  match profile.literals.binding? node with
  | none => state.finish kind stop
  | some number =>
      match obtainReader? profile state number with
      | none => state.finish kind stop
      | some reader =>
          (state.keepReader number (Literal.Reader.reset reader)).become (.literal number kind)

/-- The walk has reached `node` with the given symbols.  A sequence that nothing
longer continues opens its literal at once. -/
def reachLiteral (profile : Profile ρ) (state : ScanState ρ) (node : NodeId)
    (pending : List Located) (terminal : Option (NodeId × Nat)) : Reaction ρ :=
  if (profile.literals.kind? node).isNone then
    state.become (.literalPrefix { node, pending, terminal })
  else if profile.literals.hasChildren node then
    state.become (.literalPrefix { node, pending, terminal := some (node, pending.length) })
  else openLiteral profile state node pending

/-- The walk cannot go on. -/
def stuckLiteral (profile : Profile ρ) (state : ScanState ρ) (walk : Walk) : Reaction ρ :=
  match walk.terminal with
  | none =>
      (state.become .idle).feed (Fed.firstExempt { literal := true } walk.pending)
  | some (node, count) =>
      (openLiteral profile state node (walk.pending.take count)).feed
        ((walk.pending.drop count).map Fed.plain)

def readLiteralPrefix (profile : Profile ρ) (state : ScanState ρ) (walk : Walk) (fed : Fed) :
    Reaction ρ :=
  match profile.literals.advance walk.node fed.symbol with
  | some node => reachLiteral profile state node (walk.pending ++ [fed.toLocated]) walk.terminal
  | none => (stuckLiteral profile state walk).feed [fed]

/-- Report a complete literal with the text that its reader decoded. -/
def finishLiteral (state : ScanState ρ) (number : Nat) (kind : Kind) (reader : ρ) (stop : Nat) :
    Reaction ρ :=
  let (text, emptied) := Literal.Reader.take reader
  (state.keepReader number emptied).finish kind stop (.literal text)

def failLiteral (state : ScanState ρ) (span : Span) (complaint : String) : Reaction ρ :=
  (state.reject span (some complaint)).notify (.literalMessage span complaint)

/-- The answer to a symbol inside a literal.  A line terminator at which the
literal fails stays outside of it. -/
def readLiteral (profile : Profile ρ) (state : ScanState ρ) (number : Nat) (kind : Kind)
    (fed : Fed) : Reaction ρ :=
  match state.reader? number with
  | none => (state.become .idle).feed [.plain fed.toLocated]
  | some reader =>
      let (signal, reader) := Literal.Reader.read reader fed.symbol
      let state := state.keepReader number reader
      let span : Span := ⟨state.tokenStart, fed.stop⟩
      match signal with
      | .proceed => { state }
      | .proceedWith message => { state, reports := [.literalMessage span message] }
      | .stop => finishLiteral state number kind reader fed.stop
      | .stopWith message =>
          (finishLiteral state number kind reader fed.stop).notify (.literalMessage span message)
      | .fail message =>
          if (state.classify profile fed.symbol).linefeed then
            (failLiteral state ⟨state.tokenStart, fed.offset⟩ message).feed
              [.plain fed.toLocated]
          else failLiteral state span message

def closeLiteral (state : ScanState ρ) (number : Nat) (kind : Kind) (stop : Nat) : Reaction ρ :=
  match state.reader? number with
  | none => state.become .idle
  | some reader =>
      let (signal, reader) := Literal.Reader.finish reader
      let state := state.keepReader number reader
      let span : Span := ⟨state.tokenStart, stop⟩
      match signal with
      | .stop => finishLiteral state number kind reader stop
      | .stopWith message =>
          (finishLiteral state number kind reader stop).notify (.literalMessage span message)
      | .fail message | .proceedWith message => failLiteral state span message
      | .proceed => failLiteral state span Literal.unterminated

end Lexing.Scan
