import Lexing.Token

/-!
# Sinks

A sink receives the events of a scan one by one.  It may stop the scan at a token
or at unexpected input.  With its answer to a token it can write a text, which
becomes the reason when the scan stops there.
-/

namespace Lexing

/-- Whether a scan goes on after an event. -/
inductive Flow where
  | proceed
  | halt
deriving Repr, DecidableEq, Inhabited

/-- The answer of a sink to an event. -/
structure Reply (σ : Type) where
  flow : Flow
  text : String := ""
  sink : σ

/-- Types whose values receive events.  To go on at unexpected input means that it becomes a
token of its own.  A sink that only takes tokens stops at unexpected input and ignores the two
kinds of remarks. -/
class Sink (σ : Type) where
  token : σ → Token → Reply σ
  unexpected : σ → Span → Flow × σ := fun sink _ => (.halt, sink)
  unknownOperator : σ → Span → σ := fun sink _ => sink
  literalMessage : σ → Span → String → σ := fun sink _ _ => sink

namespace Sink

variable {σ : Type} [Sink σ]

/-- Send any event to a sink.  Only tokens and unexpected input can stop it. -/
def send (sink : σ) : Event → Reply σ
  | .token delivered => Sink.token sink delivered
  | .unexpected span =>
      let (flow, next) := Sink.unexpected sink span
      { flow, sink := next }
  | .unknownOperator span => { flow := .proceed, sink := Sink.unknownOperator sink span }
  | .literalMessage span message =>
      { flow := .proceed, sink := Sink.literalMessage sink span message }

/-- Send events until one of them stops the sink.  The texts written on the way
are joined. -/
def sendAll : σ → List Event → Reply σ
  | sink, [] => { flow := .proceed, sink }
  | sink, event :: rest =>
      let reply := send sink event
      match reply.flow with
      | .halt => reply
      | .proceed =>
          let last := sendAll reply.sink rest
          { last with text := reply.text ++ last.text }

end Sink

end Lexing
