import Lexing.Sink.Basic

/-!
# Filters

A filter stands in front of a sink and may drop, merge, change or insert tokens.
It answers a token with the events that it sends on and with the state that it
goes over to.  A filter in front of a sink is again a sink, so filters can be
stacked and a scan never knows whether it talks to a filter or to the final sink.
Diagnostics of the scan pass by all filters.
-/

namespace Lexing

/-- The answer of a filter to one token: the events that it sends on, and the filter
after all of them were accepted or after the sink behind it stopped at one. -/
structure Relay (φ : Type) where
  forward : List Event
  accepted : φ
  refused : φ

/-- States that filter tokens. -/
class Filter (φ : Type) where
  react : φ → Token → Relay φ

def Relay.map {φ ψ : Type} (change : φ → ψ) (relay : Relay φ) : Relay ψ :=
  ⟨relay.forward, change relay.accepted, change relay.refused⟩

/-- Filters of two types, side by side. -/
instance {φ ψ : Type} [Filter φ] [Filter ψ] : Filter (φ ⊕ ψ) where
  react
    | .inl filter, token => (Filter.react filter token).map .inl
    | .inr filter, token => (Filter.react filter token).map .inr

/-- A filter in front of a sink. -/
structure Filtered (φ σ : Type) where
  filter : φ
  next : σ

namespace Filtered

variable {φ σ : Type} [Filter φ] [Sink σ]

/-- Receive a token: let the filter answer and send its events on.  The texts of several replies
are put one after the other, as in a buffer that every sink appends to.  A sink that clears what
sinks before it have written has no counterpart here. -/
def token (stage : Filtered φ σ) (token : Token) : Reply (Filtered φ σ) :=
  let relay := Filter.react stage.filter token
  let reply := Sink.sendAll stage.next relay.forward
  let filter :=
    match reply.flow with
    | .proceed => relay.accepted
    | .halt => relay.refused
  { flow := reply.flow, text := reply.text, sink := ⟨filter, reply.sink⟩ }

/-- A filter in front of a sink is a sink.  Diagnostics pass by the filter. -/
instance instSink : Sink (Filtered φ σ) where
  token := token
  unexpected stage span :=
    let (flow, next) := Sink.unexpected stage.next span
    (flow, { stage with next })
  unknownOperator stage span := { stage with next := Sink.unknownOperator stage.next span }
  literalMessage stage span message :=
    { stage with next := Sink.literalMessage stage.next span message }

end Filtered

end Lexing
