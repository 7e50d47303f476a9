import Lexing.Filter.Basic

/-!
# Filter chains

A chain is a number of filters in front of a sink.  The filter installed last
sees tokens first.
-/

namespace Lexing

/-- A number of filters in front of a sink. -/
def Stack (φ σ : Type) : Nat → Type
  | 0 => σ
  | count + 1 => Filtered φ (Stack φ σ count)

namespace Stack

variable {φ σ : Type}

/-- Stacks receive events like the sink that they end in. -/
instance instSink [Filter φ] [Sink σ] : (count : Nat) → Sink (Stack φ σ count)
  | 0 => inferInstanceAs (Sink σ)
  | count + 1 => @Filtered.instSink φ (Stack φ σ count) _ (instSink count)

def sink : (count : Nat) → Stack φ σ count → σ
  | 0, last => last
  | count + 1, stage => sink count stage.next

/-- The filters, the one that sees tokens first in front. -/
def filters : (count : Nat) → Stack φ σ count → List φ
  | 0, _ => []
  | count + 1, stage => stage.filter :: filters count stage.next

end Stack

/-- Any number of filters in front of a sink. -/
structure Chain (φ σ : Type) where
  length : Nat
  stack : Stack φ σ length

namespace Chain

variable {φ σ : Type}

def ofSink (sink : σ) : Chain φ σ :=
  ⟨0, sink⟩

/-- Add a filter in front of all others. -/
def install (chain : Chain φ σ) (filter : φ) : Chain φ σ :=
  ⟨chain.length + 1, ⟨filter, chain.stack⟩⟩

def installAll (chain : Chain φ σ) (filters : List φ) : Chain φ σ :=
  filters.foldl install chain

def isEmpty (chain : Chain φ σ) : Bool :=
  chain.length = 0

def sink (chain : Chain φ σ) : σ :=
  Stack.sink chain.length chain.stack

/-- The filters, the one that sees tokens first in front. -/
def filters (chain : Chain φ σ) : List φ :=
  Stack.filters chain.length chain.stack

/-- The written form, which tells only the number of filters. -/
def text (chain : Chain φ σ) : String :=
  "FilterChain \x7b filters: " ++ toString chain.length ++ ", .. \x7d"

instance [Filter φ] [Sink σ] : Sink (Chain φ σ) where
  token chain token :=
    let reply := Sink.token chain.stack token
    { reply with sink := ⟨chain.length, reply.sink⟩ }
  unexpected chain span :=
    let (flow, stack) := Sink.unexpected chain.stack span
    (flow, ⟨chain.length, stack⟩)
  unknownOperator chain span := ⟨chain.length, Sink.unknownOperator chain.stack span⟩
  literalMessage chain span message :=
    ⟨chain.length, Sink.literalMessage chain.stack span message⟩

end Chain

end Lexing
