import Lexing.Scan.Dispatch
import Lexing.Scan.Error
import Lexing.Sink.Basic

/-!
# Scans

A scan feeds symbols to the machine, hands its reports to a sink, and feeds again
what the machine gives back, until nothing is left or the sink stops it.
-/

namespace Lexing

/-- The result of a part of a scan, with the state and the sink after it. -/
structure Outcome (ρ σ : Type) where
  result : Except ScanError Unit
  state : ScanState ρ
  sink : σ

namespace Scan

variable {ρ σ : Type} [Literal.Reader ρ] [Sink σ]

/-- Hand one report to a sink.  A sink that stops the scan decides on the error. -/
def deliver (sink : σ) (report : Report) : Option ScanError × σ :=
  let reply := Sink.send sink report.event
  match reply.flow, report with
  | .halt, .token delivered => (some (.aborted delivered.span reply.text), reply.sink)
  | .halt, .unexpected span none => (some (.unexpected span), reply.sink)
  | .halt, .unexpected span (some complaint) => (some (.literal span complaint), reply.sink)
  | _, _ => (none, reply.sink)

/-- Hand reports to a sink until it stops the scan. -/
def deliverAll : σ → List Report → Option ScanError × σ
  | sink, [] => (none, sink)
  | sink, report :: rest =>
      match deliver sink report with
      | (some error, next) => (some error, next)
      | (none, next) => deliverAll next rest

/-- The next reaction of the machine: to the first symbol of the queue or, when the
queue is empty and the input has ended at `closing`, to the end of the input. -/
def nextReaction? (profile : Profile ρ) (closing : Option Nat) (state : ScanState ρ) :
    List Fed → Option (Reaction ρ × List Fed)
  | fed :: rest => some (react profile state fed, rest)
  | [] => (closing.bind (flush? profile state)).map fun reaction => (reaction, [])

/-- Let the machine react, at most `fuel` times, until nothing is left to do.  Where the sink
stops the scan, the state is the one after all reports of the last reaction, so its line flag
may differ from the one at the report that was refused.  A scan only goes on from there after
a reset, which sets the flag. -/
def run (profile : Profile ρ) (closing : Option Nat) :
    (fuel : Nat) → ScanState ρ → σ → List Fed → Outcome ρ σ
  | fuel, state, sink, queue =>
      match nextReaction? profile closing state queue with
      | none => ⟨.ok (), state, sink⟩
      | some (reaction, rest) =>
          match fuel with
          | 0 => ⟨.error .endless, state, sink⟩
          | fuel + 1 =>
              match deliverAll sink reaction.reports with
              | (some error, next) => ⟨.error error, reaction.state, next⟩
              | (none, next) => run profile closing fuel reaction.state next (reaction.next ++ rest)

/-- More reactions than the machine can need for the symbols of the mode and `count`
further ones.  Every symbol that gets into a token may have made the machine look
at all symbols after it a few times. -/
def budget (mode : Mode) (count : Nat) : Nat :=
  let size := mode.pending.length + count + 2
  16 * (size * size)

def step (profile : Profile ρ) (state : ScanState ρ) (sink : σ) (located : Located) :
    Outcome ρ σ :=
  run profile none (budget state.mode 1) state sink [.plain located]

/-- Feed symbols one after the other until the sink stops the scan. -/
def stepAll (profile : Profile ρ) (state : ScanState ρ) (sink : σ) :
    List Located → Outcome ρ σ
  | [] => ⟨.ok (), state, sink⟩
  | located :: rest =>
      let outcome := step profile state sink located
      match outcome.result with
      | .error _ => outcome
      | .ok () => stepAll profile outcome.state outcome.sink rest

/-- End the input at `stop`: report what was begun, then the end. -/
def finalize (profile : Profile ρ) (state : ScanState ρ) (sink : σ) (stop : Nat) :
    Outcome ρ σ :=
  let flushed := run profile (some stop) (budget state.mode 1) state sink []
  match flushed.result with
  | .error _ => flushed
  | .ok () =>
      let last := flushed.state.emit .fin (.point stop)
      match deliverAll flushed.sink last.reports with
      | (some error, next) => ⟨.error error, last.state, next⟩
      | (none, next) => ⟨.ok (), last.state, next⟩

/-- Scan a whole text from the start of a document to its end. -/
def tokenize (profile : Profile ρ) (state : ScanState ρ) (sink : σ) (source : String) :
    Outcome ρ σ :=
  let length := byteLength source.toList
  if length ≤ maxOffset then
    let stepped := stepAll profile state.reset sink (Located.ofText 0 source.toList)
    match stepped.result with
    | .error _ => stepped
    | .ok () => finalize profile stepped.state stepped.sink length
  else ⟨.error (.sourceTooLarge length), state, sink⟩

end Scan

end Lexing
