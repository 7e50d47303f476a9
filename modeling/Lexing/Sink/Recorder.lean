import Lexing.Sink.Basic

/-!
# Recorders

A recorder keeps the events that it receives.  It can be told to stop after a
number of tokens and what to write when it does.
-/

namespace Lexing

/-- How a recorder treats diagnostics: it records them and goes on, or stops at unexpected
input, or ignores all others as well. -/
inductive Recorder.Policy where
  | lenient
  | strict
  | bare
deriving Repr, DecidableEq, Inhabited

/-- A sink that keeps what it receives.  With a limit it stops after that many tokens and
writes its remark; if it is chatty, it also writes the remark with every token. -/
structure Recorder where
  policy : Recorder.Policy := .lenient
  limit : Option Nat := none
  remark : String := ""
  chatty : Bool := false
  events : Array Event := #[]
  tokenCount : Nat := 0
deriving Repr

namespace Recorder

def record (recorder : Recorder) (event : Event) : Recorder :=
  { recorder with events := recorder.events.push event }

/-- Keep a diagnostic, unless diagnostics are ignored. -/
def recordDiagnostic (recorder : Recorder) (event : Event) : Recorder :=
  if recorder.policy = .bare then recorder else recorder.record event

def token (recorder : Recorder) (token : Token) : Reply Recorder :=
  if recorder.limit.any (· ≤ recorder.tokenCount) then
    { flow := .halt, text := recorder.remark, sink := recorder }
  else
    { flow := .proceed
      text := if recorder.chatty then recorder.remark else ""
      sink := { recorder.record (.token token) with tokenCount := recorder.tokenCount + 1 } }

instance : Sink Recorder where
  token := token
  unexpected recorder span :=
    (if recorder.policy = .lenient then .proceed else .halt,
      recorder.recordDiagnostic (.unexpected span))
  unknownOperator recorder span := recorder.recordDiagnostic (.unknownOperator span)
  literalMessage recorder span message :=
    recorder.recordDiagnostic (.literalMessage span message)

def tokens (recorder : Recorder) : List Token :=
  recorder.events.toList.filterMap Event.token?

def kinds (recorder : Recorder) : List Kind :=
  recorder.tokens.map Token.kind

/-- The kinds of the recorded tokens without blanks and line terminators. -/
def significantKinds (recorder : Recorder) : List Kind :=
  recorder.kinds.filter fun kind => !kind.isBlank

end Recorder

end Lexing
