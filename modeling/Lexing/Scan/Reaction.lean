import Lexing.Scan.State

/-!
# Reactions

The machine reacts to one symbol with a new state, with reports for the sink, and
with symbols that have to be fed again, the last one often being the symbol it
reacts to.  Symbols that are fed again can be exempt from rules that have failed
on them before.
-/

namespace Lexing

/-- Rules that a symbol is exempt from: that it may introduce a literal, that as a point it
may start a number, and that as an escape it may continue the line. -/
structure Exempt where
  literal : Bool := false
  dotNumber : Bool := false
  continuation : Bool := false
deriving Repr, DecidableEq, Inhabited

structure Fed extends Located where
  exempt : Exempt := {}
deriving Repr, DecidableEq, Inhabited

namespace Fed

/-- A symbol to which all rules apply. -/
def plain (located : Located) : Fed :=
  { toLocated := located }

/-- Symbols of which only the first one is exempt from rules. -/
def firstExempt (exempt : Exempt) : List Located → List Fed
  | [] => []
  | first :: rest => { toLocated := first, exempt } :: rest.map plain

end Fed

/-- What the machine tells the sink.  A malformed literal is unexpected with the complaint of
its reader. -/
inductive Report where
  | token (token : Token)
  | unexpected (span : Span) (complaint : Option String)
  | unknownOperator (span : Span)
  | literalMessage (span : Span) (message : String)
deriving Repr, DecidableEq

/-- What the sink sees of a report. -/
def Report.event : Report → Event
  | .token delivered => .token delivered
  | .unexpected span _ => .unexpected span
  | .unknownOperator span => .unknownOperator span
  | .literalMessage span message => .literalMessage span message

/-- The answer of the machine to one symbol: the state after all reports were accepted, the
reports in order, and the symbols that have to be fed next. -/
structure Reaction (ρ : Type) where
  state : ScanState ρ
  reports : List Report := []
  next : List Fed := []

namespace Reaction

variable {ρ : Type}

def notify (reaction : Reaction ρ) (report : Report) : Reaction ρ :=
  { reaction with reports := report :: reaction.reports }

def feed (reaction : Reaction ρ) (symbols : List Fed) : Reaction ρ :=
  { reaction with next := reaction.next ++ symbols }

end Reaction

namespace ScanState

variable {ρ : Type}

def become (state : ScanState ρ) (mode : Mode) : Reaction ρ where
  state := state.enter mode

/-- Whether a line is fresh after a token of the given kind. -/
def freshAfter (state : ScanState ρ) (kind : Kind) : Bool :=
  if kind = .linefeed then true
  else if kind.isTrivia then state.lineStart
  else false

def emit (state : ScanState ρ) (kind : Kind) (span : Span) (payload : Payload := .empty) :
    Reaction ρ where
  state := { state with lineStart := state.freshAfter kind }
  reports := [.token { atLineStart := state.lineStart, kind, span, payload }]

/-- Report the token that was begun, up to `stop`, and become idle. -/
def finish (state : ScanState ρ) (kind : Kind) (stop : Nat) (payload : Payload := .empty) :
    Reaction ρ :=
  (state.enter .idle).emit kind ⟨state.tokenStart, stop⟩ payload

/-- Report a number that ends at `stop`. -/
def finishNumber (state : ScanState ρ) (value : Numeral) (stop : Nat) : Reaction ρ :=
  state.finish value.finalKind stop (value.payload stop)

/-- Report input that no rule accepts and, when the sink goes on, turn it into a
token. -/
def reject (state : ScanState ρ) (span : Span) (complaint : Option String := none) : Reaction ρ :=
  ((state.enter .idle).emit .unexpected span).notify (.unexpected span complaint)

end ScanState

end Lexing
