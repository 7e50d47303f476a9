import Lexing.Scan.Reaction

/-!
# Line continuations

An escape symbol before a line terminator continues the line.  The scan waits
after the escape symbol until it knows what follows.  Between tokens a line
continuation is a token of its own; inside an identifier, an operator or a line
comment it is absorbed.
-/

namespace Lexing.Scan

variable {ρ : Type}

/-- Whether a symbol may begin a line continuation. -/
def beginsContinuation (profile : Profile ρ) (state : ScanState ρ) (fed : Fed) : Bool :=
  (state.classify profile fed.symbol).escape && profile.options.honorLineContinuation &&
    !fed.exempt.continuation

/-- Wait for what follows an escape symbol. -/
def awaitLineEnd (state : ScanState ρ) (resume : Resume) (fed : Fed) : Reaction ρ :=
  state.become (.continuation resume fed.toLocated none)

/-- The line goes on after a terminator that ends at `stop`. -/
def joinLines (state : ScanState ρ) (resume : Resume) (escape : Located) (stop : Nat) :
    Reaction ρ :=
  let resumed := state.enter resume.mode
  match resume with
  | .idle => resumed.emit .lineContinuation ⟨escape.offset, stop⟩
  | _ => { state := resumed }

/-- No terminator follows, so the escape symbol is fed again as a plain symbol. -/
def abandonContinuation (state : ScanState ρ) (resume : Resume) (escape : Located) :
    Reaction ρ where
  state := state.enter resume.mode
  next := [{ toLocated := escape, exempt := { continuation := true } }]

/-- The answer to the symbol after an escape symbol. -/
def continueLine (state : ScanState ρ) (resume : Resume) (escape : Located)
    (carriage : Option Nat) (fed : Fed) : Reaction ρ :=
  if fed.symbol = '\n' then joinLines state resume escape fed.stop
  else
    match carriage with
    | some offset => (joinLines state resume escape (symbolEnd '\r' offset)).feed [fed]
    | none =>
        if fed.symbol = '\r' then state.become (.continuation resume escape (some fed.offset))
        else (abandonContinuation state resume escape).feed [fed]

end Lexing.Scan
