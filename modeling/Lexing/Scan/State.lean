import Lexing.Literal.Reader
import Lexing.Numeral
import Lexing.Profile.Basic

/-!
# Scan states

A scan is fed one symbol at a time, with the offset at which it stands.  Between
two symbols it is in one of a few modes.  A mode holds what is known about the
token that has begun: the symbols of a walk through a trie, the value of a number
or the text of a comment.
-/

namespace Lexing

/-- A symbol with the offset at which it stands. -/
structure Located where
  symbol : Char
  offset : Nat
deriving Repr, DecidableEq, Inhabited

namespace Located

def stop (located : Located) : Nat :=
  symbolEnd located.symbol located.offset

def span (located : Located) : Span :=
  ⟨located.offset, located.stop⟩

/-- The symbols of a text that starts at `offset`, with their offsets. -/
def ofText : (offset : Nat) → List Char → List Located
  | _, [] => []
  | offset, symbol :: rest => ⟨symbol, offset⟩ :: ofText (symbolEnd symbol offset) rest

/-- The span from the first to the last of some symbols, if there are any. -/
def spanOf? (symbols : List Located) : Option Span := do
  let first ← symbols.head?
  let last ← symbols.getLast?
  return ⟨first.offset, last.stop⟩

end Located

/-- A walk through a trie: the node that it has reached, the symbols on the way to it in
order, and the last node passed at which a sequence ends, with the number of symbols up to
it. -/
structure Walk where
  node : NodeId
  pending : List Located
  terminal : Option (NodeId × Nat) := none
deriving Repr, DecidableEq

/-- A mode that a line continuation can interrupt. -/
inductive Resume where
  | idle
  | identifier
  | operator (walk : Walk)
  | lineComment (text : List Char)
deriving Repr, DecidableEq

/-- What a scan is reading.  A blank is a run of one symbol, or a carriage return that a line
feed may follow.  The text of a comment has its newest symbol first; a block comment also
knows how many symbols of its closing marker were just seen and whether it has crossed a line.
A continuation is an escape symbol, and possibly a carriage return at the given offset. -/
inductive Mode where
  | idle
  | blank (run : Char)
  | identifier
  | numberPrefix (node : NodeId) (pending : List Located)
  | number (value : Numeral)
  | maybeFloat (value : Numeral) (dot : Nat) (hasInteger : Bool)
  | float (value : Numeral)
  | operator (walk : Walk)
  | lineComment (text : List Char)
  | blockComment (text : List Char) (seen : Nat) (crossed : Bool)
  | literalPrefix (walk : Walk)
  | literal (reader : Nat) (kind : Kind)
  | continuation (resume : Resume) (escape : Located) (carriage : Option Nat)
deriving Repr, DecidableEq

/-- The mode that a continued line goes on with. -/
def Resume.mode : Resume → Mode
  | .idle => .idle
  | .identifier => .identifier
  | .operator walk => .operator walk
  | .lineComment text => .lineComment text

namespace Mode

/-- Symbols that were fed but may have to be fed again. -/
def pending : Mode → List Located
  | .numberPrefix _ pending => pending
  | .operator walk => walk.pending
  | .literalPrefix walk => walk.pending
  | .continuation (.operator walk) _ _ => walk.pending
  | _ => []

def literal? : Mode → Option (Nat × Kind)
  | .literal reader kind => some (reader, kind)
  | _ => none

end Mode

/-- The state of a scan: what it is reading, where the token that was begun last starts,
whether only trivia has been seen on the line, the readers that were needed so far by number,
and a class table of this scan alone. -/
structure ScanState (ρ : Type) where
  mode : Mode := .idle
  tokenStart : Nat := 0
  lineStart : Bool := true
  readers : List (Nat × ρ) := []
  ownClasses : Option CharClass.Table := none

namespace ScanState

variable {ρ : Type}

/-- Go back to the start of a document.  Readers and the class table of the scan
are kept. -/
def reset (state : ScanState ρ) : ScanState ρ where
  readers := state.readers
  ownClasses := state.ownClasses

def enter (state : ScanState ρ) (mode : Mode) : ScanState ρ :=
  { state with mode }

def classify (state : ScanState ρ) (profile : Profile ρ) (symbol : Char) : CharClass :=
  (state.ownClasses.getD profile.classes).classify symbol

/-- Change the class of a symbol for this scan alone. -/
def setClass (state : ScanState ρ) (profile : Profile ρ) (symbol : Char) (traits : CharClass) :
    ScanState ρ :=
  { state with ownClasses := some ((state.ownClasses.getD profile.classes).set symbol traits) }

def resetClasses (state : ScanState ρ) : ScanState ρ :=
  { state with ownClasses := none }

/-- The reader with the given number, if it was needed before. -/
def reader? (state : ScanState ρ) (number : Nat) : Option ρ :=
  state.readers.lookup number

def keepReader (state : ScanState ρ) (number : Nat) (reader : ρ) : ScanState ρ :=
  { state with
    readers := (number, reader) :: state.readers.filter fun entry => entry.1 ≠ number }

/-- A reader that has been kept is found again. -/
theorem reader?_keepReader (state : ScanState ρ) (number : Nat) (reader : ρ) :
    (state.keepReader number reader).reader? number = some reader := by
  simp [reader?, keepReader]

end ScanState

end Lexing
