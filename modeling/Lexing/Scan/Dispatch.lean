import Lexing.Scan.Comment
import Lexing.Scan.Literal
import Lexing.Scan.Number
import Lexing.Scan.Operator

/-!
# The machine

Between tokens, the first rule that applies to a symbol decides: line
continuation, line terminator, blank, introduction of a literal, point before a
digit, digit, identifier, bracket, operator, escape, punctuation that stands for
itself.  Input to which no rule applies is rejected.  Inside a token, the mode of
the scan decides.
-/

namespace Lexing.Scan

variable {ρ : Type} [Literal.Reader ρ]

/-! ## Rules between tokens -/

/-- An escape symbol may continue the line. -/
def continuationRule (profile : Profile ρ) (state : ScanState ρ) (fed : Fed) :
    Option (Reaction ρ) :=
  if beginsContinuation profile state fed then some (awaitLineEnd state .idle fed) else none

/-- A line terminator is a token.  A carriage return waits for its line feed. -/
def lineEndRule (profile : Profile ρ) (state : ScanState ρ) (fed : Fed) : Option (Reaction ρ) :=
  if (state.classify profile fed.symbol).linefeed then
    if fed.symbol = '\r' then some (state.become (.blank '\r'))
    else some (state.emit .linefeed fed.span)
  else none

def blankRule (profile : Profile ρ) (state : ScanState ρ) (fed : Fed) : Option (Reaction ρ) :=
  if (state.classify profile fed.symbol).whitespace then
    some (state.become (.blank fed.symbol))
  else none

/-- A symbol may begin the introduction of a literal. -/
def literalRule (profile : Profile ρ) (state : ScanState ρ) (fed : Fed) : Option (Reaction ρ) :=
  if (state.classify profile fed.symbol).literalFirst && !fed.exempt.literal then
    (profile.literals.advance Trie.root fed.symbol).map fun node =>
      reachLiteral profile state node [fed.toLocated] none
  else none

/-- A point may begin a number. -/
def dotRule (profile : Profile ρ) (state : ScanState ρ) (fed : Fed) : Option (Reaction ρ) :=
  if fed.symbol = '.' && !fed.exempt.dotNumber then
    some (state.become (.maybeFloat (.ofKind profile.defaultNumber) fed.offset false))
  else none

/-- A digit begins a prefix or a number without one. -/
def digitRule (profile : Profile ρ) (state : ScanState ρ) (fed : Fed) : Option (Reaction ρ) :=
  if (state.classify profile fed.symbol).digit then
    match profile.numberPrefixes.advance Trie.root fed.symbol with
    | some node => some (state.become (.numberPrefix node [fed.toLocated]))
    | none =>
        (digitValue? fed.symbol profile.options.defaultBase).map fun digit =>
          state.become (.number ((Numeral.ofKind profile.defaultNumber).pushDigit digit))
  else none

def identifierRule (profile : Profile ρ) (state : ScanState ρ) (fed : Fed) :
    Option (Reaction ρ) :=
  if (state.classify profile fed.symbol).identifierFirst then some (state.become .identifier)
  else none

def bracketRule (profile : Profile ρ) (state : ScanState ρ) (fed : Fed) : Option (Reaction ρ) :=
  let traits := state.classify profile fed.symbol
  if traits.opening || traits.closing then
    ((profile.brackets.advance Trie.root fed.symbol).bind profile.brackets.kind?).map fun kind =>
      state.emit kind fed.span
  else none

def operatorRule (profile : Profile ρ) (state : ScanState ρ) (fed : Fed) : Option (Reaction ρ) :=
  if (state.classify profile fed.symbol).operator then
    (profile.operators.advance Trie.root fed.symbol).map fun node =>
      reachOperator profile state node [fed.toLocated] none
  else none

/-- An escape symbol that does not continue the line is a token. -/
def escapeRule (profile : Profile ρ) (state : ScanState ρ) (fed : Fed) : Option (Reaction ρ) :=
  if (state.classify profile fed.symbol).escape then some (state.emit .escape fed.span) else none

/-- Punctuation that stands for itself is a token. -/
def strayRule (profile : Profile ρ) (state : ScanState ρ) (fed : Fed) : Option (Reaction ρ) :=
  if (state.classify profile fed.symbol).strayPunct then some (state.emit .strayPunct fed.span)
  else none

def dispatch (profile : Profile ρ) (before : ScanState ρ) (fed : Fed) : Reaction ρ :=
  let state := { before with tokenStart := fed.offset }
  let found :=
    continuationRule profile state fed <|> lineEndRule profile state fed <|>
      blankRule profile state fed <|> literalRule profile state fed <|>
      dotRule profile state fed <|> digitRule profile state fed <|>
      identifierRule profile state fed <|> bracketRule profile state fed <|>
      operatorRule profile state fed <|> escapeRule profile state fed <|>
      strayRule profile state fed
  found.getD (state.reject fed.span)

/-! ## Blanks and identifiers -/

/-- The kind of a run of one blank symbol. -/
def blankKind (symbol : Char) : Kind :=
  if symbol = '\t' then .tab
  else if symbol = '\x0c' then .formFeed
  else .space

/-- The answer to a symbol after a run of blanks, or after a carriage return. -/
def readBlank (state : ScanState ρ) (run : Char) (fed : Fed) : Reaction ρ :=
  if run = '\r' then
    if fed.symbol = '\n' then state.finish .linefeed fed.stop
    else (state.finish .linefeed fed.offset).feed [fed]
  else if fed.symbol = run then state.become (.blank run)
  else (state.finish (blankKind run) fed.offset).feed [fed]

/-- The answer to a symbol after part of an identifier. -/
def readIdentifier (profile : Profile ρ) (state : ScanState ρ) (fed : Fed) : Reaction ρ :=
  if beginsContinuation profile state fed then awaitLineEnd state .identifier fed
  else if (state.classify profile fed.symbol).identifier then state.become .identifier
  else (state.finish .identifier fed.offset).feed [fed]

/-! ## All modes -/

def react (profile : Profile ρ) (state : ScanState ρ) (fed : Fed) : Reaction ρ :=
  match state.mode with
  | .idle => dispatch profile state fed
  | .blank run => readBlank state run fed
  | .identifier => readIdentifier profile state fed
  | .numberPrefix node pending => readNumberPrefix profile state node pending fed
  | .number value => readNumber profile state value fed
  | .maybeFloat value dot hasInteger => readMaybeFloat state value dot hasInteger fed
  | .float value => readFloat profile state value fed
  | .operator walk => readOperator profile state walk fed
  | .lineComment text => readLineComment profile state text fed
  | .blockComment text seen crossed => readBlockComment profile state text seen crossed fed
  | .literalPrefix walk => readLiteralPrefix profile state walk fed
  | .literal number kind => readLiteral profile state number kind fed
  | .continuation resume escape carriage => continueLine state resume escape carriage fed

/-- The answer to the end of the input at `stop`.  There is none between tokens;
otherwise it may have to be asked for again until the scan is between tokens. -/
def flush? (profile : Profile ρ) (state : ScanState ρ) (stop : Nat) : Option (Reaction ρ) :=
  match state.mode with
  | .idle => none
  | .blank run => some (state.finish (if run = '\r' then .linefeed else blankKind run) stop)
  | .identifier => some (state.finish .identifier stop)
  | .numberPrefix node pending => some (resolvePrefix profile state node pending none)
  | .number value => some (state.finishNumber value stop)
  | .maybeFloat value dot hasInteger => some (releaseDot state value dot hasInteger)
  | .float value => some (state.finishNumber value stop)
  | .operator walk => some (stuckOperator profile state walk stop)
  | .lineComment text => some (state.finish .lineComment stop (commentPayload text))
  | .blockComment .. => some (state.reject ⟨state.tokenStart, stop⟩)
  | .literalPrefix walk => some (stuckLiteral profile state walk)
  | .literal number kind => some (closeLiteral state number kind stop)
  | .continuation resume escape carriage =>
      match carriage with
      | some offset => some (joinLines state resume escape (symbolEnd '\r' offset))
      | none => some (abandonContinuation state resume escape)

end Lexing.Scan
