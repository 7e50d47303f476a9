import Lexing.Scan.State
import Lexing.Text.Quoted

/-!
# Written scan states

For inspection a scan state is written in one line: the mode with its data, the
pending symbols, the literal and the line continuation that are being read, and
what the scan keeps for itself.
-/

namespace Lexing

/-- The written form of a record: its name and its fields in curly braces. -/
def recordText (name : String) (fields : List String) : String :=
  name ++ " \x7b " ++ ", ".intercalate fields ++ " \x7d"

def optionText (text : Option String) : String :=
  match text with
  | none => "None"
  | some inner => "Some(" ++ inner ++ ")"

def boolText (value : Bool) : String :=
  if value then "true" else "false"

def nodeText (node : NodeId) : String :=
  "NodeId(" ++ toString node ++ ")"

namespace Mode

def name : Mode → String
  | .idle => "Initial"
  | .blank _ => "ReadingWhitespace"
  | .identifier => "ReadingIdentifier"
  | .numberPrefix .. => "ReadingNumberPrefix"
  | .number _ => "ReadingNumber"
  | .maybeFloat .. => "ReadingNumberMaybeFloat"
  | .float _ => "ReadingFloatNumber"
  | .operator _ => "ReadingOperator"
  | .lineComment _ => "ReadingSingleLineComment"
  | .blockComment .. => "ReadingMultiLineComment"
  | .literalPrefix _ => "ReadingStringLiteral"
  | .literal .. => "ReadingStringLiteral"
  | .continuation .. => "AwaitingLineContinuationNewline"

/-- The fields that are written with the name of a mode. -/
def fields : Mode → List String
  | .blank run => ["symbol: " ++ Text.quoteSymbol run]
  | .numberPrefix node _ => ["node: " ++ nodeText node]
  | .maybeFloat _ dot hasInteger =>
      ["dot: " ++ toString dot, "has_integer: " ++ boolText hasInteger]
  | .operator walk => ["node: " ++ nodeText walk.node]
  | .blockComment _ seen _ => ["matched: " ++ toString seen]
  | .literalPrefix walk => ["prefix: " ++ optionText (some (nodeText walk.node))]
  | .literal .. => ["prefix: " ++ optionText none]
  | _ => []

def text (mode : Mode) : String :=
  match mode.fields with
  | [] => mode.name
  | fields => recordText mode.name fields

def continuationText? : Mode → Option String
  | .continuation resume escape carriage =>
      some (recordText "Continuation"
        ["resume: " ++ resume.mode.text, "escape: " ++ Text.quoteSymbol escape.symbol,
          "escape_pos: " ++ toString escape.offset,
          "cr: " ++ optionText (carriage.map toString)])
  | _ => none

def literalText? (mode : Mode) : Option String :=
  mode.literal?.map fun (reader, kind) =>
    "(LiteralParserId(" ++ toString reader ++ "), " ++ kind.text ++ ")"

end Mode

def Located.text (located : Located) : String :=
  "(" ++ Text.quoteSymbol located.symbol ++ ", " ++ toString located.offset ++ ")"

def ScanState.text {ρ : Type} (state : ScanState ρ) : String :=
  recordText "ScanState"
    ["state: " ++ state.mode.text, "token_start: " ++ toString state.tokenStart,
      "line_start: " ++ boolText state.lineStart,
      "pending: [" ++ ", ".intercalate (state.mode.pending.map Located.text) ++ "]",
      "literal: " ++ optionText state.mode.literalText?,
      "continuation: " ++ optionText state.mode.continuationText?,
      "private_classes: " ++ boolText state.ownClasses.isSome,
      "parsers: " ++ toString state.readers.length, ".."]

end Lexing
