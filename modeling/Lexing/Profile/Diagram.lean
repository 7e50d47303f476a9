import Lexing.Filter.Chain
import Lexing.Filter.Stock
import Lexing.Literal.Stock
import Lexing.Profile.Builder

/-!
# The diagram profile

Text descriptions of diagrams: arrows of several shapes, comments after a single
quote that starts a line, block comments and plain strings.  Elsewhere in a line
the single quote is an operator.  Lines cannot be continued, and numbers have no
prefixes.

The filter of the profile composes an at sign and the identifier right behind it
into one directive.
-/

namespace Lexing.Diagram

open Literal (Stock)

/-- An at sign with an identifier. -/
def directive : Kind := .userOperator 0

def string : Kind := .literal 0

/-- The operators with the offsets of their kinds.  Offset 14 is left for the
single quote. -/
def operators : List (String × UInt16) :=
  [("-", 0), ("--", 13), ("->", 1), ("-->", 2), ("->>", 3), ("-->>", 4), ("<-", 5), ("<--", 6),
    ("<<-", 7), ("<->", 8), ("<-->", 9), ("..", 10), ("..>", 11), ("<..", 12), (".", 15),
    (":", 16), (",", 17), ("=", 18), ("+", 19), ("*", 20), ("#", 21), ("|", 22), ("/", 23),
    ("<", 24), (">", 25), ("!", 26), ("?", 27), (";", 28), ("$", 29)]

def options : Options where
  lineCommentOnlyAtLineStart := true
  honorLineContinuation := false

/-- Register operators with the offsets of their kinds. -/
def addOperators : List (String × UInt16) → Build Stock Unit
  | [] => return
  | (sequence, offset) :: rest => do
      Build.addOperatorKind sequence (.operator offset)
      addOperators rest

/-- The calls that build the profile. -/
def setup : Build Stock Unit := do
  Build.setOptions options
  Build.addBrackets "\x7b\x7d" .curlyOpen
  Build.addBrackets "()" .roundOpen
  Build.addBrackets "[]" .squareOpen
  addOperators operators
  Build.addLineComment "'"
  Build.setBlockComment "/'" "'/"
  Build.addLiteral "\"" string (.string '"')
  Build.addClass "@" { strayPunct := true }

/-- The builder that holds the profile, for callers that add to it. -/
def builder : Builder Stock :=
  Builder.after {} setup

def profile : Profile Stock :=
  builder.profile

def filters : List StockFilter :=
  [.sequenceComposer { pattern := [.strayPunct, .identifier], compound := directive }]

end Lexing.Diagram
