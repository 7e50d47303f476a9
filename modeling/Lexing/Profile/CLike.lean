import Lexing.Filter.Chain
import Lexing.Filter.Stock
import Lexing.Literal.Stock
import Lexing.Profile.Builder

/-!
# The C-like profile

Sources in C and C++: three pairs of brackets, the operators without digraphs,
line and block comments, hexadecimal, binary and octal numbers with digit
separators, strings, characters and raw strings.  Lines can be continued.

The filters of the profile glue suffixes onto numbers, bracket preprocessor lines
and take the two hash operators apart outside of them.
-/

namespace Lexing.CLike

open Literal (Stock)

def hex : Kind := .numberHex
/-- Hexadecimal numbers introduced by `0X`. -/
def hexUpper : Kind := ⟨0x1501⟩
def binary : Kind := .numberBinary
/-- Binary numbers introduced by `0B`. -/
def binaryUpper : Kind := ⟨0x1101⟩
/-- Octal numbers, introduced by `0`.  A zero by itself is one of them. -/
def octal : Kind := ⟨0x1B00⟩

def string : Kind := .literal 0
def character : Kind := .literal 1
def wideString : Kind := .literal 2
def wideCharacter : Kind := .literal 3
def utf8String : Kind := .literal 4
def rawString : Kind := .literal 5

/-- The operators, in the order of their kinds. -/
def operators : List String :=
  ["+", "-", "*", "/", "%", "++", "--", "=", "+=", "-=", "*=", "/=", "%=", "==", "!=", "<", ">",
    "<=", ">=", "<=>", "&&", "||", "!", "&", "|", "^", "~", "<<", ">>", "&=", "|=", "^=", "<<=",
    ">>=", "->", "->*", ".", ".*", "...", "::", ":", ";", ",", "?", "#", "##"]

/-- The operator that starts a preprocessor line. -/
def hash : Kind := .operator 44
/-- The operator that joins tokens in a preprocessor line. -/
def hashHash : Kind := .operator 45

def options : Options where
  honorLineContinuation := true
  allowDigitSeparator := true
  digitSeparator := '\''

/-- Register the operators from the given offset on. -/
def addOperators : (offset : UInt16) → List String → Build Stock Unit
  | _, [] => return
  | offset, sequence :: rest => do
      Build.addOperatorKind sequence (.operator offset)
      addOperators (offset + 1) rest

/-- The calls that build the profile. -/
def setup : Build Stock Unit := do
  Build.setOptions options
  Build.addBrackets "\x7b\x7d" .curlyOpen
  Build.addBrackets "()" .roundOpen
  Build.addBrackets "[]" .squareOpen
  Build.addNumberPrefix "0x" hex
  Build.addNumberPrefix "0X" hexUpper
  Build.addNumberPrefix "0b" binary
  Build.addNumberPrefix "0B" binaryUpper
  Build.addNumberPrefix "0" octal
  addOperators 0 operators
  Build.addLineComment "//"
  Build.setBlockComment "/*" "*/"
  Build.addLiteral "\"" string (.string '"')
  Build.addLiteral "'" character (.character '\'')
  Build.addLiteral "L\"" wideString (.string '"')
  Build.addLiteral "L'" wideCharacter (.character '\'')
  Build.addLiteral "u8\"" utf8String (.string '"')
  Build.addLiteral "R\"" rawString .rawString
  Build.addClass "@$`" { strayPunct := true }

/-- The builder that holds the profile, for callers that add to it. -/
def builder : Builder Stock :=
  Builder.after {} setup

def profile : Profile Stock :=
  builder.profile

/-- The filters of the profile, in the order of their installation: tokens pass
the directive lines first and the gluing of suffixes last. -/
def filters : List StockFilter :=
  [.suffixGlue {},
    .modeGate {
      enter := .directiveEnter
      exit := .directiveExit
      gated := [(hash, ['#']), (hashHash, ['#', '#'])] },
    .lineDirective { marker := hash }]

end Lexing.CLike
