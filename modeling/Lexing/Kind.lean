import Lexing.Text.Hex

/-!
# Token kinds

A kind is a sixteen-bit tag.  Its values are divided into fixed ranges that all
profiles share, so that a consumer can classify a kind without knowing which
profile produced it:

* `0x8000` and above: control kinds;
* `0x0000` to `0x000F`: atomic kinds such as identifiers, blanks and comments;
* `0x0011` to `0x0042`: bracket pairs, the closing kind one above the opening one;
* `0x1000` to `0x1FFF`: numbers, with a float flag, a base selector and a flag
  for prefixes that may stand without digits;
* `0x2000` to `0x2FFF`: operators, from `0x2800` on defined by the caller;
* `0x3000` to `0x3FFF`: literals;
* `0x4000` to `0x5FFF`: eight keyword sets of 1024 kinds each.
-/

namespace Lexing

/-- A classified token tag. -/
structure Kind where
  raw : UInt16
deriving Repr, DecidableEq, Inhabited

namespace Kind

/-- The tag as a natural number, on which all ranges are stated. -/
def code (kind : Kind) : Nat :=
  kind.raw.toNat

/-- The range that a kind belongs to. -/
inductive Category where
  | control
  | atomic
  | bracket
  | number
  | operator
  | literal
  | keyword
  | reserved
deriving Repr, DecidableEq

/-! ## Control kinds -/

/-- End of input. -/
def fin : Kind := ⟨0x8000⟩
def directiveEnter : Kind := ⟨0x8001⟩
def directiveExit : Kind := ⟨0x8002⟩

/-! ## Atomic kinds -/

/-- Input that no rule accepts. -/
def unexpected : Kind := ⟨0x0000⟩
/-- A symbol that a gate demoted. -/
def rawChar : Kind := ⟨0x0001⟩
def linefeed : Kind := ⟨0x0002⟩
/-- A run of one blank symbol other than the two below. -/
def space : Kind := ⟨0x0003⟩
def tab : Kind := ⟨0x0004⟩
def formFeed : Kind := ⟨0x0005⟩
def identifier : Kind := ⟨0x0006⟩
/-- Punctuation with no operator meaning. -/
def strayPunct : Kind := ⟨0x0007⟩
/-- An escape symbol that joins no lines. -/
def escape : Kind := ⟨0x0008⟩
/-- An escape symbol together with the line terminator that it removes. -/
def lineContinuation : Kind := ⟨0x0009⟩
/-- A comment that ends with its line. -/
def lineComment : Kind := ⟨0x000A⟩
/-- A comment that ends with a marker. -/
def blockComment : Kind := ⟨0x000B⟩

/-! ## Bracket kinds -/

def curlyOpen : Kind := ⟨0x0011⟩
def roundOpen : Kind := ⟨0x0021⟩
def angleOpen : Kind := ⟨0x0031⟩
def squareOpen : Kind := ⟨0x0041⟩

/-! ## Number kinds -/

def numberDecimal : Kind := ⟨0x1000⟩
def numberBinary : Kind := ⟨0x1100⟩
def numberQuaternary : Kind := ⟨0x1200⟩
def numberOctal : Kind := ⟨0x1300⟩
def numberDuodecimal : Kind := ⟨0x1400⟩
def numberHex : Kind := ⟨0x1500⟩

/-! ## Families -/

/-- The first operator kind. -/
def operatorFirst : UInt16 := 0x2000
/-- The first operator kind that the caller defines. -/
def operatorUserFirst : UInt16 := 0x2800

/-- The operator kind at `offset` in its range. -/
def operator (offset : UInt16) : Kind :=
  ⟨operatorFirst + offset⟩

/-- The operator kind at `offset` in the part that the caller defines. -/
def userOperator (offset : UInt16) : Kind :=
  ⟨operatorUserFirst + offset⟩

/-- The literal kind at `offset` in its range. -/
def literal (offset : UInt16) : Kind :=
  ⟨0x3000 + offset⟩

/-- Kind `index` of the keyword set `set`. -/
def keyword (set index : UInt16) : Kind :=
  ⟨0x4000 + set * 0x0400 + index⟩

/-- The control kind with the given low bits. -/
def control (low : UInt16) : Kind :=
  ⟨0x8000 ||| low⟩

/-! ## Classification -/

/-- The range that the kind belongs to. -/
def category (kind : Kind) : Category :=
  if 0x8000 ≤ kind.code then .control
  else if kind.code ≤ 0x000F then .atomic
  else if 0x0011 ≤ kind.code ∧ kind.code ≤ 0x0042 then .bracket
  else if 0x1000 ≤ kind.code ∧ kind.code ≤ 0x1FFF then .number
  else if 0x2000 ≤ kind.code ∧ kind.code ≤ 0x2FFF then .operator
  else if 0x3000 ≤ kind.code ∧ kind.code ≤ 0x3FFF then .literal
  else if 0x4000 ≤ kind.code ∧ kind.code ≤ 0x5FFF then .keyword
  else .reserved

/-- Control kinds carry no text. -/
def isControl (kind : Kind) : Bool :=
  0x8000 ≤ kind.code

def isNumber (kind : Kind) : Bool :=
  kind.category = .number

def isOperator (kind : Kind) : Bool :=
  kind.category = .operator

def isLiteral (kind : Kind) : Bool :=
  kind.category = .literal

def isComment (kind : Kind) : Bool :=
  kind = lineComment ∨ kind = blockComment

/-- Blanks, line continuations, comments and control kinds.  Trivia leaves a
line as fresh as it was. -/
def isTrivia (kind : Kind) : Bool :=
  kind = space ∨ kind = tab ∨ kind = formFeed ∨ kind = lineContinuation ∨
    kind.isComment ∨ kind.isControl

/-- Runs of blanks and line terminators. -/
def isBlank (kind : Kind) : Bool :=
  kind = space ∨ kind = tab ∨ kind = formFeed ∨ kind = linefeed

def isBracketOpen (kind : Kind) : Bool :=
  kind = curlyOpen ∨ kind = roundOpen ∨ kind = angleOpen ∨ kind = squareOpen

/-- The closing kind that belongs to an opening bracket kind. -/
def bracketClose? (kind : Kind) : Option Kind :=
  if kind.isBracketOpen then some ⟨kind.raw + 1⟩ else none

/-! ## Numbers -/

/-- Whether the binary digit of the given weight is set in the tag. -/
def hasBit (kind : Kind) (weight : Nat) : Bool :=
  kind.code / weight % 2 = 1

def isFloat (kind : Kind) : Bool :=
  kind.isNumber && kind.hasBit 0x80

def withFloat (kind : Kind) : Kind :=
  if kind.hasBit 0x80 then kind else ⟨kind.raw + 0x80⟩

/-- Number kinds whose prefix may stand without any digit after it. -/
def allowsMissingDigits (kind : Kind) : Bool :=
  kind.isNumber && kind.hasBit 0x800

/-- The three bits that select the base of a number kind. -/
def baseSelector (kind : Kind) : Nat :=
  kind.code / 0x100 % 8

/-- The base of a number kind, unless the selector is one of the two unused
ones. -/
def numberBase? (kind : Kind) : Option Nat :=
  if kind.isNumber then
    match kind.baseSelector with
    | 0 => some 10
    | 1 => some 2
    | 2 => some 4
    | 3 => some 8
    | 4 => some 12
    | 5 => some 16
    | _ => none
  else none

/-- The plain number kind of a supported base. -/
def numberForBase? (base : Nat) : Option Kind :=
  match base with
  | 10 => some numberDecimal
  | 2 => some numberBinary
  | 4 => some numberQuaternary
  | 8 => some numberOctal
  | 12 => some numberDuodecimal
  | 16 => some numberHex
  | _ => none

def keywordSet? (kind : Kind) : Option Nat :=
  if kind.category = .keyword then some ((kind.code - 0x4000) / 0x0400) else none

/-! ## Names -/

/-- The short names of atomic and control kinds. -/
def names : List (Kind × String) :=
  [(unexpected, "unexpected"), (rawChar, "raw-char"), (linefeed, "linefeed"),
    (space, "space"), (tab, "tab"), (formFeed, "form-feed"),
    (identifier, "identifier"), (strayPunct, "stray-punct"), (escape, "escape"),
    (lineContinuation, "line-continuation"), (lineComment, "comment"),
    (blockComment, "block-comment"), (fin, "fin"),
    (directiveEnter, "directive-enter"), (directiveExit, "directive-exit")]

def name? (kind : Kind) : Option String :=
  names.lookup kind

def Category.name : Category → String
  | .control => "Control"
  | .atomic => "Atomic"
  | .bracket => "Bracket"
  | .number => "Number"
  | .operator => "Operator"
  | .literal => "Literal"
  | .keyword => "Keyword"
  | .reserved => "Reserved"

/-- The written form of a kind: its short name, or its category with the tag in
hexadecimal. -/
def text (kind : Kind) : String :=
  match kind.name? with
  | some name => name
  | none => kind.category.name ++ "(0x" ++ Text.hexUpperPadded 4 kind.code ++ ")"

end Kind

end Lexing
