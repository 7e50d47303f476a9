/-!
# Character classes

A class is a set of hints about one symbol.  The hints do not exclude each
other: a symbol can be both an operator symbol and the first symbol of a literal,
and the scanner decides by its mode which hint applies.
-/

namespace Lexing

/-- The hints that a symbol carries.  `strayPunct` is punctuation that stands for itself. -/
structure CharClass where
  digit : Bool := false
  hexDigit : Bool := false
  identifierFirst : Bool := false
  identifier : Bool := false
  whitespace : Bool := false
  linefeed : Bool := false
  operator : Bool := false
  opening : Bool := false
  closing : Bool := false
  escape : Bool := false
  literalFirst : Bool := false
  strayPunct : Bool := false
deriving Repr, DecidableEq, Inhabited

namespace CharClass

def empty : CharClass := {}

def union (first second : CharClass) : CharClass where
  digit := first.digit || second.digit
  hexDigit := first.hexDigit || second.hexDigit
  identifierFirst := first.identifierFirst || second.identifierFirst
  identifier := first.identifier || second.identifier
  whitespace := first.whitespace || second.whitespace
  linefeed := first.linefeed || second.linefeed
  operator := first.operator || second.operator
  opening := first.opening || second.opening
  closing := first.closing || second.closing
  escape := first.escape || second.escape
  literalFirst := first.literalFirst || second.literalFirst
  strayPunct := first.strayPunct || second.strayPunct

/-- The hints of the first class that the second one does not have. -/
def without (first second : CharClass) : CharClass where
  digit := first.digit && !second.digit
  hexDigit := first.hexDigit && !second.hexDigit
  identifierFirst := first.identifierFirst && !second.identifierFirst
  identifier := first.identifier && !second.identifier
  whitespace := first.whitespace && !second.whitespace
  linefeed := first.linefeed && !second.linefeed
  operator := first.operator && !second.operator
  opening := first.opening && !second.opening
  closing := first.closing && !second.closing
  escape := first.escape && !second.escape
  literalFirst := first.literalFirst && !second.literalFirst
  strayPunct := first.strayPunct && !second.strayPunct

/-- The class whose hints are the twelve low bits of a number, in the order of
the fields. -/
def ofBits (bits : Nat) : CharClass where
  digit := bits.testBit 0
  hexDigit := bits.testBit 1
  identifierFirst := bits.testBit 2
  identifier := bits.testBit 3
  whitespace := bits.testBit 4
  linefeed := bits.testBit 5
  operator := bits.testBit 6
  opening := bits.testBit 7
  closing := bits.testBit 8
  escape := bits.testBit 9
  literalFirst := bits.testBit 10
  strayPunct := bits.testBit 11

/-- The hints as bits, in the order of the fields. -/
def toBits (traits : CharClass) : Nat :=
  traits.digit.toNat + 2 * traits.hexDigit.toNat + 4 * traits.identifierFirst.toNat +
    8 * traits.identifier.toNat + 16 * traits.whitespace.toNat + 32 * traits.linefeed.toNat +
    64 * traits.operator.toNat + 128 * traits.opening.toNat + 256 * traits.closing.toNat +
    512 * traits.escape.toNat + 1024 * traits.literalFirst.toNat + 2048 * traits.strayPunct.toNat

end CharClass

end Lexing
