import Lexing.Digit
import Lexing.Token

/-!
# Numerals

The value of a number is built digit by digit: `value * base + digit`.  Values
are kept below `2 ^ 64`.  The first digit that would leave this range is dropped
together with all later ones, and a flag remembers it.  A fraction is kept as a
numerator with a scale, a power of the base, and the value of the whole number is
`integer + fraction / scale`.
-/

namespace Lexing

/-- The bound below which all values of a numeral stay. -/
def wordBound : Nat :=
  0x10000000000000000

/-- A number that is being read, whose kind has no float flag.  The fraction is divided by
its scale, a power of the base, and each overflow flag tells whether a digit of its part was
dropped. -/
structure Numeral where
  kind : Kind
  base : Nat
  integer : Nat := 0
  integerOverflow : Bool := false
  fraction : Nat := 0
  scale : Nat := 1
  fractionOverflow : Bool := false
  isFloat : Bool := false
deriving Repr, DecidableEq

namespace Numeral

/-- A number of the given kind without digits.  Kinds without a base count in
base ten. -/
def ofKind (kind : Kind) : Numeral where
  kind := kind
  base := kind.numberBase?.getD 10

def finalKind (numeral : Numeral) : Kind :=
  if numeral.isFloat then numeral.kind.withFloat else numeral.kind

def pushDigit (numeral : Numeral) (digit : Nat) : Numeral :=
  if numeral.integerOverflow then numeral
  else
    let next := numeral.integer * numeral.base + digit
    if next < wordBound then { numeral with integer := next }
    else { numeral with integerOverflow := true }

def startFraction (numeral : Numeral) : Numeral :=
  { numeral with isFloat := true }

/-- Append a digit after the point.  The fraction and its scale advance together
or not at all, so that their quotient keeps the precision reached so far. -/
def pushFractionDigit (numeral : Numeral) (digit : Nat) : Numeral :=
  let numeral := numeral.startFraction
  if numeral.fractionOverflow then numeral
  else
    let nextFraction := numeral.fraction * numeral.base + digit
    let nextScale := numeral.scale * numeral.base
    if nextFraction < wordBound ∧ nextScale < wordBound then
      { numeral with fraction := nextFraction, scale := nextScale }
    else { numeral with fractionOverflow := true }

/-- The double nearest to a value below `wordBound`. -/
def nearestFloat (value : Nat) : Float :=
  (UInt64.ofNat value).toFloat

def floatValue (numeral : Numeral) : Float :=
  nearestFloat numeral.integer + nearestFloat numeral.fraction / nearestFloat numeral.scale

/-- The payload of the finished number, whose text ends at `stop`. -/
def payload (numeral : Numeral) (stop : Nat) : Payload :=
  if numeral.isFloat then
    .float {
      bits := numeral.floatValue.toBits
      integerOverflow := numeral.integerOverflow
      fractionOverflow := numeral.fractionOverflow
      suffixStart := stop }
  else
    .integer {
      value := numeral.integer
      overflow := numeral.integerOverflow
      suffixStart := stop }

/-- Append all digits of a text, skipping the separator.  There is no answer when
some other symbol is no digit of the base. -/
def pushAll (numeral : Numeral) (separator : Option Char) : List Char → Option Numeral
  | [] => some numeral
  | symbol :: rest =>
      if some symbol = separator then numeral.pushAll separator rest
      else
        match digitValue? symbol numeral.base with
        | some digit => (numeral.pushDigit digit).pushAll separator rest
        | none => none

/-- The value of a whole digit text in one of the supported bases, with the flag
that says whether digits were dropped. -/
def accumulate (digits : String) (base : Nat) (separator : Option Char) : Option (Nat × Bool) := do
  let kind ← Kind.numberForBase? base
  let numeral ← (ofKind kind).pushAll separator digits.toList
  return (numeral.integer, numeral.integerOverflow)

end Numeral

end Lexing
