import Lexing.Literal.Reader
import Lexing.Span
import Lexing.Text.Blank

/-!
# Raw literals

A raw literal declares its own end: after the opening quote comes a delimiter, an
opening parenthesis and the body, and the body ends at the first closing
parenthesis that is followed by the same delimiter and a quote.  The body has no
escapes and may span lines.
-/

namespace Lexing.Literal

/-- The state of reading a raw literal.  In the delimiter and in the decoded body the newest
symbol comes first. -/
structure Raw where
  inBody : Bool := false
  delimiter : List Char := []
  decoded : List Char := []
deriving Repr, DecidableEq

namespace Raw

/-- A delimiter takes no further symbol once it has this many bytes. -/
def delimiterLimit : Nat :=
  16

/-- The symbols that end the body, the last one first. -/
def closing (reader : Raw) : List Char :=
  '"' :: (reader.delimiter ++ [')'])

def fitsDelimiter (symbol : Char) : Bool :=
  !(Text.isBlank symbol || Text.isControl symbol || symbol = ')' || symbol = '\\' || symbol = '"')

def read (reader : Raw) (symbol : Char) : Signal × Raw :=
  if reader.inBody then
    let decoded := symbol :: reader.decoded
    if reader.closing.isPrefixOf decoded then
      (.stop, { reader with decoded := decoded.drop reader.closing.length })
    else (.proceed, { reader with decoded })
  else if symbol = '(' then (.proceed, { reader with inBody := true })
  else if fitsDelimiter symbol && byteLength reader.delimiter < delimiterLimit then
    (.proceed, { reader with delimiter := symbol :: reader.delimiter })
  else (.fail "invalid raw string delimiter", reader)

def take (reader : Raw) : String × Raw :=
  (String.ofList reader.decoded.reverse, { reader with decoded := [] })

instance : Reader Raw where
  reset _ := {}
  read := read
  take := take
  finish reader := (.fail "unterminated raw string", reader)

end Raw

end Lexing.Literal
