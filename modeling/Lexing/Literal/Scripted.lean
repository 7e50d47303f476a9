import Lexing.Literal.Reader

/-!
# Scripted literals

A scripted reader looks its answers up in a table.  It is the simplest way to
give a profile a literal form of its own.
-/

namespace Lexing.Literal

/-- The state of reading a literal by a table of answers.  Symbols without an answer are
content, and the newest decoded one comes first. -/
structure Scripted where
  answers : List (Char × Signal)
  atEnd : Signal := .fail unterminated
  decoded : List Char := []
deriving Repr, DecidableEq

namespace Scripted

/-- Read one symbol.  Symbols after which the literal goes on are content. -/
def read (reader : Scripted) (symbol : Char) : Signal × Scripted :=
  let signal := (reader.answers.lookup symbol).getD .proceed
  match signal with
  | .proceed | .proceedWith _ => (signal, { reader with decoded := symbol :: reader.decoded })
  | _ => (signal, reader)

instance : Reader Scripted where
  reset reader := { reader with decoded := [] }
  read := read
  take reader := (String.ofList reader.decoded.reverse, { reader with decoded := [] })
  finish reader := (reader.atEnd, reader)

end Scripted

end Lexing.Literal
