import Lexing.Literal.Quoted
import Lexing.Literal.Raw

/-!
# Stock readers

The ready profiles use two forms of literals.
-/

namespace Lexing.Literal

/-- A reader of one of the two stock forms. -/
inductive Stock where
  | quoted (reader : Quoted)
  | raw (reader : Raw)
deriving Repr, DecidableEq

instance : Reader Stock where
  reset
    | .quoted reader => .quoted (Reader.reset reader)
    | .raw reader => .raw (Reader.reset reader)
  read
    | .quoted reader, symbol => (Reader.read reader symbol).map id .quoted
    | .raw reader, symbol => (Reader.read reader symbol).map id .raw
  take
    | .quoted reader => (Reader.take reader).map id .quoted
    | .raw reader => (Reader.take reader).map id .raw
  finish
    | .quoted reader => (Reader.finish reader).map id .quoted
    | .raw reader => (Reader.finish reader).map id .raw

namespace Stock

def string (mark : Char) : Stock :=
  .quoted (Quoted.string mark)

def character (mark : Char) : Stock :=
  .quoted (Quoted.character mark)

def rawString : Stock :=
  .raw {}

end Stock

end Lexing.Literal
