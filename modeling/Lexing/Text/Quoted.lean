import Lexing.Text.Hex
import Lexing.Text.Printable

/-!
# Quoted text

Messages show symbols and texts between quotes.  Control symbols are written as
escapes, and so is every symbol that would not be visible by itself.
-/

namespace Lexing.Text

/-- The escape of a symbol by its code point. -/
def codeEscape (symbol : Char) : String :=
  "\\u\x7b" ++ hexLower symbol.toNat ++ "\x7d"

/-- One symbol as it stands between the given quotes. -/
def escapeFor (mark : Char) (symbol : Char) : String :=
  if symbol = mark ∨ symbol = '\\' then String.ofList ['\\', symbol]
  else if symbol = '\x00' then "\\0"
  else if symbol = '\t' then "\\t"
  else if symbol = '\r' then "\\r"
  else if symbol = '\n' then "\\n"
  else if isPrintable symbol then symbol.toString
  else codeEscape symbol

def quote (text : String) : String :=
  "\"" ++ String.join (text.toList.map (escapeFor '"')) ++ "\""

def quoteSymbol (symbol : Char) : String :=
  "'" ++ escapeFor '\'' symbol ++ "'"

end Lexing.Text
