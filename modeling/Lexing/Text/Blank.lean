/-!
# Blank and control symbols

The blanks are the symbols with the Unicode property `White_Space`.  The control
symbols are those of the general category `Cc`.
-/

namespace Lexing.Text

/-- Whether a symbol has the property `White_Space`. -/
def isBlank (symbol : Char) : Bool :=
  let code := symbol.toNat
  (0x09 ≤ code && code ≤ 0x0d) || code = 0x20 || code = 0x85 || code = 0xa0 ||
    code = 0x1680 || (0x2000 ≤ code && code ≤ 0x200a) || code = 0x2028 || code = 0x2029 ||
    code = 0x202f || code = 0x205f || code = 0x3000

def isControl (symbol : Char) : Bool :=
  let code := symbol.toNat
  code < 0x20 || (0x7f ≤ code && code < 0xa0)

end Lexing.Text
