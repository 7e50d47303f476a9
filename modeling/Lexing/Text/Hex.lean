/-!
# Hexadecimal text

Numbers in messages are written in base sixteen, either with as many digits as
they need or padded with zeros to a fixed width.
-/

namespace Lexing.Text

/-- The number in lower-case hexadecimal digits, without leading zeros. -/
def hexLower (number : Nat) : String :=
  String.ofList (Nat.toDigits 16 number)

/-- Digits padded with zeros to at least the given width. -/
def padded (width : Nat) (digits : List Char) : List Char :=
  List.replicate (width - digits.length) '0' ++ digits

/-- The number in lower-case hexadecimal digits, at least `width` of them. -/
def hexLowerPadded (width number : Nat) : String :=
  String.ofList (padded width (Nat.toDigits 16 number))

/-- The number in upper-case hexadecimal digits, at least `width` of them. -/
def hexUpperPadded (width number : Nat) : String :=
  String.ofList (padded width ((Nat.toDigits 16 number).map Char.toUpper))

end Lexing.Text
