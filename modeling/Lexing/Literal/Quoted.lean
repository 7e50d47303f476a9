import Lexing.Digit
import Lexing.Literal.Reader
import Lexing.Text.Hex

/-!
# Quoted literals

A quoted literal ends at its quote.  A backslash starts an escape: a single
letter, up to three octal digits, `x` with any number of hexadecimal digits, or
`u` and `U` with exactly four and eight of them.  A backslash before a line
terminator joins the lines, and a line terminator by itself is an error.

A malformed escape never ends the literal.  It is replaced by `U+FFFD` or by the
escaped symbol, and the answer carries a remark.
-/

namespace Lexing.Literal

/-- Where a quoted literal stands inside an escape: outside of all, right behind the
backslash, behind a carriage return whose line feed may follow, or among the digits of an
octal, hexadecimal or universal escape, with the value and number of those so far. -/
inductive Escape where
  | outside
  | opened
  | afterReturn
  | octal (value digits : Nat)
  | hex (value digits : Nat)
  | universal (value digits width : Nat)
deriving Repr, DecidableEq, Inhabited

/-- The state of reading a quoted literal that ends at `mark` and, if it is `single`,
should hold one symbol.  The newest decoded symbol comes first, and `count` is the number
of symbols decoded since the literal began. -/
structure Quoted where
  mark : Char
  single : Bool := false
  decoded : List Char := []
  escape : Escape := .outside
  count : Nat := 0
deriving Repr, DecidableEq

namespace Quoted

/-- The largest value that an escape can reach. -/
def maxCode : Nat :=
  0xFFFFFFFF

/-- The stand-in for symbols that cannot be decoded. -/
def replacement : Char :=
  '\ufffd'

/-- A string that ends at `mark`. -/
def string (mark : Char) : Quoted where
  mark := mark

/-- A character literal that ends at `mark`. -/
def character (mark : Char) : Quoted where
  mark := mark
  single := true

def push (reader : Quoted) (symbol : Char) : Quoted :=
  { reader with decoded := symbol :: reader.decoded, count := reader.count + 1 }

def leaveEscape (reader : Quoted) : Quoted :=
  { reader with escape := .outside }

def within (reader : Quoted) (escape : Escape) : Signal × Quoted :=
  (.proceed, { reader with escape })

/-- Append the symbol with the given code point.  Values that are no code point
of a symbol are replaced, with a remark. -/
def pushCode (reader : Quoted) (value : Nat) : Option String × Quoted :=
  if value.isValidChar then (none, reader.push (Char.ofNat value))
  else
    (some ("escape value 0x" ++ Text.hexLower value ++ " is not a character"),
      reader.push replacement)

/-- The answer to the closing quote. -/
def close (reader : Quoted) : Signal :=
  if reader.single then
    match reader.count with
    | 0 => .stopWith "empty character literal"
    | 1 => .stop
    | _ => .stopWith "multi-character literal"
  else .stop

def readText (reader : Quoted) (symbol : Char) : Signal × Quoted :=
  if symbol = '\n' ∨ symbol = '\r' then (.fail "newline in literal", reader)
  else if symbol = '\\' then reader.within .opened
  else if symbol = reader.mark then (reader.close, reader)
  else (.proceed, reader.push symbol)

/-- The symbol that a one-letter escape stands for. -/
def simpleEscape? (symbol : Char) : Option Char :=
  match symbol with
  | 'n' => some '\n'
  | 't' => some '\t'
  | 'r' => some '\r'
  | 'a' => some '\x07'
  | 'b' => some '\x08'
  | 'f' => some '\x0c'
  | 'v' => some '\x0b'
  | '\\' => some '\\'
  | '\'' => some '\''
  | '"' => some '"'
  | '?' => some '?'
  | _ => none

/-- Read the first symbol after a backslash. -/
def readOpened (reader : Quoted) (symbol : Char) : Signal × Quoted :=
  let reader := reader.leaveEscape
  match simpleEscape? symbol with
  | some decoded => (.proceed, reader.push decoded)
  | none =>
      match digitValue? symbol 8 with
      | some digit => reader.within (.octal digit 1)
      | none =>
          if symbol = 'x' then reader.within (.hex 0 0)
          else if symbol = 'u' then reader.within (.universal 0 0 4)
          else if symbol = 'U' then reader.within (.universal 0 0 8)
          else if symbol = '\n' then (.proceed, reader)
          else if symbol = '\r' then reader.within .afterReturn
          else
            (.proceedWith ("unknown escape sequence \\" ++ symbol.toString), reader.push symbol)

/-- End an escape whose digits were still being collected. -/
def endEscape (reader : Quoted) : Option String × Quoted :=
  let outside := reader.leaveEscape
  match reader.escape with
  | .outside => (none, outside)
  | .opened => (none, outside)
  | .afterReturn => (none, outside)
  | .octal value _ => outside.pushCode value
  | .hex value digits =>
      if digits = 0 then (some "\\x used with no following hex digits", outside)
      else outside.pushCode value
  | .universal .. => (some "incomplete universal character name", outside.push replacement)

/-- Attach a remark to a signal that has none.  Remarks and errors of the signal
itself win. -/
def attach (remark : Option String) (signal : Signal) : Signal :=
  match remark, signal with
  | some message, .proceed => .proceedWith message
  | some message, .stop => .stopWith message
  | _, signal => signal

/-- Read a symbol that ends an escape and is itself ordinary content. -/
def readAfterEscape (reader : Quoted) (symbol : Char) : Signal × Quoted :=
  let (remark, ended) := reader.endEscape
  let (signal, next) := ended.readText symbol
  (attach remark signal, next)

/-- Complete an escape with the value of all its digits. -/
def complete (reader : Quoted) (value : Nat) : Signal × Quoted :=
  let (remark, next) := reader.leaveEscape.pushCode value
  (attach remark .proceed, next)

def read (reader : Quoted) (symbol : Char) : Signal × Quoted :=
  match reader.escape with
  | .outside => reader.readText symbol
  | .opened => reader.readOpened symbol
  | .afterReturn =>
      if symbol = '\n' then (.proceed, reader.leaveEscape)
      else reader.leaveEscape.readText symbol
  | .octal value digits =>
      match digitValue? symbol 8 with
      | some digit =>
          if digits + 1 < 3 then reader.within (.octal (value * 8 + digit) (digits + 1))
          else reader.complete (value * 8 + digit)
      | none => reader.readAfterEscape symbol
  | .hex value digits =>
      match digitValue? symbol 16 with
      | some digit =>
          reader.within (.hex (min (value * 16 + digit) maxCode) (min (digits + 1) 255))
      | none => reader.readAfterEscape symbol
  | .universal value digits width =>
      match digitValue? symbol 16 with
      | some digit =>
          if digits + 1 = width then reader.complete (value * 16 + digit)
          else reader.within (.universal (value * 16 + digit) (digits + 1) width)
      | none => reader.readAfterEscape symbol

def reset (reader : Quoted) : Quoted where
  mark := reader.mark
  single := reader.single

def take (reader : Quoted) : String × Quoted :=
  (String.ofList reader.decoded.reverse, { reader with decoded := [] })

instance : Reader Quoted where
  reset := reset
  read := read
  take := take

end Quoted

end Lexing.Literal
