/-!
# Data

Spans, kinds and options can be exchanged as plain data: numbers, texts, lists and
records.  This file holds the data and the checks that reading needs.
-/

namespace Lexing

/-- Plain data. -/
inductive Datum where
  | null
  | bool (value : Bool)
  | integer (value : Int)
  | fraction
  | text (value : String)
  | list (items : List Datum)
  | record (fields : List (String × Datum))
deriving Repr, Inhabited

namespace Datum

def natBelow? (bound : Nat) : Datum → Option Nat
  | .integer (.ofNat value) => if value < bound then some value else none
  | _ => none

def bool? : Datum → Option Bool
  | .bool value => some value
  | _ => none

/-- A text of exactly one symbol. -/
def symbol? : Datum → Option Char
  | .text value =>
      match value.toList with
      | [symbol] => some symbol
      | _ => none
  | _ => none

end Datum

end Lexing
