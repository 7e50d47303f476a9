import Lexing.Data.Datum
import Lexing.Kind
import Lexing.Options
import Lexing.Span

/-!
# Reading and writing data

A kind is a number.  A span and the options are records with named fields, or
lists of the fields in order.  Fields that are not known are ignored.  Both fields
of a span are required; a field of the options that is absent has its default.
-/

namespace Lexing

/-! ## Kinds -/

def Kind.toDatum (kind : Kind) : Datum :=
  .integer kind.code

def Kind.ofDatum? (datum : Datum) : Option Kind :=
  (datum.natBelow? 0x10000).map fun code => ⟨UInt16.ofNat code⟩

/-! ## Spans -/

def Span.toDatum (span : Span) : Datum :=
  .record [("start", .integer span.start), ("end", .integer span.stop)]

def offsetOfDatum? (datum : Datum) : Option Nat :=
  datum.natBelow? (maxOffset + 1)

def Span.ofDatum? : Datum → Option Span
  | .record fields => do
      let start ← offsetOfDatum? (← fields.lookup "start")
      let stop ← offsetOfDatum? (← fields.lookup "end")
      return ⟨start, stop⟩
  | .list [start, stop] => do
      return ⟨← offsetOfDatum? start, ← offsetOfDatum? stop⟩
  | _ => none

/-! ## Options -/

namespace Options

/-- The names of the fields, in order. -/
def fieldNames : List String :=
  ["single_line_comment_only_at_line_start", "honor_line_continuation",
    "allow_digit_group_separator", "default_numeric_base", "digit_group_separator"]

def toDatum (options : Options) : Datum :=
  .record (fieldNames.zip
    [.bool options.lineCommentOnlyAtLineStart, .bool options.honorLineContinuation,
      .bool options.allowDigitSeparator, .integer options.defaultBase,
      .text options.digitSeparator.toString])

/-- Read one field.  An absent field has the default, and a field that is present
has to be readable. -/
def field? {α : Type} (fields : List (String × Datum)) (name : String)
    (read : Datum → Option α) (default : α) : Option α :=
  match fields.lookup name with
  | none => some default
  | some datum => read datum

/-- Read options from named fields. -/
def ofFields? (fields : List (String × Datum)) : Option Options := do
  let initial : Options := {}
  return {
    lineCommentOnlyAtLineStart :=
      ← field? fields "single_line_comment_only_at_line_start" Datum.bool?
        initial.lineCommentOnlyAtLineStart
    honorLineContinuation :=
      ← field? fields "honor_line_continuation" Datum.bool? initial.honorLineContinuation
    allowDigitSeparator :=
      ← field? fields "allow_digit_group_separator" Datum.bool? initial.allowDigitSeparator
    defaultBase :=
      ← field? fields "default_numeric_base" (Datum.natBelow? 0x100000000) initial.defaultBase
    digitSeparator :=
      ← field? fields "digit_group_separator" Datum.symbol? initial.digitSeparator }

def ofDatum? : Datum → Option Options
  | .record fields => ofFields? fields
  | .list items =>
      if items.length ≤ fieldNames.length then ofFields? (fieldNames.zip items) else none
  | _ => none

end Options

end Lexing
