import Lexing.Span

/-!
# Stopped scans
-/

namespace Lexing

/-- Why a scan stopped: the sink did, at a token, at input that no rule accepts or at a
malformed literal, or the source has more bytes than a position can count.  It is `endless`
when the rules of the profile hand the same symbols back for ever. -/
inductive ScanError where
  | aborted (span : Span) (message : String)
  | unexpected (span : Span)
  | literal (span : Span) (message : String)
  | sourceTooLarge (length : Nat)
  | endless
deriving Repr, DecidableEq

namespace ScanError

def span? : ScanError → Option Span
  | .aborted span _ => some span
  | .unexpected span => some span
  | .literal span _ => some span
  | .sourceTooLarge _ => none
  | .endless => none

def message : ScanError → String
  | .aborted span message => "token handler aborted at " ++ span.text ++ ": " ++ message
  | .unexpected span => "unexpected input at " ++ span.text
  | .literal span message => "malformed literal at " ++ span.text ++ ": " ++ message
  | .sourceTooLarge length =>
      "source of " ++ toString length ++ " bytes exceeds the 4 GiB position limit"
  | .endless => "the scan does not get past a symbol"

end ScanError

end Lexing
