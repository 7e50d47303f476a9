import Lexing.Filter.LineDirective
import Lexing.Filter.ModeGate
import Lexing.Filter.SequenceComposer
import Lexing.Filter.SuffixGlue

/-!
# Stock filters
-/

namespace Lexing

/-- One of the four stock filters. -/
inductive StockFilter where
  | suffixGlue (filter : SuffixGlue)
  | modeGate (filter : ModeGate)
  | lineDirective (filter : LineDirective)
  | sequenceComposer (filter : SequenceComposer)
deriving Repr, DecidableEq

instance : Filter StockFilter where
  react
    | .suffixGlue filter, token => (Filter.react filter token).map .suffixGlue
    | .modeGate filter, token => (Filter.react filter token).map .modeGate
    | .lineDirective filter, token => (Filter.react filter token).map .lineDirective
    | .sequenceComposer filter, token => (Filter.react filter token).map .sequenceComposer

end Lexing
