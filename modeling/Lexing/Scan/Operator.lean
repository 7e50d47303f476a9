import Lexing.Scan.Continuation

/-!
# Operators

Operators are read by walking the trie of operators as far as possible.  When the
walk gets stuck, the longest operator passed is reported and the symbols after it
are fed again.  A comment marker opens its comment instead.
-/

namespace Lexing.Scan

variable {ρ : Type}

/-- The operator or comment that ends at `node`, from the start of the token up to
`stop`. -/
def closeWalk (profile : Profile ρ) (state : ScanState ρ) (node : NodeId) (stop : Nat) :
    Reaction ρ :=
  let kind := (profile.operators.kind? node).getD .unexpected
  if kind = .lineComment then
    let demoted := profile.options.lineCommentOnlyAtLineStart && !state.lineStart
    match (profile.fallbackAt? node).filter fun _ => demoted with
    | some fallback => state.finish fallback stop
    | none => state.become (.lineComment [])
  else if kind = .blockComment then state.become (.blockComment [] 0 false)
  else state.finish kind stop

/-- Report the operator that ends at `node` after `count` of the pending symbols
and feed the others again.  It reaches up to the first symbol after it: the next
pending one, the one at `stop`, or else it ends with its last symbol. -/
def finishOperator (profile : Profile ρ) (state : ScanState ρ) (pending : List Located)
    (node : NodeId) (count : Nat) (stop : Option Nat) : Reaction ρ :=
  let leftover := pending.drop count
  let lastStop := ((pending.take count).getLast?.map Located.stop).getD state.tokenStart
  let stop := ((leftover.head?.map Located.offset).or stop).getD lastStop
  (closeWalk profile state node stop).feed (leftover.map Fed.plain)

/-- The walk has reached `node` with the given symbols.  An operator that nothing
longer continues is reported at once. -/
def reachOperator (profile : Profile ρ) (state : ScanState ρ) (node : NodeId)
    (pending : List Located) (terminal : Option (NodeId × Nat)) : Reaction ρ :=
  if profile.operators.hasChildren node then
    let passed :=
      if (profile.operators.kind? node).isSome then some (node, pending.length) else terminal
    state.become (.operator { node, pending, terminal := passed })
  else finishOperator profile state pending node pending.length none

/-- The walk cannot go on.  The next token starts at `stop`.  Without a complete
operator the first symbol is rejected and the others are fed again. -/
def stuckOperator (profile : Profile ρ) (state : ScanState ρ) (walk : Walk) (stop : Nat) :
    Reaction ρ :=
  match walk.terminal with
  | some (node, count) => finishOperator profile state walk.pending node count (some stop)
  | none =>
      match walk.pending, Located.spanOf? walk.pending with
      | first :: rest, some span =>
          let firstStop := (rest.head?.map Located.offset).getD stop
          ((state.reject ⟨first.offset, firstStop⟩).notify (.unknownOperator span)).feed
            (rest.map Fed.plain)
      | _, _ => state.become .idle

def readOperator (profile : Profile ρ) (state : ScanState ρ) (walk : Walk) (fed : Fed) :
    Reaction ρ :=
  if beginsContinuation profile state fed then awaitLineEnd state (.operator walk) fed
  else
    match profile.operators.advance walk.node fed.symbol with
    | some node =>
        reachOperator profile state node (walk.pending ++ [fed.toLocated]) walk.terminal
    | none => (stuckOperator profile state walk fed.offset).feed [fed]

end Lexing.Scan
