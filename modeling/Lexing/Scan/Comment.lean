import Lexing.Scan.Continuation

/-!
# Comments

A line comment ends before a line terminator.  A block comment ends with its
closing marker.  The marker is looked for symbol by symbol: a symbol that does not
continue what was seen of the marker may still be its first one, but nothing
earlier is looked at again.
-/

namespace Lexing.Scan

variable {ρ : Type}

/-- The payload of a comment whose text is given with the newest symbol first. -/
def commentPayload (text : List Char) : Payload :=
  .comment (String.ofList text.reverse)

def readLineComment (profile : Profile ρ) (state : ScanState ρ) (text : List Char) (fed : Fed) :
    Reaction ρ :=
  if beginsContinuation profile state fed then awaitLineEnd state (.lineComment text) fed
  else if (state.classify profile fed.symbol).linefeed then
    (state.finish .lineComment fed.offset (commentPayload text)).feed [fed]
  else state.become (.lineComment (fed.symbol :: text))

/-- How many symbols of the closing marker have been seen after one more symbol. -/
def markerSeen (marker : List Char) (seen : Nat) (symbol : Char) : Nat :=
  if marker[seen]? = some symbol then seen + 1
  else if marker.head? = some symbol then 1
  else 0

/-- The answer to a symbol inside a block comment.  A comment that has crossed a
line leaves the line fresh. -/
def readBlockComment (profile : Profile ρ) (state : ScanState ρ) (text : List Char) (seen : Nat)
    (crossed : Bool) (fed : Fed) : Reaction ρ :=
  let marker := profile.blockClose
  let seen := markerSeen marker seen fed.symbol
  let text := fed.symbol :: text
  let crossed := crossed || (state.classify profile fed.symbol).linefeed
  if seen < marker.length then state.become (.blockComment text seen crossed)
  else
    let closed := state.finish .blockComment fed.stop (commentPayload (text.drop marker.length))
    { closed with
      state := { closed.state with lineStart := closed.state.lineStart || crossed } }

end Lexing.Scan
