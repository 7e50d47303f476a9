/-!
# Source spans

Positions are byte offsets into a UTF-8 text.  A span is a half-open range of
offsets and is the only link between a token and the text that it came from, so
this file also says how a span cuts a text: a cut has to fall between two
symbols.
-/

namespace Lexing

/-- The largest byte offset that a position can hold, which has 32 bits. -/
def maxOffset : Nat :=
  0xFFFFFFFF

/-- The byte offset just past `symbol` when it starts at `offset`.  Offsets
saturate at `maxOffset`. -/
def symbolEnd (symbol : Char) (offset : Nat) : Nat :=
  min (offset + symbol.utf8Size) maxOffset

/-- A half-open byte range, from `start` up to but not including `stop`. -/
structure Span where
  start : Nat
  stop : Nat
deriving Repr, DecidableEq, Inhabited

namespace Span

def point (offset : Nat) : Span :=
  ⟨offset, offset⟩

def ofSymbol (symbol : Char) (offset : Nat) : Span :=
  ⟨offset, symbolEnd symbol offset⟩

def length (span : Span) : Nat :=
  span.stop - span.start

def isEmpty (span : Span) : Bool :=
  span.start == span.stop

/-- The smallest span that covers both spans. -/
def merge (first second : Span) : Span :=
  ⟨min first.start second.start, max first.stop second.stop⟩

/-- The written form `start..stop`. -/
def text (span : Span) : String :=
  toString span.start ++ ".." ++ toString span.stop

end Span

/-- Number of bytes that a sequence of symbols takes in UTF-8. -/
def byteLength : List Char → Nat
  | [] => 0
  | symbol :: rest => symbol.utf8Size + byteLength rest

/-- Drop exactly `count` bytes from the front of a text.  There is no answer when
the cut would fall inside a symbol or past the end. -/
def dropBytes (count : Nat) : List Char → Option (List Char)
  | [] => if count = 0 then some [] else none
  | symbol :: rest =>
      if count = 0 then some (symbol :: rest)
      else if symbol.utf8Size ≤ count then dropBytes (count - symbol.utf8Size) rest
      else none

/-- Keep exactly `count` bytes from the front of a text, under the same condition
as `dropBytes`. -/
def takeBytes (count : Nat) : List Char → Option (List Char)
  | [] => if count = 0 then some [] else none
  | symbol :: rest =>
      if count = 0 then some []
      else if symbol.utf8Size ≤ count then
        (takeBytes (count - symbol.utf8Size) rest).map (symbol :: ·)
      else none

/-- The symbols that a span covers, when it is a proper cut of the text. -/
def Span.slice? (span : Span) (source : List Char) : Option (List Char) :=
  if span.start ≤ span.stop then
    (dropBytes span.start source).bind (takeBytes span.length)
  else none

end Lexing
