/-!
# Readers of literals

The scanner does not interpret the content of literals itself.  When the symbols
that introduce a literal have been seen, a reader receives every following symbol
and answers each with a signal, until the literal stops or fails.  The token then
carries the text that the reader decoded.
-/

namespace Lexing.Literal

/-- The answer of a reader to one symbol: the literal goes on behind it, it was the last
one, or the literal is malformed. -/
inductive Signal where
  | proceed
  | proceedWith (message : String)
  | stop
  | stopWith (message : String)
  | fail (message : String)
deriving Repr, DecidableEq, Inhabited

/-- The complaint about a literal that the input ends in. -/
def unterminated : String :=
  "unterminated literal"

/-- States that read literals of one form.  A reset prepares for a new literal, right behind
the symbols that introduce it; `take` hands out the decoded text and forgets it; `finish` is
the answer to an input that ends inside of the literal. -/
class Reader (ρ : Type) where
  reset : ρ → ρ
  read : ρ → Char → Signal × ρ
  take : ρ → String × ρ
  finish : ρ → Signal × ρ := fun reader => (.fail unterminated, reader)

/-- Readers of two types, side by side. -/
instance {ρ τ : Type} [Reader ρ] [Reader τ] : Reader (ρ ⊕ τ) where
  reset
    | .inl reader => .inl (Reader.reset reader)
    | .inr reader => .inr (Reader.reset reader)
  read
    | .inl reader, symbol => (Reader.read reader symbol).map id .inl
    | .inr reader, symbol => (Reader.read reader symbol).map id .inr
  take
    | .inl reader => (Reader.take reader).map id .inl
    | .inr reader => (Reader.take reader).map id .inr
  finish
    | .inl reader => (Reader.finish reader).map id .inl
    | .inr reader => (Reader.finish reader).map id .inr

/-- Read a whole text and collect the signals. -/
def readAll {ρ : Type} [Reader ρ] : ρ → List Char → List Signal × ρ
  | reader, [] => ([], reader)
  | reader, symbol :: rest =>
      let (signal, next) := Reader.read reader symbol
      let (signals, last) := readAll next rest
      (signal :: signals, last)

end Lexing.Literal
