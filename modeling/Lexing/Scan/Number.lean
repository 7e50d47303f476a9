import Lexing.Scan.Reaction

/-!
# Numbers

A number may start with a registered prefix, which decides its base.  The symbols
of a prefix are kept until it is clear whether they are one: they may also be the
first digits of a number without a prefix.  A point belongs to a number only if a
digit follows.
-/

namespace Lexing.Scan

variable {ρ : Type}

def isSeparator (profile : Profile ρ) (symbol : Char) : Bool :=
  profile.options.separator? = some symbol

def isDefaultDigit (profile : Profile ρ) (symbol : Char) : Bool :=
  (digitValue? symbol profile.options.defaultBase).isSome

/-- The number without a prefix whose digits are the given symbols. -/
def defaultNumeral (profile : Profile ρ) (symbols : List Located) : Numeral :=
  symbols.foldl
    (fun value located =>
      match digitValue? located.symbol profile.options.defaultBase with
      | some digit => value.pushDigit digit
      | none => value)
    (Numeral.ofKind profile.defaultNumber)

/-- Whether a symbol starts the digits after a prefix of the given kind.  A
separator does so only when the prefix is a number by itself. -/
def opensDigits (profile : Profile ρ) (kind : Kind) (symbol : Char) : Bool :=
  (digitValue? symbol (kind.numberBase?.getD profile.options.defaultBase)).isSome ||
    (isSeparator profile symbol && kind.allowsMissingDigits)

/-- Whether a symbol goes on with a number without a prefix. -/
def continuesDefault (profile : Profile ρ) (symbol : Char) : Bool :=
  isDefaultDigit profile symbol || symbol = '.' || isSeparator profile symbol

/-- Decide what the symbols of a prefix are, when they cannot become a longer
prefix and are followed by `next`: the prefix of a number, digits without a
prefix, a number by themselves, or nothing that a rule accepts. -/
def resolvePrefix (profile : Profile ρ) (state : ScanState ρ) (node : NodeId)
    (pending : List Located) (next : Option Fed) : Reaction ρ :=
  match Located.spanOf? pending with
  | none => (state.become .idle).feed next.toList
  | some span =>
      let kind := profile.numberPrefixes.kind? node
      let allDigits := pending.all fun located => isDefaultDigit profile located.symbol
      match kind.filter fun kind => next.any fun fed => opensDigits profile kind fed.symbol with
      | some kind => (state.become (.number (.ofKind kind))).feed next.toList
      | none =>
          if allDigits && next.any fun fed => continuesDefault profile fed.symbol then
            (state.become (.number (defaultNumeral profile pending))).feed next.toList
          else
            match kind.filter Kind.allowsMissingDigits with
            | some kind => (state.finishNumber (.ofKind kind) span.stop).feed next.toList
            | none =>
                if allDigits then
                  (state.finishNumber (defaultNumeral profile pending) span.stop).feed next.toList
                else (state.reject span).feed next.toList

def readNumberPrefix (profile : Profile ρ) (state : ScanState ρ) (node : NodeId)
    (pending : List Located) (fed : Fed) : Reaction ρ :=
  match profile.numberPrefixes.advance node fed.symbol with
  | some child => state.become (.numberPrefix child (pending ++ [fed.toLocated]))
  | none => resolvePrefix profile state node pending (some fed)

def readNumber (profile : Profile ρ) (state : ScanState ρ) (value : Numeral) (fed : Fed) :
    Reaction ρ :=
  match digitValue? fed.symbol value.base with
  | some digit => state.become (.number (value.pushDigit digit))
  | none =>
      if isSeparator profile fed.symbol then state.become (.number value)
      else if fed.symbol = '.' then state.become (.maybeFloat value fed.offset true)
      else (state.finishNumber value fed.offset).feed [fed]

/-- A point that no digit follows: report the number before it, if there is one,
and feed the point again. -/
def releaseDot (state : ScanState ρ) (value : Numeral) (dot : Nat) (hasInteger : Bool) :
    Reaction ρ :=
  let before := if hasInteger then state.finishNumber value dot else state.become .idle
  before.feed [{ symbol := '.', offset := dot, exempt := { dotNumber := true } }]

def readMaybeFloat (state : ScanState ρ) (value : Numeral) (dot : Nat) (hasInteger : Bool)
    (fed : Fed) : Reaction ρ :=
  match digitValue? fed.symbol value.base with
  | some digit => state.become (.float (value.startFraction.pushFractionDigit digit))
  | none => (releaseDot state value dot hasInteger).feed [fed]

def readFloat (profile : Profile ρ) (state : ScanState ρ) (value : Numeral) (fed : Fed) :
    Reaction ρ :=
  match digitValue? fed.symbol value.base with
  | some digit => state.become (.float (value.pushFractionDigit digit))
  | none =>
      if isSeparator profile fed.symbol then state.become (.float value)
      else (state.finishNumber value fed.offset).feed [fed]

end Lexing.Scan
