import Lexing.Profile.Basic
import Lexing.Profile.Error

/-!
# Building profiles

A profile is built call by call.  A call that is refused keeps what it changed
before the refusal, and the calls after it go on from there.

The classes of symbols in operators, brackets, literal introductions and number
prefixes follow from the registered sequences.
-/

namespace Lexing

/-- A profile that is being built, with the first operator kind that was not handed out
yet. -/
structure Builder (ρ : Type) where
  profile : Profile ρ := {}
  nextOperator : UInt16 := Kind.operatorFirst
  allowKindReuse : Bool := false

/-- A call on a builder: it may be refused, and it changes the builder in either
case. -/
abbrev Build (ρ : Type) : Type → Type :=
  ExceptT BuildError (StateM (Builder ρ))

namespace Builder

variable {ρ τ : Type}

/-- The builder after a call, whether it was refused or not. -/
def after {α : Type} (builder : Builder ρ) (call : Build ρ α) : Builder ρ :=
  (call.run.run builder).2

def mapReaders (change : ρ → τ) (builder : Builder ρ) : Builder τ where
  profile := builder.profile.mapReaders change
  nextOperator := builder.nextOperator
  allowKindReuse := builder.allowKindReuse

end Builder

namespace Build

variable {ρ : Type}

def modifyProfile (change : Profile ρ → Profile ρ) : Build ρ Unit :=
  modify fun builder => { builder with profile := change builder.profile }

def modifyClasses (change : CharClass.Table → CharClass.Table) : Build ρ Unit :=
  modifyProfile fun profile => { profile with classes := change profile.classes }

/-! ## Classes and options -/

def setClass (symbol : Char) (traits : CharClass) : Build ρ Unit :=
  modifyClasses (·.set symbol traits)

def addClass (symbols : String) (traits : CharClass) : Build ρ Unit :=
  modifyClasses (·.insertAll symbols.toList traits)

def setNonAsciiClass (traits : CharClass) : Build ρ Unit :=
  modifyClasses ({ · with nonAscii := traits })

/-- Say whether several sequences may share one kind. -/
def allowKindReuse (allowed : Bool) : Build ρ Unit :=
  modify ({ · with allowKindReuse := allowed })

/-- Replace the options.  The default base has to be a supported one. -/
def setOptions (options : Options) : Build ρ Unit :=
  match Kind.numberForBase? options.defaultBase with
  | none => throw (.unsupportedBase options.defaultBase)
  | some kind => modifyProfile fun profile => { profile with options, defaultNumber := kind }

/-! ## Kinds and sequences -/

/-- Remember that a kind is spelled by a sequence.  A kind keeps its first
spelling; another one is refused unless kinds may be reused. -/
def registerKind (kind : Kind) (sequence : String) : Build ρ Unit := do
  let builder ← get
  match builder.profile.describe? kind with
  | some existing =>
      if existing = sequence ∨ builder.allowKindReuse then return
      else throw (.duplicateKind kind existing)
  | none =>
      modifyProfile fun profile =>
        { profile with spellings := (kind, sequence) :: profile.spellings }

/-- The first kind without a spelling among `count` kinds from `candidate` on. -/
def firstFree? (profile : Profile ρ) : (count : Nat) → (candidate : UInt16) → Option Kind
  | 0, _ => none
  | count + 1, candidate =>
      if (profile.describe? ⟨candidate⟩).isNone then some ⟨candidate⟩
      else firstFree? profile count (candidate + 1)

/-- Hand out the next operator kind without a spelling.  The kinds that the caller
defines are never handed out. -/
def allocateOperatorKind : Build ρ Kind := do
  let builder ← get
  let first := builder.nextOperator
  match firstFree? builder.profile (Kind.operatorUserFirst.toNat - first.toNat) first with
  | some kind =>
      set { builder with nextOperator := kind.raw + 1 }
      return kind
  | none =>
      set { builder with nextOperator := Kind.operatorUserFirst }
      throw .operatorKindsExhausted

/-- Turn the answer of a trie into one of the builder. -/
def insertAnswer (answer : Except Trie.InsertError NodeId) : Build ρ NodeId :=
  match answer with
  | .ok node => return node
  | .error cause => throw (.trie cause)

def insertOperator (sequence : String) (kind : Kind) : Build ρ NodeId := do
  let (answer, trie) := (← get).profile.operators.insert sequence kind none
  modifyProfile fun profile => { profile with operators := trie }
  insertAnswer answer

def insertBracket (symbol : Char) (kind : Kind) : Build ρ NodeId := do
  let (answer, trie) := (← get).profile.brackets.insert symbol.toString kind none
  modifyProfile fun profile => { profile with brackets := trie }
  insertAnswer answer

/-- Mark all symbols of a sequence as operator symbols. -/
def markOperator (sequence : String) : Build ρ Unit :=
  addClass sequence { operator := true }

/-! ## Registrations -/

/-- Register a pair of brackets under its opening kind. -/
def addBrackets (pair : String) (kind : Kind) : Build ρ Unit := do
  match pair.toList, kind.bracketClose? with
  | [opening, closing], some closeKind =>
      registerKind kind opening.toString
      registerKind closeKind closing.toString
      let _ ← insertBracket opening kind
      let _ ← insertBracket closing closeKind
      modifyClasses (·.insert opening { opening := true })
      modifyClasses (·.insert closing { closing := true })
  | _, _ => throw (.malformedBracketPair pair)

/-- Register a prefix of numbers.  The base follows from the kind. -/
def addNumberPrefix (sequence : String) (kind : Kind) : Build ρ Unit := do
  match sequence.toList with
  | [] => throw (.emptySequence .numericPrefix)
  | first :: _ =>
      if ¬first.isDigit then throw (.prefixNotDigit sequence)
      if ¬kind.isNumber ∨ kind.isFloat then throw (.kindOutOfRange kind .integerNumber)
      if kind.numberBase?.isNone then throw (.unsupportedBase kind.baseSelector)
      registerKind kind sequence
      let (answer, trie) := (← get).profile.numberPrefixes.insert sequence kind none
      modifyProfile fun profile => { profile with numberPrefixes := trie }
      let _ ← insertAnswer answer
      modifyClasses (·.insert first { digit := true })

/-- Register a marker of line comments.  It also gets an operator kind for the
places where it opens no comment. -/
def addLineComment (marker : String) : Build ρ Unit := do
  if marker.isEmpty then throw (.emptySequence .commentMarker)
  let node ← insertOperator marker .lineComment
  if ((← get).profile.fallbackAt? node).isSome then return
  let fallback ← allocateOperatorKind
  registerKind fallback marker
  modifyProfile fun profile =>
    { profile with fallbacks := profile.fallbacks ++ [(node, fallback)] }
  markOperator marker

def setBlockComment (opening closing : String) : Build ρ Unit := do
  if opening.isEmpty ∨ closing.isEmpty then throw (.emptySequence .commentMarker)
  let _ ← insertOperator opening .blockComment
  modifyProfile fun profile => { profile with blockClose := closing.toList }
  markOperator opening

def addOperatorKind (sequence : String) (kind : Kind) : Build ρ Unit := do
  if sequence.isEmpty then throw (.emptySequence .operator)
  if ¬kind.isOperator then throw (.kindOutOfRange kind .operator)
  registerKind kind sequence
  let _ ← insertOperator sequence kind
  markOperator sequence

/-- Register an operator under the next free kind.  An operator that is already
registered keeps its kind. -/
def addOperator (sequence : String) : Build ρ Kind := do
  if sequence.isEmpty then throw (.emptySequence .operator)
  match ((← get).profile.operatorKind? sequence).filter Kind.isOperator with
  | some kind => return kind
  | none =>
      let kind ← allocateOperatorKind
      addOperatorKind sequence kind
      return kind

def registerReader (reader : ρ) : Build ρ Nat := do
  let (number, readers) := (← get).profile.readers.register reader
  modifyProfile fun profile => { profile with readers }
  match number with
  | some number => return number
  | none => throw .readersExhausted

/-- Register a literal form: the sequence that introduces it, its kind and a fresh
reader. -/
def addLiteral (sequence : String) (kind : Kind) (reader : ρ) : Build ρ Unit := do
  match sequence.toList with
  | [] => throw (.emptySequence .literalPrefix)
  | first :: _ =>
      if ¬kind.isLiteral then throw (.kindOutOfRange kind .literal)
      registerKind kind sequence
      let number ← registerReader reader
      let (answer, trie) := (← get).profile.literals.insert sequence kind (some number)
      modifyProfile fun profile => { profile with literals := trie }
      let _ ← insertAnswer answer
      modifyClasses (·.insert first { literalFirst := true })

end Build

end Lexing
