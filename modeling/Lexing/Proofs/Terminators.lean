import Lexing.Proofs.Delegation

/-!
# Line terminators

What the machine and its readers do at a line feed or a carriage return.  Most modes end
their token there.  A literal fails at both of them, or it goes on behind a line feed and
behind a carriage return with its line feed alike.
-/

namespace Lexing

/-- Put a carriage return in front of every line feed. -/
def withReturns (text : List Char) : List Char :=
  text.flatMap fun symbol => if symbol = '\n' then ['\r', '\n'] else [symbol]

theorem digitValue?_terminator {symbol : Char} (ends : symbol = '\n' ∨ symbol = '\r')
    (base : Nat) : digitValue? symbol base = none := by
  have worthless : digitWorth? symbol = none := by
    rcases ends with rfl | rfl <;> decide
  simp [digitValue?, worthless]

/-- Modes in which a line terminator ends the token that was begun. -/
def Mode.EndsWithLine : Mode → Prop
  | .idle | .blockComment .. | .literal .. | .continuation .. => False
  | .blank run => run ≠ '\n' ∧ run ≠ '\r'
  | _ => True

namespace Scan

/-! ## Line terminators -/

/-- The profile knows a symbol as a line terminator and as nothing else. -/
structure Terminates {ρ : Type} (profile : Profile ρ) (symbol : Char) : Prop where
  kept : symbol = '\n' ∨ symbol = '\r'
  traits : profile.classes.classify symbol = { linefeed := true }
  operators : ∀ node, profile.operators.advance node symbol = none
  literals : ∀ node, profile.literals.advance node symbol = none
  numberPrefixes : ∀ node, profile.numberPrefixes.advance node symbol = none
  separator : profile.options.separator? ≠ some symbol
  marker : symbol ∉ profile.blockClose

variable {ρ : Type} {profile : Profile ρ} {state : ScanState ρ} {fed : Fed}

namespace Terminates

theorem digitless {symbol : Char} (ends : Terminates profile symbol) (base : Nat) :
    digitValue? symbol base = none :=
  digitValue?_terminator ends.kept base

theorem classify (ends : Terminates profile fed.symbol) (own : state.ownClasses = none) :
    state.classify profile fed.symbol = { linefeed := true } := by
  rw [ScanState.classify, own]
  exact ends.traits

theorem unpointed (ends : Terminates profile fed.symbol) : fed.symbol ≠ '.' := by
  rcases ends.kept with feed | carriage
  · rw [feed]
    decide
  · rw [carriage]
    decide

theorem isSeparator {symbol : Char} (ends : Terminates profile symbol) :
    isSeparator profile symbol = false := by
  simpa [Scan.isSeparator] using ends.separator

theorem resolvePrefix (ends : Terminates profile fed.symbol) (node : NodeId)
    (pending : List Located) :
    resolvePrefix profile state node pending (some fed) =
      (resolvePrefix profile state node pending none).feed [fed] := by
  have opensNone : ∀ kind, opensDigits profile kind fed.symbol = false := fun kind => by
    simp [opensDigits, ends.digitless, ends.isSeparator]
  have continuesNone : continuesDefault profile fed.symbol = false := by
    simp [continuesDefault, isDefaultDigit, ends.digitless, ends.isSeparator, ends.unpointed]
  have unopened : (profile.numberPrefixes.kind? node).filter (fun _ => false) = none :=
    Option.filter_eq_none_iff.mpr (by simp)
  unfold Scan.resolvePrefix
  cases Located.spanOf? pending with
  | none => rfl
  | some span =>
      simp only [Option.any_some, opensNone, continuesNone, Option.any_none, Bool.and_false,
        Bool.false_eq_true, if_false, unopened]
      cases (profile.numberPrefixes.kind? node).filter Kind.allowsMissingDigits with
      | some kind => rfl
      | none =>
          cases pending.all fun located => isDefaultDigit profile located.symbol <;> rfl

end Terminates

variable [Literal.Reader ρ]

/-- In most modes the machine does the same at a line terminator as at the end of the
input, and looks at the terminator again. -/
theorem react_terminator (fed : Fed) (ends : Terminates profile fed.symbol)
    (own : state.ownClasses = none) (endsWithLine : state.mode.EndsWithLine) :
    ∃ reaction, flush? profile state fed.offset = some reaction ∧
      react profile state fed = reaction.feed [fed] := by
  have traits := ends.classify own
  unfold react flush?
  cases mode : state.mode with
  | idle => simp [mode, Mode.EndsWithLine] at endsWithLine
  | blank run =>
      obtain ⟨noFeed, noReturn⟩ : run ≠ '\n' ∧ run ≠ '\r' := by
        simpa [mode, Mode.EndsWithLine] using endsWithLine
      have other : fed.symbol ≠ run := by
        rcases ends.kept with same | same
        · exact same ▸ noFeed.symm
        · exact same ▸ noReturn.symm
      exact ⟨_, rfl, by simp [readBlank, noReturn, other]⟩
  | identifier => exact ⟨_, rfl, by simp [readIdentifier, beginsContinuation, traits]⟩
  | numberPrefix node pending =>
      exact ⟨_, rfl, by simp [readNumberPrefix, ends.numberPrefixes, ends.resolvePrefix]⟩
  | number value =>
      exact ⟨_, rfl, by simp [readNumber, ends.digitless, ends.isSeparator, ends.unpointed]⟩
  | maybeFloat value dot hasInteger => exact ⟨_, rfl, by simp [readMaybeFloat, ends.digitless]⟩
  | float value => exact ⟨_, rfl, by simp [readFloat, ends.digitless, ends.isSeparator]⟩
  | operator walk =>
      exact ⟨_, rfl, by simp [readOperator, beginsContinuation, traits, ends.operators]⟩
  | lineComment text => exact ⟨_, rfl, by simp [readLineComment, beginsContinuation, traits]⟩
  | blockComment => simp [mode, Mode.EndsWithLine] at endsWithLine
  | literalPrefix walk => exact ⟨_, rfl, by simp [readLiteralPrefix, ends.literals]⟩
  | literal => simp [mode, Mode.EndsWithLine] at endsWithLine
  | continuation => simp [mode, Mode.EndsWithLine] at endsWithLine
/-- Between tokens, a line feed is a token at once, and a carriage return waits. -/
theorem react_idle_terminator (fed : Fed) (ends : Terminates profile fed.symbol)
    (own : state.ownClasses = none) (idle : state.mode = .idle) :
    react profile state fed =
      if fed.symbol = '\r' then (starting state fed).become (.blank '\r')
      else (starting state fed).emit .linefeed fed.span := by
  have traits : (starting state fed).classify profile fed.symbol = { linefeed := true } :=
    ends.classify own
  have passes : continuationRule profile (starting state fed) fed = none := by
    simp [continuationRule, beginsContinuation, traits]
  have found : lineEndRule profile (starting state fed) fed =
      some (if fed.symbol = '\r' then (starting state fed).become (.blank '\r')
        else (starting state fed).emit .linefeed fed.span) := by
    rw [lineEndRule, traits, if_pos rfl]
    exact (apply_ite some _ _ _).symm
  unfold react
  rw [idle]
  change Option.getD (continuationRule profile (starting state fed) fed <|>
    lineEndRule profile (starting state fed) fed <|> _) _ = _
  rw [passes, found]
  rfl

theorem react_blockComment_terminator (state : ScanState ρ) (fed : Fed)
    (ends : Terminates profile fed.symbol)
    (own : state.ownClasses = none) (marked : profile.blockClose ≠ []) {text : List Char}
    {seen : Nat} {crossed : Bool} (mode : state.mode = .blockComment text seen crossed) :
    react profile state fed = state.become (.blockComment (fed.symbol :: text) 0 true) := by
  have unseen : markerSeen profile.blockClose seen fed.symbol = 0 := by
    unfold markerSeen
    rw [if_neg fun found => ends.marker (List.mem_of_getElem? found),
      if_neg fun found : _ = some _ => ends.marker (List.mem_of_mem_head? found)]
  have positive := List.length_pos_iff.mpr marked
  simp [react, mode, readBlockComment, unseen, ends.classify own, positive]

section Literal

variable {number : Nat} {kind : Kind} {reader : ρ}

theorem react_literal_fails (state : ScanState ρ) (fed : Fed) (ends : Terminates profile fed.symbol)
    (own : state.ownClasses = none) (mode : state.mode = .literal number kind)
    (found : state.reader? number = some reader) {message : String}
    (fails : (Literal.Reader.read reader fed.symbol).1 = .fail message) :
    react profile state fed =
      (failLiteral (state.keepReader number (Literal.Reader.read reader fed.symbol).2)
        ⟨state.tokenStart, fed.offset⟩ message).feed [.plain fed.toLocated] := by
  have traits : (state.keepReader number (Literal.Reader.read reader fed.symbol).2).classify
      profile fed.symbol = { linefeed := true } := ends.classify own
  simp [react, mode, readLiteral, found, fails, traits]

theorem react_literal_proceeds (profile : Profile ρ) (state : ScanState ρ) (fed : Fed)
    (mode : state.mode = .literal number kind) (found : state.reader? number = some reader)
    (goesOn : (Literal.Reader.read reader fed.symbol).1 = .proceed) :
    react profile state fed =
      { state := state.keepReader number (Literal.Reader.read reader fed.symbol).2 } := by
  simp [react, mode, readLiteral, found, goesOn]

end Literal

end Scan

/-! ## Texts with the newest symbol first -/

/-- The same text with a carriage return before every line feed, both with the newest
symbol first. -/
def Returned (one two : List Char) : Prop :=
  two.reverse = withReturns one.reverse

namespace Returned

variable {one two pattern : List Char}

theorem withReturns_append (first second : List Char) :
    withReturns (first ++ second) = withReturns first ++ withReturns second :=
  List.flatMap_append

theorem withReturns_of_forall {text : List Char} (plain : ∀ symbol ∈ text, symbol ≠ '\n') :
    withReturns text = text := by
  induction text with
  | nil => rfl
  | cons symbol rest ih =>
      have others := ih fun other member => plain other (by simp [member])
      rw [withReturns] at others ⊢
      simp [plain symbol (by simp), others]

theorem nil : Returned [] [] :=
  rfl

theorem cons (returned : Returned one two) {symbol : Char} (usual : symbol ≠ '\n') :
    Returned (symbol :: one) (symbol :: two) := by
  unfold Returned at returned ⊢
  have same : withReturns [symbol] = [symbol] := withReturns_of_forall (by simpa using usual)
  rw [List.reverse_cons, List.reverse_cons, withReturns_append, returned, same]

theorem lineFeed (returned : Returned one two) : Returned ('\n' :: one) ('\n' :: '\r' :: two) := by
  unfold Returned at returned ⊢
  rw [List.reverse_cons, List.reverse_cons, List.reverse_cons, withReturns_append, returned,
    List.append_assoc]
  rfl

/-- What stands behind a pattern without line terminators. -/
theorem of_append (plain : ∀ symbol ∈ pattern, symbol ≠ '\n')
    (returned : Returned (pattern ++ one) two) :
    ∃ rest, two = pattern ++ rest ∧ Returned one rest := by
  unfold Returned at returned
  have same : withReturns pattern.reverse = pattern.reverse :=
    withReturns_of_forall (by simpa using plain)
  rw [List.reverse_append, withReturns_append, same] at returned
  refine ⟨(withReturns one.reverse).reverse, ?_, by simp [Returned]⟩
  rw [← List.reverse_reverse two, returned, List.reverse_append, List.reverse_reverse]

theorem drop (plain : ∀ symbol ∈ pattern, symbol ≠ '\n') (starts : pattern <+: one)
    (returned : Returned one two) :
    Returned (one.drop pattern.length) (two.drop pattern.length) := by
  obtain ⟨rest, rfl⟩ := starts
  obtain ⟨others, rfl, further⟩ := returned.of_append plain
  simpa using further

theorem isPrefixOf (plain : ∀ symbol ∈ pattern, symbol ≠ '\n')
    (returned : Returned one two) : pattern.isPrefixOf two = pattern.isPrefixOf one := by
  induction pattern generalizing one two with
  | nil => simp
  | cons first pattern ih =>
      cases one with
      | nil =>
          obtain rfl : two = [] := List.reverse_eq_nil_iff.mp returned
          rfl
      | cons symbol one =>
          have noFeed : (first == '\n') = false := by simpa using plain first (by simp)
          by_cases feed : symbol = '\n'
          · obtain ⟨rest, rfl⟩ : ∃ rest, two = '\n' :: rest := by
              rw [Returned, List.reverse_cons, withReturns_append] at returned
              refine ⟨'\r' :: (withReturns one.reverse).reverse, ?_⟩
              rw [← List.reverse_reverse two, returned, feed, List.reverse_append]
              rfl
            simp [feed, List.isPrefixOf, noFeed]
          · obtain ⟨rest, rfl, further⟩ := of_append (by simpa using feed)
              (show Returned ([symbol] ++ one) two from returned)
            have others := ih (fun other member => plain other (by simp [member])) further
            exact congrArg (first == symbol && ·) others

end Returned

/-! ## Readers -/

open Literal (Stock)

/-- The text of tokens of a kind, after a carriage return was put before every line feed
of the source.  Only block comments and raw strings hold line feeds of the source. -/
def Kind.textWithReturns (kind : Kind) (text : String) : String :=
  if kind = .blockComment ∨ kind = CLike.rawString then String.ofList (withReturns text.toList)
  else text

namespace Literal

/-- Readers that correspond when the second source has carriage returns. -/
inductive Stock.Returned (kind : Kind) : Stock → Stock → Prop
  | quoted {reader : Quoted} : kind ≠ .blockComment → kind ≠ CLike.rawString →
      reader.escape ≠ .afterReturn → Returned kind (.quoted reader) (.quoted reader)
  | raw {inBody : Bool} {delimiter one two : List Char} : kind = CLike.rawString →
      (∀ symbol ∈ delimiter, symbol ≠ '\n') → Lexing.Returned one two →
      Returned kind (.raw ⟨inBody, delimiter, one⟩) (.raw ⟨inBody, delimiter, two⟩)

/-- Readers for literals of a kind. -/
def Stock.Suits (kind : Kind) : Stock → Prop
  | .quoted _ => kind ≠ .blockComment ∧ kind ≠ CLike.rawString
  | .raw _ => kind = CLike.rawString

instance (kind : Kind) : (reader : Stock) → Decidable (Stock.Suits kind reader)
  | .quoted _ => inferInstanceAs (Decidable (kind ≠ .blockComment ∧ kind ≠ CLike.rawString))
  | .raw _ => inferInstanceAs (Decidable (kind = CLike.rawString))

namespace Quoted

variable {reader : Quoted} {symbol : Char}

theorem readText_escape (outside : reader.escape = .outside) :
    (reader.readText symbol).2.escape ≠ .afterReturn := by
  unfold readText
  split
  · simp [outside]
  split
  · simp [within]
  split
  · simp [outside]
  · simp [push, outside]

theorem pushCode_escape (reader : Quoted) (value : Nat) :
    (reader.pushCode value).2.escape = reader.escape := by
  unfold pushCode
  split <;> rfl

theorem endEscape_escape (reader : Quoted) : reader.endEscape.2.escape = .outside := by
  unfold endEscape
  cases reader.escape with
  | octal value digits => exact pushCode_escape _ value
  | hex value digits =>
      dsimp only
      split
      · rfl
      · exact pushCode_escape _ value
  | _ => rfl

theorem complete_escape (reader : Quoted) (value : Nat) :
    (reader.complete value).2.escape = .outside :=
  pushCode_escape _ value

/-- Only a carriage return brings a reader behind one. -/
theorem read_escape (usual : symbol ≠ '\r') : (reader.read symbol).2.escape ≠ .afterReturn := by
  have ended : (reader.readAfterEscape symbol).2.escape ≠ .afterReturn :=
    readText_escape (endEscape_escape reader)
  unfold read
  cases escape : reader.escape with
  | outside => exact readText_escape escape
  | opened =>
      unfold readOpened
      dsimp only
      cases simpleEscape? symbol with
      | some => simp [push, leaveEscape]
      | none =>
          cases digitValue? symbol 8 with
          | some => simp [within]
          | none =>
              simp only [usual, if_false]
              split_ifs <;> simp [push, within, leaveEscape]
  | afterReturn =>
      dsimp only
      split
      · simp [leaveEscape]
      · exact readText_escape rfl
  | octal value digits =>
      dsimp only
      split
      · split
        · simp [within]
        · simp [complete_escape]
      · exact ended
  | hex value digits =>
      dsimp only
      split
      · simp [within]
      · exact ended
  | universal value digits width =>
      dsimp only
      split
      · split
        · simp [complete_escape]
        · simp [within]
      · exact ended

/-- At a line terminator a literal fails, unless it was escaped. -/
theorem read_terminator (ends : symbol = '\n' ∨ symbol = '\r')
    (unescaped : reader.escape ≠ .opened) (whole : reader.escape ≠ .afterReturn) :
    reader.read symbol = (.fail "newline in literal", reader.endEscape.2) := by
  have failed : ∀ remark other, attach remark (readText other symbol).1 =
      .fail "newline in literal" ∧ (readText other symbol).2 = other := by
    intro remark other
    cases remark <;> simp [readText, ends, attach]
  have ended : reader.readAfterEscape symbol = (.fail "newline in literal", reader.endEscape.2) :=
    Prod.ext (failed _ _).1 (failed none _).2
  unfold read
  cases escape : reader.escape with
  | outside =>
      have same : reader.endEscape.2 = reader := by
        obtain ⟨mark, single, decoded, _, count⟩ := reader
        obtain rfl : _ = Escape.outside := escape
        rfl
      rw [same]
      simp [readText, ends]
  | opened => contradiction
  | afterReturn => contradiction
  | _ => simpa [digitValue?_terminator ends] using ended

end Quoted

namespace Stock

variable {kind : Kind} {one two : Stock}

namespace Returned

theorem reset {fresh : Stock} (suits : fresh.Suits kind) :
    Returned kind (Reader.reset fresh) (Reader.reset fresh) := by
  cases fresh with
  | quoted reader => exact .quoted suits.1 suits.2 (by simp [Reader.reset, Quoted.reset])
  | raw reader => exact .raw suits (by simp) .nil

theorem read (returned : Returned kind one two) {symbol : Char}
    (usual : symbol ≠ '\n' ∧ symbol ≠ '\r') :
    (Reader.read two symbol).1 = (Reader.read one symbol).1 ∧
      Returned kind (Reader.read one symbol).2 (Reader.read two symbol).2 := by
  cases returned with
  | quoted noComment noRaw _ => exact ⟨rfl, .quoted noComment noRaw (Quoted.read_escape usual.2)⟩
  | @raw inBody delimiter one two isRaw plain texts =>
      have grown := texts.cons usual.1
      have closes : ∀ mark ∈ '"' :: (delimiter ++ [')']), mark ≠ '\n' := by
        intro mark member
        rcases List.mem_cons.mp member with rfl | inner
        · decide
        rcases List.mem_append.mp inner with inside | last
        · exact plain mark inside
        · obtain rfl := List.mem_singleton.mp last
          decide
      cases inBody with
      | true =>
          have agree := grown.isPrefixOf closes
          by_cases starts : ('"' :: (delimiter ++ [')'])).isPrefixOf (symbol :: one) = true
          · simp only [Reader.read, Raw.read, Raw.closing, agree, starts, if_true]
            exact ⟨rfl, .raw isRaw plain (grown.drop closes (List.isPrefixOf_iff_prefix.mp starts))⟩
          · simp only [Reader.read, Raw.read, Raw.closing, agree, starts, if_true]
            exact ⟨rfl, .raw isRaw plain grown⟩
      | false =>
          simp only [Reader.read, Raw.read, Bool.false_eq_true, if_false]
          split
          · exact ⟨rfl, .raw isRaw plain texts⟩
          split
          · refine ⟨rfl, .raw isRaw ?_ texts⟩
            simpa [usual.1] using plain
          · exact ⟨rfl, .raw isRaw plain texts⟩

/-- A literal fails at both ways to end a line, or goes on behind both. -/
theorem lineFeed (returned : Returned kind one two) :
    (∃ message, (Reader.read one '\n').1 = .fail message ∧
      (Reader.read two '\r').1 = .fail message) ∨
    (Reader.read one '\n').1 = .proceed ∧ (Reader.read two '\r').1 = .proceed ∧
      (Reader.read (Reader.read two '\r').2 '\n').1 = .proceed ∧
      Returned kind (Reader.read one '\n').2 (Reader.read (Reader.read two '\r').2 '\n').2 := by
  cases returned with
  | @quoted reader noComment noRaw whole =>
      by_cases opened : reader.escape = .opened
      · have first : reader.read '\n' = (.proceed, reader.leaveEscape) := by
          rw [Quoted.read, opened]
          rfl
        have carriage : reader.read '\r' = reader.leaveEscape.within .afterReturn := by
          rw [Quoted.read, opened]
          rfl
        refine Or.inr ?_
        simp only [Reader.read, first, carriage]
        exact ⟨rfl, rfl, rfl, .quoted noComment noRaw (by simp [Quoted.leaveEscape])⟩
      · refine Or.inl ⟨"newline in literal", ?_⟩
        simp only [Reader.read, Quoted.read_terminator (.inl rfl) opened whole,
          Quoted.read_terminator (.inr rfl) opened whole]
        exact ⟨rfl, rfl⟩
  | @raw inBody delimiter one two isRaw plain texts =>
      cases inBody with
      | true => exact Or.inr ⟨rfl, rfl, rfl, .raw isRaw plain texts.lineFeed⟩
      | false =>
          have feed : Raw.fitsDelimiter '\n' = false := by decide
          have carriage : Raw.fitsDelimiter '\r' = false := by decide
          refine Or.inl ⟨"invalid raw string delimiter", ?_⟩
          simp only [Reader.read, Raw.read, Bool.false_eq_true, if_false, feed, carriage]
          exact ⟨rfl, rfl⟩

theorem take (returned : Returned kind one two) :
    (Reader.take two).1 = kind.textWithReturns (Reader.take one).1 := by
  cases returned with
  | quoted noComment noRaw _ => simp [Kind.textWithReturns, noComment, noRaw]
  | raw isRaw _ texts =>
      simp only [Kind.textWithReturns, isRaw, or_true, if_true]
      refine congrArg String.ofList (texts.trans ?_)
      simp [Reader.take, Raw.take]

theorem finish (returned : Returned kind one two) :
    (Reader.finish two).1 = (Reader.finish one).1 ∧
      Returned kind (Reader.finish one).2 (Reader.finish two).2 := by
  cases returned with
  | quoted noComment noRaw whole => exact ⟨rfl, .quoted noComment noRaw whole⟩
  | raw isRaw plain texts => exact ⟨rfl, .raw isRaw plain texts⟩

end Returned

end Stock

end Literal

end Lexing
