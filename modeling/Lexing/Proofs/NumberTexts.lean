import Lexing.Proofs.Moments
import Lexing.Proofs.Numerals
import Lexing.Proofs.Payloads
import Lexing.Proofs.Utterances

/-!
# The texts of numbers

A number is a prefix or nothing, then digits and separators, and possibly a point with a digit
behind it and further digits and separators.  While a number is read, its mode has counted the
digits of what was read since the number began, and when the number is reported, its text is
what was counted.
-/

namespace Lexing

def Kind.withoutFloat (kind : Kind) : Kind :=
  if kind.hasBit 0x80 then ⟨kind.raw - 0x80⟩ else kind

/-- The kind of a finished number is its own, but for the flag. -/
theorem Numeral.withoutFloat_finalKind {value : Numeral} (number : value.kind.isNumber = true)
    (integer : value.kind.isFloat = false) : value.finalKind.withoutFloat = value.kind := by
  have unset : value.kind.hasBit 0x80 = false := by simpa [Kind.isFloat, number] using integer
  unfold finalKind
  cases value.isFloat with
  | false => simp [Kind.withoutFloat, unset]
  | true =>
      have flagged : value.kind.withFloat.hasBit 0x80 = true := by
        have float := Kind.isFloat_withFloat number
        unfold Kind.isFloat at float
        exact (Bool.and_eq_true_iff.mp float).2
      have raised : value.kind.withFloat = ⟨value.kind.raw + 0x80⟩ := by
        simp [Kind.withFloat, unset]
      rw [if_pos rfl, Kind.withoutFloat, flagged, if_pos rfl, raised]
      simp

def Mode.Numerical : Mode → Prop
  | .number _ | .maybeFloat .. | .float _ => True
  | _ => False

namespace Scan

variable {ρ : Type} {profile : Profile ρ} {state : ScanState ρ} {reaction : Reaction ρ}
  {fed : Fed} {gapped : List Char → Prop} {kind : Kind} {value integer : Numeral}
  {opening body left gap right text : List Char} {symbol : Char} {start stop : Nat}

/-! ## Texts with their values -/

def Numeric (profile : Profile ρ) (base : Nat) (symbol : Char) : Prop :=
  (digitValue? symbol base).isSome = true ∨ profile.options.separator? = some symbol

/-- What decides the kind of a number: a registered prefix, or nothing. -/
def Opens (profile : Profile ρ) (kind : Kind) (opening : List Char) : Prop :=
  profile.numberPrefixKind? (String.ofList opening) = some kind ∨
    opening = [] ∧ kind = profile.defaultNumber

/-- The text `opening ++ body` is a number without a point. -/
structure Integral (profile : Profile ρ) (kind : Kind) (opening body : List Char)
    (value : Numeral) : Prop where
  opens : Opens profile kind opening
  numeric : ∀ symbol ∈ body, Numeric profile value.base symbol
  value : value = (Numeral.ofKind kind).pushDigits (digitsOf value.base body)

/-- The text `opening ++ left` is a number or nothing, and a point with a gap behind it
follows.  Only a point that begins its token can have a gap behind it. -/
structure Halved (gapped : List Char → Prop) (profile : Profile ρ) (kind : Kind)
    (opening left gap : List Char) (integer : Numeral) : Prop where
  integral : Integral profile kind opening left integer
  undotted : '.' ∉ left
  spaced : gap = [] ∨ opening = [] ∧ left = [] ∧ gapped gap

/-- The text `right` stands behind them and begins with a digit. -/
structure Fractional (profile : Profile ρ) (integer : Numeral) (right : List Char)
    (value : Numeral) : Prop where
  first : ∃ symbol rest, right = symbol :: rest ∧
    (digitValue? symbol integer.base).isSome = true
  numeric : ∀ symbol ∈ right, Numeric profile integer.base symbol
  value : value = integer.pushFractionDigits (digitsOf integer.base right)

theorem digitValue?_point (base : Nat) : digitValue? '.' base = none := by
  have worth : digitWorth? '.' = none := by decide
  simp [digitValue?, worth]

/-- The digits that were taken for a prefix are counted. -/
theorem defaultNumeral_eq_pushDigits (profile : Profile ρ) (pending : List Located) :
    defaultNumeral profile pending = (Numeral.ofKind profile.defaultNumber).pushDigits
      (digitsOf profile.options.defaultBase (pending.map Located.symbol)) := by
  rw [defaultNumeral, Numeral.pushDigits, digitsOf, List.foldl_filterMap, List.foldl_map]
  congr 1
  funext value located
  cases digitValue? located.symbol profile.options.defaultBase <;> rfl

namespace Integral

theorem kind_eq (integral : Integral profile kind opening body value) : value.kind = kind := by
  rw [integral.value]
  exact (Numeral.sameFraction_pushDigits _ _).kind

theorem base_eq (integral : Integral profile kind opening body value) :
    value.base = (Numeral.ofKind kind).base := by
  rw [integral.value]
  exact (Numeral.sameFraction_pushDigits _ _).base

/-- Nothing was counted yet. -/
theorem of_opens (opens : Opens profile kind opening) :
    Integral profile kind opening [] (Numeral.ofKind kind) :=
  ⟨opens, by simp, by simp⟩

theorem digit (integral : Integral profile kind opening body value) {digit : Nat}
    (worth : digitValue? symbol value.base = some digit) :
    Integral profile kind opening (body ++ [symbol]) (value.pushDigit digit) := by
  have base := (Numeral.sameFraction_pushDigit value digit).base
  refine ⟨integral.opens, ?_, ?_⟩
  · rw [base]
    exact List.forall_mem_append.mpr
      ⟨integral.numeric, by simpa [Numeric] using Or.inl (Option.isSome_of_eq_some worth)⟩
  · have last : digitsOf value.base [symbol] = [digit] := digitsOf_cons worth
    rw [base, digitsOf_append, last, Numeral.pushDigits_append, ← integral.value,
      Numeral.pushDigits_singleton]

theorem separator (integral : Integral profile kind opening body value)
    (worthless : digitValue? symbol value.base = none)
    (separates : isSeparator profile symbol = true) :
    Integral profile kind opening (body ++ [symbol]) value := by
  have separates : profile.options.separator? = some symbol := by
    simpa [isSeparator] using separates
  refine ⟨integral.opens, ?_, ?_⟩
  · exact List.forall_mem_append.mpr ⟨integral.numeric, by simpa [Numeric] using Or.inr separates⟩
  · have last : digitsOf value.base [symbol] = [] := digitsOf_cons_none worthless
    rw [digitsOf_append, last, List.append_nil]
    exact integral.value

/-- The symbols of an abandoned prefix are digits without a prefix. -/
theorem of_pending
    (base : (Numeral.ofKind profile.defaultNumber).base = profile.options.defaultBase)
    {pending : List Located}
    (digits : (pending.all fun located => isDefaultDigit profile located.symbol) = true) :
    Integral profile profile.defaultNumber [] (pending.map Located.symbol)
      (defaultNumeral profile pending) := by
  have sameBase : (defaultNumeral profile pending).base = profile.options.defaultBase := by
    rw [defaultNumeral_eq_pushDigits, (Numeral.sameFraction_pushDigits _ _).base, base]
  refine ⟨Or.inr ⟨rfl, rfl⟩, ?_, by rw [sameBase, defaultNumeral_eq_pushDigits]⟩
  intro symbol member
  obtain ⟨located, inside, rfl⟩ := List.mem_map.mp member
  rw [sameBase]
  exact Or.inl (List.all_eq_true.mp digits located inside)

/-- A point that is no separator does not stand among the digits. -/
theorem undotted (integral : Integral profile kind opening body value)
    (other : isSeparator profile '.' = false) : '.' ∉ body := by
  intro member
  rcases integral.numeric _ member with digit | separates
  · simp [digitValue?_point] at digit
  · simp [isSeparator, separates] at other

end Integral

namespace Fractional

theorem base_eq (fractional : Fractional profile integer right value) :
    value.base = integer.base := by
  rw [fractional.value]
  exact (Numeral.sameInteger_pushFractionDigits _ _).base

theorem begin {digit : Nat} (worth : digitValue? symbol integer.base = some digit) :
    Fractional profile integer [symbol] (integer.pushFractionDigit digit) := by
  have only : digitsOf integer.base [symbol] = [digit] := digitsOf_cons worth
  have isDigit := Option.isSome_of_eq_some worth
  exact ⟨⟨symbol, [], rfl, isDigit⟩, by simpa [Numeric] using Or.inl isDigit,
    by rw [only, Numeral.pushFractionDigits_singleton]⟩

/-- Whatever stands behind the first digit is a digit or the separator. -/
theorem append (fractional : Fractional profile integer right value)
    (numeric : Numeric profile integer.base symbol) {next : Numeral}
    (counted : next = value.pushFractionDigits (digitsOf integer.base [symbol])) :
    Fractional profile integer (right ++ [symbol]) next := by
  obtain ⟨first, rest, rfl, isDigit⟩ := fractional.first
  refine ⟨⟨first, rest ++ [symbol], rfl, isDigit⟩, ?_, ?_⟩
  · exact List.forall_mem_append.mpr ⟨fractional.numeric, by simpa using numeric⟩
  · rw [digitsOf_append, Numeral.pushFractionDigits_append, ← fractional.value, counted]

theorem digit (fractional : Fractional profile integer right value) {digit : Nat}
    (worth : digitValue? symbol value.base = some digit) :
    Fractional profile integer (right ++ [symbol]) (value.pushFractionDigit digit) := by
  rw [fractional.base_eq] at worth
  have last : digitsOf integer.base [symbol] = [digit] := digitsOf_cons worth
  exact fractional.append (Or.inl (Option.isSome_of_eq_some worth))
    (by rw [last, Numeral.pushFractionDigits_singleton])

theorem separator (fractional : Fractional profile integer right value)
    (worthless : digitValue? symbol value.base = none)
    (separates : isSeparator profile symbol = true) :
    Fractional profile integer (right ++ [symbol]) value := by
  rw [fractional.base_eq] at worthless
  have last : digitsOf integer.base [symbol] = [] := digitsOf_cons_none worthless
  exact fractional.append (Or.inr (by simpa [isSeparator] using separates)) (by rw [last]; rfl)

end Fractional

/-! ## What a mode has counted -/

/-- What a mode has counted of the text that was read since its token began at `start`. -/
def Counts (gapped : List Char → Prop) (profile : Profile ρ) (start : Nat) (mode : Mode)
    (text : List Char) : Prop :=
  match mode with
  | .number value => ∃ kind opening body, text = opening ++ body ∧
      Integral profile kind opening body value
  | .maybeFloat value dot _ => ∃ kind opening left gap, text = opening ++ left ++ '.' :: gap ∧
      dot = start + byteLength (opening ++ left) ∧ Halved gapped profile kind opening left gap value
  | .float value => ∃ kind opening left gap right integer,
      text = opening ++ left ++ '.' :: (gap ++ right) ∧
        Halved gapped profile kind opening left gap integer ∧
        Fractional profile integer right value
  | _ => True

theorem counts_of_plain {mode : Mode} (plain : ¬mode.Numerical) :
    Counts gapped profile start mode text := by
  cases mode with
  | number | maybeFloat | float => exact absurd trivial plain
  | _ => trivial

structure Writes (gapped : List Char → Prop) (profile : Profile ρ) (start : Nat)
    (text : List Char) (token : Token) : Prop where
  span : token.span = ⟨start, start + byteLength text⟩
  value : ∃ value : Numeral, token.kind = value.finalKind ∧
    token.payload = value.payload token.span.stop ∧
    (Counts gapped profile start (.number value) text ∧ value.isFloat = false ∨
      Counts gapped profile start (.float value) text ∧ value.isFloat = true)

/-- After a reaction to the last symbol of a text that began at `start`, the mode has counted
what is not given back, and a number that was reported is the begin of the text. -/
structure Tallies (gapped : List Char → Prop) (profile : Profile ρ) (start : Nat)
    (text : List Char) (reaction : Reaction ρ) : Prop where
  silent : reaction.state.mode.Numerical → tokensOf reaction.reports = []
  counts : ∀ read, text = read ++ reaction.next.map (fun fed => fed.symbol) →
    Counts gapped profile start reaction.state.mode read
  numbers : ∀ token ∈ tokensOf reaction.reports, token.payload.suffixStart? ≠ none →
    ∃ read rest, text = read ++ rest ∧ Writes gapped profile start read token

theorem tallies_become {mode : Mode} (counts : Counts gapped profile start mode text) :
    Tallies gapped profile start text (state.become mode) := by
  refine ⟨by simp, fun read same => ?_, by simp⟩
  obtain rfl : text = read := by simpa using same
  exact counts

theorem Tallies.feed (tallies : Tallies gapped profile start text reaction) (again : List Fed) :
    Tallies gapped profile start (text ++ again.map (fun fed => fed.symbol))
      (reaction.feed again) := by
  refine ⟨tallies.silent, fun read same => tallies.counts read ?_, fun token member number => ?_⟩
  · rw [Reaction.feed_next, List.map_append, ← List.append_assoc] at same
    exact List.append_cancel_right same
  · obtain ⟨read, rest, rfl, writes⟩ := tallies.numbers token member number
    exact ⟨read, rest ++ again.map (fun fed => fed.symbol), by rw [List.append_assoc], writes⟩

/-- Where no number is read any more, it does not matter what is given back. -/
theorem Tallies.leave (tallies : Tallies gapped profile start text reaction)
    (plain : ¬reaction.state.mode.Numerical) (again : List Fed) (more : List Char) :
    Tallies gapped profile start (text ++ more) (reaction.feed again) := by
  refine ⟨fun numerical => absurd numerical plain, fun _ _ => counts_of_plain plain,
    fun token member number => ?_⟩
  obtain ⟨read, rest, rfl, writes⟩ := tallies.numbers token member number
  exact ⟨read, rest ++ more, by rw [List.append_assoc], writes⟩

theorem tallies_finishNumber
    (counted : Counts gapped profile state.tokenStart (.number value) text ∧
        value.isFloat = false ∨
      Counts gapped profile state.tokenStart (.float value) text ∧ value.isFloat = true)
    (place : stop = state.tokenStart + byteLength text) :
    Tallies gapped profile state.tokenStart text (state.finishNumber value stop) := by
  refine ⟨False.elim, fun _ _ => trivial, fun token member _ => ⟨text, [], by simp, ?_⟩⟩
  obtain rfl : token = _ := List.mem_singleton.mp member
  exact ⟨by rw [place], value, rfl, rfl, counted⟩

theorem Integral.isFloat_eq (integral : Integral profile kind opening body value) :
    value.isFloat = false := by
  rw [integral.value]
  exact (Numeral.sameFraction_pushDigits _ _).isFloat

theorem Fractional.isFloat_eq (fractional : Fractional profile integer right value) :
    value.isFloat = true := by
  obtain ⟨symbol, rest, rfl, isDigit⟩ := fractional.first
  obtain ⟨digit, worth⟩ := Option.isSome_iff_exists.mp isDigit
  rw [fractional.value]
  exact Numeral.isFloat_pushFractionDigits integer (by simp [digitsOf_cons worth])

/-! ## Reactions that have nothing to do with numbers -/

/-- The reaction neither reports a number nor begins to read one. -/
structure Numberless (reaction : Reaction ρ) : Prop where
  mode : ¬reaction.state.mode.Numerical
  tokens : ∀ token ∈ tokensOf reaction.reports, token.payload.suffixStart? = none

theorem Numberless.tallies (numberless : Numberless reaction) :
    Tallies gapped profile start text reaction where
  silent numerical := absurd numerical numberless.mode
  counts _ _ := counts_of_plain numberless.mode
  numbers token member number := absurd (numberless.tokens token member) number

theorem Numberless.feed (numberless : Numberless reaction) (again : List Fed) :
    Numberless (reaction.feed again) :=
  ⟨numberless.mode, numberless.tokens⟩

theorem Numberless.notify (numberless : Numberless reaction) {report : Report}
    (remark : report.event.token? = none) : Numberless (reaction.notify report) := by
  refine ⟨numberless.mode, ?_⟩
  have same : tokensOf (reaction.notify report).reports = tokensOf reaction.reports := by
    simp [tokensOf, remark]
  rw [same]
  exact numberless.tokens

theorem numberless_become {mode : Mode} (plain : ¬mode.Numerical) :
    Numberless (state.become mode) :=
  ⟨plain, by simp⟩

theorem numberless_emit {kind : Kind} {span : Span} {payload : Payload}
    (plain : ¬state.mode.Numerical) (valueless : payload.suffixStart? = none) :
    Numberless (state.emit kind span payload) :=
  ⟨plain, List.forall_mem_singleton.mpr valueless⟩

theorem numberless_finish {kind : Kind} {payload : Payload}
    (valueless : payload.suffixStart? = none) :
    Numberless (state.finish kind stop payload) :=
  numberless_emit id valueless

theorem numberless_reject (span : Span) (complaint : Option String) :
    Numberless (state.reject span complaint) :=
  (numberless_emit id rfl).notify rfl

theorem not_numerical_resume (resume : Resume) : ¬resume.mode.Numerical := by
  cases resume <;> exact id

theorem closeWalk_numberless (node : NodeId) :
    Numberless (closeWalk profile state node stop) := by
  have closed := closeWalk_closed profile state node stop
  generalize closeWalk profile state node stop = reaction at closed ⊢
  cases closed with
  | demoted | operator | unnamed => exact numberless_finish rfl
  | lineComment | blockComment => exact numberless_become id

theorem reachOperator_numberless (node : NodeId) (pending : List Located)
    (terminal : Option (NodeId × Nat)) :
    Numberless (reachOperator profile state node pending terminal) := by
  unfold reachOperator
  split
  · exact numberless_become id
  · exact (closeWalk_numberless _).feed _

theorem stuckOperator_numberless (walk : Walk) :
    Numberless (stuckOperator profile state walk stop) := by
  have stuck := stuckOperator_stuck profile state walk stop
  generalize stuckOperator profile state walk stop = reaction at stuck ⊢
  cases stuck with
  | passed => exact (closeWalk_numberless _).feed _
  | rejected => exact ((numberless_reject _ _).notify rfl).feed _
  | empty => exact numberless_become id

theorem joinLines_numberless (resume : Resume) (escape : Located) :
    Numberless (joinLines state resume escape stop) := by
  cases resume with
  | idle => exact numberless_emit id rfl
  | _ => exact ⟨id, by simp [joinLines]⟩

theorem abandonContinuation_numberless (resume : Resume) (escape : Located) :
    Numberless (abandonContinuation state resume escape) :=
  ⟨not_numerical_resume resume, by simp [abandonContinuation]⟩

section Literals

variable [Literal.Reader ρ]

theorem openLiteral_numberless (node : NodeId) (introduction : List Located) :
    Numberless (openLiteral profile state node introduction) := by
  have opened := openLiteral_opened profile state node introduction
  generalize openLiteral profile state node introduction = reaction at opened ⊢
  cases opened with
  | unbound | unread => exact numberless_finish rfl
  | opens => exact numberless_become id

theorem reachLiteral_numberless (node : NodeId) (pending : List Located)
    (terminal : Option (NodeId × Nat)) :
    Numberless (reachLiteral profile state node pending terminal) := by
  have reached := reachLiteral_reached profile state node pending terminal
  generalize reachLiteral profile state node pending terminal = reaction at reached ⊢
  cases reached with
  | waits => exact numberless_become id
  | opens => exact openLiteral_numberless _ _

theorem stuckLiteral_numberless (walk : Walk) :
    Numberless (stuckLiteral profile state walk) := by
  unfold stuckLiteral
  cases walk.terminal with
  | none => exact (numberless_become id).feed _
  | some passed => exact (openLiteral_numberless _ _).feed _

omit [Literal.Reader ρ] in
theorem failLiteral_numberless (span : Span) (message : String) :
    Numberless (failLiteral state span message) :=
  (numberless_reject _ _).notify rfl

theorem readLiteral_numberless {number : Nat} {kind : Kind}
    (mode : state.mode = .literal number kind) :
    Numberless (readLiteral profile state number kind fed) := by
  have inside : ¬state.mode.Numerical := by simp [mode, Mode.Numerical]
  have continued := readLiteral_continued profile state number kind fed
  generalize readLiteral profile state number kind fed = reaction at continued ⊢
  cases continued with
  | unread => exact (numberless_become id).feed _
  | proceeds => exact ⟨inside, by simp⟩
  | proceedsWith => exact ⟨inside, by simp [tokensOf, Report.event, Event.token?]⟩
  | stops => exact numberless_finish rfl
  | stopsWith => exact (numberless_finish rfl).notify rfl
  | failsBefore => exact (failLiteral_numberless _ _).feed _
  | fails => exact failLiteral_numberless _ _

theorem closeLiteral_numberless (number : Nat) (kind : Kind) :
    Numberless (closeLiteral state number kind stop) := by
  have closed := closeLiteral_closed state number kind stop
  generalize closeLiteral state number kind stop = reaction at closed ⊢
  cases closed with
  | unread => exact numberless_become id
  | stops => exact numberless_finish rfl
  | stopsWith => exact (numberless_finish rfl).notify rfl
  | fails => exact failLiteral_numberless _ _

/-- Away from numbers and from the symbols in front of them, a mode answers without any. -/
theorem Answered.numberless {next : Option Fed}
    (answered : Answered profile stop state next reaction) (busy : state.mode ≠ .idle)
    (plain : ¬state.mode.Numerical)
    (whole : ∀ node pending, state.mode ≠ .numberPrefix node pending) : Numberless reaction := by
  cases answered with
  | between => contradiction
  | resolves mode => exact absurd mode (whole _ _)
  | releases mode => simp [mode, Mode.Numerical] at plain
  | takes mode takes =>
      rw [mode] at plain
      refine numberless_become ?_
      cases takes with
      | numberPrefix => exact id
      | digit | separator | point | firstFraction | fraction | fractionSeparator =>
          exact absurd trivial plain
      | _ => exact id
  | completes mode completed =>
      rw [mode] at plain
      refine Numberless.feed (numberless_finish ?_) _
      cases completed with
      | number | float => exact absurd trivial plain
      | _ => rfl
  | linefeed => exact numberless_finish rfl
  | extendsOperator => exact reachOperator_numberless _ _ _
  | endsOperator => exact (stuckOperator_numberless _).feed _
  | closesBlock => exact ⟨id, List.forall_mem_singleton.mpr rfl⟩
  | unclosed => exact numberless_reject _ _
  | extendsIntroduction => exact reachLiteral_numberless _ _ _
  | endsIntroduction => exact (stuckLiteral_numberless _).feed _
  | reads mode => exact readLiteral_numberless mode
  | closesLiteral => exact closeLiteral_numberless _ _
  | joins => exact joinLines_numberless _ _
  | joinsBefore => exact (joinLines_numberless _ _).feed _
  | abandons => exact (abandonContinuation_numberless _ _).feed _

end Literals

/-! ## Answers to the symbols of a number -/

/-- A symbol that a mode takes is counted. -/
theorem Takes.counts {before after : Mode} (takes : Takes profile state fed before after)
    (place : fed.offset = start + byteLength text)
    (counts : Counts gapped profile start before text) :
    Counts gapped profile start after (text ++ [fed.symbol]) := by
  cases takes with
  | digit worth =>
      obtain ⟨kind, opening, body, rfl, integral⟩ := counts
      exact ⟨kind, opening, body ++ [fed.symbol], by simp, integral.digit worth⟩
  | separator worthless separates =>
      obtain ⟨kind, opening, body, rfl, integral⟩ := counts
      exact ⟨kind, opening, body ++ [fed.symbol], by simp, integral.separator worthless separates⟩
  | point other dot =>
      obtain ⟨kind, opening, body, rfl, integral⟩ := counts
      rw [dot] at other ⊢
      exact ⟨kind, opening, body, [], by simp, place, integral, integral.undotted other, Or.inl rfl⟩
  | firstFraction worth =>
      obtain ⟨kind, opening, left, gap, rfl, _, halved⟩ := counts
      rw [Numeral.pushFractionDigit_startFraction]
      exact ⟨kind, opening, left, gap, [fed.symbol], _, by simp, halved, .begin worth⟩
  | fraction worth =>
      obtain ⟨kind, opening, left, gap, right, integer, rfl, halved, fractional⟩ := counts
      exact ⟨kind, opening, left, gap, right ++ [fed.symbol], integer, by simp, halved,
        fractional.digit worth⟩
  | fractionSeparator worthless separates =>
      obtain ⟨kind, opening, left, gap, right, integer, rfl, halved, fractional⟩ := counts
      exact ⟨kind, opening, left, gap, right ++ [fed.symbol], integer, by simp, halved,
        fractional.separator worthless separates⟩
  | _ => trivial

/-- A number that is complete is what was counted. -/
theorem Completed.tallies {next : Option Fed} {before : Mode} {payload : Payload}
    (completed : Completed profile state next stop before kind payload)
    (place : stop = state.tokenStart + byteLength text)
    (counts : Counts gapped profile state.tokenStart before text) :
    Tallies gapped profile state.tokenStart text (state.finish kind stop payload) := by
  cases completed with
  | number =>
      have integer := counts
      obtain ⟨_, _, _, _, integral⟩ := integer
      exact tallies_finishNumber (Or.inl ⟨counts, integral.isFloat_eq⟩) place
  | float =>
      have float := counts
      obtain ⟨_, _, _, _, _, _, _, _, fractional⟩ := float
      exact tallies_finishNumber (Or.inr ⟨counts, fractional.isFloat_eq⟩) place
  | _ => exact (numberless_finish rfl).tallies

/-- The point is given back, and the number before it is complete. -/
theorem releaseDot_tallies {dot : Nat} {hasInteger : Bool}
    (counts : Counts gapped profile state.tokenStart (.maybeFloat value dot hasInteger) text) :
    Tallies gapped profile state.tokenStart text (releaseDot state value dot hasInteger) := by
  obtain ⟨kind, opening, left, gap, rfl, rfl, halved⟩ := counts
  cases hasInteger with
  | false => exact ((numberless_become id).feed _).tallies
  | true =>
      have counted : Counts gapped profile state.tokenStart (.number value) (opening ++ left) :=
        ⟨kind, opening, left, rfl, halved.integral⟩
      have before := tallies_finishNumber (Or.inl ⟨counted, halved.integral.isFloat_eq⟩) rfl
      exact before.leave id _ _

section Prefixes

variable {node : NodeId} {pending : List Located}
  (found : profile.numberPrefixes.find? (pending.map Located.symbol) = some node)
  (nonempty : pending ≠ [])

include found nonempty

omit reaction in
theorem opens_of_kind? (known : profile.numberPrefixes.kind? node = some kind) :
    Opens profile kind (pending.map Located.symbol) := by
  refine Or.inl ?_
  rw [Profile.numberPrefixKind?, String.toList_ofList,
    Trie.lookup?_of_find? found (by simpa using nonempty), known]

theorem resolvePrefix_tallies
    (base : (Numeral.ofKind profile.defaultNumber).base = profile.options.defaultBase)
    (place : ∀ span, Located.spanOf? pending = some span →
      span.stop = state.tokenStart + byteLength (pending.map Located.symbol))
    (next : Option Fed) :
    Tallies gapped profile state.tokenStart
      (pending.map Located.symbol ++ next.toList.map (fun fed => fed.symbol))
      (resolvePrefix profile state node pending next) := by
  have registered : ∀ {kind : Kind}, profile.numberPrefixes.kind? node = some kind →
      Counts gapped profile state.tokenStart (.number (.ofKind kind))
        (pending.map Located.symbol) := fun known =>
    ⟨_, _, [], (List.append_nil _).symm, .of_opens (opens_of_kind? found nonempty known)⟩
  have plain : (pending.all fun located => isDefaultDigit profile located.symbol) = true →
      Counts gapped profile state.tokenStart (.number (defaultNumeral profile pending))
        (pending.map Located.symbol) ∧ (defaultNumeral profile pending).isFloat = false :=
    fun digits => ⟨⟨_, [], _, rfl, .of_pending base digits⟩,
      (Integral.of_pending base digits).isFloat_eq⟩
  obtain ⟨_, resolved, answer⟩ := resolvePrefix_resolved profile state node pending next
  rw [answer]
  cases resolved with
  | spanless => exact (numberless_become id).tallies.feed _
  | opens known => exact Tallies.feed (tallies_become (registered known)) _
  | goesOn digits => exact Tallies.feed (tallies_become (plain digits).1) _
  | alone spanned known =>
      exact (tallies_finishNumber (Or.inl ⟨registered known, rfl⟩) (place _ spanned)).feed _
  | digits spanned digits =>
      exact (tallies_finishNumber (Or.inl (plain digits)) (place _ spanned)).feed _
  | rejected => exact (numberless_reject _ none).tallies.feed _

end Prefixes

end Scan

end Lexing
