import Lexing.Proofs.LineEndings
import Lexing.Proofs.NumberTexts

/-!
# Scans of integers

A number that begins a source is read symbol by symbol up to the first one that is neither a
digit of its base nor the separator.  What decides its base is the way in which it begins: with
a digit, with a prefix that some digit or separator follows, or with digits that only look like
a prefix.
-/

namespace Lexing

/-! ## Digits -/

theorem toNat_lt_of_digitValue? {symbol : Char} {base : Nat}
    (digit : (digitValue? symbol base).isSome = true) : symbol.toNat < 128 := by
  by_contra large
  have above : ∀ last : Char, last.toNat < 128 → ¬symbol ≤ last := fun last small below =>
    large ((UInt32.le_iff_toNat_le.mp below).trans_lt small)
  have worthless : digitWorth? symbol = none := by
    simp [digitWorth?, above '9' (by decide), above 'z' (by decide), above 'Z' (by decide)]
  simp [digitValue?, worthless] at digit

/-! The case of a digit does not matter. -/

theorem digitWorth?_toLower (symbol : Char) : digitWorth? symbol.toLower = digitWorth? symbol := by
  by_cases ascii : symbol.toNat < 128
  · have known : ∀ code < 128,
        digitWorth? (Char.ofNat code).toLower = digitWorth? (Char.ofNat code) := by decide
    simpa using known symbol.toNat ascii
  · have same : symbol.toLower = symbol := by
      unfold Char.toLower
      rw [dif_neg]
      rintro ⟨_, upper⟩
      have bound : symbol.toNat ≤ 'Z'.toNat := UInt32.le_iff_toNat_le.mp upper
      exact ascii (bound.trans_lt (by decide))
    rw [same]

theorem digitsOf_toLower (base : Nat) (text : List Char) :
    digitsOf base (text.map Char.toLower) = digitsOf base text := by
  simp [digitsOf, List.filterMap_map, digitValue?, digitWorth?_toLower]

namespace Scan

variable {ρ : Type} [Literal.Reader ρ] {profile : Profile ρ} {closing : Option Nat}
  {state : ScanState ρ} {value : Numeral} {fed : Fed} {source : String}

/-! ## Symbols of a number -/

/-- Digits and separators are counted one after the other. -/
theorem number_leads {text : List Char} {offset : Nat} {rest : List Fed}
    (numeric : ∀ symbol ∈ text, Numeric profile value.base symbol) :
    Leads profile closing
      ⟨state.enter (.number value), (Located.ofText offset text).map Fed.plain ++ rest⟩ []
      ⟨state.enter (.number (value.pushDigits (digitsOf value.base text))), rest⟩ := by
  induction text generalizing value offset with
  | nil => exact Leads.here _
  | cons symbol text ih =>
      have step := Leads.react profile closing (state.enter (.number value))
        (.plain ⟨symbol, offset⟩)
        ((Located.ofText (symbolEnd symbol offset) text).map Fed.plain ++ rest)
      have others : ∀ symbol ∈ text, Numeric profile value.base symbol :=
        fun symbol member => numeric symbol (List.mem_cons_of_mem _ member)
      cases worth : digitValue? symbol value.base with
      | some digit =>
          have answer : react profile (state.enter (.number value)) (.plain ⟨symbol, offset⟩) =
              (state.enter (.number value)).become (.number (value.pushDigit digit)) := by
            simp [react, readNumber, Fed.plain, worth]
          have base := (Numeral.sameFraction_pushDigit value digit).base
          have onward := @ih (value.pushDigit digit) (symbolEnd symbol offset) (by rwa [base])
          rw [answer] at step
          rw [base] at onward
          rw [digitsOf_cons worth]
          exact step.trans onward
      | none =>
          have separates : isSeparator profile symbol = true := by
            simpa [Numeric, worth, isSeparator] using numeric symbol (List.mem_cons_self ..)
          have answer : react profile (state.enter (.number value)) (.plain ⟨symbol, offset⟩) =
              (state.enter (.number value)).become (.number value) := by
            simp [react, readNumber, Fed.plain, worth, separates]
          rw [answer] at step
          rw [digitsOf_cons_none worth]
          exact step.trans (ih others)

/-- A number ends before a symbol that is neither counted nor a point, or with the source. -/
theorem number_ends {rest : List Char} {offset stop : Nat} (atEnd : rest = [] → stop = offset)
    (stops : ∀ symbol ∈ rest.head?, ¬Numeric profile value.base symbol ∧ symbol ≠ '.') :
    Leads profile (some stop)
      ⟨state.enter (.number value), (Located.ofText offset rest).map Fed.plain⟩
      (state.finishNumber value offset).reports
      ⟨(state.finishNumber value offset).state, (Located.ofText offset rest).map Fed.plain⟩ := by
  cases rest with
  | nil =>
      obtain rfl := atEnd rfl
      exact Leads.flush rfl
  | cons symbol others =>
      obtain ⟨other, undotted⟩ := stops symbol rfl
      have worthless : digitValue? symbol value.base = none := by
        rw [Option.eq_none_iff_forall_ne_some]
        exact fun digit worth => other (Or.inl (Option.isSome_of_eq_some worth))
      have separates : isSeparator profile symbol = false := by
        rw [Bool.eq_false_iff]
        exact fun separates => other (Or.inr (by simpa [isSeparator] using separates))
      have answer : react profile (state.enter (.number value)) (.plain ⟨symbol, offset⟩) =
          (state.finishNumber value offset).feed [.plain ⟨symbol, offset⟩] := by
        simp [react, readNumber, Fed.plain, worthless, separates, undotted,
          ScanState.finishNumber, ScanState.finish, ScanState.enter]
      have step := Leads.react profile (some stop) (state.enter (.number value))
        (.plain ⟨symbol, offset⟩) ((Located.ofText (symbolEnd symbol offset) others).map Fed.plain)
      rw [answer] at step
      exact step

/-! ## Beginnings of numbers -/

/-- Between tokens, no rule before that of digits applies to the symbol. -/
def Digital (profile : Profile ρ) (symbol : Char) : Prop :=
  profile.classes.classify symbol = { digit := true, hexDigit := true, identifier := true } ∧
    symbol ≠ '.'

theorem dispatch_digital (own : state.ownClasses = none) (digital : Digital profile fed.symbol) :
    dispatch profile state fed =
      match profile.numberPrefixes.advance Trie.root fed.symbol with
      | some node => (starting state fed).become (.numberPrefix node [fed.toLocated])
      | none =>
          ((digitValue? fed.symbol profile.options.defaultBase).map fun digit =>
            (starting state fed).become
              (.number ((Numeral.ofKind profile.defaultNumber).pushDigit digit))).getD
            ((starting state fed).reject fed.span) := by
  have traits : (starting state fed).classify profile fed.symbol =
      { digit := true, hexDigit := true, identifier := true } := by
    simp [ScanState.classify, starting, own, digital.1]
  unfold dispatch
  rw [← starting]
  cases edge : profile.numberPrefixes.advance Trie.root fed.symbol <;>
    simp [continuationRule, beginsContinuation, lineEndRule, blankRule, literalRule, dotRule,
      digitRule, identifierRule, bracketRule, operatorRule, escapeRule, strayRule, traits,
      digital.2, edge]

section Beginnings

variable {first : Located} {pending : List Located} {rest : List Fed} {node : NodeId} {kind : Kind}

/-- A digit that begins no prefix begins a number. -/
theorem digit_begins (idle : state.mode = .idle) (own : state.ownClasses = none)
    (digital : Digital profile first.symbol) {digit : Nat}
    (bare : profile.numberPrefixes.advance Trie.root first.symbol = none)
    (worth : digitValue? first.symbol profile.options.defaultBase = some digit) :
    Leads profile closing ⟨state, .plain first :: rest⟩ []
      ⟨(starting state (.plain first)).enter
        (.number ((Numeral.ofKind profile.defaultNumber).pushDigit digit)), rest⟩ := by
  have step := Leads.react profile closing state (.plain first) rest
  rw [react_idle idle, dispatch_digital own digital] at step
  simpa [Fed.plain, bare, worth, ScanState.become] using step

/-- The symbols of a prefix are kept. -/
theorem prefix_walks {others : List Located} (idle : state.mode = .idle)
    (own : state.ownClasses = none) (digital : Digital profile first.symbol)
    (found : profile.numberPrefixes.find? ((first :: others).map Located.symbol) = some node) :
    Leads profile closing ⟨state, (first :: others).map Fed.plain ++ rest⟩ []
      ⟨(starting state (.plain first)).enter (.numberPrefix node (first :: others)), rest⟩ := by
  induction others using List.reverseRec generalizing node rest with
  | nil =>
      have edge : profile.numberPrefixes.advance Trie.root first.symbol = some node := by
        simpa [Trie.find?, Trie.walkFrom_singleton] using found
      have step := Leads.react profile closing state (.plain first) rest
      rw [react_idle idle, dispatch_digital own digital] at step
      simpa [Fed.plain, edge, ScanState.become] using step
  | append_singleton front last ih =>
      obtain ⟨parent, found, edge⟩ : ∃ parent,
          profile.numberPrefixes.find? ((first :: front).map Located.symbol) = some parent ∧
            profile.numberPrefixes.advance parent last.symbol = some node := by
        rw [← List.cons_append, List.map_append, Trie.find?, Trie.walkFrom_append,
          List.map_singleton] at found
        simpa [Trie.walkFrom_singleton, Option.bind_eq_some_iff, Trie.find?] using found
      have step := Leads.react profile closing
        ((starting state (.plain first)).enter (.numberPrefix parent (first :: front)))
        (.plain last) rest
      have answer : react profile
          ((starting state (.plain first)).enter (.numberPrefix parent (first :: front)))
          (.plain last) =
            ((starting state (.plain first)).enter (.numberPrefix parent (first :: front))).become
              (.numberPrefix node (first :: front ++ [last])) := by
        simp [react, readNumberPrefix, Fed.plain, edge]
      rw [answer] at step
      simpa [ScanState.become, ScanState.enter] using (ih found).trans step

variable (nonempty : pending ≠ []) (known : profile.numberPrefixes.kind? node = some kind)

include nonempty known

/-- A digit or a separator may make a prefix of the symbols that were kept. -/
theorem prefix_opens {next : Located}
    (stuck : profile.numberPrefixes.advance node next.symbol = none)
    (opens : opensDigits profile kind next.symbol = true) :
    Leads profile closing ⟨state.enter (.numberPrefix node pending), .plain next :: rest⟩ []
      ⟨state.enter (.number (.ofKind kind)), .plain next :: rest⟩ := by
  obtain ⟨first, others, rfl⟩ := List.exists_cons_of_ne_nil nonempty
  have answer : react profile (state.enter (.numberPrefix node (first :: others)))
      (.plain next) = ((state.enter (.numberPrefix node (first :: others))).become
        (.number (.ofKind kind))).feed [.plain next] := by
    simp [react, readNumberPrefix, Fed.plain, stuck, resolvePrefix, Located.spanOf?_cons, known,
      opens, Option.filter]
  have step := Leads.react profile closing (state.enter (.numberPrefix node (first :: others)))
    (.plain next) rest
  rw [answer] at step
  exact step

/-- Otherwise they are the first digits of a number without a prefix. -/
theorem prefix_reopens {next : Located}
    (stuck : profile.numberPrefixes.advance node next.symbol = none)
    (other : opensDigits profile kind next.symbol = false)
    (digits : (pending.all fun located => isDefaultDigit profile located.symbol) = true)
    (goesOn : continuesDefault profile next.symbol = true) :
    Leads profile closing ⟨state.enter (.numberPrefix node pending), .plain next :: rest⟩ []
      ⟨state.enter (.number (defaultNumeral profile pending)), .plain next :: rest⟩ := by
  obtain ⟨first, others, rfl⟩ := List.exists_cons_of_ne_nil nonempty
  have answer : react profile (state.enter (.numberPrefix node (first :: others)))
      (.plain next) = ((state.enter (.numberPrefix node (first :: others))).become
        (.number (defaultNumeral profile (first :: others)))).feed [.plain next] := by
    simp only [react, ScanState.enter_mode, readNumberPrefix, Fed.plain, stuck, resolvePrefix,
      Located.spanOf?_cons, known]
    simp [digits, other, goesOn, Option.filter]
  have step := Leads.react profile closing (state.enter (.numberPrefix node (first :: others)))
    (.plain next) rest
  rw [answer] at step
  exact step

omit nonempty in
/-- At the end of the source they may be a number by themselves. -/
theorem prefix_ends {stop : Nat} (missing : kind.allowsMissingDigits = true) {span : Span}
    (spanEq : Located.spanOf? pending = some span) :
    Leads profile (some stop) ⟨state.enter (.numberPrefix node pending), []⟩
      (state.finishNumber (.ofKind kind) span.stop).reports
      ⟨(state.finishNumber (.ofKind kind) span.stop).state, []⟩ := by
  have flushed : flush? profile (state.enter (.numberPrefix node pending)) stop =
      some (state.finishNumber (.ofKind kind) span.stop) := by
    simp [flush?, resolvePrefix, spanEq, known, missing, Option.filter]
    rfl
  exact Leads.flush flushed

end Beginnings

/-! ## Numbers at the start of a source -/

/-- The token of a number that begins a source and ends at `stop`. -/
def leadingToken (value : Numeral) (stop : Nat) : Token :=
  { atLineStart := true, kind := value.finalKind, span := ⟨0, stop⟩, payload := value.payload stop }

theorem leadingToken_pushDigits (kind : Kind) (digits : List Nat) (stop : Nat) :
    leadingToken ((Numeral.ofKind kind).pushDigits digits) stop =
      { atLineStart := true, kind, span := ⟨0, stop⟩,
        payload := .integer
          { value := ((Numeral.ofKind kind).pushDigits digits).integer,
            overflow := ((Numeral.ofKind kind).pushDigits digits).integerOverflow,
            suffixStart := stop } } := by
  have same := Numeral.sameFraction_pushDigits (Numeral.ofKind kind) digits
  have integral : ((Numeral.ofKind kind).pushDigits digits).isFloat = false := same.isFloat
  have kept : ((Numeral.ofKind kind).pushDigits digits).kind = kind := same.kind
  simp [leadingToken, Numeral.finalKind, Numeral.payload, integral, kept]

omit [Literal.Reader ρ] in
theorem finishNumber_leading (number : value.kind.isNumber = true) (stop : Nat) :
    (({} : ScanState ρ).finishNumber value stop).reports = [.token (leadingToken value stop)] ∧
      (({} : ScanState ρ).finishNumber value stop).state = { lineStart := false } := by
  have final : value.finalKind.isNumber = true := by
    simp [Kind.isNumber, Numeral.category_finalKind number]
  have range := Kind.category_eq_number_iff.mp (Kind.category_of_isNumber final)
  have late : ({} : ScanState ρ).freshAfter value.finalKind = false :=
    freshAfter_eq_false ⟨range.1, range.2.trans_lt (by decide)⟩
  refine ⟨rfl, ?_⟩
  rw [ScanState.finishNumber, ScanState.finish, ScanState.emit,
    show ({} : ScanState ρ).enter .idle = {} from rfl, late]

section Sources

variable {front body rest : List Char} {first : Char} {others : List Char} {node : NodeId}
  {kind : Kind}

/-- A number that was begun is read to its end. -/
theorem number_reaches (number : value.kind.isNumber = true)
    (fits : byteLength (front ++ (body ++ rest)) ≤ maxOffset)
    (begun : Reaches profile (String.ofList (front ++ (body ++ rest))) []
      ⟨({} : ScanState ρ).enter (.number value),
        (Located.ofText (byteLength front) (body ++ rest)).map Fed.plain⟩)
    (numeric : ∀ symbol ∈ body, Numeric profile value.base symbol)
    (stops : ∀ symbol ∈ rest.head?, ¬Numeric profile value.base symbol ∧ symbol ≠ '.') :
    Reaches profile (String.ofList (front ++ (body ++ rest)))
      [.token (leadingToken (value.pushDigits (digitsOf value.base body))
        (byteLength (front ++ body)))]
      ⟨{ lineStart := false },
        (Located.ofText (byteLength (front ++ body)) rest).map Fed.plain⟩ := by
  have same := Numeral.sameFraction_pushDigits value (digitsOf value.base body)
  have atEnd : rest = [] → byteLength (String.ofList (front ++ (body ++ rest))).toList =
      byteLength (front ++ body) := by
    rintro rfl
    simp
  rw [byteLength_append] at fits
  rw [Located.ofText_append fits, ← byteLength_append, List.map_append] at begun
  have counted := begun.trans (number_leads numeric)
  rw [← same.base] at stops
  rw [← same.kind] at number
  have ended := counted.trans (number_ends atEnd stops)
  obtain ⟨reports, state⟩ := finishNumber_leading number (byteLength (front ++ body))
  rwa [reports, state] at ended

/-- A first digit that begins no prefix is counted. -/
theorem digit_reaches (digital : Digital profile first) {digit : Nat}
    (bare : profile.numberPrefixes.advance Trie.root first = none)
    (worth : digitValue? first profile.options.defaultBase = some digit)
    (fits : byteLength (first :: body) ≤ maxOffset) :
    Reaches profile (String.ofList ([first] ++ body)) []
      ⟨({} : ScanState ρ).enter (.number ((Numeral.ofKind profile.defaultNumber).pushDigit digit)),
        (Located.ofText (byteLength [first]) body).map Fed.plain⟩ := by
  rw [Reaches, opening, String.toList_ofList, Located.ofText_append (by simpa using fits),
    Nat.zero_add, List.map_append]
  exact digit_begins rfl rfl digital bare worth

section Words

variable {word : List Char} {next : Char}
  (digital : ∀ symbol ∈ word.head?, Digital profile symbol) (nonempty : word ≠ [])
  (found : profile.numberPrefixes.find? word = some node)
  (fits : byteLength (word ++ body) ≤ maxOffset)

include digital nonempty found fits

/-- The symbols of a prefix at the start of a source are kept. -/
theorem word_reaches :
    Reaches profile (String.ofList (word ++ body)) []
      ⟨({} : ScanState ρ).enter (.numberPrefix node (Located.ofText 0 word)),
        (Located.ofText (byteLength word) body).map Fed.plain⟩ := by
  obtain ⟨first, others, rfl⟩ := List.exists_cons_of_ne_nil nonempty
  rw [Reaches, opening, String.toList_ofList, Located.ofText_append (by simpa using fits),
    Nat.zero_add, List.map_append]
  refine prefix_walks rfl rfl (digital first rfl) ?_
  rwa [List.map_cons, Located.map_symbol_ofText]

variable (known : profile.numberPrefixes.kind? node = some kind)

include known

theorem opened_reaches (begins : body.head? = some next)
    (stuck : profile.numberPrefixes.advance node next = none)
    (opens : opensDigits profile kind next = true) :
    Reaches profile (String.ofList (word ++ body)) []
      ⟨({} : ScanState ρ).enter (.number (.ofKind kind)),
        (Located.ofText (byteLength word) body).map Fed.plain⟩ := by
  obtain ⟨others, rfl⟩ := List.head?_eq_some_iff.mp begins
  have kept : Located.ofText 0 word ≠ [] := by
    rwa [Ne, ← List.length_eq_zero_iff, Located.length_ofText, List.length_eq_zero_iff]
  exact (word_reaches digital nonempty found fits).trans (prefix_opens kept known stuck opens)

theorem reopened_reaches (begins : body.head? = some next)
    (stuck : profile.numberPrefixes.advance node next = none)
    (other : opensDigits profile kind next = false)
    (digits : word.all (isDefaultDigit profile) = true)
    (goesOn : continuesDefault profile next = true) :
    Reaches profile (String.ofList (word ++ body)) []
      ⟨({} : ScanState ρ).enter (.number ((Numeral.ofKind profile.defaultNumber).pushDigits
          (digitsOf profile.options.defaultBase word))),
        (Located.ofText (byteLength word) body).map Fed.plain⟩ := by
  obtain ⟨others, rfl⟩ := List.head?_eq_some_iff.mp begins
  have kept : Located.ofText 0 word ≠ [] := by
    rwa [Ne, ← List.length_eq_zero_iff, Located.length_ofText, List.length_eq_zero_iff]
  have counted := defaultNumeral_eq_pushDigits profile (Located.ofText 0 word)
  have all : ((Located.ofText 0 word).all fun located => isDefaultDigit profile located.symbol) =
      true := by
    rw [← Located.map_symbol_ofText 0 word, List.all_map] at digits
    exact digits
  rw [Located.map_symbol_ofText] at counted
  rw [← counted]
  exact (word_reaches digital nonempty found fits).trans
    (prefix_reopens kept known stuck other all goesOn)

end Words

end Sources

end Scan

end Lexing
