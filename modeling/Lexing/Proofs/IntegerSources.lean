import Lexing.Proofs.IntegerScans

/-!
# Integers in C-like sources

The first token of a text of digits and separators is a number, and the first symbols of the
text decide its base.  Separators between digits do not change an integer, with one exception:
behind a leading zero a separator makes the number octal, so that a digit that is not octal ends
it.
-/

namespace Lexing

namespace Scan

variable {ρ : Type} [Literal.Reader ρ] {profile : Profile ρ} {source : String}
  {past : List Report} {config : Config ρ} {state : ScanState ρ}

/-! ## Events -/

/-- What was reported when a scan got somewhere begins the events. -/
theorem Reaches.events (reaches : Reaches profile source past config)
    (fits : byteLength source.toList ≤ maxOffset)
    (bounded : Bounded profile (Located.ofText 0 source.toList) (byteLength source.toList)) :
    ∃ later, Foresees profile source config later ∧
      Scan.events profile source = (past ++ later).map Report.event := by
  obtain ⟨reports, foresees, recorded, _⟩ := transcribed fits bounded
  obtain ⟨later, rfl, ahead⟩ := foresees.after reaches
  exact ⟨later, ahead, recorded⟩

/-- At the end of a source the token at the end is the last event. -/
theorem Reaches.events_of_idle (reaches : Reaches profile source past ⟨state, []⟩)
    (idle : state.mode = .idle) (fits : byteLength source.toList ≤ maxOffset)
    (bounded : Bounded profile (Located.ofText 0 source.toList) (byteLength source.toList)) :
    Scan.events profile source =
      past.map Report.event ++ [.token (finToken state (byteLength source.toList))] := by
  obtain ⟨later, foresees, recorded⟩ := reaches.events fits bounded
  have done : Config.Done profile (some (byteLength source.toList)) ⟨state, []⟩ := by
    simp [Config.Done, nextReaction?, flush?, idle]
  obtain rfl := foresees.unique ⟨0, .done 0 done⟩
  rw [recorded, List.map_append]
  rfl

end Scan

namespace CLike

open Scan

/-- The prefixes of numbers, with their bases and kinds. -/
def notations : List (List Char × Nat × Kind) :=
  [(['0', 'x'], 16, hex), (['0', 'X'], 16, hexUpper), (['0', 'b'], 2, binary),
    (['0', 'B'], 2, binaryUpper), (['0'], 8, octal)]

instance (symbol : Char) : Decidable (Digital profile symbol) :=
  inferInstanceAs (Decidable (_ ∧ _))

theorem options_table : profile.options.separator? = some '\'' ∧
    profile.options.defaultBase = 10 ∧ profile.defaultNumber = .numberDecimal := by
  decide +kernel

theorem digits_table :
    ∀ code < 128, (Char.ofNat code).isDigit = true →
      Digital profile (Char.ofNat code) ∧ (digitValue? (Char.ofNat code) 10).isSome = true ∧
        profile.numberPrefixes.find? ['0', Char.ofNat code] = none ∧
        (Char.ofNat code ≠ '0' →
          profile.numberPrefixes.advance Trie.root (Char.ofNat code) = none) ∧
        (¬(Char.ofNat code = '8' ∨ Char.ofNat code = '9') →
          (digitValue? (Char.ofNat code) 8).isSome = true) := by
  decide +kernel

theorem notations_table :
    ∀ entry ∈ notations,
      (profile.numberPrefixes.find? entry.1).bind profile.numberPrefixes.kind? =
        some entry.2.2 ∧
      entry.2.2.numberBase? = some entry.2.1 ∧ entry.1.head? = some '0' ∧
      ∀ code < 128,
        (digitValue? (Char.ofNat code) entry.2.1).isSome = true ∨ Char.ofNat code = '\'' →
          profile.numberPrefixes.find? (entry.1 ++ [Char.ofNat code]) = none := by
  decide +kernel

theorem separator : profile.options.separator? = some '\'' :=
  options_table.1

/-- What the tables say about a digit of base ten. -/
structure Decimal (symbol : Char) : Prop where
  digital : Digital profile symbol
  counts : (digitValue? symbol 10).isSome = true
  unprefixed : profile.numberPrefixes.find? ['0', symbol] = none
  bare : symbol ≠ '0' → profile.numberPrefixes.advance Trie.root symbol = none
  octal : ¬(symbol = '8' ∨ symbol = '9') → (digitValue? symbol 8).isSome = true

theorem decimal_of_isDigit {symbol : Char} (digit : symbol.isDigit = true) : Decimal symbol := by
  have range : '0'.val ≤ symbol.val ∧ symbol.val ≤ '9'.val := by simpa [Char.isDigit] using digit
  have bound : symbol.toNat ≤ '9'.toNat := UInt32.le_iff_toNat_le.mp range.2
  have known := digits_table symbol.toNat (bound.trans_lt (by decide))
  rw [Char.ofNat_toNat] at known
  obtain ⟨digital, counts, unprefixed, bare, octal⟩ := known digit
  exact ⟨digital, counts, unprefixed, bare, octal⟩

/-- What the tables say about a prefix. -/
structure Prefixes (word : List Char) (base : Nat) (kind : Kind) (node : NodeId) : Prop where
  found : profile.numberPrefixes.find? word = some node
  known : profile.numberPrefixes.kind? node = some kind
  counts : kind.numberBase? = some base
  begins : word.head? = some '0'
  stuck : ∀ symbol, Numeric profile base symbol → profile.numberPrefixes.advance node symbol = none

theorem Prefixes.nonempty {word : List Char} {base : Nat} {kind : Kind} {node : NodeId}
    (prefixes : Prefixes word base kind node) : word ≠ [] := by
  rintro rfl
  exact absurd prefixes.begins (by simp)

theorem Prefixes.digital {word : List Char} {base : Nat} {kind : Kind} {node : NodeId}
    (prefixes : Prefixes word base kind node) : ∀ symbol ∈ word.head?, Digital profile symbol := by
  intro symbol first
  obtain rfl : '0' = symbol := by simpa [prefixes.begins] using first
  exact (decimal_of_isDigit rfl).digital

theorem exists_prefixes {entry : List Char × Nat × Kind} (member : entry ∈ notations) :
    ∃ node, Prefixes entry.1 entry.2.1 entry.2.2 node := by
  obtain ⟨registered, base, begins, stuck⟩ := notations_table entry member
  obtain ⟨node, found, known⟩ := Option.bind_eq_some_iff.mp registered
  refine ⟨node, found, known, base, begins, fun symbol numeric => ?_⟩
  have kinds : (digitValue? symbol entry.2.1).isSome = true ∨ symbol = '\'' :=
    numeric.imp_right fun separates => by simpa [separator, eq_comm] using separates
  have ascii : symbol.toNat < 128 := by
    rcases kinds with digit | rfl
    · exact toNat_lt_of_digitValue? digit
    · decide
  have unknown := stuck symbol.toNat ascii (by rwa [Char.ofNat_toNat])
  rwa [Char.ofNat_toNat, Trie.find?, Trie.walkFrom_append, ← Trie.find?, found, Option.bind_some,
    Trie.walkFrom_singleton] at unknown

theorem base_eq {kind : Kind} {base : Nat} (counts : kind.numberBase? = some base) :
    (Numeral.ofKind kind).base = base := by
  simp [Numeral.ofKind, counts]

theorem isNumber_of_numberBase? {kind : Kind} {base : Nat} (counts : kind.numberBase? = some base) :
    kind.isNumber = true := by
  unfold Kind.numberBase? at counts
  split at counts
  · assumption
  · contradiction

section Prefixed

variable {word body rest : List Char} {base : Nat} {kind : Kind} {node : NodeId}

/-- A number behind a prefix.  A separator right behind the prefix is one of its symbols only if
the prefix is a number by itself. -/
theorem Prefixes.reaches (prefixes : Prefixes word base kind node) {next : Char}
    (begins : body.head? = some next) (opens : opensDigits profile kind next = true)
    (fits : byteLength (word ++ (body ++ rest)) ≤ maxOffset)
    (numeric : ∀ symbol ∈ body, Numeric profile base symbol)
    (stops : ∀ symbol ∈ rest.head?, ¬Numeric profile base symbol ∧ symbol ≠ '.') :
    Reaches profile (String.ofList (word ++ (body ++ rest)))
      [.token (leadingToken ((Numeral.ofKind kind).pushDigits (digitsOf base body))
        (byteLength (word ++ body)))]
      ⟨{ lineStart := false },
        (Located.ofText (byteLength (word ++ body)) rest).map Fed.plain⟩ := by
  obtain rfl := base_eq prefixes.counts
  refine number_reaches (isNumber_of_numberBase? prefixes.counts) fits ?_ numeric stops
  obtain ⟨others, rfl⟩ := List.head?_eq_some_iff.mp begins
  exact opened_reaches prefixes.digital prefixes.nonempty prefixes.found fits prefixes.known rfl
    (prefixes.stuck next (numeric next (List.mem_cons_self ..))) opens

end Prefixed

/-! ## Texts of digits and separators -/

def octalSymbol (symbol : Char) : Bool :=
  (digitValue? symbol 8).isSome || symbol = '\''

/-- The kind and the text of the number that begins a text of digits and separators. -/
def leadingNumber : List Char → Kind × List Char
  | '0' :: rest =>
      if rest.head? = some '8' ∨ rest.head? = some '9' then (.numberDecimal, '0' :: rest)
      else (octal, '0' :: rest.takeWhile octalSymbol)
  | text => (.numberDecimal, text)

theorem leadingNumber_of_ne {first : Char} (nonzero : first ≠ '0') (others : List Char) :
    leadingNumber (first :: others) = (.numberDecimal, first :: others) := by
  unfold leadingNumber
  split
  next begins => exact absurd (List.cons.inj begins).1 nonzero
  next => rfl

theorem leadingNumber_of_head?_ne {text : List Char} (nonzero : text.head? ≠ some '0') :
    leadingNumber text = (.numberDecimal, text) := by
  cases text with
  | nil => rfl
  | cons first others => exact leadingNumber_of_ne (by simpa using nonzero) others

def numeralOf (kind : Kind) (text : List Char) : Numeral :=
  (Numeral.ofKind kind).pushDigits (digitsOf (Numeral.ofKind kind).base text)

/-- A digit, and behind it digits and separators. -/
structure DigitText (text : List Char) : Prop where
  nonempty : text ≠ []
  begins : text.head? ≠ some '\''
  digits : ∀ symbol ∈ text, symbol.isDigit = true ∨ symbol = '\''

theorem octalSymbol_iff {symbol : Char} :
    octalSymbol symbol = true ↔ Numeric profile 8 symbol := by
  rw [octalSymbol, Bool.or_eq_true, decide_eq_true_iff, Numeric, separator, Option.some_inj]
  exact or_congr_right eq_comm

theorem numeric_of_isDigit {symbol : Char} (digit : symbol.isDigit = true) :
    Numeric profile 10 symbol :=
  Or.inl (decimal_of_isDigit digit).counts

theorem DigitText.numeric {text : List Char} (digitText : DigitText text) :
    ∀ symbol ∈ text, Numeric profile 10 symbol := by
  intro symbol member
  rcases digitText.digits symbol member with digit | rfl
  · exact numeric_of_isDigit digit
  · exact Or.inr separator

theorem digitValue?_zero : digitValue? '0' 8 = some 0 := by
  decide

theorem exists_octal_prefixes : ∃ node, Prefixes ['0'] 8 octal node :=
  exists_prefixes (show (['0'], 8, octal) ∈ notations by decide)

theorem octal_base : (Numeral.ofKind octal).base = 8 := by
  obtain ⟨_, prefixes⟩ := exists_octal_prefixes
  exact base_eq prefixes.counts

/-- The zero of an octal number does not count. -/
theorem numeralOf_octal (text : List Char) : numeralOf octal ('0' :: text) =
    (Numeral.ofKind octal).pushDigits (digitsOf 8 text) := by
  rw [numeralOf, octal_base, digitsOf_cons digitValue?_zero]
  rfl

section Leading

variable {first next : Char} {others : List Char}

/-- A decimal number that was begun with some digits takes the others. -/
theorem decimal_ends {front body : List Char}
    (begun : Reaches profile (String.ofList (front ++ body)) []
      ⟨({} : ScanState Literal.Stock).enter
          (.number ((Numeral.ofKind .numberDecimal).pushDigits (digitsOf 10 front))),
        (Located.ofText (byteLength front) body).map Fed.plain⟩)
    (numeric : ∀ symbol ∈ body, Numeric profile 10 symbol)
    (fits : byteLength (front ++ body) ≤ maxOffset) :
    Reaches profile (String.ofList (front ++ body))
      [.token (leadingToken (numeralOf .numberDecimal (front ++ body))
        (byteLength (front ++ body)))]
      ⟨{ lineStart := false }, []⟩ := by
  have same := Numeral.sameFraction_pushDigits (Numeral.ofKind .numberDecimal) (digitsOf 10 front)
  have ten : (Numeral.ofKind .numberDecimal).base = 10 := rfl
  have number : (Numeral.ofKind .numberDecimal).kind.isNumber = true := rfl
  rw [← same.base] at ten
  rw [← same.kind] at number
  rw [← List.append_nil body] at begun fits
  have ended := number_reaches number fits begun (by rwa [ten]) (by simp)
  rw [ten, ← Numeral.pushDigits_append, ← digitsOf_append, List.append_nil] at ended
  exact ended

/-- A number without a leading zero is decimal. -/
theorem decimal_reaches (digit : first.isDigit = true) (nonzero : first ≠ '0')
    (numeric : ∀ symbol ∈ others, Numeric profile 10 symbol)
    (fits : byteLength (first :: others) ≤ maxOffset) :
    Reaches profile (String.ofList (first :: others))
      [.token (leadingToken (numeralOf .numberDecimal (first :: others))
        (byteLength (first :: others)))]
      ⟨{ lineStart := false }, []⟩ := by
  have decimal := decimal_of_isDigit digit
  obtain ⟨worth, value⟩ := Option.isSome_iff_exists.mp decimal.counts
  obtain ⟨_, defaultBase, defaultNumber⟩ := options_table
  have counted : digitValue? first profile.options.defaultBase = some worth := by
    rw [defaultBase]
    exact value
  have begun := digit_reaches decimal.digital (decimal.bare nonzero) counted fits
  have only : digitsOf 10 [first] = [worth] := digitsOf_cons value
  rw [defaultNumber, ← Numeral.pushDigits_singleton, ← only] at begun
  rw [← List.singleton_append] at fits ⊢
  exact decimal_ends begun numeric fits

/-- Behind a leading zero, digits of base eight and separators make an octal number. -/
theorem octal_reaches (begins : octalSymbol next = true) (undotted : '.' ∉ next :: others)
    (fits : byteLength ('0' :: next :: others) ≤ maxOffset) :
    Reaches profile (String.ofList ('0' :: next :: others))
      [.token (leadingToken (numeralOf octal ('0' :: (next :: others).takeWhile octalSymbol))
        (byteLength ('0' :: (next :: others).takeWhile octalSymbol)))]
      ⟨{ lineStart := false },
        (Located.ofText (byteLength ('0' :: (next :: others).takeWhile octalSymbol))
          ((next :: others).dropWhile octalSymbol)).map Fed.plain⟩ := by
  obtain ⟨node, prefixes⟩ := exists_octal_prefixes
  have cut := List.takeWhile_append_dropWhile (p := octalSymbol) (l := next :: others)
  have first : ((next :: others).takeWhile octalSymbol).head? = some next := by
    rw [List.takeWhile_cons_of_pos begins]
    rfl
  have opens : opensDigits profile octal next = true := by
    rcases octalSymbol_iff.mp begins with digit | separates
    · simp [opensDigits_of_base prefixes.counts, digit]
    · have missing : octal.allowsMissingDigits = true := by decide
      simp [opensDigits_of_base prefixes.counts, isSeparator, separates, missing]
  have numeric : ∀ symbol ∈ (next :: others).takeWhile octalSymbol, Numeric profile 8 symbol :=
    fun symbol member => octalSymbol_iff.mp (List.all_eq_true.mp List.all_takeWhile symbol member)
  have stops : ∀ symbol ∈ ((next :: others).dropWhile octalSymbol).head?,
      ¬Numeric profile 8 symbol ∧ symbol ≠ '.' := by
    intro symbol head
    have other := List.head?_dropWhile_not octalSymbol (next :: others)
    rw [head] at other
    refine ⟨fun counted => by simp [octalSymbol_iff.mpr counted] at other, ?_⟩
    rintro rfl
    exact undotted ((List.dropWhile_sublist _).subset (List.mem_of_mem_head? head))
  have reaches := prefixes.reaches first opens (by rw [cut]; exact fits) numeric stops
  rw [cut] at reaches
  rw [numeralOf_octal]
  exact reaches

/-- A digit that is not octal makes the zero before it a decimal digit. -/
theorem nonoctal_reaches (begins : next = '8' ∨ next = '9')
    (numeric : ∀ symbol ∈ others, Numeric profile 10 symbol)
    (fits : byteLength ('0' :: next :: others) ≤ maxOffset) :
    Reaches profile (String.ofList ('0' :: next :: others))
      [.token (leadingToken (numeralOf .numberDecimal ('0' :: next :: others))
        (byteLength ('0' :: next :: others)))]
      ⟨{ lineStart := false }, []⟩ := by
  obtain ⟨node, prefixes⟩ := exists_octal_prefixes
  have digit : next.isDigit = true := by
    rcases begins with rfl | rfl <;> rfl
  obtain ⟨_, defaultBase, defaultNumber⟩ := options_table
  have stuck : profile.numberPrefixes.advance node next = none := by
    have unknown := (decimal_of_isDigit digit).unprefixed
    rwa [show ['0', next] = ['0'] ++ [next] from rfl, Trie.find?, Trie.walkFrom_append,
      ← Trie.find?, prefixes.found, Option.bind_some, Trie.walkFrom_singleton] at unknown
  have other : opensDigits profile octal next = false := by
    have worthless : digitValue? next 8 = none := by
      rcases begins with rfl | rfl <;> decide
    have plain : isSeparator profile next = false := by
      rcases begins with rfl | rfl <;> simp [isSeparator, separator]
    simp [opensDigits_of_base prefixes.counts, worthless, plain]
  have default : ∀ symbol : Char, symbol.isDigit = true →
      isDefaultDigit profile symbol = true := by
    intro symbol digit
    rw [isDefaultDigit, defaultBase]
    exact (decimal_of_isDigit digit).counts
  have begun :=
    reopened_reaches prefixes.digital prefixes.nonempty prefixes.found fits prefixes.known
    rfl stuck other (by simp [default '0' rfl])
    (by simp [continuesDefault, default next digit])
  rw [defaultNumber, defaultBase] at begun
  have numerals := List.forall_mem_cons.mpr ⟨numeric_of_isDigit digit, numeric⟩
  rw [← List.singleton_append] at fits ⊢
  exact decimal_ends begun numerals fits

/-- A zero by itself is octal. -/
theorem zero_reaches :
    Reaches profile (String.ofList ['0'])
      [.token (leadingToken (numeralOf octal ['0']) (byteLength ['0']))]
      ⟨{ lineStart := false }, []⟩ := by
  obtain ⟨node, prefixes⟩ := exists_octal_prefixes
  have fits : byteLength (['0'] ++ []) ≤ maxOffset := by decide
  have kept := word_reaches prefixes.digital prefixes.nonempty prefixes.found fits
  have ended := kept.trans
    (prefix_ends prefixes.known (by decide) (Located.spanOf?_ofText 0 (by simp) fits))
  have number : (Numeral.ofKind octal).kind.isNumber = true :=
    isNumber_of_numberBase? prefixes.counts
  obtain ⟨reports, state⟩ := finishNumber_leading number (byteLength ['0'])
  rw [List.append_nil, Nat.zero_add, reports, state] at ended
  rw [numeralOf_octal]
  exact ended

end Leading

/-- The scan of a text is behind its first token, a number of this kind with these symbols. -/
def ReachesNumber (text : List Char) (number : Kind × List Char) : Prop :=
  ∃ rest, text = number.2 ++ rest ∧
    Reaches profile (String.ofList text)
      [.token (leadingToken (numeralOf number.1 number.2) (byteLength number.2))]
      ⟨{ lineStart := false }, (Located.ofText (byteLength number.2) rest).map Fed.plain⟩

/-- Behind a leading zero, the next symbol decides. -/
theorem DigitText.reaches_zero {others : List Char} (digitText : DigitText ('0' :: others))
    (fits : byteLength ('0' :: others) ≤ maxOffset) :
    ReachesNumber ('0' :: others) (leadingNumber ('0' :: others)) := by
  cases others with
  | nil => exact ⟨[], rfl, zero_reaches⟩
  | cons next others =>
      by_cases nonoctal : next = '8' ∨ next = '9'
      · have reads : leadingNumber ('0' :: next :: others) =
            (.numberDecimal, '0' :: next :: others) := by
          rcases nonoctal with rfl | rfl <;> rfl
        have numeric : ∀ symbol ∈ others, Numeric profile 10 symbol := fun symbol member =>
          digitText.numeric symbol (List.mem_cons_of_mem _ (List.mem_cons_of_mem _ member))
        rw [reads]
        exact ⟨[], by simp, nonoctal_reaches nonoctal numeric fits⟩
      · have reads : leadingNumber ('0' :: next :: others) =
            (octal, '0' :: (next :: others).takeWhile octalSymbol) := by
          simp [leadingNumber, nonoctal]
        have begins : octalSymbol next = true := by
          rcases digitText.digits next (by simp) with digit | rfl
          · exact octalSymbol_iff.mpr (Or.inl ((decimal_of_isDigit digit).octal nonoctal))
          · rfl
        have undotted : '.' ∉ next :: others := fun member =>
          absurd (digitText.digits '.' (List.mem_cons_of_mem _ member)) (by decide)
        rw [reads]
        exact ⟨(next :: others).dropWhile octalSymbol, by simp,
          octal_reaches begins undotted fits⟩

/-- The first token of a text of digits and separators is its leading number. -/
theorem DigitText.reaches {text : List Char} (digitText : DigitText text)
    (fits : byteLength text ≤ maxOffset) : ReachesNumber text (leadingNumber text) := by
  obtain ⟨first, others, rfl⟩ := List.exists_cons_of_ne_nil digitText.nonempty
  by_cases zero : first = '0'
  · subst zero
    exact digitText.reaches_zero fits
  · have digit : first.isDigit = true := by
      refine (digitText.digits first (List.mem_cons_self ..)).resolve_right ?_
      rintro rfl
      exact digitText.begins rfl
    have numeric : ∀ symbol ∈ others, Numeric profile 10 symbol := fun symbol member =>
      digitText.numeric symbol (List.mem_cons_of_mem _ member)
    rw [leadingNumber_of_ne zero]
    exact ⟨[], by simp, decimal_reaches digit zero numeric fits⟩

/-! ## Separators -/

def ungrouped (text : List Char) : List Char :=
  text.filter (· ≠ '\'')

theorem ungrouped_cons {symbol : Char} (plain : symbol ≠ '\'') (text : List Char) :
    ungrouped (symbol :: text) = symbol :: ungrouped text :=
  List.filter_cons_of_pos (by simpa using plain)

theorem ungrouped_separator (text : List Char) : ungrouped ('\'' :: text) = ungrouped text :=
  List.filter_cons_of_neg (by simp)

theorem digitsOf_ungrouped (base : Nat) (text : List Char) :
    digitsOf base (ungrouped text) = digitsOf base text := by
  have worthless : digitValue? '\'' base = none := by
    simp [digitValue?, show digitWorth? '\'' = none by decide]
  rw [ungrouped, digitsOf, List.filterMap_filter, digitsOf]
  congr 1
  funext symbol
  by_cases separates : symbol = '\''
  · simp [separates, worthless]
  · simp [separates]

theorem numeralOf_ungrouped (kind : Kind) (text : List Char) :
    numeralOf kind (ungrouped text) = numeralOf kind text := by
  rw [numeralOf, digitsOf_ungrouped, numeralOf]

theorem ungrouped_takeWhile (text : List Char) :
    ungrouped (text.takeWhile octalSymbol) = (ungrouped text).takeWhile octalSymbol := by
  induction text with
  | nil => rfl
  | cons symbol rest ih =>
      by_cases separates : symbol = '\''
      · subst separates
        rw [List.takeWhile_cons_of_pos rfl, ungrouped_separator, ungrouped_separator, ih]
      · by_cases counted : octalSymbol symbol = true
        · rw [List.takeWhile_cons_of_pos counted, ungrouped_cons separates,
            ungrouped_cons separates, ih, List.takeWhile_cons_of_pos counted]
        · rw [List.takeWhile_cons_of_neg counted, ungrouped_cons separates,
            List.takeWhile_cons_of_neg counted]
          rfl

/-- The separator behind a leading zero makes the number octal, but the next digit is not. -/
def Misleading (grouped : List Char) : Prop :=
  ∃ rest, grouped = '0' :: '\'' :: rest ∧
    ((ungrouped rest).head? = some '8' ∨ (ungrouped rest).head? = some '9')

/-- Otherwise separators change neither the kind of a number nor its digits. -/
theorem leadingNumber_ungrouped {grouped : List Char} (begins : grouped.head? ≠ some '\'')
    (honest : ¬Misleading grouped) :
    leadingNumber (ungrouped grouped) =
      ((leadingNumber grouped).1, ungrouped (leadingNumber grouped).2) := by
  cases grouped with
  | nil => rfl
  | cons first rest =>
      have plain : first ≠ '\'' := by
        rintro rfl
        exact begins rfl
      by_cases zero : first = '0'
      · subst zero
        have same : (rest.head? = some '8' ∨ rest.head? = some '9') ↔
            ((ungrouped rest).head? = some '8' ∨ (ungrouped rest).head? = some '9') := by
          cases rest with
          | nil => rfl
          | cons next rest =>
              by_cases separates : next = '\''
              · subst separates
                have shown : ¬((ungrouped rest).head? = some '8' ∨
                    (ungrouped rest).head? = some '9') := fun hidden => honest ⟨rest, rfl, hidden⟩
                rw [ungrouped_separator]
                simpa using shown
              · rw [ungrouped_cons separates, List.head?_cons, List.head?_cons]
        rw [ungrouped_cons plain, leadingNumber, leadingNumber]
        by_cases nonoctal : rest.head? = some '8' ∨ rest.head? = some '9'
        · rw [if_pos (same.mp nonoctal), if_pos nonoctal, ungrouped_cons plain]
        · rw [if_neg (fun hidden => nonoctal (same.mpr hidden)), if_neg nonoctal,
            ungrouped_cons plain, ungrouped_takeWhile]
      · rw [ungrouped_cons plain, leadingNumber_of_ne zero, leadingNumber_of_ne zero,
          ungrouped_cons plain]

/-- Only a zero and separators are left of the number. -/
theorem leadingNumber_of_misleading {grouped : List Char} (misleading : Misleading grouped) :
    leadingNumber (ungrouped grouped) = (.numberDecimal, ungrouped grouped) ∧
      (leadingNumber grouped).1 = octal ∧ ungrouped (leadingNumber grouped).2 = ['0'] := by
  obtain ⟨rest, rfl, hidden⟩ := misleading
  have stopped : (ungrouped rest).takeWhile octalSymbol = [] := by
    rcases hidden with eight | nine
    · obtain ⟨others, same⟩ := List.head?_eq_some_iff.mp eight
      rw [same]
      rfl
    · obtain ⟨others, same⟩ := List.head?_eq_some_iff.mp nine
      rw [same]
      rfl
  have reads : leadingNumber ('0' :: '\'' :: rest) =
      (octal, '0' :: ('\'' :: rest).takeWhile octalSymbol) := by
    simp [leadingNumber]
  refine ⟨?_, by rw [reads], ?_⟩
  · rw [ungrouped_cons (by decide), ungrouped_separator, leadingNumber, if_pos hidden]
  · rw [reads, ungrouped_cons (by decide), ungrouped_takeWhile, ungrouped_separator, stopped]

/-! ## The first token -/

/-- The first token of a source is an integer, with the given symbols beside separators. -/
structure BeginsWith (source : List Char) (kind : Kind) (value : Nat) (overflow : Bool)
    (symbols : List Char) : Prop where
  delivers : Delivers profile (String.ofList source)
  first : ∃ token, (tokens profile (String.ofList source)).head? = some token ∧
    token.kind = kind ∧ token.payload = .integer ⟨value, overflow, token.span.stop⟩ ∧
    ungrouped (token.text (String.ofList source)).toList = symbols

/-- The first token of a text of digits and separators is its leading number. -/
theorem DigitText.beginsWith {text : List Char} (digitText : DigitText text)
    (fits : byteLength text ≤ maxOffset) :
    BeginsWith text (leadingNumber text).1
      (numeralOf (leadingNumber text).1 (leadingNumber text).2).integer
      (numeralOf (leadingNumber text).1 (leadingNumber text).2).integerOverflow
      (ungrouped (leadingNumber text).2) := by
  obtain ⟨rest, cut, reaches⟩ := digitText.reaches fits
  have short : byteLength (String.ofList text).toList ≤ maxOffset := by simpa using fits
  obtain ⟨later, _, recorded⟩ := reaches.events short (CLike.ends _ short)
  rw [numeralOf, leadingToken_pushDigits, ← numeralOf] at recorded
  refine ⟨delivers_of_ends CLike.ends _, ?_⟩
  generalize leadingNumber text = number at cut recorded ⊢
  refine ⟨_, by rw [tokens, recorded]; rfl, rfl, rfl, ?_⟩
  have shown := slice?_append [] number.2 rest
  rw [List.nil_append, ← cut, byteLength, Nat.zero_add] at shown
  rw [Token.text, String.toList_ofList, String.toList_ofList]
  dsimp only
  rw [shown, Option.getD_some]

theorem byteLength_ungrouped_le (text : List Char) :
    byteLength (ungrouped text) ≤ byteLength text := by
  induction text with
  | nil => exact Nat.le_refl _
  | cons symbol rest ih =>
      by_cases separates : symbol = '\''
      · subst separates
        rw [ungrouped_separator, byteLength]
        omega
      · rw [ungrouped_cons separates, byteLength, byteLength]
        omega

theorem ungrouped_of_digits {text : List Char} (digits : text.all Char.isDigit = true) :
    ungrouped text = text := by
  refine List.filter_eq_self.mpr fun symbol member => ?_
  rw [decide_eq_true_iff]
  rintro rfl
  exact absurd (List.all_eq_true.mp digits _ member) (by decide)

/-- Digits stay digits when they are grouped. -/
theorem DigitText.of_ungrouped {grouped : List Char} (nonempty : ungrouped grouped ≠ [])
    (digits : (ungrouped grouped).all Char.isDigit = true)
    (begins : grouped.head? ≠ some '\'') : DigitText grouped := by
  refine ⟨fun empty => nonempty (by rw [empty]; rfl), begins, fun symbol member => ?_⟩
  by_cases separates : symbol = '\''
  · exact Or.inr separates
  · refine Or.inl (List.all_eq_true.mp digits symbol ?_)
    exact List.mem_filter.mpr ⟨member, by simpa using separates⟩

theorem DigitText.of_digits {text : List Char} (nonempty : text ≠ [])
    (digits : text.all Char.isDigit = true) : DigitText text := by
  have shown := ungrouped_of_digits digits
  refine .of_ungrouped (by rwa [shown]) (by rwa [shown]) fun first => ?_
  exact absurd (List.all_eq_true.mp digits _ (List.mem_of_mem_head? first)) (by decide)

/-- A number and the same number with separators between its digits give the same integer,
unless a separator parts a leading zero from a digit that is not octal: then the number with
separators is an octal zero. -/
theorem separators_neutral {plain grouped : List Char} (nonempty : plain ≠ [])
    (digits : plain.all Char.isDigit = true) (groups : ungrouped grouped = plain)
    (begins : grouped.head? ≠ some '\'') (fits : byteLength grouped ≤ maxOffset) :
    ∃ kind value overflow symbols, BeginsWith plain kind value overflow symbols ∧
      (¬Misleading grouped → BeginsWith grouped kind value overflow symbols) ∧
      (Misleading grouped → kind = .numberDecimal ∧ symbols = plain ∧
        BeginsWith grouped octal 0 false ['0']) := by
  subst groups
  have short := (byteLength_ungrouped_le grouped).trans fits
  have first := (DigitText.of_digits nonempty digits).beginsWith short
  have second := (DigitText.of_ungrouped nonempty digits begins).beginsWith fits
  refine ⟨_, _, _, _, first, fun honest => ?_, fun misleading => ?_⟩
  · rw [leadingNumber_ungrouped begins honest, numeralOf_ungrouped]
    have shown : ungrouped (ungrouped (leadingNumber grouped).2) =
        ungrouped (leadingNumber grouped).2 := by simp [ungrouped]
    rwa [shown]
  · obtain ⟨same, kind, zero⟩ := leadingNumber_of_misleading misleading
    rw [kind, zero, ← numeralOf_ungrouped, zero] at second
    rw [same]
    exact ⟨rfl, ungrouped_of_digits digits, second⟩

/-- A separator that is the second symbol can matter, and all others do not. -/
theorem separators_neutral_or_misleading :
    (¬Misleading ['0', '1', '\'', '8'] ∧ ∃ kind value overflow symbols,
      BeginsWith ['0', '1', '8'] kind value overflow symbols ∧
        BeginsWith ['0', '1', '\'', '8'] kind value overflow symbols) ∧
    Misleading ['0', '\'', '8'] ∧ ∃ value overflow,
      BeginsWith ['0', '8'] .numberDecimal value overflow ['0', '8'] ∧
        BeginsWith ['0', '\'', '8'] octal 0 false ['0'] := by
  have honest : ¬Misleading ['0', '1', '\'', '8'] := by
    rintro ⟨rest, same, _⟩
    exact absurd same (by simp)
  have misleading : Misleading ['0', '\'', '8'] := ⟨['8'], rfl, Or.inl rfl⟩
  obtain ⟨kind, value, overflow, symbols, first, second, -⟩ :=
    separators_neutral (show ['0', '1', '8'] ≠ [] by decide) (by decide)
      (show ungrouped ['0', '1', '\'', '8'] = _ from rfl) (by decide) (by decide)
  obtain ⟨_, worth, dropped, _, third, -, exceptional⟩ :=
    separators_neutral (show ['0', '8'] ≠ [] by decide) (by decide)
      (show ungrouped ['0', '\'', '8'] = _ from rfl) (by decide) (by decide)
  obtain ⟨rfl, rfl, fourth⟩ := exceptional misleading
  exact ⟨⟨honest, kind, value, overflow, symbols, first, second honest⟩, misleading, worth,
    dropped, third, fourth⟩

end CLike

end Lexing
