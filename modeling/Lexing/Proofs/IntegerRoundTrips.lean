import Lexing.Proofs.IntegerSources

/-!
# Integers that are written and scanned again

Every integer below the bound can be written in one of the bases of C and scanned again.  The
digits of a written integer are digits of their base with the value of the integer, and leading
zeros and the case of letters do not count.
-/

namespace Lexing

/-! ## Written integers -/

section Written

variable {base : Nat} (large : 1 < base) (supported : base ≤ 16)

include large supported

theorem isSome_of_mem_toDigits {value : Nat} {symbol : Char}
    (member : symbol ∈ Nat.toDigits base value) : (digitValue? symbol base).isSome = true := by
  induction value using Nat.strongRecOn with
  | ind value ih =>
      rw [Nat.toDigits_eq_if large] at member
      split at member
      case isTrue small =>
        rw [List.mem_singleton.mp member, digitValue?_digitChar supported small]
        rfl
      case isFalse =>
        rcases List.mem_append.mp member with front | last
        · exact ih _ (Nat.div_lt_self (by omega) large) front
        · rw [List.mem_singleton.mp last,
            digitValue?_digitChar supported (Nat.mod_lt _ (by omega))]
          rfl

theorem digitsOf_replicate_zero (zeros : Nat) :
    digitsOf base (List.replicate zeros '0') = List.replicate zeros 0 := by
  have zero : digitValue? '0' base = some 0 :=
    digitValue?_digitChar supported (Nat.zero_lt_of_lt large)
  induction zeros with
  | zero => rfl
  | succ zeros ih => rw [List.replicate_succ, digitsOf_cons zero, ih, List.replicate_succ]

variable {value : Nat} {written : List Char}
  (written_eq : written.map Char.toLower = Nat.toDigits base value) (zeros : Nat)

include written_eq

/-- The value that was written is read, and leading zeros do not count. -/
theorem exactValue_written :
    exactValue base (digitsOf base (List.replicate zeros '0' ++ written)) = value := by
  rw [digitsOf_append, digitsOf_replicate_zero large supported, exactValue_replicate_zero,
    ← digitsOf_toLower, written_eq, exactValue_toDigits large supported]

/-- What was written are digits of the base. -/
theorem isSome_of_mem_written {symbol : Char}
    (member : symbol ∈ List.replicate zeros '0' ++ written) :
    (digitValue? symbol base).isSome = true := by
  rcases List.mem_append.mp member with zero | digit
  · rw [List.eq_of_mem_replicate zero,
      show digitValue? '0' base = some 0 from
        digitValue?_digitChar supported (Nat.zero_lt_of_lt large)]
    rfl
  · have lower : symbol.toLower ∈ Nat.toDigits base value := by
      rw [← written_eq]
      exact List.mem_map_of_mem digit
    have counted := isSome_of_mem_toDigits large supported lower
    rwa [digitValue?, digitWorth?_toLower, ← digitValue?] at counted

end Written

/-- Only zero is written with a leading zero. -/
theorem head?_toDigits {base value : Nat} (large : 1 < base) (positive : 0 < value) :
    (Nat.toDigits base value).head? ≠ some '0' := by
  induction value using Nat.strongRecOn with
  | ind value ih =>
      rw [Nat.toDigits_eq_if large]
      split
      · simpa using Nat.ne_of_gt positive
      · have front : 0 < value / base := Nat.div_pos (by omega) (by omega)
        rw [List.head?_append_of_ne_nil _ Nat.toDigits_ne_nil]
        exact ih _ (Nat.div_lt_self positive large) front

/-- Digits with a value below the bound are all counted. -/
theorem Numeral.pushDigits_exact {kind : Kind} {digits : List Nat}
    (positive : 0 < (Numeral.ofKind kind).base)
    (fits : exactValue (Numeral.ofKind kind).base digits < wordBound) :
    ((Numeral.ofKind kind).pushDigits digits).integer =
        exactValue (Numeral.ofKind kind).base digits ∧
      ((Numeral.ofKind kind).pushDigits digits).integerOverflow = false := by
  have counted : ((Numeral.ofKind kind).pushDigits digits).CountsInteger digits :=
    countsInteger_pushDigits (truncates_nil (Numeral.ofKind kind).base) positive digits
  rw [CountsInteger, (sameFraction_pushDigits _ digits).base] at counted
  exact counted.exact fits

namespace CLike

open Scan

/-- All of a source is one integer.  A source that is too large is refused as a whole. -/
structure ReadsInteger (source : String) (kind : Kind) (value : Nat) : Prop where
  delivers : Delivers profile source
  alone : byteLength source.toList ≤ maxOffset → events profile source =
    [.token
      { atLineStart := true, kind, span := ⟨0, byteLength source.toList⟩,
        payload := .integer
          { value, overflow := false, suffixStart := byteLength source.toList } },
      .token { atLineStart := false, kind := .fin, span := .point (byteLength source.toList) }]

/-- A number that reaches to the end of its source is all of it. -/
theorem readsInteger_of_reaches {text : List Char} {kind : Kind} {digits : List Nat} {base : Nat}
    (base_eq : (Numeral.ofKind kind).base = base) (positive : 0 < base)
    (fits : exactValue base digits < wordBound)
    (reaches : byteLength text ≤ maxOffset → Reaches profile (String.ofList text)
      [.token (leadingToken ((Numeral.ofKind kind).pushDigits digits) (byteLength text))]
      ⟨{ lineStart := false }, []⟩) :
    ReadsInteger (String.ofList text) kind (exactValue base digits) := by
  subst base_eq
  refine ⟨delivers_of_ends CLike.ends _, fun short => ?_⟩
  obtain ⟨integer, dropped⟩ := Numeral.pushDigits_exact positive fits
  rw [(reaches (by simpa using short)).events_of_idle rfl short (CLike.ends _ short),
    leadingToken_pushDigits, integer, dropped, String.toList_ofList]
  rfl

/-- The integer behind a prefix. -/
theorem Prefixes.readsInteger {word body : List Char} {base : Nat} {kind : Kind} {node : NodeId}
    (prefixes : Prefixes word base kind node) (positive : 0 < base) (nonempty : body ≠ [])
    (digits : ∀ symbol ∈ body, (digitValue? symbol base).isSome = true)
    (fits : exactValue base (digitsOf base body) < wordBound) :
    ReadsInteger (String.ofList (word ++ body)) kind (exactValue base (digitsOf base body)) := by
  obtain ⟨next, others, rfl⟩ := List.exists_cons_of_ne_nil nonempty
  have opens : opensDigits profile kind next = true := by
    simp [opensDigits_of_base prefixes.counts, digits next (List.mem_cons_self ..)]
  refine readsInteger_of_reaches (base_eq prefixes.counts) positive fits fun short => ?_
  have numeric : ∀ symbol ∈ next :: others, Numeric profile base symbol := fun symbol member =>
    Or.inl (digits symbol member)
  rw [← List.append_nil (next :: others)] at short ⊢
  have reaches := prefixes.reaches rfl opens short numeric (by simp)
  rw [List.append_nil] at reaches ⊢
  exact reaches

/-- An integer without a prefix is decimal, but zero is octal. -/
theorem decimal_readsInteger {value : Nat} (fits : value < wordBound) :
    ReadsInteger (String.ofList (Nat.toDigits 10 value))
      (if value = 0 then octal else .numberDecimal) value := by
  by_cases zero : value = 0
  · subst zero
    have reaches := zero_reaches
    rw [numeralOf_octal] at reaches
    exact readsInteger_of_reaches octal_base (by decide) (by decide) fun _ => reaches
  · have exact : exactValue 10 (digitsOf 10 (Nat.toDigits 10 value)) = value :=
      exactValue_toDigits (by decide) (by decide) value
    have ten : (Numeral.ofKind .numberDecimal).base = 10 := rfl
    have positive := Nat.pos_of_ne_zero zero
    have digits : (Nat.toDigits 10 value).all Char.isDigit = true :=
      List.all_eq_true.mpr fun _ => Nat.isDigit_of_mem_toDigits (by decide) (by decide)
    have reads : leadingNumber (Nat.toDigits 10 value) = (.numberDecimal, Nat.toDigits 10 value) :=
      leadingNumber_of_head?_ne (head?_toDigits (by decide) positive)
    have reaches : byteLength (Nat.toDigits 10 value) ≤ maxOffset →
        Reaches profile (String.ofList (Nat.toDigits 10 value))
          [.token (leadingToken ((Numeral.ofKind .numberDecimal).pushDigits
            (digitsOf 10 (Nat.toDigits 10 value))) (byteLength (Nat.toDigits 10 value)))]
          ⟨{ lineStart := false }, []⟩ := by
      intro short
      obtain ⟨rest, cut, reaches⟩ :=
        (DigitText.of_digits Nat.toDigits_ne_nil digits).reaches short
      rw [reads] at cut reaches
      obtain rfl : rest = [] := by simpa using cut
      rw [numeralOf, ten] at reaches
      exact reaches
    have read := readsInteger_of_reaches ten (by decide) (by rwa [exact]) reaches
    rw [exact] at read
    rwa [if_neg zero]

theorem notations_bases : ∀ entry ∈ notations, 1 < entry.2.1 ∧ entry.2.1 ≤ 16 := by
  decide

/-- Every integer is read back, whether it is written behind a prefix, with leading zeros and
letters of either case, or without a prefix. -/
theorem integers_round_trip (value : UInt64) :
    (∀ word base kind, (word, base, kind) ∈ notations → ∀ zeros written,
      written.map Char.toLower = Nat.toDigits base value.toNat →
        ReadsInteger (String.ofList (word ++ (List.replicate zeros '0' ++ written))) kind
          value.toNat) ∧
      ReadsInteger (toString value) (if value = 0 then octal else .numberDecimal) value.toNat := by
  have fits : value.toNat < wordBound := value.toNat_lt
  refine ⟨?_, ?_⟩
  · intro word base kind member zeros written written_eq
    obtain ⟨node, prefixes⟩ := exists_prefixes member
    obtain ⟨large, supported⟩ := notations_bases _ member
    have exact := exactValue_written large supported written_eq zeros
    have nonempty : List.replicate zeros '0' ++ written ≠ [] := by
      intro empty
      obtain rfl : written = [] := (List.append_eq_nil_iff.mp empty).2
      exact Nat.toDigits_ne_nil written_eq.symm
    have read := prefixes.readsInteger (Nat.zero_lt_of_lt large) nonempty
      (fun _ => isSome_of_mem_written large supported written_eq zeros) (by rwa [exact])
    rwa [exact] at read
  · have zero : value = 0 ↔ value.toNat = 0 := by
      rw [← UInt64.toNat_inj, UInt64.toNat_zero]
    have rendered : toString value = String.ofList (Nat.toDigits 10 value.toNat) := rfl
    have read := decimal_readsInteger fits
    simp only [rendered, zero]
    exact read

/-- Both cases in the same number, behind zeros. -/
theorem integers_round_trip_mixed_case :
    ReadsInteger (String.ofList (['0', 'x'] ++ (List.replicate 2 '0' ++ ['F', 'f']))) hex 255 :=
  (integers_round_trip 255).1 ['0', 'x'] 16 hex (by decide) 2 ['F', 'f'] (by decide)

end CLike

end Lexing
