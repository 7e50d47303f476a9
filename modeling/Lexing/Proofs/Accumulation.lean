import Lexing.Proofs.ExactNumbers
import Lexing.Proofs.IntegerRoundTrips

/-!
# Digits pushed one by one

A numeral is built by calls, and each of them can be the one at which the value would leave the
range.  Whatever calls there were, the digits behind the point that count are the longest start
of them whose scale fits, and no digit before the point depends on them.  For a whole text in one
of the supported bases the digits that count are the longest start of them whose value fits,
wherever the separators stand.
-/

namespace Lexing

/-! ## Digits and their bases -/

theorem Kind.exists_numberForBase? {base : Nat} (supported : base ∈ [2, 4, 8, 10, 12, 16]) :
    ∃ kind, numberForBase? base = some kind ∧ (Numeral.ofKind kind).base = base := by
  have known : ∀ base ∈ [2, 4, 8, 10, 12, 16], (numberForBase? base).isSome = true := by decide
  obtain ⟨kind, named⟩ := Option.isSome_iff_exists.mp (known base supported)
  exact ⟨kind, named, CLike.base_eq (Kind.numberBase?_of_numberForBase? named)⟩

theorem Kind.one_lt_base (kind : Kind) : 1 < (Numeral.ofKind kind).base := by
  unfold Numeral.ofKind
  cases known : kind.numberBase? with
  | none => exact Nat.one_lt_ofNat
  | some base => exact Kind.one_lt_numberBase? known

section Counted

variable {base : Nat} {text : List Char}
  (all : ∀ symbol ∈ text, (digitValue? symbol base).isSome = true)

include all

theorem length_digitsOf : (digitsOf base text).length = text.length := by
  induction text with
  | nil => rfl
  | cons symbol rest ih =>
      obtain ⟨digit, value⟩ := Option.isSome_iff_exists.mp (all symbol List.mem_cons_self)
      rw [digitsOf_cons value, List.length_cons, List.length_cons,
        ih fun other member => all other (List.mem_cons_of_mem symbol member)]

theorem digitsOf_take (count : Nat) :
    digitsOf base (text.take count) = (digitsOf base text).take count := by
  induction text generalizing count with
  | nil => simp
  | cons symbol rest ih =>
      obtain ⟨digit, value⟩ := Option.isSome_iff_exists.mp (all symbol List.mem_cons_self)
      cases count with
      | zero => rfl
      | succ count =>
          rw [List.take_succ_cons, digitsOf_cons value, digitsOf_cons value, List.take_succ_cons,
            ih fun other member => all other (List.mem_cons_of_mem symbol member)]

end Counted

theorem Fitting.unique {measure : Nat → Nat} {length count other : Nat}
    (one : Fitting measure length count) (two : Fitting measure length other) : count = other :=
  Nat.le_antisymm (two.longest count one.within one.below) (one.longest other two.within two.below)

namespace Numeral

variable {numeral : Numeral} {base digit : Nat} {digits : List Nat} {symbol : Char}
  {separator : Option Char} {text : List Char}

/-! ## Calls -/

inductive Call where
  | digit (digit : Nat)
  | startFraction
  | fractionDigit (digit : Nat)
deriving Repr, DecidableEq

namespace Call

def perform (call : Call) (numeral : Numeral) : Numeral :=
  match call with
  | .digit digit => numeral.pushDigit digit
  | .startFraction => numeral.startFraction
  | .fractionDigit digit => numeral.pushFractionDigit digit

def integerDigit? : Call → Option Nat
  | .digit digit => some digit
  | .startFraction | .fractionDigit _ => none

def fractionDigit? : Call → Option Nat
  | .fractionDigit digit => some digit
  | .digit _ | .startFraction => none

end Call

def performAll (numeral : Numeral) (calls : List Call) : Numeral :=
  calls.foldl (fun numeral call => call.perform numeral) numeral

def integerDigits (calls : List Call) : List Nat :=
  calls.filterMap Call.integerDigit?

def fractionDigits (calls : List Call) : List Nat :=
  calls.filterMap Call.fractionDigit?

@[simp] theorem performAll_concat (calls : List Call) (call : Call) :
    numeral.performAll (calls ++ [call]) = call.perform (numeral.performAll calls) := by
  simp [performAll]

/-- One more call appends what it counts. -/
theorem filterMap_concat (digit? : Call → Option Nat) (calls : List Call) (call : Call) :
    (calls ++ [call]).filterMap digit? = calls.filterMap digit? ++ (digit? call).toList := by
  cases digit : digit? call <;> simp [digit]

/-! ## Digits before the point -/

theorem SameInteger.pushDigit {other : Numeral} (same : SameInteger numeral other) (digit : Nat) :
    SameInteger (numeral.pushDigit digit) (other.pushDigit digit) := by
  obtain ⟨kind, base, integer, overflow⟩ := same
  unfold Numeral.pushDigit
  rw [overflow, integer, base]
  split
  · exact ⟨kind, base, integer, overflow⟩
  · dsimp only
    split <;> exact ⟨kind, rfl, rfl, rfl⟩

theorem SameInteger.trans {other third : Numeral} (same : SameInteger numeral other)
    (onward : SameInteger other third) : SameInteger numeral third where
  kind := onward.kind.trans same.kind
  base := onward.base.trans same.base
  integer := onward.integer.trans same.integer
  overflow := onward.overflow.trans same.overflow

/-- Only the digits before the point change the integer. -/
theorem sameInteger_performAll (numeral : Numeral) (calls : List Call) :
    SameInteger (numeral.pushDigits (integerDigits calls)) (numeral.performAll calls) := by
  induction calls using List.reverseRecOn with
  | nil => exact ⟨rfl, rfl, rfl, rfl⟩
  | append_singleton calls call ih =>
      rw [performAll_concat, integerDigits, filterMap_concat, pushDigits_append]
      cases call with
      | digit digit => exact ih.pushDigit digit
      | startFraction => exact ih.trans ⟨rfl, rfl, rfl, rfl⟩
      | fractionDigit digit => exact ih.trans (sameInteger_pushFractionDigit _ digit)

theorem base_performAll (numeral : Numeral) (calls : List Call) :
    (numeral.performAll calls).base = numeral.base :=
  (sameInteger_performAll numeral calls).base.trans (sameFraction_pushDigits numeral _).base

/-! ## Digits behind the point -/

/-- What one call counts behind the point. -/
theorem CountsFraction.perform (counts : numeral.CountsFraction digits) (large : 1 < numeral.base)
    (call : Call) (below : ∀ digit ∈ digits ++ call.fractionDigit?.toList, digit < numeral.base) :
    (call.perform numeral).CountsFraction (digits ++ call.fractionDigit?.toList) := by
  cases call with
  | digit digit =>
      have same := sameFraction_pushDigit numeral digit
      unfold CountsFraction at counts ⊢
      rw [Call.perform, same.base, same.fraction, same.scale, same.overflow]
      simpa [Call.fractionDigit?] using counts
  | startFraction =>
      rw [Call.fractionDigit?, Option.toList_none, List.append_nil]
      exact counts
  | fractionDigit digit =>
      apply counts.pushFractionDigit large
      · intro other member
        exact below other (List.mem_append_left _ member)
      · exact below digit (List.mem_append_right _ (List.mem_singleton_self digit))

theorem countsFraction_performAll (fresh : numeral.CountsFraction []) (large : 1 < numeral.base)
    (calls : List Call) (below : ∀ digit ∈ fractionDigits calls, digit < numeral.base) :
    (numeral.performAll calls).CountsFraction (fractionDigits calls) := by
  induction calls using List.reverseRecOn with
  | nil => exact fresh
  | append_singleton calls call ih =>
      rw [performAll_concat]
      rw [fractionDigits, filterMap_concat] at below ⊢
      have earlier := ih fun digit member => below digit (List.mem_append_left _ member)
      apply earlier.perform
      · rw [base_performAll]
        exact large
      · rw [base_performAll]
        exact below

/-- A number below the bound that is not zero is no zero as a word either. -/
theorem ofNat_ne_zero {value : Nat} (positive : 0 < value) (fits : value < wordBound) :
    UInt64.ofNat value ≠ 0 := by
  intro zero
  have word := congrArg UInt64.toNat zero
  rw [UInt64.toNat_ofNat_of_lt' fits, UInt64.toNat_zero] at word
  omega

/-- After any calls on a fresh numeral the digits behind the point that count are the longest
start of them whose scale, a power of the base, stays below the bound.  The fraction is their
exact value and below its scale, and the word that it is divided by is not zero.  Whether digits
are dropped depends on their number alone, and the integer is what the digits before the point
make of it. -/
theorem fraction_truncated {kind : Kind} {base : Nat}
    (counts : kind.numberBase?.getD 10 = base) (calls : List Call)
    (below : ∀ digit ∈ fractionDigits calls, digit < base) :
    let numeral := (ofKind kind).performAll calls
    let digits := fractionDigits calls
    (∃ count, Fitting (base ^ ·) digits.length count ∧ numeral.scale = base ^ count ∧
      numeral.fraction = exactValue base (digits.take count) ∧
      numeral.fraction < numeral.scale ∧ UInt64.ofNat numeral.scale ≠ 0) ∧
      (numeral.fractionOverflow = true ↔ wordBound ≤ base ^ digits.length) ∧
      SameInteger ((ofKind kind).pushDigits (integerDigits calls)) numeral := by
  intro numeral digits
  have based : (ofKind kind).base = base := counts
  have large : 1 < base := by
    rw [← based]
    exact kind.one_lt_base
  have fresh : (ofKind kind).CountsFraction [] := truncatesFraction_nil _
  have counted : numeral.CountsFraction digits := by
    apply countsFraction_performAll fresh
    · rw [based]
      exact large
    · rw [based]
      exact below
  rw [CountsFraction, base_performAll, based] at counted
  refine ⟨?_, counted.overflow, sameInteger_performAll _ calls⟩
  obtain ⟨count, fitting, fraction, scale⟩ := counted.value
  refine ⟨count, fitting, scale, fraction, ?_, ?_⟩
  · rw [fraction, scale]
    have value := exactValue_lt large fun digit member =>
      below digit ((List.take_subset count digits) member)
    exact value.trans_le (Nat.pow_le_pow_right (by omega) (List.length_take_le count digits))
  · rw [scale]
    exact ofNat_ne_zero (Nat.pow_pos (by omega)) fitting.below

/-- Behind the point sixteen digits of base sixteen are one too many, and digits before the point
may come later. -/
theorem fraction_truncated_long :
    let calls : List Call :=
      [.digit 1, .startFraction] ++ List.replicate 17 (.fractionDigit 15) ++ [.digit 2]
    let numeral := (ofKind .numberHex).performAll calls
    Kind.numberHex.numberBase?.getD 10 = 16 ∧ (∀ digit ∈ fractionDigits calls, digit < 16) ∧
      numeral.scale = 16 ^ 15 ∧ numeral.fraction = exactValue 16 (List.replicate 15 15) ∧
      UInt64.ofNat numeral.scale ≠ 0 ∧ numeral.fractionOverflow = true ∧ numeral.integer = 18 := by
  intro calls numeral
  have counts : Kind.numberHex.numberBase?.getD 10 = 16 := by decide
  have below : ∀ digit ∈ fractionDigits calls, digit < 16 := by decide
  obtain ⟨⟨count, fitting, scale, fraction, _, divides⟩, overflow, same⟩ :=
    fraction_truncated counts calls below
  have fits : Fitting (16 ^ ·) (fractionDigits calls).length 15 := by
    constructor
    · decide
    · decide +kernel
    · decide +kernel
  obtain rfl : count = 15 := fitting.unique fits
  exact ⟨counts, below, scale, fraction, divides, overflow.mpr (by decide +kernel),
    same.integer.trans (by decide)⟩

/-! ## Whole texts -/

/-- The symbols of a text that are not the separator. -/
def unseparated (separator : Option Char) (text : List Char) : List Char :=
  text.filter fun symbol => some symbol ≠ separator

/-- Separators are passed over. -/
theorem pushAll_unseparated (numeral : Numeral) (separator : Option Char) (text : List Char) :
    numeral.pushAll separator text = numeral.pushAll none (unseparated separator text) := by
  induction text generalizing numeral with
  | nil => rfl
  | cons symbol rest ih =>
      unfold unseparated
      by_cases separates : some symbol = separator
      · rw [pushAll, if_pos separates, List.filter_cons_of_neg (by simpa using separates)]
        exact ih numeral
      · rw [pushAll, if_neg separates, List.filter_cons_of_pos (by simpa using separates), pushAll,
          if_neg (Option.some_ne_none symbol)]
        cases digitValue? symbol numeral.base with
        | none => rfl
        | some digit => exact ih (numeral.pushDigit digit)

theorem pushAll_of_isSome
    (all : ∀ symbol ∈ text, (digitValue? symbol numeral.base).isSome = true) :
    numeral.pushAll none text = some (numeral.pushDigits (digitsOf numeral.base text)) := by
  induction text generalizing numeral with
  | nil => rfl
  | cons symbol rest ih =>
      obtain ⟨digit, value⟩ := Option.isSome_iff_exists.mp (all symbol List.mem_cons_self)
      have base := (sameFraction_pushDigit numeral digit).base
      rw [pushAll, if_neg (Option.some_ne_none symbol), value, digitsOf_cons value, ← base]
      apply ih
      intro other member
      rw [base]
      exact all other (List.mem_cons_of_mem symbol member)

theorem pushAll_of_foreign (member : symbol ∈ text)
    (foreign : digitValue? symbol numeral.base = none) : numeral.pushAll none text = none := by
  induction text generalizing numeral with
  | nil => contradiction
  | cons first rest ih =>
      rw [pushAll, if_neg (Option.some_ne_none first)]
      cases value : digitValue? first numeral.base with
      | none => rfl
      | some digit =>
          rcases List.mem_cons.mp member with rfl | later
          · rw [foreign] at value
            contradiction
          · apply ih later
            rw [(sameFraction_pushDigit numeral digit).base]
            exact foreign

/-- A text whose symbols, separators apart, are digits of a supported base is accumulated. -/
theorem exists_accumulate {base : Nat} (supported : base ∈ [2, 4, 8, 10, 12, 16])
    {separator : Option Char} {text : String}
    (all : ∀ symbol ∈ unseparated separator text.toList, (digitValue? symbol base).isSome = true) :
    ∃ value overflow, accumulate text base separator = some (value, overflow) ∧
      Truncates base (digitsOf base (unseparated separator text.toList)) value overflow := by
  obtain ⟨kind, named, rfl⟩ := Kind.exists_numberForBase? supported
  have pushed := pushAll_of_isSome all
  rw [← pushAll_unseparated] at pushed
  have fresh : (ofKind kind).CountsInteger [] := truncates_nil _
  have positive : 0 < (ofKind kind).base := Nat.zero_lt_of_lt kind.one_lt_base
  have counted := countsInteger_pushDigits fresh positive
    (digitsOf (ofKind kind).base (unseparated separator text.toList))
  rw [CountsInteger, (sameFraction_pushDigits _ _).base] at counted
  refine ⟨_, _, ?_, counted⟩
  simp [accumulate, named, pushed]

/-- All other texts are refused. -/
theorem accumulate_eq_none_iff {base : Nat} (supported : base ∈ [2, 4, 8, 10, 12, 16])
    {separator : Option Char} {text : String} : accumulate text base separator = none ↔
      ∃ symbol ∈ unseparated separator text.toList, digitValue? symbol base = none := by
  constructor
  · intro refused
    by_contra digits
    simp only [not_exists, not_and] at digits
    obtain ⟨value, overflow, accumulated, _⟩ := exists_accumulate supported fun symbol member =>
      Option.isSome_iff_ne_none.mpr (digits symbol member)
    rw [refused] at accumulated
    contradiction
  · rintro ⟨symbol, member, foreign⟩
    obtain ⟨kind, named, rfl⟩ := Kind.exists_numberForBase? supported
    have refused := pushAll_of_foreign member foreign
    rw [← pushAll_unseparated] at refused
    simp [accumulate, named, refused]

/-- In a supported base a text is refused exactly when it has a symbol that is neither the
separator nor a digit.  Otherwise the answer is the value of the longest start of its digits,
separators apart, that stays below the bound, and whether all of them do.  So every word is read
back from its digits, in either case, behind any number of zeros and with any separators. -/
theorem accumulate_exact {base : Nat} (supported : base ∈ [2, 4, 8, 10, 12, 16])
    (separator : Option Char) (text : String) :
    let counted := unseparated separator text.toList
    let value count := exactValue base (digitsOf base (counted.take count))
    (accumulate text base separator = none ↔
      ∃ symbol ∈ text.toList, some symbol ≠ separator ∧ digitValue? symbol base = none) ∧
      ((∀ symbol ∈ counted, (digitValue? symbol base).isSome = true) →
        ∃ result overflow, accumulate text base separator = some (result, overflow) ∧
          (overflow = true ↔ wordBound ≤ value counted.length) ∧
          ∃ count, Fitting value counted.length count ∧ result = value count) ∧
      ∀ (word : UInt64) (zeros : Nat) (written : List Char),
        written.map Char.toLower = Nat.toDigits base word.toNat →
        counted = List.replicate zeros '0' ++ written →
        accumulate text base separator = some (word.toNat, false) := by
  intro counted value
  obtain ⟨large, below⟩ : 1 < base ∧ base ≤ 16 := by
    have bounds : ∀ base ∈ [2, 4, 8, 10, 12, 16], 1 < base ∧ base ≤ 16 := by decide
    exact bounds base supported
  refine ⟨?_, ?_, ?_⟩
  · rw [accumulate_eq_none_iff supported]
    simp [unseparated, and_assoc]
  · intro all
    obtain ⟨result, overflow, accumulated, truncates⟩ := exists_accumulate supported all
    have starts : ∀ count, value count = exactValue base ((digitsOf base counted).take count) := by
      intro count
      simp only [value, digitsOf_take all]
    have whole : value counted.length = exactValue base (digitsOf base counted) := by
      simp only [value, List.take_length]
    refine ⟨result, overflow, accumulated, ?_, ?_⟩
    · rw [whole]
      exact truncates.overflow
    · obtain ⟨count, fitting, rfl⟩ := truncates.value
      rw [length_digitsOf all] at fitting
      refine ⟨count, fitting.congr ?_, (starts count).symm⟩
      intro more _
      exact starts more
  · intro word zeros written written_eq cut
    have all : ∀ symbol ∈ counted, (digitValue? symbol base).isSome = true := by
      intro symbol member
      rw [cut] at member
      exact isSome_of_mem_written large below written_eq zeros member
    have exact : exactValue base (digitsOf base counted) = word.toNat := by
      rw [cut]
      exact exactValue_written large below written_eq zeros
    have fits : exactValue base (digitsOf base counted) < wordBound := by
      rw [exact]
      exact word.toNat_lt
    obtain ⟨result, overflow, accumulated, truncates⟩ := exists_accumulate supported all
    obtain ⟨rfl, rfl⟩ := truncates.exact fits
    rw [accumulated, exact]

/-- Zeros, separators and both cases, a digit too many, and a symbol that is no digit. -/
theorem accumulate_exact_separated :
    accumulate "00_FFff_FFFF_ffff_FFFF" 16 (some '_') = some (0xFFFFFFFFFFFFFFFF, false) ∧
      accumulate "ffff_ffff_ffff_ffff_0" 16 (some '_') = some (0xFFFFFFFFFFFFFFFF, true) ∧
      accumulate "12_g" 16 (some '_') = none := by
  have supported : 16 ∈ [2, 4, 8, 10, 12, 16] := by decide
  obtain ⟨_, _, reads⟩ := accumulate_exact supported (some '_') "00_FFff_FFFF_ffff_FFFF"
  obtain ⟨_, truncates, _⟩ := accumulate_exact supported (some '_') "ffff_ffff_ffff_ffff_0"
  obtain ⟨refused, _, _⟩ := accumulate_exact supported (some '_') "12_g"
  refine ⟨?_, ?_, ?_⟩
  · exact reads 0xFFFFFFFFFFFFFFFF 2 "FFffFFFFffffFFFF".toList (by decide +kernel)
      (by decide +kernel)
  · have all : (unseparated (some '_') "ffff_ffff_ffff_ffff_0".toList).all
        (fun symbol => (digitValue? symbol 16).isSome) = true := by decide +kernel
    obtain ⟨result, overflow, accumulated, dropped, count, fitting, rfl⟩ :=
      truncates (List.all_eq_true.mp all)
    obtain rfl : overflow = true := dropped.mpr (by decide +kernel)
    obtain rfl : count = 16 := by
      apply fitting.unique
      constructor
      · decide +kernel
      · decide +kernel
      · decide +kernel
    rw [accumulated]
    decide +kernel
  · exact refused.mpr ⟨'g', by decide, by decide, by decide⟩

end Numeral

end Lexing
