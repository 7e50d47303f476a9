import Lexing.Numeral
import Mathlib.Data.List.Induction
import Mathlib.Data.Nat.Digits.Defs
import Mathlib.Tactic.SplitIfs

/-!
# The values of numerals

The value of some digits is a number of any size.  A numeral keeps the value of the longest
start of its digits that stays below the bound, and it notices when this start is not all of
them.  Behind the point it is the scale that has to stay below the bound, because a fraction
is below its scale.
-/

namespace Lexing

/-! ## Digits -/

/-- The digits of a base in a text.  All other symbols are skipped. -/
def digitsOf (base : Nat) (text : List Char) : List Nat :=
  text.filterMap (digitValue? · base)

/-- The value of some digits, the most significant one first. -/
def exactValue (base : Nat) (digits : List Nat) : Nat :=
  Nat.ofDigits base digits.reverse

section Digits

variable {base digit : Nat} {digits front rest : List Nat} {symbol : Char} {text more : List Char}

@[simp] theorem digitsOf_nil (base : Nat) : digitsOf base [] = [] :=
  rfl

@[simp] theorem digitsOf_append : digitsOf base (text ++ more) =
    digitsOf base text ++ digitsOf base more :=
  List.filterMap_append

theorem digitsOf_cons (value : digitValue? symbol base = some digit) :
    digitsOf base (symbol :: text) = digit :: digitsOf base text :=
  List.filterMap_cons_some value

theorem digitsOf_cons_none (other : digitValue? symbol base = none) :
    digitsOf base (symbol :: text) = digitsOf base text :=
  List.filterMap_cons_none other

theorem lt_of_mem_digitsOf (member : digit ∈ digitsOf base text) : digit < base := by
  obtain ⟨symbol, _, value⟩ := List.mem_filterMap.mp member
  exact digitValue?_lt value

@[simp] theorem exactValue_nil (base : Nat) : exactValue base [] = 0 :=
  rfl

@[simp] theorem exactValue_concat :
    exactValue base (digits ++ [digit]) = exactValue base digits * base + digit := by
  rw [exactValue, List.reverse_append, List.reverse_singleton, List.singleton_append,
    Nat.ofDigits_cons, Nat.mul_comm, Nat.add_comm, exactValue]

/-- Leading zeros do not count. -/
theorem exactValue_replicate_zero (zeros : Nat) :
    exactValue base (List.replicate zeros 0 ++ digits) = exactValue base digits := by
  rw [exactValue, List.reverse_append, List.reverse_replicate,
    Nat.ofDigits_append_replicate_zero, exactValue]

theorem exactValue_le_append (positive : 0 < base) :
    exactValue base front ≤ exactValue base (front ++ rest) := by
  induction rest using List.reverseRec with
  | nil => simp
  | append_singleton rest digit ih =>
      rw [← List.append_assoc, exactValue_concat]
      exact ih.trans ((Nat.le_mul_of_pos_right _ positive).trans (Nat.le_add_right _ _))

theorem exactValue_lt (large : 1 < base) (below : ∀ digit ∈ digits, digit < base) :
    exactValue base digits < base ^ digits.length := by
  have bounded : ∀ digit ∈ digits.reverse, digit < base := by simpa using below
  simpa [exactValue] using Nat.ofDigits_lt_base_pow_length large bounded

theorem digitValue?_digitChar (supported : base ≤ 16) (below : digit < base) :
    digitValue? digit.digitChar base = some digit := by
  have worth : ∀ digit < 16, digitWorth? digit.digitChar = some digit := by decide
  rw [digitValue?, if_pos supported, worth digit (by omega)]
  simpa using below

/-- The digits that a number is written with have its value. -/
theorem exactValue_toDigits (large : 1 < base) (supported : base ≤ 16) (value : Nat) :
    exactValue base (digitsOf base (Nat.toDigits base value)) = value := by
  induction value using Nat.strongRecOn with
  | ind value ih =>
      have last : digitsOf base [(value % base).digitChar] = [value % base] :=
        digitsOf_cons (digitValue?_digitChar supported (Nat.mod_lt _ (by omega)))
      rw [Nat.toDigits_eq_if large]
      split
      case isTrue small =>
        rw [Nat.mod_eq_of_lt small] at last
        rw [last, ← List.nil_append [value], exactValue_concat, exactValue_nil, Nat.zero_mul,
          Nat.zero_add]
      case isFalse =>
        have fewer : value / base < value := Nat.div_lt_self (by omega) large
        rw [digitsOf_append, last, exactValue_concat, ih _ fewer, Nat.div_add_mod']

end Digits

/-! ## Starts that fit -/

/-- The longest start of some digits, `length` in all, whose measure is below the bound. -/
structure Fitting (measure : Nat → Nat) (length count : Nat) : Prop where
  within : count ≤ length
  below : measure count < wordBound
  longest : ∀ more ≤ length, measure more < wordBound → more ≤ count

namespace Fitting

variable {measure : Nat → Nat} {length count : Nat}

/-- One more digit that fits. -/
theorem advance (fits : measure (length + 1) < wordBound) : Fitting measure (length + 1)
    (length + 1) :=
  ⟨Nat.le_refl _, fits, fun _ within _ => within⟩

/-- One more digit that does not. -/
theorem stay (fitting : Fitting measure length count)
    (exceeds : wordBound ≤ measure (length + 1)) : Fitting measure (length + 1) count := by
  refine ⟨fitting.within.trans (Nat.le_succ _), fitting.below, fun more within below => ?_⟩
  rcases Nat.lt_or_eq_of_le within with inside | rfl
  · exact fitting.longest more (Nat.le_of_lt_succ inside) below
  · omega

/-- Only the start up to the last digit matters. -/
theorem congr {other : Nat → Nat} (fitting : Fitting measure length count)
    (same : ∀ more ≤ length, other more = measure more) : Fitting other length count := by
  refine ⟨fitting.within, (same _ fitting.within).trans_lt fitting.below, ?_⟩
  intro more within below
  exact fitting.longest more within ((same more within).symm.trans_lt below)

/-- All digits fit. -/
theorem eq_length (fitting : Fitting measure length count) (fits : measure length < wordBound) :
    count = length :=
  Nat.le_antisymm fitting.within (fitting.longest length (Nat.le_refl _) fits)

end Fitting

/-- The value of the longest start of the digits before a point that stays below the bound,
and whether the value of all of them does not. -/
structure Truncates (base : Nat) (digits : List Nat) (value : Nat) (overflow : Bool) : Prop where
  overflow : overflow = true ↔ wordBound ≤ exactValue base digits
  value : ∃ count, Fitting (fun count => exactValue base (digits.take count)) digits.length count ∧
    value = exactValue base (digits.take count)

/-- The same for the digits behind a point: the scale of the start stays below the bound. -/
structure TruncatesFraction (base : Nat) (digits : List Nat) (fraction scale : Nat)
    (overflow : Bool) : Prop where
  overflow : overflow = true ↔ wordBound ≤ base ^ digits.length
  value : ∃ count, Fitting (base ^ ·) digits.length count ∧
    fraction = exactValue base (digits.take count) ∧ scale = base ^ count

section Truncation

variable {base value fraction scale digit : Nat} {overflow : Bool} {digits : List Nat}

theorem truncates_nil (base : Nat) : Truncates base [] 0 false where
  overflow := by simp [wordBound]
  value := ⟨0, ⟨Nat.le_refl _, by simp [wordBound], fun _ within _ => within⟩, rfl⟩

/-- Digits whose value is below the bound have this value. -/
theorem Truncates.exact (truncates : Truncates base digits value overflow)
    (fits : exactValue base digits < wordBound) : value = exactValue base digits ∧
      overflow = false := by
  obtain ⟨count, fitting, rfl⟩ := truncates.value
  rw [fitting.eq_length (by simpa using fits), List.take_length]
  refine ⟨rfl, Bool.eq_false_iff.mpr fun exceeds => ?_⟩
  have large := truncates.overflow.mp exceeds
  omega

/-- The digits up to the last one are those of the start. -/
theorem Fitting.of_concat {count : Nat}
    (fitting : Fitting (fun count => exactValue base (digits.take count)) digits.length count)
    (digit : Nat) :
    Fitting (fun count => exactValue base ((digits ++ [digit]).take count)) digits.length count :=
  fitting.congr fun more within => by simp only [List.take_append_of_le_length within]

theorem Truncates.advance (truncates : Truncates base digits value false)
    (fits : value * base + digit < wordBound) :
    Truncates base (digits ++ [digit]) (value * base + digit) false := by
  have small : exactValue base digits < wordBound := by
    have known := truncates.overflow
    simp only [Bool.false_eq_true, false_iff] at known
    omega
  obtain ⟨rfl, -⟩ := truncates.exact small
  rw [← exactValue_concat] at fits ⊢
  refine ⟨by simpa using fits, digits.length + 1, ?_, ?_⟩
  · rw [List.length_append, List.length_singleton]
    refine .advance ?_
    rwa [List.take_of_length_le (by simp)]
  · rw [List.take_of_length_le (by simp)]

theorem Truncates.stay (truncates : Truncates base digits value overflow)
    (exceeds : wordBound ≤ exactValue base (digits ++ [digit])) :
    Truncates base (digits ++ [digit]) value true := by
  obtain ⟨count, fitting, rfl⟩ := truncates.value
  refine ⟨by simpa using exceeds, count, ?_, ?_⟩
  · rw [List.length_append, List.length_singleton]
    refine (fitting.of_concat digit).stay ?_
    rwa [List.take_of_length_le (by simp)]
  · rw [List.take_append_of_le_length fitting.within]

theorem truncatesFraction_nil (base : Nat) : TruncatesFraction base [] 0 1 false where
  overflow := by simp [wordBound]
  value := ⟨0, ⟨Nat.le_refl _, by simp [wordBound], fun _ within _ => within⟩, rfl, rfl⟩

theorem TruncatesFraction.exact (truncates : TruncatesFraction base digits fraction scale false) :
    fraction = exactValue base digits ∧ scale = base ^ digits.length := by
  have known := truncates.overflow
  simp only [Bool.false_eq_true, false_iff] at known
  obtain ⟨count, fitting, rfl, rfl⟩ := truncates.value
  rw [fitting.eq_length (by simpa using known), List.take_length]
  exact ⟨rfl, rfl⟩

theorem TruncatesFraction.advance
    (truncates : TruncatesFraction base digits fraction scale false)
    (fits : scale * base < wordBound) :
    TruncatesFraction base (digits ++ [digit]) (fraction * base + digit) (scale * base) false := by
  obtain ⟨rfl, rfl⟩ := truncates.exact
  rw [← Nat.pow_succ] at fits ⊢
  refine ⟨by simpa using fits, digits.length + 1, ?_, ?_, rfl⟩
  · rw [List.length_append, List.length_singleton]
    exact .advance fits
  · rw [List.take_of_length_le (by simp), exactValue_concat]

theorem TruncatesFraction.stay
    (truncates : TruncatesFraction base digits fraction scale overflow)
    (exceeds : wordBound ≤ base ^ (digits.length + 1)) :
    TruncatesFraction base (digits ++ [digit]) fraction scale true := by
  obtain ⟨count, fitting, rfl, rfl⟩ := truncates.value
  refine ⟨by simpa using exceeds, count, ?_, ?_, rfl⟩
  · rw [List.length_append, List.length_singleton]
    exact fitting.stay exceeds
  · rw [List.take_append_of_le_length fitting.within]

end Truncation

/-! ## Numerals -/

namespace Numeral

def pushDigits (numeral : Numeral) (digits : List Nat) : Numeral :=
  digits.foldl pushDigit numeral

def pushFractionDigits (numeral : Numeral) (digits : List Nat) : Numeral :=
  digits.foldl pushFractionDigit numeral

variable {numeral : Numeral} {digit : Nat} {digits : List Nat}

@[simp] theorem pushDigits_nil : numeral.pushDigits [] = numeral :=
  rfl

@[simp] theorem pushDigits_append (more : List Nat) :
    numeral.pushDigits (digits ++ more) = (numeral.pushDigits digits).pushDigits more :=
  List.foldl_append

@[simp] theorem pushDigits_singleton : numeral.pushDigits [digit] = numeral.pushDigit digit :=
  rfl

@[simp] theorem pushFractionDigits_append (more : List Nat) :
    numeral.pushFractionDigits (digits ++ more) =
      (numeral.pushFractionDigits digits).pushFractionDigits more :=
  List.foldl_append

@[simp] theorem pushFractionDigits_singleton :
    numeral.pushFractionDigits [digit] = numeral.pushFractionDigit digit :=
  rfl

/-! ### What digits before the point leave alone -/

/-- The parts of a numeral that digits before the point do not touch. -/
structure SameFraction (numeral other : Numeral) : Prop where
  kind : other.kind = numeral.kind
  base : other.base = numeral.base
  isFloat : other.isFloat = numeral.isFloat
  fraction : other.fraction = numeral.fraction
  scale : other.scale = numeral.scale
  overflow : other.fractionOverflow = numeral.fractionOverflow

theorem sameFraction_pushDigit (numeral : Numeral) (digit : Nat) :
    SameFraction numeral (numeral.pushDigit digit) := by
  unfold pushDigit
  dsimp only
  split_ifs <;> exact ⟨rfl, rfl, rfl, rfl, rfl, rfl⟩

theorem pushDigit_kind (numeral : Numeral) (digit : Nat) :
    (numeral.pushDigit digit).kind = numeral.kind :=
  (sameFraction_pushDigit numeral digit).kind

theorem sameFraction_pushDigits (numeral : Numeral) (digits : List Nat) :
    SameFraction numeral (numeral.pushDigits digits) := by
  induction digits using List.reverseRec with
  | nil => exact ⟨rfl, rfl, rfl, rfl, rfl, rfl⟩
  | append_singleton digits digit ih =>
      rw [pushDigits_append, pushDigits_singleton]
      have last := sameFraction_pushDigit (numeral.pushDigits digits) digit
      exact ⟨last.kind.trans ih.kind, last.base.trans ih.base, last.isFloat.trans ih.isFloat,
        last.fraction.trans ih.fraction, last.scale.trans ih.scale,
        last.overflow.trans ih.overflow⟩

/-- The parts of a numeral that digits behind the point do not touch. -/
structure SameInteger (numeral other : Numeral) : Prop where
  kind : other.kind = numeral.kind
  base : other.base = numeral.base
  integer : other.integer = numeral.integer
  overflow : other.integerOverflow = numeral.integerOverflow

theorem sameInteger_pushFractionDigit (numeral : Numeral) (digit : Nat) :
    SameInteger numeral (numeral.pushFractionDigit digit) := by
  unfold pushFractionDigit startFraction
  dsimp only
  split_ifs <;> exact ⟨rfl, rfl, rfl, rfl⟩

theorem pushFractionDigit_kind (numeral : Numeral) (digit : Nat) :
    (numeral.pushFractionDigit digit).kind = numeral.kind :=
  (sameInteger_pushFractionDigit numeral digit).kind

theorem isFloat_pushFractionDigit (numeral : Numeral) (digit : Nat) :
    (numeral.pushFractionDigit digit).isFloat = true := by
  unfold pushFractionDigit startFraction
  dsimp only
  split_ifs <;> rfl

/-- It does not matter whether the fraction was started before its first digit. -/
theorem pushFractionDigit_startFraction (numeral : Numeral) (digit : Nat) :
    numeral.startFraction.pushFractionDigit digit = numeral.pushFractionDigit digit :=
  rfl

theorem sameInteger_pushFractionDigits (numeral : Numeral) (digits : List Nat) :
    SameInteger numeral (numeral.pushFractionDigits digits) := by
  induction digits using List.reverseRec with
  | nil => exact ⟨rfl, rfl, rfl, rfl⟩
  | append_singleton digits digit ih =>
      rw [pushFractionDigits_append, pushFractionDigits_singleton]
      have last := sameInteger_pushFractionDigit (numeral.pushFractionDigits digits) digit
      exact ⟨last.kind.trans ih.kind, last.base.trans ih.base, last.integer.trans ih.integer,
        last.overflow.trans ih.overflow⟩

theorem isFloat_pushFractionDigits (numeral : Numeral) (some : digits ≠ []) :
    (numeral.pushFractionDigits digits).isFloat = true := by
  obtain ⟨front, last, rfl⟩ : ∃ front last, digits = front ++ [last] :=
    ⟨_, _, (List.dropLast_concat_getLast some).symm⟩
  rw [pushFractionDigits_append, pushFractionDigits_singleton]
  exact isFloat_pushFractionDigit _ _

/-! ### Values -/

def CountsInteger (numeral : Numeral) (digits : List Nat) : Prop :=
  Truncates numeral.base digits numeral.integer numeral.integerOverflow

def CountsFraction (numeral : Numeral) (digits : List Nat) : Prop :=
  TruncatesFraction numeral.base digits numeral.fraction numeral.scale numeral.fractionOverflow

theorem CountsInteger.pushDigit (counts : numeral.CountsInteger digits)
    (positive : 0 < numeral.base) (digit : Nat) :
    (numeral.pushDigit digit).CountsInteger (digits ++ [digit]) := by
  unfold CountsInteger at counts ⊢
  unfold Numeral.pushDigit
  cases flag : numeral.integerOverflow with
  | true =>
      rw [if_pos rfl, flag]
      rw [flag] at counts
      have large := counts.overflow.mp rfl
      exact counts.stay (large.trans (exactValue_le_append positive))
  | false =>
      rw [flag] at counts
      dsimp only
      rw [if_neg (by simp)]
      split
      case isTrue fits =>
        exact counts.advance fits
      case isFalse exceeds =>
        refine counts.stay ?_
        -- All digits so far were counted, or their value would be too large already.
        by_cases small : exactValue numeral.base digits < wordBound
        · rw [exactValue_concat, ← (counts.exact small).1]
          omega
        · exact (Nat.le_of_not_lt small).trans (exactValue_le_append positive)

theorem CountsFraction.pushFractionDigit (counts : numeral.CountsFraction digits)
    (large : 1 < numeral.base) (below : ∀ digit ∈ digits, digit < numeral.base)
    (digit : Nat) (last : digit < numeral.base) :
    (numeral.pushFractionDigit digit).CountsFraction (digits ++ [digit]) := by
  unfold CountsFraction at counts ⊢
  unfold Numeral.pushFractionDigit startFraction
  cases flag : numeral.fractionOverflow with
  | true =>
      rw [flag] at counts
      dsimp only
      rw [if_pos rfl]
      exact counts.stay ((counts.overflow.mp rfl).trans
        (Nat.pow_le_pow_right (by omega) (Nat.le_succ _)))
  | false =>
      rw [flag] at counts
      obtain ⟨exact, scale⟩ := counts.exact
      -- A fraction is below its scale, so that the scale alone decides.
      have inside : numeral.fraction * numeral.base + digit < numeral.scale * numeral.base := by
        have smaller := exactValue_lt large below
        rw [← exact, ← scale] at smaller
        have next := Nat.mul_le_mul_right numeral.base (Nat.succ_le_of_lt smaller)
        rw [Nat.succ_mul] at next
        omega
      dsimp only
      rw [if_neg (by simp)]
      split
      case isTrue fits =>
        exact counts.advance fits.2
      case isFalse exceeds =>
        refine counts.stay ?_
        rw [Nat.pow_succ, ← scale]
        omega

theorem countsInteger_pushDigits (fresh : numeral.CountsInteger []) (positive : 0 < numeral.base)
    (digits : List Nat) : (numeral.pushDigits digits).CountsInteger digits := by
  induction digits using List.reverseRec with
  | nil => exact fresh
  | append_singleton digits digit ih =>
      rw [pushDigits_append, pushDigits_singleton]
      refine ih.pushDigit ?_ digit
      rwa [(sameFraction_pushDigits numeral digits).base]

theorem countsFraction_pushFractionDigits (fresh : numeral.CountsFraction [])
    (large : 1 < numeral.base) (below : ∀ digit ∈ digits, digit < numeral.base) :
    (numeral.pushFractionDigits digits).CountsFraction digits := by
  induction digits using List.reverseRec with
  | nil => exact fresh
  | append_singleton digits digit ih =>
      have base := (sameInteger_pushFractionDigits numeral digits).base
      have others : ∀ other ∈ digits, other < numeral.base := fun other member =>
        below other (by simp [member])
      rw [pushFractionDigits_append, pushFractionDigits_singleton]
      refine (ih others).pushFractionDigit ?_ ?_ digit ?_
      · rwa [base]
      · rwa [base]
      · rw [base]
        exact below digit (by simp)

end Numeral

end Lexing
