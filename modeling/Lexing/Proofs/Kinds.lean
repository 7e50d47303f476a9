import Lexing.Numeral

/-!
# Kinds and their ranges

A kind belongs to the range in which its tag lies.  The ranges are disjoint, so what is known of
one tells kinds apart.  The flag of numbers with a fraction does not lead out of the range of
numbers.
-/

namespace Lexing

namespace Kind

variable {kind other closeKind : Kind}

/-! ## Ranges -/

theorem category_of_isNumber (number : kind.isNumber = true) : kind.category = .number :=
  of_decide_eq_true number

theorem category_of_isOperator (operator : kind.isOperator = true) : kind.category = .operator :=
  of_decide_eq_true operator

theorem category_of_isLiteral (literal : kind.isLiteral = true) : kind.category = .literal :=
  of_decide_eq_true literal

theorem category_eq_number_iff :
    kind.category = .number ↔ 0x1000 ≤ kind.code ∧ kind.code ≤ 0x1FFF := by
  unfold category
  grind

theorem category_eq_operator_iff :
    kind.category = .operator ↔ 0x2000 ≤ kind.code ∧ kind.code ≤ 0x2FFF := by
  unfold category
  grind

/-- Kinds of different ranges are different. -/
theorem ne_of_category {range : Category} (same : kind.category = range)
    (different : other.category ≠ range) : kind ≠ other := by
  rintro rfl
  exact different same

theorem isNumber_of_category (category : kind.category ≠ .number) : kind.isNumber = false :=
  decide_eq_false category

theorem isLiteral_of_category (category : kind.category ≠ .literal) : kind.isLiteral = false :=
  decide_eq_false category

theorem isComment_of_category (category : kind.category ≠ .atomic) : kind.isComment = false := by
  refine decide_eq_false ?_
  rintro (rfl | rfl)
  · exact category (by decide)
  · exact category (by decide)

theorem isComment_of_isOperator (operator : kind.isOperator = true) : kind.isComment = false :=
  isComment_of_category (by simp [category_of_isOperator operator])

theorem isControl_of_category (category : kind.category ≠ .control) : kind.isControl = false := by
  rw [isControl, decide_eq_false_iff_not]
  intro control
  exact category (if_pos control)

theorem isControl_of_isNumber (number : kind.isNumber = true) : kind.isControl = false :=
  isControl_of_category (by simp [category_of_isNumber number])

theorem isFloat_of_not_isNumber (other : kind.isNumber = false) : kind.isFloat = false := by
  rw [isFloat, other, Bool.false_and]

/-- The kinds that are handed out are operators. -/
theorem isOperator_of_range (above : operatorFirst.toNat ≤ kind.raw.toNat)
    (below : kind.raw.toNat < operatorUserFirst.toNat) : kind.isOperator = true := by
  rw [show operatorFirst.toNat = 0x2000 by decide] at above
  rw [show operatorUserFirst.toNat = 0x2800 by decide] at below
  refine decide_eq_true (category_eq_operator_iff.mpr ⟨above, ?_⟩)
  unfold code
  omega

theorem category_bracketClose? (closes : kind.bracketClose? = some closeKind) :
    kind.category = .bracket ∧ closeKind.category = .bracket := by
  unfold bracketClose? at closes
  split at closes
  case isTrue opens =>
    obtain rfl : _ = closeKind := by simpa using closes
    simp only [isBracketOpen, decide_eq_true_eq] at opens
    rcases opens with rfl | rfl | rfl | rfl <;> decide
  case isFalse => simp at closes

/-! ## Kinds of numbers -/

/-- The supported bases, each with its kind. -/
def numberBases : List (Nat × Kind) :=
  [(10, numberDecimal), (2, numberBinary), (4, numberQuaternary), (8, numberOctal),
    (12, numberDuodecimal), (16, numberHex)]

theorem mem_numberBases {base : Nat} (supported : numberForBase? base = some kind) :
    (base, kind) ∈ numberBases := by
  unfold numberForBase? at supported
  split at supported <;> cases supported <;> decide

theorem numberBase?_of_numberForBase? {base : Nat} (supported : numberForBase? base = some kind) :
    kind.numberBase? = some base := by
  have all : ∀ entry ∈ numberBases, entry.2.numberBase? = some entry.1 := by decide
  exact all _ (mem_numberBases supported)

/-- The kind of a base is the one of numbers without a fraction. -/
theorem integer_of_numberForBase? {base : Nat} (supported : numberForBase? base = some kind) :
    kind.isNumber = true ∧ kind.isFloat = false := by
  have all : ∀ entry ∈ numberBases, entry.2.isNumber = true ∧ entry.2.isFloat = false := by
    decide
  exact all _ (mem_numberBases supported)

/-! ## Numbers with a fraction -/

/-- Setting the float flag changes no other digit of the tag. -/
theorem raw_withFloat (number : kind.isNumber = true) :
    (kind.raw + 0x80).toNat = kind.raw.toNat + 0x80 := by
  have bounded := category_eq_number_iff.mp (category_of_isNumber number)
  unfold code at bounded
  rw [UInt16.toNat_add]
  simp only [UInt16.reduceToNat]
  omega

theorem hasBit_float_iff : kind.hasBit 0x80 = true ↔ kind.raw.toNat / 0x80 % 2 = 1 :=
  decide_eq_true_iff

theorem category_withFloat (number : kind.isNumber = true) : kind.withFloat.category = .number := by
  unfold withFloat
  split
  case isTrue => exact category_of_isNumber number
  case isFalse unset =>
    have bounded := category_eq_number_iff.mp (category_of_isNumber number)
    rw [hasBit_float_iff] at unset
    rw [category_eq_number_iff]
    unfold code at bounded ⊢
    rw [raw_withFloat number]
    omega

theorem isFloat_withFloat (number : kind.isNumber = true) : kind.withFloat.isFloat = true := by
  have flagged : kind.withFloat.hasBit 0x80 = true := by
    unfold withFloat
    split
    case isTrue => assumption
    case isFalse unset =>
      rw [hasBit_float_iff] at unset ⊢
      rw [raw_withFloat number]
      omega
  simp [isFloat, isNumber, category_withFloat number, flagged]

end Kind

namespace Numeral

variable {value : Numeral}

/-- A number stays one when it turns out to have a fraction. -/
theorem category_finalKind (number : value.kind.isNumber = true) :
    value.finalKind.category = .number := by
  unfold finalKind
  cases value.isFloat with
  | true => exact Kind.category_withFloat number
  | false => exact Kind.category_of_isNumber number

/-- The float flag of a finished number tells whether it has a fraction. -/
theorem isFloat_finalKind (number : value.kind.isNumber = true)
    (integer : value.kind.isFloat = false) : value.finalKind.isFloat = value.isFloat := by
  unfold finalKind
  cases value.isFloat with
  | true => exact Kind.isFloat_withFloat number
  | false => exact integer

end Numeral

end Lexing
