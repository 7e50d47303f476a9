import Lexing.Proofs.QuotedReading
import Lexing.Proofs.Terminators

/-!
# The arithmetic of escapes

A reader of quoted literals may be called in any order, also when it has answered that the literal
stops or fails.  Whatever the calls were, the escape that it stands in is the one that the digits
since the backslash lead to.  So values and numbers of digits stay in range: of an octal escape
and of a universal character name because few digits are collected, and of a hexadecimal escape
because its value is cut off, while the number of its digits never becomes zero again.
-/

namespace Lexing.Literal

/-! ## Calls -/

inductive Call where
  | read (symbol : Char)
  | reset
  | take
  | finish
deriving Repr, DecidableEq

def Call.symbol? : Call → Option Char
  | .read symbol => some symbol
  | .reset | .take | .finish => none

section Calls

variable {ρ : Type} [Reader ρ]

def Call.perform (call : Call) (reader : ρ) : ρ :=
  match call with
  | .read symbol => (Reader.read reader symbol).2
  | .reset => Reader.reset reader
  | .take => (Reader.take reader).2
  | .finish => (Reader.finish reader).2

def performAll (reader : ρ) (calls : List Call) : ρ :=
  calls.foldl (fun reader call => call.perform reader) reader

@[simp] theorem performAll_concat (reader : ρ) (calls : List Call) (call : Call) :
    performAll reader (calls ++ [call]) = call.perform (performAll reader calls) := by
  simp [performAll]

end Calls

def symbolsRead (calls : List Call) : List Char :=
  calls.filterMap Call.symbol?

@[simp] theorem symbolsRead_concat (calls : List Call) (call : Call) :
    symbolsRead (calls ++ [call]) = symbolsRead calls ++ call.symbol?.toList := by
  cases symbol : call.symbol? <;> simp [symbolsRead, symbol]

namespace Escape

/-- The base of the digits that an escape collects. -/
def base? : Escape → Option Nat
  | .octal .. => some 8
  | .hex .. | .universal .. => some 16
  | .outside | .opened | .afterReturn => none

/-- The value and the number of digits are no larger than the digits of the escape allow. -/
def InRange : Escape → Prop
  | .octal value digits => (digits = 1 ∨ digits = 2) ∧ value < 8 ^ digits
  | .hex value digits => value ≤ Quoted.maxCode ∧ digits ≤ 255
  | .universal value digits width =>
      (width = 4 ∨ width = 8) ∧ digits < width ∧ value < 16 ^ digits
  | .outside | .opened | .afterReturn => True

/-- With one more digit of its base, the value fits a word of 32 bits and the number of digits one
of 8 bits.  Those of a hexadecimal escape are cut off there. -/
def HasRoom : Escape → Prop
  | .octal value digits =>
      ∀ digit < 8, value * 8 + digit ≤ Quoted.maxCode ∧ digits + 1 ≤ 255
  | .hex value digits => value ≤ Quoted.maxCode ∧ digits ≤ 255
  | .universal value digits _ =>
      ∀ digit < 16, value * 16 + digit ≤ Quoted.maxCode ∧ digits + 1 ≤ 255
  | .outside | .opened | .afterReturn => True

theorem InRange.hasRoom {escape : Escape} (inRange : escape.InRange) : escape.HasRoom := by
  cases escape with
  | outside | opened | afterReturn => trivial
  | hex value digits => exact inRange
  | octal value digits =>
      obtain ⟨few, bound⟩ := inRange
      intro digit below
      have small : value < 8 ^ 2 := bound.trans_le (Nat.pow_le_pow_right (by decide) (by omega))
      unfold Quoted.maxCode
      omega
  | universal value digits width =>
      obtain ⟨widths, few, bound⟩ := inRange
      intro digit below
      have small : value < 16 ^ 7 := bound.trans_le (Nat.pow_le_pow_right (by decide) (by omega))
      unfold Quoted.maxCode
      omega

end Escape

namespace Quoted

variable {start reader : Quoted} {calls : List Call} {call : Call} {lead digits : List Char}
  {base digit : Nat} {symbol : Char} {escape : Escape}

/-! ## Digits since the backslash -/

/-- Since the last backslash the calls have read the lead of an escape and these digits of the
base, and nothing was reset. -/
structure Collects (start : Quoted) (calls : List Call) (lead : List Char) (base : Nat)
    (digits : List Char) : Prop where
  all : ∀ symbol ∈ digits, (digitValue? symbol base).isSome = true
  since : ∃ before behind, calls = before ++ behind ∧
    (performAll start before).escape = .opened ∧ .reset ∉ behind ∧
    symbolsRead behind = lead ++ digits

theorem Collects.opened (stands : (performAll start calls).escape = .opened) :
    Collects start (calls ++ [.read symbol]) [symbol] base [] where
  all := by simp
  since := ⟨calls, [.read symbol], rfl, stands, by simp, rfl⟩

theorem Collects.first (stands : (performAll start calls).escape = .opened)
    (value : digitValue? symbol base = some digit) :
    Collects start (calls ++ [.read symbol]) [] base [symbol] where
  all := by simp [value]
  since := ⟨calls, [.read symbol], rfl, stands, by simp, rfl⟩

theorem Collects.extend (collects : Collects start calls lead base digits)
    (value : digitValue? symbol base = some digit) :
    Collects start (calls ++ [.read symbol]) lead base (digits ++ [symbol]) := by
  obtain ⟨all, before, behind, rfl, opened, kept, spelled⟩ := collects
  constructor
  · intro other member
    rcases List.mem_append.mp member with early | last
    · exact all other early
    · rw [List.mem_singleton.mp last, value]
      rfl
  · refine ⟨before, behind ++ [.read symbol], List.append_assoc _ _ _, opened, by simp [kept], ?_⟩
    rw [symbolsRead_concat, spelled, List.append_assoc]
    rfl

theorem Collects.silent (collects : Collects start calls lead base digits)
    (unread : call.symbol? = none) (keeps : call ≠ .reset) :
    Collects start (calls ++ [call]) lead base digits := by
  obtain ⟨all, before, behind, rfl, opened, kept, spelled⟩ := collects
  refine ⟨all, before, behind ++ [call], List.append_assoc _ _ _, opened, ?_, ?_⟩
  · simp [kept, keeps.symm]
  · rw [symbolsRead_concat, unread, spelled, Option.toList_none, List.append_nil]

/-! ## Escapes and what was read -/

/-- The escape that some calls lead to: inside of it, the one that its digits lead to. -/
inductive Tracked (start : Quoted) (calls : List Call) : Escape → Prop
  | outside : Tracked start calls .outside
  | opened : Tracked start calls .opened
  | afterReturn : Tracked start calls .afterReturn
  | octal {digits : List Char} : Collects start calls [] 8 digits → digits ≠ [] →
      digits.length < 3 → Tracked start calls (octalState digits)
  | hex {digits : List Char} : Collects start calls ['x'] 16 digits →
      Tracked start calls (hexState digits)
  | universal {long : Bool} {digits : List Char} :
      Collects start calls [nameLetter long] 16 digits →
      digits.length < nameWidth long → Tracked start calls (nameState (nameWidth long) digits)

theorem tracked_readText (outside : reader.escape = .outside) (symbol : Char) :
    Tracked start calls (reader.readText symbol).2.escape := by
  unfold readText
  split_ifs with ends escapes closes
  · rw [outside]
    exact .outside
  · exact .opened
  · rw [outside]
    exact .outside
  · rw [push, outside]
    exact .outside

theorem tracked_complete (reader : Quoted) (code : Nat) :
    Tracked start calls (reader.complete code).2.escape := by
  rw [complete_escape]
  exact .outside

/-- What a symbol behind a backslash leads to. -/
theorem tracked_readOpened (stands : (performAll start calls).escape = .opened)
    (reader : Quoted) (symbol : Char) :
    Tracked start (calls ++ [.read symbol]) (reader.readOpened symbol).2.escape := by
  unfold readOpened
  dsimp only
  cases simpleEscape? symbol with
  | some decoded => exact .outside
  | none =>
      dsimp only
      cases value : digitValue? symbol 8 with
      | some digit =>
          have code : octalState [symbol] = .octal digit 1 := by
            have concat : codeOf 8 ([] ++ [symbol]) = codeOf 8 [] * 8 + digit := codeOf_concat value
            rw [codeOf_nil, Nat.zero_mul, Nat.zero_add, List.nil_append] at concat
            simp [octalState, concat]
          dsimp only [within]
          rw [← code]
          exact .octal (.first stands value) (by simp) (by simp)
      | none =>
          dsimp only
          split_ifs with hex short long
          · subst hex
            exact .hex (.opened stands)
          · subst short
            exact @Tracked.universal _ _ false [] (.opened stands) (by decide)
          · subst long
            exact @Tracked.universal _ _ true [] (.opened stands) (by decide)
          · exact .outside
          · exact .afterReturn
          · exact .outside

/-- A symbol that is no digit of its base ends an escape. -/
theorem read_foreign (foreign : digitValue? symbol base = none)
    (collecting : reader.escape.base? = some base) :
    Reader.read reader symbol = reader.readAfterEscape symbol := by
  show read reader symbol = _
  unfold read
  cases stands : reader.escape with
  | outside | opened | afterReturn => simp [stands, Escape.base?] at collecting
  | octal value digits | hex value digits | universal value digits width =>
      rw [stands] at collecting
      obtain rfl := Option.some.inj collecting
      dsimp only
      rw [foreign]

theorem tracked_read_foreign (foreign : digitValue? symbol base = none)
    (collecting : reader.escape.base? = some base) :
    Tracked start calls (Reader.read reader symbol).2.escape := by
  rw [read_foreign foreign collecting]
  exact tracked_readText (endEscape_escape reader) symbol

/-- One more symbol. -/
theorem Tracked.readSymbol (tracked : Tracked start calls (performAll start calls).escape)
    (symbol : Char) :
    Tracked start (calls ++ [.read symbol])
      (Reader.read (performAll start calls) symbol).2.escape := by
  generalize known : performAll start calls = reader at tracked
  generalize stands : reader.escape = escape at tracked
  cases tracked with
  | outside =>
      rw [read_outside stands]
      exact tracked_readText stands symbol
  | opened =>
      have reads : Reader.read reader symbol = reader.readOpened symbol := by
        show read reader symbol = _
        rw [Quoted.read, stands]
      rw [reads]
      exact tracked_readOpened (known ▸ stands) reader symbol
  | afterReturn =>
      show Tracked start _ (read reader symbol).2.escape
      rw [Quoted.read, stands]
      dsimp only
      split
      · exact .outside
      · exact tracked_readText rfl symbol
  | @octal digits collects filled short =>
      have same : reader = { reader with escape := octalState digits } := by rw [← stands]
      cases value : digitValue? symbol 8 with
      | some digit =>
          rw [same, read_octal value]
          split
          case isTrue more =>
            exact .octal (collects.extend value) (by simp) (by simpa using more)
          case isFalse => exact tracked_complete _ _
      | none =>
          apply tracked_read_foreign value
          rw [stands, octalState, if_neg filled]
          rfl
  | @hex digits collects =>
      have same : reader = { reader with escape := hexState digits } := by rw [← stands]
      cases value : digitValue? symbol 16 with
      | some digit =>
          rw [same, read_hex value]
          exact .hex (collects.extend value)
      | none =>
          apply tracked_read_foreign value
          rw [stands]
          rfl
  | @universal long digits collects short =>
      have same : reader = { reader with escape := nameState (nameWidth long) digits } := by
        rw [← stands]
      cases value : digitValue? symbol 16 with
      | some digit =>
          rw [same, read_name value]
          split
          case isTrue => exact tracked_complete _ _
          case isFalse unfilled =>
            exact .universal (collects.extend value) (by simp; omega)
      | none =>
          apply tracked_read_foreign value
          rw [stands]
          rfl

/-- A call that neither reads nor resets. -/
theorem Tracked.silent (tracked : Tracked start calls escape) (unread : call.symbol? = none)
    (keeps : call ≠ .reset) : Tracked start (calls ++ [call]) escape := by
  cases tracked with
  | outside => exact .outside
  | opened => exact .opened
  | afterReturn => exact .afterReturn
  | octal collects filled short => exact .octal (collects.silent unread keeps) filled short
  | hex collects => exact .hex (collects.silent unread keeps)
  | universal collects short => exact .universal (collects.silent unread keeps) short

/-- After any calls the escape is the one that the digits since the backslash lead to. -/
theorem tracked_performAll (fresh : start.escape = .outside) (calls : List Call) :
    Tracked start calls (performAll start calls).escape := by
  induction calls using List.reverseRecOn with
  | nil =>
      rw [show performAll start [] = start from rfl, fresh]
      exact .outside
  | append_singleton calls call ih =>
      rw [performAll_concat]
      cases call with
      | read symbol => exact ih.readSymbol symbol
      | reset => exact .outside
      | take => exact ih.silent rfl (by simp)
      | finish => exact ih.silent rfl (by simp)

theorem Tracked.inRange (tracked : Tracked start calls escape) : escape.InRange := by
  cases tracked with
  | outside | opened | afterReturn => trivial
  | @octal digits collects filled short =>
      have some := List.length_pos_iff.mpr filled
      rw [octalState, if_neg filled]
      exact ⟨by omega, codeOf_lt (by decide)⟩
  | hex collects => exact ⟨Nat.min_le_right _ _, Nat.min_le_right _ _⟩
  | @universal long digits collects short =>
      refine ⟨?_, short, codeOf_lt (by decide)⟩
      cases long
      · exact .inl rfl
      · exact .inr rfl

theorem Tracked.of_hex {value count : Nat} (tracked : Tracked start calls (.hex value count)) :
    ∃ digits, Collects start calls ['x'] 16 digits ∧ (count = 0 ↔ digits = []) ∧
      value = min (codeOf 16 digits) maxCode := by
  generalize stands : Escape.hex value count = escape at tracked
  cases tracked with
  | outside | opened | afterReturn => contradiction
  | octal _ filled =>
      rw [octalState, if_neg filled] at stands
      contradiction
  | universal => contradiction
  | @hex digits collects =>
      obtain ⟨rfl, rfl⟩ := Escape.hex.inj stands
      refine ⟨digits, collects, ?_, rfl⟩
      rw [← List.length_eq_zero_iff]
      omega

/-- Whatever calls a string or a character literal has received, the value of the escape that it
stands in and the number of its digits are in range, that of a hexadecimal escape is the value of
all digits since its lead, cut off at the largest value, and the number of these digits is
counted as zero only where there are none.  So there is always room for one more digit. -/
theorem escapes_stay_in_range (mark : Char) (single : Bool) (calls : List Call) :
    let start : Quoted := { mark, single }
    let reader := performAll start calls
    reader.escape.InRange ∧
      (∀ value count, reader.escape = .hex value count →
        ∃ digits, Collects start calls ['x'] 16 digits ∧ (count = 0 ↔ digits = []) ∧
          value = min (codeOf 16 digits) maxCode) ∧
      reader.escape.HasRoom := by
  intro start reader
  have tracked : Tracked start calls reader.escape := tracked_performAll rfl calls
  have inRange := tracked.inRange
  refine ⟨inRange, ?_, inRange.hasRoom⟩
  intro value count stands
  rw [stands] at tracked
  exact tracked.of_hex

/-- Nine digits are too many for the value, and calls between the symbols do not count. -/
theorem escapes_stay_in_range_cut_off :
    let start := string '"'
    let calls : List Call :=
      [.read '\\', .take, .read 'x'] ++ List.replicate 9 (.read 'f') ++ [.finish]
    (performAll start calls).escape = .hex maxCode 9 ∧
      ∃ digits, Collects start calls ['x'] 16 digits ∧ (9 = 0 ↔ digits = []) ∧
        maxCode = min (codeOf 16 digits) maxCode := by
  intro start calls
  have stands : (performAll start calls).escape = .hex maxCode 9 := by decide
  obtain ⟨_, hex, _⟩ := escapes_stay_in_range '"' false calls
  exact ⟨stands, hex maxCode 9 stands⟩

end Quoted

end Lexing.Literal
