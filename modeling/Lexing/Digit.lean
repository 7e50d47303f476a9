/-!
# Digits

Digits are the ASCII digits and letters.  Letters of either case continue the
decimal digits from ten on.
-/

namespace Lexing

/-- The value of a symbol as a digit of the largest base, if it is a digit or a
letter. -/
def digitWorth? (symbol : Char) : Option Nat :=
  if '0' ≤ symbol ∧ symbol ≤ '9' then some (symbol.toNat - '0'.toNat)
  else if 'a' ≤ symbol ∧ symbol ≤ 'z' then some (symbol.toNat - 'a'.toNat + 10)
  else if 'A' ≤ symbol ∧ symbol ≤ 'Z' then some (symbol.toNat - 'A'.toNat + 10)
  else none

/-- The value of a symbol as a digit of `base`.  Bases above sixteen have no
digits. -/
def digitValue? (symbol : Char) (base : Nat) : Option Nat :=
  if base ≤ 16 then (digitWorth? symbol).filter (· < base) else none

/-- A digit is below its base. -/
theorem digitValue?_lt {symbol : Char} {base digit : Nat}
    (value : digitValue? symbol base = some digit) : digit < base := by
  unfold digitValue? at value
  split at value
  · simpa using (Option.filter_eq_some_iff.mp value).2
  · simp at value

end Lexing
