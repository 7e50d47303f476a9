import Lexing.Literal.Quoted
import Lexing.Proofs.Absorption
import Lexing.Proofs.Numerals

/-!
# The items of quoted literals

The content of a quoted literal is a sequence of items: plain symbols, escapes and continued
lines.  An escape with digits can go on, so it is the symbol behind it that ends it, and the
remark on it is only made there.  Every content can be divided into items, malformed escapes
included.
-/

namespace Lexing.Literal

/-! ## Signals -/

namespace Signal

def GoesOn : Signal → Prop
  | .proceed | .proceedWith _ => True
  | .stop | .stopWith _ | .fail _ => False

def Stops : Signal → Prop
  | .stop | .stopWith _ => True
  | .proceed | .proceedWith _ | .fail _ => False

instance : (signal : Signal) → Decidable signal.Stops
  | .stop | .stopWith _ => inferInstanceAs (Decidable True)
  | .proceed | .proceedWith _ | .fail _ => inferInstanceAs (Decidable False)

/-- The remark that comes with a signal.  The complaint of a failure is none. -/
def remark? : Signal → Option String
  | .proceedWith message | .stopWith message => some message
  | .proceed | .stop | .fail _ => none

theorem not_goesOn_of_stops {signal : Signal} (stops : signal.Stops) : ¬signal.GoesOn := by
  cases signal with
  | stop | stopWith => exact not_false
  | proceed | proceedWith | fail => exact stops.elim

theorem eq_proceed {signal : Signal} (goesOn : signal.GoesOn) (silent : signal.remark? = none) :
    signal = .proceed := by
  cases signal with
  | proceed => rfl
  | proceedWith => simp [remark?] at silent
  | stop | stopWith | fail => exact goesOn.elim

end Signal

def remarks (signals : List Signal) : List String :=
  signals.filterMap Signal.remark?

@[simp] theorem remarks_nil : remarks [] = [] :=
  rfl

@[simp] theorem remarks_append (first second : List Signal) :
    remarks (first ++ second) = remarks first ++ remarks second :=
  List.filterMap_append

theorem remarks_cons (signal : Signal) (rest : List Signal) :
    remarks (signal :: rest) = signal.remark?.toList ++ remarks rest := by
  cases found : signal.remark? <;> simp [remarks, found]

@[simp] theorem remarks_replicate (count : Nat) :
    remarks (List.replicate count .proceed) = [] := by
  simp [remarks, List.filterMap_replicate, Signal.remark?]

/-- The last symbol completes the literal, and no earlier one does or is refused. -/
def Closes (signals : List Signal) : Prop :=
  ∃ early last, signals = early ++ [last] ∧ (∀ signal ∈ early, signal.GoesOn) ∧ last.Stops

theorem not_closes_of_goesOn {signals : List Signal} (goOn : ∀ signal ∈ signals, signal.GoesOn) :
    ¬Closes signals := by
  rintro ⟨early, last, rfl, _, stops⟩
  exact Signal.not_goesOn_of_stops stops (goOn last (by simp))

theorem Closes.of_append {first second : List Signal} (closes : Closes (first ++ second))
    (nonempty : second ≠ []) : Closes second := by
  obtain ⟨early, last, same, goOn, stops⟩ := closes
  obtain ⟨front, final, rfl⟩ := List.eq_nil_or_concat second |>.resolve_left nonempty
  rw [List.concat_eq_append, ← List.append_assoc] at same
  obtain ⟨rfl, same⟩ := List.append_inj' same rfl
  obtain rfl : final = last := by simpa using same
  exact ⟨front, final, List.concat_eq_append, fun signal member => goOn signal (by simp [member]),
    stops⟩

theorem closes_cons {signal : Signal} {rest : List Signal} : Closes (signal :: rest) ↔
    signal.Stops ∧ rest = [] ∨ signal.GoesOn ∧ Closes rest := by
  constructor
  · rintro ⟨early, last, same, goOn, stops⟩
    cases early with
    | nil =>
        obtain ⟨rfl, rfl⟩ := List.cons_eq_cons.mp same
        exact .inl ⟨stops, rfl⟩
    | cons first early =>
        obtain ⟨rfl, rfl⟩ := List.cons_eq_cons.mp same
        rw [List.forall_mem_cons] at goOn
        exact .inr ⟨goOn.1, early, last, rfl, goOn.2, stops⟩
  · rintro (⟨stops, rfl⟩ | ⟨goesOn, early, last, rfl, goOn, stops⟩)
    · exact ⟨[], signal, rfl, by simp, stops⟩
    · exact ⟨signal :: early, last, rfl, List.forall_mem_cons.mpr ⟨goesOn, goOn⟩, stops⟩

section Readers

variable {ρ : Type} [Reader ρ]

theorem readAll_append (reader : ρ) (first second : List Char) :
    readAll reader (first ++ second) =
      ((readAll reader first).1 ++ (readAll (readAll reader first).2 second).1,
        (readAll (readAll reader first).2 second).2) := by
  induction first generalizing reader with
  | nil => rfl
  | cons symbol rest ih => simp [readAll, ih]

theorem length_readAll (reader : ρ) (text : List Char) :
    (readAll reader text).1.length = text.length := by
  induction text generalizing reader with
  | nil => rfl
  | cons symbol rest ih => simp [readAll, ih]

end Readers

namespace Quoted

/-! ## Items -/

/-- The letters that stand for a symbol behind a backslash, with these symbols. -/
def simpleLetters : List (Char × Char) :=
  [('n', '\n'), ('t', '\t'), ('r', '\r'), ('a', '\x07'), ('b', '\x08'), ('f', '\x0c'),
    ('v', '\x0b'), ('\\', '\\'), ('\'', '\''), ('"', '"'), ('?', '?')]

theorem simpleEscape?_eq (symbol : Char) : simpleEscape? symbol = simpleLetters.lookup symbol := by
  unfold simpleEscape?
  split <;> simp (disch := assumption) [simpleLetters, List.lookup_cons, beq_false_of_ne]

/-- A part of the content of a quoted literal: a symbol that stands for itself, or a backslash
with one further symbol, with octal digits, with an `x` and hexadecimal digits, with `u` or `U`
and hexadecimal digits, or with a line terminator.  Escapes may be malformed. -/
inductive Item where
  | plain (symbol : Char)
  | letter (symbol : Char)
  | octal (digits : List Char)
  | hex (digits : List Char)
  | universal (long : Bool) (digits : List Char)
  | splice (lineEnd : LineEnd)
deriving Repr, DecidableEq

def nameLetter (long : Bool) : Char :=
  if long then 'U' else 'u'

def nameWidth (long : Bool) : Nat :=
  if long then 8 else 4

/-- The value of some symbols that are digits. -/
def codeOf (base : Nat) (digits : List Char) : Nat :=
  exactValue base (digitsOf base digits)

/-- The symbol with the given code point, or the stand-in for it. -/
def symbolOf (code : Nat) : Char :=
  if code.isValidChar then Char.ofNat code else replacement

/-- The remark on a value that is no code point of a symbol. -/
def codeRemark? (code : Nat) : Option String :=
  if code.isValidChar then none
  else some ("escape value 0x" ++ Text.hexLower code ++ " is not a character")

/-- Digits of a base, at most `width` of them, and fewer only if no further one follows. -/
structure Digits (base width : Nat) (digits behind : List Char) : Prop where
  all : ∀ symbol ∈ digits, (digitValue? symbol base).isSome = true
  within : digits.length ≤ width
  ends : digits.length < width → ∀ symbol ∈ behind.head?, digitValue? symbol base = none

namespace Item

def spelling : Item → List Char
  | .plain symbol => [symbol]
  | .letter symbol => ['\\', symbol]
  | .octal digits => '\\' :: digits
  | .hex digits => '\\' :: 'x' :: digits
  | .universal long digits => '\\' :: nameLetter long :: digits
  | .splice lineEnd => lineEnd.splice

def denotes : Item → List Char
  | .plain symbol => [symbol]
  | .letter symbol => [(simpleLetters.lookup symbol).getD symbol]
  | .octal digits => [symbolOf (codeOf 8 digits)]
  | .hex digits => if digits = [] then [] else [symbolOf (codeOf 16 digits)]
  | .universal long digits =>
      if digits.length = nameWidth long then [symbolOf (codeOf 16 digits)] else [replacement]
  | .splice _ => []

def remark? : Item → Option String
  | .plain _ => none
  | .letter symbol =>
      if (simpleLetters.lookup symbol).isSome then none
      else some ("unknown escape sequence \\" ++ symbol.toString)
  | .octal digits => codeRemark? (codeOf 8 digits)
  | .hex digits =>
      if digits = [] then some "\\x used with no following hex digits"
      else codeRemark? (min (codeOf 16 digits) maxCode)
  | .universal long digits =>
      if digits.length = nameWidth long then codeRemark? (codeOf 16 digits)
      else some "incomplete universal character name"
  | .splice _ => none

/-- Only the symbol behind the item shows that it has ended. -/
def Open : Item → Prop
  | .plain _ | .letter _ | .splice _ => False
  | .octal digits => digits.length < 3
  | .hex _ => True
  | .universal long digits => digits.length < nameWidth long

instance : (item : Item) → Decidable item.Open
  | .plain _ | .letter _ | .splice _ => inferInstanceAs (Decidable False)
  | .octal digits => inferInstanceAs (Decidable (digits.length < 3))
  | .hex _ => inferInstanceAs (Decidable True)
  | .universal long digits => inferInstanceAs (Decidable (digits.length < nameWidth long))

/-- The remark that is made at the last symbol of the item. -/
def own? (item : Item) : Option String :=
  if item.Open then none else item.remark?

/-- The remark that is made at the symbol behind the item. -/
def due? (item : Item) : Option String :=
  if item.Open then item.remark? else none

/-- The item, malformed or not, is one where `behind` follows. -/
def Fits (mark : Char) (behind : List Char) : Item → Prop
  | .plain symbol => symbol ≠ mark ∧ symbol ≠ '\\' ∧ symbol ≠ '\n' ∧ symbol ≠ '\r'
  | .letter symbol => digitValue? symbol 8 = none ∧ symbol ∉ ['x', 'u', 'U', '\n', '\r']
  | .octal digits => digits ≠ [] ∧ Digits 8 3 digits behind
  | .hex digits => Digits 16 (digits.length + 1) digits behind
  | .universal long digits => Digits 16 (nameWidth long) digits behind
  | .splice lineEnd => lineEnd = .carriage → behind.head? ≠ some '\n'

/-- The item is well-formed where `behind` follows. -/
def Proper (mark : Char) (behind : List Char) : Item → Prop
  | .plain symbol => symbol ≠ mark ∧ symbol ≠ '\\' ∧ symbol ≠ '\n' ∧ symbol ≠ '\r'
  | .letter symbol => symbol ∈ simpleLetters.map Prod.fst
  | .octal digits => digits ≠ [] ∧ Digits 8 3 digits behind
  | .hex digits =>
      digits ≠ [] ∧ Digits 16 (digits.length + 1) digits behind ∧ (codeOf 16 digits).isValidChar
  | .universal long digits =>
      digits.length = nameWidth long ∧ Digits 16 (nameWidth long) digits behind ∧
        (codeOf 16 digits).isValidChar
  | .splice lineEnd => lineEnd = .carriage → behind.head? ≠ some '\n'

end Item

def contentOf (items : List Item) : List Char :=
  items.flatMap Item.spelling

/-- Every item holds where the next ones follow, and `behind` after the last one. -/
def Follow (holds : List Char → Item → Prop) : List Item → (behind : List Char) → Prop
  | [], _ => True
  | item :: rest, behind => holds (contentOf rest ++ behind) item ∧ Follow holds rest behind

/-- The text is that of the items and the mark behind them. -/
structure Divides (mark : Char) (items : List Item) (text : List Char) : Prop where
  text : text = contentOf items ++ [mark]
  fits : Follow (Item.Fits mark) items [mark]

/-- The text is that of well-formed items and the mark behind them. -/
structure WellFormed (mark : Char) (items : List Item) (text : List Char) : Prop where
  text : text = contentOf items ++ [mark]
  proper : Follow (Item.Proper mark) items [mark]

/-! ## Values -/

section Values

variable {base width code : Nat} {digits behind : List Char} {symbol : Char}

@[simp] theorem codeOf_nil (base : Nat) : codeOf base [] = 0 :=
  rfl

theorem codeOf_concat {digit : Nat} (value : digitValue? symbol base = some digit) :
    codeOf base (digits ++ [symbol]) = codeOf base digits * base + digit := by
  rw [codeOf, digitsOf_append, digitsOf_cons value, digitsOf_nil, exactValue_concat, codeOf]

theorem codeOf_lt (large : 1 < base) : codeOf base digits < base ^ digits.length := by
  have bound : codeOf base digits < base ^ (digitsOf base digits).length :=
    exactValue_lt large fun _ => lt_of_mem_digitsOf
  exact bound.trans_le (Nat.pow_le_pow_right (by omega) (List.length_filterMap_le _ _))

/-- Values that are cut off are no code points. -/
theorem symbolOf_min (code : Nat) : symbolOf (min code maxCode) = symbolOf code := by
  rcases Nat.le_total code maxCode with small | large
  · rw [Nat.min_eq_left small]
  · have beyond : ¬code.isValidChar := by
      unfold Nat.isValidChar maxCode at *
      omega
    have limit : ¬maxCode.isValidChar := by decide
    rw [Nat.min_eq_right large, symbolOf, symbolOf, if_neg beyond, if_neg limit]

theorem codeRemark?_eq_none : codeRemark? code = none ↔ code.isValidChar := by
  unfold codeRemark?
  split_ifs with valid
  · simp [valid]
  · simp [valid]

theorem isValidChar_min : (min code maxCode).isValidChar ↔ code.isValidChar := by
  unfold Nat.isValidChar maxCode
  omega

/-- An octal escape always names a symbol. -/
theorem isValidChar_octal (run : Digits 8 3 digits behind) : (codeOf 8 digits).isValidChar := by
  have bound : codeOf 8 digits < 8 ^ 3 :=
    (codeOf_lt (by omega)).trans_le (Nat.pow_le_pow_right (by omega) run.within)
  unfold Nat.isValidChar
  omega

end Values

/-! ## Well-formed items -/

section Proper

variable {mark : Char} {behind : List Char} {item : Item}

theorem mem_simpleLetters {symbol : Char} :
    symbol ∈ simpleLetters.map Prod.fst ↔ (simpleLetters.lookup symbol).isSome = true := by
  rw [List.lookup_isSome_iff, List.mem_map]
  constructor
  · rintro ⟨entry, member, rfl⟩
    exact ⟨entry, member, beq_self_eq_true _⟩
  · rintro ⟨entry, member, same⟩
    exact ⟨entry, member, (beq_iff_eq.mp same).symm⟩

/-- No letter that stands for a symbol begins a longer escape. -/
theorem fits_simpleLetter {symbol : Char} (simple : symbol ∈ simpleLetters.map Prod.fst) :
    digitValue? symbol 8 = none ∧ symbol ∉ ['x', 'u', 'U', '\n', '\r'] := by
  have all : ((simpleLetters.map Prod.fst).all fun letter =>
      digitValue? letter 8 = none ∧ letter ∉ ['x', 'u', 'U', '\n', '\r']) = true := by
    decide
  exact of_decide_eq_true (List.all_eq_true.mp all symbol simple)

/-- An item is well-formed when there is no remark on it. -/
theorem Item.proper_iff : item.Proper mark behind ↔
    item.Fits mark behind ∧ item.remark? = none := by
  cases item with
  | plain symbol => simp [Proper, Fits, remark?]
  | letter symbol =>
      rw [Proper, mem_simpleLetters, Fits, remark?]
      constructor
      · intro simple
        exact ⟨fits_simpleLetter (mem_simpleLetters.mpr simple), if_pos simple⟩
      · rintro ⟨_, silent⟩
        by_contra unknown
        rw [if_neg unknown] at silent
        contradiction
  | octal digits =>
      rw [Proper, Fits, remark?]
      exact ⟨fun proper => ⟨proper, codeRemark?_eq_none.mpr (isValidChar_octal proper.2)⟩, And.left⟩
  | hex digits =>
      rw [Proper, Fits, remark?]
      by_cases empty : digits = []
      · simp [empty]
      · simp [empty, codeRemark?_eq_none, isValidChar_min]
  | universal long digits =>
      rw [Proper, Fits, remark?]
      by_cases full : digits.length = nameWidth long
      · simp [full, codeRemark?_eq_none]
      · simp [full]
  | splice lineEnd => simp [Proper, Fits, remark?]

theorem follow_and {first second : List Char → Item → Prop} {items : List Item} :
    Follow (fun behind item => first behind item ∧ second behind item) items behind ↔
      Follow first items behind ∧ Follow second items behind := by
  induction items with
  | nil => simp [Follow]
  | cons item rest ih =>
      simp only [Follow, ih]
      tauto

theorem follow_const {holds : Item → Prop} {items : List Item} :
    Follow (fun _ => holds) items behind ↔ ∀ item ∈ items, holds item := by
  induction items with
  | nil => simp [Follow]
  | cons item rest ih => simp [Follow, ih]

theorem wellFormed_iff {items : List Item} {text : List Char} : WellFormed mark items text ↔
    Divides mark items text ∧ ∀ item ∈ items, item.remark? = none := by
  have proper : Item.Proper mark = fun behind item =>
      item.Fits mark behind ∧ item.remark? = none := by
    funext behind item
    exact propext Item.proper_iff
  constructor
  · rintro ⟨text, follow⟩
    rw [proper, follow_and, follow_const] at follow
    exact ⟨⟨text, follow.1⟩, follow.2⟩
  · rintro ⟨⟨text, fits⟩, silent⟩
    refine ⟨text, ?_⟩
    rw [proper, follow_and, follow_const]
    exact ⟨fits, silent⟩

end Proper

end Quoted

end Lexing.Literal
