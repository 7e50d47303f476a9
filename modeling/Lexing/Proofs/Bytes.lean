import Lexing.Span

/-!
# Texts and their bytes

Positions count bytes, and the machine keeps symbols.  What the bytes of a text are cut into is
what its symbols are cut into, as long as every cut falls between two symbols.
-/

namespace Lexing

/-! ## The length of a text -/

@[simp] theorem byteLength_append (first second : List Char) :
    byteLength (first ++ second) = byteLength first + byteLength second := by
  induction first with
  | nil => simp [byteLength]
  | cons symbol rest ih =>
      simp only [List.cons_append, byteLength, ih]
      omega

theorem byteLength_reverse (text : List Char) : byteLength text.reverse = byteLength text := by
  induction text with
  | nil => rfl
  | cons symbol rest ih =>
      rw [List.reverse_cons, byteLength_append, ih]
      simp only [byteLength]
      omega

theorem byteLength_pos {text : List Char} (nonempty : text ≠ []) : 0 < byteLength text := by
  cases text with
  | nil => contradiction
  | cons symbol rest =>
      have size := symbol.utf8Size_pos
      simp only [byteLength]
      omega

theorem length_le_byteLength (text : List Char) : text.length ≤ byteLength text := by
  induction text with
  | nil => exact Nat.le_refl _
  | cons symbol rest ih =>
      have size := symbol.utf8Size_pos
      rw [List.length_cons, byteLength]
      omega

/-! ## Cuts -/

theorem dropBytes_append (before after : List Char) :
    dropBytes (byteLength before) (before ++ after) = some after := by
  induction before with
  | nil => cases after <;> rfl
  | cons symbol rest ih =>
      have size := symbol.utf8Size_pos
      have positive : ¬symbol.utf8Size + byteLength rest = 0 := by omega
      simp only [List.cons_append, byteLength, dropBytes, if_neg positive, Nat.le_add_right,
        if_true, Nat.add_sub_cancel_left, ih]

theorem takeBytes_append (before after : List Char) :
    takeBytes (byteLength before) (before ++ after) = some before := by
  induction before with
  | nil => cases after <;> rfl
  | cons symbol rest ih =>
      have size := symbol.utf8Size_pos
      have positive : ¬symbol.utf8Size + byteLength rest = 0 := by omega
      simp only [List.cons_append, byteLength, takeBytes, if_neg positive, Nat.le_add_right,
        if_true, Nat.add_sub_cancel_left, ih, Option.map_some]

/-- A cut between symbols gives the symbols between. -/
theorem slice?_append (before middle after : List Char) :
    (⟨byteLength before, byteLength before + byteLength middle⟩ : Span).slice?
      (before ++ (middle ++ after)) = some middle := by
  simp [Span.slice?, Span.length, dropBytes_append, takeBytes_append]

/-- A text can be cut at an offset in one way only. -/
theorem eq_of_byteLength {before after front rest : List Char}
    (same : before ++ after = front ++ rest) (length : byteLength before = byteLength front) :
    before = front ∧ after = rest := by
  induction before generalizing front with
  | nil =>
      cases front with
      | nil => exact ⟨rfl, same⟩
      | cons symbol front =>
          have positive := byteLength_pos (List.cons_ne_nil symbol front)
          simp only [byteLength] at length positive
          omega
  | cons first before ih =>
      cases front with
      | nil =>
          have positive := byteLength_pos (List.cons_ne_nil first before)
          simp only [byteLength] at length positive
          omega
      | cons symbol front =>
          obtain ⟨rfl, tails⟩ := List.cons_eq_cons.mp same
          simp only [byteLength] at length
          obtain ⟨rfl, rfl⟩ := ih tails (by omega)
          exact ⟨rfl, rfl⟩

/-- A marker at the end of a text, both with the newest symbol first, is cut off by its bytes as
it is by its symbols. -/
theorem takeBytes_reverse {marker newest : List Char} (ends : marker <+: newest) :
    takeBytes (byteLength newest - byteLength marker) newest.reverse =
      some (newest.drop marker.length).reverse := by
  obtain ⟨earlier, rfl⟩ := ends
  rw [byteLength_append, Nat.add_sub_cancel_left, List.drop_left, List.reverse_append,
    ← byteLength_reverse earlier, takeBytes_append]

end Lexing
