import Lexing.Proofs.LongestWalk

/-!
# Texts with insertions

Further symbols can be woven into a text, in front of any of its own symbols.  The
symbols of the text then stand at later offsets: each one moves by the symbols that
were inserted up to it.
-/

namespace Lexing

def Payload.moved (move : Nat → Nat) : Payload → Payload
  | .integer value => .integer { value with suffixStart := move value.suffixStart }
  | .float value => .float { value with suffixStart := move value.suffixStart }
  | other => other

def Token.moved (move : Nat → Nat) (token : Token) : Token :=
  { token with
    span := ⟨move token.span.start, move token.span.stop⟩
    payload := token.payload.moved move }

def Span.moved (move : Nat → Nat) (span : Span) : Span :=
  ⟨move span.start, move span.stop⟩

def Event.moved (move : Nat → Nat) : Event → Event
  | .token delivered => .token (delivered.moved move)
  | .unexpected span => .unexpected (span.moved move)
  | .unknownOperator span => .unknownOperator (span.moved move)
  | .literalMessage span message => .literalMessage (span.moved move) message

def Report.moved (move : Nat → Nat) : Report → Report
  | .token delivered => .token (delivered.moved move)
  | .unexpected span complaint => .unexpected (span.moved move) complaint
  | .unknownOperator span => .unknownOperator (span.moved move)
  | .literalMessage span message => .literalMessage (span.moved move) message

theorem Report.moved_id (report : Report) : report.moved id = report := by
  cases report with
  | token token =>
      obtain ⟨_, _, _, payload⟩ := token
      cases payload <;> rfl
  | _ => rfl

theorem Report.event_moved (move : Nat → Nat) (report : Report) :
    (report.moved move).event = report.event.moved move := by
  cases report <;> rfl

namespace Located

/-- The text of some symbols with insertions in front of them. -/
def woven (insert : Located → List Char) (symbols : List Located) : List Char :=
  symbols.flatMap fun located => insert located ++ [located.symbol]

/-- Where an offset gets to when symbols are inserted: it moves by those that are
inserted in front of symbols before it. -/
def moved (insert : Located → List Char) (symbols : List Located) (offset : Nat) : Nat :=
  offset + byteLength ((symbols.filter fun located => located.offset < offset).flatMap insert)

variable {insert : Located → List Char}

theorem byteLength_woven (insert : Located → List Char) (symbols : List Located) :
    byteLength (woven insert symbols) =
      byteLength (symbols.map Located.symbol) + byteLength (symbols.flatMap insert) := by
  induction symbols with
  | nil => rfl
  | cons located rest ih =>
      rw [woven] at ih ⊢
      simp only [List.flatMap_cons, List.map_cons, byteLength_append, byteLength, ih]
      omega

theorem byteLength_le_woven (insert : Located → List Char) (text : List Char) :
    byteLength text ≤ byteLength (woven insert (ofText 0 text)) := by
  rw [byteLength_woven, map_symbol_ofText]
  omega

theorem offset_of_mem_ofText {offset : Nat} {text : List Char} {located : Located}
    (fits : offset + byteLength text ≤ maxOffset) (member : located ∈ ofText offset text) :
    offset ≤ located.offset ∧ located.offset < offset + byteLength text := by
  induction text generalizing offset with
  | nil => simp [ofText] at member
  | cons symbol rest ih =>
      have size := symbol.utf8Size_pos
      simp only [byteLength] at fits ⊢
      rw [ofText, symbolEnd_eq (by omega)] at member
      rcases List.mem_cons.mp member with rfl | later
      · dsimp only
        omega
      · have bounds := ih (by omega) later
        omega

/-- The offset at which a part of the text ends moves by all symbols inserted there. -/
theorem moved_byteLength (insert : Located → List Char) {front rest : List Char}
    (fits : byteLength (front ++ rest) ≤ maxOffset) :
    moved insert (ofText 0 (front ++ rest)) (byteLength front) =
      byteLength (woven insert (ofText 0 front)) := by
  have bound := fits
  rw [byteLength_append] at bound
  have early : (ofText 0 front).filter (fun located => located.offset < byteLength front) =
      ofText 0 front := by
    refine List.filter_eq_self.mpr fun located member => ?_
    have bounds := offset_of_mem_ofText (by omega) member
    simpa using bounds.2
  have late : (ofText (0 + byteLength front) rest).filter
      (fun located => located.offset < byteLength front) = [] := by
    refine List.filter_eq_nil_iff.mpr fun located member => ?_
    have bounds := offset_of_mem_ofText (by omega) member
    simpa using bounds.1
  rw [moved, ofText_append (by omega), List.filter_append, early, late, List.append_nil,
    byteLength_woven, map_symbol_ofText]

theorem moved_whole (insert : Located → List Char) {text : List Char}
    (fits : byteLength text ≤ maxOffset) :
    moved insert (ofText 0 text) (byteLength text) = byteLength (woven insert (ofText 0 text)) := by
  have padded : byteLength (text ++ []) ≤ maxOffset := by simpa using fits
  have whole := moved_byteLength insert padded
  rwa [List.append_nil] at whole

/-- Symbols of a text and those of the text with insertions, with their offsets. -/
inductive Interwoven (insert : Located → List Char) (move : Nat → Nat) :
    List Located → List Located → Prop
  | nil : Interwoven insert move [] []
  | cons {located placed : Located} {rest others : List Located} :
      placed.symbol = located.symbol →
      placed.offset = move located.offset + byteLength (insert located) →
      placed.stop = move located.stop → Interwoven insert move rest others →
      Interwoven insert move (located :: rest)
        (ofText (move located.offset) (insert located) ++ placed :: others)

theorem woven_append (insert : Located → List Char) (first second : List Located) :
    woven insert (first ++ second) = woven insert first ++ woven insert second :=
  List.flatMap_append

theorem woven_cons (insert : Located → List Char) (located : Located) (rest : List Located) :
    woven insert (located :: rest) = insert located ++ located.symbol :: woven insert rest := by
  simp [woven]

/-- A symbol behind an insertion. -/
theorem ofText_insertion {offset : Nat} {insertion more : List Char} {symbol : Char}
    (fits : offset + byteLength insertion + symbol.utf8Size + byteLength more ≤ maxOffset) :
    ofText offset (insertion ++ symbol :: more) = ofText offset insertion ++
      ⟨symbol, offset + byteLength insertion⟩ ::
        ofText (offset + byteLength insertion + symbol.utf8Size) more := by
  rw [ofText_append (by rw [byteLength_append, byteLength]; omega), ofText,
    symbolEnd_eq (by omega)]

theorem interwoven_from {front rest : List Char}
    (fits : byteLength (woven insert (ofText 0 (front ++ rest))) ≤ maxOffset) :
    Interwoven insert (moved insert (ofText 0 (front ++ rest)))
      (ofText (byteLength front) rest)
      (ofText (byteLength (woven insert (ofText 0 front)))
        (woven insert (ofText (byteLength front) rest))) := by
  induction rest generalizing front with
  | nil => exact .nil
  | cons symbol rest ih =>
      have short := Nat.le_trans (byteLength_le_woven insert (front ++ symbol :: rest)) fits
      have bound := short
      rw [byteLength_append, byteLength] at bound
      have ends : byteLength (front ++ [symbol]) = byteLength front + symbol.utf8Size := by
        rw [byteLength_append]
        rfl
      have grown : byteLength (woven insert (ofText 0 (front ++ [symbol]))) =
          byteLength (woven insert (ofText 0 front)) +
            byteLength (insert ⟨symbol, byteLength front⟩) + symbol.utf8Size := by
        rw [ofText_append (by omega), woven_append, byteLength_append, Nat.zero_add, ofText,
          woven_cons, byteLength_append, byteLength]
        exact (Nat.add_assoc _ _ _).symm
      have same : front ++ symbol :: rest = (front ++ [symbol]) ++ rest := by simp
      have total := fits
      rw [same, ofText_append (by rw [← same]; omega), woven_append, byteLength_append, grown,
        Nat.zero_add, ends] at total
      have start := moved_byteLength insert short
      have stop := moved_byteLength insert (same ▸ short)
      have onward := ih (same ▸ fits)
      rw [grown, ends, ← same] at stop onward
      generalize moved insert (ofText 0 (front ++ symbol :: rest)) = move at start stop onward ⊢
      rw [ofText, symbolEnd_eq (by omega), woven_cons, ofText_insertion total, ← start]
      rw [← start] at stop onward total
      refine .cons rfl rfl ?_ onward
      show symbolEnd symbol _ = move (symbolEnd symbol (byteLength front))
      rw [symbolEnd_eq (by dsimp only; omega), symbolEnd_eq (by omega), stop]

/-- The symbols of a text and those of the text with insertions. -/
theorem interwoven {text : List Char}
    (fits : byteLength (woven insert (ofText 0 text)) ≤ maxOffset) :
    Interwoven insert (moved insert (ofText 0 text)) (ofText 0 text)
      (ofText 0 (woven insert (ofText 0 text))) :=
  interwoven_from (List.nil_append text ▸ fits)

end Located

end Lexing
