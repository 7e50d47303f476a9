import Lexing.Proofs.Outcomes

/-!
# Looking for a closing marker

The symbols that were seen of the marker are always the last ones that were read, so a comment
only ends with its marker.  The search never goes back.  If the first symbol of the marker does
not occur in it again, no longer part of the marker can be at the end of what was read, so no
marker is missed.
-/

namespace Lexing.Scan

variable {marker read : List Char} {seen count : Nat} {symbol : Char}

/-- The first symbol of the marker does not occur in it again. -/
def Unrepeated (marker : List Char) : Prop :=
  ∀ first rest, marker = first :: rest → first ∉ rest

/-- The text is the content of a comment, up to where its closing marker first occurs. -/
def FirstClosed (marker content : List Char) : Prop :=
  ∀ front back, content ++ marker = front ++ (marker ++ back) → back = []

/-- The marker was not read yet, and `seen` symbols of it are the longest part of it at the end
of what was read. -/
structure Seeks (marker read : List Char) (seen : Nat) : Prop where
  absent : ¬marker <:+: read
  longest : ∀ count ≤ marker.length, marker.take count <:+ read → count ≤ seen

/-- What was seen of the marker is at the end of what was read. -/
theorem markerSeen_suffix (symbol : Char) (seenBefore : marker.take seen <:+ read) :
    marker.take (markerSeen marker seen symbol) <:+ read ++ [symbol] := by
  rw [← List.reverse_prefix] at seenBefore ⊢
  simpa using marker_prefix seenBefore

/-- A part of the marker at the end grows by one symbol. -/
theorem take_succ_suffix_iff (bound : count < marker.length) :
    marker.take (count + 1) <:+ read ++ [symbol] ↔
      marker[count] = symbol ∧ marker.take count <:+ read := by
  rw [List.take_add_one, List.getElem?_eq_getElem bound, Option.toList_some]
  constructor
  · rintro ⟨front, same⟩
    rw [← List.append_assoc] at same
    obtain ⟨early, last⟩ := List.append_inj' same rfl
    exact ⟨List.singleton_inj.mp last, front, early⟩
  · rintro ⟨rfl, front, rfl⟩
    exact ⟨front, by simp⟩

/-- Two parts of the marker cannot both be at the end, unless the shorter one is empty. -/
theorem Unrepeated.eq_zero (unrepeated : Unrepeated marker) (bound : seen ≤ marker.length)
    (shorter : count < seen) (one : marker.take count <:+ read) (two : marker.take seen <:+ read) :
    count = 0 := by
  obtain ⟨longer, rfl⟩ := Nat.exists_eq_add_one_of_ne_zero (Nat.ne_zero_of_lt shorter)
  cases count with
  | zero => rfl
  | succ more =>
      obtain ⟨first, rest, rfl⟩ :=
        List.exists_cons_of_ne_nil (List.ne_nil_of_length_pos (Nat.zero_lt_of_lt bound))
      rw [List.take_succ_cons] at one two
      have inside : first :: rest.take more <:+ first :: rest.take longer := by
        refine List.suffix_of_suffix_length_le one two ?_
        simp only [List.length_cons, List.length_take] at bound ⊢
        omega
      -- The first symbol stands where the shorter part begins.
      rcases List.suffix_cons_iff.mp inside with same | later
      · have lengths := congrArg List.length same
        simp only [List.length_cons, List.length_take] at lengths bound
        omega
      · exact absurd (List.mem_of_mem_take (later.subset (by simp)))
          (unrepeated first rest rfl)

theorem seeks_nil (nonempty : marker ≠ []) : Seeks marker [] 0 where
  absent := by simpa using nonempty
  longest count bound atEnd := by
    have empty := List.suffix_nil.mp atEnd
    rcases List.take_eq_nil_iff.mp empty with zero | none
    · exact Nat.le_of_eq zero
    · exact absurd none nonempty

/-- One more symbol of the comment. -/
theorem Seeks.longest_concat (seeks : Seeks marker read seen) (unrepeated : Unrepeated marker)
    (bound : seen < marker.length) (seenBefore : marker.take seen <:+ read)
    (within : count ≤ marker.length) (atEnd : marker.take count <:+ read ++ [symbol]) :
    count ≤ markerSeen marker seen symbol := by
  cases count with
  | zero => exact Nat.zero_le _
  | succ count =>
      obtain ⟨last, before⟩ := (take_succ_suffix_iff within).mp atEnd
      have shorter := seeks.longest count (by omega) before
      rw [markerSeen_of_lt bound]
      split
      case isTrue => omega
      case isFalse other =>
        rcases Nat.lt_or_eq_of_le shorter with less | rfl
        · obtain rfl := unrepeated.eq_zero (Nat.le_of_lt bound) less before seenBefore
          have head : marker.head? = some symbol := by
            rw [List.head?_eq_getElem?, List.getElem?_eq_getElem within, last]
          exact Nat.le_of_eq (if_pos head).symm
        · exact absurd last other

/-- The comment is closed exactly where the marker has been read. -/
theorem Seeks.closes_iff (seeks : Seeks marker read seen) (unrepeated : Unrepeated marker)
    (bound : seen < marker.length) (seenBefore : marker.take seen <:+ read) :
    marker.length ≤ markerSeen marker seen symbol ↔ marker <:+ read ++ [symbol] := by
  constructor
  · intro reached
    have whole := markerSeen_suffix symbol seenBefore
    rwa [List.take_of_length_le reached] at whole
  · intro atEnd
    refine seeks.longest_concat unrepeated bound seenBefore (Nat.le_refl _) ?_
    rwa [List.take_length]

theorem Seeks.concat (seeks : Seeks marker read seen) (unrepeated : Unrepeated marker)
    (bound : seen < marker.length) (seenBefore : marker.take seen <:+ read)
    (missing : ¬marker <:+ read ++ [symbol]) :
    Seeks marker (read ++ [symbol]) (markerSeen marker seen symbol) where
  absent inside := by
    rcases List.infix_concat_iff.mp inside with atEnd | early
    · exact missing atEnd
    · exact seeks.absent early
  longest _ within atEnd := seeks.longest_concat unrepeated bound seenBefore within atEnd

/-- Where the marker is read for the first time, the comment ends. -/
theorem Seeks.firstClosed {content : List Char} (seeks : Seeks marker read seen)
    (whole : read ++ [symbol] = content ++ marker) : FirstClosed marker content := by
  intro front back same
  rcases List.eq_nil_or_concat back with rfl | ⟨early, last, rfl⟩
  · rfl
  · rw [← whole, List.concat_eq_append] at same
    have parts : read ++ [symbol] = (front ++ (marker ++ early)) ++ [last] := by simpa using same
    obtain ⟨rfl, _⟩ := List.append_inj' parts rfl
    exact absurd ⟨front, early, by simp⟩ seeks.absent

/-- A text in which the marker occurs can be cut behind its first occurrence. -/
theorem exists_firstClosed {text : List Char} (inside : marker <:+: text) :
    ∃ content rest, text = content ++ (marker ++ rest) ∧ FirstClosed marker content := by
  induction length : text.length using Nat.strongRecOn generalizing text with
  | ind size ih =>
  obtain ⟨content, rest, rfl⟩ := inside
  by_cases closed : FirstClosed marker content
  · exact ⟨content, rest, by simp, closed⟩
  · simp only [FirstClosed, Classical.not_forall] at closed
    obtain ⟨front, back, same, longer⟩ := closed
    have shorter : (front ++ marker).length < size := by
      have lengths := congrArg List.length same
      have := List.length_pos_iff.mpr longer
      simp only [List.length_append] at lengths length ⊢
      omega
    have again : marker <:+: front ++ marker := ⟨front, [], by simp⟩
    obtain ⟨first, last, cut, closed⟩ := ih _ shorter again rfl
    refine ⟨first, last ++ (back ++ rest), ?_, closed⟩
    rw [same, ← List.append_assoc front, cut]
    simp

end Lexing.Scan
