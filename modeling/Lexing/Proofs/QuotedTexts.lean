import Lexing.Proofs.QuotedReading

/-!
# What quoted literals stand for

A quoted literal is read without a remark exactly if its items are well-formed, and then stands
for what they denote.  A character literal is read like a string, up to the answer to the mark.
-/

namespace Lexing.Literal.Quoted

variable {reader : Quoted} {items : List Item} {text : List Char}

/-! ## Character literals -/

/-- The answer of a character literal where a string gives `signal`.  The complaint about the
number of symbols displaces every remark. -/
def characterAnswer (count : Nat) (signal : Signal) : Signal :=
  if signal.Stops then (complaint? count).elim signal .stopWith else signal

/-- The same state of a character literal. -/
def toCharacter (reader : Quoted) : Quoted :=
  { reader with single := true }

theorem characterAnswer_attach (count : Nat) (remark : Option String) (signal : Signal) :
    characterAnswer count (attach remark signal) =
      attach remark (characterAnswer count signal) := by
  by_cases stops : signal.Stops
  · rw [characterAnswer, characterAnswer, if_pos stops, if_pos (stops_attach.mpr stops)]
    cases complaint? count with
    | none => rfl
    | some message => cases remark <;> rfl
  · rw [characterAnswer, characterAnswer, if_neg stops, if_neg (mt stops_attach.mp stops)]

/-- A string whose symbols are all counted. -/
structure Plain (reader : Quoted) : Prop where
  single : reader.single = false
  counted : reader.count = reader.decoded.length

theorem Plain.length_take (plain : reader.Plain) :
    (Reader.take reader).1.length = reader.count := by
  show (String.ofList reader.decoded.reverse).length = _
  rw [String.length_ofList, List.length_reverse, plain.counted]

theorem Plain.push (plain : reader.Plain) (symbol : Char) : (reader.push symbol).Plain where
  single := plain.single
  counted := by simp [Quoted.push, plain.counted]

theorem Plain.endEscape (plain : reader.Plain) : reader.endEscape.2.Plain := by
  have outside : reader.leaveEscape.Plain := ⟨plain.single, plain.counted⟩
  unfold Quoted.endEscape
  simp only [pushCode_eq]
  cases reader.escape with
  | outside | opened | afterReturn => exact outside
  | hex =>
      dsimp only
      split
      · exact outside
      · exact outside.push _
  | octal | universal => exact outside.push _

theorem endEscape_toCharacter (reader : Quoted) : reader.toCharacter.endEscape =
    (reader.endEscape.1, reader.endEscape.2.toCharacter) := by
  unfold endEscape
  simp only [toCharacter, pushCode_eq]
  cases reader.escape with
  | hex =>
      dsimp only
      split <;> rfl
  | _ => rfl

/-- A character literal goes on like a string. -/
structure Likewise (usual one : Signal × Quoted) : Prop where
  plain : usual.2.Plain
  same : one = (characterAnswer usual.2.count usual.1, usual.2.toCharacter)

section Character

variable (plain : reader.Plain)
include plain

theorem likewise_readText (symbol : Char) :
    Likewise (reader.readText symbol) (reader.toCharacter.readText symbol) := by
  have same : reader.toCharacter.mark = reader.mark := rfl
  unfold readText
  rw [same]
  split
  · exact ⟨plain, rfl⟩
  · split
    · exact ⟨⟨plain.single, plain.counted⟩, rfl⟩
    · split
      · refine ⟨plain, ?_⟩
        rw [characterAnswer, if_pos (stops_close reader), close_eq, close_eq, plain.single]
        show (attach (complaint? reader.count) _, _) = _
        cases complaint? reader.count <;> rfl
      · exact ⟨plain.push symbol, rfl⟩

theorem likewise_readAfterEscape (symbol : Char) :
    Likewise (reader.readAfterEscape symbol) (reader.toCharacter.readAfterEscape symbol) := by
  have text := likewise_readText plain.endEscape symbol
  refine ⟨text.plain, ?_⟩
  simp only [readAfterEscape, endEscape_toCharacter, text.same, characterAnswer_attach]

theorem likewise_readOpened (symbol : Char) :
    Likewise (reader.readOpened symbol) (reader.toCharacter.readOpened symbol) := by
  have outside : reader.leaveEscape.Plain := ⟨plain.single, plain.counted⟩
  simp only [readOpened]
  split
  · exact ⟨outside.push _, rfl⟩
  · split
    · exact ⟨⟨plain.single, plain.counted⟩, rfl⟩
    · have kept : ∀ escape, { reader with escape }.Plain := fun _ => ⟨plain.single, plain.counted⟩
      split_ifs
      · exact ⟨kept _, rfl⟩
      · exact ⟨kept _, rfl⟩
      · exact ⟨kept _, rfl⟩
      · exact ⟨kept _, rfl⟩
      · exact ⟨kept _, rfl⟩
      · exact ⟨outside.push symbol, rfl⟩

theorem likewise_complete (code : Nat) :
    Likewise (reader.complete code) (reader.toCharacter.complete code) := by
  have outside : reader.leaveEscape.Plain := ⟨plain.single, plain.counted⟩
  simp only [complete, pushCode_eq]
  refine ⟨outside.push _, ?_⟩
  rw [characterAnswer_attach]
  rfl

theorem likewise_within (escape : Escape) :
    Likewise (reader.within escape) (reader.toCharacter.within escape) :=
  ⟨⟨plain.single, plain.counted⟩, rfl⟩

/-- A character literal answers one symbol like a string. -/
theorem likewise_read (symbol : Char) :
    Likewise (Reader.read reader symbol) (Reader.read reader.toCharacter symbol) := by
  have same : reader.toCharacter.escape = reader.escape := rfl
  have outside : reader.leaveEscape.Plain := ⟨plain.single, plain.counted⟩
  show Likewise (read reader symbol) (read reader.toCharacter symbol)
  unfold read
  rw [same]
  split
  · exact likewise_readText plain symbol
  · exact likewise_readOpened plain symbol
  · split
    · exact ⟨outside, rfl⟩
    · exact likewise_readText outside symbol
  · split
    · split
      · exact likewise_within plain _
      · exact likewise_complete plain _
    · exact likewise_readAfterEscape plain symbol
  · split
    · exact likewise_within plain _
    · exact likewise_readAfterEscape plain symbol
  · split
    · split
      · exact likewise_complete plain _
      · exact likewise_within plain _
    · exact likewise_readAfterEscape plain symbol

/-- A character literal is in the state of a string after every text. -/
theorem readAll_toCharacter (text : List Char) : (readAll reader text).2.Plain ∧
    (readAll reader.toCharacter text).2 = (readAll reader text).2.toCharacter := by
  induction text generalizing reader with
  | nil => exact ⟨plain, rfl⟩
  | cons symbol rest ih =>
      have step := likewise_read plain symbol
      have next : (Reader.read reader.toCharacter symbol).2 =
          (Reader.read reader symbol).2.toCharacter := by
        rw [step.same]
      simpa [readAll, next] using ih step.plain

end Character

/-! ## Well-formed literals -/

def meaning (items : List Item) : List Char :=
  items.flatMap Item.denotes

/-- The last signal is the given one, and all before it have the literal go on without a remark. -/
def Silent (signals : List Signal) (last : Signal) : Prop :=
  ∃ count, signals = List.replicate count .proceed ++ [last]

theorem eq_replicate {early : List Signal} (goOn : ∀ signal ∈ early, signal.GoesOn)
    (silent : remarks early = []) : early = List.replicate early.length .proceed := by
  refine List.eq_replicate_iff.mpr ⟨rfl, fun signal member => ?_⟩
  exact Signal.eq_proceed (goOn signal member) (List.filterMap_eq_nil_iff.mp silent signal member)

/-- What a reader answers to the mark behind some symbols. -/
def closing (single : Bool) (count : Nat) : Signal :=
  if single then characterAnswer count .stop else .stop

theorem closing_eq (single : Bool) (count : Nat) :
    closing single count = attach (if single then complaint? count else none) .stop := by
  cases single with
  | false => rfl
  | true =>
      show characterAnswer count .stop = attach (complaint? count) .stop
      rw [characterAnswer, if_pos (show Signal.stop.Stops from trivial)]
      cases complaint? count <;> rfl

theorem close_holdAll (reader : Quoted) (items : List Item) :
    ((Reader.reset reader).holdAll items).close = closing reader.single (meaning items).length := by
  rw [close_eq, closing_eq, holdAll_eq (show (Reader.reset reader).escape = .outside from rfl)]
  show attach (if reader.single then complaint? (0 + (meaning items).length) else none) .stop = _
  rw [Nat.zero_add]

theorem take_holdAll (reader : Quoted) (items : List Item) :
    (Reader.take ((Reader.reset reader).holdAll items)).1 = String.ofList (meaning items) := by
  rw [holdAll_eq (show (Reader.reset reader).escape = .outside from rfl)]
  show String.ofList ((meaning items).reverse ++ []).reverse = _
  rw [List.append_nil, List.reverse_reverse]

/-- The whole text of a literal is read after a reset. -/
theorem Divides.readAll_reset (divides : Divides reader.mark items text)
    (usual : Usual reader.mark) :
    ∃ early, (∀ signal ∈ early, signal.GoesOn) ∧
      remarks early ++ (dueOf items).toList = items.filterMap Item.remark? ∧
      Literal.readAll (Reader.reset reader) text =
        (early ++ [attach (dueOf items) ((Reader.reset reader).holdAll items).close],
          (Reader.reset reader).holdAll items) := by
  have same : (Reader.reset reader).mark = reader.mark := rfl
  rw [← same] at divides usual
  exact divides.readAll rfl usual

/-- Every text that completes a literal after a reset can be divided into items. -/
theorem exists_divides_reset (closes : Closes (readAll (Reader.reset reader) text).1) :
    ∃ items, Divides reader.mark items text := by
  have outside : (Reader.reset reader).escape = .outside := rfl
  obtain ⟨items, divides⟩ := exists_divides outside closes
  exact ⟨items, divides⟩

/-- Well-formed items are read without a remark, up to the answer to the mark. -/
theorem WellFormed.readAll (wellFormed : WellFormed reader.mark items text)
    (usual : Usual reader.mark) :
    Silent (Literal.readAll (Reader.reset reader) text).1
        (closing reader.single (meaning items).length) ∧
      (Reader.take (Literal.readAll (Reader.reset reader) text).2).1 =
        String.ofList (meaning items) := by
  obtain ⟨divides, proper⟩ := wellFormed_iff.mp wellFormed
  obtain ⟨early, goOn, remarked, reads⟩ := divides.readAll_reset usual
  rw [List.filterMap_eq_nil_iff.mpr proper, List.append_eq_nil_iff, Option.toList_eq_nil_iff]
    at remarked
  rw [reads, remarked.2, attach_none, close_holdAll]
  exact ⟨⟨_, congrArg (· ++ _) (eq_replicate goOn remarked.1)⟩, take_holdAll reader items⟩

theorem Silent.closes {signals : List Signal} {last : Signal} (silent : Silent signals last)
    (stops : last.Stops) : Closes signals := by
  obtain ⟨count, rfl⟩ := silent
  refine ⟨_, last, rfl, fun signal member => ?_, stops⟩
  rw [List.eq_of_mem_replicate member]
  trivial

theorem attach_eq_stop {remark : Option String} {signal : Signal} :
    attach remark signal = .stop ↔ remark = none ∧ signal = .stop := by
  cases remark <;> cases signal <;> simp [attach]

theorem complaint?_eq_none {count : Nat} : complaint? count = none ↔ count = 1 := by
  match count with
  | 0 => simp [complaint?]
  | 1 => simp [complaint?]
  | _ + 2 => simp [complaint?]

theorem closing_eq_stop {single : Bool} {count : Nat} :
    closing single count = .stop ↔ (single = true → count = 1) := by
  rw [closing_eq, attach_eq_stop]
  cases single <;> simp [complaint?_eq_none]

/-- A text that is read without a remark consists of well-formed items. -/
theorem wellFormed_of_silent (usual : Usual reader.mark)
    (silent : Silent (readAll (Reader.reset reader) text).1 .stop) :
    ∃ items, WellFormed reader.mark items text ∧
      closing reader.single (meaning items).length = .stop := by
  obtain ⟨items, divides⟩ := exists_divides_reset (silent.closes trivial)
  obtain ⟨early, goOn, remarked, reads⟩ := divides.readAll_reset usual
  obtain ⟨count, same⟩ := silent
  rw [reads] at same
  obtain ⟨rfl, last⟩ := List.append_inj' same rfl
  obtain ⟨due, closed⟩ := attach_eq_stop.mp (List.singleton_inj.mp last)
  rw [remarks_replicate, due, Option.toList_none, List.append_nil, eq_comm,
    List.filterMap_eq_nil_iff] at remarked
  exact ⟨items, wellFormed_iff.mpr ⟨divides, remarked⟩, close_holdAll reader items ▸ closed⟩

/-- A quoted literal is read without a remark exactly if its items are well-formed, and then stands
for what they denote.  A character literal also has to stand for exactly one symbol; otherwise it
is read like a string. -/
theorem quoted_exact (reader : Quoted) (usual : Usual reader.mark) (text : List Char) :
    (Silent (readAll (Reader.reset reader) text).1 .stop ↔
      ∃ items, WellFormed reader.mark items text ∧
        (reader.single = true → (meaning items).length = 1)) ∧
    (∀ items, WellFormed reader.mark items text →
      Silent (readAll (Reader.reset reader) text).1
          (closing reader.single (meaning items).length) ∧
        (Reader.take (readAll (Reader.reset reader) text).2).1 = String.ofList (meaning items)) ∧
    ∀ symbol,
      let plain := (readAll (Reader.reset (string reader.mark)) text).2
      let one := (readAll (Reader.reset (character reader.mark)) text).2
      (Reader.take one).1 = (Reader.take plain).1 ∧
      (Reader.read one symbol).1 =
        characterAnswer (Reader.take (Reader.read plain symbol).2).1.length
          (Reader.read plain symbol).1 := by
  refine ⟨⟨fun silent => ?_, ?_⟩, fun items wellFormed => wellFormed.readAll usual,
    fun symbol => ?_⟩
  · obtain ⟨items, wellFormed, closed⟩ := wellFormed_of_silent usual silent
    exact ⟨items, wellFormed, closing_eq_stop.mp closed⟩
  · rintro ⟨items, wellFormed, one⟩
    rw [← closing_eq_stop.mpr one]
    exact (wellFormed.readAll usual).1
  · have fresh : (Reader.reset (string reader.mark)).Plain := ⟨rfl, rfl⟩
    have twin : Reader.reset (character reader.mark) =
        (Reader.reset (string reader.mark)).toCharacter :=
      rfl
    obtain ⟨plain, same⟩ := readAll_toCharacter fresh text
    have answer := likewise_read plain symbol
    simp only [twin, same, answer.same, answer.plain.length_take, and_true]
    rfl

/-- The mark of a character literal may be a hexadecimal digit.  A continued line then keeps it
apart from the digits before it. -/
theorem quoted_exact_digit_mark :
    Usual 'a' ∧
      WellFormed 'a' [.hex ['4'], .splice .carriage] ['\\', 'x', '4', '\\', '\r', 'a'] ∧
      Silent (readAll (Reader.reset (character 'a')) ['\\', 'x', '4', '\\', '\r', 'a']).1 .stop ∧
      (Reader.take (readAll (Reader.reset (character 'a'))
        ['\\', 'x', '4', '\\', '\r', 'a']).2).1 = "\x04" := by
  have usual : Usual 'a' := by decide
  have run : Digits 16 2 ['4'] ['\\', '\r', 'a'] := ⟨by simp; decide, by decide, by simp; decide⟩
  have wellFormed : WellFormed 'a' [.hex ['4'], .splice .carriage]
      ['\\', 'x', '4', '\\', '\r', 'a'] :=
    ⟨rfl, ⟨by decide, run, by decide⟩, fun _ => by decide, trivial⟩
  obtain ⟨silent, taken⟩ :=
    (quoted_exact (character 'a') usual ['\\', 'x', '4', '\\', '\r', 'a']).2.1 _ wellFormed
  exact ⟨usual, wellFormed, silent, taken⟩

end Lexing.Literal.Quoted
