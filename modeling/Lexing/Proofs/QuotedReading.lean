import Lexing.Proofs.QuotedItems

/-!
# Reading the items of quoted literals

Behind an item the reader holds what the item denotes, and answers the next symbol as if it stood
outside of escapes, with the remark that is due.  So the signals of a literal are those of its
items, and every text that completes a literal can be divided into items.
-/

namespace Lexing.Literal.Quoted

variable {reader : Quoted} {item : Item} {items : List Item} {symbol : Char}
  {digits behind text : List Char}

/-- The mark starts no escape and ends no line. -/
def Usual (mark : Char) : Prop :=
  mark ∉ ['\\', '\n', '\r']

instance (mark : Char) : Decidable (Usual mark) :=
  inferInstanceAs (Decidable (_ ∉ _))

/-- The reader outside of escapes, with what an item denotes. -/
def hold (reader : Quoted) (item : Item) : Quoted where
  mark := reader.mark
  single := reader.single
  decoded := item.denotes.reverse ++ reader.decoded
  count := reader.count + item.denotes.length

/-- The reader outside of escapes, with what some items denote. -/
def holdAll (reader : Quoted) (items : List Item) : Quoted :=
  items.foldl hold reader

theorem hold_eq_push (denotes : item.denotes = [symbol]) :
    reader.hold item = reader.leaveEscape.push symbol := by
  simp [hold, denotes, push, leaveEscape]

theorem hold_eq_leaveEscape (denotes : item.denotes = []) :
    reader.hold item = reader.leaveEscape := by
  simp [hold, denotes, leaveEscape]

@[simp] theorem leaveEscape_eq (outside : reader.escape = .outside) :
    reader.leaveEscape = reader := by
  simp [leaveEscape, ← outside]

theorem pushCode_eq (code : Nat) :
    reader.pushCode code = (codeRemark? code, reader.push (symbolOf code)) := by
  unfold pushCode codeRemark? symbolOf
  split <;> rfl

theorem read_outside (outside : reader.escape = .outside) :
    Reader.read reader symbol = reader.readText symbol := by
  show read reader symbol = _
  simp [read, outside]

@[simp] theorem attach_none (signal : Signal) : attach none signal = signal := by
  cases signal <;> rfl

theorem goesOn_attach_proceed (remark : Option String) : (attach remark .proceed).GoesOn := by
  cases remark <;> trivial

theorem remark?_attach_proceed (remark : Option String) :
    (attach remark .proceed).remark? = remark := by
  cases remark <;> rfl

@[simp] theorem goesOn_attach {remark : Option String} {signal : Signal} :
    (attach remark signal).GoesOn ↔ signal.GoesOn := by
  cases remark <;> cases signal <;> rfl

@[simp] theorem stops_attach {remark : Option String} {signal : Signal} :
    (attach remark signal).Stops ↔ signal.Stops := by
  cases remark <;> cases signal <;> rfl

/-! ## Digits of an escape -/

/-- The escape that some octal digits behind a backslash lead to. -/
def octalState (digits : List Char) : Escape :=
  if digits = [] then .opened else .octal (codeOf 8 digits) digits.length

/-- The escape that some hexadecimal digits behind an `x` lead to. -/
def hexState (digits : List Char) : Escape :=
  .hex (min (codeOf 16 digits) maxCode) (min digits.length 255)

/-- The escape that some hexadecimal digits of a universal character name lead to. -/
def nameState (width : Nat) (digits : List Char) : Escape :=
  .universal (codeOf 16 digits) digits.length width

/-- Digits are collected as long as each of them leads to the escape behind one more. -/
theorem readAll_digits {state : List Char → Escape}
    (collects : ∀ front symbol, front ++ [symbol] <+: digits →
      Reader.read { reader with escape := state front } symbol =
        reader.leaveEscape.within (state (front ++ [symbol]))) :
    readAll { reader with escape := state [] } digits =
      (List.replicate digits.length .proceed, { reader with escape := state digits }) := by
  induction digits using List.reverseRecOn with
  | nil => rfl
  | append_singleton front last ih =>
      rw [readAll_append, ih fun early symbol before =>
        collects early symbol (before.trans (List.prefix_append _ _))]
      simp [readAll, collects front last (List.prefix_refl _), within, leaveEscape,
        List.replicate_succ']

theorem isSome_of_prefix {base : Nat} {front : List Char}
    (all : ∀ symbol ∈ digits, (digitValue? symbol base).isSome = true)
    (before : front ++ [symbol] <+: digits) : ∃ digit, digitValue? symbol base = some digit :=
  Option.isSome_iff_exists.mp (all symbol (before.subset (by simp)))

/-- No octal digit is a letter that stands for a symbol. -/
theorem simpleEscape?_octal {digit : Nat} (value : digitValue? symbol 8 = some digit) :
    simpleEscape? symbol = none := by
  rw [simpleEscape?_eq]
  by_contra simple
  have member := mem_simpleLetters.mpr (Option.isSome_iff_ne_none.mpr simple)
  rw [(fits_simpleLetter member).1] at value
  contradiction

theorem read_octal {digit : Nat} {front : List Char} (value : digitValue? symbol 8 = some digit) :
    Reader.read { reader with escape := octalState front } symbol =
      if front.length + 1 < 3 then
        reader.leaveEscape.within (octalState (front ++ [symbol]))
      else reader.complete (codeOf 8 (front ++ [symbol])) := by
  have code : codeOf 8 (front ++ [symbol]) = codeOf 8 front * 8 + digit := codeOf_concat value
  show read _ symbol = _
  cases front with
  | nil =>
      have first : codeOf 8 [symbol] = digit := by simpa using code
      simp [octalState, read, readOpened, leaveEscape, simpleEscape?_octal value, value, within,
        first]
  | cons first rest =>
      simp [octalState, read, value, within, leaveEscape, complete, ← code]

theorem read_hex {digit : Nat} {front : List Char} (value : digitValue? symbol 16 = some digit) :
    Reader.read { reader with escape := hexState front } symbol =
      reader.leaveEscape.within (hexState (front ++ [symbol])) := by
  have code : codeOf 16 (front ++ [symbol]) = codeOf 16 front * 16 + digit := codeOf_concat value
  have cut : min (min (codeOf 16 front) maxCode * 16 + digit) maxCode =
      min (codeOf 16 (front ++ [symbol])) maxCode := by
    omega
  have length : min (min front.length 255 + 1) 255 = min (front ++ [symbol]).length 255 := by
    rw [List.length_append, List.length_singleton]
    omega
  show read _ symbol = _
  simp only [hexState, read, value, within, leaveEscape, cut, length]

theorem read_name {width digit : Nat} {front : List Char}
    (value : digitValue? symbol 16 = some digit) :
    Reader.read { reader with escape := nameState width front } symbol =
      if front.length + 1 = width then reader.complete (codeOf 16 (front ++ [symbol]))
      else reader.leaveEscape.within (nameState width (front ++ [symbol])) := by
  have code : codeOf 16 (front ++ [symbol]) = codeOf 16 front * 16 + digit := codeOf_concat value
  show read _ symbol = _
  simp [nameState, read, value, within, leaveEscape, complete, ← code]

/-! ## Reading an item -/

def signalsOf (item : Item) : List Signal :=
  List.replicate (item.spelling.length - 1) .proceed ++ [attach item.own? .proceed]

theorem goesOn_of_mem_signalsOf {signal : Signal} (member : signal ∈ signalsOf item) :
    signal.GoesOn := by
  rcases List.mem_append.mp member with early | last
  · rw [List.eq_of_mem_replicate early]
    trivial
  · rw [List.mem_singleton.mp last]
    exact goesOn_attach_proceed _

theorem remarks_signalsOf : remarks (signalsOf item) = item.own?.toList := by
  rw [signalsOf, remarks_append, remarks_replicate, remarks_cons, remark?_attach_proceed]
  simp

/-- The reader reads an item, and answers what follows like one that holds it. -/
structure Reads (reader : Quoted) (item : Item) (behind : List Char) : Prop where
  signals : (readAll reader item.spelling).1 = signalsOf item
  answers : ∀ next ∈ behind.head?, Reader.read (readAll reader item.spelling).2 next =
    (attach item.due? (Reader.read (reader.hold item) next).1,
      (Reader.read (reader.hold item) next).2)

/-- An item that is complete at its last symbol. -/
theorem Reads.of_complete (closed : ¬item.Open)
    (reads : readAll reader item.spelling = (signalsOf item, reader.hold item)) :
    Reads reader item behind where
  signals := by rw [reads]
  answers := by simp [reads, Item.due?, closed]

/-- No symbol of an item that is still open carries a remark. -/
theorem signalsOf_open (opens : item.Open) :
    signalsOf item = List.replicate item.spelling.length .proceed := by
  have filled : item.spelling.length - 1 + 1 = item.spelling.length := by
    cases item with
    | splice lineEnd => exact opens.elim
    | _ => rfl
  rw [signalsOf, Item.own?, if_pos opens, attach_none, ← List.replicate_succ', filled]

/-- An item that only what follows ends. -/
theorem Reads.of_open (escape : Escape) (opens : item.Open)
    (reads : readAll reader item.spelling =
      (List.replicate item.spelling.length .proceed, { reader with escape }))
    (ended : { reader with escape }.endEscape = (item.remark?, reader.hold item))
    (follows : ∀ next ∈ behind.head?, Reader.read { reader with escape } next =
      { reader with escape }.readAfterEscape next) : Reads reader item behind where
  signals := by rw [reads, signalsOf_open opens]
  answers next member := by
    rw [reads, follows next member, readAfterEscape, ended, Item.due?, if_pos opens,
      read_outside rfl]

section Items

variable (outside : reader.escape = .outside)
include outside

theorem reads_plain (fits : (Item.plain symbol).Fits reader.mark behind) :
    Reads reader (.plain symbol) behind := by
  obtain ⟨inner, unescaped, noFeed, noReturn⟩ := fits
  refine .of_complete id ?_
  simp [Item.spelling, readAll, read_outside outside, readText, inner, unescaped, noFeed, noReturn,
    signalsOf, Item.own?, Item.remark?,
    hold_eq_push (show (Item.plain symbol).denotes = [symbol] from rfl), outside]

theorem read_backslash :
    Reader.read reader '\\' = (.proceed, { reader with escape := .opened }) := by
  rw [read_outside outside, readText, if_neg (by decide), if_pos rfl, within]

theorem readAll_backslash (rest : List Char) : readAll reader ('\\' :: rest) =
    (.proceed :: (readAll { reader with escape := .opened } rest).1,
      (readAll { reader with escape := .opened } rest).2) := by
  simp [readAll, read_backslash outside]

theorem reads_letter (fits : (Item.letter symbol).Fits reader.mark behind) :
    Reads reader (.letter symbol) behind := by
  obtain ⟨noDigit, single⟩ := fits
  simp only [List.mem_cons, List.not_mem_nil, or_false, not_or] at single
  refine .of_complete id ?_
  rw [Item.spelling, readAll_backslash outside]
  show (_ :: (readAll _ [symbol]).1, _) = _
  have opened : Reader.read { reader with escape := .opened } symbol =
      (attach (Item.letter symbol).remark? .proceed, reader.hold (.letter symbol)) := by
    rw [hold_eq_push rfl]
    show readOpened _ symbol = _
    rw [readOpened, simpleEscape?_eq, Item.remark?]
    cases simple : simpleLetters.lookup symbol with
    | some decoded => simp [leaveEscape, attach]
    | none => simp [noDigit, single, leaveEscape, attach]
  simp [readAll, opened, signalsOf, Item.own?, Item.Open, Item.spelling]

/-! ### Escapes with digits -/

omit outside in
/-- The lead of an escape and digits that do not complete it. -/
theorem readAll_escape {state : List Char → Escape} {lead : List Char}
    (leads : readAll reader lead =
      (List.replicate lead.length .proceed, { reader with escape := state [] }))
    (collects : ∀ front symbol, front ++ [symbol] <+: digits →
      Reader.read { reader with escape := state front } symbol =
        reader.leaveEscape.within (state (front ++ [symbol]))) :
    readAll reader (lead ++ digits) =
      (List.replicate (lead ++ digits).length .proceed,
      { reader with escape := state digits }) := by
  rw [readAll_append, leads, readAll_digits collects, List.length_append,
    ← List.replicate_append_replicate]

theorem readAll_hexLead : readAll reader ['\\', 'x'] =
    (List.replicate 2 .proceed, { reader with escape := hexState [] }) := by
  rw [readAll_backslash outside]
  rfl

theorem readAll_nameLead (long : Bool) : readAll reader ['\\', nameLetter long] =
    (List.replicate 2 .proceed, { reader with escape := nameState (nameWidth long) [] }) := by
  rw [readAll_backslash outside]
  cases long <;> rfl

theorem readAll_octalLead : readAll reader ['\\'] =
    (List.replicate 1 .proceed, { reader with escape := octalState [] }) := by
  rw [readAll_backslash outside]
  rfl

omit outside in
/-- An escape that its last digit completes. -/
theorem Reads.of_full {front : List Char} {last : Char} {escape : Escape} {code : Nat}
    (closed : ¬item.Open) (spelled : item.spelling = front ++ [last])
    (denotes : item.denotes = [symbolOf code]) (remarked : item.remark? = codeRemark? code)
    (early : readAll reader front =
      (List.replicate front.length .proceed, { reader with escape }))
    (completes : Reader.read { reader with escape } last = reader.complete code) :
    Reads reader item behind := by
  refine .of_complete closed ?_
  rw [spelled, readAll_append, early, signalsOf, Item.own?, if_neg closed, spelled, remarked,
    hold_eq_push denotes]
  simp [readAll, completes, complete, pushCode_eq]

theorem readAll_octal (all : ∀ symbol ∈ digits, (digitValue? symbol 8).isSome = true)
    (short : digits.length < 3) : readAll reader ('\\' :: digits) =
      (List.replicate (digits.length + 1) .proceed,
        { reader with escape := octalState digits }) := by
  refine readAll_escape (readAll_octalLead outside) fun front symbol before => ?_
  obtain ⟨digit, value⟩ := isSome_of_prefix all before
  have within : front.length + 1 < 3 := by
    have := before.length_le
    rw [List.length_append, List.length_singleton] at this
    omega
  rw [read_octal value, if_pos within]

theorem readAll_name {long : Bool}
    (all : ∀ symbol ∈ digits, (digitValue? symbol 16).isSome = true)
    (short : digits.length < nameWidth long) :
    readAll reader ('\\' :: nameLetter long :: digits) =
      (List.replicate (digits.length + 2) .proceed,
        { reader with escape := nameState (nameWidth long) digits }) := by
  show readAll reader (['\\', nameLetter long] ++ digits) = _
  refine readAll_escape (readAll_nameLead outside long) fun front symbol before => ?_
  obtain ⟨digit, value⟩ := isSome_of_prefix all before
  have within : front.length + 1 ≠ nameWidth long := by
    have := before.length_le
    rw [List.length_append, List.length_singleton] at this
    omega
  rw [read_name value, if_neg within]

theorem readAll_hex (all : ∀ symbol ∈ digits, (digitValue? symbol 16).isSome = true) :
    readAll reader ('\\' :: 'x' :: digits) =
      (List.replicate (digits.length + 2) .proceed,
        { reader with escape := hexState digits }) := by
  show readAll reader (['\\', 'x'] ++ digits) = _
  refine readAll_escape (readAll_hexLead outside) fun front symbol before => ?_
  obtain ⟨digit, value⟩ := isSome_of_prefix all before
  exact read_hex value

theorem reads_octal (fits : (Item.octal digits).Fits reader.mark behind) :
    Reads reader (.octal digits) behind := by
  obtain ⟨filled, run⟩ := fits
  by_cases short : digits.length < 3
  · have state : octalState digits = .octal (codeOf 8 digits) digits.length := if_neg filled
    refine .of_open (octalState digits) short ?_ ?_ ?_
    · exact readAll_octal outside run.all short
    · rw [hold_eq_push rfl, state]
      exact pushCode_eq _
    · intro next member
      show read _ next = _
      simp [read, state, run.ends short next member]
  · obtain ⟨front, last, rfl⟩ := (List.eq_nil_or_concat digits).resolve_left filled
    rw [List.concat_eq_append] at run short ⊢
    have full : (front ++ [last]).length = 3 := Nat.le_antisymm run.within (by omega)
    obtain ⟨digit, value⟩ := isSome_of_prefix run.all (List.prefix_refl _)
    rw [List.length_append, List.length_singleton] at full
    refine .of_full short (show _ = ('\\' :: front) ++ [last] from rfl) rfl rfl
      (readAll_octal outside (fun symbol member => run.all symbol (by simp [member])) (by omega)) ?_
    rw [read_octal value, if_neg (by omega)]

theorem reads_name {long : Bool} (fits : (Item.universal long digits).Fits reader.mark behind) :
    Reads reader (.universal long digits) behind := by
  have run : Digits 16 (nameWidth long) digits behind := fits
  by_cases short : digits.length < nameWidth long
  · refine .of_open (nameState (nameWidth long) digits) short ?_ ?_ ?_
    · exact readAll_name outside run.all short
    · have denotes : (Item.universal long digits).denotes = [replacement] := if_neg short.ne
      rw [hold_eq_push denotes, Item.remark?, if_neg short.ne]
      rfl
    · intro next member
      show read _ next = _
      simp [read, nameState, run.ends short next member]
  · have full : digits.length = nameWidth long := Nat.le_antisymm run.within (by omega)
    have filled : digits ≠ [] := by
      rintro rfl
      cases long <;> simp [nameWidth] at full
    obtain ⟨front, last, rfl⟩ := (List.eq_nil_or_concat digits).resolve_left filled
    rw [List.concat_eq_append] at run short full ⊢
    obtain ⟨digit, value⟩ := isSome_of_prefix run.all (List.prefix_refl _)
    refine .of_full short (show _ = ('\\' :: nameLetter long :: front) ++ [last] from rfl)
      (if_pos full) (if_pos full)
      (readAll_name outside (fun symbol member => run.all symbol (by simp [member])) ?_) ?_
    · rw [List.length_append, List.length_singleton] at full
      omega
    · rw [List.length_append, List.length_singleton] at full
      rw [read_name value, if_pos full]

theorem reads_hex (fits : (Item.hex digits).Fits reader.mark behind) :
    Reads reader (.hex digits) behind := by
  have run : Digits 16 (digits.length + 1) digits behind := fits
  refine .of_open (hexState digits) trivial ?_ ?_ ?_
  · exact readAll_hex outside run.all
  · by_cases empty : digits = []
    · subst empty
      rfl
    · have counted : min digits.length 255 ≠ 0 := by
        have := List.length_pos_iff.mpr empty
        omega
      have denotes : (Item.hex digits).denotes = [symbolOf (codeOf 16 digits)] := if_neg empty
      rw [hold_eq_push denotes]
      simp [endEscape, hexState, counted, pushCode_eq, Item.remark?, empty, symbolOf_min,
        leaveEscape]
  · intro next member
    have last := run.ends (Nat.lt_succ_self _) next member
    show read _ next = _
    simp [read, hexState, last]

theorem reads_splice {lineEnd : LineEnd} (fits : (Item.splice lineEnd).Fits reader.mark behind) :
    Reads reader (.splice lineEnd) behind := by
  cases lineEnd with
  | feed =>
      refine .of_complete id ?_
      rw [Item.spelling, LineEnd.splice, readAll_backslash outside, hold_eq_leaveEscape rfl]
      rfl
  | both =>
      refine .of_complete id ?_
      rw [Item.spelling, LineEnd.splice, readAll_backslash outside, hold_eq_leaveEscape rfl]
      rfl
  | carriage =>
      have reads : readAll reader (Item.splice .carriage).spelling =
          (signalsOf (.splice .carriage), { reader with escape := .afterReturn }) := by
        rw [Item.spelling, LineEnd.splice, readAll_backslash outside]
        rfl
      refine ⟨by rw [reads], ?_⟩
      intro next member
      have noFeed : next ≠ '\n' := by
        rintro rfl
        exact fits rfl member
      rw [reads, hold_eq_leaveEscape rfl,
        read_outside (show reader.leaveEscape.escape = .outside from rfl)]
      show read _ next = _
      simp [read, noFeed, leaveEscape, Item.due?, Item.Open]

/-- Every item is read. -/
theorem reads_item (fits : item.Fits reader.mark behind) : Reads reader item behind :=
  match item with
  | .plain _ => reads_plain outside fits
  | .letter _ => reads_letter outside fits
  | .octal _ => reads_octal outside fits
  | .hex _ => reads_hex outside fits
  | .universal .. => reads_name outside fits
  | .splice _ => reads_splice outside fits

end Items

/-! ## Reading some items -/

theorem Reads.readAll (reads : Reads reader item behind) (more : behind ≠ []) :
    readAll reader (item.spelling ++ behind) =
      (signalsOf item ++ (readAll (reader.hold item) behind).1.modifyHead (attach item.due?),
        (readAll (reader.hold item) behind).2) := by
  obtain ⟨next, rest, rfl⟩ := List.exists_cons_of_ne_nil more
  have answer := reads.answers next rfl
  rw [readAll_append, reads.signals]
  simp [Literal.readAll, answer]

theorem exists_signalsOf (item : Item) : ∃ later, signalsOf item = .proceed :: later := by
  cases item with
  | octal digits => cases digits <;> exact ⟨_, rfl⟩
  | splice lineEnd => cases lineEnd <;> exact ⟨_, rfl⟩
  | _ => exact ⟨_, rfl⟩

theorem remarks_due_signalsOf (remark : Option String) :
    remarks ((signalsOf item).modifyHead (attach remark)) = remark.toList ++ item.own?.toList := by
  obtain ⟨later, same⟩ := exists_signalsOf item
  have own : remarks (.proceed :: later) = item.own?.toList := same ▸ remarks_signalsOf
  rw [remarks_cons] at own
  rw [same, List.modifyHead_cons, remarks_cons, remark?_attach_proceed, ← own]
  rfl

theorem own?_append_due? (item : Item) :
    item.own?.toList ++ item.due?.toList = item.remark?.toList := by
  unfold Item.own? Item.due?
  split <;> simp

/-- The remark that the symbol behind some items makes. -/
def dueOf (items : List Item) : Option String :=
  items.getLast?.bind Item.due?

@[simp] theorem dueOf_concat : dueOf (items ++ [item]) = item.due? := by
  simp [dueOf]

theorem follow_concat {holds : List Char → Item → Prop} :
    Follow holds (items ++ [item]) behind ↔
      Follow holds items (item.spelling ++ behind) ∧ holds behind item := by
  induction items with
  | nil => simp [Follow, contentOf]
  | cons first rest ih => simp [Follow, ih, contentOf, and_assoc]

theorem holdAll_concat : reader.holdAll (items ++ [item]) = (reader.holdAll items).hold item := by
  simp [holdAll]

theorem holdAll_eq (outside : reader.escape = .outside) (items : List Item) :
    reader.holdAll items =
      { reader with
        decoded := (items.flatMap Item.denotes).reverse ++ reader.decoded
        count := reader.count + (items.flatMap Item.denotes).length } := by
  induction items using List.reverseRecOn with
  | nil => rfl
  | append_singleton items last ih =>
      rw [holdAll_concat, ih]
      simp [hold, outside, Nat.add_assoc]

theorem holdAll_escape (outside : reader.escape = .outside) (items : List Item) :
    (reader.holdAll items).escape = .outside := by
  rw [holdAll_eq outside, outside]

theorem holdAll_mark (outside : reader.escape = .outside) (items : List Item) :
    (reader.holdAll items).mark = reader.mark := by
  rw [holdAll_eq outside]

/-- The remark due by the last item is made at the symbol behind it, all others before. -/
theorem reads_items (outside : reader.escape = .outside)
    (fits : Follow (Item.Fits reader.mark) items behind) (more : behind ≠ []) :
    ∃ early, (∀ signal ∈ early, signal.GoesOn) ∧
      remarks early ++ (dueOf items).toList = items.filterMap Item.remark? ∧
      readAll reader (contentOf items ++ behind) =
        (early ++ (readAll (reader.holdAll items) behind).1.modifyHead (attach (dueOf items)),
          (readAll (reader.holdAll items) behind).2) := by
  induction items using List.reverseRecOn generalizing behind with
  | nil =>
      refine ⟨[], by simp, rfl, ?_⟩
      obtain ⟨next, rest, rfl⟩ := List.exists_cons_of_ne_nil more
      simp [dueOf, contentOf, holdAll, readAll]
  | append_singleton items last ih =>
      obtain ⟨before, fits⟩ := follow_concat.mp fits
      obtain ⟨early, goOn, remarked, reads⟩ := ih before (by simp [more])
      have item : Reads (reader.holdAll items) last behind :=
        reads_item (holdAll_escape outside items) (holdAll_mark outside items ▸ fits)
      obtain ⟨later, spelled⟩ := exists_signalsOf last
      refine ⟨early ++ (signalsOf last).modifyHead (attach (dueOf items)), ?_, ?_, ?_⟩
      · intro signal member
        rcases List.mem_append.mp member with member | member
        · exact goOn signal member
        · rw [spelled, List.modifyHead_cons, List.mem_cons] at member
          rcases member with rfl | member
          · exact goesOn_attach_proceed _
          · have own : signal ∈ signalsOf last := by simp [spelled, member]
            exact goesOn_of_mem_signalsOf own
      · rw [remarks_append, remarks_due_signalsOf, dueOf_concat, List.filterMap_append, ← remarked]
        simp only [List.append_assoc, own?_append_due?]
        cases remark : last.remark? <;> simp [remark]
      · have content : contentOf (items ++ [last]) ++ behind =
            contentOf items ++ (last.spelling ++ behind) := by
          simp [contentOf]
        rw [content, reads, item.readAll more, holdAll_concat, dueOf_concat, spelled]
        simp

theorem read_mark (outside : reader.escape = .outside) (usual : Usual reader.mark) :
    Reader.read reader reader.mark = (reader.close, reader) := by
  simp only [Usual, List.mem_cons, List.not_mem_nil, or_false, not_or] at usual
  simp [read_outside outside, readText, usual]

/-- The complaint about the number of symbols in a character literal. -/
def complaint? : Nat → Option String
  | 0 => some "empty character literal"
  | 1 => none
  | _ => some "multi-character literal"

theorem close_eq (reader : Quoted) :
    reader.close = attach (if reader.single then complaint? reader.count else none) .stop := by
  obtain ⟨_, single, _, _, count⟩ := reader
  cases single with
  | false => rfl
  | true =>
      match count with
      | 0 => rfl
      | 1 => rfl
      | _ + 2 => rfl

theorem stops_close (reader : Quoted) : reader.close.Stops := by
  rw [close_eq, stops_attach]
  trivial

/-- The whole text of a literal is read. -/
theorem Divides.readAll (divides : Divides reader.mark items text)
    (outside : reader.escape = .outside) (usual : Usual reader.mark) :
    ∃ early, (∀ signal ∈ early, signal.GoesOn) ∧
      remarks early ++ (dueOf items).toList = items.filterMap Item.remark? ∧
      readAll reader text =
        (early ++ [attach (dueOf items) (reader.holdAll items).close], reader.holdAll items) := by
  obtain ⟨early, goOn, remarked, reads⟩ := reads_items outside divides.fits (by simp)
  refine ⟨early, goOn, remarked, ?_⟩
  have closing : Reader.read (reader.holdAll items) reader.mark =
      ((reader.holdAll items).close, reader.holdAll items) := by
    have same := holdAll_mark outside items
    rw [← same] at usual ⊢
    exact read_mark (holdAll_escape outside items) usual
  rw [divides.text, reads]
  simp [Literal.readAll, closing]

/-! ## Dividing a text -/

/-- Every text begins with a longest run of digits. -/
theorem exists_digits (base width : Nat) (text : List Char) :
    ∃ digits behind, text = digits ++ behind ∧ Digits base width digits behind := by
  induction text generalizing width with
  | nil => exact ⟨[], [], rfl, by simp, by simp, by simp⟩
  | cons first rest ih =>
      cases width with
      | zero => exact ⟨[], first :: rest, rfl, by simp, by simp, by simp⟩
      | succ width =>
          cases value : digitValue? first base with
          | none => exact ⟨[], first :: rest, rfl, by simp, by simp, by simp [value]⟩
          | some digit =>
              obtain ⟨digits, behind, rfl, run⟩ := ih width
              refine ⟨first :: digits, behind, rfl, ?_, Nat.succ_le_succ run.within, ?_⟩
              · simpa [value] using run.all
              · exact fun short => run.ends (Nat.lt_of_succ_lt_succ short)

/-- Every backslash with a symbol behind it begins an item. -/
theorem exists_escape (mark next : Char) (rest : List Char) :
    ∃ (item : Item) (behind : List Char),
      '\\' :: next :: rest = item.spelling ++ behind ∧ item.Fits mark behind := by
  by_cases digit : digitValue? next 8 = none
  · by_cases special : next ∈ ['x', 'u', 'U', '\n', '\r']
    · simp only [List.mem_cons, List.not_mem_nil, or_false] at special
      rcases special with rfl | rfl | rfl | rfl | rfl
      · obtain ⟨digits, behind, rfl, run⟩ := exists_digits 16 (rest.length + 1) rest
        have short : digits.length < (digits ++ behind).length + 1 := by
          rw [List.length_append]
          omega
        exact ⟨.hex digits, behind, rfl, run.all, Nat.le_succ _, fun _ => run.ends short⟩
      · obtain ⟨digits, behind, rfl, run⟩ := exists_digits 16 4 rest
        exact ⟨.universal false digits, behind, rfl, run⟩
      · obtain ⟨digits, behind, rfl, run⟩ := exists_digits 16 8 rest
        exact ⟨.universal true digits, behind, rfl, run⟩
      · exact ⟨.splice .feed, rest, rfl, by simp [Item.Fits]⟩
      · by_cases feed : rest.head? = some '\n'
        · obtain ⟨behind, rfl⟩ := List.head?_eq_some_iff.mp feed
          exact ⟨.splice .both, behind, rfl, by simp [Item.Fits]⟩
        · exact ⟨.splice .carriage, rest, rfl, fun _ => feed⟩
    · exact ⟨.letter next, rest, rfl, digit, special⟩
  · obtain ⟨digits, behind, same, run⟩ := exists_digits 8 3 (next :: rest)
    refine ⟨.octal digits, behind, by rw [same]; rfl, ?_, run⟩
    rintro rfl
    rw [List.nil_append] at same
    exact digit (run.ends (by simp) next (by simp [← same]))

theorem Divides.cons {mark : Char} (fits : item.Fits mark behind)
    (divides : Divides mark items behind) :
    Divides mark (item :: items) (item.spelling ++ behind) where
  text := by simp [divides.text, contentOf]
  fits := by
    obtain ⟨rfl, fitted⟩ := divides
    exact ⟨fits, fitted⟩

theorem spelling_ne_nil (item : Item) : item.spelling ≠ [] := by
  cases item with
  | splice lineEnd => cases lineEnd <;> exact List.cons_ne_nil _ _
  | _ => exact List.cons_ne_nil _ _

/-- A text that goes on with an item does not end with it, if it completes the literal. -/
theorem Reads.closes (reads : Reads reader item behind)
    (closes : Closes (Literal.readAll reader (item.spelling ++ behind)).1) :
    Closes (Literal.readAll (reader.hold item) behind).1 := by
  have more : behind ≠ [] := by
    rintro rfl
    rw [List.append_nil, reads.signals] at closes
    exact not_closes_of_goesOn (fun _ => goesOn_of_mem_signalsOf) closes
  obtain ⟨next, rest, rfl⟩ := List.exists_cons_of_ne_nil more
  rw [reads.readAll more] at closes
  simpa [Literal.readAll, closes_cons] using closes.of_append (by simp [Literal.readAll])

/-- Every text that completes a literal can be divided into items. -/
theorem exists_divides (outside : reader.escape = .outside)
    (closes : Closes (readAll reader text).1) :
    ∃ items, Divides reader.mark items text := by
  induction length : text.length using Nat.strong_induction_on generalizing reader text with
  | _ length ih =>
  subst length
  have continues : ∀ (item : Item) (behind : List Char), text = item.spelling ++ behind →
      item.Fits reader.mark behind → ∃ items, Divides reader.mark items text := by
    rintro item behind rfl fits
    have shorter : behind.length < (item.spelling ++ behind).length := by
      have := List.length_pos_iff.mpr (spelling_ne_nil item)
      rw [List.length_append]
      omega
    obtain ⟨items, divides⟩ :=
      ih _ shorter rfl ((reads_item outside fits).closes closes) rfl
    exact ⟨item :: items, divides.cons fits⟩
  cases text with
  | nil => exact absurd closes (not_closes_of_goesOn (by simp [readAll]))
  | cons first rest =>
      by_cases escaped : first = '\\'
      · subst escaped
        cases rest with
        | nil =>
            rw [readAll_backslash outside] at closes
            exact absurd closes (not_closes_of_goesOn (by simp [readAll, Signal.GoesOn]))
        | cons next rest =>
            obtain ⟨item, behind, same, fits⟩ := exists_escape reader.mark next rest
            exact continues item behind same fits
      · by_cases lineEnd : first = '\n' ∨ first = '\r'
        · rw [readAll, read_outside outside, readText, if_pos lineEnd, closes_cons] at closes
          rcases closes with ⟨stops, _⟩ | ⟨goesOn, _⟩
          · exact stops.elim
          · exact goesOn.elim
        · by_cases closing : first = reader.mark
          · refine ⟨[], ?_, trivial⟩
            rw [readAll, read_outside outside, readText, if_neg lineEnd, if_neg escaped,
              if_pos closing, closes_cons] at closes
            rcases closes with ⟨_, ended⟩ | ⟨goesOn, _⟩
            · have empty := length_readAll reader rest
              rw [ended] at empty
              rw [closing, List.eq_nil_of_length_eq_zero empty.symm]
              rfl
            · exact absurd goesOn (Signal.not_goesOn_of_stops (stops_close reader))
          · rw [not_or] at lineEnd
            exact continues (.plain first) rest rfl ⟨closing, escaped, lineEnd⟩

end Lexing.Literal.Quoted
