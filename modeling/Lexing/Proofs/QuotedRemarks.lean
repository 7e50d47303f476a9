import Lexing.Proofs.QuotedTexts

/-!
# Remarks on quoted literals

Every malformed escape of a complete literal is remarked on once, in the order of the escapes.
The mark of a character literal can carry two remarks, that on an escape that only the mark ends
and the complaint about the number of symbols.  Then the complaint wins.
-/

namespace Lexing.Literal.Quoted

variable {reader : Quoted} {items : List Item} {text : List Char}

theorem remark?_attach_stop (remark complaint : Option String) :
    (attach remark (attach complaint .stop)).remark? = complaint.or remark := by
  cases complaint <;> cases remark <;> rfl

/-- The remarks on a literal, with that of the mark last. -/
theorem Divides.remarks (divides : Divides reader.mark items text) (usual : Usual reader.mark) :
    ∃ kept, kept ++ (dueOf items).toList = items.filterMap Item.remark? ∧
      Literal.remarks (Literal.readAll (Reader.reset reader) text).1 =
        kept ++ ((if reader.single then complaint? (meaning items).length else none).or
          (dueOf items)).toList := by
  obtain ⟨early, _, remarked, reads⟩ := divides.readAll_reset usual
  refine ⟨Literal.remarks early, remarked, ?_⟩
  rw [reads, close_holdAll, closing_eq, remarks_append, remarks_cons, remark?_attach_stop,
    remarks_nil, List.append_nil]

/-- The signals of a complete literal carry one remark for each malformed escape, in order, with
one exception.  A character literal that does not stand for exactly one symbol is complained about
at its mark, and then the remark on an escape that the mark ends is not made. -/
theorem remarks_kept (reader : Quoted) (usual : Usual reader.mark) (text : List Char)
    (closes : Closes (readAll (Reader.reset reader) text).1) :
    (∃ items, Divides reader.mark items text) ∧
    ∀ items, Divides reader.mark items text →
      ((reader.single = true → (meaning items).length = 1) →
        remarks (readAll (Reader.reset reader) text).1 = items.filterMap Item.remark?) ∧
      (reader.single = true → ∀ complaint ∈ complaint? (meaning items).length,
        ∃ kept, kept ++ (dueOf items).toList = items.filterMap Item.remark? ∧
          remarks (readAll (Reader.reset reader) text).1 = kept ++ [complaint]) := by
  refine ⟨exists_divides_reset closes, fun items divides => ?_⟩
  obtain ⟨kept, remarked, made⟩ := divides.remarks usual
  constructor
  · intro one
    rw [made, ← remarked]
    cases single : reader.single with
    | false => rfl
    | true =>
        rw [one single]
        rfl
  · intro single complaint complains
    refine ⟨kept, remarked, ?_⟩
    rw [made, if_pos single, Option.mem_def.mp complains]
    rfl

/-- The remark on a hexadecimal escape without digits is displaced. -/
theorem remarks_kept_displaced :
    Usual '\'' ∧ Closes (readAll (Reader.reset (character '\'')) ['\\', 'x', '\'']).1 ∧
      Divides '\'' [.hex []] ['\\', 'x', '\''] ∧
      (Item.hex []).remark? = some "\\x used with no following hex digits" ∧
      remarks (readAll (Reader.reset (character '\'')) ['\\', 'x', '\'']).1 =
        ["empty character literal"] := by
  have usual : Usual '\'' := by decide
  have closes : Closes (readAll (Reader.reset (character '\'')) ['\\', 'x', '\'']).1 :=
    ⟨[.proceed, .proceed], .stopWith "empty character literal", rfl,
      fun signal member => by
        rw [List.eq_of_mem_replicate (n := 2) member]
        trivial,
      trivial⟩
  have divides : Divides '\'' [.hex []] ['\\', 'x', '\''] :=
    ⟨rfl, ⟨by simp, by decide, by simp; decide⟩, trivial⟩
  obtain ⟨kept, remarked, made⟩ :=
    ((remarks_kept (character '\'') usual _ closes).2 _ divides).2 rfl _ rfl
  obtain rfl : kept = [] := List.append_cancel_right (remarked.trans (List.nil_append _).symm)
  exact ⟨usual, closes, divides, rfl, made⟩

end Lexing.Literal.Quoted
