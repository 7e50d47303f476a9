import Lexing.Proofs.Registrations
import Lexing.Proofs.Twins
import Mathlib.Data.List.Basic

/-!
# The order of registrations

Registrations in another order give the nodes of the tries and the readers other numbers.
The entries of the profile are the same up to their order, so nothing that is looked up by
a symbol, a sequence or a kind changes, and neither does any scan.
-/

namespace Lexing

/-! ## Classes -/

namespace CharClass

theorem union_right_comm (traits first second : CharClass) :
    (traits.union first).union second = (traits.union second).union first := by
  unfold union
  congr 1 <;> exact Bool.or_right_comm _ _ _

/-- Hints can be added in any order. -/
theorem Table.insert_right_comm (table : Table) (symbol letter : Char)
    (first second : CharClass) :
    (table.insert symbol first).insert letter second =
      (table.insert letter second).insert symbol first := by
  unfold insert set classify
  by_cases one : symbol.toNat < 128 <;> by_cases two : letter.toNat < 128
  · simp only [one, two, dif_pos]
    by_cases same : symbol.toNat = letter.toNat
    · simp [same, union_right_comm]
    · have other : letter.toNat ≠ symbol.toNat := Ne.symm same
      simp [same, other, Vector.set_comm _ _ same]
  · simp [one, two]
  · simp [one, two]
  · simp [one, two, union_right_comm]

end CharClass

/-! ## Tries -/

theorem Trie.Holds.alike {one two : Trie} {entries others : List (List Char × Kind)}
    (holds : one.Holds entries) (holdsToo : two.Holds others) (perm : entries.Perm others) :
    one.Alike two where
  walkable passed := by
    rw [Bool.eq_iff_iff, holds.walkable, holdsToo.walkable]
    simp only [perm.mem_iff]
  kinds sequence := by
    refine Option.ext fun kind => ?_
    rw [holds.kinds, holdsToo.kinds, perm.mem_iff]

namespace Trie.Introduces

variable {ρ : Type} {one two : Trie} {readers copies : Literal.Registry ρ}
  {forms others : List (List Char × ρ)}

theorem isSome_iff (introduces : one.Introduces readers forms) (sequence : List Char) :
    (one.bindingOf? sequence).isSome = true ↔ ∃ reader, (sequence, reader) ∈ forms := by
  simp only [← introduces.forms]
  cases bound : one.bindingOf? sequence with
  | none => simp
  | some number =>
      have registered := introduces.registered sequence number bound
      simpa using ⟨_, Array.getElem?_eq_getElem registered⟩

theorem isSome_eq (introduces : one.Introduces readers forms)
    (introducesToo : two.Introduces copies others) (perm : forms.Perm others)
    (sequence : List Char) :
    (one.bindingOf? sequence).isSome = (two.bindingOf? sequence).isSome := by
  rw [Bool.eq_iff_iff, introduces.isSome_iff, introducesToo.isSome_iff]
  simp only [perm.mem_iff]

/-- The readers that an introduction is bound to are the same, whatever their numbers. -/
theorem instantiate?_eq (introduces : one.Introduces readers forms)
    (introducesToo : two.Introduces copies others) (perm : forms.Perm others)
    {sequence : List Char} {here there : Nat} (bound : one.bindingOf? sequence = some here)
    (boundToo : two.bindingOf? sequence = some there) :
    readers.instantiate? here = copies.instantiate? there := by
  refine Option.ext fun reader => ?_
  have first := introduces.forms sequence reader
  have second := introducesToo.forms sequence reader
  rw [bound, Option.bind_some] at first
  rw [boundToo, Option.bind_some] at second
  rw [first, second, perm.mem_iff]

/-- Bindings of the same introductions pair their readers one to one. -/
theorem paired (introduces : one.Introduces readers forms)
    (introducesToo : two.Introduces copies others) {sequence passed : List Char}
    {here there other another : Nat} (bound : one.bindingOf? sequence = some here)
    (boundToo : two.bindingOf? sequence = some there) (also : one.bindingOf? passed = some other)
    (alsoToo : two.bindingOf? passed = some another) : other = here ↔ another = there := by
  constructor
  · rintro rfl
    obtain rfl := introduces.single bound also
    exact Option.some.inj (alsoToo.symm.trans boundToo)
  · rintro rfl
    obtain rfl := introducesToo.single boundToo alsoToo
    exact Option.some.inj (also.symm.trans bound)

end Trie.Introduces

/-! ## Profiles -/

open Build (Entry Call Accepts)

variable {ρ : Type}

theorem eq_of_perm_of_length_le_one {α : Type} {first second : List α} (perm : first.Perm second)
    (short : first.length ≤ 1) : first = second := by
  match first, short with
  | [], _ => exact perm.nil_eq
  | [single], _ => exact List.singleton_perm.mp perm

/-- Builders that were told the same, in whatever order. -/
theorem Builder.Reflects.twins {one two : Builder ρ} {entries others : List (Entry ρ)}
    (told : one.Reflects entries) (toldToo : two.Reflects others) (perm : entries.Perm others)
    (optionsOnce : (entries.filterMap Entry.options?).length ≤ 1)
    (closedOnce : (entries.filterMap Entry.blockClose?).length ≤ 1) :
    one.profile.Twins two.profile := by
  have options : one.profile.options = two.profile.options := by
    rw [told.options, toldToo.options,
      eq_of_perm_of_length_le_one (perm.filterMap Entry.options?) optionsOnce]
  have forms := perm.filterMap Entry.form?
  exact {
    classes := by
      rw [told.classes, toldToo.classes]
      exact (perm.filterMap Entry.hint?).foldr_eq' (fun _ _ _ _ _ =>
        CharClass.Table.insert_right_comm _ _ _ _ _) _
    options
    defaultNumber := by
      have default := told.defaultNumber
      rw [options, toldToo.defaultNumber] at default
      exact (Option.some.inj default).symm
    numberPrefixes := told.numberPrefixes.alike toldToo.numberPrefixes (perm.filterMap _)
    brackets := told.brackets.alike toldToo.brackets (perm.filterMap _)
    operators := told.operators.alike toldToo.operators (perm.filterMap _)
    literals := told.literals.alike toldToo.literals (perm.filterMap _)
    bound := told.forms.isSome_eq toldToo.forms forms
    fresh := by
      rintro here there ⟨sequence, bound, boundToo⟩
      exact told.forms.instantiate?_eq toldToo.forms forms bound boundToo
    paired := by
      rintro here there other another ⟨sequence, bound, boundToo⟩ ⟨passed, also, alsoToo⟩
      exact told.forms.paired toldToo.forms bound boundToo also alsoToo
    blockClose := by
      rw [told.blockClose, toldToo.blockClose,
        eq_of_perm_of_length_le_one (perm.filterMap Entry.blockClose?) closedOnce]
    fallbacks := by
      intro here there _
      rw [Profile.fallbackAt?, Profile.fallbackAt?, told.fallbacks, toldToo.fallbacks]
      rfl }

theorem Builder.Reflects.describe?_eq {one two : Builder ρ} {entries others : List (Entry ρ)}
    (told : one.Reflects entries) (toldToo : two.Reflects others) (perm : entries.Perm others)
    (kind : Kind) : one.profile.describe? kind = two.profile.describe? kind := by
  refine Option.ext fun sequence => ?_
  rw [told.spellings, toldToo.spellings, (perm.filterMap Entry.spelling?).mem_iff]

/-- Neither a lookup nor a scan can tell the profiles apart. -/
structure Profile.Interchangeable [Literal.Reader ρ] (one two : Profile ρ) : Prop where
  classify : ∀ symbol, one.classes.classify symbol = two.classes.classify symbol
  operatorKind? : ∀ sequence, one.operatorKind? sequence = two.operatorKind? sequence
  numberPrefixKind? : ∀ sequence, one.numberPrefixKind? sequence = two.numberPrefixKind? sequence
  literalKind? : ∀ sequence, one.literalKind? sequence = two.literalKind? sequence
  describe? : ∀ kind, one.describe? kind = two.describe? kind
  scan : ∀ {σ : Type} [Sink σ] (sink : σ) (ownClasses : Option CharClass.Table)
    (source : String),
    (Scan.tokenize one { ownClasses } sink source).result =
        (Scan.tokenize two { ownClasses } sink source).result ∧
      (Scan.tokenize one { ownClasses } sink source).sink =
        (Scan.tokenize two { ownClasses } sink source).sink

namespace Build

def Call.options? : Call ρ → Option Options
  | .setOptions options => some options
  | _ => none

def Call.blockClose? : Call ρ → Option (List Char)
  | .setBlockComment _ closing => some closing.toList
  | _ => none

theorem Entry.filterMap_hints {α : Type} {pick : Entry ρ → Option α}
    (blind : ∀ symbol traits, pick (.hint symbol traits) = none) (symbols : List Char)
    (traits : CharClass) : (Entry.hints symbols traits).filterMap pick = [] := by
  refine List.filterMap_eq_nil_iff.mpr fun entry listed => ?_
  obtain ⟨symbol, _, rfl⟩ : ∃ symbol ∈ symbols, Entry.hint symbol traits = entry := by
    simpa [Entry.hints] using listed
  exact blind symbol traits

/-- The options or the end of block comments, which a call may set. -/
def Entry.setting? : Entry ρ → Option (Options ⊕ List Char)
  | .options chosen => some (.inl chosen)
  | .blockClose closing => some (.inr closing)
  | _ => none

def Call.setting? : Call ρ → Option (Options ⊕ List Char)
  | .setOptions chosen => some (.inl chosen)
  | .setBlockComment _ closing => some (.inr closing.toList)
  | _ => none

theorem Call.filterMap_setting? (call : Call ρ) :
    call.entries.filterMap Entry.setting? = call.setting?.toList := by
  have blind : ∀ symbols traits,
      (Entry.hints symbols traits : List (Entry ρ)).filterMap Entry.setting? = [] :=
    Entry.filterMap_hints fun _ _ => rfl
  cases call with
  | addBrackets | addNumberPrefix | addLiteral =>
      simp only [entries]
      split <;> rfl
  | _ => simp [entries, blind, List.filterMap_cons, Entry.setting?, Call.setting?]

/-- What is picked from the settings that a call makes. -/
theorem Call.filterMap_of_setting {α : Type} {pick : Entry ρ → Option α}
    {once : Call ρ → Option α} (part : Options ⊕ List Char → Option α)
    (picks : ∀ entry, pick entry = entry.setting?.bind part)
    (sets : ∀ call, once call = call.setting?.bind part) (call : Call ρ) :
    call.entries.filterMap pick = (once call).toList := by
  rw [funext picks, ← List.filterMap_filterMap, call.filterMap_setting?, sets]
  cases call.setting? with
  | none => rfl
  | some setting =>
      rw [Option.toList_some, List.filterMap_cons, Option.bind_some]
      cases part setting <;> rfl

theorem Call.filterMap_options? (call : Call ρ) :
    call.entries.filterMap Entry.options? = call.options?.toList :=
  filterMap_of_setting Sum.getLeft? (fun entry => by cases entry <;> rfl)
    (fun call => by cases call <;> rfl) call

theorem Call.filterMap_blockClose? (call : Call ρ) :
    call.entries.filterMap Entry.blockClose? = call.blockClose?.toList :=
  filterMap_of_setting Sum.getRight? (fun entry => by cases entry <;> rfl)
    (fun call => by cases call <;> rfl) call

/-- What all calls of a list write is what each of them writes. -/
theorem filterMap_flatMap {α β γ : Type} {write : α → List β} {pick : β → Option γ}
    {once : α → Option γ} (writes : ∀ value, (write value).filterMap pick = (once value).toList)
    (values : List α) : (values.flatMap write).filterMap pick = values.filterMap once := by
  rw [List.filterMap_flatMap, List.filterMap_eq_flatMap_toList once]
  simp only [writes]

end Build

/-- The order of registrations does not matter. -/
theorem registration_order_irrelevant [Literal.Reader ρ] {calls others : List (Call ρ)}
    {one two : Builder ρ} (perm : calls.Perm others)
    (registers : ∀ call ∈ calls, call.registers = true)
    (optionsOnce : (calls.filterMap Call.options?).length ≤ 1)
    (commentsOnce : (calls.filterMap Call.blockClose?).length ≤ 1)
    (built : Accepts (calls.forM Call.perform) {} () one)
    (rebuilt : Accepts (others.forM Call.perform) {} () two) :
    one.profile.Interchangeable two.profile := by
  have told := Build.writes_forM registers Builder.fresh_reflects built
  have toldToo := Build.writes_forM (fun call listed => registers call (perm.mem_iff.mpr listed))
    Builder.fresh_reflects rebuilt
  rw [List.append_nil] at told toldToo
  have backwards : calls.reverse.Perm others.reverse :=
    (List.reverse_perm calls).trans (perm.trans (List.reverse_perm others).symm)
  have entries := backwards.flatMap_right Call.entries
  have twins : one.profile.Twins two.profile := by
    refine told.twins toldToo entries ?_ ?_
    · rw [Build.filterMap_flatMap Call.filterMap_options?, List.filterMap_reverse,
        List.length_reverse]
      exact optionsOnce
    · rw [Build.filterMap_flatMap Call.filterMap_blockClose?, List.filterMap_reverse,
        List.length_reverse]
      exact commentsOnce
  exact {
    classify := fun symbol => by rw [twins.classes]
    operatorKind? := fun sequence => by
      rw [Profile.operatorKind?, Profile.operatorKind?, told.operators.lookup?_eq,
        toldToo.operators.lookup?_eq, twins.operators.kinds]
    numberPrefixKind? := fun sequence => by
      rw [Profile.numberPrefixKind?, Profile.numberPrefixKind?, told.numberPrefixes.lookup?_eq,
        toldToo.numberPrefixes.lookup?_eq, twins.numberPrefixes.kinds]
    literalKind? := fun sequence => by
      rw [Profile.literalKind?, Profile.literalKind?, told.literals.lookup?_eq,
        toldToo.literals.lookup?_eq, twins.literals.kinds]
    describe? := told.describe?_eq toldToo entries
    scan := fun sink ownClasses source => by
      obtain ⟨received, result⟩ := Scan.tokenize_twin twins { ownClasses } { ownClasses } rfl
        (fun _ => rfl) sink source
      exact ⟨result, received⟩ }

/-- Registrations of a small language. -/
def smallLanguage : List (Call Literal.Stock) :=
  [.setOptions { honorLineContinuation := false }, .addBrackets "()" .roundOpen,
    .addNumberPrefix "0x" .numberHex, .setBlockComment "/*" "*/",
    .addOperatorKind "*" (.operator 0), .addOperatorKind "**" (.operator 1),
    .addOperatorKind "/" (.operator 2), .addLiteral "\"" (.literal 0) (.string '"'),
    .addLiteral "'" (.literal 1) (.character '\''), .addClass "$" { identifierFirst := true }]

/-- Registered backwards, the language has other nodes and other readers. -/
theorem registration_order_reversed :
    ∃ one two : Builder Literal.Stock,
      Accepts (smallLanguage.forM Call.perform) {} () one ∧
        Accepts (smallLanguage.reverse.forM Call.perform) {} () two ∧
        one.profile.operators.find? ['*'] ≠ two.profile.operators.find? ['*'] ∧
        one.profile.literals.bindingOf? ['"'] ≠ two.profile.literals.bindingOf? ['"'] ∧
        one.profile.Interchangeable two.profile := by
  have built : Accepts (smallLanguage.forM Call.perform) {} () _ := ⟨by decide +kernel, rfl⟩
  have rebuilt : Accepts (smallLanguage.reverse.forM Call.perform) {} () _ :=
    ⟨by decide +kernel, rfl⟩
  exact ⟨_, _, built, rebuilt, by decide +kernel, by decide +kernel,
    registration_order_irrelevant (List.reverse_perm smallLanguage).symm (by decide) (by decide)
      (by decide) built rebuilt⟩

end Lexing
