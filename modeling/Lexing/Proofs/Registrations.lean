import Lexing.Proofs.Building
import Lexing.Proofs.TrieContents

/-!
# What a profile was told

Every accepted registration leaves a few entries behind: hints for symbols, the spelling
of a kind, a sequence with its kind, and so on.  A profile in which no kind was used twice
is determined by its entries, up to the numbers of nodes and readers.
-/

namespace Lexing

/-! ## Tries -/

namespace Trie

/-- The trie holds the given sequences with their kinds and no others. -/
structure Holds (trie : Trie) (entries : List (List Char × Kind)) : Prop extends Tree trie where
  walkable : ∀ passed, (trie.find? passed).isSome = true ↔
    passed = [] ∨ ∃ entry ∈ entries, passed <+: entry.1
  kinds : ∀ sequence kind, trie.kindOf? sequence = some kind ↔ (sequence, kind) ∈ entries

theorem find?_empty (passed : List Char) : (empty.find? passed).isSome = true ↔ passed = [] := by
  cases passed with
  | nil => simp
  | cons symbol rest => simp [find?, walkFrom, advance, empty, root]

theorem empty_holds : empty.Holds [] where
  toTree := empty_tree
  walkable passed := by simp [find?_empty]
  kinds sequence kind := by simp

/-- An accepted insertion adds one sequence. -/
theorem Holds.insert {trie : Trie} {entries : List (List Char × Kind)} (holds : trie.Holds entries)
    {sequence : String} {kind : Kind} {binding : Option Nat} {node : NodeId}
    (accepted : (trie.insert sequence kind binding).1 = .ok node) :
    (trie.insert sequence kind binding).2.Holds ((sequence.toList, kind) :: entries) := by
  have inserted := holds.insert_accepted accepted
  refine ⟨holds.toTree.insert sequence kind binding, fun passed => ?_, fun passed found => ?_⟩
  · rw [inserted.isSome_iff, holds.walkable]
    simp only [List.mem_cons, exists_eq_or_imp]
    rw [or_assoc, or_comm (a := ∃ entry, _)]
  · rw [inserted.kindOf?_eq]
    split
    case isTrue same =>
      subst same
      have known := holds.kinds sequence.toList found
      constructor
      · intro new
        obtain rfl := Option.some.inj new
        exact List.mem_cons_self
      · intro listed
        rcases List.mem_cons.mp listed with new | old
        · exact congrArg some (Prod.mk.inj new).2.symm
        · exact congrArg some (inserted.sameKind found (known.mpr old)).symm
    case isFalse different =>
      rw [holds.kinds, List.mem_cons, or_iff_right]
      exact fun same => different (Prod.mk.inj same).1

end Trie

/-! ## Entries -/

/-- One thing that a profile was told. -/
inductive Build.Entry (ρ : Type) where
  | hint (symbol : Char) (traits : CharClass)
  | spelling (kind : Kind) (sequence : String)
  | bracket (sequence : List Char) (kind : Kind)
  | numberPrefix (sequence : List Char) (kind : Kind)
  | operator (sequence : List Char) (kind : Kind)
  | literal (sequence : List Char) (kind : Kind) (reader : ρ)
  | options (options : Options)
  | blockClose (closing : List Char)

namespace Build.Entry

variable {ρ : Type}

-- Each of these picks the entries of one sort.

def hint? : Entry ρ → Option (Char × CharClass)
  | .hint symbol traits => some (symbol, traits)
  | _ => none

def spelling? : Entry ρ → Option (Kind × String)
  | .spelling kind sequence => some (kind, sequence)
  | _ => none

def bracket? : Entry ρ → Option (List Char × Kind)
  | .bracket sequence kind => some (sequence, kind)
  | _ => none

def numberPrefix? : Entry ρ → Option (List Char × Kind)
  | .numberPrefix sequence kind => some (sequence, kind)
  | _ => none

def operator? : Entry ρ → Option (List Char × Kind)
  | .operator sequence kind => some (sequence, kind)
  | _ => none

def literal? : Entry ρ → Option (List Char × Kind)
  | .literal sequence kind _ => some (sequence, kind)
  | _ => none

/-- An introduction of literals with the reader for them. -/
def form? : Entry ρ → Option (List Char × ρ)
  | .literal sequence _ reader => some (sequence, reader)
  | _ => none

def options? : Entry ρ → Option Options
  | .options chosen => some chosen
  | _ => none

def blockClose? : Entry ρ → Option (List Char)
  | .blockClose closing => some closing
  | _ => none

/-- The same hint for all symbols of a text, the last one first. -/
def hints (symbols : List Char) (traits : CharClass) : List (Entry ρ) :=
  (symbols.map (hint · traits)).reverse

theorem hints_cons (symbol : Char) (symbols : List Char) (traits : CharClass) :
    (hints (symbol :: symbols) traits : List (Entry ρ)) =
      hints symbols traits ++ [hint symbol traits] := by
  simp [hints]

end Build.Entry

open Build (Entry)

/-- What an accepted call leaves behind, the newest entry first. -/
def Build.Call.entries {ρ : Type} : Build.Call ρ → List (Entry ρ)
  | .addClass symbols traits => Entry.hints symbols.toList traits
  | .setOptions options => [.options options]
  | .addBrackets pair kind =>
      match pair.toList, kind.bracketClose? with
      | [opening, closing], some closeKind =>
          [.hint closing { closing := true }, .hint opening { opening := true },
            .bracket [closing] closeKind, .bracket [opening] kind,
            .spelling closeKind closing.toString, .spelling kind opening.toString]
      | _, _ => []
  | .addNumberPrefix sequence kind =>
      match sequence.toList with
      | [] => []
      | first :: _ =>
          [.hint first { digit := true }, .numberPrefix sequence.toList kind,
            .spelling kind sequence]
  | .setBlockComment opening closing =>
      Entry.hints opening.toList { operator := true } ++
        [.blockClose closing.toList] ++ [.operator opening.toList .blockComment]
  | .addOperatorKind sequence kind =>
      Entry.hints sequence.toList { operator := true } ++
        [.operator sequence.toList kind] ++ [.spelling kind sequence]
  | .addLiteral sequence kind reader =>
      match sequence.toList with
      | [] => []
      | first :: _ =>
          [.hint first { literalFirst := true }, .literal sequence.toList kind reader,
            .spelling kind sequence]
  | _ => []

variable {ρ α β : Type}

/-- Every introduction of a literal is bound to a reader of its own. -/
structure Trie.Introduces (literals : Trie) (readers : Literal.Registry ρ)
    (forms : List (List Char × ρ)) : Prop where
  forms : ∀ sequence reader,
    (literals.bindingOf? sequence).bind readers.instantiate? = some reader ↔
      (sequence, reader) ∈ forms
  registered : ∀ sequence number, literals.bindingOf? sequence = some number →
    number < readers.size
  single : ∀ {sequence other number}, literals.bindingOf? sequence = some number →
    literals.bindingOf? other = some number → sequence = other

namespace Trie.Introduces

variable {literals grown : Trie} {readers : Literal.Registry ρ} {forms : List (List Char × ρ)}
  {sequence : List Char} {kind : Kind} {node : NodeId}

/-- The next number is new, so a reader that was bound earlier would have been in the way. -/
theorem unbound (introduces : literals.Introduces readers forms)
    (inserted : Accepted literals sequence kind (some readers.size) node grown) :
    literals.bindingOf? sequence = none := by
  cases earlier : literals.bindingOf? sequence with
  | none => rfl
  | some number =>
      have below := introduces.registered sequence number earlier
      have same := inserted.sameBinding _ number rfl earlier
      omega

/-- Readers that were registered before keep their numbers. -/
theorem bind_push (introduces : literals.Introduces readers forms) (reader : ρ)
    (passed : List Char) :
    (literals.bindingOf? passed).bind
        (Literal.Registry.instantiate? ⟨readers.readers.push reader⟩) =
      (literals.bindingOf? passed).bind readers.instantiate? := by
  cases earlier : literals.bindingOf? passed with
  | none => rfl
  | some number =>
      have below := introduces.registered passed number earlier
      have other : number ≠ readers.readers.size := Nat.ne_of_lt below
      simp [Literal.Registry.instantiate?, Array.getElem?_push, other]

/-- A new introduction that is bound to the next reader. -/
theorem insert (introduces : literals.Introduces readers forms) (reader : ρ)
    (inserted : Accepted literals sequence kind (some readers.size) node grown) :
    grown.Introduces ⟨readers.readers.push reader⟩ ((sequence, reader) :: forms) := by
  have bindings : ∀ passed, grown.bindingOf? passed =
      if passed = sequence then some readers.size else literals.bindingOf? passed := by
    simpa using inserted.bindingOf?_eq
  have unlisted : ∀ other, (sequence, other) ∉ forms := by
    intro other listed
    have bound := (introduces.forms sequence other).mpr listed
    rw [introduces.unbound inserted] at bound
    contradiction
  constructor
  · intro passed found
    rw [bindings, List.mem_cons, Prod.mk.injEq]
    split
    case isTrue same =>
      subst same
      simp [Literal.Registry.instantiate?, Literal.Registry.size, unlisted, eq_comm]
    case isFalse different =>
      rw [introduces.bind_push, introduces.forms]
      simp only [different, false_and, false_or]
  · intro passed number bound
    have size : Literal.Registry.size ⟨readers.readers.push reader⟩ = readers.size + 1 := by
      simp [Literal.Registry.size]
    rw [bindings] at bound
    split at bound
    · obtain rfl := Option.some.inj bound
      omega
    · have below := introduces.registered passed number bound
      omega
  · intro passed other number bound boundToo
    rw [bindings] at bound boundToo
    split_ifs at bound boundToo with same sameToo sameToo
    · rw [same, sameToo]
    · obtain rfl := Option.some.inj bound
      exact absurd (introduces.registered _ _ boundToo) (Nat.lt_irrefl _)
    · obtain rfl := Option.some.inj boundToo
      exact absurd (introduces.registered _ _ bound) (Nat.lt_irrefl _)
    · exact introduces.single bound boundToo

end Trie.Introduces

/-- A builder that was told exactly the given entries, the newest first. -/
structure Builder.Reflects (entries : List (Entry ρ)) (builder : Builder ρ) : Prop where
  classes : builder.profile.classes =
    (entries.filterMap Entry.hint?).foldr (fun hint table => table.insert hint.1 hint.2) .standard
  spellings : ∀ kind sequence, builder.profile.describe? kind = some sequence ↔
    (kind, sequence) ∈ entries.filterMap Entry.spelling?
  brackets : builder.profile.brackets.Holds (entries.filterMap Entry.bracket?)
  numberPrefixes : builder.profile.numberPrefixes.Holds (entries.filterMap Entry.numberPrefix?)
  operators : builder.profile.operators.Holds (entries.filterMap Entry.operator?)
  literals : builder.profile.literals.Holds (entries.filterMap Entry.literal?)
  forms : builder.profile.literals.Introduces builder.profile.readers
    (entries.filterMap Entry.form?)
  options : builder.profile.options = (entries.filterMap Entry.options?).headD {}
  defaultNumber : Kind.numberForBase? builder.profile.options.defaultBase =
    some builder.profile.defaultNumber
  blockClose : builder.profile.blockClose = (entries.filterMap Entry.blockClose?).headD []
  fallbacks : builder.profile.fallbacks = []
  strict : builder.allowKindReuse = false

theorem Builder.fresh_reflects : Builder.Reflects [] ({} : Builder ρ) where
  classes := rfl
  spellings kind sequence := by simp [Profile.describe?]
  brackets := Trie.empty_holds
  numberPrefixes := Trie.empty_holds
  operators := Trie.empty_holds
  literals := Trie.empty_holds
  forms := {
    forms := by simp
    registered := by simp
    single := by simp }
  options := rfl
  defaultNumber := rfl
  blockClose := rfl
  fallbacks := rfl
  strict := rfl

namespace Build

/-! ## Accepted calls -/

/-- The call is accepted: it answers with `value` and leaves `next`. -/
def Accepts (call : Build ρ α) (builder : Builder ρ) (value : α) (next : Builder ρ) : Prop :=
  (call.run.run builder).1 = .ok value ∧ builder.after call = next

section Accepts

variable {builder next : Builder ρ} {value : α}

@[simp]
theorem accepts_pure {given : α} :
    Accepts (pure given) builder value next ↔ given = value ∧ builder = next :=
  ⟨fun accepted => ⟨Except.ok.inj accepted.1, accepted.2⟩,
    fun same => ⟨congrArg Except.ok same.1, same.2⟩⟩

@[simp]
theorem accepts_throw {error : BuildError} :
    ¬Accepts (throw error : Build ρ α) builder value next :=
  nofun

@[simp]
theorem accepts_get {seen : Builder ρ} :
    Accepts get builder seen next ↔ builder = seen ∧ builder = next :=
  ⟨fun accepted => ⟨Except.ok.inj accepted.1, accepted.2⟩,
    fun same => ⟨congrArg Except.ok same.1, same.2⟩⟩

@[simp]
theorem accepts_modify {change : Builder ρ → Builder ρ} {answer : PUnit} :
    Accepts (modify change) builder answer next ↔ change builder = next :=
  ⟨fun accepted => accepted.2, fun same => ⟨rfl, same⟩⟩

@[simp]
theorem accepts_bind {call : Build ρ α} {after : α → Build ρ β} {answer : β} :
    Accepts (call >>= after) builder answer next ↔
      ∃ value middle, Accepts call builder value middle ∧
        Accepts (after value) middle answer next := by
  unfold Accepts Builder.after
  rw [run_bind]
  rcases call.run.run builder with ⟨error | value, middle⟩
  · simp
  · constructor
    · exact fun answered => ⟨value, middle, ⟨rfl, rfl⟩, answered⟩
    · rintro ⟨_, _, ⟨same, rfl⟩, answered⟩
      obtain rfl := Except.ok.inj same
      exact answered

@[simp]
theorem accepts_insertAnswer {answer : Except Trie.InsertError NodeId} {node : NodeId} :
    Accepts (insertAnswer answer) builder node next ↔ answer = .ok node ∧ builder = next := by
  cases answer <;> simp [insertAnswer]

/-- What is accepted passes its guards. -/
@[simp]
theorem accepts_guard {condition : Prop} [Decidable condition] {error : BuildError}
    {skipped : PUnit → Build ρ α} {call : Build ρ α} :
    Accepts (if condition then (throw error : Build ρ PUnit) >>= skipped else call)
      builder value next ↔ ¬condition ∧ Accepts call builder value next := by
  split <;> simp [*]

end Accepts

/-! ## What calls write -/

/-- When it is accepted, the call adds the given entries, the newest first.  In this order an
entry only concerns its own field of `Builder.Reflects`; the others stay as they are. -/
def Writes (call : Build ρ α) (new : List (Entry ρ)) : Prop :=
  ∀ ⦃entries : List (Entry ρ)⦄ ⦃builder next : Builder ρ⦄ ⦃value : α⦄,
    builder.Reflects entries → Accepts call builder value next → next.Reflects (new ++ entries)

theorem Writes.bind {call : Build ρ α} {after : α → Build ρ β} {first second : List (Entry ρ)}
    (writes : Writes call first) (writesToo : ∀ value, Writes (after value) second) :
    Writes (call >>= after) (second ++ first) := by
  intro entries builder next answer given accepted
  obtain ⟨value, middle, before, later⟩ := accepts_bind.mp accepted
  rw [List.append_assoc]
  exact writesToo value (writes given before) later

theorem writes_throw {error : BuildError} {new : List (Entry ρ)} :
    Writes (throw error : Build ρ α) new :=
  fun _ _ _ _ _ accepted => absurd accepted accepts_throw

theorem writes_guard {condition : Prop} [Decidable condition] {error : BuildError}
    {skipped : PUnit → Build ρ α} {call : Build ρ α} {new : List (Entry ρ)}
    (writes : Writes call new) :
    Writes (if condition then (throw error : Build ρ PUnit) >>= skipped else call) new :=
  fun _ _ _ _ given accepted => writes given (accepts_guard.mp accepted).2

theorem modifyProfile_writes {change : Profile ρ → Profile ρ} {new : List (Entry ρ)}
    (reflects : ∀ {entries : List (Entry ρ)} {builder : Builder ρ}, builder.Reflects entries →
      Builder.Reflects (new ++ entries) { builder with profile := change builder.profile }) :
    Writes (modifyProfile change) new := by
  intro entries builder next _ given accepted
  obtain rfl := accepts_modify.mp accepted
  exact reflects given

theorem modifyClasses_writes (symbol : Char) (traits : CharClass) :
    Writes (modifyClasses (·.insert symbol traits) : Build ρ Unit) [.hint symbol traits] := by
  refine modifyProfile_writes fun given => ?_
  exact { given with classes := congrArg (·.insert symbol traits) given.classes }

theorem addClass_writes (symbols : String) (traits : CharClass) :
    Writes (addClass symbols traits : Build ρ Unit) (Entry.hints symbols.toList traits) := by
  refine modifyProfile_writes fun {entries builder} given => ?_
  generalize symbols.toList = letters
  induction letters generalizing entries builder with
  | nil => exact given
  | cons symbol rest ih =>
      rw [Entry.hints_cons, List.append_assoc]
      have first : Builder.Reflects ([.hint symbol traits] ++ entries)
          { builder with profile := { builder.profile with
            classes := builder.profile.classes.insert symbol traits } } :=
        { given with classes := congrArg (·.insert symbol traits) given.classes }
      exact ih first

theorem markOperator_writes (sequence : String) :
    Writes (markOperator sequence : Build ρ Unit)
      (Entry.hints sequence.toList { operator := true }) :=
  addClass_writes sequence _

theorem setOptions_writes (options : Options) :
    Writes (setOptions options : Build ρ Unit) [.options options] := by
  unfold setOptions
  cases supported : Kind.numberForBase? options.defaultBase with
  | none => exact writes_throw
  | some number =>
      refine modifyProfile_writes fun given => ?_
      exact { given with options := rfl, defaultNumber := supported }

/-- A kind that has a spelling already may be registered with the same one. -/
theorem registerKind_writes (kind : Kind) (sequence : String) :
    Writes (registerKind kind sequence : Build ρ Unit) [.spelling kind sequence] := by
  intro entries builder next _ given accepted
  obtain ⟨_, _, got, answered⟩ := accepts_bind.mp accepted
  obtain ⟨rfl, rfl⟩ := accepts_get.mp got
  rcases known : builder.profile.describe? kind with _ | existing <;> rw [known] at answered
  · obtain rfl := accepts_modify.mp answered
    refine { given with spellings := fun other spelled => ?_ }
    have before := given.spellings other spelled
    change List.lookup other ((kind, sequence) :: builder.profile.spellings) = some spelled ↔
      (other, spelled) ∈ (kind, sequence) :: entries.filterMap Entry.spelling?
    rw [List.lookup_cons, List.mem_cons, ← before, Prod.mk.injEq]
    by_cases same : other = kind
    · subst same
      simp [known, eq_comm]
    · simp only [beq_false_of_ne same, same, false_and, false_or]
      exact Iff.rfl
  · dsimp only at answered
    split at answered
    case isTrue same =>
      obtain rfl : existing = sequence := by simpa [given.strict] using same
      obtain ⟨_, rfl⟩ := accepts_pure.mp answered
      refine { given with spellings := fun other spelled => ?_ }
      rw [given.spellings]
      refine ⟨List.mem_cons_of_mem _, fun listed => ?_⟩
      rcases List.mem_cons.mp listed with new | old
      · obtain ⟨rfl, rfl⟩ := Prod.mk.inj new
        exact (given.spellings other spelled).mp known
      · exact old
    case isFalse => exact absurd answered accepts_throw

theorem insertOperator_writes (sequence : String) (kind : Kind) :
    Writes (insertOperator sequence kind : Build ρ NodeId) [.operator sequence.toList kind] := by
  intro entries builder next node given accepted
  simp only [insertOperator, accepts_bind, accepts_get, accepts_insertAnswer, modifyProfile,
    accepts_modify] at accepted
  obtain ⟨_, _, ⟨rfl, rfl⟩, _, _, rfl, accepted, rfl⟩ := accepted
  exact { given with operators := given.operators.insert accepted }

theorem insertBracket_writes (symbol : Char) (kind : Kind) :
    Writes (insertBracket symbol kind : Build ρ NodeId) [.bracket [symbol] kind] := by
  intro entries builder next node given accepted
  simp only [insertBracket, accepts_bind, accepts_get, accepts_insertAnswer, modifyProfile,
    accepts_modify] at accepted
  obtain ⟨_, _, ⟨rfl, rfl⟩, _, _, rfl, accepted, rfl⟩ := accepted
  have inserted := given.brackets.insert accepted
  rw [show symbol.toString.toList = [symbol] by simp] at inserted
  exact { given with brackets := inserted }

theorem addBrackets_writes (pair : String) (kind : Kind) :
    Writes (addBrackets pair kind : Build ρ Unit) (Call.addBrackets pair kind).entries := by
  unfold addBrackets
  split
  next opening closing closeKind symbols closes =>
    rw [Call.entries]
    rw [symbols, closes]
    exact (registerKind_writes kind _).bind fun _ => (registerKind_writes closeKind _).bind fun _ =>
      (insertBracket_writes opening kind).bind fun _ =>
      (insertBracket_writes closing closeKind).bind fun _ =>
      (modifyClasses_writes opening _).bind fun _ => modifyClasses_writes closing _
  next => exact writes_throw

theorem addNumberPrefix_writes (sequence : String) (kind : Kind) :
    Writes (addNumberPrefix sequence kind : Build ρ Unit)
      (Call.addNumberPrefix sequence kind).entries := by
  unfold addNumberPrefix
  rw [Call.entries]
  rcases symbols : sequence.toList with _ | ⟨first, rest⟩
  · exact writes_throw
  refine writes_guard (writes_guard (writes_guard ?_))
  refine (registerKind_writes kind sequence).bind fun _ =>
    (?_ : Writes _ [.hint first { digit := true }, .numberPrefix (first :: rest) kind])
  intro entries builder next _ given accepted
  simp only [accepts_bind, accepts_get, accepts_insertAnswer, modifyProfile, accepts_modify]
    at accepted
  obtain ⟨_, _, ⟨rfl, rfl⟩, _, _, rfl, _, _, ⟨inserted, rfl⟩, marked⟩ := accepted
  refine modifyClasses_writes first _ ?_ marked
  have held := given.numberPrefixes.insert inserted
  rw [symbols] at held
  exact { given with numberPrefixes := held }

theorem setBlockComment_writes (opening closing : String) :
    Writes (setBlockComment opening closing : Build ρ Unit)
      (Call.setBlockComment opening closing).entries := by
  unfold setBlockComment
  refine writes_guard ?_
  have closes : Writes (modifyProfile fun profile =>
      { profile with blockClose := closing.toList } : Build ρ Unit) [.blockClose closing.toList] :=
    modifyProfile_writes fun given => { given with blockClose := rfl }
  exact (insertOperator_writes opening .blockComment).bind fun _ =>
    closes.bind fun _ => markOperator_writes opening

theorem addOperatorKind_writes (sequence : String) (kind : Kind) :
    Writes (addOperatorKind sequence kind : Build ρ Unit)
      (Call.addOperatorKind sequence kind).entries := by
  unfold addOperatorKind
  exact writes_guard <| writes_guard <| (registerKind_writes kind sequence).bind fun _ =>
    (insertOperator_writes sequence kind).bind fun _ => markOperator_writes sequence

/-- A registered reader gets the next number. -/
theorem registerReader_accepts {builder next : Builder ρ} {reader : ρ} {number : Nat}
    (accepted : Accepts (registerReader reader) builder number next) :
    builder.profile.readers.size = number ∧ next = { builder with profile := { builder.profile with
      readers := ⟨builder.profile.readers.readers.push reader⟩ } } := by
  unfold registerReader at accepted
  simp only [accepts_bind, accepts_get, modifyProfile, accepts_modify] at accepted
  obtain ⟨_, _, ⟨rfl, rfl⟩, _, _, rfl, answered⟩ := accepted
  unfold Literal.Registry.register at answered
  by_cases room : builder.profile.readers.readers.size < Literal.Registry.capacity
  · simp only [if_pos room] at answered
    obtain ⟨rfl, rfl⟩ := accepts_pure.mp answered
    exact ⟨rfl, rfl⟩
  · simp only [if_neg room] at answered
    exact absurd answered accepts_throw

theorem addLiteral_writes (sequence : String) (kind : Kind) (reader : ρ) :
    Writes (addLiteral sequence kind reader) (Call.addLiteral sequence kind reader).entries := by
  unfold addLiteral
  rw [Call.entries]
  rcases symbols : sequence.toList with _ | ⟨first, rest⟩
  · exact writes_throw
  refine writes_guard ?_
  refine (registerKind_writes kind sequence).bind fun _ =>
    (?_ : Writes _ [.hint first { literalFirst := true }, .literal (first :: rest) kind reader])
  intro entries builder next _ given accepted
  simp only [accepts_bind, accepts_get, accepts_insertAnswer, modifyProfile, accepts_modify]
    at accepted
  obtain ⟨_, _, registered, _, _, ⟨rfl, rfl⟩, _, _, rfl, _, _, ⟨inserted, rfl⟩, marked⟩ := accepted
  obtain ⟨rfl, rfl⟩ := registerReader_accepts registered
  refine modifyClasses_writes first _ ?_ marked
  have held := given.literals.insert inserted
  have introduced := given.forms.insert reader (given.literals.insert_accepted inserted)
  rw [symbols] at held introduced
  exact { given with literals := held, forms := introduced }

/-! ## Calls in sequence -/

def Call.registers : Call ρ → Bool
  | .addClass .. | .setOptions _ | .addBrackets .. | .addNumberPrefix .. | .setBlockComment ..
  | .addOperatorKind .. | .addLiteral .. => true
  | .setClass .. | .setNonAsciiClass _ | .allowKindReuse _ | .addLineComment _
  | .addOperator _ => false

theorem Call.perform_writes {call : Call ρ} (registers : call.registers = true) :
    Writes call.perform call.entries := by
  cases call with
  | addClass symbols traits => exact addClass_writes symbols traits
  | setOptions options => exact setOptions_writes options
  | addBrackets pair kind => exact addBrackets_writes pair kind
  | addNumberPrefix sequence kind => exact addNumberPrefix_writes sequence kind
  | setBlockComment opening closing => exact setBlockComment_writes opening closing
  | addOperatorKind sequence kind => exact addOperatorKind_writes sequence kind
  | addLiteral sequence kind reader => exact addLiteral_writes sequence kind reader
  | setClass | setNonAsciiClass | allowKindReuse | addLineComment | addOperator =>
      simp [Call.registers] at registers

theorem writes_forM {calls : List (Call ρ)} (registers : ∀ call ∈ calls, call.registers = true) :
    Writes (calls.forM Call.perform) (calls.reverse.flatMap Call.entries) := by
  induction calls with
  | nil =>
      intro entries builder next _ given accepted
      obtain ⟨_, rfl⟩ := accepts_pure.mp accepted
      exact given
  | cons call rest ih =>
      have first := Call.perform_writes (registers call List.mem_cons_self)
      have others := ih fun other listed => registers other (List.mem_cons_of_mem call listed)
      have whole := first.bind fun _ => others
      rw [List.reverse_cons, List.flatMap_append, List.flatMap_singleton]
      exact whole

end Build

end Lexing
