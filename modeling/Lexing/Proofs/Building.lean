import Lexing.Profile.CLike
import Lexing.Profile.Diagram
import Lexing.Proofs.Kinds
import Lexing.Proofs.Trie

/-!
# Built profiles

A profile is built by any sequence of calls, some of which may be refused.  What
such a profile satisfies is found by looking at one call at a time: a small logic
of calls says what holds after an accepted and after a refused one, and the
soundness of profiles is kept by every call.
-/

namespace Lexing

/-! ## Sequences of calls -/

/-- One call on a builder, with its arguments. -/
inductive Build.Call (ρ : Type) where
  | setClass (symbol : Char) (traits : CharClass)
  | addClass (symbols : String) (traits : CharClass)
  | setNonAsciiClass (traits : CharClass)
  | allowKindReuse (allowed : Bool)
  | setOptions (options : Options)
  | addBrackets (pair : String) (kind : Kind)
  | addNumberPrefix (sequence : String) (kind : Kind)
  | addLineComment (marker : String)
  | setBlockComment (opening closing : String)
  | addOperatorKind (sequence : String) (kind : Kind)
  | addOperator (sequence : String)
  | addLiteral (sequence : String) (kind : Kind) (reader : ρ)

def Build.Call.perform {ρ : Type} : Build.Call ρ → Build ρ Unit
  | .setClass symbol traits => Build.setClass symbol traits
  | .addClass symbols traits => Build.addClass symbols traits
  | .setNonAsciiClass traits => Build.setNonAsciiClass traits
  | .allowKindReuse allowed => Build.allowKindReuse allowed
  | .setOptions options => Build.setOptions options
  | .addBrackets pair kind => Build.addBrackets pair kind
  | .addNumberPrefix sequence kind => Build.addNumberPrefix sequence kind
  | .addLineComment marker => Build.addLineComment marker
  | .setBlockComment opening closing => Build.setBlockComment opening closing
  | .addOperatorKind sequence kind => Build.addOperatorKind sequence kind
  | .addOperator sequence => do let _ ← Build.addOperator sequence
  | .addLiteral sequence kind reader => Build.addLiteral sequence kind reader

/-- The builder after some calls, whether they were refused or not. -/
def Builder.afterAll {ρ : Type} (builder : Builder ρ) (calls : List (Build.Call ρ)) : Builder ρ :=
  calls.foldl (fun current call => current.after call.perform) builder

def Builder.Made {ρ : Type} (builder : Builder ρ) : Prop :=
  ∃ calls, builder = Builder.afterAll {} calls

def Profile.Made {ρ : Type} (profile : Profile ρ) : Prop :=
  ∃ calls, profile = (Builder.afterAll {} calls).profile

namespace Build

variable {ρ α β : Type} {invariant before refused : Builder ρ → Prop}

/-! ## A logic of calls -/

/-- From a builder with `before`, an accepted call gives a value and a builder with
`after`, and a refused one leaves a builder with `refused`. -/
def Ensures (before : Builder ρ → Prop) (call : Build ρ α) (after : α → Builder ρ → Prop)
    (refused : Builder ρ → Prop) : Prop :=
  ∀ builder, before builder →
    match call.run.run builder with
    | (.ok value, next) => after value next
    | (.error _, next) => refused next

/-- Every builder with `invariant` has it after the call as well. -/
def Keeps (invariant : Builder ρ → Prop) (call : Build ρ α) : Prop :=
  Ensures invariant call (fun _ => invariant) invariant

theorem ensures_pure {value : α} {after : α → Builder ρ → Prop}
    (holds : ∀ builder, before builder → after value builder) :
    Ensures before (pure value) after refused :=
  fun builder given => holds builder given

theorem ensures_throw {error : BuildError} {after : α → Builder ρ → Prop}
    (holds : ∀ builder, before builder → refused builder) :
    Ensures before (throw error) after refused :=
  fun builder given => holds builder given

/-- What comes after a guard may rely on it. -/
theorem ensures_guard {condition : Prop} [Decidable condition] {error : BuildError}
    {skipped : PUnit → Build ρ α} {next : Build ρ α} {after : α → Builder ρ → Prop}
    (holds : ∀ builder, before builder → refused builder)
    (passed : ¬condition → Ensures before next after refused) :
    Ensures before (if condition then (throw error : Build ρ PUnit) >>= skipped else next)
      after refused := by
  split
  case isTrue => exact fun builder given => holds builder given
  case isFalse passes => exact passed passes

theorem ensures_get {after : Builder ρ → Builder ρ → Prop}
    (holds : ∀ builder, before builder → after builder builder) :
    Ensures before (get : Build ρ (Builder ρ)) after refused :=
  fun builder given => holds builder given

theorem ensures_get_self : Ensures before (get : Build ρ (Builder ρ))
    (fun seen builder => seen = builder ∧ before builder) refused :=
  ensures_get fun _ given => ⟨rfl, given⟩

theorem ensures_set {next : Builder ρ} {after : PUnit → Builder ρ → Prop}
    (holds : ∀ builder, before builder → after () next) :
    Ensures before (set next : Build ρ PUnit) after refused :=
  fun builder given => holds builder given

theorem ensures_modify {change : Builder ρ → Builder ρ} {after : PUnit → Builder ρ → Prop}
    (holds : ∀ builder, before builder → after () (change builder)) :
    Ensures before (modify change : Build ρ PUnit) after refused :=
  fun builder given => holds builder given

/-- The answer of a trie decides about a call. -/
theorem ensures_insertAnswer {after : NodeId → Builder ρ → Prop}
    {answer : Except Trie.InsertError NodeId}
    (accepts : ∀ node builder, answer = .ok node → before builder → after node builder)
    (refuses : ∀ error builder, answer = .error error → before builder → refused builder) :
    Ensures before (insertAnswer answer) after refused := by
  unfold insertAnswer
  split
  · exact ensures_pure fun builder given => accepts _ builder rfl given
  · exact ensures_throw fun builder given => refuses _ builder rfl given

/-- A refused call stops the calls after it. -/
theorem run_bind (call : Build ρ α) (next : α → Build ρ β) (builder : Builder ρ) :
    (call >>= next).run.run builder =
      match call.run.run builder with
      | (.ok value, middle) => (next value).run.run middle
      | (.error error, middle) => (.error error, middle) := by
  simp only [bind, ExceptT.run, ExceptT.bind, ExceptT.mk, StateT.run, StateT.bind,
    ExceptT.bindCont]
  rcases call builder with ⟨_ | value, middle⟩ <;> rfl

theorem ensures_bind {call : Build ρ α} {next : α → Build ρ β}
    {middle : α → Builder ρ → Prop} {after : β → Builder ρ → Prop}
    (first : Ensures before call middle refused)
    (second : ∀ value, Ensures (middle value) (next value) after refused) :
    Ensures before (call >>= next) after refused := by
  intro builder given
  have answered := first builder given
  rw [run_bind]
  rcases answer : call.run.run builder with ⟨error | value, middle⟩
  · simpa only [answer] using answered
  · rw [answer] at answered
    exact second value middle answered

theorem Ensures.weaken {call : Build ρ α} {after stronger : α → Builder ρ → Prop}
    {weaker : Builder ρ → Prop} (ensures : Ensures before call stronger refused)
    (given : ∀ builder, weaker builder → before builder)
    (taken : ∀ value builder, stronger value builder → after value builder) :
    Ensures weaker call after refused := by
  intro builder holds
  have answered := ensures builder (given builder holds)
  rcases answer : call.run.run builder with ⟨error | value, next⟩
  · simpa only [answer] using answered
  · rw [answer] at answered
    exact taken value next answered

theorem Keeps.after {call : Build ρ α} (keeps : Keeps invariant call) {builder : Builder ρ}
    (holds : invariant builder) : invariant (builder.after call) := by
  have answered := keeps builder holds
  unfold Builder.after
  rcases answer : call.run.run builder with ⟨error | value, next⟩ <;>
    simpa only [answer] using answered

/-- A fact that does not depend on the builder is carried past a call. -/
theorem Keeps.frame {call : Build ρ α} (keeps : Keeps invariant call) (fact : Prop) :
    Ensures (fun builder => fact ∧ invariant builder) call
      (fun _ builder => fact ∧ invariant builder) invariant := by
  rintro builder ⟨known, holds⟩
  have answered := keeps builder holds
  rcases answer : call.run.run builder with ⟨error | value, next⟩
  · simpa only [answer] using answered
  · rw [answer] at answered
    exact ⟨known, answered⟩

theorem keeps_bind {call : Build ρ α} {next : α → Build ρ β} (first : Keeps invariant call)
    (second : ∀ value, Keeps invariant (next value)) : Keeps invariant (call >>= next) :=
  ensures_bind first second

theorem keeps_guard {condition : Prop} [Decidable condition] {error : BuildError}
    {skipped : PUnit → Build ρ α} {next : Build ρ α}
    (passed : ¬condition → Keeps invariant next) :
    Keeps invariant (if condition then (throw error : Build ρ PUnit) >>= skipped else next) :=
  ensures_guard (fun _ given => given) passed

theorem holds_afterAll (keeps : ∀ call : Call ρ, Keeps invariant call.perform)
    {builder : Builder ρ} (holds : invariant builder) (calls : List (Call ρ)) :
    invariant (builder.afterAll calls) := by
  induction calls generalizing builder with
  | nil => exact holds
  | cons call rest ih => exact ih ((keeps call).after holds)

end Build

/-! ## Soundness -/

/-- What all profiles have in common that calls can lead to: their tries are
sound, every introduction of a literal has a registered reader, kinds lie in the
range of their role, and block comments can be closed. -/
structure Profile.Sound {ρ : Type} (profile : Profile ρ) : Prop where
  numberPrefixes : profile.numberPrefixes.Sound
  brackets : profile.brackets.Sound
  operators : profile.operators.Sound
  literals : profile.literals.Sound
  readers : profile.literals.Bound profile.readers.size
  numberKinds : ∀ node kind, profile.numberPrefixes.kind? node = some kind →
    kind.isNumber = true ∧ kind.numberBase?.isSome = true
  bracketKinds : ∀ node kind, profile.brackets.kind? node = some kind → kind.category = .bracket
  operatorKinds : ∀ node kind, profile.operators.kind? node = some kind →
    kind.isOperator = true ∨ kind = .lineComment ∨ kind = .blockComment
  literalKinds : ∀ node kind, profile.literals.kind? node = some kind → kind.isLiteral = true
  fallbackKinds : ∀ entry ∈ profile.fallbacks, entry.2.isOperator = true
  defaultNumber : profile.defaultNumber.isNumber = true
  blockClose : ∀ node, profile.operators.kind? node = some .blockComment → profile.blockClose ≠ []

/-- The kind that a line comment marker stands for inside of a line is an operator. -/
theorem Profile.Sound.fallbackOperator {ρ : Type} {profile : Profile ρ} (sound : profile.Sound)
    {node : NodeId} {kind : Kind} (present : profile.fallbackAt? node = some kind) :
    kind.isOperator = true := by
  obtain ⟨earlier, later, entries, _⟩ := List.lookup_eq_some_iff.mp present
  exact sound.fallbackKinds (node, kind) (by simp [entries])

/-- A sound profile that is being built, with operator kinds left to hand out. -/
structure Builder.Sound {ρ : Type} (builder : Builder ρ) : Prop where
  profile : builder.profile.Sound
  operator_le : Kind.operatorFirst.toNat ≤ builder.nextOperator.toNat
  le_user : builder.nextOperator.toNat ≤ Kind.operatorUserFirst.toNat

theorem Builder.fresh_sound {ρ : Type} : Builder.Sound ({} : Builder ρ) where
  profile := {
    numberPrefixes := Trie.empty_sound
    brackets := Trie.empty_sound
    operators := Trie.empty_sound
    literals := Trie.empty_sound
    readers := ⟨by simp, by simp⟩
    numberKinds := by simp
    bracketKinds := by simp
    operatorKinds := by simp
    literalKinds := by simp
    fallbackKinds := by simp
    defaultNumber := show Kind.numberDecimal.isNumber = true by decide
    blockClose := by simp }
  operator_le := Nat.le_refl _
  le_user := show Kind.operatorFirst.toNat ≤ Kind.operatorUserFirst.toNat by decide

namespace Build

variable {ρ : Type}

/-- A change of the profile that keeps it sound. -/
theorem modifyProfile_keeps {change : Profile ρ → Profile ρ}
    (sound : ∀ profile, profile.Sound → (change profile).Sound) :
    Keeps Builder.Sound (modifyProfile change) :=
  ensures_modify fun builder given =>
    ⟨sound builder.profile given.profile, given.operator_le, given.le_user⟩

theorem modifyClasses_keeps (change : CharClass.Table → CharClass.Table) :
    Keeps Builder.Sound (modifyClasses change : Build ρ Unit) :=
  modifyProfile_keeps fun _ given => { given with }

theorem addClass_keeps (symbols : String) (traits : CharClass) :
    Keeps Builder.Sound (addClass symbols traits : Build ρ Unit) :=
  modifyClasses_keeps (·.insertAll symbols.toList traits)

theorem allowKindReuse_keeps (allowed : Bool) :
    Keeps Builder.Sound (allowKindReuse allowed : Build ρ Unit) :=
  ensures_modify fun _ given => { given with }

theorem setOptions_keeps (options : Options) :
    Keeps Builder.Sound (setOptions options : Build ρ Unit) := by
  unfold setOptions
  cases supported : Kind.numberForBase? options.defaultBase with
  | none => exact ensures_throw fun _ given => given
  | some kind =>
    exact modifyProfile_keeps fun profile given =>
      { given with defaultNumber := (Kind.integer_of_numberForBase? supported).1 }

theorem registerKind_keeps (kind : Kind) (sequence : String) :
    Keeps Builder.Sound (registerKind kind sequence : Build ρ Unit) := by
  refine ensures_bind (ensures_get fun _ given => given) fun builder => ?_
  split
  · split
    · exact ensures_pure fun _ given => given
    · exact ensures_throw fun _ given => given
  · exact modifyProfile_keeps fun _ given => { given with }

theorem sound_insertOperator {profile : Profile ρ} (given : profile.Sound) {kind : Kind}
    (sequence : String)
    (ranged : kind.isOperator = true ∨ kind = .lineComment ∨ kind = .blockComment)
    (closable : kind = .blockComment → profile.blockClose ≠ []) :
    Profile.Sound { profile with
      operators := (profile.operators.insert sequence kind none).2 } :=
  { given with
    operators := given.operators.insert sequence kind none
    operatorKinds := by
      intro node found present
      rcases Trie.kind?_insert given.operators present with old | rfl
      · exact given.operatorKinds node found old
      · exact ranged
    blockClose := by
      intro node present
      rcases Trie.kind?_insert given.operators present with old | rfl
      · exact given.blockClose node old
      · exact closable rfl }

theorem sound_insertOperator_of_error {profile : Profile ρ} (given : profile.Sound) {kind : Kind}
    {sequence : String} {error : Trie.InsertError}
    (refused : (profile.operators.insert sequence kind none).1 = .error error) :
    Profile.Sound { profile with
      operators := (profile.operators.insert sequence kind none).2 } := by
  have kinds := Trie.kind?_insert_of_error given.operators refused
  exact { given with
    operators := given.operators.insert sequence kind none
    operatorKinds := fun node found present =>
      given.operatorKinds node found ((kinds node).symm.trans present)
    blockClose := fun node present =>
      given.blockClose node ((kinds node).symm.trans present) }

theorem insertOperator_ensures {sequence : String} {kind : Kind}
    {after : NodeId → Builder ρ → Prop}
    (accepted : ∀ (builder : Builder ρ) (node : NodeId), builder.Sound →
      after node { builder with profile := { builder.profile with
        operators := (builder.profile.operators.insert sequence kind none).2 } }) :
    Ensures Builder.Sound (insertOperator sequence kind) after Builder.Sound := by
  refine ensures_bind ensures_get_self fun seen => ?_
  have inserted : Ensures (fun builder => seen = builder ∧ builder.Sound)
      (modifyProfile fun profile => { profile with
        operators := (seen.profile.operators.insert sequence kind none).2 })
      (fun _ builder => seen.Sound ∧ builder = { seen with profile := { seen.profile with
        operators := (seen.profile.operators.insert sequence kind none).2 } }) Builder.Sound := by
    refine ensures_modify ?_
    rintro builder ⟨rfl, given⟩
    exact ⟨given, rfl⟩
  refine ensures_bind inserted fun _ => ensures_insertAnswer ?_ ?_
  · rintro node builder _ ⟨given, rfl⟩
    exact accepted seen node given
  · rintro error builder refused ⟨given, rfl⟩
    exact ⟨sound_insertOperator_of_error given.profile refused, given.operator_le, given.le_user⟩

theorem insertOperator_keeps (sequence : String) {kind : Kind}
    (ranged : kind.isOperator = true ∨ kind = .lineComment) :
    Keeps Builder.Sound (insertOperator sequence kind : Build ρ NodeId) := by
  refine insertOperator_ensures fun builder _ given => ?_
  refine ⟨sound_insertOperator given.profile sequence ?_ ?_, given.operator_le, given.le_user⟩
  · exact ranged.imp_right Or.inl
  · rintro rfl
    exact absurd ranged (by decide)

theorem insertBracket_keeps (symbol : Char) {kind : Kind} (ranged : kind.category = .bracket) :
    Keeps Builder.Sound (insertBracket symbol kind : Build ρ NodeId) := by
  refine ensures_bind ensures_get_self fun seen => ?_
  have inserted : Ensures (fun builder => seen = builder ∧ builder.Sound)
      (modifyProfile fun profile => { profile with
        brackets := (seen.profile.brackets.insert symbol.toString kind none).2 })
      (fun _ => Builder.Sound) Builder.Sound := by
    refine ensures_modify ?_
    rintro builder ⟨rfl, given⟩
    refine ⟨{ given.profile with brackets := ?_, bracketKinds := ?_ }, given.operator_le,
      given.le_user⟩
    · exact given.profile.brackets.insert symbol.toString kind none
    · intro node found present
      rcases Trie.kind?_insert given.profile.brackets present with old | rfl
      · exact given.profile.bracketKinds node found old
      · exact ranged
  exact ensures_bind inserted fun _ =>
    ensures_insertAnswer (fun _ _ _ given => given) (fun _ _ _ given => given)

theorem addBrackets_keeps (pair : String) (kind : Kind) :
    Keeps Builder.Sound (addBrackets pair kind : Build ρ Unit) := by
  unfold addBrackets
  split
  next opening closing closeKind _ closes =>
    obtain ⟨openRange, closeRange⟩ := Kind.category_bracketClose? closes
    refine keeps_bind (registerKind_keeps _ _) fun _ => ?_
    refine keeps_bind (registerKind_keeps _ _) fun _ => ?_
    refine keeps_bind (insertBracket_keeps _ openRange) fun _ => ?_
    refine keeps_bind (insertBracket_keeps _ closeRange) fun _ => ?_
    exact keeps_bind (modifyClasses_keeps _) fun _ => modifyClasses_keeps _
  next => exact ensures_throw fun _ given => given

theorem addNumberPrefix_keeps (sequence : String) (kind : Kind) :
    Keeps Builder.Sound (addNumberPrefix sequence kind : Build ρ Unit) := by
  unfold addNumberPrefix
  cases sequence.toList with
  | nil => exact ensures_throw fun _ given => given
  | cons first _ =>
    refine keeps_guard fun _ => keeps_guard fun ranged => keeps_guard fun based => ?_
    refine keeps_bind (registerKind_keeps _ _) fun _ => ?_
    refine ensures_bind ensures_get_self fun seen => ?_
    have inserted : Ensures (fun builder => seen = builder ∧ builder.Sound)
        (modifyProfile fun profile => { profile with
          numberPrefixes := (seen.profile.numberPrefixes.insert sequence kind none).2 })
        (fun _ => Builder.Sound) Builder.Sound := by
      refine ensures_modify ?_
      rintro builder ⟨rfl, given⟩
      refine ⟨{ given.profile with numberPrefixes := ?_, numberKinds := ?_ }, given.operator_le,
        given.le_user⟩
      · exact given.profile.numberPrefixes.insert sequence kind none
      · intro node found present
        rcases Trie.kind?_insert given.profile.numberPrefixes present with old | rfl
        · exact given.profile.numberKinds node found old
        · have integer : found.isNumber = true ∧ found.isFloat = false := by simpa using ranged
          exact ⟨integer.1, by simpa [Option.isSome_iff_ne_none] using based⟩
    refine ensures_bind inserted fun _ => ?_
    refine ensures_bind (ensures_insertAnswer (fun _ _ _ given => given)
      (fun _ _ _ given => given)) fun _ => ?_
    exact modifyClasses_keeps _

theorem firstFree?_range {profile : Profile ρ} {count : Nat} {candidate : UInt16} {kind : Kind}
    (bounded : candidate.toNat + count ≤ Kind.operatorUserFirst.toNat)
    (free : firstFree? profile count candidate = some kind) :
    candidate.toNat ≤ kind.raw.toNat ∧ kind.raw.toNat < Kind.operatorUserFirst.toNat := by
  have limit : Kind.operatorUserFirst.toNat = 10240 := by decide
  induction count generalizing candidate with
  | zero => simp [firstFree?] at free
  | succ count ih =>
      unfold firstFree? at free
      split at free
      · obtain rfl : _ = kind := by simpa using free
        dsimp only
        omega
      · have next : (candidate + 1).toNat = candidate.toNat + 1 := by
          rw [UInt16.toNat_add, show (1 : UInt16).toNat = 1 from rfl]
          omega
        obtain ⟨above, below⟩ := ih (by omega) free
        omega

theorem allocateOperatorKind_ensures :
    Ensures Builder.Sound (allocateOperatorKind : Build ρ Kind)
      (fun kind builder => kind.isOperator = true ∧ builder.Sound) Builder.Sound := by
  have user : Kind.operatorUserFirst.toNat = 10240 := by decide
  refine ensures_bind ensures_get_self fun seen => ?_
  dsimp only
  split
  next kind free =>
    have advanced : Ensures (fun builder => seen = builder ∧ builder.Sound)
        (set { seen with nextOperator := kind.raw + 1 } : Build ρ PUnit)
        (fun _ builder => kind.isOperator = true ∧ builder.Sound) Builder.Sound := by
      refine ensures_set ?_
      rintro builder ⟨rfl, given⟩
      have low := given.operator_le
      have high := given.le_user
      obtain ⟨above, below⟩ := firstFree?_range (by omega) free
      have next : (kind.raw + 1).toNat = kind.raw.toNat + 1 := by
        rw [UInt16.toNat_add, show (1 : UInt16).toNat = 1 from rfl]
        omega
      refine ⟨Kind.isOperator_of_range (by omega) below, given.profile, ?_, ?_⟩
      · dsimp only
        omega
      · dsimp only
        omega
    exact ensures_bind advanced fun _ => ensures_pure fun _ given => given
  next =>
    have exhausted : Ensures (fun builder => seen = builder ∧ builder.Sound)
        (set { seen with nextOperator := Kind.operatorUserFirst } : Build ρ PUnit)
        (fun _ => Builder.Sound) Builder.Sound := by
      refine ensures_set ?_
      rintro builder ⟨rfl, given⟩
      exact ⟨given.profile, Nat.le_trans given.operator_le given.le_user, Nat.le_refl _⟩
    exact ensures_bind exhausted fun _ => ensures_throw fun _ given => given

theorem addLineComment_keeps (marker : String) :
    Keeps Builder.Sound (addLineComment marker : Build ρ Unit) := by
  unfold addLineComment
  refine keeps_guard fun _ => ?_
  refine keeps_bind (insertOperator_keeps marker (Or.inr rfl)) fun node => ?_
  refine keeps_bind (ensures_get fun _ given => given) fun seen => ?_
  split
  · exact ensures_pure fun _ given => given
  refine ensures_bind allocateOperatorKind_ensures fun fallback => ?_
  refine ensures_bind ((registerKind_keeps fallback marker).frame _) fun _ => ?_
  have listed : Ensures (fun builder => fallback.isOperator = true ∧ builder.Sound)
      (modifyProfile fun profile : Profile ρ =>
        { profile with fallbacks := profile.fallbacks ++ [(node, fallback)] })
      (fun _ => Builder.Sound) Builder.Sound := by
    refine ensures_modify ?_
    rintro builder ⟨ranged, given⟩
    refine ⟨{ given.profile with fallbackKinds := ?_ }, given.operator_le, given.le_user⟩
    intro entry member
    rcases List.mem_append.mp member with old | new
    · exact given.profile.fallbackKinds entry old
    · rw [List.mem_singleton.mp new]
      exact ranged
  exact ensures_bind listed fun _ => addClass_keeps marker _

theorem setBlockComment_keeps (opening closing : String) :
    Keeps Builder.Sound (setBlockComment opening closing : Build ρ Unit) := by
  unfold setBlockComment
  refine keeps_guard fun given => ?_
  have marker : closing.toList ≠ [] := by
    have named : ¬closing.isEmpty = true := fun empty => given (Or.inr empty)
    simpa using named
  -- Between the two changes the profile can have a block comment without an end.
  have opened : Ensures Builder.Sound (insertOperator opening .blockComment)
      (fun _ builder => Builder.Sound { builder with profile := { builder.profile with
        blockClose := closing.toList } }) (Builder.Sound : Builder ρ → Prop) := by
    refine insertOperator_ensures fun builder _ given => ⟨?_, given.operator_le, given.le_user⟩
    have closed : Profile.Sound { builder.profile with blockClose := closing.toList } :=
      { given.profile with blockClose := fun _ _ => marker }
    exact sound_insertOperator closed opening (by decide) fun _ => marker
  have closed : Ensures
      (fun builder => Builder.Sound { builder with profile := { builder.profile with
        blockClose := closing.toList } })
      (modifyProfile fun profile : Profile ρ => { profile with blockClose := closing.toList })
      (fun _ => Builder.Sound) Builder.Sound :=
    ensures_modify fun _ given => given
  refine ensures_bind opened fun _ => ?_
  exact ensures_bind closed fun _ => addClass_keeps opening _

theorem addOperatorKind_keeps (sequence : String) (kind : Kind) :
    Keeps Builder.Sound (addOperatorKind sequence kind : Build ρ Unit) := by
  unfold addOperatorKind
  refine keeps_guard fun _ => keeps_guard fun ranged => ?_
  refine keeps_bind (registerKind_keeps _ _) fun _ => ?_
  refine keeps_bind (insertOperator_keeps _ (Or.inl (by simpa using ranged))) fun _ => ?_
  exact addClass_keeps sequence _

theorem addOperator_keeps (sequence : String) :
    Keeps Builder.Sound (addOperator sequence : Build ρ Kind) := by
  unfold addOperator
  refine keeps_guard fun _ => ?_
  refine keeps_bind (ensures_get fun _ given => given) fun seen => ?_
  split
  · exact ensures_pure fun _ given => given
  · refine ensures_bind (allocateOperatorKind_ensures.weaken (fun _ given => given)
      fun _ _ given => given.2) fun kind => ?_
    exact keeps_bind (addOperatorKind_keeps _ _) fun _ => ensures_pure fun _ given => given

theorem registerReader_ensures (reader : ρ) :
    Ensures Builder.Sound (registerReader reader)
      (fun number builder => number < builder.profile.readers.size ∧ builder.Sound)
      Builder.Sound := by
  refine ensures_bind ensures_get_self fun seen => ?_
  have grown : seen.profile.readers.size ≤
      (seen.profile.readers.register reader).2.size := by
    unfold Literal.Registry.register Literal.Registry.size
    split <;> simp
  have numbered : ∀ number, (seen.profile.readers.register reader).1 = some number →
      number < (seen.profile.readers.register reader).2.size := by
    intro number
    unfold Literal.Registry.register Literal.Registry.size
    split
    · intro registered
      obtain rfl := Option.some.inj registered
      simp
    · nofun
  have stored : Ensures (fun builder => seen = builder ∧ builder.Sound)
      (modifyProfile fun profile => { profile with
        readers := (seen.profile.readers.register reader).2 })
      (fun _ builder => builder.profile.readers = (seen.profile.readers.register reader).2 ∧
        builder.Sound) Builder.Sound := by
    refine ensures_modify ?_
    rintro builder ⟨rfl, given⟩
    exact ⟨rfl, { given.profile with readers := given.profile.readers.mono grown },
      given.operator_le, given.le_user⟩
  refine ensures_bind stored fun _ => ?_
  split
  next number registered =>
    refine ensures_pure ?_
    rintro builder ⟨readers, given⟩
    rw [readers]
    exact ⟨numbered number registered, given⟩
  next => exact ensures_throw fun _ given => given.2

theorem addLiteral_keeps (sequence : String) (kind : Kind) (reader : ρ) :
    Keeps Builder.Sound (addLiteral sequence kind reader) := by
  unfold addLiteral
  rcases sequence.toList with _ | ⟨first, _⟩
  · exact ensures_throw fun _ given => given
  refine keeps_guard fun ranged => ?_
  refine keeps_bind (registerKind_keeps _ _) fun _ => ?_
  refine ensures_bind (registerReader_ensures reader) fun number => ?_
  refine ensures_bind ensures_get_self fun seen => ?_
  have inserted : Ensures
      (fun builder => seen = builder ∧ number < builder.profile.readers.size ∧ builder.Sound)
      (modifyProfile fun profile => { profile with
        literals := (seen.profile.literals.insert sequence kind (some number)).2 })
      (fun _ => Builder.Sound) Builder.Sound := by
    refine ensures_modify ?_
    rintro builder ⟨rfl, registered, given⟩
    refine ⟨{ given.profile with literals := ?_, readers := ?_, literalKinds := ?_ },
      given.operator_le, given.le_user⟩
    · exact given.profile.literals.insert sequence kind (some number)
    · exact given.profile.readers.insert given.profile.literals registered sequence kind
    · intro node found present
      rcases Trie.kind?_insert given.profile.literals present with old | rfl
      · exact given.profile.literalKinds node found old
      · simpa using ranged
  refine ensures_bind inserted fun _ => ?_
  refine ensures_bind (ensures_insertAnswer (fun _ _ _ given => given)
    (fun _ _ _ given => given)) fun _ => ?_
  exact modifyClasses_keeps _

theorem Call.perform_keeps (call : Call ρ) : Keeps Builder.Sound call.perform := by
  cases call with
  | setClass symbol traits => exact modifyClasses_keeps (·.set symbol traits)
  | addClass symbols traits => exact addClass_keeps symbols traits
  | setNonAsciiClass traits => exact modifyClasses_keeps ({ · with nonAscii := traits })
  | allowKindReuse allowed => exact allowKindReuse_keeps allowed
  | setOptions options => exact setOptions_keeps options
  | addBrackets pair kind => exact addBrackets_keeps pair kind
  | addNumberPrefix sequence kind => exact addNumberPrefix_keeps sequence kind
  | addLineComment marker => exact addLineComment_keeps marker
  | setBlockComment opening closing => exact setBlockComment_keeps opening closing
  | addOperatorKind sequence kind => exact addOperatorKind_keeps sequence kind
  | addOperator sequence =>
      exact keeps_bind (addOperator_keeps sequence) fun _ => ensures_pure fun _ given => given
  | addLiteral sequence kind reader => exact addLiteral_keeps sequence kind reader

end Build

theorem Builder.afterAll_sound {ρ : Type} {builder : Builder ρ} (sound : builder.Sound)
    (calls : List (Build.Call ρ)) : (builder.afterAll calls).Sound :=
  Build.holds_afterAll Build.Call.perform_keeps sound calls

/-- Whatever calls are made, accepted or refused, the profile is sound. -/
theorem Profile.Made.sound {ρ : Type} {profile : Profile ρ} (made : profile.Made) :
    profile.Sound := by
  obtain ⟨calls, rfl⟩ := made
  exact (Builder.afterAll_sound Builder.fresh_sound calls).profile

/-- A registered literal starts with the symbol. -/
def Profile.StartsLiteral {ρ : Type} (profile : Profile ρ) (symbol : Char) : Prop :=
  ∃ sequence : String, (profile.literalKind? sequence).isSome = true ∧
    sequence.toList.head? = some symbol

theorem Profile.Sound.not_startsLiteral_iff {ρ : Type} {profile : Profile ρ}
    (sound : profile.Sound) (symbol : Char) :
    ¬profile.StartsLiteral symbol ↔ profile.literals.advance Trie.root symbol = none := by
  rw [sound.literals.advance_root_eq_none_iff]
  constructor
  · intro excluded sequence registered starts
    exact excluded ⟨String.ofList sequence, by simpa [literalKind?] using registered,
      by simpa using starts⟩
  · rintro excluded ⟨sequence, registered, starts⟩
    exact excluded sequence.toList registered starts

/-! ## The ready profiles -/

/-- One more call on a builder that calls lead to. -/
theorem Build.Call.perform_keeps_made {ρ : Type} (call : Build.Call ρ) :
    Build.Keeps Builder.Made call.perform := by
  rintro builder ⟨calls, rfl⟩
  have made : Builder.Made ((Builder.afterAll {} calls).after call.perform) :=
    ⟨calls ++ [call], by simp [Builder.afterAll]⟩
  unfold Builder.after at made
  rcases answer : call.perform.run.run (Builder.afterAll {} calls) with ⟨error | value, next⟩ <;>
    simpa only [answer] using made

namespace Build

variable {ρ : Type}

theorem made_setOptions (options : Options) :
    Keeps Builder.Made (setOptions options : Build ρ Unit) :=
  (Call.setOptions options).perform_keeps_made

theorem made_addClass (symbols : String) (traits : CharClass) :
    Keeps Builder.Made (addClass symbols traits : Build ρ Unit) :=
  (Call.addClass symbols traits).perform_keeps_made

theorem made_addBrackets (pair : String) (kind : Kind) :
    Keeps Builder.Made (addBrackets pair kind : Build ρ Unit) :=
  (Call.addBrackets pair kind).perform_keeps_made

theorem made_addNumberPrefix (sequence : String) (kind : Kind) :
    Keeps Builder.Made (addNumberPrefix sequence kind : Build ρ Unit) :=
  (Call.addNumberPrefix sequence kind).perform_keeps_made

theorem made_addLineComment (marker : String) :
    Keeps Builder.Made (addLineComment marker : Build ρ Unit) :=
  (Call.addLineComment marker).perform_keeps_made

theorem made_setBlockComment (opening closing : String) :
    Keeps Builder.Made (setBlockComment opening closing : Build ρ Unit) :=
  (Call.setBlockComment opening closing).perform_keeps_made

theorem made_addOperatorKind (sequence : String) (kind : Kind) :
    Keeps Builder.Made (addOperatorKind sequence kind : Build ρ Unit) :=
  (Call.addOperatorKind sequence kind).perform_keeps_made

theorem made_addLiteral (sequence : String) (kind : Kind) (reader : ρ) :
    Keeps Builder.Made (addLiteral sequence kind reader) :=
  (Call.addLiteral sequence kind reader).perform_keeps_made

/-- A setup that goes on from the fresh builder makes a profile. -/
theorem Keeps.made {α : Type} {setup : Build ρ α} (kept : Keeps Builder.Made setup) :
    (Builder.after {} setup).profile.Made := by
  obtain ⟨calls, made⟩ := kept.after ⟨[], rfl⟩
  exact ⟨calls, congrArg Builder.profile made⟩

end Build

open Build

theorem CLike.addOperators_keeps_made (offset : UInt16) (sequences : List String) :
    Keeps Builder.Made (CLike.addOperators offset sequences) := by
  induction sequences generalizing offset with
  | nil => exact ensures_pure fun _ made => made
  | cons sequence rest ih =>
      exact keeps_bind (made_addOperatorKind sequence _) fun _ => ih (offset + 1)

theorem CLike.profile_made : CLike.profile.Made := by
  apply Keeps.made
  refine keeps_bind (made_setOptions _) fun _ => ?_
  iterate 3 refine keeps_bind (made_addBrackets _ _) fun _ => ?_
  iterate 5 refine keeps_bind (made_addNumberPrefix _ _) fun _ => ?_
  refine keeps_bind (CLike.addOperators_keeps_made _ _) fun _ => ?_
  refine keeps_bind (made_addLineComment _) fun _ => ?_
  refine keeps_bind (made_setBlockComment _ _) fun _ => ?_
  iterate 6 refine keeps_bind (made_addLiteral _ _ _) fun _ => ?_
  exact made_addClass _ _

theorem Diagram.addOperators_keeps_made (operators : List (String × UInt16)) :
    Keeps Builder.Made (Diagram.addOperators operators) := by
  induction operators with
  | nil => exact ensures_pure fun _ made => made
  | cons operator rest ih => exact keeps_bind (made_addOperatorKind operator.1 _) fun _ => ih

theorem Diagram.profile_made : Diagram.profile.Made := by
  apply Keeps.made
  refine keeps_bind (made_setOptions _) fun _ => ?_
  iterate 3 refine keeps_bind (made_addBrackets _ _) fun _ => ?_
  refine keeps_bind (Diagram.addOperators_keeps_made _) fun _ => ?_
  refine keeps_bind (made_addLineComment _) fun _ => ?_
  refine keeps_bind (made_setBlockComment _ _) fun _ => ?_
  refine keeps_bind (made_addLiteral _ _ _) fun _ => ?_
  exact made_addClass _ _

end Lexing
