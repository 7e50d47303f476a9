import Lexing.Proofs.Building
import Lexing.Proofs.TrieContents

/-!
# The changes that calls are made of

A call checks its arguments and then changes the profile in a few steps, and where it is
refused in between, the steps before stay.  So a property that every single step keeps
holds of every profile that is built, whatever calls were refused.
-/

namespace Lexing

/-- One step of a call, with what the call has checked before it. -/
inductive Profile.Changes {ρ : Type} (profile : Profile ρ) : Profile ρ → Prop
  | classes (classes : CharClass.Table) : Changes profile { profile with classes }
  | options {options : Options} {kind : Kind} :
      Kind.numberForBase? options.defaultBase = some kind →
      Changes profile { profile with options, defaultNumber := kind }
  | spellings (spellings : List (Kind × String)) : Changes profile { profile with spellings }
  | bracket (symbol : Char) {kind : Kind} : kind.category = .bracket →
      Changes profile
        { profile with brackets := (profile.brackets.insert symbol.toString kind none).2 }
  | numberPrefix (sequence : String) {kind : Kind} :
      kind.isNumber = true → kind.isFloat = false → kind.numberBase?.isSome = true →
      Changes profile
        { profile with numberPrefixes := (profile.numberPrefixes.insert sequence kind none).2 }
  | operator (sequence : String) {kind : Kind} :
      kind.isOperator = true ∨ kind = .lineComment ∨ kind = .blockComment →
      Changes profile { profile with operators := (profile.operators.insert sequence kind none).2 }
  | literal (sequence : String) {kind : Kind} (number : Nat) : kind.isLiteral = true →
      Changes profile
        { profile with literals := (profile.literals.insert sequence kind (some number)).2 }
  | readers (readers : Literal.Registry ρ) : Changes profile { profile with readers }
  | blockClose (blockClose : List Char) : Changes profile { profile with blockClose }
  | fallbacks (fallbacks : List (NodeId × Kind)) : Changes profile { profile with fallbacks }

namespace Build

variable {ρ : Type} {property : Profile ρ → Prop}

def Having (property : Profile ρ → Prop) (builder : Builder ρ) : Prop :=
  property builder.profile

section Closed

variable (closed : ∀ {before after : Profile ρ}, before.Changes after → property before →
  property after)

theorem insertAnswer_having (answer : Except Trie.InsertError NodeId) :
    Keeps (Having property) (insertAnswer answer) :=
  ensures_insertAnswer (fun _ _ _ given => given) fun _ _ _ given => given

/-- A builder with the profile of the one that was seen. -/
theorem set_having {seen next : Builder ρ} (same : next.profile = seen.profile) :
    Ensures (fun builder => seen = builder ∧ property builder.profile)
      (set next : Build ρ PUnit) (fun _ => Having property) (Having property) := by
  refine ensures_set ?_
  rintro builder ⟨rfl, given⟩
  rwa [Having, same]

theorem allocateOperatorKind_having :
    Keeps (Having property) (allocateOperatorKind : Build ρ Kind) := by
  refine ensures_bind ensures_get_self fun seen => ?_
  dsimp only
  split
  · exact ensures_bind (set_having rfl) fun _ => ensures_pure fun _ given => given
  · exact ensures_bind (set_having rfl) fun _ => ensures_throw fun _ given => given

include closed

theorem modifyProfile_having {change : Profile ρ → Profile ρ}
    (changes : ∀ profile : Profile ρ, profile.Changes (change profile)) :
    Keeps (Having property) (modifyProfile change) :=
  ensures_modify fun builder given => closed (changes builder.profile) given

/-- A step that was prepared with the profile itself. -/
theorem modifySeen_having {change : Profile ρ → Profile ρ} {seen : Builder ρ}
    (changes : seen.profile.Changes (change seen.profile)) :
    Ensures (fun builder => seen = builder ∧ property builder.profile) (modifyProfile change)
      (fun _ => Having property) (Having property) := by
  refine ensures_modify ?_
  rintro builder ⟨rfl, given⟩
  exact closed changes given

theorem modifyClasses_having (change : CharClass.Table → CharClass.Table) :
    Keeps (Having property) (modifyClasses change : Build ρ Unit) :=
  modifyProfile_having closed fun _ => .classes _

theorem addClass_having (symbols : String) (traits : CharClass) :
    Keeps (Having property) (addClass symbols traits : Build ρ Unit) :=
  modifyClasses_having closed (·.insertAll symbols.toList traits)

theorem setOptions_having (options : Options) :
    Keeps (Having property) (setOptions options : Build ρ Unit) := by
  unfold setOptions
  cases supported : Kind.numberForBase? options.defaultBase with
  | none => exact ensures_throw fun _ given => given
  | some kind => exact modifyProfile_having closed fun _ => .options supported

theorem registerKind_having (kind : Kind) (sequence : String) :
    Keeps (Having property) (registerKind kind sequence : Build ρ Unit) := by
  refine keeps_bind (ensures_get fun _ given => given) fun builder => ?_
  split
  · split
    · exact ensures_pure fun _ given => given
    · exact ensures_throw fun _ given => given
  · exact modifyProfile_having closed fun _ => .spellings _

theorem insertOperator_having (sequence : String) {kind : Kind}
    (ranged : kind.isOperator = true ∨ kind = .lineComment ∨ kind = .blockComment) :
    Keeps (Having property) (insertOperator sequence kind : Build ρ NodeId) := by
  refine ensures_bind ensures_get_self fun seen => ?_
  refine ensures_bind (modifySeen_having closed (.operator sequence ranged)) fun _ => ?_
  exact insertAnswer_having _

theorem insertBracket_having (symbol : Char) {kind : Kind} (ranged : kind.category = .bracket) :
    Keeps (Having property) (insertBracket symbol kind : Build ρ NodeId) := by
  refine ensures_bind ensures_get_self fun seen => ?_
  refine ensures_bind (modifySeen_having closed (.bracket symbol ranged)) fun _ => ?_
  exact insertAnswer_having _

theorem addBrackets_having (pair : String) (kind : Kind) :
    Keeps (Having property) (addBrackets pair kind : Build ρ Unit) := by
  unfold addBrackets
  split
  next closeKind _ closes =>
    obtain ⟨openRange, closeRange⟩ := Kind.category_bracketClose? closes
    refine keeps_bind (registerKind_having closed _ _) fun _ => ?_
    refine keeps_bind (registerKind_having closed _ _) fun _ => ?_
    refine keeps_bind (insertBracket_having closed _ openRange) fun _ => ?_
    refine keeps_bind (insertBracket_having closed _ closeRange) fun _ => ?_
    exact keeps_bind (modifyClasses_having closed _) fun _ => modifyClasses_having closed _
  next => exact ensures_throw fun _ given => given

theorem addNumberPrefix_having (sequence : String) (kind : Kind) :
    Keeps (Having property) (addNumberPrefix sequence kind : Build ρ Unit) := by
  unfold addNumberPrefix
  rcases sequence.toList with _ | ⟨first, _⟩
  · exact ensures_throw fun _ given => given
  refine keeps_guard fun _ => keeps_guard fun ranged => keeps_guard fun based => ?_
  obtain ⟨number, integer⟩ : kind.isNumber = true ∧ kind.isFloat = false := by
    simpa using ranged
  refine keeps_bind (registerKind_having closed _ _) fun _ => ?_
  refine ensures_bind ensures_get_self fun seen => ?_
  have step : seen.profile.Changes _ :=
    .numberPrefix sequence number integer (by simpa [Option.isSome_iff_ne_none] using based)
  refine ensures_bind (modifySeen_having closed step) fun _ => ?_
  exact keeps_bind (insertAnswer_having _) fun _ => modifyClasses_having closed _

theorem addLineComment_having (marker : String) :
    Keeps (Having property) (addLineComment marker : Build ρ Unit) := by
  unfold addLineComment
  refine keeps_guard fun _ => ?_
  refine keeps_bind (insertOperator_having closed marker (Or.inr (Or.inl rfl))) fun node => ?_
  refine keeps_bind (ensures_get fun _ given => given) fun seen => ?_
  split
  · exact ensures_pure fun _ given => given
  refine keeps_bind (allocateOperatorKind_having) fun fallback => ?_
  refine keeps_bind (registerKind_having closed fallback marker) fun _ => ?_
  refine keeps_bind (modifyProfile_having closed fun _ => .fallbacks _) fun _ => ?_
  exact addClass_having closed marker _

theorem setBlockComment_having (opening closing : String) :
    Keeps (Having property) (setBlockComment opening closing : Build ρ Unit) := by
  unfold setBlockComment
  refine keeps_guard fun _ => ?_
  refine keeps_bind (insertOperator_having closed opening (Or.inr (Or.inr rfl))) fun _ => ?_
  refine keeps_bind (modifyProfile_having closed fun _ => .blockClose _) fun _ => ?_
  exact addClass_having closed opening _

theorem addOperatorKind_having (sequence : String) (kind : Kind) :
    Keeps (Having property) (addOperatorKind sequence kind : Build ρ Unit) := by
  unfold addOperatorKind
  refine keeps_guard fun _ => keeps_guard fun ranged => ?_
  refine keeps_bind (registerKind_having closed _ _) fun _ => ?_
  refine keeps_bind (insertOperator_having closed _ (Or.inl (by simpa using ranged))) fun _ => ?_
  exact addClass_having closed sequence _

theorem addOperator_having (sequence : String) :
    Keeps (Having property) (addOperator sequence : Build ρ Kind) := by
  unfold addOperator
  refine keeps_guard fun _ => ?_
  refine keeps_bind (ensures_get fun _ given => given) fun seen => ?_
  split
  · exact ensures_pure fun _ given => given
  · refine keeps_bind (allocateOperatorKind_having) fun kind => ?_
    exact keeps_bind (addOperatorKind_having closed _ _) fun _ => ensures_pure fun _ given => given

theorem registerReader_having (reader : ρ) :
    Keeps (Having property) (registerReader reader) := by
  refine keeps_bind (ensures_get fun _ given => given) fun seen => ?_
  refine keeps_bind (modifyProfile_having closed fun _ => .readers _) fun _ => ?_
  split
  · exact ensures_pure fun _ given => given
  · exact ensures_throw fun _ given => given

theorem addLiteral_having (sequence : String) (kind : Kind) (reader : ρ) :
    Keeps (Having property) (addLiteral sequence kind reader) := by
  unfold addLiteral
  rcases sequence.toList with _ | ⟨first, _⟩
  · exact ensures_throw fun _ given => given
  refine keeps_guard fun ranged => ?_
  refine keeps_bind (registerKind_having closed _ _) fun _ => ?_
  refine keeps_bind (registerReader_having closed reader) fun number => ?_
  refine ensures_bind ensures_get_self fun seen => ?_
  refine ensures_bind
    (modifySeen_having closed (.literal sequence number (by simpa using ranged))) fun _ => ?_
  exact keeps_bind (insertAnswer_having _) fun _ => modifyClasses_having closed _

/-- Every call keeps what all steps keep. -/
theorem Call.perform_having (call : Call ρ) : Keeps (Having property) call.perform := by
  cases call with
  | setClass symbol traits => exact modifyClasses_having closed (·.set symbol traits)
  | addClass symbols traits => exact addClass_having closed symbols traits
  | setNonAsciiClass traits =>
      exact modifyClasses_having closed ({ · with nonAscii := traits })
  | allowKindReuse allowed => exact ensures_modify fun _ given => given
  | setOptions options => exact setOptions_having closed options
  | addBrackets pair kind => exact addBrackets_having closed pair kind
  | addNumberPrefix sequence kind => exact addNumberPrefix_having closed sequence kind
  | addLineComment marker => exact addLineComment_having closed marker
  | setBlockComment opening closing => exact setBlockComment_having closed opening closing
  | addOperatorKind sequence kind => exact addOperatorKind_having closed sequence kind
  | addOperator sequence =>
      exact keeps_bind (addOperator_having closed sequence) fun _ =>
        ensures_pure fun _ given => given
  | addLiteral sequence kind reader => exact addLiteral_having closed sequence kind reader

end Closed

end Build

/-- What holds of the fresh profile and is kept by every step holds of all profiles that
are built. -/
theorem Profile.Made.induction {ρ : Type} {property : Profile ρ → Prop} (fresh : property {})
    (closed : ∀ {before after : Profile ρ}, before.Changes after → property before →
      property after)
    {profile : Profile ρ} (made : profile.Made) : property profile := by
  obtain ⟨calls, rfl⟩ := made
  have start : Build.Having property ({} : Builder ρ) := fresh
  exact Build.holds_afterAll (fun call => call.perform_having closed) start calls

/-! ## Regular profiles -/

/-- What registrations leave behind beside soundness: every node of a trie belongs to one
sequence, and numbers without a fraction have no float flag. -/
structure Profile.Regular {ρ : Type} (profile : Profile ρ) : Prop where
  numberPrefixes : profile.numberPrefixes.Tree
  brackets : profile.brackets.Tree
  operators : profile.operators.Tree
  literals : profile.literals.Tree
  integerKinds : ∀ sequence kind, profile.numberPrefixes.kindOf? sequence = some kind →
    kind.isFloat = false
  defaultInteger : profile.defaultNumber.isFloat = false

theorem Profile.Changes.regular {ρ : Type} {before after : Profile ρ}
    (changes : before.Changes after) (regular : before.Regular) : after.Regular := by
  cases changes with
  | options supported =>
      exact { regular with
        defaultInteger := (Kind.integer_of_numberForBase? supported).2 }
  | bracket symbol _ =>
      exact { regular with brackets := regular.brackets.insert symbol.toString _ none }
  | @numberPrefix sequence kind _ integer _ =>
      have outcome := regular.numberPrefixes.outcome sequence kind none
      refine { regular with
        numberPrefixes := regular.numberPrefixes.insert sequence _ none
        integerKinds := fun passed found present => ?_ }
      rcases outcome.kindOf?_cases present with old | ⟨_, rfl⟩
      · exact regular.integerKinds passed found old
      · exact integer
  | operator sequence _ =>
      exact { regular with operators := regular.operators.insert sequence _ none }
  | literal sequence number _ =>
      exact { regular with literals := regular.literals.insert sequence _ (some number) }
  | classes | spellings | readers | blockClose | fallbacks => exact { regular with }

theorem Profile.Made.regular {ρ : Type} {profile : Profile ρ} (made : profile.Made) :
    profile.Regular := by
  refine Profile.Made.induction ?_ Profile.Changes.regular made
  exact {
    numberPrefixes := Trie.empty_tree
    brackets := Trie.empty_tree
    operators := Trie.empty_tree
    literals := Trie.empty_tree
    integerKinds := by simp
    defaultInteger := show Kind.numberDecimal.isFloat = false by decide }

end Lexing
