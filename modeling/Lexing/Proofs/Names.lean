import Lexing.Proofs.Registrations
import Lexing.Proofs.Spellings

/-!
# Kinds and the sequences that they name

When all calls are accepted, every sequence that a call owes to a kind is registered by the
end of the call, so names and lookups are inverse.  After a refused call the debt stays, but
even then every kind that a sequence leads to has a name.  So a kind without a name is free.
-/

namespace Lexing

open Build

/-! ## Calls -/

variable {ρ α β : Type} {owed : List (String × Kind)} {strict : Prop}

/-- The profile that is being built spells its kinds, and where kinds are never reused, they
may not be. -/
structure Builder.Spells (owed : List (String × Kind)) (strict : Prop) (builder : Builder ρ) :
    Prop where
  profile : builder.profile.Spells owed strict
  reuse : strict → builder.allowKindReuse = false

/-- What a refused call may leave: some sequences are still owed. -/
def Builder.Indebted (strict : Prop) (builder : Builder ρ) : Prop :=
  ∃ owed, builder.Spells owed strict

namespace Build

/-- An accepted call leaves no new debts. -/
def Settles (strict : Prop) (call : Build ρ α) : Prop :=
  ∀ owed, Ensures (Builder.Spells owed strict) call (fun _ => Builder.Spells owed strict)
    (Builder.Indebted strict)

theorem settles_bind {call : Build ρ α} {next : α → Build ρ β} (first : Settles strict call)
    (second : ∀ value, Settles strict (next value)) : Settles strict (call >>= next) :=
  fun owed => ensures_bind (first owed) fun value => second value owed

theorem settles_pure (value : α) : Settles strict (pure value : Build ρ α) :=
  fun _ => ensures_pure fun _ given => given

theorem settles_throw (error : BuildError) : Settles strict (throw error : Build ρ α) :=
  fun owed => ensures_throw fun _ given => ⟨owed, given⟩

theorem settles_guard {condition : Prop} [Decidable condition] {error : BuildError}
    {skipped : PUnit → Build ρ α} {next : Build ρ α} (passed : ¬condition → Settles strict next) :
    Settles strict (if condition then (throw error : Build ρ PUnit) >>= skipped else next) :=
  fun owed => ensures_guard (fun _ given => ⟨owed, given⟩) fun passes => passed passes owed

/-- Calls keep the names of all kinds, even if they are refused. -/
theorem Settles.keeps {call : Build ρ α} (settles : Settles strict call) :
    Keeps (Builder.Indebted strict) call := by
  rintro builder ⟨owed, given⟩
  have answered := settles owed builder given
  rcases answer : call.run.run builder with ⟨error | value, next⟩ <;> rw [answer] at answered
  · exact answered
  · exact ⟨owed, answered⟩

theorem modifyClasses_settles (change : CharClass.Table → CharClass.Table) :
    Settles strict (modifyClasses change : Build ρ Unit) :=
  fun _ => ensures_modify fun _ given => ⟨{ given.profile with }, given.reuse⟩

theorem addClass_settles (symbols : String) (traits : CharClass) :
    Settles strict (addClass symbols traits : Build ρ Unit) :=
  modifyClasses_settles (·.insertAll symbols.toList traits)

theorem setOptions_settles (options : Options) :
    Settles strict (setOptions options : Build ρ Unit) := by
  unfold setOptions
  split
  · exact settles_throw _
  · exact fun _ => ensures_modify fun _ given => ⟨{ given.profile with }, given.reuse⟩

/-- The kind is spelled, and the sequence is owed from then on.  Nothing that does not
depend on the names is changed. -/
theorem registerKind_owes (kept : Profile ρ → Prop)
    (frame : ∀ {profile} spellings, kept profile → kept { profile with spellings })
    (kind : Kind) (sequence : String) (owed : List (String × Kind)) :
    Ensures (fun builder => builder.Spells owed strict ∧ kept builder.profile)
      (registerKind kind sequence : Build ρ Unit)
      (fun _ builder => builder.Spells ((sequence, kind) :: owed) strict ∧ kept builder.profile)
      (Builder.Indebted strict) := by
  refine ensures_bind ensures_get_self fun seen => ?_
  cases known : seen.profile.describe? kind with
  | none =>
    refine ensures_modify ?_
    rintro builder ⟨rfl, given, others⟩
    exact ⟨⟨given.profile.spell known sequence, given.reuse⟩, frame _ others⟩
  | some existing =>
    dsimp only
    split
    case isTrue allowed =>
      refine ensures_pure ?_
      rintro builder ⟨rfl, given, others⟩
      refine ⟨⟨given.profile.reuse ⟨existing, known, fun isStrict => ?_⟩, given.reuse⟩, others⟩
      exact allowed.resolve_right (by simp [given.reuse isStrict])
    case isFalse => exact ensures_throw fun _ given => ⟨owed, given.2.1⟩

theorem registerKind_spells (kind : Kind) (sequence : String) (owed : List (String × Kind)) :
    Ensures (Builder.Spells owed strict) (registerKind kind sequence : Build ρ Unit)
      (fun _ => Builder.Spells ((sequence, kind) :: owed) strict) (Builder.Indebted strict) :=
  (registerKind_owes (fun _ => True) (fun _ _ => trivial) kind sequence owed).weaken
    (fun _ given => ⟨given, trivial⟩) fun _ _ given => given.1

/-! ## Insertions -/

section Inserting

variable {sequence : String} {kind : Kind} {front back : List (String × Kind)}
  {answer : Except Trie.InsertError NodeId} {seen : Builder ρ}

/-- An owed sequence was given to a trie, which may have refused it. -/
def Paying (strict : Prop) (front : List (String × Kind)) (sequence : String) (kind : Kind)
    (back : List (String × Kind)) (answer : Except Trie.InsertError NodeId)
    (builder : Builder ρ) : Prop :=
  builder.Spells (front ++ (sequence, kind) :: back) strict ∧
    ∀ node, answer = .ok node → builder.profile.IsRegistered sequence kind

/-- A sequence that the trie accepts is no longer owed. -/
theorem insertAnswer_pays :
    Ensures (Paying strict front sequence kind back answer)
      (insertAnswer answer : Build ρ NodeId) (fun _ => Builder.Spells (front ++ back) strict)
      (Builder.Indebted strict) := by
  refine ensures_insertAnswer ?_ fun _ _ _ given => ⟨_, given.1⟩
  rintro node builder accepted ⟨given, registered⟩
  exact ⟨given.profile.settle (registered node accepted), given.reuse⟩

/-- An owed sequence is inserted in the trie of the category of its kind. -/
theorem modifyTrie_pays {category : Kind.Category} {trie : Trie}
    (held : seen.profile.trieOf? category = some trie) (ranged : kind.category = category)
    (front : List (String × Kind)) (binding : Option Nat) :
    Ensures
      (fun builder => seen = builder ∧ builder.Spells (front ++ (sequence, kind) :: back) strict)
      (modifyProfile fun profile : Profile ρ =>
        profile.withTrie category (trie.insert sequence kind binding).2)
      (fun _ => Paying strict front sequence kind back (trie.insert sequence kind binding).1)
      (Builder.Indebted strict) := by
  subst ranged
  refine ensures_modify ?_
  rintro builder ⟨rfl, given⟩
  have rooted := given.profile.toRooted
  have inserts := Profile.inserts_withTrie rooted held sequence kind binding
  refine ⟨⟨inserts.spells given.profile fun _ => given.profile.due (by simp), given.reuse⟩, ?_⟩
  exact fun node accepted => Profile.isRegistered_withTrie rooted held accepted

theorem insertOperator_pays (front : List (String × Kind)) (ranged : kind.category = .operator) :
    Ensures (Builder.Spells (front ++ (sequence, kind) :: back) strict)
      (insertOperator sequence kind : Build ρ NodeId)
      (fun _ => Builder.Spells (front ++ back) strict) (Builder.Indebted strict) := by
  refine ensures_bind ensures_get_self fun seen => ?_
  have held : seen.profile.trieOf? .operator = some seen.profile.operators := rfl
  exact ensures_bind (modifyTrie_pays held ranged front none) fun _ => insertAnswer_pays

theorem insertBracket_pays {symbol : Char} (front : List (String × Kind))
    (ranged : kind.category = .bracket) :
    Ensures (Builder.Spells (front ++ (symbol.toString, kind) :: back) strict)
      (insertBracket symbol kind : Build ρ NodeId)
      (fun _ => Builder.Spells (front ++ back) strict) (Builder.Indebted strict) := by
  refine ensures_bind ensures_get_self fun seen => ?_
  have held : seen.profile.trieOf? .bracket = some seen.profile.brackets := rfl
  exact ensures_bind (modifyTrie_pays held ranged front none) fun _ => insertAnswer_pays

/-- The marker of a comment leads to a node with the kind of its comments.  That kind needs
no name. -/
theorem insertMarker_settles {marker : String} (ranged : kind.category = .atomic)
    (owed : List (String × Kind)) :
    Ensures (Builder.Spells owed strict) (insertOperator marker kind : Build ρ NodeId)
      (fun node builder => builder.Spells owed strict ∧
        builder.profile.operators.find? marker.toList = some node ∧
        builder.profile.operators.kindOf? marker.toList = some kind)
      (Builder.Indebted strict) := by
  refine ensures_bind ensures_get_self fun seen => ?_
  have inserted : Ensures (fun builder => seen = builder ∧ builder.Spells owed strict)
      (modifyProfile fun profile : Profile ρ =>
        { profile with operators := (seen.profile.operators.insert marker kind none).2 })
      (fun _ builder => builder.Spells owed strict ∧
        ∀ node, (seen.profile.operators.insert marker kind none).1 = .ok node →
          builder.profile.operators.find? marker.toList = some node ∧
            builder.profile.operators.kindOf? marker.toList = some kind)
      (Builder.Indebted strict) := by
    refine ensures_modify ?_
    rintro builder ⟨rfl, given⟩
    have rooted := given.profile.toRooted
    have held : seen.profile.trieOf? .operator = some seen.profile.operators := rfl
    have inserts := Profile.inserts_withTrie rooted held marker kind none
    refine ⟨⟨inserts.spells given.profile (by simp [ranged]), given.reuse⟩,
      fun node accepted => ?_⟩
    have inserted := rooted.operators.insert_accepted accepted
    exact ⟨inserted.ends, (inserted.kindOf?_eq _).trans (if_pos rfl)⟩
  exact ensures_bind inserted fun _ => ensures_insertAnswer
    (fun node _ accepted given => ⟨given.1, given.2 node accepted⟩)
    fun _ _ _ given => ⟨owed, given.1⟩

end Inserting

/-! ## Whole calls -/

theorem addBrackets_settles (pair : String) (kind : Kind) :
    Settles strict (addBrackets pair kind : Build ρ Unit) := by
  unfold addBrackets
  split
  next opening closing closeKind _ closes =>
    obtain ⟨openRange, closeRange⟩ := Kind.category_bracketClose? closes
    intro owed
    refine ensures_bind (registerKind_spells kind opening.toString owed) fun _ => ?_
    refine ensures_bind (registerKind_spells closeKind closing.toString _) fun _ => ?_
    refine ensures_bind (insertBracket_pays [(closing.toString, closeKind)] openRange)
      fun _ => ?_
    refine ensures_bind (insertBracket_pays [] closeRange) fun _ => ?_
    exact settles_bind (modifyClasses_settles _) (fun _ => modifyClasses_settles _) owed
  next => exact settles_throw _

theorem addNumberPrefix_settles (sequence : String) (kind : Kind) :
    Settles strict (addNumberPrefix sequence kind : Build ρ Unit) := by
  unfold addNumberPrefix
  rcases sequence.toList with _ | ⟨first, _⟩
  · exact settles_throw _
  refine settles_guard fun _ => settles_guard fun ranged => settles_guard fun _ => ?_
  have number : kind.category = .number := by
    simpa [Kind.isNumber] using (not_or.mp ranged).1
  intro owed
  refine ensures_bind (registerKind_spells kind sequence owed) fun _ => ?_
  refine ensures_bind ensures_get_self fun seen => ?_
  have held : seen.profile.trieOf? .number = some seen.profile.numberPrefixes := rfl
  refine ensures_bind (modifyTrie_pays held number [] none) fun _ => ?_
  exact ensures_bind insertAnswer_pays fun _ => modifyClasses_settles _ owed

theorem setBlockComment_settles (opening closing : String) :
    Settles strict (setBlockComment opening closing : Build ρ Unit) := by
  unfold setBlockComment
  refine settles_guard fun _ => ?_
  have closes : Settles strict (modifyProfile fun profile : Profile ρ =>
      { profile with blockClose := closing.toList }) :=
    fun _ => ensures_modify fun _ given => ⟨{ given.profile with }, given.reuse⟩
  have opens : Settles strict (insertOperator opening .blockComment : Build ρ NodeId) :=
    fun owed => (insertMarker_settles (by decide) owed).weaken (fun _ given => given)
      fun _ _ given => given.1
  exact settles_bind opens fun _ => settles_bind closes fun _ => addClass_settles opening _

theorem addOperatorKind_settles (sequence : String) (kind : Kind) :
    Settles strict (addOperatorKind sequence kind : Build ρ Unit) := by
  unfold addOperatorKind
  refine settles_guard fun _ => settles_guard fun ranged => ?_
  have operator : kind.category = .operator := by simpa [Kind.isOperator] using ranged
  intro owed
  refine ensures_bind (registerKind_spells kind sequence owed) fun _ => ?_
  refine ensures_bind (insertOperator_pays [] operator) fun _ => ?_
  exact addClass_settles sequence _ owed

/-- Handing out a kind changes nothing but the next one. -/
theorem allocateOperatorKind_keeps_all (property : Builder ρ → Prop)
    (indifferent : ∀ (builder : Builder ρ) (nextOperator : UInt16), property builder →
      property { builder with nextOperator })
    (refused : Builder ρ → Prop) (left : ∀ builder, property builder → refused builder) :
    Ensures property (allocateOperatorKind : Build ρ Kind) (fun _ => property) refused := by
  have advance : ∀ seen : Builder ρ, ∀ nextOperator,
      Ensures (fun builder => seen = builder ∧ property builder)
        (set { seen with nextOperator } : Build ρ PUnit) (fun _ => property) refused := by
    intro seen nextOperator
    refine ensures_set ?_
    rintro _ ⟨rfl, given⟩
    exact indifferent seen nextOperator given
  refine ensures_bind ensures_get_self fun seen => ?_
  dsimp only
  split
  · exact ensures_bind (advance seen _) fun _ => ensures_pure fun _ given => given
  · exact ensures_bind (advance seen _) fun _ => ensures_throw left

/-- The node belongs to a marker of line comments that has no fallback kind yet. -/
def Unassigned (marker : String) (node : NodeId) (profile : Profile ρ) : Prop :=
  profile.operators.find? marker.toList = some node ∧
    profile.operators.kindOf? marker.toList = some .lineComment ∧
    profile.fallbackAt? node = none

theorem addLineComment_settles (marker : String) :
    Settles strict (addLineComment marker : Build ρ Unit) := by
  unfold addLineComment
  refine settles_guard fun _ => ?_
  intro owed
  refine ensures_bind (insertMarker_settles (by decide) owed) fun node => ?_
  have seen : Ensures (fun builder : Builder ρ => builder.Spells owed strict ∧
        builder.profile.operators.find? marker.toList = some node ∧
        builder.profile.operators.kindOf? marker.toList = some .lineComment)
      get
      (fun seen builder => builder.Spells owed strict ∧
        ((seen.profile.fallbackAt? node).isSome = true ∨
          Unassigned marker node builder.profile)) (Builder.Indebted strict) := by
    refine ensures_get fun builder given => ⟨given.1, ?_⟩
    cases known : builder.profile.fallbackAt? node with
    | none => exact Or.inr ⟨given.2.1, given.2.2, known⟩
    | some kind => exact Or.inl rfl
  refine ensures_bind seen fun seen => ?_
  by_cases unknown : (seen.profile.fallbackAt? node).isSome
  · rw [if_pos unknown]
    exact ensures_pure fun _ given => given.1
  rw [if_neg unknown]
  have allocated := allocateOperatorKind_keeps_all
    (fun builder : Builder ρ => builder.Spells owed strict ∧
      Unassigned marker node builder.profile)
    (fun _ _ given => ⟨⟨given.1.profile, given.1.reuse⟩, given.2⟩) (Builder.Indebted strict)
    fun _ given => ⟨owed, given.1⟩
  refine ensures_bind (allocated.weaken (fun _ given => ⟨given.1, given.2.resolve_left unknown⟩)
    fun _ _ given => given) fun fallback => ?_
  refine ensures_bind (registerKind_owes (Unassigned marker node) (fun _ given => given) fallback
    marker owed) fun _ => ?_
  have assigned : Ensures (fun builder : Builder ρ =>
        builder.Spells ((marker, fallback) :: owed) strict ∧
          Unassigned marker node builder.profile)
      (modifyProfile fun profile : Profile ρ =>
        { profile with fallbacks := profile.fallbacks ++ [(node, fallback)] })
      (fun _ => Builder.Spells owed strict) (Builder.Indebted strict) := by
    refine ensures_modify ?_
    rintro builder ⟨given, walked, comment, free⟩
    exact ⟨given.profile.fallback walked comment free, given.reuse⟩
  exact ensures_bind assigned fun _ => addClass_settles marker _ owed

theorem addOperator_settles (sequence : String) :
    Settles strict (addOperator sequence : Build ρ Kind) := by
  unfold addOperator
  refine settles_guard fun _ => ?_
  refine settles_bind (fun _ => ensures_get fun _ given => given) fun seen => ?_
  split
  · exact settles_pure _
  have allocates : Settles strict (allocateOperatorKind : Build ρ Kind) := fun owed =>
    allocateOperatorKind_keeps_all _ (fun _ _ given => ⟨given.profile, given.reuse⟩) _
      fun _ given => ⟨owed, given⟩
  exact settles_bind allocates fun kind =>
    settles_bind (addOperatorKind_settles sequence kind) fun _ => settles_pure kind

theorem registerReader_settles (reader : ρ) : Settles strict (registerReader reader) := by
  have stored : ∀ readers : Literal.Registry ρ, Settles strict
      (modifyProfile fun profile : Profile ρ => { profile with readers }) :=
    fun _ _ => ensures_modify fun _ given => ⟨{ given.profile with }, given.reuse⟩
  refine settles_bind (fun _ => ensures_get fun _ given => given) fun seen => ?_
  refine settles_bind (stored _) fun _ => ?_
  split
  · exact settles_pure _
  · exact settles_throw _

theorem addLiteral_settles (sequence : String) (kind : Kind) (reader : ρ) :
    Settles strict (addLiteral sequence kind reader) := by
  unfold addLiteral
  rcases sequence.toList with _ | ⟨first, _⟩
  · exact settles_throw _
  refine settles_guard fun ranged => ?_
  have literal : kind.category = .literal := by simpa [Kind.isLiteral] using ranged
  intro owed
  refine ensures_bind (registerKind_spells kind sequence owed) fun _ => ?_
  refine ensures_bind (registerReader_settles reader _) fun number => ?_
  refine ensures_bind ensures_get_self fun seen => ?_
  have held : seen.profile.trieOf? .literal = some seen.profile.literals := rfl
  refine ensures_bind (modifyTrie_pays held literal [] (some number)) fun _ => ?_
  exact ensures_bind insertAnswer_pays fun _ => modifyClasses_settles _ owed

/-- Every call settles its debts when it is accepted.  Where kinds are never reused, they may
not be allowed to be. -/
theorem Call.perform_settles {call : Call ρ} (reuse : strict → call ≠ .allowKindReuse true) :
    Settles strict call.perform := by
  cases call with
  | setClass symbol traits => exact modifyClasses_settles (·.set symbol traits)
  | addClass symbols traits => exact addClass_settles symbols traits
  | setNonAsciiClass traits => exact modifyClasses_settles ({ · with nonAscii := traits })
  | allowKindReuse allowed =>
      refine fun _ => ensures_modify fun _ given => ⟨given.profile, fun isStrict => ?_⟩
      have forbidden : allowed ≠ true := fun same => reuse isStrict (congrArg _ same)
      exact Bool.eq_false_iff.mpr forbidden
  | setOptions options => exact setOptions_settles options
  | addBrackets pair kind => exact addBrackets_settles pair kind
  | addNumberPrefix sequence kind => exact addNumberPrefix_settles sequence kind
  | addLineComment marker => exact addLineComment_settles marker
  | setBlockComment opening closing => exact setBlockComment_settles opening closing
  | addOperatorKind sequence kind => exact addOperatorKind_settles sequence kind
  | addOperator sequence =>
      exact settles_bind (addOperator_settles sequence) fun _ => settles_pure ()
  | addLiteral sequence kind reader => exact addLiteral_settles sequence kind reader

/-! ## Sequences of calls -/

theorem Ensures.accepted {before refused : Builder ρ → Prop} {call : Build ρ α}
    {after : α → Builder ρ → Prop} {builder next : Builder ρ} {value : α}
    (ensures : Ensures before call after refused) (given : before builder)
    (accepts : Accepts call builder value next) : after value next := by
  have answered := ensures builder given
  obtain ⟨answer, rfl⟩ := accepts
  unfold Builder.after
  rcases run : call.run.run builder with ⟨error | other, next⟩ <;> rw [run] at answer answered
  · contradiction
  · obtain rfl := Except.ok.inj answer
    exact answered

theorem settles_forM {calls : List (Call ρ)}
    (reuse : strict → ∀ call ∈ calls, call ≠ .allowKindReuse true) :
    Settles strict (calls.forM Call.perform) := by
  induction calls with
  | nil => exact settles_pure _
  | cons call rest ih =>
      have first := Call.perform_settles fun isStrict => reuse isStrict call List.mem_cons_self
      exact settles_bind first fun _ =>
        ih fun isStrict other listed => reuse isStrict other (List.mem_cons_of_mem _ listed)

theorem keeps_forM {invariant : Builder ρ → Prop}
    (keeps : ∀ call : Call ρ, Keeps invariant call.perform) (calls : List (Call ρ)) :
    Keeps invariant (calls.forM Call.perform) := by
  induction calls with
  | nil => exact ensures_pure fun _ given => given
  | cons call rest ih => exact keeps_bind (keeps call) fun _ => ih

theorem fresh_spells (strict : Prop) : Builder.Spells [] strict ({} : Builder ρ) :=
  ⟨Profile.fresh_spells strict, fun _ => rfl⟩

/-! ## Kinds that are handed out -/

section Operators

variable {sequence : String} {kind : Kind} {builder next : Builder ρ}

@[simp]
theorem accepts_set {given : Builder ρ} {answer : PUnit} :
    Accepts (set given) builder answer next ↔ given = next :=
  ⟨fun accepted => accepted.2, fun same => ⟨rfl, same⟩⟩

theorem describe?_firstFree? {profile : Profile ρ} {count : Nat} {candidate : UInt16}
    (free : firstFree? profile count candidate = some kind) : profile.describe? kind = none := by
  induction count generalizing candidate with
  | zero => simp [firstFree?] at free
  | succ count ih =>
      unfold firstFree? at free
      split at free
      case isTrue unknown =>
        obtain rfl := Option.some.inj free
        simpa using unknown
      case isFalse => exact ih free

/-- A kind that is handed out has no name, and none that the caller defines is. -/
theorem allocateOperatorKind_accepts (sound : builder.Sound)
    (accepted : Accepts allocateOperatorKind builder kind next) :
    kind.isOperator = true ∧ next.profile = builder.profile ∧
      builder.profile.describe? kind = none ∧ 0x2000 ≤ kind.code ∧ kind.code ≤ 0x27FF := by
  simp only [allocateOperatorKind, accepts_bind, accepts_get] at accepted
  obtain ⟨_, _, ⟨rfl, rfl⟩, accepted⟩ := accepted
  rcases free : firstFree? builder.profile
    (Kind.operatorUserFirst.toNat - builder.nextOperator.toNat) builder.nextOperator with _ | found
    <;> rw [free] at accepted
  case none => simp at accepted
  case some =>
    simp only [accepts_bind, accepts_set, accepts_pure] at accepted
    obtain ⟨_, _, rfl, rfl, rfl⟩ := accepted
    have low := sound.operator_le
    have high := sound.le_user
    obtain ⟨above, below⟩ := firstFree?_range (by omega) free
    have operator := Kind.isOperator_of_range (Nat.le_trans low above) below
    rw [show Kind.operatorFirst.toNat = 0x2000 by decide] at low
    rw [show Kind.operatorUserFirst.toNat = 0x2800 by decide] at below
    refine ⟨operator, rfl, describe?_firstFree? free, ?_, ?_⟩ <;> unfold Kind.code <;> omega

/-- An operator that is accepted leads to its kind. -/
theorem kindOf?_addOperatorKind (regular : builder.profile.Regular) {answer : PUnit}
    (accepted : Accepts (addOperatorKind sequence kind) builder answer next) :
    next.profile.operators.kindOf? sequence.toList = some kind := by
  unfold addOperatorKind at accepted
  obtain ⟨_, _, accepted⟩ := (accepts_guard.trans (and_congr_right' accepts_guard)).mp accepted
  obtain ⟨_, middle, registered, accepted⟩ := accepts_bind.mp accepted
  have regular : middle.profile.Regular :=
    (registerKind_having Profile.Changes.regular kind sequence).accepted regular registered
  simp only [insertOperator, markOperator, addClass, modifyClasses, modifyProfile, accepts_bind,
    accepts_get, accepts_insertAnswer, accepts_modify] at accepted
  obtain ⟨node, _, ⟨_, _, ⟨rfl, rfl⟩, _, _, rfl, inserted, rfl⟩, rfl⟩ := accepted
  exact ((regular.operators.insert_accepted inserted).kindOf?_eq _).trans (if_pos rfl)

/-- What the caller of `addOperator` knows of the kind. -/
theorem addOperator_accepts (sound : builder.Sound) (regular : builder.profile.Regular)
    (accepted : Accepts (addOperator sequence) builder kind next) :
    sequence.isEmpty = false ∧ kind.isOperator = true ∧
      next.profile.operators.kindOf? sequence.toList = some kind ∧
      ((builder.profile.operatorKind? sequence).filter Kind.isOperator = none →
        builder.profile.describe? kind = none ∧ 0x2000 ≤ kind.code ∧ kind.code ≤ 0x27FF) := by
  unfold addOperator at accepted
  obtain ⟨nonempty, accepted⟩ := accepts_guard.mp accepted
  refine ⟨by simpa using nonempty, ?_⟩
  obtain ⟨_, _, got, accepted⟩ := accepts_bind.mp accepted
  obtain ⟨rfl, rfl⟩ := accepts_get.mp got
  rcases known : (builder.profile.operatorKind? sequence).filter Kind.isOperator with _ | existing
    <;> rw [known] at accepted
  case some =>
    obtain ⟨rfl, rfl⟩ := accepts_pure.mp accepted
    obtain ⟨found, operator⟩ := Option.filter_eq_some_iff.mp known
    rw [Profile.operatorKind?, regular.operators.lookup?_eq] at found
    exact ⟨operator, found, by simp⟩
  case none =>
    obtain ⟨_, middle, allocated, accepted⟩ := accepts_bind.mp accepted
    obtain ⟨_, _, added, answered⟩ := accepts_bind.mp accepted
    obtain ⟨rfl, rfl⟩ := accepts_pure.mp answered
    obtain ⟨operator, same, fresh⟩ := allocateOperatorKind_accepts sound allocated
    exact ⟨operator, kindOf?_addOperatorKind (same ▸ regular) added, fun _ => fresh⟩

/-- An operator that leads to a kind of its own is not registered again. -/
theorem addOperator_known {known : Builder ρ} (nonempty : sequence.isEmpty = false)
    (operator : kind.isOperator = true) (found : known.profile.operatorKind? sequence = some kind) :
    Accepts (addOperator sequence) known kind known := by
  have kept : (some kind).filter Kind.isOperator = some kind := by simp [operator]
  unfold addOperator
  simp [nonempty, found, kept]

/-- No call takes a kind from a sequence that leads to it. -/
theorem Call.perform_keeps_kindOf? (path : List Char) (kind : Kind) (call : Call ρ) :
    Keeps (Having fun profile => profile.operators.Tree ∧
      profile.operators.kindOf? path = some kind) call.perform := by
  refine call.perform_having fun changes given => ?_
  cases changes with
  | @operator sequence other _ =>
      have outcome := given.1.outcome sequence other none
      exact ⟨outcome.tree, outcome.kindOf?_old given.2⟩
  | _ => exact given

end Operators

end Build

/-! ## Built profiles -/

namespace Profile

variable {profile : Profile ρ} {sequence : String} {kind : Kind}

def tries (profile : Profile ρ) : List Trie :=
  [profile.brackets, profile.numberPrefixes, profile.operators, profile.literals]

/-- The kind occurs in the profile: it has a name, some sequence leads to it, or some marker
of line comments falls back to it. -/
def Uses (profile : Profile ρ) (kind : Kind) : Prop :=
  (∃ sequence, profile.describe? kind = some sequence) ∨
    (∃ trie ∈ profile.tries, ∃ sequence : String, trie.kindOf? sequence.toList = some kind) ∨
    ∃ marker, profile.fallbackKind? marker = some kind

/-- The kind is described by a sequence that is registered for it, and by the given one unless
kinds were reused. -/
def Answers (profile : Profile ρ) (strict : Prop) (sequence : String) (kind : Kind) : Prop :=
  ∃ spelling, profile.describe? kind = some spelling ∧ profile.IsRegistered spelling kind ∧
    (strict → spelling = sequence)

/-- Names and lookups are inverse. -/
structure Inverse (strict : Prop) (profile : Profile ρ) : Prop where
  described : ∀ {kind sequence}, profile.describe? kind = some sequence →
    profile.IsRegistered sequence kind
  ended : ∀ {trie} {sequence : String} {kind}, trie ∈ profile.tries →
    trie.kindOf? sequence.toList = some kind → kind.isComment = false →
    profile.Answers strict sequence kind
  fallback : ∀ {marker kind}, profile.fallbackKind? marker = some kind →
    profile.Answers strict marker kind

/-- All kinds but those of comments are found in the trie of their category. -/
theorem registers_of_ended {trie : Trie} (sound : profile.Sound) (listed : trie ∈ profile.tries)
    (present : trie.kindOf? sequence.toList = some kind) (named : kind.isComment = false) :
    profile.IsRegistered sequence kind := by
  obtain ⟨node, _, known⟩ := Option.bind_eq_some_iff.mp present
  refine Or.inl ⟨trie, ?_, present⟩
  simp only [tries, List.mem_cons, List.not_mem_nil, or_false] at listed
  rcases listed with rfl | rfl | rfl | rfl
  · rw [sound.bracketKinds node kind known]
    rfl
  · have number := (sound.numberKinds node kind known).1
    rw [show kind.category = .number by simpa [Kind.isNumber] using number]
    rfl
  · rcases sound.operatorKinds node kind known with operator | rfl | rfl
    · rw [show kind.category = .operator by simpa [Kind.isOperator] using operator]
      rfl
    · exact absurd named (by decide)
    · exact absurd named (by decide)
  · have literal := sound.literalKinds node kind known
    rw [show kind.category = .literal by simpa [Kind.isLiteral] using literal]
    rfl

theorem Spells.inverse {strict : Prop} (given : profile.Spells [] strict)
    (sound : profile.Sound) : profile.Inverse strict := by
  have described : ∀ {kind sequence}, profile.describe? kind = some sequence →
      profile.IsRegistered sequence kind :=
    fun known => (given.spelled known).resolve_right (by simp)
  have answers : ∀ {sequence kind}, profile.IsRegistered sequence kind →
      profile.Answers strict sequence kind := by
    intro sequence kind registered
    obtain ⟨spelling, known, same⟩ := given.named registered
    exact ⟨spelling, known, described known, same⟩
  exact {
    described
    ended := fun listed present named => answers (registers_of_ended sound listed present named)
    fallback := fun known => answers (given.registers_fallback known) }

/-- Kinds that occur have names. -/
theorem Spells.not_uses {owed : List (String × Kind)} {strict : Prop}
    (given : profile.Spells owed strict) (sound : profile.Sound) (operator : kind.isOperator = true)
    (unnamed : profile.describe? kind = none) : ¬profile.Uses kind := by
  have free : ∀ sequence, ¬profile.IsRegistered sequence kind := by
    intro sequence registered
    obtain ⟨spelling, known, _⟩ := given.named registered
    rw [unnamed] at known
    contradiction
  rintro (⟨sequence, known⟩ | ⟨trie, listed, sequence, present⟩ | ⟨marker, known⟩)
  · rw [unnamed] at known
    contradiction
  · exact free sequence
      (registers_of_ended sound listed present (Kind.isComment_of_isOperator operator))
  · exact free marker (given.registers_fallback known)

end Profile

/-- Names and lookups are inverse in every profile that accepted calls build.  Moreover,
whatever calls are made and refused, an operator keeps the kind that its caller was told, and
a kind that is handed out for it was not in use before. -/
theorem names_inverse :
    (∀ {calls : List (Call ρ)} {builder : Builder ρ},
      Accepts (calls.forM Call.perform) {} () builder →
      builder.profile.Inverse (∀ call ∈ calls, call ≠ .allowKindReuse true)) ∧
    ∀ (calls later : List (Call ρ)) {sequence : String} {kind : Kind} {next : Builder ρ},
      let before := Builder.afterAll {} calls
      let last := next.afterAll later
      Accepts (Build.addOperator sequence) before kind next →
        Accepts (Build.addOperator sequence) last kind last ∧
        last.profile.operatorKind? sequence = some kind ∧
        ((before.profile.operatorKind? sequence).filter Kind.isOperator = none →
          0x2000 ≤ kind.code ∧ kind.code ≤ 0x27FF ∧ ¬before.profile.Uses kind) := by
  constructor
  · intro calls builder built
    have spells := (settles_forM id []).accepted (fresh_spells _) built
    have sound : builder.Sound :=
      (keeps_forM Call.perform_keeps calls).accepted Builder.fresh_sound built
    exact spells.profile.inverse sound.profile
  · intro calls later sequence kind next before last told
    have sound : before.Sound := Builder.afterAll_sound Builder.fresh_sound calls
    have regular : before.profile.Regular := Profile.Made.regular ⟨calls, rfl⟩
    obtain ⟨owed, spells⟩ : before.Indebted False :=
      holds_afterAll (fun call => (Call.perform_settles False.elim).keeps)
        ⟨[], fresh_spells False⟩ calls
    obtain ⟨nonempty, operator, found, fresh⟩ := addOperator_accepts sound regular told
    have grown : next.profile.Regular :=
      (addOperator_having Profile.Changes.regular sequence).accepted regular told
    obtain ⟨tree, known⟩ := holds_afterAll (Call.perform_keeps_kindOf? sequence.toList kind)
      ⟨grown.operators, found⟩ later
    have lookup : last.profile.operatorKind? sequence = some kind :=
      (tree.lookup?_eq _).trans known
    refine ⟨addOperator_known nonempty operator lookup, lookup, fun unknown => ?_⟩
    obtain ⟨unnamed, above, below⟩ := fresh unknown
    exact ⟨above, below, spells.profile.not_uses sound.profile operator unnamed⟩

/-- Two sequences for one kind, and a marker of line comments. -/
def sharedKinds : List (Call Literal.Stock) :=
  [.addOperatorKind "+" (.operator 0), .allowKindReuse true,
    .addOperatorKind "plus" (.operator 0), .addLineComment "//", .addBrackets "()" .roundOpen]

/-- The second call is refused because the marker is no operator, but its kind has a name from
then on. -/
def refusedMarker : List (Call Literal.Stock) :=
  [.addLineComment "//", .addOperatorKind "//" (.operator 1)]

/-- The shared kind keeps its first name, and the operator after the refused marker gets the
next kind without a name. -/
theorem names_inverse_shared :
    (∃ builder : Builder Literal.Stock, Accepts (sharedKinds.forM Call.perform) {} () builder ∧
      builder.profile.describe? (.operator 0) = some "+" ∧
      builder.profile.operatorKind? "plus" = some (.operator 0) ∧
      builder.profile.fallbackKind? "//" = some (.operator 1) ∧
      builder.profile.Inverse (∀ call ∈ sharedKinds, call ≠ .allowKindReuse true)) ∧
    ∃ next : Builder Literal.Stock,
      Accepts (Build.addOperator "+") (Builder.afterAll {} refusedMarker) (.operator 2) next ∧
      Accepts (Build.addOperator "+") next (.operator 2) next ∧
      ¬(Builder.afterAll {} refusedMarker).profile.Uses (.operator 2) := by
  have built : Accepts (sharedKinds.forM Call.perform) {} () _ := ⟨by decide +kernel, rfl⟩
  have told : Accepts (Build.addOperator "+") (Builder.afterAll {} refusedMarker) (.operator 2)
      _ := ⟨by decide +kernel, rfl⟩
  have unknown : ((Builder.afterAll {} refusedMarker).profile.operatorKind? "+").filter
      Kind.isOperator = none := by decide +kernel
  obtain ⟨again, _, fresh⟩ := names_inverse.2 refusedMarker [] told
  exact ⟨⟨_, built, by decide +kernel, by decide +kernel, by decide +kernel,
    names_inverse.1 built⟩, _, told, again, (fresh unknown).2.2⟩

end Lexing
