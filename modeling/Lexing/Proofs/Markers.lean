import Lexing.Proofs.Names

/-!
# Markers of line comments

The call that registers a marker of line comments gives it a kind to fall back to, unless it is
refused in between.  No other call registers such markers, and none takes a kind away.  So where
all calls were accepted, every marker has a kind for the places where it opens no comment.
-/

namespace Lexing

variable {ρ : Type} {owed : List NodeId}

/-- Every marker of line comments has a kind to fall back to, but for the nodes that are owed
one. -/
structure Profile.Marked (owed : List NodeId) (profile : Profile ρ) : Prop where
  tree : profile.operators.Tree
  falls : ∀ {marker node}, profile.operators.find? marker = some node →
    profile.operators.kind? node = some .lineComment → node ∉ owed →
    (profile.fallbackAt? node).isSome = true

namespace Profile.Marked

variable {profile : Profile ρ} {sequence : String} {kind : Kind} {node : NodeId}

theorem fresh : ({} : Profile ρ).Marked [] where
  tree := Trie.empty_tree
  falls {_ node} _ known _ := by
    rw [show ({} : Profile ρ).operators.kind? node = none from Trie.kind?_empty node] at known
    contradiction

theorem owe (marked : profile.Marked owed) (node : NodeId) : profile.Marked (node :: owed) where
  tree := marked.tree
  falls found known free := marked.falls found known (List.not_mem_of_not_mem_cons free)

/-- Where a new marker ends, a kind is owed. -/
theorem insert (marked : profile.Marked owed) (due : kind = .lineComment → ∀ node,
      (profile.operators.insert sequence kind none).2.find? sequence.toList = some node →
        node ∈ owed) :
    { profile with operators := (profile.operators.insert sequence kind none).2 }.Marked owed := by
  have outcome := marked.tree.outcome sequence kind none
  refine ⟨outcome.tree, fun {marker node} found known free => ?_⟩
  have present := (Trie.kindOf?_of_find? found).trans known
  rcases outcome.kindOf?_cases present with old | ⟨rfl, line⟩
  · obtain ⟨other, walked, comment⟩ := Option.bind_eq_some_iff.mp old
    obtain rfl := Option.some.inj ((outcome.find?_old walked).symm.trans found)
    exact marked.falls walked comment free
  · exact absurd (due line.symm node found) free

/-- A node with a kind to fall back to is owed nothing. -/
theorem settle (marked : profile.Marked (node :: owed))
    (falls : (profile.fallbackAt? node).isSome = true) : profile.Marked owed where
  tree := marked.tree
  falls {_ other} found known free := by
    by_cases same : other = node
    · exact same ▸ falls
    · exact marked.falls found known (by simp [same, free])

theorem fallback (marked : profile.Marked owed) (node : NodeId) (kind : Kind) :
    { profile with fallbacks := profile.fallbacks ++ [(node, kind)] }.Marked owed where
  tree := marked.tree
  falls found known free := by
    have falls := marked.falls found known free
    unfold fallbackAt? at falls ⊢
    simp [List.lookup_append, falls]

end Profile.Marked

namespace Build

variable {α : Type} {profile : Profile ρ}

/-- Whether it is accepted or refused, the call leaves no marker without a kind. -/
def Spares (call : Build ρ α) : Prop :=
  ∀ owed, Keeps (Having (Profile.Marked owed)) call

/-! ## Calls that register no marker -/

theorem modifyProfile_spares {change : Profile ρ → Profile ρ}
    (spared : ∀ {owed profile}, profile.Marked owed → (change profile).Marked owed) :
    Spares (modifyProfile change) :=
  fun _ => ensures_modify fun _ => spared

theorem Spares.bind {β : Type} {call : Build ρ α} {next : α → Build ρ β} (first : Spares call)
    (second : ∀ value, Spares (next value)) : Spares (call >>= next) :=
  fun owed => keeps_bind (first owed) fun value => second value owed

theorem spares_pure (value : α) : Spares (pure value : Build ρ α) :=
  fun _ => ensures_pure fun _ given => given

theorem spares_throw (error : BuildError) : Spares (throw error : Build ρ α) :=
  fun _ => ensures_throw fun _ given => given

theorem spares_guard {condition : Prop} [Decidable condition] {error : BuildError}
    {skipped : PUnit → Build ρ α} {next : Build ρ α} (passed : ¬condition → Spares next) :
    Spares (if condition then (throw error : Build ρ PUnit) >>= skipped else next) :=
  fun owed => keeps_guard fun passes => passed passes owed

theorem spares_get : Spares (get : Build ρ (Builder ρ)) :=
  fun _ => ensures_get fun _ given => given

theorem insertAnswer_spares (answer : Except Trie.InsertError NodeId) :
    Spares (insertAnswer answer : Build ρ NodeId) :=
  fun _ => insertAnswer_having answer

theorem modifyClasses_spares (change : CharClass.Table → CharClass.Table) :
    Spares (modifyClasses change : Build ρ Unit) :=
  modifyProfile_spares fun marked => { marked with }

theorem addClass_spares (symbols : String) (traits : CharClass) :
    Spares (addClass symbols traits : Build ρ Unit) :=
  modifyClasses_spares (·.insertAll symbols.toList traits)

theorem setOptions_spares (options : Options) : Spares (setOptions options : Build ρ Unit) := by
  unfold setOptions
  split
  · exact spares_throw _
  · exact modifyProfile_spares fun marked => { marked with }

theorem registerKind_spares (kind : Kind) (sequence : String) :
    Spares (registerKind kind sequence : Build ρ Unit) := by
  refine Spares.bind spares_get fun builder => ?_
  split
  · split
    · exact spares_pure _
    · exact spares_throw _
  · exact modifyProfile_spares fun marked => { marked with }

theorem insertBracket_spares (symbol : Char) (kind : Kind) :
    Spares (insertBracket symbol kind : Build ρ NodeId) := by
  refine Spares.bind spares_get fun seen => ?_
  refine Spares.bind (modifyProfile_spares fun marked => { marked with }) fun _ => ?_
  exact insertAnswer_spares _

theorem insertOperator_spares (sequence : String) {kind : Kind} (other : kind ≠ .lineComment) :
    Spares (insertOperator sequence kind : Build ρ NodeId) := by
  intro owed
  refine ensures_bind ensures_get_self fun seen => ?_
  have inserted : Ensures (fun builder => seen = builder ∧ builder.profile.Marked owed)
      (modifyProfile fun profile : Profile ρ =>
        { profile with operators := (seen.profile.operators.insert sequence kind none).2 })
      (fun _ => Having (Profile.Marked owed)) (Having (Profile.Marked owed)) := by
    refine ensures_modify ?_
    rintro builder ⟨rfl, marked⟩
    exact marked.insert fun line => absurd line other
  exact ensures_bind inserted fun _ => insertAnswer_having _

theorem addBrackets_spares (pair : String) (kind : Kind) :
    Spares (addBrackets pair kind : Build ρ Unit) := by
  unfold addBrackets
  split
  · refine Spares.bind (registerKind_spares _ _) fun _ => ?_
    refine Spares.bind (registerKind_spares _ _) fun _ => ?_
    refine Spares.bind (insertBracket_spares _ _) fun _ => ?_
    refine Spares.bind (insertBracket_spares _ _) fun _ => ?_
    exact Spares.bind (modifyClasses_spares _) fun _ => modifyClasses_spares _
  · exact spares_throw _

theorem addNumberPrefix_spares (sequence : String) (kind : Kind) :
    Spares (addNumberPrefix sequence kind : Build ρ Unit) := by
  unfold addNumberPrefix
  rcases sequence.toList with _ | ⟨first, _⟩
  · exact spares_throw _
  refine spares_guard fun _ => spares_guard fun _ => spares_guard fun _ => ?_
  refine Spares.bind (registerKind_spares _ _) fun _ => ?_
  refine Spares.bind spares_get fun seen => ?_
  refine Spares.bind (modifyProfile_spares fun marked => { marked with }) fun _ => ?_
  exact Spares.bind (insertAnswer_spares _) fun _ => modifyClasses_spares _

theorem setBlockComment_spares (opening closing : String) :
    Spares (setBlockComment opening closing : Build ρ Unit) := by
  unfold setBlockComment
  refine spares_guard fun _ => ?_
  refine Spares.bind (insertOperator_spares opening (by decide)) fun _ => ?_
  refine Spares.bind (modifyProfile_spares fun marked => { marked with }) fun _ => ?_
  exact addClass_spares opening _

theorem addOperatorKind_spares (sequence : String) (kind : Kind) :
    Spares (addOperatorKind sequence kind : Build ρ Unit) := by
  unfold addOperatorKind
  refine spares_guard fun _ => spares_guard fun ranged => ?_
  have other : kind ≠ .lineComment := by
    rintro rfl
    exact ranged (by decide)
  refine Spares.bind (registerKind_spares _ _) fun _ => ?_
  exact Spares.bind (insertOperator_spares _ other) fun _ => addClass_spares sequence _

theorem addOperator_spares (sequence : String) : Spares (addOperator sequence : Build ρ Kind) := by
  unfold addOperator
  refine spares_guard fun _ => ?_
  refine Spares.bind spares_get fun seen => ?_
  split
  · exact spares_pure _
  · refine Spares.bind (fun _ => allocateOperatorKind_having) fun kind => ?_
    exact Spares.bind (addOperatorKind_spares _ _) fun _ => spares_pure _

theorem addLiteral_spares (sequence : String) (kind : Kind) (reader : ρ) :
    Spares (addLiteral sequence kind reader) := by
  have registers : Spares (registerReader reader) := by
    refine Spares.bind spares_get fun seen => ?_
    refine Spares.bind (modifyProfile_spares fun marked => { marked with }) fun _ => ?_
    split
    · exact spares_pure _
    · exact spares_throw _
  unfold addLiteral
  split
  · exact spares_throw _
  dsimp only
  split
  · exact spares_throw _
  refine Spares.bind (registerKind_spares _ _) fun _ => Spares.bind registers fun number => ?_
  refine Spares.bind spares_get fun seen => ?_
  refine Spares.bind (modifyProfile_spares fun marked => { marked with }) fun _ => ?_
  exact Spares.bind (insertAnswer_spares _) fun _ => modifyClasses_spares _

/-! ## Calls that register a marker -/

/-- Accepted calls leave no marker without a kind. -/
def Marks (call : Build ρ α) : Prop :=
  Ensures (Having (Profile.Marked [])) call (fun _ => Having (Profile.Marked [])) fun _ => True

theorem Ensures.disregard {before refused : Builder ρ → Prop} {call : Build ρ α}
    {after : α → Builder ρ → Prop} (ensures : Ensures before call after refused) :
    Ensures before call after fun _ => True := by
  intro builder given
  have answered := ensures builder given
  rcases answer : call.run.run builder with ⟨error | value, next⟩
  · trivial
  · simpa only [answer] using answered

theorem Spares.marks {call : Build ρ α} (spares : Spares call) : Marks call :=
  (spares []).disregard

/-- The node where the marker ends is owed a kind. -/
theorem insertMarker_marks (marker : String) :
    Ensures (Having (Profile.Marked [])) (insertOperator marker .lineComment : Build ρ NodeId)
      (fun node => Having (Profile.Marked [node])) fun _ => True := by
  refine ensures_bind ensures_get_self fun seen => ?_
  have inserted : Ensures (fun builder => seen = builder ∧ builder.profile.Marked [])
      (modifyProfile fun profile : Profile ρ =>
        { profile with operators := (seen.profile.operators.insert marker .lineComment none).2 })
      (fun _ builder => ∀ node,
        (seen.profile.operators.insert marker .lineComment none).1 = .ok node →
          builder.profile.Marked [node]) fun _ => True := by
    refine ensures_modify ?_
    rintro builder ⟨rfl, marked⟩ node accepted
    have ends := (marked.tree.insert_accepted accepted).ends
    refine (marked.owe node).insert fun _ other found => ?_
    rw [Option.some.inj (found.symm.trans ends)]
    exact List.mem_singleton_self node
  exact ensures_bind inserted fun _ => ensures_insertAnswer
    (fun node _ accepted given => given node accepted) fun _ _ _ _ => trivial

theorem addLineComment_marks (marker : String) :
    Marks (addLineComment marker : Build ρ Unit) := by
  unfold addLineComment
  dsimp only
  split
  · exact (spares_throw _).marks
  refine ensures_bind (insertMarker_marks marker) fun node => ?_
  refine ensures_bind ensures_get_self fun seen => ?_
  split
  case isTrue known =>
    refine ensures_pure ?_
    rintro builder ⟨rfl, marked⟩
    exact marked.settle known
  refine ensures_bind ((allocateOperatorKind_having.disregard).weaken (fun _ given => given.2)
    fun _ _ given => given) fun fallback => ?_
  refine ensures_bind (registerKind_spares fallback marker [node]).disregard fun _ => ?_
  have assigned : Ensures (Having (Profile.Marked [node]))
      (modifyProfile fun profile : Profile ρ =>
        { profile with fallbacks := profile.fallbacks ++ [(node, fallback)] })
      (fun _ => Having (Profile.Marked [])) fun _ => True := by
    refine ensures_modify fun builder marked => ?_
    refine Profile.Marked.settle (Profile.Marked.fallback marked node fallback) ?_
    simp [Profile.fallbackAt?, List.lookup_append]
  exact ensures_bind assigned fun _ => (addClass_spares marker _).marks

theorem Call.perform_marks (call : Call ρ) : Marks call.perform := by
  cases call with
  | setClass symbol traits => exact (modifyClasses_spares (·.set symbol traits)).marks
  | addClass symbols traits => exact (addClass_spares symbols traits).marks
  | setNonAsciiClass traits => exact (modifyClasses_spares ({ · with nonAscii := traits })).marks
  | allowKindReuse allowed => exact ensures_modify fun _ given => given
  | setOptions options => exact (setOptions_spares options).marks
  | addBrackets pair kind => exact (addBrackets_spares pair kind).marks
  | addNumberPrefix sequence kind => exact (addNumberPrefix_spares sequence kind).marks
  | addLineComment marker => exact addLineComment_marks marker
  | setBlockComment opening closing => exact (setBlockComment_spares opening closing).marks
  | addOperatorKind sequence kind => exact (addOperatorKind_spares sequence kind).marks
  | addOperator sequence =>
      exact (Spares.bind (addOperator_spares sequence) fun _ => spares_pure _).marks
  | addLiteral sequence kind reader => exact (addLiteral_spares sequence kind reader).marks

theorem marks_forM (calls : List (Call ρ)) : Marks (calls.forM Call.perform) := by
  induction calls with
  | nil => exact ensures_pure fun _ given => given
  | cons call rest ih => exact ensures_bind call.perform_marks fun _ => ih

end Build

/-- Where all calls were accepted, every marker of line comments has a kind to fall back to. -/
theorem marked_of_accepted {calls : List (Build.Call ρ)} {builder : Builder ρ}
    (built : Build.Accepts (calls.forM Build.Call.perform) {} () builder) :
    builder.profile.Marked [] := by
  have start : Build.Having (Profile.Marked []) ({} : Builder ρ) := Profile.Marked.fresh
  exact Build.Ensures.accepted (Build.marks_forM calls) start built

end Lexing
