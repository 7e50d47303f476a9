import Lexing.Proofs.Changes

/-!
# Kinds and their spellings

A kind is spelled before a sequence is inserted for it, so there are moments at which a kind
names a sequence that does not lead to it yet.  Until then the sequence is owed.  Every single
step of a call keeps the relation between spellings, sequences and debts: an insertion is only
made for a kind that has a name, and when it is accepted, the debt is settled.
-/

namespace Lexing

open Trie (Outcome)

namespace Profile

variable {ρ : Type} {before after profile : Profile ρ} {category : Kind.Category}
  {sequence : String} {kind found : Kind} {trie grown : Trie} {owed : List (String × Kind)}
  {strict : Prop}

/-! ## Registered sequences -/

def trieOf? (profile : Profile ρ) : Kind.Category → Option Trie
  | .bracket => some profile.brackets
  | .number => some profile.numberPrefixes
  | .operator => some profile.operators
  | .literal => some profile.literals
  | .control | .atomic | .keyword | .reserved => none

/-- The sequence is registered for the kind: it ends with it in the trie of the kind's
category, or it marks line comments and falls back to the kind. -/
def IsRegistered (profile : Profile ρ) (sequence : String) (kind : Kind) : Prop :=
  (∃ trie, profile.trieOf? kind.category = some trie ∧
      trie.kindOf? sequence.toList = some kind) ∨
    profile.operatorKind? sequence = some .lineComment ∧
      profile.fallbackKind? sequence = some kind

/-- The kind has a name, which is the sequence unless kinds were reused. -/
def Named (profile : Profile ρ) (strict : Prop) (sequence : String) (kind : Kind) : Prop :=
  ∃ spelling, profile.describe? kind = some spelling ∧ (strict → spelling = sequence)

/-- All tries are trees, and fallback kinds belong to markers of line comments. -/
structure Rooted (profile : Profile ρ) : Prop where
  trees : ∀ {category trie}, profile.trieOf? category = some trie → trie.Tree
  markers : ∀ {node kind}, profile.fallbackAt? node = some kind → ∃ marker,
    profile.operators.find? marker = some node ∧
      profile.operators.kindOf? marker = some .lineComment

/-- What names and lookups have to do with each other while calls are made.  Some sequences
were spelled and are still to be registered. -/
structure Spells (owed : List (String × Kind)) (strict : Prop) (profile : Profile ρ) : Prop
    extends profile.Rooted where
  named : ∀ {sequence kind}, profile.IsRegistered sequence kind → profile.Named strict sequence kind
  due : ∀ {sequence kind}, (sequence, kind) ∈ owed → profile.Named strict sequence kind
  spelled : ∀ {kind sequence}, profile.describe? kind = some sequence →
    profile.IsRegistered sequence kind ∨ (sequence, kind) ∈ owed

theorem trieOf?_fresh (held : ({} : Profile ρ).trieOf? category = some trie) :
    trie = .empty := by
  cases category with
  | bracket | number | operator | literal => exact (Option.some.inj held).symm
  | control | atomic | keyword | reserved => contradiction

theorem fresh_spells (strict : Prop) : Spells [] strict ({} : Profile ρ) where
  trees held := by
    rw [trieOf?_fresh held]
    exact Trie.empty_tree
  markers := nofun
  named := by
    rintro sequence kind (⟨trie, held, present⟩ | ⟨_, present⟩)
    · rw [trieOf?_fresh held] at present
      simp at present
    · unfold fallbackKind? at present
      split at present
      · contradiction
      · obtain ⟨_, _, known⟩ := Option.bind_eq_some_iff.mp present
        contradiction
  due := by simp
  spelled := nofun

namespace Rooted

variable (rooted : profile.Rooted)

include rooted

theorem operators : profile.operators.Tree :=
  rooted.trees (show profile.trieOf? .operator = some _ from rfl)

theorem operatorKind?_eq (sequence : String) :
    profile.operatorKind? sequence = profile.operators.kindOf? sequence.toList :=
  rooted.operators.lookup?_eq _

/-- Whatever has a fallback kind is a marker of line comments. -/
theorem operatorKind?_of_fallback {node : NodeId}
    (walked : profile.operators.find? sequence.toList = some node)
    (known : profile.fallbackAt? node = some kind) :
    profile.operatorKind? sequence = some .lineComment := by
  obtain ⟨marker, walkedToo, comment⟩ := rooted.markers known
  rw [rooted.operatorKind?_eq, rooted.operators.find?_injective walked walkedToo, comment]

theorem fallback_iff : profile.fallbackKind? sequence = some kind ↔ ∃ node,
    profile.operators.find? sequence.toList = some node ∧
      profile.fallbackAt? node = some kind := by
  unfold fallbackKind?
  split
  case isTrue empty =>
    refine ⟨nofun, fun ⟨node, walked, known⟩ => ?_⟩
    have comment := rooted.operatorKind?_of_fallback walked known
    rw [rooted.operatorKind?_eq, show sequence.toList = [] by simpa using empty,
      rooted.operators.kindOf?_nil] at comment
    contradiction
  case isFalse => exact Option.bind_eq_some_iff

theorem registers_fallback (known : profile.fallbackKind? sequence = some kind) :
    profile.IsRegistered sequence kind := by
  obtain ⟨node, walked, fallback⟩ := rooted.fallback_iff.mp known
  exact Or.inr ⟨rooted.operatorKind?_of_fallback walked fallback, known⟩

theorem registers_iff : profile.IsRegistered sequence kind ↔
    (∃ trie, profile.trieOf? kind.category = some trie ∧
        trie.kindOf? sequence.toList = some kind) ∨
      profile.fallbackKind? sequence = some kind := by
  refine ⟨Or.imp_right And.right, fun registered => ?_⟩
  exact registered.elim Or.inl rooted.registers_fallback

end Rooted

/-! ## Insertions -/

/-- One sequence was inserted for a kind in the trie of a category, or was refused there. -/
structure Inserts (before after : Profile ρ) (category : Kind.Category) (sequence : String)
    (kind : Kind) : Prop where
  outcome : ∃ trie grown, before.trieOf? category = some trie ∧
    after.trieOf? category = some grown ∧ Outcome trie sequence.toList kind grown
  others : ∀ other, other ≠ category → after.trieOf? other = before.trieOf? other
  spellings : after.spellings = before.spellings
  fallbacks : after.fallbacks = before.fallbacks

namespace Inserts

variable (inserts : before.Inserts after category sequence kind)

include inserts

/-- All that was found is found again. -/
theorem old {other : Kind.Category} (held : before.trieOf? other = some trie) :
    ∃ grown, after.trieOf? other = some grown ∧
      (∀ {path node}, trie.find? path = some node → grown.find? path = some node) ∧
      ∀ {path found}, trie.kindOf? path = some found → grown.kindOf? path = some found := by
  by_cases here : other = category
  · obtain ⟨same, grown, heldSame, heldToo, outcome⟩ := inserts.outcome
    subst here
    obtain rfl := Option.some.inj (held.symm.trans heldSame)
    exact ⟨grown, heldToo, outcome.find?_old, outcome.kindOf?_old⟩
  · exact ⟨trie, (inserts.others other here).trans held, id, id⟩

/-- All kinds that are found were found before, but for the new one. -/
theorem kinds {other : Kind.Category} (held : after.trieOf? other = some grown) :
    ∃ trie, before.trieOf? other = some trie ∧ (trie.Tree → grown.Tree) ∧
      ∀ {path found}, grown.kindOf? path = some found → trie.kindOf? path = some found ∨
        other = category ∧ path = sequence.toList ∧ found = kind := by
  by_cases here : other = category
  · obtain ⟨trie, same, heldToo, heldSame, outcome⟩ := inserts.outcome
    subst here
    obtain rfl := Option.some.inj (held.symm.trans heldSame)
    refine ⟨trie, heldToo, fun _ => outcome.tree, fun present => ?_⟩
    exact (outcome.kindOf?_cases present).imp id fun new => ⟨rfl, new⟩
  · exact ⟨grown, (inserts.others other here).symm.trans held, id, Or.inl⟩

theorem operators_old {path : List Char} {node : NodeId}
    (walked : before.operators.find? path = some node) :
    after.operators.find? path = some node := by
  obtain ⟨grown, held, walks, _⟩ :=
    inserts.old (show before.trieOf? .operator = some _ from rfl)
  obtain rfl : after.operators = grown := Option.some.inj held
  exact walks walked

theorem describe?_eq (kind : Kind) : after.describe? kind = before.describe? kind := by
  rw [describe?, inserts.spellings, describe?]

theorem fallbackAt?_eq (node : NodeId) : after.fallbackAt? node = before.fallbackAt? node := by
  rw [fallbackAt?, inserts.fallbacks, fallbackAt?]

theorem named_iff {other : String} :
    after.Named strict other found ↔ before.Named strict other found := by
  rw [Named, Named, inserts.describe?_eq]

theorem rooted (rooted : before.Rooted) : after.Rooted where
  trees held := by
    obtain ⟨trie, heldToo, tree, _⟩ := inserts.kinds held
    exact tree (rooted.trees heldToo)
  markers known := by
    obtain ⟨marker, walked, comment⟩ := rooted.markers (inserts.fallbackAt?_eq _ ▸ known)
    obtain ⟨grown, held, _, kinds⟩ :=
      inserts.old (show before.trieOf? .operator = some _ from rfl)
    obtain rfl : after.operators = grown := Option.some.inj held
    exact ⟨marker, inserts.operators_old walked, kinds comment⟩

theorem fallbackKind?_iff (rooted : before.Rooted) {other : String} :
    after.fallbackKind? other = some found ↔ before.fallbackKind? other = some found := by
  have later := inserts.rooted rooted
  rw [later.fallback_iff, rooted.fallback_iff]
  simp only [inserts.fallbackAt?_eq]
  refine ⟨fun ⟨node, walked, known⟩ => ?_, fun ⟨node, walked, known⟩ =>
    ⟨node, inserts.operators_old walked, known⟩⟩
  -- The node had a sequence before, and there is only one.
  obtain ⟨marker, earlier, _⟩ := rooted.markers known
  rw [later.operators.find?_injective walked (inserts.operators_old earlier)]
  exact ⟨node, earlier, known⟩

theorem registers_old (rooted : before.Rooted) {other : String}
    (registered : before.IsRegistered other found) : after.IsRegistered other found := by
  rw [rooted.registers_iff] at registered
  rw [(inserts.rooted rooted).registers_iff, inserts.fallbackKind?_iff rooted]
  refine registered.imp_left fun ⟨trie, held, present⟩ => ?_
  obtain ⟨grown, heldToo, _, kinds⟩ := inserts.old held
  exact ⟨grown, heldToo, kinds present⟩

theorem registers_cases (rooted : before.Rooted) {other : String}
    (registered : after.IsRegistered other found) : before.IsRegistered other found ∨
      found.category = category ∧ other = sequence ∧ found = kind := by
  rw [(inserts.rooted rooted).registers_iff, inserts.fallbackKind?_iff rooted] at registered
  rw [rooted.registers_iff]
  rcases registered with ⟨grown, held, present⟩ | fallback
  · obtain ⟨trie, heldToo, _, kinds⟩ := inserts.kinds held
    refine (kinds present).imp (fun old => Or.inl ⟨trie, heldToo, old⟩) ?_
    exact fun ⟨here, same, kind⟩ => ⟨here, String.toList_inj.mp same, kind⟩
  · exact Or.inl (Or.inr fallback)

/-- Only kinds that have a name already may be inserted. -/
theorem spells (given : before.Spells owed strict)
    (named : kind.category = category → before.Named strict sequence kind) :
    after.Spells owed strict where
  toRooted := inserts.rooted given.toRooted
  named registered := by
    rw [inserts.named_iff]
    rcases inserts.registers_cases given.toRooted registered with old | ⟨here, rfl, rfl⟩
    · exact given.named old
    · exact named here
  due listed := inserts.named_iff.mpr (given.due listed)
  spelled described := by
    rw [inserts.describe?_eq] at described
    exact (given.spelled described).imp_left (inserts.registers_old given.toRooted)

end Inserts

/-- A sequence that is registered is no longer owed. -/
theorem Spells.settle {front back : List (String × Kind)}
    (given : profile.Spells (front ++ (sequence, kind) :: back) strict)
    (registered : profile.IsRegistered sequence kind) : profile.Spells (front ++ back) strict where
  toRooted := given.toRooted
  named := given.named
  due listed := given.due (by
    rcases List.mem_append.mp listed with early | late
    · exact List.mem_append_left _ early
    · exact List.mem_append_right _ (List.mem_cons_of_mem _ late))
  spelled described := by
    refine (given.spelled described).elim Or.inl fun listed => ?_
    simp only [List.mem_append, List.mem_cons, Prod.mk.injEq] at listed ⊢
    rcases listed with early | ⟨rfl, rfl⟩ | late
    · exact Or.inr (Or.inl early)
    · exact Or.inl registered
    · exact Or.inr (Or.inr late)

def withTrie (profile : Profile ρ) (category : Kind.Category) (trie : Trie) : Profile ρ :=
  match category with
  | .bracket => { profile with brackets := trie }
  | .number => { profile with numberPrefixes := trie }
  | .operator => { profile with operators := trie }
  | .literal => { profile with literals := trie }
  | .control | .atomic | .keyword | .reserved => profile

theorem trieOf?_withTrie (held : profile.trieOf? category = some trie) (grown : Trie) :
    (profile.withTrie category grown).trieOf? category = some grown := by
  cases category with
  | bracket | number | operator | literal => rfl
  | control | atomic | keyword | reserved => contradiction

theorem trieOf?_withTrie_ne {other : Kind.Category} (different : other ≠ category)
    (profile : Profile ρ) (grown : Trie) :
    (profile.withTrie category grown).trieOf? other = profile.trieOf? other := by
  cases category with
  | bracket =>
      cases other with
      | bracket => exact absurd rfl different
      | _ => rfl
  | number =>
      cases other with
      | number => exact absurd rfl different
      | _ => rfl
  | operator =>
      cases other with
      | operator => exact absurd rfl different
      | _ => rfl
  | literal =>
      cases other with
      | literal => exact absurd rfl different
      | _ => rfl
  | control | atomic | keyword | reserved => rfl

theorem inserts_withTrie (rooted : profile.Rooted) (held : profile.trieOf? category = some trie)
    (sequence : String) (kind : Kind) (binding : Option Nat) :
    profile.Inserts (profile.withTrie category (trie.insert sequence kind binding).2) category
      sequence kind where
  outcome := ⟨trie, _, held, trieOf?_withTrie held _,
    (rooted.trees held).outcome sequence kind binding⟩
  others _ different := trieOf?_withTrie_ne different profile _
  spellings := by cases category <;> rfl
  fallbacks := by cases category <;> rfl

/-- An accepted insertion registers its sequence. -/
theorem isRegistered_withTrie {binding : Option Nat} {node : NodeId} (rooted : profile.Rooted)
    (held : profile.trieOf? kind.category = some trie)
    (accepted : (trie.insert sequence kind binding).1 = .ok node) :
    (profile.withTrie kind.category (trie.insert sequence kind binding).2).IsRegistered sequence
      kind := by
  have inserted := (rooted.trees held).insert_accepted accepted
  exact Or.inl ⟨_, trieOf?_withTrie held _, by rw [inserted.kindOf?_eq, if_pos rfl]⟩

/-! ## Names -/

/-- A kind without a name gets one. -/
theorem Spells.spell (given : profile.Spells owed strict)
    (unknown : profile.describe? kind = none) (sequence : String) :
    Spells ((sequence, kind) :: owed) strict
      { profile with spellings := (kind, sequence) :: profile.spellings } := by
  have described : ∀ other, describe? { profile with
      spellings := (kind, sequence) :: profile.spellings } other =
        if other = kind then some sequence else profile.describe? other := by
    intro other
    rw [describe?, List.lookup_cons]
    by_cases same : other = kind
    · simp [same]
    · simp [same, beq_false_of_ne same, describe?]
  have kept : ∀ {other found}, profile.Named strict other found →
      Named { profile with spellings := (kind, sequence) :: profile.spellings } strict other
        found := by
    rintro other found ⟨spelling, known, same⟩
    refine ⟨spelling, ?_, same⟩
    rw [described, if_neg, known]
    rintro rfl
    rw [unknown] at known
    contradiction
  refine ⟨⟨given.trees, given.markers⟩, fun registered => kept (given.named registered),
    fun listed => ?_, fun {other found} known => ?_⟩
  · rcases List.mem_cons.mp listed with new | old
    · obtain ⟨rfl, rfl⟩ := Prod.mk.inj new
      exact ⟨_, (described _).trans (if_pos rfl), fun _ => rfl⟩
    · exact kept (given.due old)
  · rw [described] at known
    split at known
    · obtain rfl := Option.some.inj known
      subst other
      exact Or.inr List.mem_cons_self
    · exact (given.spelled known).imp_right (List.mem_cons_of_mem _)

/-- A kind that has a name already is used again. -/
theorem Spells.reuse (given : profile.Spells owed strict)
    (named : profile.Named strict sequence kind) :
    profile.Spells ((sequence, kind) :: owed) strict where
  toRooted := given.toRooted
  named := given.named
  due listed := by
    rcases List.mem_cons.mp listed with new | old
    · obtain ⟨rfl, rfl⟩ := Prod.mk.inj new
      exact named
    · exact given.due old
  spelled described := (given.spelled described).imp_right (List.mem_cons_of_mem _)

/-- A marker of line comments gets a fallback kind. -/
theorem Spells.fallback {node : NodeId} (given : profile.Spells ((sequence, kind) :: owed) strict)
    (walked : profile.operators.find? sequence.toList = some node)
    (comment : profile.operators.kindOf? sequence.toList = some .lineComment)
    (free : profile.fallbackAt? node = none) :
    Spells owed strict { profile with fallbacks := profile.fallbacks ++ [(node, kind)] } := by
  have known : ∀ other found, fallbackAt? { profile with
      fallbacks := profile.fallbacks ++ [(node, kind)] } other = some found ↔
        profile.fallbackAt? other = some found ∨ other = node ∧ found = kind := by
    intro other found
    rw [fallbackAt?, List.lookup_append, ← fallbackAt?, List.lookup_cons, List.lookup_nil]
    by_cases same : other = node
    · subst same
      simp [free, eq_comm]
    · simp [same, beq_false_of_ne same]
  have rooted : Rooted { profile with fallbacks := profile.fallbacks ++ [(node, kind)] } := by
    refine ⟨given.trees, fun {other found} fallback => ?_⟩
    rcases (known other found).mp fallback with old | ⟨rfl, rfl⟩
    · exact given.markers old
    · exact ⟨_, walked, comment⟩
  have registers : ∀ {other found}, IsRegistered { profile with
      fallbacks := profile.fallbacks ++ [(node, kind)] } other found ↔
        profile.IsRegistered other found ∨ other = sequence ∧ found = kind := by
    intro other found
    rw [rooted.registers_iff, given.registers_iff, or_assoc]
    refine or_congr_right ?_
    rw [rooted.fallback_iff, given.fallback_iff]
    constructor
    · rintro ⟨reached, found, fallback⟩
      rcases (known _ _).mp fallback with old | ⟨rfl, rfl⟩
      · exact Or.inl ⟨reached, found, old⟩
      · exact Or.inr ⟨String.toList_inj.mp (given.operators.find?_injective found walked), rfl⟩
    · rintro (⟨reached, found, old⟩ | ⟨rfl, rfl⟩)
      · exact ⟨reached, found, (known _ _).mpr (Or.inl old)⟩
      · exact ⟨node, walked, (known _ _).mpr (Or.inr ⟨rfl, rfl⟩)⟩
  have spells : Spells ([] ++ (sequence, kind) :: owed) strict
      { profile with fallbacks := profile.fallbacks ++ [(node, kind)] } := {
    toRooted := rooted
    named := fun registered => by
      rcases registers.mp registered with old | ⟨rfl, rfl⟩
      · exact given.named old
      · exact given.due List.mem_cons_self
    due := given.due
    spelled := fun described =>
      (given.spelled described).imp_left fun old => registers.mpr (Or.inl old) }
  exact spells.settle (registers.mpr (Or.inr ⟨rfl, rfl⟩))

end Profile

end Lexing
