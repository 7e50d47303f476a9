import Lexing.Proofs.Delegation
import Lexing.Proofs.Interiors
import Lexing.Proofs.Points

/-!
# Line continuations inside of tokens

Inside of an identifier, an operator or a line comment, line continuations in front of a
symbol are absorbed and leave no trace in the state.  In two other modes such a token may
have begun without the machine knowing it yet: a point waits for a digit, and a few
letters may introduce a literal.  A line continuation makes the machine look at these
symbols again.
-/

namespace Lexing

inductive LineEnd where
  | feed
  | carriage
  | both
deriving Repr, DecidableEq

def LineEnd.splice : LineEnd → List Char
  | .feed => ['\\', '\n']
  | .carriage => ['\\', '\r']
  | .both => ['\\', '\r', '\n']

namespace Scan

variable {ρ : Type} [Literal.Reader ρ] {profile : Profile ρ} {closing : Option Nat}
  {state : ScanState ρ}

/-! ## Absorbed line continuations -/

/-- The profile continues lines after a backslash. -/
def JoinsLines (profile : Profile ρ) : Prop :=
  profile.options.honorLineContinuation = true ∧ (profile.classes.classify '\\').escape = true

theorem react_backslash (joins : JoinsLines profile) (own : state.ownClasses = none)
    {resume : Resume} (busy : resume ≠ .idle) (mode : state.mode = resume.mode) (offset : Nat) :
    react profile state (.plain ⟨'\\', offset⟩) =
      state.become (.continuation resume ⟨'\\', offset⟩ none) := by
  have begins : beginsContinuation profile state (.plain ⟨'\\', offset⟩) = true := by
    simp [beginsContinuation, ScanState.classify, own, Fed.plain, joins.1, joins.2]
  unfold react
  rw [mode]
  cases resume with
  | idle => contradiction
  | _ => exact if_pos begins

omit [Literal.Reader ρ] in
theorem joinLines_become {resume : Resume} (busy : resume ≠ .idle)
    (mode : state.mode = resume.mode) (waiting : Mode) (escape : Located) (stop : Nat) :
    joinLines (state.become waiting).state resume escape stop = { state } := by
  obtain ⟨_, start, fresh, readers, classes⟩ := state
  obtain rfl : _ = resume.mode := mode
  cases resume with
  | idle => contradiction
  | _ => rfl

section Splices

variable {resume : Resume} {ends : List LineEnd} {symbols : List Located} {fed : Fed}

omit [Literal.Reader ρ] in
/-- What stands behind a line continuation is not a line feed. -/
theorem behind_splice (spelled : symbols.map Located.symbol = ends.flatMap LineEnd.splice)
    (inner : fed.symbol ≠ '\n') (rest : List Fed) :
    ∃ first others, symbols.map Fed.plain ++ fed :: rest = first :: others ∧
      first.symbol ≠ '\n' := by
  cases symbols with
  | nil => exact ⟨fed, rest, rfl, inner⟩
  | cons located more =>
      refine ⟨.plain located, more.map Fed.plain ++ fed :: rest, rfl, ?_⟩
      cases ends with
      | nil => simp at spelled
      | cons lineEnd ends =>
          have first : located.symbol = '\\' := by
            cases lineEnd <;> exact (List.cons_eq_cons.mp spelled).1
          show located.symbol ≠ '\n'
          rw [first]
          decide

variable (joins : JoinsLines profile) (own : state.ownClasses = none) (busy : resume ≠ .idle)
  (mode : state.mode = resume.mode)

include joins own busy mode

theorem feed_absorbed (escape feed : Nat) (rest : List Fed) :
    Leads profile closing ⟨state, .plain ⟨'\\', escape⟩ :: .plain ⟨'\n', feed⟩ :: rest⟩ []
      ⟨state, rest⟩ := by
  have early := Leads.react profile closing state (.plain ⟨'\\', escape⟩)
    (.plain ⟨'\n', feed⟩ :: rest)
  rw [react_backslash joins own busy mode] at early
  have late := Leads.react profile closing
    (state.become (.continuation resume ⟨'\\', escape⟩ none)).state (.plain ⟨'\n', feed⟩) rest
  have joined : react profile (state.become (.continuation resume ⟨'\\', escape⟩ none)).state
      (.plain ⟨'\n', feed⟩) = { state } := joinLines_become busy mode _ _ _
  rw [joined] at late
  exact early.trans late

theorem carriage_waits (escape carriage : Nat) (rest : List Fed) :
    Leads profile closing ⟨state, .plain ⟨'\\', escape⟩ :: .plain ⟨'\r', carriage⟩ :: rest⟩ []
      ⟨(state.become (.continuation resume ⟨'\\', escape⟩ (some carriage))).state, rest⟩ := by
  have early := Leads.react profile closing state (.plain ⟨'\\', escape⟩)
    (.plain ⟨'\r', carriage⟩ :: rest)
  rw [react_backslash joins own busy mode] at early
  exact early.trans (Leads.react profile closing
    (state.become (.continuation resume ⟨'\\', escape⟩ none)).state (.plain ⟨'\r', carriage⟩) rest)

theorem both_absorbed (escape carriage feed : Nat) (rest : List Fed) :
    Leads profile closing
      ⟨state, .plain ⟨'\\', escape⟩ :: .plain ⟨'\r', carriage⟩ :: .plain ⟨'\n', feed⟩ :: rest⟩ []
      ⟨state, rest⟩ := by
  have late := Leads.react profile closing
    (state.become (.continuation resume ⟨'\\', escape⟩ (some carriage))).state
    (.plain ⟨'\n', feed⟩) rest
  have joined : react profile
      (state.become (.continuation resume ⟨'\\', escape⟩ (some carriage))).state
      (.plain ⟨'\n', feed⟩) = { state } := joinLines_become busy mode _ _ _
  rw [joined] at late
  exact (carriage_waits joins own busy mode escape carriage _).trans late

theorem carriage_absorbed (escape carriage : Nat) {next : Fed} (other : next.symbol ≠ '\n')
    (rest : List Fed) :
    Leads profile closing
      ⟨state, .plain ⟨'\\', escape⟩ :: .plain ⟨'\r', carriage⟩ :: next :: rest⟩ []
      ⟨state, next :: rest⟩ := by
  have late := Leads.react profile closing
    (state.become (.continuation resume ⟨'\\', escape⟩ (some carriage))).state next rest
  have joined : react profile
      (state.become (.continuation resume ⟨'\\', escape⟩ (some carriage))).state next =
      ({ state } : Reaction ρ).feed [next] := by
    have same := joinLines_become busy mode
      (.continuation resume ⟨'\\', escape⟩ (some carriage)) ⟨'\\', escape⟩ (symbolEnd '\r' carriage)
    rw [← same]
    exact if_neg other
  rw [joined] at late
  exact (carriage_waits joins own busy mode escape carriage _).trans late

/-- Line continuations in front of a symbol are absorbed.  The symbol is not a line feed,
because this would belong to a carriage return before it. -/
theorem splices_absorbed (spelled : symbols.map Located.symbol = ends.flatMap LineEnd.splice)
    (inner : fed.symbol ≠ '\n') (rest : List Fed) :
    Leads profile closing ⟨state, symbols.map .plain ++ fed :: rest⟩ [] ⟨state, fed :: rest⟩ := by
  induction ends generalizing symbols with
  | nil =>
      obtain rfl : symbols = [] := by simpa using spelled
      exact .here _
  | cons lineEnd ends ih =>
      rw [List.flatMap_cons] at spelled
      cases lineEnd with
      | feed =>
          obtain ⟨⟨_, escape⟩, _, rfl, rfl, second⟩ := List.map_eq_cons_iff.mp spelled
          obtain ⟨⟨_, feed⟩, more, rfl, rfl, others⟩ := List.map_eq_cons_iff.mp second
          exact (feed_absorbed joins own busy mode escape feed _).trans (ih others)
      | both =>
          obtain ⟨⟨_, escape⟩, _, rfl, rfl, second⟩ := List.map_eq_cons_iff.mp spelled
          obtain ⟨⟨_, carriage⟩, _, rfl, rfl, third⟩ := List.map_eq_cons_iff.mp second
          obtain ⟨⟨_, feed⟩, more, rfl, rfl, others⟩ := List.map_eq_cons_iff.mp third
          exact (both_absorbed joins own busy mode escape carriage feed _).trans (ih others)
      | carriage =>
          obtain ⟨⟨_, escape⟩, _, rfl, rfl, second⟩ := List.map_eq_cons_iff.mp spelled
          obtain ⟨⟨_, carriage⟩, more, rfl, rfl, others⟩ := List.map_eq_cons_iff.mp second
          obtain ⟨next, behind, same, other⟩ := behind_splice others inner rest
          have leads := ih others
          rw [same] at leads
          simp only [List.map_cons, List.cons_append, same]
          exact (carriage_absorbed joins own busy mode escape carriage other behind).trans leads

end Splices

/-! ## Symbols that are exempt from rules -/

/-- Only a point is exempt from starting a number, and only an escape symbol from continuing
the line. -/
def Excused (profile : Profile ρ) (fed : Fed) : Prop :=
  (fed.exempt.dotNumber = true → fed.symbol = '.') ∧
    (fed.exempt.continuation = true → (profile.classes.classify fed.symbol).escape = true)

/-- A property that all symbols have that the machine can give back in a state, apart from the
one that it was fed. -/
structure Grants (state : ScanState ρ) (property : Fed → Prop) : Prop where
  plain : ∀ located, property (.plain located)
  point : ∀ dot, property (.exemptPoint dot)
  escape : ∀ {resume escape carriage}, state.mode = .continuation resume escape carriage →
    property { toLocated := escape, exempt := { continuation := true } }
  first : ∀ {walk first rest}, state.mode = .literalPrefix walk → walk.terminal = none →
    walk.pending = first :: rest → property { toLocated := first, exempt := { literal := true } }

/-- The symbols that a reaction gives back have a property. -/
def Gives (property : Fed → Prop) (reaction : Reaction ρ) : Prop :=
  ∀ again ∈ reaction.next, property again

section Gives

variable {property : Fed → Prop} {reaction : Reaction ρ} {fed : Fed}

omit [Literal.Reader ρ] in
theorem Gives.of_nil (nothing : reaction.next = []) : Gives property reaction := by
  simp [Gives, nothing]

omit [Literal.Reader ρ] in
theorem Gives.feed (gives : Gives property reaction) {symbols : List Fed}
    (others : ∀ again ∈ symbols, property again) : Gives property (reaction.feed symbols) := by
  intro again member
  rcases List.mem_append.mp member with early | late
  · exact gives again early
  · exact others again late

variable (grants : Grants state property)

include grants

omit [Literal.Reader ρ] in
theorem Grants.map_plain (symbols : List Located) :
    ∀ again ∈ symbols.map Fed.plain, property again := by
  intro again member
  obtain ⟨located, _, rfl⟩ := List.mem_map.mp member
  exact grants.plain located

omit [Literal.Reader ρ] in
theorem stuckOperator_gives (walk : Walk) (stop : Nat) :
    Gives property (stuckOperator profile state walk stop) := by
  have stuck := stuckOperator_stuck profile state walk stop
  generalize stuckOperator profile state walk stop = reaction at stuck ⊢
  cases stuck with
  | passed =>
      unfold Gives
      rw [finishOperator_next]
      exact grants.map_plain _
  | rejected => exact Gives.feed (.of_nil rfl) (grants.map_plain _)
  | empty => exact .of_nil rfl

theorem stuckLiteral_gives {walk : Walk} (mode : state.mode = .literalPrefix walk) :
    Gives property (stuckLiteral profile state walk) := by
  unfold stuckLiteral
  cases terminal : walk.terminal with
  | none =>
      refine Gives.feed (.of_nil rfl) ?_
      cases pending : walk.pending with
      | nil => simp [Fed.firstExempt]
      | cons first rest =>
          exact List.forall_mem_cons.mpr ⟨grants.first mode terminal pending, grants.map_plain rest⟩
  | some passed => exact Gives.feed (.of_nil (by simp)) (grants.map_plain _)

omit [Literal.Reader ρ] in
theorem releaseDot_gives (value : Numeral) (dot : Nat) (hasInteger : Bool) :
    Gives property (releaseDot state value dot hasInteger) := by
  unfold Gives
  rw [releaseDot_next]
  simpa using grants.point dot

omit [Literal.Reader ρ] in
theorem abandonContinuation_gives {resume : Resume} {escape : Located} {carriage : Option Nat}
    (mode : state.mode = .continuation resume escape carriage) :
    Gives property (abandonContinuation state resume escape) := by
  intro again member
  obtain rfl := List.mem_singleton.mp member
  exact grants.escape mode

theorem readLiteral_gives (number : Nat) (kind : Kind) :
    Gives property (readLiteral profile state number kind fed) := by
  have given := grants.map_plain [fed.toLocated]
  have continued := readLiteral_continued profile state number kind fed
  generalize readLiteral profile state number kind fed = reaction at continued ⊢
  cases continued with
  | unread | failsBefore => exact Gives.feed (.of_nil rfl) given
  | proceeds | proceedsWith | stops | stopsWith | fails => exact .of_nil rfl

/-- The symbols that an answer gives back have the property, if the one that it answers to
has. -/
theorem Answered.gives {stop : Nat} {next : Option Fed}
    (answered : Answered profile stop state next reaction) (holds : ∀ fed ∈ next, property fed) :
    Gives property reaction := by
  have again : ∀ fed ∈ next.toList, property fed := by simpa using holds
  cases answered with
  | between | extendsOperator | extendsIntroduction | closesLiteral | joins =>
      exact .of_nil (by simp)
  | takes | linefeed | closesBlock | unclosed => exact .of_nil rfl
  | completes => exact Gives.feed (.of_nil rfl) again
  | resolves =>
      unfold Gives
      simpa using again
  | releases => exact (releaseDot_gives grants _ _ _).feed again
  | endsOperator => exact (stuckOperator_gives grants _ _).feed again
  | endsIntroduction mode => exact (stuckLiteral_gives grants mode).feed again
  | reads => exact readLiteral_gives grants _ _
  | joinsBefore => exact Gives.feed (.of_nil (by simp)) again
  | abandons mode => exact (abandonContinuation_gives grants mode).feed again

/-- What all symbols of the queue are like they stay like. -/
theorem next_gives {closing : Option Nat} {queue rest : List Fed}
    (holds : ∀ fed ∈ queue, property fed)
    (next : nextReaction? profile closing state queue = some (reaction, rest)) :
    ∀ fed ∈ reaction.next ++ rest, property fed := by
  obtain ⟨symbol, rfl, _, answered⟩ := answered_next next
  obtain ⟨first, others⟩ := List.forall_mem_append.mp holds
  exact List.forall_mem_append.mpr ⟨answered.gives grants (by simpa using first), others⟩

end Gives

omit [Literal.Reader ρ] in
theorem grants_excused (sane : Sane profile state) : Grants state (Excused profile) where
  plain _ := ⟨by simp [Fed.plain], by simp [Fed.plain]⟩
  point _ := ⟨fun _ => rfl, by simp [Fed.exemptPoint]⟩
  escape mode := ⟨by simp, fun _ => (sane.waits _ _ _ mode).2⟩
  first _ _ _ := ⟨by simp, by simp⟩

/-- What is known about the symbols that are to be fed. -/
structure Config.Orderly (profile : Profile ρ) (config : Config ρ) : Prop where
  sane : Sane profile config.state
  free : config.Free
  excused : ∀ fed ∈ config.queue, Excused profile fed

theorem keeps_orderly (sound : profile.Sound) (stop : Nat) :
    Keeps profile (some stop) (Config.Orderly profile) := by
  rintro ⟨state, queue⟩ reaction rest orderly next
  obtain ⟨tidy, plain⟩ := next_tidy orderly.free next
  exact ⟨keeps_sane sound _ _ _ _ orderly.sane next, tidy.free plain,
    next_gives (grants_excused orderly.sane) orderly.excused next⟩

/-- Inside of tokens, only points and escape symbols are exempt from a rule. -/
theorem Reaches.plain (sound : profile.Sound) {source : String} {past : List Report}
    {config : Config ρ} (reaches : Reaches profile source past config)
    (busy : config.state.mode ≠ .idle) :
    ∀ fed ∈ config.queue, fed.symbol ≠ '.' →
      (profile.classes.classify fed.symbol).escape = false → fed = .plain fed.toLocated := by
  have sane : Sane profile (opening source : Config ρ).state :=
    ⟨ScanState.valid_idle rfl, rfl, by simp [opening]⟩
  have start : Config.Orderly profile (opening source : Config ρ) := by
    refine ⟨sane, ⟨fun fed member => ?_, ?_⟩, (grants_excused sane).map_plain _⟩
    · exact free_map_plain _ fed (List.mem_of_mem_tail member)
    · exact fun busy => absurd rfl busy
  have orderly := Leads.keeps reaches (keeps_orderly sound _) start
  intro fed member other inert
  have free := orderly.free.front busy fed member
  have excused := orderly.excused fed member
  obtain ⟨located, literal, dotNumber, continuation⟩ := fed
  obtain rfl : literal = false := free
  obtain rfl : dotNumber = false := Bool.eq_false_iff.mpr fun set => other (excused.1 set)
  obtain rfl : continuation = false :=
    Bool.eq_false_iff.mpr fun set => Bool.false_ne_true (inert.symm.trans (excused.2 set))
  rfl

/-! ## Letters that may introduce a literal -/

/-- Introductions of literals that can be longer begin with a letter, and an introduction
that is complete cannot be longer. -/
structure Lettered (profile : Profile ρ) : Prop where
  sound : profile.Sound
  edges : ∀ {parent symbol child}, profile.literals.advance parent symbol = some child →
    profile.literals.kind? parent = none ∧ symbol ≠ '.' ∧
      (profile.classes.classify symbol).escape = false
  letters : ∀ {symbol child}, profile.literals.advance Trie.root symbol = some child →
    profile.literals.kind? child = none → profile.classes.classify symbol =
      { identifierFirst := true, identifier := true, literalFirst := true }

def identifying (state : ScanState ρ) (offset : Nat) : ScanState ρ :=
  { state with mode := .identifier, tokenStart := offset }

theorem dispatch_letter {fed : Fed} (own : state.ownClasses = none)
    (traits : profile.classes.classify fed.symbol =
      { identifierFirst := true, identifier := true, literalFirst := true })
    (other : fed.symbol ≠ '.') (exempt : fed.exempt.literal = true) :
    dispatch profile state fed = { state := identifying state fed.offset } := by
  have seen : (starting state fed).classify profile fed.symbol =
      { identifierFirst := true, identifier := true, literalFirst := true } := by
    simp [ScanState.classify, starting, own, traits]
  unfold dispatch
  rw [← starting]
  simp [continuationRule, beginsContinuation, lineEndRule, blankRule, literalRule, dotRule,
    digitRule, identifierRule, seen, other, exempt]
  rfl

/-- Letters that introduce no literal are looked at again and begin an identifier. -/
theorem letters_released (closing : Option Nat) (own : state.ownClasses = none) {first : Located}
    (traits : profile.classes.classify first.symbol =
      { identifierFirst := true, identifier := true, literalFirst := true })
    (other : first.symbol ≠ '.') (others : List Located) (queue : List Fed) :
    Leads profile closing
      ⟨(state.become .idle).state,
        Fed.firstExempt { literal := true } (first :: others) ++ queue⟩ []
      ⟨identifying state first.offset, others.map .plain ++ queue⟩ := by
  have leads := Leads.react profile closing (state.become .idle).state
    { toLocated := first, exempt := { literal := true } } (others.map .plain ++ queue)
  have identified : react profile (state.become .idle).state
      { toLocated := first, exempt := { literal := true } } =
      { state := identifying state first.offset } := dispatch_letter own traits other rfl
  rw [identified] at leads
  exact leads

namespace Lettered

variable {walk : Walk} {first : Located} {others : List Located}

omit [Literal.Reader ρ] in
theorem first_letter (lettered : Lettered profile) (traces : walk.Traces profile.literals)
    (incomplete : walk.terminal = none) (pending : walk.pending = first :: others) :
    profile.classes.classify first.symbol =
        { identifierFirst := true, identifier := true, literalFirst := true } ∧
      first.symbol ≠ '.' := by
  obtain ⟨child, edge, bare⟩ := traces.first_bare incomplete pending
  exact ⟨lettered.letters edge bare, (lettered.edges edge).2.1⟩

omit [Literal.Reader ρ] in
theorem terminal_whole (lettered : Lettered profile) (traces : walk.Traces profile.literals)
    {node : NodeId} {count : Nat} (terminal : walk.terminal = some (node, count)) :
    count = walk.pending.length ∧ node = walk.node := by
  have deepest := traces.deepest
  have reaches := traces.reaches
  rw [terminal] at deepest
  obtain ⟨_, below, walked, _, ended, _⟩ := deepest
  by_cases whole : count = (walk.pending.map Located.symbol).length
  · rw [whole, List.take_length, reaches] at walked
    exact ⟨by simpa using whole, (Option.some.inj walked).symm⟩
  · have inside : count < (walk.pending.map Located.symbol).length := by omega
    rw [← List.take_append_drop count (walk.pending.map Located.symbol), Trie.find?,
      Trie.walkFrom_append, ← Trie.find?, walked, Option.bind_some,
      List.drop_eq_getElem_cons inside, Trie.walkFrom] at reaches
    cases edge : profile.literals.advance node
        ((walk.pending.map Located.symbol)[count]) with
    | some child =>
        rw [(lettered.edges edge).1] at ended
        simp at ended
    | none =>
        rw [edge] at reaches
        contradiction

/-- The machine opens a literal with symbols ahead that were ahead before. -/
def Opens (queue : List Fed) (config : Config ρ) : Prop :=
  (∃ number kind, config.state.mode = .literal number kind) ∧ config.queue ⊆ queue

theorem openLiteral_opens (lettered : Lettered profile) (state : ScanState ρ) {node : NodeId}
    (ended : (profile.literals.kind? node).isSome = true) (introduction : List Located)
    (queue : List Fed) :
    Opens queue ⟨(openLiteral profile state node introduction).state, queue⟩ ∧
      (openLiteral profile state node introduction).reports = [] ∧
      (openLiteral profile state node introduction).next = [] := by
  obtain ⟨number, kind, reader, _, _, _, opened⟩ :=
    openLiteral_eq lettered.sound state ended introduction
  rw [opened]
  exact ⟨⟨⟨number, kind, rfl⟩, List.Subset.refl _⟩, rfl, rfl⟩

omit [Literal.Reader ρ] in
/-- Nothing continues an introduction that is complete. -/
theorem leaf (lettered : Lettered profile) {node : NodeId}
    (ended : (profile.literals.kind? node).isSome = true) (symbol : Char) :
    profile.literals.advance node symbol = none := by
  refine Option.eq_none_iff_forall_ne_some.mpr fun child edge => ?_
  rw [(lettered.edges edge).1] at ended
  simp at ended

/-- The symbol that completes an introduction opens the literal. -/
theorem reachLiteral_complete (lettered : Lettered profile) {node : NodeId} {kind : Kind}
    (ended : profile.literals.kind? node = some kind) (pending : List Located)
    (terminal : Option (NodeId × Nat)) :
    reachLiteral profile state node pending terminal = openLiteral profile state node pending := by
  have last : profile.literals.hasChildren node = false := by
    rw [← Bool.not_eq_true, Trie.hasChildren_iff]
    rintro ⟨symbol, further, longer⟩
    simp [lettered.leaf (Option.isSome_of_eq_some ended)] at longer
  simp [reachLiteral, ended, last]

/-- The symbols of a complete introduction open a literal, whatever follows. -/
theorem complete_opens (lettered : Lettered profile) (stop : Nat)
    (mode : state.mode = .literalPrefix walk) (traces : walk.Traces profile.literals)
    (complete : walk.terminal ≠ none) (queue : List Fed) :
    ∃ config, Leads profile (some stop) ⟨state, queue⟩ [] config ∧ Opens queue config := by
  obtain ⟨⟨node, count⟩, terminal⟩ := Option.ne_none_iff_exists'.mp complete
  obtain ⟨rfl, rfl⟩ := lettered.terminal_whole traces terminal
  have ended := (traces.terminal_bound terminal).2.2
  have stuck : stuckLiteral profile state walk =
      openLiteral profile state walk.node walk.pending := by
    rw [stuckLiteral, terminal]
    dsimp only
    rw [List.take_length, List.drop_length]
    simp only [Reaction.feed, List.map_nil, List.append_nil]
  obtain ⟨opens, silent, nothing⟩ :=
    lettered.openLiteral_opens state ended walk.pending queue
  cases queue with
  | nil =>
      have flushed : flush? profile state stop = some (stuckLiteral profile state walk) := by
        simp [flush?, mode]
      have leads := Leads.flush flushed
      rw [stuck, silent, nothing] at leads
      exact ⟨_, leads, opens⟩
  | cons fed queue =>
      have reacts : react profile state fed = (stuckLiteral profile state walk).feed [fed] := by
        simp [react, mode, readLiteralPrefix, lettered.leaf ended]
      have leads := Leads.react profile (some stop) state fed queue
      rw [reacts, stuck, Reaction.feed, silent, nothing] at leads
      exact ⟨_, leads, opens⟩

/-- Letters that may introduce a literal do so, or they begin an identifier. -/
theorem resolves (lettered : Lettered profile) (stop : Nat) (own : state.ownClasses = none)
    (mode : state.mode = .literalPrefix walk) (traces : walk.Traces profile.literals)
    (incomplete : walk.terminal = none) (pending : walk.pending = first :: others)
    {queue : List Fed} (plain : ∀ fed ∈ queue, fed.symbol ≠ '.' →
      (profile.classes.classify fed.symbol).escape = false → fed = .plain fed.toLocated) :
    ∃ config, Leads profile (some stop) ⟨state, queue⟩ [] config ∧
      (config = ⟨identifying state first.offset, others.map .plain ++ queue⟩ ∨
        Opens queue config) := by
  obtain ⟨traits, other⟩ := lettered.first_letter traces incomplete pending
  have stuck : stuckLiteral profile state walk =
      (state.become .idle).feed (Fed.firstExempt { literal := true } (first :: others)) := by
    simp [stuckLiteral, incomplete, pending]
  induction queue generalizing state walk others with
  | nil =>
      have flushed : flush? profile state stop = some (stuckLiteral profile state walk) := by
        simp [flush?, mode]
      have leads := Leads.flush flushed
      have released := letters_released (some stop) own traits other others []
      rw [stuck] at leads
      rw [List.append_nil] at released
      exact ⟨_, leads.trans released, Or.inl rfl⟩
  | cons fed queue ih =>
      have leads := Leads.react profile (some stop) state fed queue
      cases edge : profile.literals.advance walk.node fed.symbol with
      | none =>
          have reacts : react profile state fed = (stuckLiteral profile state walk).feed [fed] := by
            simp [react, mode, readLiteralPrefix, edge]
          have released := letters_released (some stop) own traits other others (fed :: queue)
          rw [reacts, stuck] at leads
          simp only [Reaction.feed_next, List.append_assoc, List.singleton_append] at leads
          exact ⟨_, leads.trans released, Or.inl rfl⟩
      | some child =>
          have reacts : react profile state fed = reachLiteral profile state child
              (walk.pending ++ [fed.toLocated]) none := by
            simp [react, mode, readLiteralPrefix, edge, incomplete]
          rw [reacts] at leads
          cases kind : profile.literals.kind? child with
          | some found =>
              obtain ⟨opens, silent, nothing⟩ := lettered.openLiteral_opens state
                (Option.isSome_of_eq_some kind) (walk.pending ++ [fed.toLocated]) queue
              rw [lettered.reachLiteral_complete kind, silent, nothing] at leads
              exact ⟨_, leads, Or.inr ⟨opens.1, List.subset_cons_self _ _⟩⟩
          | none =>
              have longer := traces.snoc lettered.sound.literals edge
              have grown : walk.pending ++ [fed.toLocated] =
                  first :: (others ++ [fed.toLocated]) := by
                simp [pending]
              simp only [reachLiteral, kind] at leads
              rw [kind, incomplete] at longer
              obtain ⟨config, onward, resolved⟩ := ih
                (show (state.become (.literalPrefix
                  ⟨child, walk.pending ++ [fed.toLocated], none⟩)).state.ownClasses = none from own)
                rfl longer rfl grown (fun other member => plain other (by simp [member]))
                (by rw [stuckLiteral, grown])
              refine ⟨config, leads.trans onward, ?_⟩
              rcases resolved with rfl | opens
              · have same := plain fed (by simp) (lettered.edges edge).2.1 (lettered.edges edge).2.2
                left
                rw [List.map_append, List.append_assoc, List.map_singleton, ← same]
                rfl
              · exact Or.inr ⟨opens.1, List.Subset.trans opens.2 (List.subset_cons_self _ _)⟩

end Lettered

end Scan

end Lexing
