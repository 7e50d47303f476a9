import Lexing.Proofs.Interiors
import Lexing.Proofs.Points
import Mathlib.Data.List.Infix

/-!
# Walks that lead to no literal

A symbol between tokens may begin the introduction of a literal.  The machine then follows
the introduction, and goes back to the first symbol when it does not come to its end.  What
is fed again is read as in a language without literals.  Where no introduction is complete,
the scans in both languages therefore make the same reports.
-/

namespace Lexing

theorem Trie.advance_empty (node : NodeId) (symbol : Char) : empty.advance node symbol = none := by
  cases node with
  | zero => rfl
  | succ node => simp [advance, empty]

/-- The same language without literals. -/
def Profile.withoutLiterals {ρ : Type} (profile : Profile ρ) : Profile ρ :=
  { profile with literals := .empty }

theorem Profile.Sound.withoutLiterals {ρ : Type} {profile : Profile ρ} (sound : profile.Sound) :
    profile.withoutLiterals.Sound where
  numberPrefixes := sound.numberPrefixes
  brackets := sound.brackets
  operators := sound.operators
  literals := Trie.empty_sound
  readers := ⟨by simp [Profile.withoutLiterals], by simp [Profile.withoutLiterals]⟩
  numberKinds := sound.numberKinds
  bracketKinds := sound.bracketKinds
  operatorKinds := sound.operatorKinds
  literalKinds := by simp [Profile.withoutLiterals, Trie.kind?_empty]
  fallbackKinds := sound.fallbackKinds
  defaultNumber := sound.defaultNumber
  blockClose := sound.blockClose

/-- Modes of a scan that meets no literal and no continued line. -/
def Mode.Ordinary : Mode → Prop
  | .literalPrefix _ | .literal .. | .continuation .. => False
  | _ => True

namespace Scan

variable {ρ : Type} {profile : Profile ρ} {state : ScanState ρ} {reaction : Reaction ρ}
  {stop : Nat}

/-! ## Queues of ordinary scans -/

/-- The symbols that an ordinary scan has to feed.  Only a point between tokens is ever exempt
from a rule. -/
inductive Lined (mode : Mode) : List Fed → Prop
  | plain (symbols : List Located) : Lined mode (symbols.map Fed.plain)
  | point (dot : Nat) (symbols : List Located) : mode = .idle →
      Lined mode (.exemptPoint dot :: symbols.map Fed.plain)

theorem Lined.append {mode : Mode} {queue : List Fed} (lined : Lined mode queue)
    (more : List Located) : Lined mode (queue ++ more.map Fed.plain) := by
  cases lined with
  | plain symbols =>
      rw [← List.map_append]
      exact .plain _
  | point dot symbols idle =>
      rw [List.cons_append, ← List.map_append]
      exact .point dot _ idle

structure Ordinary (reaction : Reaction ρ) : Prop where
  mode : reaction.state.mode.Ordinary
  next : Lined reaction.state.mode reaction.next

theorem ordinary_of_next (mode : reaction.state.mode.Ordinary) (symbols : List Located)
    (next : reaction.next = symbols.map Fed.plain) : Ordinary reaction :=
  ⟨mode, next ▸ .plain symbols⟩

theorem ordinary_become (mode : Mode) (ordinary : mode.Ordinary) :
    Ordinary (state.become mode) :=
  ordinary_of_next ordinary [] rfl

theorem ordinary_finish (kind : Kind) (payload : Payload) :
    Ordinary (state.finish kind stop payload) :=
  ordinary_of_next trivial [] rfl

theorem ordinary_reject (span : Span) (complaint : Option String) :
    Ordinary (state.reject span complaint) :=
  ordinary_of_next trivial [] rfl

theorem Ordinary.feed (ordinary : Ordinary reaction) (symbols : List Located) :
    Ordinary (reaction.feed (symbols.map Fed.plain)) :=
  ⟨ordinary.mode, ordinary.next.append symbols⟩

theorem Ordinary.notify (ordinary : Ordinary reaction) (report : Report) :
    Ordinary (reaction.notify report) :=
  ⟨ordinary.mode, ordinary.next⟩

theorem closeWalk_ordinary (node : NodeId) : Ordinary (closeWalk profile state node stop) := by
  have closed := closeWalk_closed profile state node stop
  generalize closeWalk profile state node stop = reaction at closed ⊢
  cases closed with
  | demoted | operator | unnamed => exact ordinary_finish _ _
  | lineComment | blockComment => exact ordinary_become _ trivial

theorem stuckOperator_ordinary (walk : Walk) :
    Ordinary (stuckOperator profile state walk stop) := by
  have stuck := stuckOperator_stuck profile state walk stop
  generalize stuckOperator profile state walk stop = reaction at stuck ⊢
  cases stuck with
  | passed => exact (closeWalk_ordinary _).feed _
  | rejected => exact ((ordinary_reject _ _).notify _).feed _
  | empty => exact ordinary_become _ trivial

theorem reachOperator_ordinary (node : NodeId) (pending : List Located)
    (terminal : Option (NodeId × Nat)) :
    Ordinary (reachOperator profile state node pending terminal) := by
  unfold reachOperator
  split
  · exact ordinary_become _ trivial
  · exact (closeWalk_ordinary _).feed _

theorem resolvePrefix_ordinary {next : Option Fed}
    (again : ∀ {reaction : Reaction ρ}, Ordinary reaction →
      Ordinary (reaction.feed next.toList)) (node : NodeId) (pending : List Located) :
    Ordinary (resolvePrefix profile state node pending next) := by
  obtain ⟨_, resolved, answer⟩ := resolvePrefix_resolved profile state node pending next
  rw [answer]
  cases resolved with
  | spanless => exact again (ordinary_become .idle trivial)
  | opens | goesOn => exact again (ordinary_become (.number _) trivial)
  | alone | digits => exact again (ordinary_finish _ _)
  | rejected => exact again (ordinary_reject _ _)

theorem releaseDot_ordinary (value : Numeral) (dot : Nat) (hasInteger : Bool) :
    Ordinary (releaseDot state value dot hasInteger) := by
  refine ⟨by rw [releaseDot_mode]; trivial, ?_⟩
  rw [releaseDot_next]
  exact .point dot [] (releaseDot_mode ..)

structure Plain (config : Config ρ) : Prop where
  mode : config.state.mode.Ordinary
  queue : Lined config.state.mode config.queue

theorem Ordinary.plain (ordinary : Ordinary reaction) (symbols : List Located) :
    Plain ⟨reaction.state, reaction.next ++ symbols.map Fed.plain⟩ :=
  ⟨ordinary.mode, ordinary.next.append symbols⟩

theorem Takes.ordinary {fed : Fed} {before after : Mode}
    (takes : Takes profile state fed before after)
    (unheld : beginsContinuation profile state fed = false) (ordinary : before.Ordinary) :
    after.Ordinary := by
  cases takes with
  | escape _ _ begins => simp [unheld] at begins
  | carriage => exact ordinary.elim
  | _ => trivial

variable [Literal.Reader ρ]

/-- Inside of a token, an ordinary scan stays one. -/
theorem Answered.ordinary {next : Option Fed}
    (answered : Answered profile stop state next reaction)
    (plain : ∀ fed ∈ next, fed = .plain fed.toLocated)
    (unheld : ∀ fed ∈ next, beginsContinuation profile state fed = false)
    (mode : state.mode.Ordinary) (busy : state.mode ≠ .idle) : Ordinary reaction := by
  have same : next.toList = (next.toList.map Fed.toLocated).map Fed.plain := by
    cases next with
    | none => rfl
    | some fed => exact congrArg List.singleton (plain fed rfl)
  have again : ∀ {reaction : Reaction ρ}, Ordinary reaction →
      Ordinary (reaction.feed next.toList) := by
    intro reaction ordinary
    rw [same]
    exact ordinary.feed _
  cases answered with
  | between => contradiction
  | takes reading takes =>
      rw [reading] at mode
      exact ordinary_become _ (takes.ordinary (unheld _ rfl) mode)
  | completes => exact again (ordinary_finish _ _)
  | linefeed => exact ordinary_finish _ _
  | resolves => exact resolvePrefix_ordinary again _ _
  | releases => exact again (releaseDot_ordinary _ _ _)
  | extendsOperator => exact reachOperator_ordinary _ _ _
  | endsOperator => exact again (stuckOperator_ordinary _)
  | closesBlock => exact ordinary_of_next trivial [] rfl
  | unclosed => exact ordinary_reject _ _
  | extendsIntroduction reading | endsIntroduction reading | reads reading | closesLiteral reading
  | joins reading | joinsBefore reading | abandons reading =>
      rw [reading] at mode
      exact mode.elim

theorem dispatch_ordinary {fed : Fed} (idle : state.mode = .idle)
    (unheld : beginsContinuation profile (starting state fed) fed = false)
    (unlettered : profile.literals.advance Trie.root fed.symbol = none) :
    Ordinary (dispatch profile state fed) := by
  have answer := dispatched profile state fed
  generalize dispatch profile state fed = reaction at answer ⊢
  cases answer with
  | single _ => exact ordinary_of_next (by simp [starting, idle, Mode.Ordinary]) [] rfl
  | literal edge _ => simp [unlettered] at edge
  | operator _ => exact reachOperator_ordinary _ _ _
  | reject => exact ordinary_reject _ _
  | continuation begins => simp [unheld] at begins
  | blank => exact ordinary_become _ trivial
  | point _ _ => exact ordinary_become _ trivial
  | numberPrefix _ => exact ordinary_become _ trivial
  | number _ => exact ordinary_become _ trivial
  | identifier => exact ordinary_become _ trivial

/-! ## Reactions in both languages -/

theorem react_withoutLiterals (mode : state.mode.Ordinary) (busy : state.mode ≠ .idle)
    (fed : Fed) : react profile.withoutLiterals state fed = react profile state fed := by
  unfold react
  cases reading : state.mode with
  | idle => contradiction
  | literalPrefix walk => simp [reading, Mode.Ordinary] at mode
  | literal number kind => simp [reading, Mode.Ordinary] at mode
  | _ => rfl

theorem flush?_withoutLiterals (mode : state.mode.Ordinary) (stop : Nat) :
    flush? profile.withoutLiterals state stop = flush? profile state stop := by
  unfold flush?
  cases reading : state.mode with
  | literalPrefix walk => simp [reading, Mode.Ordinary] at mode
  | literal number kind => simp [reading, Mode.Ordinary] at mode
  | _ => rfl

def earlyRules (profile : Profile ρ) (state : ScanState ρ) (fed : Fed) : Option (Reaction ρ) :=
  continuationRule profile state fed <|> lineEndRule profile state fed <|>
    blankRule profile state fed

def lateRules (profile : Profile ρ) (state : ScanState ρ) (fed : Fed) : Option (Reaction ρ) :=
  dotRule profile state fed <|> digitRule profile state fed <|>
    identifierRule profile state fed <|> bracketRule profile state fed <|>
    operatorRule profile state fed <|> escapeRule profile state fed <|>
    strayRule profile state fed

theorem dispatch_eq (profile : Profile ρ) (state : ScanState ρ) (fed : Fed) :
    dispatch profile state fed =
      ((earlyRules profile (starting state fed) fed).or
        ((literalRule profile (starting state fed) fed).or
          (lateRules profile (starting state fed) fed))).getD
        ((starting state fed).reject fed.span) := by
  simp only [earlyRules, lateRules, Option.orElse_eq_orElse, Option.orElse_eq_or, Option.or_assoc]
  unfold dispatch
  simp only [Option.orElse_eq_orElse, Option.orElse_eq_or]
  rfl

theorem literalRule_withoutLiterals (state : ScanState ρ) (fed : Fed) :
    literalRule profile.withoutLiterals state fed = none := by
  simp [literalRule, Profile.withoutLiterals, Trie.advance_empty]

/-- A symbol that is exempt from introducing a literal is read like any symbol in a language
without literals. -/
theorem dispatch_exempt (state : ScanState ρ) (located : Located) :
    dispatch profile state { toLocated := located, exempt := { literal := true } } =
      dispatch profile.withoutLiterals state (.plain located) := by
  have exempt : literalRule profile
      (starting state { toLocated := located, exempt := { literal := true } })
      { toLocated := located, exempt := { literal := true } } = none := by
    simp [literalRule]
  rw [dispatch_eq, dispatch_eq, exempt, literalRule_withoutLiterals]
  rfl

/-- Between tokens the languages only differ where the introduction of a literal begins. -/
theorem dispatch_withoutLiterals (profile : Profile ρ) (state : ScanState ρ) (fed : Fed) :
    dispatch profile.withoutLiterals state fed = dispatch profile state fed ∨
      ∃ node, profile.literals.advance Trie.root fed.symbol = some node ∧
        dispatch profile state fed =
          reachLiteral profile (starting state fed) node [fed.toLocated] none := by
  rw [dispatch_eq, dispatch_eq, literalRule_withoutLiterals, Option.none_or]
  have early : earlyRules profile.withoutLiterals (starting state fed) fed =
      earlyRules profile (starting state fed) fed := rfl
  rw [early]
  cases earlyRules profile (starting state fed) fed with
  | some reaction => exact Or.inl rfl
  | none =>
      cases rule : literalRule profile (starting state fed) fed with
      | none => exact Or.inl rfl
      | some reaction =>
          right
          unfold literalRule at rule
          split at rule
          · obtain ⟨node, edge, rfl⟩ := Option.map_eq_some_iff.mp rule
            exact ⟨node, edge, rfl⟩
          · simp at rule

/-! ## The walk -/

theorem firstExempt_append {exempt : Exempt} {symbols : List Located} (nonempty : symbols ≠ [])
    (more : List Located) :
    Fed.firstExempt exempt symbols ++ more.map Fed.plain =
      Fed.firstExempt exempt (symbols ++ more) := by
  obtain ⟨first, rest, rfl⟩ := List.exists_cons_of_ne_nil nonempty
  simp [Fed.firstExempt]

omit [Literal.Reader ρ] in
theorem kind?_of_unmet {node : NodeId} {pending : List Located} (symbols : List Located)
    (nonempty : pending ≠ [])
    (found : profile.literals.find? (pending.map Located.symbol) = some node)
    (unmet : ∀ word, word <+: (pending ++ symbols).map Located.symbol →
      ¬profile.literals.Registered word) :
    profile.literals.kind? node = none := by
  have unregistered := unmet (pending.map Located.symbol) (by simp)
  rw [Trie.registered_iff] at unregistered
  cases kind : profile.literals.kind? node with
  | none => rfl
  | some => exact absurd ⟨by simpa using nonempty, node, found, by simp [kind]⟩ unregistered

/-- A walk along which no introduction is complete goes back to its first symbol. -/
theorem literalPrefix_leads (state : ScanState ρ) (stop : Nat) {node : NodeId}
    {pending symbols : List Located} (nonempty : pending ≠ [])
    (found : profile.literals.find? (pending.map Located.symbol) = some node)
    (unmet : ∀ word, word <+: (pending ++ symbols).map Located.symbol →
      ¬profile.literals.Registered word) :
    Leads profile (some stop)
      ⟨state.enter (.literalPrefix ⟨node, pending, none⟩), symbols.map Fed.plain⟩ []
      ⟨state.enter .idle, Fed.firstExempt { literal := true } (pending ++ symbols)⟩ := by
  induction symbols generalizing node pending with
  | nil =>
      rw [List.append_nil]
      have flushed : flush? profile (state.enter (.literalPrefix ⟨node, pending, none⟩)) stop =
          some ((state.become .idle).feed (Fed.firstExempt { literal := true } pending)) := rfl
      exact Leads.flush flushed
  | cons located rest ih =>
      have step := Leads.react profile (some stop)
        (state.enter (.literalPrefix ⟨node, pending, none⟩)) (.plain located) (rest.map Fed.plain)
      cases edge : profile.literals.advance node located.symbol with
      | none =>
          have stuck : react profile (state.enter (.literalPrefix ⟨node, pending, none⟩))
              (.plain located) = ((state.become .idle).feed
                (Fed.firstExempt { literal := true } pending)).feed [.plain located] := by
            simp [react, readLiteralPrefix, Fed.plain, edge, stuckLiteral, ScanState.become,
              ScanState.enter]
          rw [stuck] at step
          rw [← firstExempt_append nonempty]
          simpa [ScanState.become] using step
      | some child =>
          have along : profile.literals.find? ((pending ++ [located]).map Located.symbol) =
              some child := by
            rw [List.map_append]
            exact Trie.find?_snoc found edge
          have incomplete := kind?_of_unmet rest (by simp) along (by simpa using unmet)
          have walks : react profile (state.enter (.literalPrefix ⟨node, pending, none⟩))
              (.plain located) =
                state.become (.literalPrefix ⟨child, pending ++ [located], none⟩) := by
            simp [react, readLiteralPrefix, Fed.plain, edge, reachLiteral, incomplete,
              ScanState.become, ScanState.enter]
          rw [walks] at step
          have onward := ih (by simp) along (by simpa using unmet)
          simpa using step.trans onward

/-! ## Starts of tokens -/

/-- Between tokens, a token starts at the next symbol. -/
theorem Surveyed.starts {source : String} {reports past : List Report} {inner : List Token}
    {last : Token} {fed : Fed} {rest : List Fed}
    (surveyed : Surveyed profile source reports inner last)
    (reaches : Reaches profile source past ⟨state, fed :: rest⟩) (idle : state.mode = .idle) :
    ∃ token ∈ tokens profile source, token.span.start = fed.offset := by
  obtain ⟨border, stands⟩ := reaches.stands surveyed.fits surveyed.setting
  obtain ⟨future, ⟨_, yields⟩, cut⟩ := reaches.future surveyed.foresees surveyed.received
  obtain ⟨first, after, ahead⟩ := List.exists_cons_of_ne_nil yields.tokens_ne_nil
  rw [ahead] at cut
  refine ⟨first, by simp [cut], ?_⟩
  rw [← stands.between idle]
  exact surveyed.tiling.start_eq (surveyed.decomposed.symm.trans cut) stands.tiles

/-! ## Whole scans -/

/-- No introduction of a literal is complete where a token starts in the language without
literals. -/
def Unmet (profile : Profile ρ) (source : String) : Prop :=
  ∀ token ∈ tokens profile.withoutLiterals source, ∀ front text,
    source.toList = front ++ text → byteLength front = token.span.start →
    ∀ word, word <+: text → ¬profile.literals.Registered word

theorem unmet_of_inits {source : String}
    (incomplete : ∀ token ∈ tokens profile.withoutLiterals source,
      ∀ word ∈ ((dropBytes token.span.start source.toList).getD []).inits,
        profile.literals.lookup? word = none) : Unmet profile source := by
  intro token member front text whole starts word begins registered
  have ahead := incomplete token member word
  rw [← starts, whole, dropBytes_append] at ahead
  simp [Trie.Registered, ahead ((List.mem_inits word text).mpr begins)] at registered

section Simulation

variable {source : String} {reports past : List Report} {inner : List Token} {last : Token}
  (surveyed : Surveyed profile.withoutLiterals source reports inner last)
  (unmet : Unmet profile source)

include surveyed

include unmet in
theorem Surveyed.incomplete {located : Located} {rest : List Located}
    (reaches : Reaches profile.withoutLiterals source past
      ⟨state, .plain located :: rest.map Fed.plain⟩) (idle : state.mode = .idle) :
    ∀ word, word <+: (located :: rest).map Located.symbol → ¬profile.literals.Registered word := by
  obtain ⟨token, member, starts⟩ := surveyed.starts reaches idle
  obtain ⟨border, stands⟩ := reaches.stands surveyed.fits surveyed.setting
  obtain ⟨front, text, whole, offset, symbols⟩ := stands.follows
  have same : (located :: rest).map Located.symbol = text := by
    rw [← Located.map_symbol_ofText (Fed.plain located).offset text, ← symbols]
    simp [Fed.plain, Function.comp_def]
  rw [same]
  exact unmet token member front text whole (by rw [starts, offset])

include unmet in
/-- Between tokens, the machine does in the language with literals, perhaps after a walk, what
it does in the one without. -/
theorem dispatch_leads {located : Located} {rest : List Located} (idle : state.mode = .idle)
    (reaches : Reaches profile.withoutLiterals source past
      ⟨state, .plain located :: rest.map Fed.plain⟩) (stop : Nat) :
    Leads profile (some stop) ⟨state, .plain located :: rest.map Fed.plain⟩
      (dispatch profile.withoutLiterals state (.plain located)).reports
      ⟨(dispatch profile.withoutLiterals state (.plain located)).state,
        (dispatch profile.withoutLiterals state (.plain located)).next ++ rest.map Fed.plain⟩ := by
  have step := Leads.react profile (some stop) state (.plain located) (rest.map Fed.plain)
  rw [react_idle idle] at step
  rcases dispatch_withoutLiterals profile state (.plain located) with same | ⟨node, edge, walks⟩
  · rw [same]
    exact step
  · have unmet := surveyed.incomplete unmet reaches idle
    have found : profile.literals.find? ([located].map Located.symbol) = some node :=
      (Trie.walkFrom_singleton _ _ _).trans edge
    have incomplete := kind?_of_unmet rest (by simp) found unmet
    have begins : dispatch profile state (.plain located) =
        (starting state (.plain located)).become (.literalPrefix ⟨node, [located], none⟩) := by
      rw [walks, reachLiteral, incomplete]
      rfl
    have waits : (starting state (.plain located)).mode = .idle := idle
    have returns := literalPrefix_leads (starting state (.plain located)) stop (by simp) found unmet
    rw [show (starting state (.plain located)).enter .idle = starting state (.plain located) by
      rw [ScanState.enter, ← waits]] at returns
    have again := Leads.react profile (some stop) (starting state (.plain located))
      { toLocated := located, exempt := { literal := true } } (rest.map Fed.plain)
    rw [react_idle waits, dispatch_exempt] at again
    rw [begins] at step
    exact (step.trans returns).trans again

theorem dispatch_plain {fed : Fed} {symbols : List Located} (idle : state.mode = .idle)
    (reaches : Reaches profile.withoutLiterals source past ⟨state, fed :: symbols.map Fed.plain⟩) :
    Plain ⟨(dispatch profile.withoutLiterals state fed).state,
      (dispatch profile.withoutLiterals state fed).next ++ symbols.map Fed.plain⟩ := by
  have plain : beginsContinuation profile state fed = false := surveyed.unheld reaches
  have unheld : beginsContinuation profile.withoutLiterals (starting state fed) fed = false := plain
  exact (dispatch_ordinary idle unheld (Trie.advance_empty _ _)).plain symbols

variable (undotted : profile.literals.advance Trie.root '.' = none)

include unmet undotted

/-- Each step in the language without literals can be made in the other one as well. -/
theorem next_leads {state : ScanState ρ} {queue rest : List Fed} {reaction : Reaction ρ}
    (reaches : Reaches profile.withoutLiterals source past ⟨state, queue⟩)
    (plain : Plain ⟨state, queue⟩)
    (next : nextReaction? profile.withoutLiterals (some stop) state queue =
      some (reaction, rest)) :
    Leads profile (some stop) ⟨state, queue⟩ reaction.reports
        ⟨reaction.state, reaction.next ++ rest⟩ ∧
      Plain ⟨reaction.state, reaction.next ++ rest⟩ := by
  obtain ⟨mode, lined⟩ := plain
  cases lined with
  | plain symbols =>
      cases symbols with
      | nil =>
          obtain ⟨_, closed, flushed, rfl⟩ := nextReaction?_nil next
          obtain rfl := Option.some.inj closed
          have busy : state.mode ≠ .idle := fun idle => by simp [flush?, idle] at flushed
          have ordinary := (answered_flush? flushed).ordinary (by simp) (by simp) mode busy
          rw [flush?_withoutLiterals mode] at flushed
          rw [List.append_nil]
          exact ⟨Leads.flush flushed, ordinary.mode, ordinary.next⟩
      | cons located symbols =>
          obtain ⟨rfl, rfl⟩ := nextReaction?_cons next
          by_cases idle : state.mode = .idle
          · rw [react_idle idle]
            exact ⟨dispatch_leads surveyed unmet idle reaches stop,
              dispatch_plain surveyed idle reaches⟩
          · have unheld : beginsContinuation profile state (.plain located) = false :=
              surveyed.unheld reaches
            rw [react_withoutLiterals mode idle]
            have ordinary := (answered_react profile stop state (.plain located)).ordinary
              (by simp [Fed.plain]) (by simpa using unheld) mode idle
            exact ⟨Leads.react profile _ state _ _, ordinary.plain symbols⟩
  | point dot symbols idle =>
      have idle : state.mode = .idle := idle
      obtain ⟨rfl, rfl⟩ := nextReaction?_cons next
      have step := Leads.react profile (some stop) state (.exemptPoint dot) (symbols.map Fed.plain)
      rw [react_idle idle] at step ⊢
      refine ⟨?_, dispatch_plain surveyed idle reaches⟩
      rcases dispatch_withoutLiterals profile state (.exemptPoint dot) with same | ⟨_, edge, _⟩
      · rw [same]
        exact step
      · exact absurd edge (by simp [Fed.exemptPoint, undotted])

theorem yields_withLiterals {count : Nat} {config : Config ρ} {later : List Report}
    (yields : Yields profile.withoutLiterals (byteLength source.toList) count config later)
    (reaches : Reaches profile.withoutLiterals source past config) (plain : Plain config) :
    ∃ more, Yields profile (byteLength source.toList) more config later := by
  induction yields generalizing past with
  | @done config _ done =>
      obtain ⟨state, queue⟩ := config
      obtain rfl : queue = [] := done.queue
      have idle : state.mode = .idle := done.mode
      exact ⟨0, .done 0 (by simp [Config.Done, nextReaction?, flush?, idle])⟩
  | @next config reaction rest later count next yields ih =>
      obtain ⟨leads, plainToo⟩ := next_leads surveyed unmet undotted reaches plain next
      have onward := reaches.trans (Leads.single next)
      obtain ⟨more, yields⟩ := ih onward plainToo
      exact Yields.prepend leads yields

end Simulation

/-- Walks that lead to no literal leave no trace.  Where no introduction of a literal is
complete at the start of a token, a sink that never stops receives the same events in a
language and in the same language without literals. -/
theorem failed_walks_traceless (made : profile.Made) (unstarted : ¬profile.StartsLiteral '.')
    {source : String}
    (unescaped : profile.options.honorLineContinuation = false ∨
      ∀ symbol ∈ source.toList, (profile.classes.classify symbol).escape = false)
    (unmet : Unmet profile source) :
    events profile source = events profile.withoutLiterals source ∧ Delivers profile source ∧
      Delivers profile.withoutLiterals source := by
  by_cases fits : byteLength source.toList ≤ maxOffset
  · have undotted := (made.sound.not_startsLiteral_iff '.').mp unstarted
    have sound := made.sound.withoutLiterals
    have adjoin := Located.adjoin_source fits
    obtain ⟨reports, foresees, received, delivers⟩ := transcribed fits
      (bounded_of_setting (setting_of_unescaped made.sound unescaped) adjoin undotted)
    obtain ⟨others, inner, last, surveyed⟩ := surveyed_of_unescaped sound
      (Trie.advance_empty _ _) unescaped fits
    have deliversToo : Delivers profile.withoutLiterals source := by
      obtain ⟨_, _, _, delivers⟩ := transcribed fits
        (bounded_of_setting (setting_of_unescaped sound unescaped) adjoin (Trie.advance_empty _ _))
      exact delivers
    obtain ⟨count, yields⟩ := surveyed.foresees
    obtain ⟨more, yields⟩ := yields_withLiterals surveyed unmet undotted yields (.here _)
      ⟨trivial, .plain _⟩
    obtain rfl := foresees.unique ⟨more, yields⟩
    exact ⟨received.trans surveyed.received.symm, delivers, deliversToo⟩
  · obtain ⟨none, delivers⟩ := events_of_large profile fits
    obtain ⟨noneToo, deliversToo⟩ := events_of_large profile.withoutLiterals fits
    exact ⟨none.trans noneToo.symm, delivers, deliversToo⟩

/-- An identifier that begins like the introduction of a string, and a comment with a quote. -/
theorem failed_walks_traceless_comment :
    Unmet CLike.profile "u8x//\"" ∧
      events CLike.profile "u8x//\"" = events CLike.profile.withoutLiterals "u8x//\"" := by
  have unmet : Unmet CLike.profile "u8x//\"" := unmet_of_inits (by decide +kernel)
  have unstarted : ¬CLike.profile.StartsLiteral '.' :=
    (CLike.profile_made.sound.not_startsLiteral_iff '.').mpr (by decide +kernel)
  have plain : ∀ symbol ∈ "u8x//\"".toList,
      (CLike.profile.classes.classify symbol).escape = false :=
    CLike.unescaped (by decide)
  exact ⟨unmet, (failed_walks_traceless CLike.profile_made unstarted (.inr plain) unmet).1⟩

end Scan

end Lexing
