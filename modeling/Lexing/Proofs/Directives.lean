import Lexing.Proofs.LineEndings
import Lexing.Proofs.Passing

/-!
# Directive lines are bracketed

Behind the filters of the C-like profile a directive line stands between two control tokens.
Where a stream of tokens stands between them is a matter of a few phases, and an automaton
that knows the phases accepts what every one of the filters sends on: the first filter makes
the brackets, the second one agrees with them about which hash operators to take apart, and
the third one holds nothing back when a bracket passes.
-/

namespace Lexing

namespace CLike

/-! ## Phases -/

/-- The two operators of preprocessor lines. -/
def IsHash (kind : Kind) : Prop :=
  kind = hash ∨ kind = hashHash

instance (kind : Kind) : Decidable (IsHash kind) :=
  inferInstanceAs (Decidable (_ ∨ _))

/-- Where a stream of tokens stands with respect to directive lines.  Behind an opening token
the marker has to follow, and behind a closing one the end of the line, at the same offset. -/
inductive Phase where
  | outside
  | opening (start : Nat)
  | inside
  | closing (start : Nat)
  | ended
deriving Repr, DecidableEq

/-- The phase after one more token, if the token may stand there.  A strict automaton does not
accept hash operators outside of directives. -/
def Phase.next (strict : Bool) (phase : Phase) (token : Token) : Option Phase :=
  match phase with
  | .outside =>
      if token.kind = .directiveEnter then some (.opening token.span.start)
      else if token.kind = .fin then some .ended
      else if token.kind = .directiveExit ∨ strict ∧ IsHash token.kind then none
      else some .outside
  | .opening start =>
      if token.kind = hash ∧ token.span.start = start ∧ token.atLineStart then some .inside
      else none
  | .inside =>
      if token.kind = .directiveExit then some (.closing token.span.start)
      else if token.kind ∈ [.directiveEnter, .fin, .linefeed, .rawChar] then none
      else some .inside
  | .closing start =>
      if token.span.start ≠ start then none
      else if token.kind = .linefeed then some .outside
      else if token.kind = .fin then some .ended
      else none
  | .ended => none

def Phase.isOpen : Phase → Bool
  | .opening _ | .inside => true
  | _ => false

/-- Whether a stream of the machine has ended, after one more token that may stand there. -/
def endedAfter (ended : Bool) (token : Token) : Option Bool :=
  if ended then none
  else if token.kind = .fin then some true
  else if token.kind ∈ [.directiveEnter, .directiveExit, .rawChar] then none
  else some false

theorem endedAfter_eq_some {ended after : Bool} {token : Token}
    (reads : endedAfter ended token = some after) :
    ended = false ∧ after = decide (token.kind = .fin) ∧ token.kind ≠ .directiveEnter ∧
      token.kind ≠ .directiveExit ∧ token.kind ≠ .rawChar := by
  unfold endedAfter at reads
  split_ifs at reads with going fin plain
  · obtain rfl : true = after := Option.some.inj reads
    exact ⟨by simpa using going, by simp [fin], by rw [fin]; decide⟩
  · obtain rfl : false = after := Option.some.inj reads
    exact ⟨by simpa using going, by simp [fin], by simpa using plain⟩

/-! ## The filters -/

/-- A directive filter is open exactly inside of directives. -/
theorem lineDirective_phases {active ended after : Bool} {token : Token}
    {sent : List Token} {filter : LineDirective}
    (answers : LineDirective.Answers { marker := hash, active } token sent filter)
    (reads : endedAfter ended token = some after) :
    ∃ next, sent.foldlM (Phase.next false)
        (if ended then .ended else if active then .inside else .outside) = some next ∧
      ∃ active, filter = { marker := hash, active } ∧
        next = if after then .ended else if active then .inside else .outside := by
  obtain ⟨rfl, rfl, notEnter, notExit, notRaw⟩ := endedAfter_eq_some reads
  cases answers with
  | close opened ends =>
      obtain rfl : active = true := opened
      rcases ends with lineEnd | fin
      · refine ⟨.outside, ?_, false, rfl, by simp [lineEnd, Kind.linefeed, Kind.fin]⟩
        simp [Phase.next, lineEnd, Span.point]
      · refine ⟨.ended, ?_, false, rfl, by simp [fin]⟩
        simp [Phase.next, fin, Span.point, Kind.linefeed, Kind.fin]
  | begin closed marker fresh =>
      obtain rfl : active = false := closed
      have marker : token.kind = hash := marker
      refine ⟨.inside, ?_, true, rfl, by rw [marker]; decide⟩
      simp [Phase.next, marker, fresh, Span.point]
  | pass opened closed =>
      cases active with
      | true =>
          obtain ⟨notLineEnd, notFin⟩ := opened rfl
          refine ⟨.inside, ?_, true, rfl, by simp [notFin]⟩
          simp [Phase.next, notEnter, notExit, notRaw, notLineEnd, notFin]
      | false =>
          refine ⟨_, ?_, false, rfl, rfl⟩
          by_cases fin : token.kind = .fin
          · simp [Phase.next, fin, Kind.fin, Kind.directiveEnter]
          · simp [Phase.next, notEnter, notExit, fin]

def gated : List (Kind × List Char) :=
  [(hash, ['#']), (hashHash, ['#', '#'])]

def gate (active : Bool) : ModeGate where
  enter := .directiveEnter
  exit := .directiveExit
  gated := gated
  active := active

theorem isHash_iff (kind : Kind) :
    IsHash kind ↔ ∃ spelling, gated.lookup kind = some spelling ∧ spelling ≠ [] := by
  constructor
  · rintro (rfl | rfl)
    · exact ⟨['#'], by decide, by simp⟩
    · exact ⟨['#', '#'], by decide, by simp⟩
  · rintro ⟨spelling, listed, _⟩
    obtain ⟨_, _, entries, _⟩ := List.lookup_eq_some_iff.mp listed
    have member : (kind, spelling) ∈ gated := by simp [entries]
    simp only [gated, List.mem_cons, Prod.mk.injEq, List.not_mem_nil, or_false] at member
    exact member.imp And.left And.left

theorem rawTokens_kind (stop start : Nat) (atLineStart : Bool) (spelling : List Char) :
    ∀ token ∈ (ModeGate.rawTokens stop start atLineStart spelling).filterMap Event.token?,
      token.kind = .rawChar := by
  induction spelling generalizing start atLineStart with
  | nil => simp [ModeGate.rawTokens]
  | cons symbol rest ih =>
      cases rest with
      | nil => simp [ModeGate.rawTokens, Event.token?]
      | cons second others =>
          simp only [ModeGate.rawTokens, List.filterMap_cons, Event.token?]
          exact List.forall_mem_cons.mpr ⟨rfl, ih _ _⟩

/-- Raw tokens may stand anywhere outside of directives. -/
theorem raw_outside {tokens : List Token} (raw : ∀ token ∈ tokens, token.kind = .rawChar) :
    tokens.foldlM (Phase.next true) .outside = some .outside := by
  induction tokens with
  | nil => rfl
  | cons token rest ih =>
      obtain ⟨first, others⟩ := List.forall_mem_cons.mp raw
      have stays : Phase.next true .outside token = some .outside := by
        rw [Phase.next, first]
        rfl
      rw [List.foldlM_cons, stays]
      exact ih others

/-- The mode of a gate follows the phase. -/
theorem isOpen_next {strict : Bool} {phase after : Phase} {token : Token}
    (reads : phase.next strict token = some after) :
    (gate phase.isOpen).activeAfter token.kind = after.isOpen := by
  have hashIsPlain : hash ≠ .directiveEnter ∧ hash ≠ .directiveExit := by decide
  have endIsPlain : Kind.linefeed ≠ .directiveEnter ∧ Kind.linefeed ≠ .directiveExit ∧
      Kind.fin ≠ .directiveEnter ∧ Kind.fin ≠ .directiveExit ∧
      Kind.directiveExit ≠ .directiveEnter := by decide
  unfold Phase.next at reads
  simp only [ModeGate.activeAfter, gate]
  cases phase <;> grind [Phase.isOpen]

/-- A gate is open exactly inside of directives, and takes all hash operators outside apart. -/
theorem gate_phases {phase after : Phase} {token : Token} {sent : List Token} {filter : ModeGate}
    (answers : (gate phase.isOpen).Answers token sent filter)
    (reads : phase.next false token = some after) :
    sent.foldlM (Phase.next true) phase = some after ∧ filter = gate after.isOpen := by
  have active := isOpen_next reads
  have same : filter = gate after.isOpen := by
    rw [← active]
    cases answers <;> rfl
  have strictly : (phase = .outside → ¬IsHash token.kind) →
      phase.next true token = some after := by
    intro unspelled
    cases phase with
    | outside => simpa [Phase.next, unspelled rfl] using reads
    | _ => exact reads
  refine ⟨?_, same⟩
  cases answers with
  | pass passes =>
      have single : phase.next true token = some after := strictly fun outside isHash => by
        subst outside
        rcases isHash with kind | kind <;> simp [kind, gate, Phase.isOpen] at passes <;>
          exact absurd passes (by decide)
      simpa using single
  | unspelled none =>
      have single : phase.next true token = some after := strictly fun _ isHash => by
        obtain ⟨spelling, listed, nonempty⟩ := (isHash_iff _).mp isHash
        exact nonempty (none spelling listed)
      simpa using single
  | demote closed _ _ listed nonempty =>
      have isHash : IsHash token.kind := (isHash_iff _).mpr ⟨_, listed, nonempty⟩
      have plain : ∀ kind, IsHash kind → kind ≠ .directiveEnter ∧ kind ≠ .fin ∧
          kind ≠ .directiveExit ∧ kind ≠ .linefeed := by
        rintro kind (rfl | rfl) <;> decide
      obtain ⟨notEnter, notFin, notExit, notLineEnd⟩ := plain _ isHash
      cases phase with
      | outside =>
          obtain rfl : Phase.outside = after := by
            simpa [Phase.next, notEnter, notFin, notExit] using reads
          exact raw_outside (rawTokens_kind _ _ _ _)
      | closing start => simp [Phase.next, notLineEnd, notFin] at reads
      | ended => simp [Phase.next] at reads
      | opening | inside => simp [gate, Phase.isOpen] at closed

/-- A phase in which any token may stand that is not special to directives. -/
def Phase.isCalm : Phase → Bool
  | .outside | .inside => true
  | _ => false

def special : List Kind :=
  [.directiveEnter, .directiveExit, .fin, .linefeed, .rawChar, hash, hashHash]

theorem not_special {kind : Kind} (plain : kind.isNumber = true ∨ kind = .identifier) :
    kind ∉ special := by
  have table : ∀ kind ∈ special, ¬(kind.isNumber = true ∨ kind = .identifier) := by decide
  exact fun member => table kind member plain

/-- A token that does not matter to directives changes nothing in a calm phase and cannot
stand in another one. -/
theorem next_plain (strict : Bool) (phase : Phase) {token : Token}
    (plain : token.kind.isNumber = true ∨ token.kind = .identifier) :
    phase.next strict token = if phase.isCalm then some phase else none := by
  have other := not_special plain
  simp only [special, List.mem_cons, List.not_mem_nil, or_false, not_or] at other
  cases phase <;> simp [Phase.next, Phase.isCalm, IsHash, other]

/-- A number that is held back may as well be sent on. -/
theorem suffixGlue_phases {filter last : SuffixGlue} {phase after : Phase} {token : Token}
    {sent : List Token} (answers : filter.Answers token sent last)
    (holds : ∀ number ∈ filter.held, number.kind.isNumber = true ∧ phase.isCalm = true)
    (reads : phase.next true token = some after) :
    sent.foldlM (Phase.next true) phase = some after ∧
      ∀ number ∈ last.held, number.kind.isNumber = true ∧ after.isCalm = true := by
  have released : filter.held.toList.foldlM (Phase.next true) phase = some phase := by
    cases held : filter.held with
    | none => rfl
    | some number =>
        obtain ⟨isNumber, calm⟩ := holds number held
        simp [next_plain true phase (Or.inl isNumber), calm]
  have calm (plain : token.kind.isNumber = true ∨ token.kind = .identifier) :
      phase = after ∧ phase.isCalm = true := by
    simpa [next_plain true phase plain, and_comm] using reads
  cases answers with
  | @glue number held isSuffix =>
      obtain ⟨isNumber, steady⟩ := holds number held
      have identifier : token.kind = .identifier := by
        simp only [SuffixGlue.isSuffix, Bool.and_eq_true, decide_eq_true_eq] at isSuffix
        exact isSuffix.1
      obtain ⟨rfl, _⟩ := calm (Or.inr identifier)
      have glued : (SuffixGlue.glue number token).kind.isNumber = true := isNumber
      refine ⟨?_, by simp⟩
      simp [next_plain true phase (Or.inl glued), steady]
  | hold isNumber =>
      obtain ⟨rfl, steady⟩ := calm (Or.inl isNumber)
      exact ⟨released, by simp [isNumber, steady]⟩
  | send =>
      refine ⟨?_, by simp⟩
      rw [List.foldlM_append, released]
      simpa using reads

/-- Behind the filters of the profile the automaton accepts what the machine can make. -/
theorem passAll_accepted {tokens : List Token}
    (run : tokens.foldlM endedAfter false = some true) :
    (Filter.passAll filters.reverse tokens).1.foldlM (Phase.next true) .outside =
      some .ended := by
  obtain ⟨_, opened, _, -, rfl⟩ := Filter.pass_simulates
    (fun (filter : StockFilter) (ended : Bool) (phase : Phase) =>
      ∃ active, filter = .lineDirective { marker := hash, active } ∧
        phase = if ended then .ended else if active then .inside else .outside)
    (fun token ⟨active, known, phase⟩ reads => by
      subst known phase
      obtain ⟨next, sent, later, accepted, phase⟩ :=
        lineDirective_phases (LineDirective.answers { marker := hash, active } token) reads
      exact ⟨next, sent, later, congrArg _ accepted, phase⟩)
    ⟨false, rfl, rfl⟩ run
  obtain ⟨_, gated, -, rfl⟩ := Filter.pass_simulates
    (fun (filter : StockFilter) (phase out : Phase) =>
      filter = .modeGate (gate phase.isOpen) ∧ out = phase)
    (fun token ⟨known, phase⟩ reads => by
      subst known phase
      obtain ⟨sent, accepted⟩ := gate_phases ((gate _).answers token) reads
      exact ⟨_, sent, congrArg _ accepted, rfl⟩)
    ⟨rfl, rfl⟩ opened
  obtain ⟨_, glued, _, -, -, rfl⟩ := Filter.pass_simulates
    (fun (filter : StockFilter) (phase out : Phase) => ∃ glue, filter = .suffixGlue glue ∧
      (∀ number ∈ glue.held, number.kind.isNumber = true ∧ phase.isCalm = true) ∧ out = phase)
    (fun token ⟨glue, known, holds, phase⟩ reads => by
      subst known phase
      obtain ⟨sent, later⟩ := suffixGlue_phases (glue.answers token) holds reads
      exact ⟨_, sent, _, rfl, later, rfl⟩)
    ⟨{}, rfl, by simp, rfl⟩ gated
  exact glued

/-! ## What the automaton accepts -/

/-- The control tokens of directives among some tokens. -/
def directiveKinds (tokens : List Token) : List Kind :=
  (tokens.map Token.kind).filter fun kind => kind = .directiveEnter ∨ kind = .directiveExit

/-- The last control token of a directive has opened one. -/
def DirectiveOpen (tokens : List Token) : Prop :=
  (directiveKinds tokens).getLast? = some .directiveEnter

/-- A stream in which all directive lines are bracketed: the brackets alternate, an opening one
stands right before a marker at the start of its line and a closing one right before the end
of a line or of the input, no line ends inside, and hash operators stand nowhere else. -/
structure Bracketed (tokens : List Token) : Prop where
  alternate : ∃ count, directiveKinds tokens =
    (List.replicate count [Kind.directiveEnter, .directiveExit]).flatten
  opened : ∀ before token after, tokens = before ++ token :: after →
    token.kind = .directiveEnter → ∃ marker rest, after = marker :: rest ∧ marker.kind = hash ∧
      marker.span.start = token.span.start ∧ marker.atLineStart = true
  closed : ∀ before token after, tokens = before ++ token :: after →
    token.kind = .directiveExit → ∃ last rest, after = last :: rest ∧
      (last.kind = .linefeed ∨ last.kind = .fin) ∧ last.span.start = token.span.start
  outside : ∀ before token after, tokens = before ++ token :: after →
    token.kind = .linefeed ∨ token.kind = .fin ∨ token.kind = .rawChar → ¬DirectiveOpen before
  inside : ∀ before token after, tokens = before ++ token :: after →
    token.kind = hash ∨ token.kind = hashHash → DirectiveOpen before

section Accepted

variable {before after tokens : List Token} {token : Token} {phase middle last : Phase}

theorem directiveKinds_append (first second : List Token) :
    directiveKinds (first ++ second) = directiveKinds first ++ directiveKinds second := by
  simp [directiveKinds]

/-- A token of an accepted stream stands where the automaton accepts it. -/
theorem phases_at (run : tokens.foldlM (Phase.next true) phase = some last)
    (split : tokens = before ++ token :: after) :
    ∃ middle later, before.foldlM (Phase.next true) phase = some middle ∧
      middle.next true token = some later ∧
      after.foldlM (Phase.next true) later = some last := by
  rw [split, List.foldlM_append] at run
  obtain ⟨middle, early, late⟩ := Option.bind_eq_some_iff.mp run
  rw [List.foldlM_cons] at late
  obtain ⟨later, taken, onward⟩ := Option.bind_eq_some_iff.mp late
  exact ⟨middle, later, early, taken, onward⟩

/-- Only the control tokens of directives open and close. -/
theorem next_cases (taken : phase.next true token = some last) :
    (token.kind = .directiveEnter ∧ phase = .outside ∧ last = .opening token.span.start) ∨
      (token.kind = .directiveExit ∧ phase = .inside ∧ last = .closing token.span.start) ∨
      (directiveKinds [token] = [] ∧ last.isOpen = phase.isOpen) := by
  have hashIsPlain : hash ≠ .directiveEnter ∧ hash ≠ .directiveExit := by decide
  have endIsPlain : Kind.linefeed ≠ .directiveEnter ∧ Kind.linefeed ≠ .directiveExit ∧
      Kind.fin ≠ .directiveEnter ∧ Kind.fin ≠ .directiveExit ∧
      Kind.directiveExit ≠ .directiveEnter := by decide
  simp only [directiveKinds, List.map_cons, List.map_nil, List.filter_eq_nil_iff,
    List.mem_singleton, forall_eq, decide_eq_true_eq]
  unfold Phase.next at taken
  cases phase <;> grind [Phase.isOpen]

theorem directiveKinds_cons (token : Token) (rest : List Token) :
    directiveKinds (token :: rest) = directiveKinds [token] ++ directiveKinds rest :=
  directiveKinds_append [token] rest

theorem alternate_of_run (run : tokens.foldlM (Phase.next true) phase = some .ended) :
    ∃ count, directiveKinds tokens = (if phase.isOpen then [.directiveExit] else []) ++
      (List.replicate count [Kind.directiveEnter, .directiveExit]).flatten := by
  induction tokens generalizing phase with
  | nil =>
      obtain rfl : phase = .ended := Option.some.inj run
      exact ⟨0, rfl⟩
  | cons token rest ih =>
      obtain ⟨middle, later, here, taken, onward⟩ := phases_at run (List.nil_append _).symm
      obtain rfl : phase = middle := Option.some.inj here
      obtain ⟨count, others⟩ := ih onward
      rw [directiveKinds_cons, others]
      rcases next_cases taken with ⟨kind, rfl, rfl⟩ | ⟨kind, rfl, rfl⟩ | ⟨none, same⟩
      · refine ⟨count + 1, ?_⟩
        simp [directiveKinds, kind, Phase.isOpen, List.replicate_succ]
      · refine ⟨count, ?_⟩
        simp [directiveKinds, kind, Phase.isOpen]
      · exact ⟨count, by rw [none, same, List.nil_append]⟩

theorem directiveOpen_iff (run : tokens.foldlM (Phase.next true) .outside = some last) :
    DirectiveOpen tokens ↔ last.isOpen = true := by
  induction tokens using List.reverseRecOn generalizing last with
  | nil =>
      obtain rfl : Phase.outside = last := Option.some.inj run
      simp [DirectiveOpen, directiveKinds, Phase.isOpen]
  | append_singleton front token ih =>
      obtain ⟨middle, later, early, taken, here⟩ := phases_at run rfl
      obtain rfl : later = last := Option.some.inj here
      rw [DirectiveOpen, directiveKinds_append]
      rcases next_cases taken with ⟨kind, rfl, rfl⟩ | ⟨kind, rfl, rfl⟩ | ⟨none, same⟩
      · simp [directiveKinds, kind, Phase.isOpen]
      · simp [directiveKinds, kind, Phase.isOpen]
        decide
      · rw [none, same, List.append_nil]
        exact ih early

/-- What has to stand right behind a control token stands there. -/
theorem followed (run : tokens.foldlM (Phase.next true) phase = some .ended)
    (going : phase ≠ .ended) :
    ∃ token rest later, tokens = token :: rest ∧ phase.next true token = some later := by
  cases tokens with
  | nil =>
      obtain rfl : phase = .ended := Option.some.inj run
      contradiction
  | cons token rest =>
      obtain ⟨_, later, here, taken, _⟩ := phases_at run (List.nil_append _).symm
      obtain rfl := Option.some.inj here
      exact ⟨token, rest, later, rfl, taken⟩

theorem bracketed_nil : Bracketed [] where
  alternate := ⟨0, rfl⟩
  opened := by simp
  closed := by simp
  outside := by simp
  inside := by simp

/-- The automaton only accepts streams in which directives are bracketed. -/
theorem bracketed_of_run (run : tokens.foldlM (Phase.next true) .outside = some .ended) :
    Bracketed tokens where
  alternate := alternate_of_run run
  opened := by
    intro before token after split kind
    obtain ⟨middle, later, _, taken, onward⟩ := phases_at run split
    rcases next_cases taken with ⟨_, rfl, rfl⟩ | ⟨exit, _⟩ | ⟨none, _⟩
    · obtain ⟨marker, rest, _, rfl, follows⟩ := followed onward (by simp)
      simp only [Phase.next, Option.ite_none_right_eq_some] at follows
      exact ⟨marker, rest, rfl, follows.1⟩
    · rw [kind] at exit
      exact absurd exit (by decide)
    · simp [directiveKinds, kind] at none
  closed := by
    intro before token after split kind
    obtain ⟨middle, later, _, taken, onward⟩ := phases_at run split
    rcases next_cases taken with ⟨enter, _⟩ | ⟨_, rfl, rfl⟩ | ⟨none, _⟩
    · rw [kind] at enter
      exact absurd enter (by decide)
    · obtain ⟨next, rest, _, rfl, follows⟩ := followed onward (by simp)
      refine ⟨next, rest, rfl, ?_⟩
      unfold Phase.next at follows
      grind
    · simp [directiveKinds, kind] at none
  outside := by
    intro before token after split kind
    obtain ⟨middle, later, early, taken, _⟩ := phases_at run split
    rw [directiveOpen_iff early]
    have apart : Kind.linefeed ≠ hash ∧ Kind.fin ≠ hash ∧ Kind.rawChar ≠ hash ∧
        Kind.linefeed ≠ .directiveExit ∧ Kind.fin ≠ .directiveExit ∧
        Kind.rawChar ≠ .directiveExit := by decide
    unfold Phase.next at taken
    cases middle <;> grind [Phase.isOpen]
  inside := by
    intro before token after split kind
    obtain ⟨middle, later, early, taken, _⟩ := phases_at run split
    rw [directiveOpen_iff early]
    have apart : ∀ kind, IsHash kind → kind ≠ .directiveEnter ∧ kind ≠ .fin ∧ kind ≠ .linefeed := by
      rintro kind (rfl | rfl) <;> decide
    have plain := apart _ kind
    unfold Phase.next at taken
    cases middle <;> grind [Phase.isOpen, IsHash]

theorem last_of_run (run : tokens.foldlM (Phase.next true) .outside = some .ended) :
    tokens.getLast?.map Token.kind = some .fin := by
  obtain rfl | ⟨front, token, rfl⟩ := List.eq_nil_or_concat tokens
  · simp at run
  · rw [List.concat_eq_append] at run ⊢
    obtain ⟨middle, _, _, taken, here⟩ := phases_at run rfl
    obtain rfl := Option.some.inj here
    have fin : token.kind = .fin := by
      unfold Phase.next at taken
      grind
    simp [fin]

end Accepted

/-! ## Sources in C -/

section Sources

open Scan

theorem run_going {tokens : List Token}
    (ordinary : ∀ token ∈ tokens, token.kind ≠ .rawChar ∧ token.kind.isControl = false) :
    tokens.foldlM endedAfter false = some false := by
  induction tokens with
  | nil => rfl
  | cons token rest ih =>
      obtain ⟨⟨notRaw, text⟩, others⟩ := List.forall_mem_cons.mp ordinary
      have named : ∀ kind ∈ [Kind.fin, .directiveEnter, .directiveExit], token.kind ≠ kind := by
        rintro kind member rfl
        have table : ∀ kind ∈ [Kind.fin, .directiveEnter, .directiveExit],
            kind.isControl = true := by
          decide
        rw [table _ member] at text
        contradiction
      have stays : endedAfter false token = some false := by
        simp [endedAfter, notRaw, named .fin (by simp), named .directiveEnter (by simp),
          named .directiveExit (by simp)]
      rw [List.foldlM_cons, stays]
      exact ih others

/-- The machine reads a source up to its end and makes no control token before. -/
theorem source_run {source : String} (fits : byteLength source.toList ≤ maxOffset) :
    (tokens profile source).foldlM endedAfter false = some true := by
  obtain ⟨inner, last, whole, tiling⟩ := tokens_tiling fits dotted.literals (dotted.setting _)
  have ordinary := tokens_ordinary profile_made source
  rw [whole] at ordinary ⊢
  have going : inner.foldlM endedAfter false = some false := by
    refine run_going fun token member => ?_
    obtain ⟨notRaw, control⟩ := ordinary token (by simp [member])
    refine ⟨notRaw, Bool.eq_false_iff.mpr fun isControl => ?_⟩
    exact tiling.others token member (control isControl)
  rw [List.foldlM_append, going]
  simp [endedAfter, tiling.fin.1]

/-- Every sink that never stops a scan receives, behind the filters of the profile, a stream
in which directive lines are bracketed, up to the end of the input.  A source that is too
large is not scanned at all. -/
theorem directives_bracketed (source : String) :
    DeliversThrough profile filters source ∧
      Bracketed ((filtered profile filters source).filterMap Event.token?) ∧
      ((filtered profile filters source).filterMap Event.token?).getLast?.map Token.kind =
        if byteLength source.toList ≤ maxOffset then some .fin else none := by
  refine ⟨Delivers.through (delivers_of_ends CLike.ends source) filters, ?_⟩
  rw [filtered_tokens]
  by_cases fits : byteLength source.toList ≤ maxOffset
  · have run := passAll_accepted (source_run fits)
    rw [if_pos fits]
    exact ⟨bracketed_of_run run, last_of_run run⟩
  · have nothing : tokens profile source = [] := by
      rw [tokens, (events_of_large profile fits).1]
      rfl
    rw [nothing, if_neg fits]
    exact ⟨bracketed_nil, rfl⟩

end Sources

end CLike

end Lexing
