import Lexing.Proofs.Likeness
import Lexing.Proofs.Trace
import Lexing.Proofs.Weaving

/-!
# Traces that go alike

Scans that correspond symbol by symbol also use up their reactions in step, so their
traces correspond as a whole, the ones that never end included.
-/

namespace Lexing

namespace Scan

variable {ρ : Type} {likeness : Likeness ρ} {profile copy : Profile ρ} {one two : ScanState ρ}

namespace Likeness

/-! ## The number of reactions -/

theorem ModeAlike.pending {mode next : Mode} (modes : likeness.ModeAlike mode next) :
    next.pending.length = mode.pending.length := by
  cases modes with
  | numberPrefix nodes symbols => exact symbols.length_eq.symm
  | operator walks => exact walks.pending.length_eq.symm
  | literalPrefix walks => exact walks.pending.length_eq.symm
  | continuation resumes =>
      cases resumes with
      | operator walks => exact walks.pending.length_eq.symm
      | _ => rfl
  | _ => rfl

theorem StateAlike.budget (states : likeness.StateAlike one two) (count : Nat) :
    budget two.mode count = budget one.mode count := by
  have pending : two.mode.pending.length = one.mode.pending.length := by
    rcases states.reading with modes | ⟨mode, modeToo⟩
    · exact modes.pending
    · rw [mode, modeToo]
      rfl
  simp only [Scan.budget, pending]

/-! ## Traces -/

structure TraceAlike (likeness : Likeness ρ) (one two : Trace ρ) : Prop where
  reports : List.Forall₂ likeness.ReportAlike one.reports two.reports
  result : two.result = one.result
  states : likeness.StateAlike one.state two.state

namespace TraceAlike

theorem after {trace other : Trace ρ} (alike : likeness.TraceAlike trace other)
    {earlier before : List Report} (told : List.Forall₂ likeness.ReportAlike earlier before) :
    likeness.TraceAlike (trace.after earlier) (other.after before) where
  reports := List.rel_append told alike.reports
  result := alike.result
  states := alike.states

theorem andThen {trace other : Trace ρ} (alike : likeness.TraceAlike trace other)
    {next onward : ScanState ρ → Trace ρ}
    (following : ∀ {one two}, likeness.StateAlike one two →
      likeness.TraceAlike (next one) (onward two)) :
    likeness.TraceAlike (trace.andThen next) (other.andThen onward) := by
  unfold Trace.andThen
  rw [alike.result]
  split
  · exact alike
  · exact (following alike.states).after alike.reports

end TraceAlike

variable [Literal.Reader ρ]

section Calls

variable (lawful : likeness.Lawful profile copy) {closing ending : Option Nat}
  (ends : Option.Rel likeness.offset closing ending)

include lawful ends

theorem nextReaction?_alike (states : likeness.StateAlike one two) {queue others : List Fed}
    (feds : List.Forall₂ likeness.FedAlike queue others) :
    Option.Rel (fun found answer => likeness.ReactionAlike found.1 answer.1 ∧
        List.Forall₂ likeness.FedAlike found.2 answer.2)
      (nextReaction? profile closing one queue) (nextReaction? copy ending two others) := by
  cases feds with
  | cons fed rest => exact .some ⟨react_alike lawful states fed, rest⟩
  | nil =>
      cases ends with
      | none => exact .none
      | @some stop last ends =>
          have flushes := flush?_alike lawful states ends
          simp only [nextReaction?, Option.bind_some]
          generalize flush? profile one stop = found, flush? copy two last = answer at flushes ⊢
          cases flushes with
          | none => exact .none
          | some reactions => exact .some ⟨reactions, .nil⟩

theorem run_alike (fuel : Nat) (states : likeness.StateAlike one two)
    {queue others : List Fed} (feds : List.Forall₂ likeness.FedAlike queue others) :
    likeness.TraceAlike (Trace.run profile closing fuel one queue)
      (Trace.run copy ending fuel two others) := by
  induction fuel generalizing one two queue others with
  | zero =>
      have next := nextReaction?_alike lawful ends states feds
      unfold Trace.run
      generalize nextReaction? profile closing one queue = found,
        nextReaction? copy ending two others = answer at next ⊢
      cases next with
      | none => exact ⟨.nil, rfl, states⟩
      | some => exact ⟨.nil, rfl, states⟩
  | succ fuel ih =>
      have next := nextReaction?_alike lawful ends states feds
      unfold Trace.run
      generalize nextReaction? profile closing one queue = found,
        nextReaction? copy ending two others = answer at next ⊢
      cases next with
      | none => exact ⟨.nil, rfl, states⟩
      | some related =>
          obtain ⟨reactions, rest⟩ := related
          exact (ih reactions.state (List.rel_append reactions.next rest)).after reactions.reports

end Calls

variable (lawful : likeness.Lawful profile copy)

include lawful

theorem stepAll_alike (states : likeness.StateAlike one two) {symbols others : List Located}
    (located : List.Forall₂ likeness.LocatedAlike symbols others) :
    likeness.TraceAlike (Trace.stepAll profile one symbols) (Trace.stepAll copy two others) := by
  induction located generalizing one two with
  | nil => exact ⟨.nil, rfl, states⟩
  | @cons first second _ _ located _ ih =>
      refine TraceAlike.andThen ?_ fun states => ih states
      rw [Trace.step, Trace.step, states.budget]
      exact run_alike lawful .none _ states (.cons ⟨located, rfl⟩ .nil)

theorem finalize_alike (states : likeness.StateAlike one two) {stop last : Nat}
    (ends : likeness.offset stop last) :
    likeness.TraceAlike (Trace.finalize profile one stop) (Trace.finalize copy two last) := by
  unfold Trace.finalize
  rw [states.budget]
  refine (run_alike lawful (.some ends) _ states .nil).andThen fun {first second} states => ?_
  have fresh : second.lineStart = first.lineStart := states.fresh
  constructor
  · exact .cons (.token ⟨fresh, rfl, ends, ends, .empty⟩) .nil
  · rfl
  · exact {
      start := states.start
      fresh := by simp [ScanState.emit, ScanState.freshAfter, fresh]
      classes := states.classes
      kept := states.kept
      reading := by
        rcases states.reading with modes | ⟨mode, modeToo, numbers, found, foundToo, readers⟩
        · exact .mode modes
        · exact .literal mode modeToo numbers found foundToo readers }

/-- Scans of one source go alike from states that are alike. -/
theorem tokenize_alike (states : likeness.StateAlike one.reset two.reset) {source : String}
    (fits : byteLength source.toList ≤ maxOffset)
    (same : ∀ located ∈ Located.ofText 0 source.toList, likeness.LocatedAlike located located)
    (ends : likeness.offset (byteLength source.toList) (byteLength source.toList)) :
    likeness.TraceAlike (Trace.tokenize profile one source) (Trace.tokenize copy two source) := by
  simp only [Trace.tokenize, fits, if_true]
  exact (stepAll_alike lawful states (List.forall₂_same.mpr same)).andThen fun states =>
    finalize_alike lawful states ends

end Likeness

/-! ## Moved reports -/

namespace Likeness

variable {move : Nat → Nat}

theorem TokenAlike.moved {token other : Token} (alike : likeness.TokenAlike token other)
    (start : other.span.start = move token.span.start)
    (stop : other.span.stop = move token.span.stop)
    (texts : ∀ {kind text another}, likeness.text kind text another → another = text) :
    other = token.moved move := by
  obtain ⟨_, _, span, payload⟩ := token
  obtain ⟨_, _, ⟨place, last⟩, payloadToo⟩ := other
  obtain ⟨fresh, kind, _, _, payloads⟩ := alike
  dsimp only at fresh kind start stop payloads
  subst fresh kind start stop
  cases payloads with
  | empty => rfl
  | comment text => rw [texts text]; rfl
  | literal text => rw [texts text]; rfl
  | integer value suffix => simp only [Token.moved, Payload.moved, suffix]
  | float value suffix => simp only [Token.moved, Payload.moved, suffix]

theorem SpanAlike.moved {span other : Span} (alike : likeness.SpanAlike span other)
    (moves : ∀ {place another}, likeness.offset place another → another = move place) :
    other = span.moved move := by
  obtain ⟨start, stop⟩ := other
  obtain rfl : start = move span.start := moves alike.start
  obtain rfl : stop = move span.stop := moves alike.stop
  rfl

theorem ReportAlike.moved {report other : Report} (alike : likeness.ReportAlike report other)
    (moves : ∀ {place another}, likeness.offset place another → another = move place)
    (texts : ∀ {kind text another}, likeness.text kind text another → another = text) :
    other = report.moved move := by
  cases alike with
  | token tokens => rw [tokens.moved (moves tokens.start) (moves tokens.stop) texts]; rfl
  | unexpected complaint spans => rw [spans.moved moves]; rfl
  | unknownOperator spans => rw [spans.moved moves]; rfl
  | literalMessage message spans => rw [spans.moved moves]; rfl

end Likeness

/-! ## Scans of the same symbols -/

/-- Scans of the same symbols with one profile.  In the second source the symbols stand at other
offsets. -/
def displaced [Literal.Reader ρ] (profile : Profile ρ) (offset : Nat → Nat → Prop) :
    Likeness ρ where
  offset := offset
  usual _ := True
  text _ := Eq
  comment _ := Eq
  reader _ := Literal.Alike
  kept number _ one two := profile.Makes number one ∧ profile.Makes number two

/-- Scans of the same symbols, which stand `distance` further on in the second source. -/
def shifted [Literal.Reader ρ] (profile : Profile ρ) (distance : Nat) : Likeness ρ :=
  displaced profile fun one two => two = one + distance

section Displaced

variable [Literal.Reader ρ] {distance : Nat}

theorem displaced_lawful (renews : profile.Renews) (offset : Nat → Nat → Prop) :
    (displaced profile offset).Lawful profile profile where
  relates := Numbering.same_relates profile
  lineText _ := rfl
  commentOpens := rfl
  commentGrows := by
    rintro _ _ _ symbol rfl _
    rfl
  commentText := by
    rintro _ _ _ rfl _
    rfl
  opens := by
    rintro _ number _ one two _ rfl ⟨makes, makesToo⟩
    have readers := makes.obtained makesToo
    generalize one.or _ = first, two.or _ = second at readers ⊢
    cases readers with
    | none => exact .none
    | some related =>
        obtain ⟨fresh, made, derived, derivedToo⟩ := related
        have alike := renews number fresh _ made derived
        exact .some ⟨alike.trans (renews number fresh _ made derivedToo).symm,
          .of_derived made derived.reset, .of_derived made derivedToo.reset⟩
  signal alike _ := (alike.signal _).symm
  reads alike _ := alike.read _
  takes alike := alike.decoded []
  ending alike := (alike.ending []).symm
  ended alike := alike.ended []
  keepsRead symbol kept := ⟨kept.1.read symbol, kept.2.read symbol⟩
  keepsTake kept := ⟨kept.1.take, kept.2.take⟩
  keepsFinish kept := ⟨kept.1.finish, kept.2.finish⟩

/-- Whatever two states have been through, they correspond between tokens. -/
theorem displaced_idle {offset : Nat → Nat → Prop} (genuine : Genuine profile one)
    (authentic : Genuine profile two) (start : offset one.tokenStart two.tokenStart)
    (fresh : two.lineStart = one.lineStart) (classes : two.ownClasses = one.ownClasses)
    (idle : one.mode = .idle) (idleToo : two.mode = .idle) :
    (displaced profile offset).StateAlike one two where
  start := start
  fresh := fresh
  classes := classes
  kept := genuine.pair authentic
  reading := .mode (by
    rw [idle, idleToo]
    exact .idle)

theorem shifted_lawful (renews : profile.Renews) (distance : Nat) :
    (shifted profile distance).Lawful profile profile :=
  displaced_lawful renews _

theorem shifted_reports {reports others : List Report}
    (alike : List.Forall₂ (shifted profile distance).ReportAlike reports others) :
    others = reports.map (Report.moved (· + distance)) := by
  induction alike with
  | nil => rfl
  | cons first _ ih => rw [List.map_cons, ← ih, first.moved id Eq.symm]

end Displaced

end Scan

end Lexing
