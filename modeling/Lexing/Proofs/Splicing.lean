import Lexing.Proofs.Absorption
import Lexing.Proofs.LineEndings
import Lexing.Proofs.Parallel

/-!
# Spliced tokens

A line continuation inside of an identifier, an operator or a line comment only moves what
stands behind it.  The scans with and without it do not go through the same modes: where
the machine does not know yet what it is reading, the line continuation makes it decide,
and the scan without it comes to the same decision later.
-/

namespace Lexing

open Literal (Stock)

/-! ## Sources with line continuations -/

/-- The line continuations in front of a symbol, which are given by offset. -/
def insertion (ends : Nat → List LineEnd) (located : Located) : List Char :=
  (ends located.offset).flatMap LineEnd.splice

/-- The source with line continuations in front of the symbols at some offsets. -/
def splicedSource (ends : Nat → List LineEnd) (source : String) : String :=
  String.ofList (Located.woven (insertion ends) (Located.ofText 0 source.toList))

/-- Where an offset gets to when the line continuations are inserted. -/
def splicedOffset (ends : Nat → List LineEnd) (source : String) : Nat → Nat :=
  Located.moved (insertion ends) (Located.ofText 0 source.toList)

namespace Scan

variable {ρ : Type} [Literal.Reader ρ] {profile : Profile ρ} {source : String}
  {state : ScanState ρ} {past : List Report}

theorem digitValue?_backslash (base : Nat) : digitValue? '\\' base = none := by
  have worthless : digitWorth? '\\' = none := by decide
  simp [digitValue?, worthless]

/-- What a language needs so that line continuations are absorbed in its tokens. -/
structure Splicing (profile : Profile ρ) : Prop where
  lettered : Lettered profile
  joins : JoinsLines profile
  feed : Terminates profile '\n'
  renews : profile.Renews

/-! ## Line feeds inside of tokens -/

section Surveyed

variable {reports : List Report} {inner : List Token} {last : Token}
  (surveyed : Surveyed profile source reports inner last)

include surveyed

/-- A line feed is fed again and again until the machine is between tokens, or until it gets
into something that can contain it. -/
theorem Surveyed.not_feed_of_yields (feed : Terminates profile '\n') {count : Nat}
    {config : Config ρ} {later : List Report}
    (yields : Yields profile (byteLength source.toList) count config later)
    (reaches : Reaches profile source past config)
    {fed : Fed} (member : fed ∈ config.queue) (interior : Interior profile source fed.offset) :
    fed.symbol ≠ '\n' := by
  induction yields generalizing past with
  | done _ done =>
      rw [done.queue] at member
      simp at member
  | @next config reaction rest later count next yields ih =>
      have onward := reaches.trans (Leads.single next)
      obtain ⟨state, queue⟩ := config
      cases queue with
      | nil => simp at member
      | cons head queue =>
          obtain ⟨rfl, rfl⟩ := nextReaction?_cons next
          rcases List.mem_cons.mp member with rfl | behind
          · intro symbol
            have solid : ¬Solid fed.offset state.mode :=
              surveyed.not_solid reaches interior (.here _) rfl (List.Subset.refl _)
            have endsWithLine : state.mode.EndsWithLine := by
              cases mode : state.mode with
              | idle => exact (surveyed.not_idle reaches interior mode).elim
              | continuation resume escape carriage =>
                  exact (surveyed.not_waiting reaches resume escape carriage mode).elim
              | blank run => simp [mode, Solid] at solid
              | blockComment text seen crossed => simp [mode, Solid] at solid
              | literal number kind => simp [mode, Solid] at solid
              | _ => trivial
            obtain ⟨reaction, _, reacts⟩ := react_terminator fed (symbol ▸ feed)
              (surveyed.sane reaches).classes endsWithLine
            exact ih onward (by simp [reacts]) symbol
          · exact ih onward (List.mem_append_right _ behind)

theorem Surveyed.not_feed (feed : Terminates profile '\n') {config : Config ρ}
    (reaches : Reaches profile source past config) {fed : Fed} (member : fed ∈ config.queue)
    (interior : Interior profile source fed.offset) : fed.symbol ≠ '\n' := by
  obtain ⟨_, ⟨_, yields⟩, _⟩ := reaches.future surveyed.foresees surveyed.received
  exact surveyed.not_feed_of_yields feed yields reaches member interior

end Surveyed

/-! ## How the two scans correspond -/

/-- Offsets move as given, except that inside of a token the symbols of the second source may
stand behind line continuations. -/
def spliceLikeness (profile : Profile ρ) (source : String) (move : Nat → Nat) : Likeness ρ :=
  displaced profile fun here there => there = move here ∨ Interior profile source here

/-- The symbols that are to be fed in both scans. -/
inductive Spread (likeness : Likeness ρ) (profile : Profile ρ) (source : String) :
    List Fed → List Fed → Prop
  | nil : Spread likeness profile source [] []
  | cons {fed other : Fed} {rest others : List Fed} {ends : List LineEnd}
      {inserted : List Located} : likeness.FedAlike fed other →
      inserted.map Located.symbol = ends.flatMap LineEnd.splice →
      (ends ≠ [] → Interior profile source fed.offset) →
      Spread likeness profile source rest others →
      Spread likeness profile source (fed :: rest) (inserted.map Fed.plain ++ other :: others)

theorem Spread.append {likeness : Likeness ρ} {first second rest others : List Fed}
    (alike : List.Forall₂ likeness.FedAlike first second)
    (spread : Spread likeness profile source rest others) :
    Spread likeness profile source (first ++ rest) (second ++ others) := by
  induction alike with
  | nil => exact spread
  | cons fed _ ih =>
      have spelled : ([] : List Located).map Located.symbol =
          ([] : List LineEnd).flatMap LineEnd.splice := rfl
      exact .cons fed spelled (by simp) ih

/-- Configurations of the two scans that correspond. -/
structure Beside (likeness : Likeness ρ) (profile : Profile ρ) (source : String)
    (one two : Config ρ) : Prop where
  reached : ∃ past, Reaches profile source past one
  states : likeness.StateAlike one.state two.state
  queues : Spread likeness profile source one.queue two.queue

/-! ## One step of both scans -/

/-- After the first scan has made some reports, both scans go on until they correspond again. -/
def Rejoins (likeness : Likeness ρ) (profile : Profile ρ) (source : String) (last : Nat)
    (told : List Report) (one two : Config ρ) : Prop :=
  ∃ more others after beyond,
    Leads profile (some (byteLength source.toList)) one more after ∧
    Leads profile (some last) two others beyond ∧
    List.Forall₂ likeness.ReportAlike (told ++ more) others ∧
    Beside likeness profile source after beyond

theorem Leads.uncons {closing : Option Nat} {one after : Config ρ} {made : List Report}
    {reaction : Reaction ρ} {rest : List Fed} (leads : Leads profile closing one made after)
    (moved : after.state.mode ≠ one.state.mode)
    (next : nextReaction? profile closing one.state one.queue = some (reaction, rest)) :
    ∃ more, made = reaction.reports ++ more ∧
      Leads profile closing ⟨reaction.state, reaction.next ++ rest⟩ more after := by
  cases leads with
  | here => exact absurd rfl moved
  | @there _ _ _ _ more first leads =>
      obtain ⟨rfl, rfl⟩ := Prod.mk.inj (Option.some.inj (first.symm.trans next))
      exact ⟨more, rfl, leads⟩

namespace Rejoins

variable {likeness : Likeness ρ} {last : Nat} {told later first : List Report}

theorem after {one two middle : Config ρ} (leads : Leads profile (some last) two first middle)
    (alike : List.Forall₂ likeness.ReportAlike told first)
    (rejoins : Rejoins likeness profile source last later one middle) :
    Rejoins likeness profile source last (told ++ later) one two := by
  obtain ⟨more, others, after, beyond, onward, onwardToo, reports, beside⟩ := rejoins
  refine ⟨more, first ++ others, after, beyond, onward, leads.trans onwardToo, ?_, beside⟩
  rw [List.append_assoc]
  exact List.rel_append alike reports

theorem of_reaction {state : ScanState ρ} {fed : Fed} {rest : List Fed} {two : Config ρ}
    (rejoins : Rejoins likeness profile source last (react profile state fed).reports
      ⟨(react profile state fed).state, (react profile state fed).next ++ rest⟩ two) :
    Rejoins likeness profile source last [] ⟨state, fed :: rest⟩ two := by
  obtain ⟨more, others, after, beyond, onward, onwardToo, reports, beside⟩ := rejoins
  exact ⟨_, others, after, beyond, (Leads.react profile _ state fed rest).trans onward, onwardToo,
    reports, beside⟩

end Rejoins

section Steps

variable {likeness : Likeness ρ} {one two : ScanState ρ} {fed other : Fed} {rest others : List Fed}
  {last : Nat} (lawful : likeness.Lawful profile profile)

include lawful

theorem react_rejoins (reaches : Reaches profile source past ⟨one, fed :: rest⟩)
    (states : likeness.StateAlike one two) (feds : likeness.FedAlike fed other)
    (behind : Spread likeness profile source rest others) :
    Rejoins likeness profile source last (react profile one fed).reports
      ⟨(react profile one fed).state, (react profile one fed).next ++ rest⟩
      ⟨two, other :: others⟩ := by
  have alike := Likeness.react_alike lawful states feds
  refine ⟨[], _, _, _, .here _, Leads.react profile (some last) two other others, ?_, ?_⟩
  · rw [List.append_nil]
    exact alike.reports
  · exact ⟨⟨_, reaches.trans (Leads.react profile _ one fed rest)⟩, alike.state,
      behind.append alike.next⟩

end Steps

/-- A backslash makes letters that may introduce a literal begin an identifier. -/
theorem letters_returned (splices : Splicing profile) (own : state.ownClasses = none)
    {walk : Walk} {first : Located} {letters : List Located}
    (mode : state.mode = .literalPrefix walk)
    (incomplete : walk.terminal = none) (pending : walk.pending = first :: letters)
    (traits : profile.classes.classify first.symbol =
      { identifierFirst := true, identifier := true, literalFirst := true })
    (unpointed : first.symbol ≠ '.') (closing : Option Nat) (escape : Nat) (queue : List Fed) :
    Leads profile closing ⟨state, .plain ⟨'\\', escape⟩ :: queue⟩ []
      ⟨identifying state first.offset,
        letters.map Fed.plain ++ .plain ⟨'\\', escape⟩ :: queue⟩ := by
  have stuck : profile.literals.advance walk.node '\\' = none := by
    refine Option.eq_none_iff_forall_ne_some.mpr fun child edge => ?_
    have inert := (splices.lettered.edges edge).2.2
    simp [splices.joins.2] at inert
  have reacts : react profile state (.plain ⟨'\\', escape⟩) =
      ((state.become .idle).feed (Fed.firstExempt { literal := true } (first :: letters))).feed
        [.plain ⟨'\\', escape⟩] := by
    simp [react, mode, readLiteralPrefix, Fed.plain, stuck, stuckLiteral, incomplete, pending]
  have stepped := Leads.react profile closing state (.plain ⟨'\\', escape⟩) queue
  have released := letters_released closing own traits unpointed letters
    (.plain ⟨'\\', escape⟩ :: queue)
  rw [reacts] at stepped
  simp only [Reaction.feed_next, List.append_assoc, List.singleton_append] at stepped
  exact stepped.trans released

/-- The second scan meets line continuations in front of a symbol that both are to read. -/
structure Interrupted (likeness : Likeness ρ) (profile : Profile ρ) (source : String)
    (past : List Report) (one two : ScanState ρ) (fed other : Fed) (rest others : List Fed)
    (ends : List LineEnd) (inserted : List Located) : Prop where
  reaches : Reaches profile source past ⟨one, fed :: rest⟩
  states : likeness.StateAlike one two
  feds : likeness.FedAlike fed other
  spelled : inserted.map Located.symbol = ends.flatMap LineEnd.splice
  interior : Interior profile source fed.offset
  behind : Spread likeness profile source rest others

namespace Interrupted

variable {likeness : Likeness ρ} {one two : ScanState ρ} {fed other : Fed} {rest others : List Fed}
  {ends : List LineEnd} {inserted : List Located} {last : Nat} {reports : List Report}
  {inner : List Token} {final : Token}
  (interrupted : Interrupted likeness profile source past one two fed other rest others ends
    inserted)

include interrupted

theorem spread : Spread likeness profile source (fed :: rest)
    (inserted.map Fed.plain ++ other :: others) :=
  .cons interrupted.feds interrupted.spelled (fun _ => interrupted.interior) interrupted.behind

theorem backslash (spliced : ends ≠ []) :
    ∃ escape more, inserted = ⟨'\\', escape⟩ :: more := by
  have spelled := interrupted.spelled
  obtain ⟨lineEnd, ends, rfl⟩ := List.exists_cons_of_ne_nil spliced
  rw [List.flatMap_cons] at spelled
  cases lineEnd with
  | feed | carriage | both =>
      obtain ⟨⟨_, escape⟩, more, rfl, rfl, _⟩ := List.map_eq_cons_iff.mp spelled
      exact ⟨escape, more, rfl⟩

variable (surveyed : Surveyed profile source reports inner final) (splices : Splicing profile)

include surveyed

theorem own : two.ownClasses = none :=
  interrupted.states.classes.trans (surveyed.sane interrupted.reaches).classes

theorem not_solid : ¬Solid fed.offset one.mode :=
  surveyed.not_solid interrupted.reaches interrupted.interior (.here _) rfl (List.Subset.refl _)

variable (lawful : likeness.Lawful profile profile)

include splices lawful

/-- Inside of an identifier, an operator or a line comment, line continuations are absorbed. -/
theorem absorbed (resume : Resume) (busy : resume ≠ .idle) (mode : two.mode = resume.mode) :
    Rejoins likeness profile source last (react profile one fed).reports
      ⟨(react profile one fed).state, (react profile one fed).next ++ rest⟩
      ⟨two, inserted.map Fed.plain ++ other :: others⟩ := by
  have inner : other.symbol ≠ '\n' := by
    rw [interrupted.feds.symbol]
    exact surveyed.not_feed splices.feed interrupted.reaches (by simp) interrupted.interior
  have absorbs : Leads profile (some last) ⟨two, inserted.map Fed.plain ++ other :: others⟩ []
      ⟨two, other :: others⟩ :=
    splices_absorbed splices.joins (interrupted.own surveyed) busy mode interrupted.spelled inner
      others
  exact Rejoins.after absorbs .nil (react_rejoins lawful interrupted.reaches interrupted.states
    interrupted.feds interrupted.behind)

omit splices in
/-- A point that waits for a digit is given back by a line continuation, and by the symbol
behind it as well, which is no digit inside of an operator. -/
theorem point (spliced : ends ≠ []) {value : Numeral} {dot place : Nat} {hasInteger : Bool}
    (mode : one.mode = .maybeFloat value dot hasInteger)
    (modeToo : two.mode = .maybeFloat value place hasInteger)
    (points : likeness.LocatedAlike ⟨'.', dot⟩ ⟨'.', place⟩) :
    Rejoins likeness profile source last (react profile one fed).reports
      ⟨(react profile one fed).state, (react profile one fed).next ++ rest⟩
      ⟨two, inserted.map Fed.plain ++ other :: others⟩ := by
  have reaches := interrupted.reaches
  have states := interrupted.states
  have stepped := Leads.react profile (some (byteLength source.toList)) one fed rest
  have digitless : digitValue? fed.symbol value.base = none := by
    cases found : digitValue? fed.symbol value.base with
    | none => rfl
    | some digit =>
        have reacts : react profile one fed =
            one.become (.float (value.startFraction.pushFractionDigit digit)) := by
          simp [react, mode, readMaybeFloat, found]
        rw [reacts] at stepped
        exact absurd trivial
          (surveyed.not_solid reaches interrupted.interior stepped rfl (List.subset_cons_self _ _))
  have reacts : react profile one fed = (releaseDot one value dot hasInteger).feed [fed] := by
    simp [react, mode, readMaybeFloat, digitless]
  have spread := interrupted.spread
  obtain ⟨escape, more, rfl⟩ := interrupted.backslash spliced
  have reactsToo : react profile two (.plain ⟨'\\', escape⟩) =
      (releaseDot two value place hasInteger).feed [.plain ⟨'\\', escape⟩] := by
    simp [react, modeToo, readMaybeFloat, Fed.plain, digitValue?_backslash]
  have steppedToo := Leads.react profile (some last) two (.plain ⟨'\\', escape⟩)
    (more.map Fed.plain ++ other :: others)
  rw [reacts] at stepped ⊢
  rw [reactsToo] at steppedToo
  simp only [Reaction.feed, releaseDot_next, List.nil_append, List.cons_append]
    at stepped steppedToo ⊢
  -- Both points are looked at again, now exempt from starting a number.
  have released := Likeness.releaseDot_alike states.toFrameAlike value hasInteger points
  have dots : likeness.FedAlike (.exemptPoint dot) (.exemptPoint place) := ⟨points, rfl⟩
  rw [← List.append_nil (releaseDot one value dot hasInteger).reports]
  refine Rejoins.after steppedToo released.reports (Rejoins.of_reaction ?_)
  exact react_rejoins lawful (reaches.trans stepped) released.state dots spread

omit lawful in
/-- Letters that may introduce a literal turn out to begin an identifier: their introduction is
not completed, because the token is no literal. -/
theorem letters_settled {walk : Walk} (mode : one.mode = .literalPrefix walk) :
    ∃ first letters, walk.pending = first :: letters ∧ walk.terminal = none ∧
      profile.classes.classify first.symbol =
        { identifierFirst := true, identifier := true, literalFirst := true } ∧
      first.symbol ≠ '.' ∧
      Leads profile (some (byteLength source.toList)) ⟨one, fed :: rest⟩ []
        ⟨identifying one first.offset, letters.map Fed.plain ++ fed :: rest⟩ := by
  have reaches := interrupted.reaches
  have lettered := splices.lettered
  have sane := surveyed.sane reaches
  have traces : walk.Traces profile.literals := by
    have valid := sane.valid
    rwa [ScanState.Valid, mode] at valid
  have unopened : ∀ {config : Config ρ},
      Leads profile (some (byteLength source.toList)) ⟨one, fed :: rest⟩ [] config →
      ¬Lettered.Opens (fed :: rest) config := by
    intro config leads opens
    obtain ⟨⟨number, kind, literal⟩, ahead⟩ := opens
    exact surveyed.not_solid reaches interrupted.interior leads rfl ahead (by simp [literal, Solid])
  have incomplete : walk.terminal = none := by
    cases terminal : walk.terminal with
    | none => rfl
    | some found =>
        obtain ⟨config, leads, opens⟩ := lettered.complete_opens (byteLength source.toList) mode
          traces (by simp [terminal]) (fed :: rest)
        exact (unopened leads opens).elim
  obtain ⟨first, letters, pending⟩ := List.exists_cons_of_ne_nil traces.nonempty
  obtain ⟨traits, unpointed⟩ := lettered.first_letter traces incomplete pending
  obtain ⟨config, leads, rfl | opens⟩ := lettered.resolves (byteLength source.toList) sane.classes
    mode traces incomplete pending (reaches.plain lettered.sound (by simp [mode]))
  · exact ⟨first, letters, pending, incomplete, traits, unpointed, leads⟩
  · exact (unopened leads opens).elim

omit lawful in
/-- Letters that may introduce a literal are given back by a line continuation, and in the scan
without it a little later. -/
theorem letters (spliced : ends ≠ []) {walk another : Walk}
    (mode : one.mode = .literalPrefix walk) (modeToo : two.mode = .literalPrefix another)
    (walks : likeness.WalkAlike likeness.numbering.literal walk another) :
    Rejoins likeness profile source last (react profile one fed).reports
      ⟨(react profile one fed).state, (react profile one fed).next ++ rest⟩
      ⟨two, inserted.map Fed.plain ++ other :: others⟩ := by
  have reaches := interrupted.reaches
  have states := interrupted.states
  obtain ⟨first, letters, pending, incomplete, traits, unpointed, leads⟩ :=
    interrupted.letters_settled surveyed splices mode
  obtain ⟨more, silent, onward⟩ := leads.uncons (by simp [identifying, mode]) rfl
  obtain ⟨quiet, rfl⟩ := List.append_eq_nil_iff.mp silent.symm
  rw [quiet]
  have spread := interrupted.spread
  obtain ⟨escape, further, rfl⟩ := interrupted.backslash spliced
  have alike := walks.pending
  rw [pending] at alike
  generalize same : another.pending = symbols at alike
  cases alike with
  | @cons _ place _ places located alike =>
      have onwardToo := letters_returned splices (interrupted.own surveyed) modeToo
        (walks.terminal_none incomplete) same (by rw [located.symbol]; exact traits)
        (by rw [located.symbol]; exact unpointed) (some last) escape
        (further.map Fed.plain ++ other :: others)
      refine ⟨[], [], _, _, onward, onwardToo, .nil, ⟨_, reaches.trans leads⟩, ?_, ?_⟩
      · exact ⟨⟨located.offset, states.fresh, states.classes, states.kept⟩, .mode .identifier⟩
      · exact spread.append (Likeness.fedAlike_plain alike)

theorem rejoins (spliced : ends ≠ []) :
    Rejoins likeness profile source last (react profile one fed).reports
      ⟨(react profile one fed).state, (react profile one fed).next ++ rest⟩
      ⟨two, inserted.map Fed.plain ++ other :: others⟩ := by
  have reaches := interrupted.reaches
  have solid := interrupted.not_solid surveyed
  rcases interrupted.states.reading with modes | ⟨mode, _⟩
  · generalize first : one.mode = mode, second : two.mode = next at modes
    rw [first] at solid
    cases modes with
    | idle => exact (surveyed.not_idle reaches interrupted.interior first).elim
    | identifier => exact interrupted.absorbed surveyed splices lawful .identifier (by simp) second
    | operator walks =>
        exact interrupted.absorbed surveyed splices lawful (.operator _) (by simp) second
    | lineComment text =>
        exact interrupted.absorbed surveyed splices lawful (.lineComment text) (by simp) second
    | maybeFloat value hasInteger points =>
        exact interrupted.point surveyed lawful spliced first second points
    | literalPrefix walks => exact interrupted.letters surveyed splices spliced first second walks
    | continuation resumes =>
        exact (surveyed.not_waiting reaches _ _ _ first).elim
    | numberPrefix nodes alike =>
        obtain ⟨border, stands⟩ := reaches.stands surveyed.fits surveyed.setting
        exact absurd (stands.adjacent _ _ first) solid
    | _ => exact absurd trivial solid
  · rw [mode] at solid
    exact absurd trivial solid

end Interrupted

/-! ## Whole scans -/

section Guides

variable {reports : List Report} {inner : List Token} {final : Token} {move : Nat → Nat}
  {last : Nat}

theorem Splicing.guides (splices : Splicing profile)
    (surveyed : Surveyed profile source reports inner final)
    (ends : last = move (byteLength source.toList)) :
    (spliceLikeness profile source move).Guides profile (byteLength source.toList) last
      (Beside (spliceLikeness profile source move) profile source) where
  ends := Or.inl ends
  done := by
    rintro ⟨one, queue⟩ ⟨two, others⟩ ⟨reached, states, queues⟩ done
    obtain rfl : queue = [] := done.queue
    cases queues
    exact ⟨Likeness.done_alike (displaced_lawful splices.renews _) states (Or.inl ends) done,
      states.fresh⟩
  next := by
    rintro ⟨one, queue⟩ ⟨two, others⟩ reaction rest ⟨⟨past, reaches⟩, states, queues⟩ next
    have lawful : (spliceLikeness profile source move).Lawful profile profile :=
      displaced_lawful splices.renews _
    cases queues with
    | nil =>
        obtain ⟨rfl, answer, flushed, alike⟩ :=
          Likeness.nextReaction?_nil_alike lawful states (Or.inl ends) next
        refine ⟨[], _, _, _, .here _, Leads.flush flushed, ?_,
          ⟨⟨_, reaches.trans (Leads.single next)⟩, alike.state, ?_⟩⟩
        · rw [List.append_nil]
          exact alike.reports
        · simpa using Spread.append alike.next .nil
    | @cons fed other _ others ends inserted feds spelled interior behind =>
        obtain ⟨rfl, rfl⟩ := nextReaction?_cons next
        by_cases spliced : ends = []
        · subst spliced
          obtain rfl : inserted = [] := by simpa using spelled
          exact react_rejoins lawful reaches states feds behind
        · exact Interrupted.rejoins ⟨reaches, states, feds, spelled, interior spliced, behind⟩
            surveyed splices lawful spliced

theorem spread_of_interwoven {ends : Nat → List LineEnd} {symbols others : List Located}
    (inside : ∀ offset, ends offset ≠ [] → Interior profile source offset)
    (interwoven : Located.Interwoven (insertion ends) move symbols others) :
    Spread (spliceLikeness profile source move) profile source (symbols.map Fed.plain)
      (others.map Fed.plain) := by
  induction interwoven with
  | nil => exact .nil
  | @cons located placed rest others symbol offset stop _ ih =>
      rw [List.map_append]
      refine .cons ⟨⟨symbol, trivial, ?_, Or.inl stop⟩, rfl⟩ (Located.map_symbol_ofText _ _)
        (inside located.offset) ih
      by_cases bare : ends located.offset = []
      · rw [insertion, bare] at offset
        exact Or.inl offset
      · exact Or.inr (inside _ bare)

theorem tokens_moved {tokens others : List Token}
    (alike : List.Forall₂ (spliceLikeness profile source move).TokenAlike tokens others)
    (borders : ∀ token ∈ tokens, ¬Interior profile source token.span.start ∧
      ¬Interior profile source token.span.stop) :
    others = tokens.map (Token.moved move) := by
  induction alike with
  | nil => rfl
  | @cons token other _ _ first _ ih =>
      obtain ⟨start, stop⟩ := borders token (by simp)
      rw [List.map_cons, ← ih fun token member => borders token (by simp [member]),
        first.moved (first.start.resolve_right start) (first.stop.resolve_right stop) Eq.symm]

end Guides

/-! ## Sources in C -/

/-- An edge leaves an introduction of a literal that is not complete, and one that begins a
longer introduction is a letter. -/
def LetterEdge (profile : Profile Stock) (parent : NodeId) (symbol : Char) (child : NodeId) :
    Prop :=
  (profile.literals.kind? parent = none ∧ symbol ≠ '.' ∧
      (profile.classes.classify symbol).escape = false) ∧
    (parent = Trie.root → profile.literals.kind? child = none →
      profile.classes.classify symbol =
        { identifierFirst := true, identifier := true, literalFirst := true })

instance (profile : Profile Stock) (parent : NodeId) (symbol : Char) (child : NodeId) :
    Decidable (LetterEdge profile parent symbol child) :=
  inferInstanceAs (Decidable (_ ∧ _))

theorem CLike.literals_edges :
    ∀ parent < CLike.profile.literals.nodes.size,
      ∀ edge ∈ (CLike.profile.literals.nodes[parent]?.map Trie.Node.children).getD [],
        LetterEdge CLike.profile parent edge.1 edge.2 := by
  decide +kernel

theorem CLike.letterEdge {parent child : NodeId} {symbol : Char}
    (edge : CLike.profile.literals.advance parent symbol = some child) :
    LetterEdge CLike.profile parent symbol child :=
  Trie.holds_of_advance CLike.literals_edges edge

theorem CLike.splicing : Splicing CLike.profile where
  lettered := {
    sound := CLike.profile_made.sound
    edges := fun edge => (CLike.letterEdge edge).1
    letters := fun edge => (CLike.letterEdge edge).2 rfl }
  joins := by
    unfold JoinsLines
    decide +kernel
  feed := CLike.neutral.feed
  renews := Profile.renews_of_stock _

theorem CLike.surveyed {source : String} (bare : '\\' ∉ source.toList)
    (fits : byteLength source.toList ≤ maxOffset) :
    ∃ reports inner last, Surveyed CLike.profile source reports inner last :=
  surveyed_of_unescaped CLike.profile_made.sound CLike.dotted.literals (.inr (CLike.unescaped bare))
    fits

theorem tokens_splicedSource {profile : Profile Stock} (splices : Splicing profile)
    (finite : Ends profile) {source : String} {ends : Nat → List LineEnd} {reports : List Report}
    {inner : List Token} {final : Token} (surveyed : Surveyed profile source reports inner final)
    (inside : ∀ offset, ends offset ≠ [] → Interior profile source offset)
    (fits : byteLength (splicedSource ends source).toList ≤ maxOffset) :
    tokens profile (splicedSource ends source) =
      (tokens profile source).map (Token.moved (splicedOffset ends source)) := by
  have text : (splicedSource ends source).toList =
      Located.woven (insertion ends) (Located.ofText 0 source.toList) := by
    rw [splicedSource, String.toList_ofList]
  have total := Located.moved_whole (insertion ends) surveyed.fits
  have interwoven : Located.Interwoven (insertion ends) _ _ _ := Located.interwoven (text ▸ fits)
  rw [← splicedOffset, ← text] at total interwoven
  obtain ⟨others, foresees, received, _⟩ := transcribed fits (finite _ fits)
  have start : Beside (spliceLikeness profile source (splicedOffset ends source)) profile source
      (opening source) (opening (splicedSource ends source)) := {
    reached := ⟨[], .here _⟩
    states := displaced_idle (.initial profile) (.initial profile)
      (Or.inl (by simp [opening, splicedOffset, Located.moved, byteLength])) rfl rfl rfl rfl
    queues := spread_of_interwoven inside interwoven }
  refine tokens_moved ((splices.guides surveyed total.symm).tokens start surveyed.foresees
    surveyed.received foresees received) fun token member => ?_
  exact ⟨fun interior => (interior.not_border surveyed.decomposed surveyed.tiling member).1 rfl,
    fun interior => (interior.not_border surveyed.decomposed surveyed.tiling member).2 rfl⟩

/-- Line continuations strictly inside of identifiers, operators and line comments only move the
tokens, unless the source becomes too large with them. -/
theorem splices_transparent {source : String} (bare : '\\' ∉ source.toList)
    (ends : Nat → List LineEnd)
    (inside : ∀ offset, ends offset ≠ [] → Interior CLike.profile source offset) :
    Delivers CLike.profile source ∧ Delivers CLike.profile (splicedSource ends source) ∧
      tokens CLike.profile (splicedSource ends source) =
        if byteLength (splicedSource ends source).toList ≤ maxOffset then
          (tokens CLike.profile source).map (Token.moved (splicedOffset ends source))
        else [] := by
  refine ⟨delivers_of_ends CLike.ends _, delivers_of_ends CLike.ends _, ?_⟩
  by_cases fits : byteLength (splicedSource ends source).toList ≤ maxOffset
  · rw [if_pos fits]
    have short : byteLength source.toList ≤ maxOffset := by
      have longer := Located.byteLength_le_woven (insertion ends) source.toList
      rw [splicedSource, String.toList_ofList] at fits
      omega
    obtain ⟨reports, inner, final, surveyed⟩ := CLike.surveyed bare short
    exact tokens_splicedSource CLike.splicing CLike.ends surveyed inside fits
  · rw [if_neg fits, tokens, (events_of_large CLike.profile fits).1]
    rfl

/-- Line continuations behind a letter that may introduce a literal, behind a point that waits
for a digit and between the slashes of a comment. -/
def someSplices : Nat → List LineEnd
  | 1 => [.both]
  | 4 => [.feed, .carriage]
  | 7 => [.feed]
  | _ => []

theorem splices_transparent_points :
    splicedSource someSplices "u8x...//a" = "u\\\r\n8x.\\\n\\\r../\\\n/a" ∧
      tokens CLike.profile "u\\\r\n8x.\\\n\\\r../\\\n/a" =
        [{ atLineStart := true, kind := .identifier, span := ⟨0, 6⟩ },
          { kind := .operator 38, span := ⟨6, 13⟩ },
          { kind := .lineComment, span := ⟨13, 18⟩, payload := .comment "a" },
          { kind := .fin, span := ⟨18, 18⟩ }] := by
  have scanned : tokens CLike.profile "u8x...//a" =
      [{ atLineStart := true, kind := .identifier, span := ⟨0, 3⟩ },
        { kind := .operator 38, span := ⟨3, 6⟩ },
        { kind := .lineComment, span := ⟨6, 9⟩, payload := .comment "a" },
        { kind := .fin, span := ⟨9, 9⟩ }] := by
    decide +kernel
  have spliced : splicedSource someSplices "u8x...//a" =
      "u\\\r\n8x.\\\n\\\r../\\\n/a" := by
    decide +kernel
  have inside : ∀ offset, someSplices offset ≠ [] →
      Interior CLike.profile "u8x...//a" offset := by
    intro offset inserted
    rw [Interior, scanned]
    unfold someSplices at inserted
    split at inserted
    · exact ⟨_, .head _, by decide, by decide, by decide⟩
    · exact ⟨_, .tail _ (.head _), by decide, by decide, by decide⟩
    · exact ⟨_, .tail _ (.tail _ (.head _)), by decide, by decide, by decide⟩
    · exact absurd rfl inserted
  have moved := (splices_transparent (by decide) someSplices inside).2.2
  refine ⟨spliced, ?_⟩
  rw [spliced, scanned] at moved
  rw [moved]
  decide +kernel

end Scan

end Lexing
