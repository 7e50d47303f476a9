import Lexing.Proofs.Complaints
import Lexing.Proofs.Reading

/-!
# Moments of a scan

At every moment of a scan the symbols of the source are accounted for, and a token that has
begun knows what was read since.  Every report of a scan belongs to one reaction, so what is
known at such a moment tells which text a token has.
-/

namespace Lexing

namespace Scan

variable {ρ : Type} {profile : Profile ρ} {source : String} {pointed : Segment → Prop}
  {state : ScanState ρ} {config : Config ρ} {reaction : Reaction ρ} {rest : List Fed} {fed : Fed}

/-! ## Line continuations between tokens -/

variable [Literal.Reader ρ]

/-- What an escape symbol has interrupted goes on behind it. -/
theorem Answered.resting {stop : Nat} {next : Option Fed}
    (answered : Answered profile stop state next reaction) {resume : Resume} {escape : Located}
    {carriage : Option Nat} (mode : state.mode = .continuation resume escape carriage) :
    reaction.state.mode.resting = resume.mode := by
  cases answered.continued mode with
  | carriage => rfl
  | joins | joinsBefore | abandons => simp [resting_resume]

/-- Waiting between tokens ends between tokens. -/
theorem Answered.resting_of_idle {stop : Nat} {next : Option Fed}
    (answered : Answered profile stop state next reaction) (idle : state.mode.resting = .idle)
    (waits : state.mode ≠ .idle) : reaction.state.mode.resting = .idle := by
  obtain ⟨escape, carriage, mode⟩ :
      ∃ escape carriage, state.mode = .continuation .idle escape carriage := by
    cases mode : state.mode with
    | continuation resume escape carriage =>
        cases resume with
        | idle => exact ⟨escape, carriage, rfl⟩
        | _ => simp [mode, Mode.resting, Resume.mode] at idle
    | idle => exact absurd mode waits
    | _ => simp [mode, Mode.resting] at idle
  exact answered.resting mode

/-! ## Moments -/

/-- All symbols of the source are accounted for, and a token that has begun knows what was
read since. -/
structure Moment (pointed : Segment → Prop) (profile : Profile ρ) (source : String)
    (config : Config ρ) : Prop where
  sane : Sane profile config.state
  standing : ∃ tokens splices, Standing (.tight pointed) profile
    (Located.ofText 0 source.toList) (byteLength source.toList) tokens splices config.state
    (config.queue.map Fed.toLocated) []
  reads : config.state.mode.resting ≠ .idle → ∃ read, Ahead source config.state.tokenStart
      (read ++ (config.state.mode.waiting ++ config.queue.map Fed.toLocated)) ∧
    Recalls pointed profile config.state.mode.resting read

omit [Literal.Reader ρ] in
/-- What lies ahead after a reaction shows how it has moved the borders. -/
theorem Carries.recalls {symbols read : List Located} {start : Nat} {queue : List Fed}
    (carries : Carries pointed profile symbols reaction)
    (before : Ahead source start (symbols ++ queue.map Fed.toLocated))
    (after : Ahead source start (read ++ (reaction.state.mode.waiting ++
      (reaction.next ++ queue).map Fed.toLocated))) :
    Recalls pointed profile reaction.state.mode.resting read := by
  refine carries read (List.append_cancel_right ((before.unique after).trans ?_))
  simp

section Runs

variable (fits : byteLength source.toList ≤ maxOffset)
  (setting : Setting (.tight pointed) profile (Located.ofText 0 source.toList))

include fits setting

theorem keeps_moment :
    Keeps profile (some (byteLength source.toList)) (Moment pointed profile source) := by
  rintro ⟨state, queue⟩ reaction rest ⟨sane, ⟨tokens, splices, standing⟩, reads⟩ next
  obtain ⟨_, stands⟩ := next_standing setting sane standing next
  obtain ⟨symbol, rfl, _, answered⟩ := answered_next next
  refine ⟨answered.sane setting.sound sane, ⟨_, _, stands⟩, fun busy => ?_⟩
  obtain ⟨read, after⟩ := stands.ahead fits busy
  refine ⟨read, after, ?_⟩
  by_cases idle : state.mode = .idle
  · obtain ⟨fed, rfl, rfl⟩ := answered.of_idle idle
    obtain ⟨trail, chain, before⟩ := standing.ahead_idle fits idle
    rw [← List.cons_append] at before
    rw [dispatch_tokenStart] at after
    refine Carries.recalls ?_ before after
    rcases chain with rfl | isPointed
    · exact dispatch_carries setting.sound idle
    · exact dispatch_pointed_carries setting sane.classes isPointed
  · have begun : state.mode.resting ≠ .idle :=
      fun resting => busy (answered.resting_of_idle resting idle)
    obtain ⟨earlier, before, recalls⟩ := reads begun
    rw [answered.tokenStart idle] at after
    have carries := answered.carries setting.sound sane begun
      (List.nodup_append.mp (before.nodup fits)).1 recalls
    exact carries.recalls (by simpa using before) after

/-- Everything that a scan reaches is such a moment. -/
theorem Reaches.moment {past : List Report} (reaches : Reaches profile source past config) :
    Moment pointed profile source config := by
  refine Leads.keeps reaches (keeps_moment fits setting) ⟨?_, ⟨[], [], ?_⟩, ?_⟩
  · exact ⟨ScanState.valid_idle rfl, rfl, by simp [opening]⟩
  · simpa [opening] using opening_standing fits
  · exact fun busy => absurd rfl busy

end Runs

/-! ## Reports -/

/-- Behind remarks that are no tokens, a token can only be the last report. -/
theorem last_of_remarks (remarks : List Report) {told more : List Report} {last : Report}
    {token : Token} (silent : ∀ report ∈ remarks, report.event.token? = none)
    (reports : remarks ++ [last] = told ++ .token token :: more) : more = [] := by
  induction remarks generalizing told with
  | nil =>
      have length := congrArg List.length reports
      simp only [List.length_append, List.length_cons, List.length_nil] at length
      exact List.length_eq_zero_iff.mp (by omega)
  | cons remark remarks ih =>
      cases told with
      | nil =>
          obtain rfl : remark = .token token := (List.cons.inj reports).1
          exact absurd (silent _ (List.mem_cons_self ..)) (by simp [Report.event, Event.token?])
      | cons _ told =>
          exact ih (fun report member => silent report (List.mem_cons_of_mem _ member))
            (List.cons.inj reports).2

omit [Literal.Reader ρ] in
/-- A token is the last report of its reaction. -/
theorem Tells.last {before : Mode} (tells : Tells before reaction) {told more : List Report}
    {token : Token} (reports : reaction.reports = told ++ .token token :: more) : more = [] := by
  cases tells with
  | nothing all => simp [all] at reports
  | token all | remark all => exact last_of_remarks [] nofun (all.symm.trans reports)
  | remarkedToken all | rejection _ all =>
      exact last_of_remarks [_] (by simp [Report.event, Event.token?]) (all.symm.trans reports)
  | unknownOperator _ all | malformed _ all =>
      exact last_of_remarks [_, _] (by simp [Report.event, Event.token?])
        (all.symm.trans reports)

/-- One of the reactions that follow from a configuration on makes the report, after all those
before it. -/
inductive Arises (profile : Profile ρ) (stop : Nat) (config : Config ρ) (before : List Report)
    (report : Report) : Prop
  | intro {past told more : List Report} {middle : Config ρ} {reaction : Reaction ρ}
      {rest : List Fed} : Leads profile (some stop) config past middle →
      nextReaction? profile (some stop) middle.state middle.queue = some (reaction, rest) →
      before = past ++ told → reaction.reports = told ++ report :: more →
      Arises profile stop config before report

/-- Every report of a run but the token at the end arises from a reaction. -/
theorem Yields.arises {stop count : Nat} {reports before after : List Report} {report : Report}
    (yields : Yields profile stop count config reports)
    (cut : reports = before ++ report :: after)
    (inner : ∀ token, report = .token token → token.kind ≠ .fin) :
    Arises profile stop config before report := by
  induction yields generalizing before with
  | @done config _ _ =>
      obtain ⟨rfl, same⟩ | ⟨_, same⟩ := List.append_eq_singleton_iff.mp cut.symm
      · exact absurd rfl (inner _ (List.cons_eq_cons.mp same).1)
      · simp at same
  | @next config reaction rest reports _ next _ ih =>
      have later : ∀ {before}, reports = before ++ report :: after →
          Arises profile stop config (reaction.reports ++ before) report := by
        intro before cut
        cases ih cut with
        | intro leads found split told =>
            exact .intro (.there next leads) found (by rw [split, List.append_assoc]) told
      rcases List.append_eq_append_iff.mp cut with ⟨late, rfl, split⟩ | ⟨late, split, rest⟩
      · exact later split
      · cases late with
        | nil =>
            rw [List.append_nil] at split
            have arises : Arises profile stop config (reaction.reports ++ []) report :=
              later rest.symm
            rwa [List.append_nil, split] at arises
        | cons first late =>
            obtain ⟨rfl, _⟩ := List.cons_eq_cons.mp rest
            exact .intro (.here _) next rfl split

theorem arises_of_events (fits : byteLength source.toList ≤ maxOffset)
    (undotted : profile.literals.advance Trie.root '.' = none)
    (setting : Setting (.tight pointed) profile (Located.ofText 0 source.toList))
    {before after : List Event} {event : Event}
    (cut : events profile source = before ++ event :: after)
    (inner : ∀ token, event = .token token → token.kind ≠ .fin) :
    ∃ past report, report.event = event ∧ past.map Report.event = before ∧
      Arises profile (byteLength source.toList) (opening source) past report := by
  have adjoin := Located.adjoin_source fits
  obtain ⟨reports, ⟨count, yields⟩, recorded, _⟩ :=
    transcribed fits (bounded_of_setting setting adjoin undotted)
  rw [recorded] at cut
  obtain ⟨past, others, rfl, early, late⟩ := List.map_eq_append_iff.mp cut
  obtain ⟨report, future, rfl, same, _⟩ := List.map_eq_cons_iff.mp late
  refine ⟨past, report, same, early, yields.arises rfl fun token isToken => inner token ?_⟩
  rw [← same, isToken, Report.event]

/-- A token that is not the end is reported by a reaction. -/
theorem arises_of_token (fits : byteLength source.toList ≤ maxOffset)
    (undotted : profile.literals.advance Trie.root '.' = none)
    (setting : Setting (.tight pointed) profile (Located.ofText 0 source.toList))
    {before after : List Event} {token : Token}
    (cut : events profile source = before ++ .token token :: after) (inner : token.kind ≠ .fin) :
    ∃ past, past.map Report.event = before ∧
      Arises profile (byteLength source.toList) (opening source) past (.token token) := by
  obtain ⟨past, report, same, early, arises⟩ :=
    arises_of_events fits undotted setting cut fun other isOther => by
      obtain rfl := Event.token.inj isOther
      exact inner
  obtain rfl := Report.event_eq_token.mp same
  exact ⟨past, early, arises⟩

end Scan

end Lexing
