import Lexing.Proofs.Moments
import Lexing.Proofs.Truncation

/-!
# Where reports come from

Every report but the token at the end of the input comes from a reaction to which the scan leads.
This also holds of scans that do not come to an end: what they report before they are given up
arises in the same way.
-/

namespace Lexing

namespace Scan

variable {ρ : Type} {profile : Profile ρ} {stop : Nat}

/-- What two traces report one after the other. -/
theorem Trace.mem_andThen {trace : Trace ρ} {next : ScanState ρ → Trace ρ} {report : Report}
    (told : report ∈ (trace.andThen next).reports) :
    report ∈ trace.reports ∨ trace.result = .ok () ∧ report ∈ (next trace.state).reports := by
  unfold Trace.andThen at told
  cases ended : trace.result with
  | error =>
      rw [ended] at told
      exact Or.inl told
  | ok =>
      rw [ended] at told
      exact (List.mem_append.mp told).imp_right fun late => ⟨rfl, late⟩

variable [Literal.Reader ρ] {config middle : Config ρ} {queue more left : List Fed}

/-- What arises later on. -/
theorem Arises.after {past before : List Report} {report : Report}
    (arises : Arises profile stop middle before report)
    (leads : Leads profile (some stop) config past middle) :
    Arises profile stop config (past ++ before) report := by
  cases arises with
  | intro onward next split reports =>
      exact .intro (leads.trans onward) next (by rw [split, List.append_assoc]) reports

/-- The reports of the trace arise from the configuration on.  If there was no error, the symbols
`left` are still to be fed. -/
structure Trace.Originates (profile : Profile ρ) (stop : Nat) (config : Config ρ) (left : List Fed)
    (trace : Trace ρ) : Prop where
  arises : ∀ report ∈ trace.reports, ∃ before, Arises profile stop config before report
  leads : trace.result = .ok () →
    Leads profile (some stop) config trace.reports ⟨trace.state, left⟩

theorem Trace.Originates.andThen {trace : Trace ρ} {next : ScanState ρ → Trace ρ}
    (originates : trace.Originates profile stop config more)
    (onward : (next trace.state).Originates profile stop ⟨trace.state, more⟩ left) :
    (trace.andThen next).Originates profile stop config left where
  arises report told := by
    rcases Trace.mem_andThen told with early | ⟨ended, late⟩
    · exact originates.arises report early
    · obtain ⟨before, arises⟩ := onward.arises report late
      exact ⟨_, arises.after (originates.leads ended)⟩
  leads ended := by
    unfold Trace.andThen at ended ⊢
    cases whole : trace.result with
    | error => simp [whole] at ended
    | ok =>
        rw [whole] at ended
        exact (originates.leads whole).trans (onward.leads ended)

/-- Symbols that are still to be fed make no difference before the others were. -/
theorem nextReaction?_append {closing : Option Nat} {state : ScanState ρ} {reaction : Reaction ρ}
    {rest : List Fed} (later : closing = none ∨ closing = some stop ∧ more = [])
    (next : nextReaction? profile closing state queue = some (reaction, rest)) :
    nextReaction? profile (some stop) state (queue ++ more) = some (reaction, rest ++ more) := by
  cases queue with
  | cons fed queue =>
      obtain ⟨rfl, rfl⟩ := nextReaction?_cons next
      rfl
  | nil =>
      obtain ⟨closed, isClosed, _⟩ := nextReaction?_nil next
      obtain ⟨rfl, rfl⟩ : closing = some stop ∧ more = [] :=
        later.resolve_left fun never => by simp [never] at isClosed
      obtain ⟨_, _, _, rfl⟩ := nextReaction?_nil next
      simpa using next

theorem run_originates {closing : Option Nat}
    (later : closing = none ∨ closing = some stop ∧ more = []) (fuel : Nat)
    (state : ScanState ρ) (queue : List Fed) :
    (Trace.run profile closing fuel state queue).Originates profile stop ⟨state, queue ++ more⟩
      more := by
  induction fuel generalizing state queue with
  | zero =>
      unfold Trace.run
      cases next : nextReaction? profile closing state queue with
      | none =>
          have done : Config.Done profile closing ⟨state, queue⟩ := next
          obtain rfl : queue = [] := done.queue
          exact ⟨by simp, fun _ => .here _⟩
      | some => exact ⟨by simp, by simp⟩
  | succ fuel ih =>
      unfold Trace.run
      cases next : nextReaction? profile closing state queue with
      | none =>
          have done : Config.Done profile closing ⟨state, queue⟩ := next
          obtain rfl : queue = [] := done.queue
          exact ⟨by simp, fun _ => .here _⟩
      | some found =>
          obtain ⟨reaction, rest⟩ := found
          have found := nextReaction?_append later next
          have onward := ih reaction.state (reaction.next ++ rest)
          rw [List.append_assoc] at onward
          refine ⟨fun report told => ?_, fun ended => .there found (onward.leads ended)⟩
          rcases List.mem_append.mp told with early | late
          · obtain ⟨before, after, cut⟩ := List.append_of_mem early
            exact ⟨before, .intro (.here _) found rfl cut⟩
          · obtain ⟨before, arises⟩ := onward.arises report late
            have first : Leads profile (some stop) ⟨state, queue ++ more⟩ _ _ :=
              .there found (.here _)
            exact ⟨_, arises.after first⟩

theorem stepAll_originates (state : ScanState ρ) (symbols : List Located) :
    (Trace.stepAll profile state symbols).Originates profile stop
      ⟨state, symbols.map Fed.plain⟩ [] := by
  induction symbols generalizing state with
  | nil => exact ⟨nofun, fun _ => .here _⟩
  | cons located rest ih =>
      have first : (Trace.step profile state located).Originates profile stop
          ⟨state, [.plain located] ++ rest.map Fed.plain⟩ (rest.map Fed.plain) :=
        run_originates (Or.inl rfl) _ _ _
      exact first.andThen (ih _)

/-- Every report of a source but the token at its end arises from a reaction. -/
theorem arises_of_mem {source : String} {report : Report}
    (told : report ∈ (Trace.tokenize profile {} source).reports)
    (inner : ∀ token, report = .token token → token.kind ≠ .fin) :
    ∃ past, Arises profile (byteLength source.toList) (opening source) past report := by
  unfold Trace.tokenize at told
  split at told
  case isFalse => simp at told
  have stepped : Trace.Originates profile (byteLength source.toList) (opening source) []
      (Trace.stepAll profile {} (Located.ofText 0 source.toList)) := stepAll_originates _ _
  rcases Trace.mem_andThen told with early | ⟨ended, late⟩
  · exact stepped.arises report early
  rcases Trace.mem_andThen late with flushed | ⟨_, last⟩
  · have closing : ∀ fuel state, Trace.Originates profile (byteLength source.toList)
        ⟨state, []⟩ [] (Trace.run profile (some (byteLength source.toList)) fuel state []) :=
      fun fuel state => run_originates (Or.inr ⟨rfl, rfl⟩) fuel state []
    obtain ⟨before, arises⟩ := (closing _ _).arises report flushed
    exact ⟨_, arises.after (stepped.leads ended)⟩
  · obtain rfl := List.mem_singleton.mp last
    exact absurd rfl (inner _ rfl)

/-- Every token of a source but the one at its end is reported by a reaction. -/
theorem exists_reaction_of_token {source : String} {token : Token}
    (told : token ∈ tokens profile source) (inner : token.kind ≠ .fin) :
    ∃ past state queue reaction rest, Reaches profile source past ⟨state, queue⟩ ∧
      nextReaction? profile (some (byteLength source.toList)) state queue = some (reaction, rest) ∧
      token ∈ tokensOf reaction.reports := by
  have member := mem_tokens.mp told
  have recorded : events profile source = _ := (tokenize_recorder profile {} source).1
  rw [recorded] at member
  obtain ⟨report, told, event⟩ := List.mem_map.mp member
  obtain rfl := Report.event_eq_token.mp event
  have notFin : ∀ other, Report.token token = .token other → other.kind ≠ .fin := by
    rintro _ ⟨⟩
    exact inner
  obtain ⟨_, arises⟩ := arises_of_mem told notFin
  cases arises with
  | intro leads next _ reports =>
      exact ⟨_, _, _, _, _, leads, next, by simp [tokensOf, reports, Report.event, Event.token?]⟩

end Scan

end Lexing
