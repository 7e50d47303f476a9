import Lexing.Proofs.Outcomes

/-!
# Runs

A call on a scan lets the machine react until nothing is left to do, or until the
sink stops it.  A relation between configurations says what the machine can go
through, without a sink and without a bound on the number of reactions.  Whatever
holds along this relation holds for every call, and a quantity that falls with
every reaction bounds what a call needs.
-/

namespace Lexing

namespace Scan

variable {ρ σ : Type} [Literal.Reader ρ] [Sink σ]

/-- A scan in the middle of a call: its state and the symbols that are to be fed. -/
structure Config (ρ : Type) where
  state : ScanState ρ
  queue : List Fed

/-- What the machine gets to from a configuration in any number of reactions, with
the reports that it makes on the way. -/
inductive Leads (profile : Profile ρ) (closing : Option Nat) :
    Config ρ → List Report → Config ρ → Prop
  | here (config : Config ρ) : Leads profile closing config [] config
  | there {config last : Config ρ} {reaction : Reaction ρ} {rest : List Fed}
      {reports : List Report} :
      nextReaction? profile closing config.state config.queue = some (reaction, rest) →
      Leads profile closing ⟨reaction.state, reaction.next ++ rest⟩ reports last →
      Leads profile closing config (reaction.reports ++ reports) last

def Config.Done (profile : Profile ρ) (closing : Option Nat) (config : Config ρ) : Prop :=
  nextReaction? profile closing config.state config.queue = none

def Keeps (profile : Profile ρ) (closing : Option Nat) (invariant : Config ρ → Prop) : Prop :=
  ∀ (config : Config ρ) (reaction : Reaction ρ) (rest : List Fed), invariant config →
    nextReaction? profile closing config.state config.queue = some (reaction, rest) →
    invariant ⟨reaction.state, reaction.next ++ rest⟩

variable {profile : Profile ρ} {closing : Option Nat} {invariant : Config ρ → Prop}

theorem Leads.keeps {first last : Config ρ} {reports : List Report}
    (leads : Leads profile closing first reports last) (kept : Keeps profile closing invariant)
    (holds : invariant first) : invariant last := by
  induction leads with
  | here => exact holds
  | there next _ ih => exact ih (kept _ _ _ holds next)

/-- The machine reacts to the next symbol. -/
theorem nextReaction?_cons {state : ScanState ρ} {fed : Fed} {queue rest : List Fed}
    {reaction : Reaction ρ}
    (next : nextReaction? profile closing state (fed :: queue) = some (reaction, rest)) :
    react profile state fed = reaction ∧ queue = rest :=
  Prod.mk.inj (Option.some.inj next)

/-- Without symbols the machine reacts to the end of the input only. -/
theorem nextReaction?_nil {state : ScanState ρ} {reaction : Reaction ρ} {rest : List Fed}
    (next : nextReaction? profile closing state [] = some (reaction, rest)) :
    ∃ stop, closing = some stop ∧ flush? profile state stop = some reaction ∧ rest = [] := by
  cases closing with
  | none => simp [nextReaction?] at next
  | some stop =>
      obtain ⟨_, flushed, same⟩ := Option.map_eq_some_iff.mp next
      obtain ⟨rfl, rfl⟩ : _ = reaction ∧ [] = rest := by simpa using same
      exact ⟨stop, rfl, by simpa using flushed, rfl⟩

theorem Leads.trans {first middle last : Config ρ} {past more : List Report}
    (early : Leads profile closing first past middle)
    (late : Leads profile closing middle more last) :
    Leads profile closing first (past ++ more) last := by
  induction early with
  | here => exact late
  | there next _ ih =>
      rw [List.append_assoc]
      exact .there next (ih late)

theorem Leads.single {state : ScanState ρ} {queue rest : List Fed} {reaction : Reaction ρ}
    (next : nextReaction? profile closing state queue = some (reaction, rest)) :
    Leads profile closing ⟨state, queue⟩ reaction.reports
      ⟨reaction.state, reaction.next ++ rest⟩ := by
  have leads : Leads profile closing ⟨state, queue⟩ (reaction.reports ++ [])
      ⟨reaction.state, reaction.next ++ rest⟩ := .there next (.here _)
  rwa [List.append_nil] at leads

theorem Leads.react (profile : Profile ρ) (closing : Option Nat) (state : ScanState ρ) (fed : Fed)
    (rest : List Fed) :
    Leads profile closing ⟨state, fed :: rest⟩ (react profile state fed).reports
      ⟨(react profile state fed).state, (react profile state fed).next ++ rest⟩ :=
  Leads.single rfl

theorem Leads.flush {state : ScanState ρ} {reaction : Reaction ρ} {stop : Nat}
    (flushed : flush? profile state stop = some reaction) :
    Leads profile (some stop) ⟨state, []⟩ reaction.reports ⟨reaction.state, reaction.next⟩ := by
  have leads : Leads profile (some stop) ⟨state, []⟩ reaction.reports
      ⟨reaction.state, reaction.next ++ []⟩ := Leads.single (by simp [nextReaction?, flushed])
  rwa [List.append_nil] at leads

/-- What a configuration comes to in some reactions to its symbols. -/
def Config.reacted (profile : Profile ρ) : Nat → Config ρ → List Report × Config ρ
  | count + 1, ⟨state, fed :: queue⟩ =>
      let reaction := react profile state fed
      let onward := Config.reacted profile count ⟨reaction.state, reaction.next ++ queue⟩
      (reaction.reports ++ onward.1, onward.2)
  | _, config => ([], config)

theorem Config.leads_reacted (profile : Profile ρ) (closing : Option Nat) (count : Nat)
    (config : Config ρ) : Leads profile closing config (config.reacted profile count).1
      (config.reacted profile count).2 := by
  fun_induction Config.reacted profile count config with
  | case1 count state fed queue reaction onward ih =>
      exact (Leads.react profile closing state fed queue).trans ih
  | case2 => exact .here _

/-! ## Calls -/

/-- A call that has run to its end has gone along the relation. -/
theorem leads_of_run (fuel : Nat) (state : ScanState ρ) (sink : σ) (queue : List Fed)
    (ended : (run profile closing fuel state sink queue).result = .ok ()) :
    ∃ reports left, Leads profile closing ⟨state, queue⟩ reports
        ⟨(run profile closing fuel state sink queue).state, left⟩ ∧
      Config.Done profile closing ⟨(run profile closing fuel state sink queue).state, left⟩ := by
  induction fuel generalizing state sink queue with
  | zero =>
      unfold run at ended ⊢
      cases next : nextReaction? profile closing state queue with
      | none => exact ⟨[], queue, .here _, next⟩
      | some found => simp [next] at ended
  | succ fuel ih =>
      unfold run at ended ⊢
      cases next : nextReaction? profile closing state queue with
      | none => exact ⟨[], queue, .here _, next⟩
      | some found =>
          obtain ⟨reaction, rest⟩ := found
          rw [next] at ended
          dsimp only at ended ⊢
          split at ended
          · simp at ended
          · obtain ⟨reports, left, leads, done⟩ := ih _ _ _ ended
            exact ⟨_, left, .there next leads, done⟩

theorem Config.Done.queue {config : Config ρ} (done : config.Done profile closing) :
    config.queue = [] := by
  obtain ⟨state, queue⟩ := config
  cases queue with
  | nil => rfl
  | cons fed queue => simp [Config.Done, nextReaction?] at done

/-- At the end of the input, nothing is left to do between tokens only. -/
theorem Config.Done.mode {config : Config ρ} {stop : Nat}
    (done : config.Done profile (some stop)) : config.state.mode = .idle := by
  have empty := done.queue
  unfold Config.Done at done
  rw [empty] at done
  have silent : flush? profile config.state stop = none := by simpa [nextReaction?] using done
  unfold flush? at silent
  cases mode : config.state.mode with
  | idle => rfl
  | continuation resume escape carriage => cases carriage <;> simp [mode] at silent
  | _ => simp [mode] at silent

/-- A property of the state that all reactions keep is kept by a call without an
error. -/
theorem run_keeps {property : ScanState ρ → Prop}
    (kept : Keeps profile closing fun config => property config.state) {fuel : Nat}
    {state : ScanState ρ} {sink : σ} {queue : List Fed} (holds : property state)
    (ended : (run profile closing fuel state sink queue).result = .ok ()) :
    property (run profile closing fuel state sink queue).state := by
  obtain ⟨reports, left, leads, _⟩ := leads_of_run fuel state sink queue ended
  exact leads.keeps kept holds

theorem finalize_mode {state : ScanState ρ} {sink : σ} {stop : Nat}
    (ended : (finalize profile state sink stop).result = .ok ()) :
    (finalize profile state sink stop).state.mode = .idle := by
  unfold finalize at ended ⊢
  dsimp only at ended ⊢
  cases flushed : (run profile (some stop) (budget state.mode 1) state sink []).result with
  | error _ => simp [flushed] at ended
  | ok _ =>
      obtain ⟨_, left, _, done⟩ := leads_of_run _ state sink [] flushed
      rw [flushed] at ended
      dsimp only at ended ⊢
      split
      · simpa using done.mode
      · simpa using done.mode

theorem tokenize_mode {state : ScanState ρ} {sink : σ} {source : String}
    (ended : (tokenize profile state sink source).result = .ok ()) :
    (tokenize profile state sink source).state.mode = .idle := by
  unfold tokenize at ended ⊢
  dsimp only at ended ⊢
  by_cases fits : byteLength source.toList ≤ maxOffset
  · rw [if_pos fits] at ended ⊢
    cases stepped : (stepAll profile state.reset sink (Located.ofText 0 source.toList)).result with
    | error => simp [stepped] at ended
    | ok =>
        rw [stepped] at ended
        exact finalize_mode ended
  · simp [fits] at ended

/-! ## Sinks -/

theorem deliver_ne_endless (sink : σ) (report : Report) :
    (deliver sink report).1 ≠ some .endless := by
  unfold deliver
  dsimp only
  cases report with
  | token | unknownOperator | literalMessage =>
      cases (Sink.send sink _).flow with
      | proceed | halt => simp
  | unexpected _ complaint =>
      cases complaint with
      | none | some =>
          cases (Sink.send sink _).flow with
          | proceed | halt => simp

theorem deliverAll_ne_endless {sink next : σ} {reports : List Report} {error : ScanError}
    (delivered : deliverAll sink reports = (some error, next)) : error ≠ .endless := by
  induction reports generalizing sink with
  | nil => simp [deliverAll] at delivered
  | cons report rest ih =>
      have first := deliver_ne_endless sink report
      unfold deliverAll at delivered
      generalize deliver sink report = answer at first delivered
      obtain ⟨_ | stopped, after⟩ := answer
      · exact ih delivered
      · obtain ⟨rfl, _⟩ : stopped = error ∧ after = next := by simpa using delivered
        simpa using first

/-! ## Bounded runs -/

/-- Along all reactions an invariant is kept and a quantity falls. -/
structure Descends (profile : Profile ρ) (closing : Option Nat) (invariant : Config ρ → Prop)
    (potential : Config ρ → Nat) : Prop where
  keeps : Keeps profile closing invariant
  falls : ∀ (config : Config ρ) (reaction : Reaction ρ) (rest : List Fed), invariant config →
    nextReaction? profile closing config.state config.queue = some (reaction, rest) →
    potential ⟨reaction.state, reaction.next ++ rest⟩ < potential config

namespace Descends

variable {potential : Config ρ → Nat}

/-- The machine comes to an end. -/
theorem leads (descends : Descends profile closing invariant potential) (config : Config ρ)
    (holds : invariant config) :
    ∃ reports last, Leads profile closing config reports last ∧ last.Done profile closing := by
  induction height : potential config using Nat.strongRecOn generalizing config with
  | ind height ih =>
      cases next : nextReaction? profile closing config.state config.queue with
      | none => exact ⟨[], config, .here config, next⟩
      | some found =>
          obtain ⟨reaction, rest⟩ := found
          have lower := descends.falls config reaction rest holds next
          have kept := descends.keeps config reaction rest holds next
          obtain ⟨reports, last, leads, done⟩ := ih _ (height ▸ lower) _ kept rfl
          exact ⟨_, last, .there next leads, done⟩

/-- No sink sees a call run out of reactions. -/
theorem run_ne_endless (descends : Descends profile closing invariant potential) {fuel : Nat}
    {state : ScanState ρ} {queue : List Fed} (holds : invariant ⟨state, queue⟩)
    (enough : potential ⟨state, queue⟩ ≤ fuel) (sink : σ) :
    (run profile closing fuel state sink queue).result ≠ .error .endless := by
  induction fuel generalizing state queue sink with
  | zero =>
      unfold run
      cases next : nextReaction? profile closing state queue with
      | none => simp
      | some found =>
          have lower := descends.falls ⟨state, queue⟩ found.1 found.2 holds next
          omega
  | succ fuel ih =>
      unfold run
      cases next : nextReaction? profile closing state queue with
      | none => simp
      | some found =>
          obtain ⟨reaction, rest⟩ := found
          have lower := descends.falls ⟨state, queue⟩ reaction rest holds next
          have kept := descends.keeps ⟨state, queue⟩ reaction rest holds next
          dsimp only
          cases delivered : deliverAll sink reaction.reports with
          | mk stopped next =>
              cases stopped with
              | some error => simpa using deliverAll_ne_endless delivered
              | none => exact ih kept (by omega) _

end Descends

/-! ## States between calls -/

theorem ok_of_isOk {result : Except ScanError Unit} (accepted : result.isOk = true) :
    result = .ok () := by
  cases result with
  | error _ => simp [Except.isOk, Except.toBool] at accepted
  | ok _ => rfl

/-- The states that calls lead to as long as none of them fails.  A scan starts
again from any state, also from one that a failed call has left. -/
inductive Reached (profile : Profile ρ) : ScanState ρ → Prop
  | init (state : ScanState ρ) : Reached profile state.reset
  | step {σ : Type} [Sink σ] {state : ScanState ρ} (sink : σ) (located : Located) :
      Reached profile state → (step profile state sink located).result = .ok () →
      Reached profile (step profile state sink located).state
  | finalize {σ : Type} [Sink σ] {state : ScanState ρ} (sink : σ) (stop : Nat) :
      Reached profile state → (finalize profile state sink stop).result = .ok () →
      Reached profile (finalize profile state sink stop).state
  | tokenize {σ : Type} [Sink σ] (state : ScanState ρ) (sink : σ) (source : String) :
      (tokenize profile state sink source).result = .ok () →
      Reached profile (tokenize profile state sink source).state
  | setClass {state : ScanState ρ} (symbol : Char) (traits : CharClass) :
      Reached profile state → Reached profile (state.setClass profile symbol traits)
  | resetClasses {state : ScanState ρ} : Reached profile state →
      Reached profile state.resetClasses

end Scan

end Lexing
