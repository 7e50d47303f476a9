import Lexing.Filter.Probe
import Lexing.Filter.Relabel
import Lexing.Proofs.Passing

/-!
# Filters without a memory

Some filters stay as they are whatever they receive, so that what they send on depends on
the token alone.  A stream behind them is the stream with every token replaced, and a chain
of them composes the replacements, the one of the filter installed last first.
-/

namespace Lexing

variable {φ : Type} [Filter φ]

/-- A filter that sends on one token for each and stays as it is. -/
def Filter.Replaces (filter : φ) (change : Token → Token) : Prop :=
  ∀ token, (Filter.react filter token).sent = [change token] ∧
    (Filter.react filter token).accepted = filter

theorem Filter.Replaces.pass {filter : φ} {change : Token → Token}
    (replaces : Filter.Replaces filter change) (tokens : List Token) :
    Filter.pass filter tokens = (tokens.map change, filter) := by
  induction tokens with
  | nil => rfl
  | cons token rest ih =>
      obtain ⟨sent, accepted⟩ := replaces token
      simp only [Filter.pass, sent, accepted, ih, List.map_cons, List.singleton_append]

/-- A chain of such filters composes what they do. -/
theorem Chain.process_of_replaces {change : φ → Token → Token}
    (replaces : ∀ filter : φ, Filter.Replaces filter (change filter)) (filters : List φ)
    (tokens : List Token) :
    Chain.process filters tokens =
      (tokens.map fun token => filters.foldr change token, filters.reverse) := by
  have stages : ∀ (behind : List φ) (tokens : List Token), Filter.passAll behind tokens =
      (tokens.map fun token => behind.foldl (fun changed filter => change filter changed) token,
        behind) := by
    intro behind
    induction behind with
    | nil => simp [Filter.passAll]
    | cons filter behind ih =>
        intro tokens
        simp only [Filter.passAll, (replaces filter).pass, ih, List.map_map]
        rfl
  rw [Chain.process_passAll, stages]
  simp only [List.foldl_reverse]

/-! ## Relabelling -/

namespace Relabel

def rename (filter : Relabel) (kind : Kind) : Kind :=
  if kind = filter.source then filter.target else kind

theorem replaces (filter : Relabel) :
    Filter.Replaces filter fun token => { token with kind := filter.rename token.kind } :=
  fun _ => ⟨rfl, rfl⟩

/-- Only the kinds change, and the filter that was installed last changes them first. -/
theorem process_eq (filters : List Relabel) (tokens : List Token) :
    Chain.process filters tokens =
      (tokens.map fun token => { token with kind := filters.foldr rename token.kind },
        filters.reverse) := by
  rw [Chain.process_of_replaces replaces]
  refine Prod.ext (List.map_congr_left fun token _ => ?_) rfl
  induction filters with
  | nil => rfl
  | cons filter rest ih => rw [List.foldr_cons, ih, List.foldr_cons]

end Relabel

/-! ## Probes -/

namespace Probe

theorem replaces (filter : Probe) : Filter.Replaces filter id := by
  intro token
  refine ⟨?_, rfl⟩
  simp only [Filter.react, Relay.sent]
  split <;> rfl

/-- Probes do not touch the tokens, however many there are. -/
theorem process_eq (filters : List Probe) (tokens : List Token) :
    Chain.process filters tokens = (tokens, filters.reverse) := by
  have untouched : ∀ token : Token, filters.foldr (fun _ => id) token = token := by
    intro token
    induction filters with
    | nil => rfl
    | cons _ _ ih => exact ih
  rw [Chain.process_of_replaces replaces]
  simp only [untouched, List.map_id']

/-- What a probe announces stands right in front of the token. -/
theorem relay_eq (filter : Probe) (tokens : List Token) :
    Filter.relay filter (tokens.map .token) =
      (tokens.flatMap fun token =>
        (if token.kind = filter.kind then announcement token else []) ++ [.token token],
          filter) := by
  induction tokens with
  | nil => rfl
  | cons token rest ih => simp only [List.map_cons, Filter.relay, Filter.react, ih,
      List.flatMap_cons]

end Probe

end Lexing
