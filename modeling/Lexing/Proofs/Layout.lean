import Lexing.Proofs.Journey

/-!
# The parts of a configuration

At every moment of a journey the symbols that were read form segments.  Some are
covered by tokens, some belong to the token that has begun, some are held back
behind an escape symbol and some are to be fed.  Every reaction moves the borders
between these parts, and a token is reported exactly when the first border moves.

Where a token ends with its last symbol, the segment of this symbol has to be loose.
A policy says which segments are, and what is known about the language has to
justify it.
-/

namespace Lexing

/-- The symbols that a mode holds back while it waits for a line terminator. -/
def Mode.waiting : Mode → List Located
  | .continuation _ escape carriage => escape :: carriage.toList.map (Located.mk '\r')
  | _ => []

/-- The mode that waiting interrupts. -/
def Mode.resting : Mode → Mode
  | .continuation resume _ _ => resume.mode
  | mode => mode

/-- The walk opens a comment when it gets stuck. -/
def Walk.OpensComment {ρ : Type} (profile : Profile ρ) (walk : Walk) : Prop :=
  ∃ node count, walk.terminal = some (node, count) ∧
    (profile.operators.kind? node = some .lineComment ∨
      profile.operators.kind? node = some .blockComment)

namespace Scan

variable {ρ : Type} {policy : Policy} {profile : Profile ρ} {symbols unread queue : List Located}
  {stop : Nat} {tokens : List Token} {splices : List Splice} {state : ScanState ρ}
  {done body queued more taken left : List Segment} {head : Segment} {reaction : Reaction ρ}
  {fed : Fed} {rest : List Fed} {located : Located}

/-- What a mode knows about the segments of its token and about those behind it. -/
def Rests (policy : Policy) (profile : Profile ρ) (mode : Mode) (body queued : List Segment) :
    Prop :=
  match mode with
  | .idle => body = [] ∧ policy.Chain queued
  | .numberPrefix _ pending =>
      body.map Segment.symbol = pending ∧ ∀ segment ∈ body ++ queued, policy.loose segment
  | .literalPrefix walk =>
      body.map Segment.symbol = walk.pending ∧ ∀ segment ∈ body ++ queued, policy.loose segment
  | .maybeFloat _ dot hasInteger =>
      ∃ front point, body = front ++ [point] ∧ point.symbol = ⟨'.', dot⟩ ∧
        (front = [] ↔ hasInteger = false) ∧ policy.Chain (point :: queued)
  | .operator walk =>
      body.map Segment.symbol = walk.pending ∧ policy.Chain (body.drop walk.kept ++ queued) ∧
        (∀ segment ∈ queued, policy.loose segment) ∧
        (walk.OpensComment profile → ∀ segment ∈ body.drop walk.kept, policy.loose segment)
  | _ => ∀ segment ∈ queued, policy.loose segment

/-- The segments that are covered, begun, held back and to be fed. -/
structure Layout (policy : Policy) (profile : Profile ρ) (tokens : List Token)
    (state : ScanState ρ) (queue : List Located) (done body wait queued : List Segment) :
    Prop where
  covers : Covers policy tokens done
  feeds : queued.map Segment.symbol = queue
  waiting : wait.map Segment.symbol = state.mode.waiting
  begun : state.mode.resting ≠ .idle → Segment.Begin state.tokenStart body
  rests : Rests policy profile state.mode.resting body (wait ++ queued)

/-- The symbols of the source can be accounted for. -/
def Standing (policy : Policy) (profile : Profile ρ) (symbols : List Located) (stop : Nat)
    (tokens : List Token) (splices : List Splice) (state : ScanState ρ)
    (queue unread : List Located) : Prop :=
  ∃ done body wait queued,
    Account symbols stop splices unread (done ++ (body ++ (wait ++ queued))) ∧
      Layout policy profile tokens state queue done body wait queued

/-- The parts of a configuration in which nothing is held back. -/
structure Facing (policy : Policy) (symbols : List Located) (stop : Nat) (tokens : List Token)
    (splices : List Splice) (unread queue : List Located) (done body queued : List Segment) :
    Prop where
  account : Account symbols stop splices unread (done ++ (body ++ queued))
  covers : Covers policy tokens done
  feeds : queued.map Segment.symbol = queue

def tokensOf (reports : List Report) : List Token :=
  reports.filterMap fun report => report.event.token?

@[simp] theorem tokensOf_append (first second : List Report) :
    tokensOf (first ++ second) = tokensOf first ++ tokensOf second :=
  List.filterMap_append

/-- A reaction leaves the symbols accounted for. -/
def Stands (policy : Policy) (profile : Profile ρ) (symbols : List Located) (stop : Nat)
    (tokens : List Token) (splices : List Splice) (unread queue : List Located)
    (reaction : Reaction ρ) : Prop :=
  Standing policy profile symbols stop (tokens ++ tokensOf reaction.reports) splices reaction.state
    (reaction.next.map Fed.toLocated ++ queue) unread

/-- Loose segments may be added behind all others. -/
theorem rests_append {mode : Mode} (rests : Rests policy profile mode body queued)
    (loose : ∀ segment ∈ more, policy.loose segment) :
    Rests policy profile mode body (queued ++ more) := by
  have both : ∀ {inner : List Segment}, (∀ segment ∈ inner, policy.loose segment) →
      ∀ segment ∈ inner ++ more, policy.loose segment := by
    intro inner inside segment member
    rcases List.mem_append.mp member with early | late
    · exact inside segment early
    · exact loose segment late
  unfold Rests at rests ⊢
  cases mode with
  | idle => exact ⟨rests.1, rests.2.append loose⟩
  | numberPrefix node pending => exact ⟨rests.1, by simpa using both rests.2⟩
  | literalPrefix walk => exact ⟨rests.1, by simpa using both rests.2⟩
  | maybeFloat value dot hasInteger =>
      obtain ⟨front, point, cut, symbol, integer, chain⟩ := rests
      exact ⟨front, point, cut, symbol, integer, chain.append loose⟩
  | operator walk =>
      obtain ⟨pending, chain, behind, comment⟩ := rests
      exact ⟨pending, by simpa using chain.append loose, both behind, comment⟩
  | _ => exact both rests

namespace Facing

theorem shift
    (facing : Facing policy symbols stop tokens splices unread (located :: queue) done body
      (head :: more)) :
    Facing policy symbols stop tokens splices unread queue done (body ++ [head]) more where
  account := by simpa using facing.account
  covers := facing.covers
  feeds := (List.cons_eq_cons.mp facing.feeds).2

/-- A reaction without a token keeps some segments and gives back the others. -/
theorem keep
    (facing : Facing policy symbols stop tokens splices unread queue done (taken ++ left) queued)
    (silent : tokensOf reaction.reports = []) (next : reaction.next.map Fed.toLocated =
      left.map Segment.symbol)
    (settled : reaction.state.mode.waiting = [])
    (begun : reaction.state.mode.resting ≠ .idle → Segment.Begin reaction.state.tokenStart taken)
    (rests : Rests policy profile reaction.state.mode.resting taken (left ++ queued)) :
    Stands policy profile symbols stop tokens splices unread queue reaction := by
  refine ⟨done, taken, [], left ++ queued, by simpa using facing.account, ?_⟩
  refine ⟨by simpa [silent] using facing.covers, ?_, by simp [settled], begun, by simpa using rests⟩
  rw [List.map_append, facing.feeds, next]

/-- A reaction with a token covers some segments and gives back the others. -/
theorem close {token : Token}
    (facing : Facing policy symbols stop tokens splices unread queue done (taken ++ left) queued)
    (made : tokensOf reaction.reports = [token]) (kind : token.kind ≠ .fin)
    (begun : Segment.Begin token.span.start taken)
    (ends : ∀ front last, taken = front ++ [last] → policy.Ends last token.span.stop)
    (next : reaction.next.map Fed.toLocated = left.map Segment.symbol)
    (idle : reaction.state.mode = .idle) (chain : policy.Chain (left ++ queued)) :
    Stands policy profile symbols stop tokens splices unread queue reaction := by
  obtain rfl | ⟨front, last, rfl⟩ := List.eq_nil_or_concat taken
  · exact absurd rfl begun.ne_nil
  rw [List.concat_eq_append] at *
  have covers := Covers.close facing.covers kind begun (ends front last rfl)
  refine ⟨done ++ (front ++ [last]), [], [], left ++ queued, by simpa using facing.account, ?_⟩
  refine ⟨by simpa [made] using covers, ?_, by simp [idle, Mode.waiting],
    by simp [idle, Mode.resting], ?_⟩
  · rw [List.map_append, facing.feeds, next]
  · simpa [idle, Mode.resting, Rests] using chain

theorem ends_head
    (facing : Facing policy symbols stop tokens splices unread queue done body (head :: more))
    {front : List Segment} {last : Segment} (cut : body = front ++ [last]) :
    policy.Ends last head.symbol.offset := by
  have parts : done ++ (body ++ (head :: more)) = (done ++ front) ++ (last :: head :: more) := by
    simp [cut]
  exact Or.inr (facing.account.ends_before parts)

theorem ends_stop
    (facing : Facing policy symbols stop tokens splices [] queue done body [])
    {front : List Segment} {last : Segment} (cut : body = front ++ [last]) :
    policy.Ends last stop := by
  have parts : done ++ (body ++ []) = (done ++ front) ++ [last] := by simp [cut]
  exact Or.inr (facing.account.ends_last parts)

/-- The trail of the last segment ends before the next symbol, or with the source. -/
theorem ends_next {next : Option Fed}
    (facing : Facing policy symbols stop tokens splices unread
      (next.toList.map Fed.toLocated ++ queue) done body queued)
    (ended : next = none → queued = [] ∧ unread = []) {front : List Segment} {last : Segment}
    (cut : body = front ++ [last]) :
    policy.Ends last (next.elim stop fun fed => fed.offset) := by
  cases next with
  | none =>
      obtain ⟨rfl, rfl⟩ := ended rfl
      exact facing.ends_stop cut
  | some fed =>
      obtain ⟨first, more, rfl, same, _⟩ := List.map_eq_cons_iff.mp facing.feeds
      rw [Option.elim_some, ← same]
      exact facing.ends_head cut

/-- The trail of a segment ends where a later one begins that follows it. -/
theorem ends_inside
    (facing : Facing policy symbols stop tokens splices unread queue done
      (taken ++ (head :: left)) queued)
    {front : List Segment} {last : Segment} (cut : taken = front ++ [last]) :
    policy.Ends last head.symbol.offset := by
  have parts : done ++ (taken ++ (head :: left) ++ queued) =
      (done ++ front) ++ (last :: head :: (left ++ queued)) := by
    simp [cut]
  exact Or.inr (facing.account.ends_before parts)

theorem extend
    (facing : Facing policy symbols stop tokens splices unread (located :: queue) done body
      (head :: more))
    (silent : tokensOf reaction.reports = []) (next : reaction.next = [])
    (settled : reaction.state.mode.waiting = [])
    (begun : Segment.Begin reaction.state.tokenStart (body ++ [head]))
    (rests : Rests policy profile reaction.state.mode.resting (body ++ [head]) more) :
    Stands policy profile symbols stop tokens splices unread queue reaction := by
  have shifted : Facing policy symbols stop tokens splices unread queue done
      ((body ++ [head]) ++ []) more := by simpa using facing.shift
  exact shifted.keep silent (by simp [next]) settled (fun _ => begun) rests

end Facing

/-- A reaction that only reports a token. -/
structure Closing (reaction : Reaction ρ) (start stop : Nat) : Prop where
  idle : reaction.state.mode = .idle
  next : reaction.next = []
  made : ∃ token, tokensOf reaction.reports = [token] ∧ token.kind ≠ .fin ∧
    token.span = ⟨start, stop⟩

theorem closing_emit (idle : state.mode = .idle) {kind : Kind} (named : kind ≠ .fin) (span : Span)
    (payload : Payload) : Closing (state.emit kind span payload) span.start span.stop :=
  ⟨idle, rfl, _, rfl, named, rfl⟩

theorem closing_finish (state : ScanState ρ) {kind : Kind} (named : kind ≠ .fin) (last : Nat)
    (payload : Payload) : Closing (state.finish kind last payload) state.tokenStart last :=
  ⟨rfl, rfl, _, rfl, named, rfl⟩

theorem closing_reject (state : ScanState ρ) (span : Span) (complaint : Option String) :
    Closing (state.reject span complaint) span.start span.stop :=
  ⟨rfl, rfl, _, rfl, by simp [Kind.unexpected, Kind.fin], rfl⟩

theorem Closing.notify {start last : Nat} (closing : Closing reaction start last) {report : Report}
    (remark : report.event.token? = none) : Closing (reaction.notify report) start last := by
  obtain ⟨token, made, rest⟩ := closing.made
  refine ⟨closing.idle, closing.next, token, ?_, rest⟩
  rw [← made]
  simp [tokensOf, remark]

namespace Facing

/-- A token covers all that has begun. -/
theorem closing {start last : Nat}
    (facing : Facing policy symbols stop tokens splices unread queue done body queued)
    (closing : Closing reaction start last) (begun : Segment.Begin start body)
    (ends : ∀ front final, body = front ++ [final] → policy.Ends final last)
    (chain : policy.Chain queued) :
    Stands policy profile symbols stop tokens splices unread queue reaction := by
  obtain ⟨token, made, kind, span⟩ := closing.made
  have whole : Facing policy symbols stop tokens splices unread queue done (body ++ []) queued := by
    simpa using facing
  refine whole.close made kind ?_ ?_ (by simp [closing.next]) closing.idle chain
  · rwa [span]
  · rwa [span]

theorem closing_before {start last : Nat}
    (facing : Facing policy symbols stop tokens splices unread queue done body (head :: more))
    (closing : Closing reaction start last) (begun : Segment.Begin start body)
    (before : last = head.symbol.offset) (chain : policy.Chain (head :: more)) :
    Stands policy profile symbols stop tokens splices unread queue reaction := by
  refine facing.closing closing begun ?_ chain
  intro front final cut
  rw [before]
  exact facing.ends_head cut

theorem closing_with {start last : Nat}
    (facing : Facing policy symbols stop tokens splices unread (located :: queue) done body
      (head :: more))
    (closing : Closing reaction start last) (begun : Segment.Begin start (body ++ [head]))
    (behind : last = head.symbol.stop)
    (loose : ∀ segment ∈ head :: more, policy.loose segment) :
    Stands policy profile symbols stop tokens splices unread queue reaction := by
  refine facing.shift.closing closing begun ?_ (Policy.chain_of_loose fun segment member =>
    loose segment (by simp [member]))
  intro front final cut
  obtain ⟨_, rfl⟩ := List.append_inj' cut rfl |>.imp_right List.singleton_inj.mp
  exact Or.inl ⟨behind, loose _ (by simp)⟩

theorem closing_last {start last : Nat}
    (facing : Facing policy symbols stop tokens splices [] queue done body [])
    (closing : Closing reaction start last) (begun : Segment.Begin start body)
    (behind : last = stop) :
    Stands policy profile symbols stop tokens splices [] queue reaction := by
  refine facing.closing closing begun ?_ trivial
  intro front final cut
  rw [behind]
  exact facing.ends_stop cut

end Facing

theorem stands_feed {again : List Fed} :
    Stands policy profile symbols stop tokens splices unread queue (reaction.feed again) ↔
      Stands policy profile symbols stop tokens splices unread
        (again.map Fed.toLocated ++ queue) reaction := by
  simp [Stands]

end Scan

end Lexing
