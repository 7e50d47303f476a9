import Lexing.Proofs.Emissions
import Mathlib.Data.List.DropRight

/-!
# Which tokens start their line

A token says whether only trivia precedes it on its line.  The machine keeps one flag for
this, which tokens set and clear and which a block comment sets again after it was
reported.  The flag has a meaning that does not mention the machine: it looks back to the
last token that has ended a line and asks whether all tokens since then are trivia.
-/

namespace Lexing

section Lines

variable (breaks : Char → Bool) (marker : List Char)

/-- A token ends a line if it is a line terminator, or a block comment that has the symbol
of one in its text or in its closing marker. -/
def Token.breaksLine (token : Token) : Bool :=
  token.kind = .linefeed ||
    token.kind = .blockComment && ((token.payload.text?.getD "").toList ++ marker).any breaks

/-- The tokens since the last one that has ended a line. -/
def lineSoFar (told : List Token) : List Token :=
  told.rtakeWhile fun token => !token.breaksLine breaks marker

/-- Whether a line is fresh after some tokens. -/
def FreshAfter (told : List Token) : Prop :=
  ∀ token ∈ lineSoFar breaks marker told, token.kind.isTrivia = true

theorem freshAfter_nil : FreshAfter breaks marker [] := by
  simp [FreshAfter, lineSoFar]

theorem freshAfter_concat (told : List Token) (token : Token) :
    FreshAfter breaks marker (told ++ [token]) ↔
      token.breaksLine breaks marker = true ∨
        token.kind.isTrivia = true ∧ FreshAfter breaks marker told := by
  unfold FreshAfter lineSoFar
  rw [List.rtakeWhile_concat]
  cases token.breaksLine breaks marker with
  | true => simp
  | false => simp [or_imp, forall_and, and_comm]

/-- Every token says whether the line was fresh before it. -/
def Flagged (told : List Token) : Prop :=
  ∀ before token after, told = before ++ token :: after →
    (token.atLineStart = true ↔ FreshAfter breaks marker before)

variable {breaks marker}

theorem Flagged.concat {told : List Token} {token : Token}
    (flagged : Flagged breaks marker told)
    (agrees : token.atLineStart = true ↔ FreshAfter breaks marker told) :
    Flagged breaks marker (told ++ [token]) := by
  intro before other after cut
  obtain rfl | ⟨others, last, rfl⟩ := List.eq_nil_or_concat after
  · obtain ⟨rfl, same⟩ := List.append_inj' cut rfl
    obtain rfl : token = other := by simpa using same
    exact agrees
  · rw [List.concat_eq_append, ← List.cons_append, ← List.append_assoc] at cut
    obtain ⟨whole, _⟩ := List.append_inj' cut rfl
    exact flagged before other others whole

end Lines

namespace Scan

variable {ρ : Type} {profile : Profile ρ}

/-- The flag of a state says whether the line is fresh after the tokens so far, and every
token has told this flag. -/
structure Punctual (profile : Profile ρ) (breaks : Char → Bool) (told : List Token)
    (state : ScanState ρ) : Prop where
  flagged : Flagged breaks profile.blockClose told
  fresh : state.lineStart = true ↔ FreshAfter breaks profile.blockClose told
  breaks : state.breaks profile = breaks

theorem freshAfter_iff (state : ScanState ρ) (kind : Kind) :
    state.freshAfter kind = true ↔
      kind = .linefeed ∨ kind.isTrivia = true ∧ state.lineStart = true := by
  unfold ScanState.freshAfter
  split_ifs with linefeed trivia
  · simp [linefeed]
  · simp [linefeed, trivia]
  · simp [linefeed, trivia]

theorem Punctual.step {breaks : Char → Bool} {told : List Token} {state : ScanState ρ}
    {reaction : Reaction ρ} (punctual : Punctual profile breaks told state)
    (emits : Emits profile state reaction)
    (same : reaction.state.breaks profile = state.breaks profile) :
    Punctual profile breaks (told ++ tokensOf reaction.reports) reaction.state := by
  obtain ⟨flagged, fresh, rfl⟩ := punctual
  cases emits with
  | silent silence kept =>
      rw [silence, List.append_nil]
      exact ⟨flagged, by rwa [kept], same⟩
  | @token kind span payload _ named one line =>
      rw [one]
      refine ⟨flagged.concat fresh, ?_, same⟩
      have ends : Token.breaksLine (state.breaks profile) profile.blockClose
          { atLineStart := state.lineStart, kind, span, payload } = decide (kind = .linefeed) := by
        simp [Token.breaksLine, named]
      rw [line, freshAfter_iff, freshAfter_concat, ends, decide_eq_true_eq, ← fresh]
  | @blockComment text span one line =>
      rw [one]
      refine ⟨flagged.concat fresh, ?_, same⟩
      have ends : Token.breaksLine (state.breaks profile) profile.blockClose
          { atLineStart := state.lineStart, kind := .blockComment, span,
            payload := .comment (String.ofList text) } =
          (text ++ profile.blockClose).any (state.breaks profile) := by
        simp [Token.breaksLine, Payload.text?, show Kind.blockComment ≠ .linefeed by decide]
      have trivial : Kind.blockComment.isTrivia = true := by decide
      rw [line, freshAfter_concat, ends, Bool.or_eq_true, or_comm, ← fresh, trivial]
      simp

variable [Literal.Reader ρ]

/-- Every sink receives the same tokens until it stops the scan.  One of them is flagged as
the start of its line exactly if all tokens are trivia between it and the last token before
it that has ended a line, or the start of the input. -/
theorem atLineStart_iff (made : profile.Made) (state : ScanState ρ) (source : String) :
    (∀ {σ : Type} [Sink σ] (sink : σ), (tokenize profile state sink source).sink =
        (Sink.sendAll sink (heard profile state source)).sink) ∧
      ∀ before token after,
        (heard profile state source).filterMap Event.token? = before ++ token :: after →
        (token.atLineStart = true ↔
          ∀ earlier ∈ lineSoFar (state.breaks profile) profile.blockClose before,
            earlier.kind.isTrivia = true) := by
  refine ⟨fun sink => tokenize_sink profile state sink source, ?_⟩
  have start : Punctual profile (state.breaks profile) [] state.reset :=
    ⟨by simp [Flagged], by simp [ScanState.reset, freshAfter_nil], rfl⟩
  obtain ⟨last, punctual⟩ := heard_induction made state _ start Punctual.step source
  exact punctual.flagged

/-- After a comment that crosses a line, an identifier starts its line. -/
theorem atLineStart_iff_crossing :
    CLike.profile.Made ∧
      (heard CLike.profile {} "a/*\n*/b").filterMap Event.token? =
        [{ atLineStart := true, kind := .identifier, span := ⟨0, 1⟩ },
          { kind := .blockComment, span := ⟨1, 6⟩, payload := .comment "\n" }] ++
        { atLineStart := true, kind := .identifier, span := ⟨6, 7⟩ } ::
          [{ kind := .fin, span := ⟨7, 7⟩ }] ∧
      ∀ earlier ∈ lineSoFar (ScanState.breaks CLike.profile {}) CLike.profile.blockClose
          [{ atLineStart := true, kind := .identifier, span := ⟨0, 1⟩ },
            { kind := .blockComment, span := ⟨1, 6⟩, payload := .comment "\n" }],
        earlier.kind.isTrivia = true := by
  have tokens : (heard CLike.profile {} "a/*\n*/b").filterMap Event.token? =
      [{ atLineStart := true, kind := .identifier, span := ⟨0, 1⟩ },
        { kind := .blockComment, span := ⟨1, 6⟩, payload := .comment "\n" }] ++
      { atLineStart := true, kind := .identifier, span := ⟨6, 7⟩ } ::
        [{ kind := .fin, span := ⟨7, 7⟩ }] := by
    decide +kernel
  have flags := (atLineStart_iff CLike.profile_made {} "a/*\n*/b").2
  exact ⟨CLike.profile_made, tokens, (flags _ _ _ tokens).mp rfl⟩

end Scan

end Lexing
