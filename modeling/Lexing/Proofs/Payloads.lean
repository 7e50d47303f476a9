import Lexing.Proofs.Emissions

/-!
# Kinds and payloads agree

A receiver may look at the kind of a token alone to know what it carries, and where the
suffix of a number would start.  The kind itself is one that all profiles share, or it was
registered, or it belongs to numbers without a prefix; a float has the kind of an integer
with the float flag added.
-/

namespace Lexing

/-! ## Kinds -/

/-- The kinds of tokens that every profile has. -/
def Kind.shared : List Kind :=
  plain ++ [lineComment, blockComment]

/-- The kind was registered for a sequence of some family. -/
def Profile.Registers {ρ : Type} (profile : Profile ρ) (kind : Kind) : Prop :=
  ∃ sequence : String, profile.brackets.lookup? sequence.toList = some kind ∨
    profile.numberPrefixKind? sequence = some kind ∨
    profile.operatorKind? sequence = some kind ∨
    profile.fallbackKind? sequence = some kind ∨
    profile.literalKind? sequence = some kind

/-- Where the kind of a token comes from. -/
structure Profile.Accounts {ρ : Type} (profile : Profile ρ) (kind : Kind) : Prop where
  other : kind.isFloat = false →
    kind ∈ Kind.shared ∨ kind = profile.defaultNumber ∨ profile.Registers kind
  float : kind.isFloat = true →
    ∃ integer, kind = integer.withFloat ∧ integer.isFloat = false ∧
      (integer = profile.defaultNumber ∨
        ∃ sequence, profile.numberPrefixKind? sequence = some integer)

/-! ## Payloads -/

/-- The payload is the one that tokens of the kind carry, and a number says that its text
ends where the token does. -/
structure Payload.Fits (kind : Kind) (stop : Nat) (payload : Payload) : Prop where
  integer : (∃ value, payload = .integer value) ↔ kind.isNumber = true ∧ kind.isFloat = false
  float : (∃ value, payload = .float value) ↔ kind.isFloat = true
  comment : (∃ text, payload = .comment text) ↔ kind.isComment = true
  literal : (∃ text, payload = .literal text) ↔ kind.isLiteral = true
  empty : payload = .empty ↔
    kind.isNumber = false ∧ kind.isComment = false ∧ kind.isLiteral = false
  suffix : ∀ offset, payload.suffixStart? = some offset → offset = stop

namespace Payload

variable {kind : Kind} {stop : Nat}

theorem fits_empty (number : kind.isNumber = false) (comment : kind.isComment = false)
    (literal : kind.isLiteral = false) : Payload.empty.Fits kind stop where
  integer := by simp [number]
  float := by simp [Kind.isFloat_of_not_isNumber number]
  comment := by simp [comment]
  literal := by simp [literal]
  empty := by simp [number, comment, literal]
  suffix := by simp [suffixStart?]

/-- Kinds of ranges that carry nothing. -/
theorem fits_empty_of_category (number : kind.category ≠ .number)
    (literal : kind.category ≠ .literal) (atomic : kind.category ≠ .atomic) :
    Payload.empty.Fits kind stop :=
  fits_empty (Kind.isNumber_of_category number) (Kind.isComment_of_category atomic)
    (Kind.isLiteral_of_category literal)

theorem fits_comment (text : String) (comment : kind.isComment = true)
    (number : kind.isNumber = false) (literal : kind.isLiteral = false) :
    (Payload.comment text).Fits kind stop where
  integer := by simp [number]
  float := by simp [Kind.isFloat_of_not_isNumber number]
  comment := by simp [comment]
  literal := by simp [literal]
  empty := by simp [comment]
  suffix := by simp [suffixStart?]

theorem fits_literal (text : String) (literal : kind.isLiteral = true) :
    (Payload.literal text).Fits kind stop := by
  have category : kind.category = .literal := of_decide_eq_true literal
  have number : kind.isNumber = false := Kind.isNumber_of_category (by simp [category])
  have comment : kind.isComment = false := Kind.isComment_of_category (by simp [category])
  exact {
    integer := by simp [number]
    float := by simp [Kind.isFloat_of_not_isNumber number]
    comment := by simp [comment]
    literal := by simp [literal]
    empty := by simp [literal]
    suffix := by simp [suffixStart?] }

theorem fits_number {value : Numeral} (number : value.kind.isNumber = true)
    (integer : value.kind.isFloat = false) (stop : Nat) :
    (value.payload stop).Fits value.finalKind stop := by
  have category := Numeral.category_finalKind number
  have kept : value.finalKind.isNumber = true := decide_eq_true category
  have float := Numeral.isFloat_finalKind number integer
  have comment : value.finalKind.isComment = false :=
    Kind.isComment_of_category (by simp [category])
  have literal : value.finalKind.isLiteral = false :=
    Kind.isLiteral_of_category (by simp [category])
  unfold Numeral.payload
  cases fraction : value.isFloat with
  | true =>
      rw [fraction] at float
      exact {
        integer := by simp [float]
        float := by simp [float]
        comment := by simp [comment]
        literal := by simp [literal]
        empty := by simp [kept]
        suffix := by simp [suffixStart?] }
  | false =>
      rw [fraction] at float
      exact {
        integer := by simp [float, kept]
        float := by simp [float]
        comment := by simp [comment]
        literal := by simp [literal]
        empty := by simp [kept]
        suffix := by simp [suffixStart?] }

end Payload

namespace Profile

variable {ρ : Type} {profile : Profile ρ} {stop : Nat} {kind : Kind} {payload : Payload}

theorem isFloat_of_counts (regular : profile.Regular) {value : Numeral}
    (counts : value.Counts profile) : value.kind.isFloat = false := by
  rcases counts with default | ⟨sequence, registered⟩
  · rw [default]
    exact regular.defaultInteger
  · refine regular.integerKinds sequence.toList _ ?_
    rwa [← regular.numberPrefixes.lookup?_eq]

/-- Whatever the machine puts into a token agrees. -/
theorem Issues.fits (issues : profile.Issues stop kind payload) (sound : profile.Sound)
    (regular : profile.Regular) : payload.Fits kind stop := by
  cases issues with
  | plain plain =>
      have bare : ∀ kind ∈ Kind.plain, kind.isNumber = false ∧ kind.isComment = false ∧
          kind.isLiteral = false := by decide
      obtain ⟨number, comment, literal⟩ := bare kind plain
      exact Payload.fits_empty number comment literal
  | bracket registered =>
      obtain ⟨node, _, known⟩ := Trie.exists_of_lookup? registered
      have category := sound.bracketKinds node kind known
      exact Payload.fits_empty_of_category (by simp [category]) (by simp [category])
        (by simp [category])
  | operator registered operator =>
      have category : kind.category = .operator := of_decide_eq_true operator
      exact Payload.fits_empty_of_category (by simp [category]) (by simp [category])
        (by simp [category])
  | fallback registered operator =>
      have category : kind.category = .operator := of_decide_eq_true operator
      exact Payload.fits_empty_of_category (by simp [category]) (by simp [category])
        (by simp [category])
  | number counts =>
      exact Payload.fits_number (counts.isNumber sound) (isFloat_of_counts regular counts) stop
  | lineComment text => exact Payload.fits_comment text (by decide) (by decide) (by decide)
  | blockComment text => exact Payload.fits_comment text (by decide) (by decide) (by decide)
  | literal text registered =>
      obtain ⟨node, _, known⟩ := Trie.exists_of_lookup? registered
      exact Payload.fits_literal text (sound.literalKinds node kind known)

theorem accounts_of_origin (integer : kind.isFloat = false)
    (origin : kind ∈ Kind.shared ∨ kind = profile.defaultNumber ∨ profile.Registers kind) :
    profile.Accounts kind where
  other _ := origin
  float set := by simp [integer] at set

/-- Whatever the machine puts into a token has a kind that the profile accounts for. -/
theorem Issues.accounts (issues : profile.Issues stop kind payload) (sound : profile.Sound)
    (regular : profile.Regular) : profile.Accounts kind := by
  have fits := issues.fits sound regular
  have integer : (∀ value, payload ≠ .float value) → kind.isFloat = false := by
    intro other
    by_contra set
    obtain ⟨value, same⟩ := fits.float.mpr (by simpa using set)
    exact other value same
  have registers : profile.Registers kind →
      kind ∈ Kind.shared ∨ kind = profile.defaultNumber ∨ profile.Registers kind :=
    fun known => Or.inr (Or.inr known)
  cases issues with
  | plain plain =>
      exact accounts_of_origin (integer (by simp)) (Or.inl (List.mem_append_left _ plain))
  | @bracket sequence _ registered =>
      exact accounts_of_origin (integer (by simp)) (registers ⟨sequence, by simp [registered]⟩)
  | @operator sequence _ registered _ =>
      exact accounts_of_origin (integer (by simp)) (registers ⟨sequence, by simp [registered]⟩)
  | @fallback marker _ registered _ =>
      exact accounts_of_origin (integer (by simp)) (registers ⟨marker, by simp [registered]⟩)
  | lineComment text => exact accounts_of_origin (by decide) (Or.inl (by decide))
  | blockComment text => exact accounts_of_origin (by decide) (Or.inl (by decide))
  | @literal sequence _ text registered =>
      exact accounts_of_origin (integer (by simp)) (registers ⟨sequence, by simp [registered]⟩)
  | @number value counts =>
      have flag := Numeral.isFloat_finalKind (counts.isNumber sound)
        (isFloat_of_counts regular counts)
      cases fraction : value.isFloat with
      | true =>
          have kindEq : value.finalKind = value.kind.withFloat := by
            simp [Numeral.finalKind, fraction]
          refine ⟨fun unset => by simp [flag, fraction] at unset, fun _ => ?_⟩
          exact ⟨value.kind, kindEq, isFloat_of_counts regular counts, counts⟩
      | false =>
          have kindEq : value.finalKind = value.kind := by simp [Numeral.finalKind, fraction]
          rw [kindEq]
          refine accounts_of_origin (isFloat_of_counts regular counts) (Or.inr ?_)
          exact counts.imp_right fun ⟨sequence, registered⟩ => ⟨sequence, by simp [registered]⟩

end Profile

namespace Scan

variable {ρ : Type} [Literal.Reader ρ] {profile : Profile ρ}

/-- Every sink receives the same tokens until it stops the scan, and the kind of each of
them tells what it carries and is a kind that the profile accounts for. -/
theorem payloads_fit (made : profile.Made) (state : ScanState ρ) (source : String) :
    (∀ {σ : Type} [Sink σ] (sink : σ), (tokenize profile state sink source).sink =
        (Sink.sendAll sink (heard profile state source)).sink) ∧
      ∀ token, Event.token token ∈ heard profile state source →
        token.payload.Fits token.kind token.span.stop ∧ profile.Accounts token.kind := by
  refine ⟨fun sink => tokenize_sink profile state sink source, fun token received => ?_⟩
  obtain ⟨-, issued⟩ := heard_induction made state
    (fun told _ => ∀ token ∈ told, profile.Issues token.span.stop token.kind token.payload)
    (by simp) (fun issued emits _ token member => by
      rcases List.mem_append.mp member with old | new
      · exact issued token old
      · cases emits with
        | silent silence _ => simp [silence] at new
        | token issues _ one _ =>
            rw [one, List.mem_singleton] at new
            rw [new]
            exact issues
        | blockComment one _ =>
            rw [one, List.mem_singleton] at new
            rw [new]
            exact .blockComment _) source
  have issues := issued token (List.mem_filterMap.mpr ⟨_, received, rfl⟩)
  exact ⟨issues.fits made.sound made.regular, issues.accounts made.sound made.regular⟩

/-- A number with a prefix has a kind that was registered for the prefix. -/
theorem payloads_fit_hex :
    CLike.profile.Made ∧
      Event.token {
          atLineStart := true
          kind := CLike.hex
          span := ⟨0, 4⟩
          payload := .integer { value := 31, overflow := false, suffixStart := 4 } } ∈
        heard CLike.profile {} "0x1f" ∧
      (Payload.integer { value := 31, overflow := false, suffixStart := 4 }).Fits CLike.hex 4 ∧
      CLike.profile.Accounts CLike.hex := by
  have received : Event.token {
        atLineStart := true
        kind := CLike.hex
        span := ⟨0, 4⟩
        payload := .integer { value := 31, overflow := false, suffixStart := 4 } } ∈
      heard CLike.profile {} "0x1f" := by
    decide +kernel
  exact ⟨CLike.profile_made, received, (payloads_fit CLike.profile_made {} "0x1f").2 _ received⟩

end Scan

end Lexing
