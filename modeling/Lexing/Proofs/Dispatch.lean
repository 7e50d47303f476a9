import Lexing.Proofs.Outcomes

/-!
# What the machine can do between tokens

The rules between tokens are tried in order.  Proofs about the machine do not need
the order: it is enough to know what the rule that decides can do.
-/

namespace Lexing.Scan

variable {ρ : Type} [Literal.Reader ρ]

/-- What a symbol between tokens can lead to. -/
inductive Dispatched (profile : Profile ρ) (state : ScanState ρ) (fed : Fed) : Reaction ρ → Prop
  | continuation : beginsContinuation profile state fed = true →
      Dispatched profile state fed (awaitLineEnd state .idle fed)
  | blank : Dispatched profile state fed (state.become (.blank fed.symbol))
  | single {kind : Kind} :
      kind = .linefeed ∨ kind = .escape ∨ kind = .strayPunct ∨
        (∃ node, profile.brackets.kind? node = some kind) →
      Dispatched profile state fed (state.emit kind fed.span)
  | literal {node : NodeId} : profile.literals.advance Trie.root fed.symbol = some node →
      fed.exempt.literal = false →
      Dispatched profile state fed (reachLiteral profile state node [fed.toLocated] none)
  | point : fed.symbol = '.' → fed.exempt.dotNumber = false →
      Dispatched profile state fed
        (state.become (.maybeFloat (.ofKind profile.defaultNumber) fed.offset false))
  | numberPrefix {node : NodeId} :
      profile.numberPrefixes.advance Trie.root fed.symbol = some node →
      Dispatched profile state fed (state.become (.numberPrefix node [fed.toLocated]))
  | number (digit : Nat) :
      Dispatched profile state fed
        (state.become (.number ((Numeral.ofKind profile.defaultNumber).pushDigit digit)))
  | identifier : Dispatched profile state fed (state.become .identifier)
  | operator {node : NodeId} : profile.operators.advance Trie.root fed.symbol = some node →
      Dispatched profile state fed (reachOperator profile state node [fed.toLocated] none)
  | reject : Dispatched profile state fed (state.reject fed.span)

/-- What a rule that applies to a symbol answers, and which tests the symbol has passed. -/
inductive Ruling (profile : Profile ρ) (state : ScanState ρ) (fed : Fed) : Reaction ρ → Prop
  | continuation : beginsContinuation profile state fed = true →
      Ruling profile state fed (awaitLineEnd state .idle fed)
  | blank : Ruling profile state fed (state.become (.blank fed.symbol))
  | single {kind : Kind} :
      kind = .linefeed ∨ kind = .escape ∨ kind = .strayPunct ∨
        (∃ node, profile.brackets.kind? node = some kind) →
      Ruling profile state fed (state.emit kind fed.span)
  | literal {node : NodeId} : profile.literals.advance Trie.root fed.symbol = some node →
      fed.exempt.literal = false →
      Ruling profile state fed (reachLiteral profile state node [fed.toLocated] none)
  | point : fed.symbol = '.' → fed.exempt.dotNumber = false →
      Ruling profile state fed
        (state.become (.maybeFloat (.ofKind profile.defaultNumber) fed.offset false))
  | numberPrefix {node : NodeId} :
      profile.numberPrefixes.advance Trie.root fed.symbol = some node →
      Ruling profile state fed (state.become (.numberPrefix node [fed.toLocated]))
  | number {digit : Nat} : digitValue? fed.symbol profile.options.defaultBase = some digit →
      Ruling profile state fed
        (state.become (.number ((Numeral.ofKind profile.defaultNumber).pushDigit digit)))
  | identifier : Ruling profile state fed (state.become .identifier)
  | operator {node : NodeId} : profile.operators.advance Trie.root fed.symbol = some node →
      Ruling profile state fed (reachOperator profile state node [fed.toLocated] none)

def starting (state : ScanState ρ) (fed : Fed) : ScanState ρ :=
  { state with tokenStart := fed.offset }

section Rules

variable {profile : Profile ρ} {state : ScanState ρ} {fed : Fed} {reaction : Reaction ρ}

theorem ruling_continuationRule (rule : continuationRule profile state fed = some reaction) :
    Ruling profile state fed reaction := by
  unfold continuationRule at rule
  split at rule
  · obtain rfl : _ = reaction := by simpa using rule
    exact .continuation ‹_›
  · simp at rule

theorem ruling_lineEndRule (rule : lineEndRule profile state fed = some reaction) :
    Ruling profile state fed reaction := by
  unfold lineEndRule at rule
  split at rule
  · split at rule
    case isTrue carriage =>
      obtain rfl : _ = reaction := by simpa using rule
      rw [← carriage]
      exact .blank
    case isFalse =>
      obtain rfl : _ = reaction := by simpa using rule
      exact .single (Or.inl rfl)
  · simp at rule

theorem ruling_blankRule (rule : blankRule profile state fed = some reaction) :
    Ruling profile state fed reaction := by
  unfold blankRule at rule
  split at rule
  · obtain rfl : _ = reaction := by simpa using rule
    exact .blank
  · simp at rule

theorem ruling_literalRule (rule : literalRule profile state fed = some reaction) :
    Ruling profile state fed reaction := by
  unfold literalRule at rule
  split at rule
  case isTrue applies =>
    obtain ⟨node, edge, rfl⟩ := Option.map_eq_some_iff.mp rule
    exact .literal edge (by simpa using (Bool.and_eq_true_iff.mp applies).2)
  case isFalse => simp at rule

theorem ruling_dotRule (rule : dotRule profile state fed = some reaction) :
    Ruling profile state fed reaction := by
  unfold dotRule at rule
  split at rule
  case isTrue applies =>
    obtain rfl : _ = reaction := by simpa using rule
    obtain ⟨point, free⟩ := Bool.and_eq_true_iff.mp applies
    exact .point (by simpa using point) (by simpa using free)
  case isFalse => simp at rule

theorem ruling_digitRule (rule : digitRule profile state fed = some reaction) :
    Ruling profile state fed reaction := by
  unfold digitRule at rule
  split at rule
  · split at rule
    · obtain rfl : _ = reaction := by simpa using rule
      exact .numberPrefix ‹_›
    · obtain ⟨digit, worth, rfl⟩ := Option.map_eq_some_iff.mp rule
      exact .number worth
  · simp at rule

theorem ruling_identifierRule (rule : identifierRule profile state fed = some reaction) :
    Ruling profile state fed reaction := by
  unfold identifierRule at rule
  split at rule
  · obtain rfl : _ = reaction := by simpa using rule
    exact .identifier
  · simp at rule

theorem ruling_bracketRule (rule : bracketRule profile state fed = some reaction) :
    Ruling profile state fed reaction := by
  unfold bracketRule at rule
  dsimp only at rule
  split at rule
  · obtain ⟨kind, found, rfl⟩ := Option.map_eq_some_iff.mp rule
    obtain ⟨node, _, kindEq⟩ := Option.bind_eq_some_iff.mp found
    exact .single (Or.inr (Or.inr (Or.inr ⟨node, kindEq⟩)))
  · simp at rule

theorem ruling_operatorRule (rule : operatorRule profile state fed = some reaction) :
    Ruling profile state fed reaction := by
  unfold operatorRule at rule
  split at rule
  · obtain ⟨node, edge, rfl⟩ := Option.map_eq_some_iff.mp rule
    exact .operator edge
  · simp at rule

theorem ruling_escapeRule (rule : escapeRule profile state fed = some reaction) :
    Ruling profile state fed reaction := by
  unfold escapeRule at rule
  split at rule
  · obtain rfl : _ = reaction := by simpa using rule
    exact .single (Or.inr (Or.inl rfl))
  · simp at rule

theorem ruling_strayRule (rule : strayRule profile state fed = some reaction) :
    Ruling profile state fed reaction := by
  unfold strayRule at rule
  split at rule
  · obtain rfl : _ = reaction := by simpa using rule
    exact .single (Or.inr (Or.inr (Or.inl rfl)))
  · simp at rule

/-- The rules are tried in order, but whichever applies answers in one of these ways. -/
theorem ruling_of_rules
    (found : (continuationRule profile state fed <|> lineEndRule profile state fed <|>
      blankRule profile state fed <|> literalRule profile state fed <|>
      dotRule profile state fed <|> digitRule profile state fed <|>
      identifierRule profile state fed <|> bracketRule profile state fed <|>
      operatorRule profile state fed <|> escapeRule profile state fed <|>
      strayRule profile state fed) = some reaction) :
    Ruling profile state fed reaction := by
  simp only [Option.orElse_eq_orElse, Option.orElse_eq_or, Option.or_eq_some_iff] at found
  rcases found with rule | ⟨_, rule | ⟨_, rule | ⟨_, rule | ⟨_, rule | ⟨_, rule | ⟨_, rule |
    ⟨_, rule | ⟨_, rule | ⟨_, rule | ⟨_, rule⟩⟩⟩⟩⟩⟩⟩⟩⟩⟩
  · exact ruling_continuationRule rule
  · exact ruling_lineEndRule rule
  · exact ruling_blankRule rule
  · exact ruling_literalRule rule
  · exact ruling_dotRule rule
  · exact ruling_digitRule rule
  · exact ruling_identifierRule rule
  · exact ruling_bracketRule rule
  · exact ruling_operatorRule rule
  · exact ruling_escapeRule rule
  · exact ruling_strayRule rule

theorem Ruling.dispatched (ruling : Ruling profile state fed reaction) :
    Dispatched profile state fed reaction := by
  cases ruling with
  | continuation begins => exact .continuation begins
  | blank => exact .blank
  | single known => exact .single known
  | literal edge unexempt => exact .literal edge unexempt
  | point dot unexempt => exact .point dot unexempt
  | numberPrefix edge => exact .numberPrefix edge
  | number => exact .number _
  | identifier => exact .identifier
  | operator edge => exact .operator edge

end Rules

/-- The answer to a symbol between tokens is that of one of the rules. -/
theorem dispatched (profile : Profile ρ) (state : ScanState ρ) (fed : Fed) :
    Dispatched profile (starting state fed) fed (dispatch profile state fed) := by
  unfold dispatch
  rw [← starting]
  dsimp only
  cases found : (continuationRule profile (starting state fed) fed <|>
      lineEndRule profile (starting state fed) fed <|>
      blankRule profile (starting state fed) fed <|>
      literalRule profile (starting state fed) fed <|>
      dotRule profile (starting state fed) fed <|>
      digitRule profile (starting state fed) fed <|>
      identifierRule profile (starting state fed) fed <|>
      bracketRule profile (starting state fed) fed <|>
      operatorRule profile (starting state fed) fed <|>
      escapeRule profile (starting state fed) fed <|>
      strayRule profile (starting state fed) fed) with
  | none => exact .reject
  | some reaction => exact (ruling_of_rules found).dispatched

/-- Between tokens every symbol is taken. -/
@[simp] theorem dispatch_next (profile : Profile ρ) (state : ScanState ρ) (fed : Fed) :
    (dispatch profile state fed).next = [] := by
  have answer := dispatched profile state fed
  generalize dispatch profile state fed = reaction at answer ⊢
  cases answer <;> simp [awaitLineEnd]

@[simp] theorem dispatch_tokenStart (profile : Profile ρ) (state : ScanState ρ) (fed : Fed) :
    (dispatch profile state fed).state.tokenStart = fed.offset := by
  have answer := dispatched profile state fed
  generalize dispatch profile state fed = reaction at answer ⊢
  cases answer with
  | literal | operator => simp [starting]
  | _ => rfl

theorem react_idle {profile : Profile ρ} {state : ScanState ρ} (idle : state.mode = .idle)
    (fed : Fed) : react profile state fed = dispatch profile state fed := by
  rw [react, idle]

/-! ## Answers that correspond -/

section Answers

variable {α β : Type} {relation : α → β → Prop} {answer next : Option α}
  {other following : Option β}

theorem rel_guard {applies : Bool} (related : Option.Rel relation answer other) :
    Option.Rel relation (if applies then answer else none) (if applies then other else none) := by
  cases applies with
  | false => exact .none
  | true => exact related

/-- Of two rules the first one that applies decides. -/
theorem rel_orElse (first : Option.Rel relation answer other)
    (second : Option.Rel relation next following) :
    Option.Rel relation (answer <|> next) (other <|> following) := by
  cases first with
  | none => exact second
  | some related => exact .some related

theorem rel_getD {value : α} {default : β} (found : Option.Rel relation answer other)
    (otherwise : relation value default) : relation (answer.getD value) (other.getD default) := by
  cases found with
  | none => exact otherwise
  | some related => exact related

end Answers

end Lexing.Scan
