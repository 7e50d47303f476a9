import Lexing.Proofs.LongestWalk

/-!
# Operators are the longest ones

At the start of an operator the machine walks along the trie of operators.  The longest
operator that it has passed is the token, or opens a comment.  Without one, the first
symbol is rejected.  What the walk has read too much is scanned again.
-/

namespace Lexing

namespace Scan

variable {ρ : Type} {profile : Profile ρ} {state : ScanState ρ} {node : NodeId}
  {pending : List Located} {walk : Walk} {start stop last : Nat} {queue : List Fed}

/-! ## Walks along the operators -/

@[simp] theorem closeWalk_enter (mode : Mode) :
    closeWalk profile (state.enter mode) node stop = closeWalk profile state node stop :=
  rfl

@[simp] theorem stuckOperator_enter (mode : Mode) :
    stuckOperator profile (state.enter mode) walk stop = stuckOperator profile state walk stop :=
  rfl

/-- An operator ends where the symbol after it stands. -/
theorem finishOperator_eq {count : Nat} {next : Option Nat} {behind : List Located}
    (adjoin : Located.Adjoin start (pending ++ behind) stop)
    (ended : Located.Adjoin start (pending.take count) last) (nonempty : pending.take count ≠ [])
    (follows : pending.drop count = [] → next.getD last = last) :
    finishOperator profile state pending node count next =
      (closeWalk profile state node last).feed ((pending.drop count).map Fed.plain) := by
  obtain ⟨front, final, cut⟩ := List.eq_nil_or_concat (pending.take count) |>.resolve_left nonempty
  rw [List.concat_eq_append] at cut
  rw [finishOperator_concat cut]
  cases left : pending.drop count with
  | nil =>
      have stays := follows left
      rw [cut] at ended
      cases next with
      | none => simp [ended.last_stop]
      | some offset =>
          obtain rfl : offset = last := stays
          simp
  | cons first others =>
      rw [← List.take_append_drop count pending, left, List.append_assoc] at adjoin
      have stands := adjoin.before.unique ended
      simp [stands]

theorem reachOperator_leaf {terminal : Option (NodeId × Nat)}
    (leaf : profile.operators.hasChildren node = false)
    (adjoin : Located.Adjoin start pending last) (nonempty : pending ≠ []) :
    reachOperator profile state node pending terminal =
      stuckOperator profile state ⟨node, pending, some (node, pending.length)⟩ last := by
  have whole : pending.take pending.length = pending := List.take_length
  have joined : Located.Adjoin start (pending ++ []) last := by rwa [List.append_nil]
  unfold reachOperator stuckOperator
  rw [if_neg (by simp [leaf])]
  dsimp only
  rw [finishOperator_eq joined (by rwa [whole]) (by rwa [whole]) (by simp),
    finishOperator_eq joined (by rwa [whole]) (by rwa [whole]) (by simp)]

variable [Literal.Reader ρ]

def operatorWalker (profile : Profile ρ) : Walker ρ where
  trie := profile.operators
  mode := .operator
  reach := reachOperator profile
  stuck := stuckOperator profile

theorem operatorWalker_drives (profile : Profile ρ) :
    (operatorWalker profile).Drives profile fun fed => ¬CanContinue profile fed.toLocated where
  inner _ _ _ _ inner := if_pos inner
  leaf state node pending terminal start last leaf _ nonempty adjoin :=
    reachOperator_leaf leaf adjoin nonempty
  along state walk fed child classes plain edge := by
    have quiet : beginsContinuation profile (state.enter (.operator walk)) fed = false :=
      beginsContinuation_eq_false _ classes plain
    have along : profile.operators.advance walk.node fed.symbol = some child := edge
    simp only [operatorWalker, react, ScanState.enter_mode, readOperator, quiet, along]
    rfl
  halts state walk fed classes plain edge := by
    have quiet : beginsContinuation profile (state.enter (.operator walk)) fed = false :=
      beginsContinuation_eq_false _ classes plain
    have halts : profile.operators.advance walk.node fed.symbol = none := edge
    simp [operatorWalker, react, readOperator, quiet, halts]
  ends _ _ _ := rfl

/-! ## The start of an operator -/

/-- A symbol that nothing but an operator can start with. -/
structure OnlyOperator (profile : Profile ρ) (symbol : Char) : Prop where
  operator : (profile.classes.classify symbol).operator = true
  starts : (profile.operators.advance Trie.root symbol).isSome = true
  notPoint : symbol ≠ '.'
  notLineEnd : (profile.classes.classify symbol).linefeed = false
  notBlank : (profile.classes.classify symbol).whitespace = false
  notLiteral : (profile.classes.classify symbol).literalFirst = false
  notDigit : (profile.classes.classify symbol).digit = false
  notIdentifier : (profile.classes.classify symbol).identifierFirst = false
  notOpening : (profile.classes.classify symbol).opening = false
  notClosing : (profile.classes.classify symbol).closing = false

theorem OnlyOperator.dispatch_eq {fed : Fed} (only : OnlyOperator profile fed.symbol)
    (classes : state.ownClasses = none) (plain : ¬CanContinue profile fed.toLocated) :
    ∃ node, profile.operators.advance Trie.root fed.symbol = some node ∧
      dispatch profile state fed =
        reachOperator profile (starting state fed) node [fed.toLocated] none := by
  obtain ⟨node, edge⟩ := Option.isSome_iff_exists.mp only.starts
  have quiet := beginsContinuation_eq_false (starting state fed) classes plain
  have traits : (starting state fed).classify profile fed.symbol =
      profile.classes.classify fed.symbol := by
    simp [ScanState.classify, starting, classes]
  refine ⟨node, edge, ?_⟩
  unfold dispatch
  rw [← starting]
  simp [continuationRule, quiet, lineEndRule, blankRule, literalRule, dotRule, digitRule,
    identifierRule, bracketRule, operatorRule, traits, edge, only.operator, only.notPoint,
    only.notLineEnd, only.notBlank, only.notLiteral, only.notDigit, only.notIdentifier,
    only.notOpening, only.notClosing]

/-! ## The longest operator -/

/-- What becomes of an operator or a marker that the source has from the start of a
token on. -/
inductive Matched (profile : Profile ρ) (source : String) (past : List Report) (token : Token)
    (start : Nat) (word behind : List Char) : Prop
  | operator (kind : Kind) : profile.operators.lookup? word = some kind →
      kind.isOperator = true → token.kind = kind →
      token.span = ⟨start, start + byteLength word⟩ → token.payload = .empty →
      Arrives profile source (past ++ [.token token]) .idle false start (start + byteLength word)
        behind →
      Matched profile source past token start word behind
  | fallback (kind : Kind) : profile.operators.lookup? word = some .lineComment →
      profile.fallbackKind? (String.ofList word) = some kind →
      profile.options.lineCommentOnlyAtLineStart = true → token.atLineStart = false →
      token.kind = kind → token.span = ⟨start, start + byteLength word⟩ →
      token.payload = .empty →
      Arrives profile source (past ++ [.token token]) .idle false start (start + byteLength word)
        behind →
      Matched profile source past token start word behind
  | lineComment (fresh : Bool) : profile.operators.lookup? word = some .lineComment →
      (profile.options.lineCommentOnlyAtLineStart = true → fresh = false →
        profile.fallbackKind? (String.ofList word) = none) →
      Arrives profile source past (.lineComment []) fresh start (start + byteLength word) behind →
      Matched profile source past token start word behind
  | blockComment (fresh : Bool) : profile.operators.lookup? word = some .blockComment →
      Arrives profile source past (.blockComment [] 0 false) fresh start (start + byteLength word)
        behind →
      Matched profile source past token start word behind

/-- What becomes of the first symbol of a token that no operator starts with. -/
structure Unmatched (profile : Profile ρ) (source : String) (past : List Report) (token : Token)
    (start : Nat) (symbol : Char) (walked rest : List Char) : Prop where
  kind : token.kind = .unexpected
  span : token.span = ⟨start, start + symbol.utf8Size⟩
  payload : token.payload = .empty
  arrives : Arrives profile source
    (past ++ [.unknownOperator ⟨start, start + byteLength walked⟩,
      .unexpected ⟨start, start + symbol.utf8Size⟩ none, .token token])
    .idle false start (start + symbol.utf8Size) rest

omit [Literal.Reader ρ] in
theorem freshAfter_eq_false {kind : Kind} (range : 0x1000 ≤ kind.code ∧ kind.code < 0x8000) :
    state.freshAfter kind = false := by
  have other : ∀ trivia : Kind, trivia.code < 0x1000 → kind ≠ trivia := by
    rintro trivia small rfl
    omega
  have bare : kind.isTrivia = false := by
    simp [Kind.isTrivia, Kind.isComment, Kind.isControl, other .space (by decide),
      other .tab (by decide), other .formFeed (by decide), other .lineContinuation (by decide),
      other .lineComment (by decide), other .blockComment (by decide)]
    omega
  simp [ScanState.freshAfter, bare, other .linefeed (by decide)]

omit [Literal.Reader ρ] in
theorem freshAfter_operator {kind : Kind} (operator : kind.isOperator = true) :
    state.freshAfter kind = false := by
  apply freshAfter_eq_false
  unfold Kind.isOperator Kind.category at operator
  grind

section Longest

variable {source : String} {offset next : Nat} {symbol : Char} {text passed behind word : List Char}
  {before after : List Token} {token : Token} {past future : List Report} {fed : Fed}
  {rest again : List Fed}
  (startsToken : StartsToken profile source offset (symbol :: text) before (token :: after) past
    future state fed queue)

include startsToken

theorem StartsToken.arrives_become {mode : Mode}
    (amounts : AmountsTo profile (byteLength source.toList) (dispatch profile state fed) queue
      (((starting state fed).become mode).feed again) rest)
    (left : (again ++ rest).map Fed.toLocated = Located.ofText next behind) :
    Arrives profile source past mode state.lineStart offset next behind := by
  obtain ⟨arrives, _⟩ := startsToken.arrives (startsToken.leads amounts) (by simpa using left)
  simp only [Reaction.feed_reports, ScanState.become_reports, List.append_nil] at arrives
  obtain rfl : fed.offset = offset := congrArg Located.offset (startsToken.located rfl)
  exact arrives

theorem StartsToken.arrives_finish {kind : Kind} {stop : Nat}
    (amounts : AmountsTo profile (byteLength source.toList) (dispatch profile state fed) queue
      (((starting state fed).finish kind stop).feed again) rest)
    (left : (again ++ rest).map Fed.toLocated = Located.ofText next behind) :
    token = { atLineStart := state.lineStart, kind, span := ⟨offset, stop⟩ } ∧
      Arrives profile source (past ++ [.token token]) .idle (state.freshAfter kind) offset next
        behind := by
  obtain ⟨arrives, first⟩ := startsToken.arrives (startsToken.leads amounts) (by simpa using left)
  obtain rfl : fed.offset = offset := congrArg Located.offset (startsToken.located rfl)
  obtain rfl := (List.cons_prefix_cons.mp first).1
  exact ⟨rfl, arrives⟩

omit [Literal.Reader ρ] startsToken in
theorem Walked.stuckOperator_eq (state : ScanState ρ)
    (walked : Walked profile.operators offset text walk rest last passed behind)
    (fits : offset + byteLength text ≤ maxOffset)
    (terminal : walk.terminal = some (node, word.length)) (nonempty : word ≠ [])
    (begins : word <+: passed) :
    ∃ others, passed = word ++ others ∧ stuckOperator profile state walk last =
      (closeWalk profile state node (offset + byteLength word)).feed
        ((Located.ofText (offset + byteLength word) others).map Fed.plain) := by
  obtain ⟨others, rfl, taken, dropped⟩ := walked.cut fits begins
  rw [walked.whole, byteLength_append] at fits
  have adjoin : Located.Adjoin offset (walk.pending ++ []) last := by
    rw [List.append_nil, walked.pending, walked.last]
    exact Located.adjoin_ofText (by omega)
  have ended : Located.Adjoin offset (walk.pending.take word.length)
      (offset + byteLength word) := by
    rw [byteLength_append] at fits
    rw [taken]
    exact Located.adjoin_ofText (by omega)
  refine ⟨others, rfl, ?_⟩
  unfold stuckOperator
  rw [terminal]
  dsimp only
  rw [finishOperator_eq adjoin ended, dropped]
  · rw [taken, ← List.length_pos_iff, Located.length_ofText]
    exact List.length_pos_iff.mpr nonempty
  · intro nothing
    have empty : others = [] := by
      rwa [dropped, ← List.length_eq_zero_iff, Located.length_ofText,
        List.length_eq_zero_iff] at nothing
    simp [walked.last, empty]

/-- Closing a walk after the longest operator reports it or opens its comment. -/
theorem StartsToken.matched (sound : profile.Sound)
    (amounts : AmountsTo profile (byteLength source.toList) (dispatch profile state fed) queue
      ((closeWalk profile (starting state fed) node (offset + byteLength word)).feed again) rest)
    (left : (again ++ rest).map Fed.toLocated =
      Located.ofText (offset + byteLength word) behind)
    (found : profile.operators.find? word = some node)
    (registered : profile.operators.Registered word) :
    Matched profile source past token offset word behind := by
  obtain ⟨kind, lookup⟩ := Option.isSome_iff_exists.mp registered
  have nonempty : word ≠ [] := (Trie.registered_iff.mp registered).1
  have ended : profile.operators.kind? node = some kind := by
    simpa [Trie.lookup?, nonempty, found] using lookup
  have fallbacks : profile.fallbackKind? (String.ofList word) = profile.fallbackAt? node := by
    simp [Profile.fallbackKind?, nonempty, found]
  have named : ∀ {other : Kind}, profile.operators.kind? node = some other →
      profile.operators.lookup? word = some other := fun known => by
    rw [← Option.some.inj (ended.symm.trans known)]
    exact lookup
  have closed := closeWalk_closed profile (starting state fed) node (offset + byteLength word)
  generalize closeWalk profile (starting state fed) node (offset + byteLength word) = reaction
    at closed amounts
  cases closed with
  | demoted line present only late =>
      have operator := sound.fallbackOperator present
      obtain ⟨rfl, arrives⟩ := startsToken.arrives_finish amounts left
      rw [freshAfter_operator operator] at arrives
      exact .fallback _ (named line) (fallbacks.trans present) only late rfl rfl rfl arrives
  | lineComment line fresh =>
      refine .lineComment state.lineStart (named line) ?_ (startsToken.arrives_become amounts left)
      intro only late
      rw [fallbacks, ← Option.not_isSome_iff_eq_none]
      intro present
      have early : state.lineStart = true := fresh only present
      simp [early] at late
  | blockComment block =>
      exact .blockComment state.lineStart (named block) (startsToken.arrives_become amounts left)
  | @operator kind known notLine notBlock =>
      have operator : kind.isOperator = true := by
        rcases sound.operatorKinds node kind known with operator | line | block
        · exact operator
        · exact absurd line notLine
        · exact absurd block notBlock
      obtain ⟨rfl, arrives⟩ := startsToken.arrives_finish amounts left
      rw [freshAfter_operator operator] at arrives
      exact .operator kind (named known) operator rfl rfl rfl arrives
  | unnamed missing => simp [missing] at ended

theorem StartsToken.unmatched
    (amounts : AmountsTo profile (byteLength source.toList) (dispatch profile state fed) queue
      (stuckOperator profile (starting state fed) walk last) rest)
    (walked : Walked profile.operators offset (symbol :: text) walk rest last passed behind)
    (fits : offset + byteLength (symbol :: text) ≤ maxOffset) (incomplete : walk.terminal = none) :
    Unmatched profile source past token offset symbol passed text := by
  obtain ⟨others, rfl, rfl⟩ : ∃ others, passed = symbol :: others ∧ text = others ++ behind := by
    obtain ⟨first, others, rfl⟩ := List.exists_cons_of_ne_nil walked.nonempty
    obtain ⟨rfl, tail⟩ := List.cons_eq_cons.mp walked.whole
    exact ⟨others, rfl, tail⟩
  have bound := fits
  simp only [byteLength] at bound
  have second : symbolEnd symbol offset = offset + symbol.utf8Size := symbolEnd_eq (by omega)
  have span := Located.spanOf?_ofText offset walked.nonempty (by
    rw [← List.cons_append, byteLength_append] at fits
    omega)
  have firstStop : ((Located.ofText (offset + symbol.utf8Size) others).head?.map
      Located.offset).getD last = offset + symbol.utf8Size := by
    cases others with
    | nil => simpa [Located.ofText, byteLength] using walked.last
    | cons => rfl
  have left : ((Located.ofText (offset + symbol.utf8Size) others).map Fed.plain ++ rest).map
      Fed.toLocated = Located.ofText (offset + symbol.utf8Size) (others ++ behind) := by
    apply map_plain_append
    · rw [walked.left, byteLength, Nat.add_assoc]
    · omega
  unfold stuckOperator at amounts
  rw [incomplete, walked.pending, span] at amounts
  simp only [Located.ofText, second, firstStop] at amounts
  obtain ⟨arrives, first⟩ := startsToken.arrives (startsToken.leads amounts) (by simpa using left)
  obtain rfl : fed.offset = offset := congrArg Located.offset (startsToken.located rfl)
  obtain rfl := (List.cons_prefix_cons.mp first).1
  exact ⟨rfl, rfl, rfl, arrives⟩

end Longest

/-- The operator at the start of a token is the longest one that the source has there. -/
theorem operator_longest_match (made : profile.Made) (undotted : ¬profile.StartsLiteral '.')
    (source : String)
    (unescaped : profile.options.honorLineContinuation = false ∨
      ∀ symbol ∈ source.toList, (profile.classes.classify symbol).escape = false) :
    Delivers profile source ∧
      ∀ (before after : List Token) (token : Token) (front rest : List Char) (symbol : Char),
        tokens profile source = before ++ token :: after →
        source.toList = front ++ symbol :: rest → token.span.start = byteLength front →
        OnlyOperator profile symbol →
        ∃ past, tokensOf past = before ∧
          (∀ word, LongestStart profile.operators.Registered (symbol :: rest) word →
            ∃ behind, symbol :: rest = word ++ behind ∧
              Matched profile source past token (byteLength front) word behind) ∧
          ((∀ word, word <+: symbol :: rest → ¬profile.operators.Registered word) →
            ∃ walked, LongestStart profile.operators.Walkable (symbol :: rest) walked ∧
              Unmatched profile source past token (byteLength front) symbol walked rest) := by
  by_cases fits : byteLength source.toList ≤ maxOffset
  case neg =>
    obtain ⟨nothing, delivers⟩ := events_of_large profile fits
    refine ⟨delivers, fun before after token _ _ _ cut => ?_⟩
    simp [tokens, nothing] at cut
  have sound := made.sound
  have unstarted := (sound.not_startsLiteral_iff '.').mp undotted
  have setting := setting_of_unescaped sound unescaped
  obtain ⟨_, _, _, delivers⟩ :=
    transcribed fits (bounded_of_setting setting (Located.adjoin_source fits) unstarted)
  refine ⟨delivers, ?_⟩
  intro before after token front rest symbol cut text starts only
  obtain ⟨past, future, state, fed, queue, startsToken⟩ :=
    StartsToken.of_tokens fits unstarted setting cut text starts (fun _ => id)
  have ends : byteLength front + byteLength (symbol :: rest) = byteLength source.toList := by
    rw [text, byteLength_append]
  have plain : ∀ other ∈ fed :: queue, ¬CanContinue profile other.toLocated := by
    intro other member
    have inside : other.toLocated ∈ Located.ofText (byteLength front) (symbol :: rest) := by
      rw [← startsToken.symbols]
      exact List.mem_map_of_mem member
    refine not_canContinue_of_unescaped unescaped ?_
    rw [text]
    exact List.mem_append_right _ (Located.symbol_mem_of_mem_ofText inside)
  obtain rfl : fed.symbol = symbol := congrArg Located.symbol (startsToken.located rfl)
  obtain ⟨node, edge, dispatched⟩ := only.dispatch_eq startsToken.sane.classes (plain fed (by simp))
  obtain ⟨walk, others, last, passed, behind, walked, amounts⟩ :=
    startsToken.walks (operatorWalker_drives profile) sound.operators
      (fun other member => plain other (by simp [member])) edge dispatched ends fits
  change AmountsTo _ _ _ _ (stuckOperator profile _ _ _) _ at amounts
  refine ⟨past, startsToken.before, ?_, ?_⟩
  · intro word longest
    rw [walked.whole] at longest
    obtain ⟨node, terminal, shorter, found⟩ :=
      walked.stuck.deepest_of_longest walked.deepest longest
    obtain ⟨more, rfl, closed⟩ := walked.stuckOperator_eq (starting state fed) (by omega)
      terminal (Trie.registered_iff.mp longest.holds).1 (List.prefix_iff_eq_take.mpr shorter)
    rw [closed] at amounts
    refine ⟨more ++ behind, by simp [walked.whole], ?_⟩
    refine startsToken.matched sound amounts ?_ found longest.holds
    apply map_plain_append
    · rw [walked.left, byteLength_append, Nat.add_assoc]
    · have bound := ends
      rw [walked.whole, List.append_assoc, byteLength_append] at bound
      omega
  · intro unregistered
    rw [walked.whole] at unregistered ⊢
    refine ⟨passed, walked.stuck.longestStart, ?_⟩
    exact startsToken.unmatched amounts walked (by omega)
      (Trie.terminal_eq_none walked.deepest unregistered)

/-- The walk along `<<a` goes on after the first symbol but only this one is an operator. -/
theorem operator_longest_match_shift :
    LongestStart shiftProfile.operators.Registered "<<a<<=".toList ['<'] ∧
      ∃ past, tokensOf past = [] ∧
        Matched shiftProfile "<<a<<=" past
          { atLineStart := true, kind := ⟨0x2000⟩, span := ⟨0, 1⟩ } 0 ['<'] "<a<<=".toList := by
  have unstarted : ¬shiftProfile.StartsLiteral '.' :=
    (shiftProfile_made.sound.not_startsLiteral_iff '.').mpr (by decide +kernel)
  have plain : "<<a<<=".toList.all
      (fun symbol => !(shiftProfile.classes.classify symbol).escape) = true := by
    decide +kernel
  have longest : LongestStart shiftProfile.operators.Registered "<<a<<=".toList ['<'] :=
    Trie.longestStart_of_take (by decide) (show _ = true by decide +kernel) (by decide +kernel)
  have only : OnlyOperator shiftProfile '<' := by
    constructor <;> decide +kernel
  refine ⟨longest, ?_⟩
  have first : tokens shiftProfile "<<a<<=" =
      [] ++ { atLineStart := true, kind := ⟨0x2000⟩, span := ⟨0, 1⟩ } ::
        (tokens shiftProfile "<<a<<=").tail := by
    decide +kernel
  obtain ⟨past, covered, matched, _⟩ := (operator_longest_match shiftProfile_made unstarted "<<a<<="
    (Or.inr fun symbol member => by simpa using List.all_eq_true.mp plain symbol member)).2
    _ _ _ [] "<a<<=".toList '<' first (by decide) rfl only
  obtain ⟨behind, same, reads⟩ := matched ['<'] longest
  obtain rfl : "<a<<=".toList = behind := (List.cons_eq_cons.mp same).2
  exact ⟨past, covered, reads⟩

end Scan

end Lexing
