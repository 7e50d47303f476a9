import Lexing.Proofs.NumberTexts

/-!
# Numbers have the values of their texts

Wherever a scan gets to, the number that is read has counted the digits of what was read since
it began.  So a number token has the value of its text: that of the longest start of its digits
that stays below the bound, and a flag where this start is not all of them.
-/

namespace Lexing

/-! ## The default base -/

theorem Kind.one_lt_numberBase? {kind : Kind} {base : Nat}
    (known : kind.numberBase? = some base) : 1 < base := by
  unfold numberBase? at known
  split at known
  · split at known <;> simp at known <;> omega
  · simp at known

/-- Numbers without a prefix are those of the default base. -/
theorem Profile.Made.defaultNumber {ρ : Type} {profile : Profile ρ} (made : profile.Made) :
    profile.defaultNumber.numberBase? = some profile.options.defaultBase := by
  suffices kept : ∀ {before after : Profile ρ}, before.Changes after →
      before.defaultNumber.numberBase? = some before.options.defaultBase →
      after.defaultNumber.numberBase? = some after.options.defaultBase by
    refine Profile.Made.induction ?_ kept made
    exact show Kind.numberDecimal.numberBase? = some 10 by decide
  intro before after changes given
  cases changes with
  | options supported => exact Kind.numberBase?_of_numberForBase? supported
  | _ => exact given

theorem Profile.Made.defaultBase {ρ : Type} {profile : Profile ρ} (made : profile.Made) :
    (Numeral.ofKind profile.defaultNumber).base = profile.options.defaultBase := by
  simp [Numeral.ofKind, made.defaultNumber]

namespace Scan

variable {ρ : Type} [Literal.Reader ρ] {profile : Profile ρ} {state : ScanState ρ}
  {reaction : Reaction ρ} {fed : Fed} {source : String} {pointed : Segment → Prop}

/-! ## All reactions -/

section Reactions

variable {gapped : List Char → Prop}
  (base : (Numeral.ofKind profile.defaultNumber).base = profile.options.defaultBase)

include base

theorem firstRule_tallies (idle : state.mode = .idle)
    (found : firstRule profile (starting state fed) fed = some reaction) :
    Tallies gapped profile fed.offset [fed.symbol] reaction := by
  have sameMode : ¬(starting state fed).mode.Numerical := by
    rw [show (starting state fed).mode = .idle from idle]
    exact id
  cases ruling_of_firstRule found with
  | continuation | blank | numberPrefix | identifier => exact (numberless_become id).tallies
  | single => exact (numberless_emit sameMode rfl).tallies
  | literal => exact (reachLiteral_numberless _ _ _).tallies
  | operator => exact (reachOperator_numberless _ _ _).tallies
  | point dot =>
      exact tallies_become ⟨profile.defaultNumber, [], [], [], by simp [dot], by simp [byteLength],
        .of_opens (Or.inr ⟨rfl, rfl⟩), by simp, Or.inl rfl⟩
  | number worth =>
      rw [← base] at worth
      exact tallies_become ⟨profile.defaultNumber, [], [fed.symbol], rfl,
        (Integral.of_opens (Or.inr ⟨rfl, rfl⟩)).digit worth⟩

theorem dispatch_tallies (idle : state.mode = .idle) :
    Tallies gapped profile fed.offset [fed.symbol] (dispatch profile state fed) := by
  rw [dispatch_eq_firstRule]
  cases found : firstRule profile (starting state fed) fed with
  | none => exact (numberless_reject _ _).tallies
  | some reaction => exact firstRule_tallies base idle found

omit base in
/-- Behind a pointed symbol something was absorbed. -/
theorem dispatch_pointed_tallies {symbols : List Located}
    (setting : Setting (.tight pointed) profile symbols) (own : state.ownClasses = none)
    {trail : List Splice} (isPointed : pointed ⟨fed.toLocated, trail⟩)
    (spaced : gapped ((trail.map Splice.symbol).map Located.symbol)) :
    Tallies gapped profile fed.offset
      (fed.symbol :: (trail.map Splice.symbol).map Located.symbol)
      (dispatch profile state fed) := by
  rcases setting.points state fed trail own isPointed with ⟨dot, answer⟩ | ⟨node, _, answer⟩
  · rw [answer]
    exact tallies_become ⟨profile.defaultNumber, [], [], _, by rw [dot]; rfl,
      by simp [byteLength], .of_opens (Or.inr ⟨rfl, rfl⟩), by simp, Or.inr ⟨rfl, rfl, spaced⟩⟩
  · rw [answer]
    exact (reachOperator_numberless _ _ _).tallies

/-- Inside of a token, every answer counts the symbols that were read. -/
theorem Answered.tallies {next : Option Fed} {read : List Located} {rest : List Fed}
    (answered : Answered profile (byteLength source.toList) state next reaction)
    (fits : byteLength source.toList ≤ maxOffset) (valid : state.Valid profile)
    (recalls : Recalls pointed profile state.mode.resting read)
    (counts : Counts gapped profile state.tokenStart state.mode (read.map Located.symbol))
    (busy : state.mode ≠ .idle) (ended : next = none → rest = [])
    (ahead : Ahead source state.tokenStart
      (read ++ (state.mode.waiting ++ (next.toList ++ rest).map Fed.toLocated))) :
    Tallies gapped profile state.tokenStart
      ((read ++ (state.mode.waiting ++ next.toList.map Fed.toLocated)).map Located.symbol)
      reaction := by
  unfold ScanState.Valid at valid
  by_cases plain : ¬state.mode.Numerical ∧ ∀ node pending, state.mode ≠ .numberPrefix node pending
  · exact (answered.numberless busy plain.1 plain.2).tallies
  have bare : state.mode.waiting = [] := by
    cases mode : state.mode with
    | continuation => exact absurd ⟨by simp [mode, Mode.Numerical], by simp [mode]⟩ plain
    | _ => rfl
  rw [bare, List.nil_append] at ahead ⊢
  have place := ahead.border_eq fits ended
  have given : (next.toList.map Fed.toLocated).map Located.symbol =
      next.toList.map (fun fed => fed.symbol) := by simp
  rw [List.map_append, given]
  cases answered with
  | takes mode takes =>
      rw [mode] at counts
      exact tallies_become (takes.counts place counts)
  | completes mode completed =>
      rw [mode] at counts
      exact (completed.tallies place counts).feed _
  | resolves mode =>
      rw [mode] at valid recalls
      obtain rfl := recalls
      refine resolvePrefix_tallies valid.2 valid.1 base (fun span spanEq => ?_) next
      rw [ahead.spanOf fits spanEq]
  | releases mode =>
      rw [mode] at counts
      exact (releaseDot_tallies counts).feed _
  | between mode | linefeed mode | extendsOperator mode | endsOperator mode | closesBlock mode
  | unclosed mode | extendsIntroduction mode | endsIntroduction mode | reads mode
  | closesLiteral mode | joins mode | joinsBefore mode | abandons mode =>
      exact absurd ⟨by simp [mode, Mode.Numerical], by simp [mode]⟩ plain

end Reactions

/-! ## Whole scans -/

omit [Literal.Reader ρ] in
theorem resting_ne_idle (busy : state.mode ≠ .idle)
    (begun : ¬∃ escape carriage, state.mode = .continuation .idle escape carriage) :
    state.mode.resting ≠ .idle := by
  cases mode : state.mode with
  | idle => exact absurd mode busy
  | continuation resume escape carriage =>
      cases resume with
      | idle => exact absurd ⟨escape, carriage, mode⟩ begun
      | _ => simp [Mode.resting, Resume.mode]
  | _ => simp [Mode.resting]

section Scans

variable {past : List Report} {config : Config ρ} {rest : List Fed}

theorem Reaches.step (reaches : Reaches profile source past config)
    (next : nextReaction? profile (some (byteLength source.toList)) config.state config.queue =
      some (reaction, rest)) :
    Reaches profile source (past ++ reaction.reports) ⟨reaction.state, reaction.next ++ rest⟩ :=
  Leads.trans reaches (Leads.single next)

/-- What holds at the opening of a source and is kept by every reaction holds wherever a scan
gets to. -/
theorem Reaches.induction {property : List Report → Config ρ → Prop}
    (start : property [] (opening source))
    (step : ∀ {past config reaction rest}, Reaches profile source past config →
      property past config →
      nextReaction? profile (some (byteLength source.toList)) config.state config.queue =
        some (reaction, rest) →
      property (past ++ reaction.reports) ⟨reaction.state, reaction.next ++ rest⟩)
    (reaches : Reaches profile source past config) : property past config := by
  suffices general : ∀ {first last : Config ρ} {reports earlier : List Report},
      Leads profile (some (byteLength source.toList)) first reports last →
      Reaches profile source earlier first → property earlier first →
      property (earlier ++ reports) last from
    general reaches (.here _) start
  intro first last reports earlier leads
  induction leads generalizing earlier with
  | here => simp
  | there next _ ih =>
      intro reached holds
      rw [← List.append_assoc]
      exact ih (reached.step next) (step reached holds next)

/-- Behind a symbol between tokens the next one follows, but for a gap that the tokens so far
and the place explain. -/
def Spaced (gapped : List Token → Nat → List Char → Prop) (profile : Profile ρ)
    (source : String) : Prop :=
  ∀ (past : List Report) (state : ScanState ρ) (fed : Fed) (rest : List Fed),
    Reaches profile source past ⟨state, fed :: rest⟩ → state.mode = .idle →
    ∃ gap, (gap = [] ∨ gapped (tokensOf past) fed.offset (gap.map Located.symbol)) ∧
      Ahead source fed.offset (fed.toLocated :: (gap ++ rest.map Fed.toLocated))

/-- The mode has counted what was read since its token began. -/
def Counted (gapped : List Token → Nat → List Char → Prop) (profile : Profile ρ)
    (source : String) (past : List Report) (config : Config ρ) : Prop :=
  ∀ read, Ahead source config.state.tokenStart
      (read ++ (config.state.mode.waiting ++ config.queue.map Fed.toLocated)) →
    Counts (gapped (tokensOf past) config.state.tokenStart) profile config.state.tokenStart
      config.state.mode (read.map Located.symbol)

variable {gapped : List Token → Nat → List Char → Prop}
  (fits : byteLength source.toList ≤ maxOffset)
  (setting : Setting (.tight pointed) profile (Located.ofText 0 source.toList))
  (base : (Numeral.ofKind profile.defaultNumber).base = profile.options.defaultBase)
  (spaced : Spaced gapped profile source)

include fits setting base spaced

theorem dispatch_counted {queue : List Fed}
    (reaches : Reaches profile source past ⟨state, fed :: queue⟩) (idle : state.mode = .idle) :
    ∃ symbols, Ahead source fed.offset (symbols ++ queue.map Fed.toLocated) ∧
      Tallies (gapped (tokensOf past) fed.offset) profile fed.offset
        (symbols.map Located.symbol) (dispatch profile state fed) := by
  have moment := reaches.moment fits setting
  obtain ⟨tokens, splices, standing⟩ := moment.standing
  obtain ⟨gap, known, ahead⟩ := spaced _ _ _ _ reaches idle
  obtain ⟨trail, chain, again⟩ := standing.ahead_idle fits idle
  obtain rfl : gap = trail.map Splice.symbol :=
    List.append_cancel_right (List.cons_eq_cons.mp (ahead.unique again)).2
  refine ⟨fed.toLocated :: trail.map Splice.symbol, ahead, ?_⟩
  rcases chain with rfl | isPointed
  · exact dispatch_tallies base idle
  rcases known with bare | spaces
  · rw [bare]
    exact dispatch_tallies base idle
  · exact dispatch_pointed_tallies setting moment.sane.classes isPointed spaces

/-- Every reaction of a scan counts the symbols of the source from the start of its token on, if
it has to do with a number at all. -/
theorem next_tallies (reaches : Reaches profile source past config)
    (counted : Counted gapped profile source past config)
    (next : nextReaction? profile (some (byteLength source.toList)) config.state config.queue =
      some (reaction, rest)) :
    Numberless reaction ∨ ∃ symbols,
      Ahead source reaction.state.tokenStart (symbols ++ rest.map Fed.toLocated) ∧
        Tallies (gapped (tokensOf past) reaction.state.tokenStart) profile
          reaction.state.tokenStart (symbols.map Located.symbol) reaction := by
  obtain ⟨state, queue⟩ := config
  have moment := reaches.moment fits setting
  have valid := moment.sane.valid
  obtain ⟨symbol, rfl, ended, answered⟩ := answered_next next
  by_cases waits : ∃ escape carriage, state.mode = .continuation .idle escape carriage
  · obtain ⟨escape, carriage, mode⟩ := waits
    left
    exact answered.numberless (by simp [mode]) (by simp [mode, Mode.Numerical]) (by simp [mode])
  right
  by_cases idle : state.mode = .idle
  · obtain ⟨fed, rfl, rfl⟩ := answered.of_idle idle
    rw [dispatch_tokenStart]
    exact dispatch_counted fits setting base spaced reaches idle
  · obtain ⟨read, ahead, recalls⟩ := moment.reads (resting_ne_idle idle waits)
    rw [answered.tokenStart idle]
    refine ⟨read ++ (state.mode.waiting ++ symbol.toList.map Fed.toLocated),
      by simpa using ahead, ?_⟩
    exact answered.tallies base fits valid recalls (counted read ahead) idle ended ahead

omit fits setting base spaced [Literal.Reader ρ] in
theorem Tallies.counted {gapped : List Char → Prop} {start : Nat} {symbols read : List Located}
    (tallies : Tallies gapped profile start (symbols.map Located.symbol) reaction)
    (numerical : reaction.state.mode.Numerical)
    (before : Ahead source start (symbols ++ rest.map Fed.toLocated))
    (after : Ahead source start (read ++ (reaction.state.mode.waiting ++
      (reaction.next ++ rest).map Fed.toLocated))) :
    Counts gapped profile start reaction.state.mode (read.map Located.symbol) := by
  have settled : reaction.state.mode.waiting = [] := by
    cases mode : reaction.state.mode with
    | continuation => simp [mode, Mode.Numerical] at numerical
    | _ => rfl
  have same : symbols = read ++ reaction.next.map Fed.toLocated :=
    List.append_cancel_right ((before.unique after).trans (by simp [settled]))
  exact tallies.counts _ (by simp [same, Function.comp_def])

/-- Wherever a scan gets to, the digits of what was read are counted. -/
theorem Reaches.counted (reaches : Reaches profile source past config) :
    Counted gapped profile source past config := by
  refine Reaches.induction (fun _ _ => trivial) ?_ reaches
  intro past config reaction rest reaches counted next read after
  by_cases numerical : reaction.state.mode.Numerical
  · rcases next_tallies fits setting base spaced reaches counted next with
      numberless | ⟨symbols, before, tallies⟩
    · exact absurd numerical numberless.mode
    · rw [tokensOf_append, tallies.silent numerical, List.append_nil]
      exact tallies.counted numerical before after
  · exact counts_of_plain numerical

omit fits setting base spaced [Literal.Reader ρ] in
/-- A token is the only one of its reaction. -/
theorem Tells.alone {before : Mode} (tells : Tells before reaction) {told more : List Report}
    {token : Token} (reports : reaction.reports = told ++ .token token :: more) :
    tokensOf told = [] := by
  have single : (tokensOf reaction.reports).length ≤ 1 := by
    clear reports
    cases tells <;> simp [*, tokensOf, Report.event, Event.token?]
  have later : tokensOf (.token token :: more) = token :: tokensOf more := rfl
  rw [reports, tokensOf_append, List.length_append, later, List.length_cons] at single
  exact List.length_eq_zero_iff.mp (by omega)

/-- A number that is reported is what was counted. -/
theorem writes_of_arises {past : List Report} {token : Token}
    (arises : Arises profile (byteLength source.toList) (opening source) past (.token token))
    (number : token.payload.suffixStart? ≠ none) :
    ∃ text, token.text source = String.ofList text ∧
      Writes (gapped (tokensOf past) token.span.start) profile token.span.start text token := by
  cases arises with
  | @intro earlier told more middle reaction rest leads next split reports =>
      have member : token ∈ tokensOf reaction.reports := by
        rw [reports, tokensOf_append]
        exact List.mem_append_right _ (List.mem_cons_self ..)
      have reached : Reaches profile source earlier middle := leads
      have moment := reached.moment fits setting
      have tells := next_tells setting.sound moment.sane.valid next
      rw [split, tokensOf_append, tells.alone reports, List.append_nil]
      rcases next_tallies fits setting base spaced reached
        (reached.counted fits setting base spaced) next with numberless | ⟨symbols, ahead, tallies⟩
      · exact absurd (numberless.tokens token member) number
      · obtain ⟨read, others, cut, writes⟩ := tallies.numbers token member number
        obtain ⟨front, back, rfl, rfl, -⟩ := List.map_eq_append_iff.mp cut
        have start : token.span.start = reaction.state.tokenStart := by rw [writes.span]
        rw [start]
        rw [List.append_assoc] at ahead
        exact ⟨_, Ahead.text fits ahead start (by rw [writes.span]), writes⟩

end Scans

/-! ## Values -/

/-- The payload of a number that ends at `stop`.  The symbols of its text behind the prefix are
`body`, and its digits have the given base.  A gap may stand behind the point. -/
inductive Valued (profile : Profile ρ) (base : Nat) (gap body : List Char) (stop : Nat) :
    Payload → Prop
  | integer {value : Nat} {overflow : Bool} : gap = [] →
      (∀ symbol ∈ body, Numeric profile base symbol) →
      Truncates base (digitsOf base body) value overflow →
      Valued profile base gap body stop (.integer { value, overflow, suffixStart := stop })
  | float {left right : List Char} {first : Char} {integer fraction scale : Nat}
      {integerOverflow fractionOverflow : Bool} :
      body = left ++ '.' :: (gap ++ first :: right) → '.' ∉ left →
      (digitValue? first base).isSome = true →
      (∀ symbol ∈ left ++ right, Numeric profile base symbol) →
      Truncates base (digitsOf base left) integer integerOverflow →
      TruncatesFraction base (digitsOf base (first :: right)) fraction scale fractionOverflow →
      Valued profile base gap body stop (.float {
        bits := (Numeral.nearestFloat integer +
          Numeral.nearestFloat fraction / Numeral.nearestFloat scale).toBits
        integerOverflow
        fractionOverflow
        suffixStart := stop })

section Values

variable {kind : Kind} {value integer : Numeral} {opening body left gap right : List Char}
  {gapped : List Char → Prop}

omit [Literal.Reader ρ] in
/-- The kind of a number is that of an integer in some base. -/
theorem Opens.facts (opens : Opens profile kind opening) (made : profile.Made) :
    kind.isNumber = true ∧ kind.isFloat = false ∧
      kind.numberBase? = some (Numeral.ofKind kind).base ∧ 1 < (Numeral.ofKind kind).base := by
  have counts : (Numeral.ofKind kind).Counts profile := by
    rcases opens with registered | ⟨_, rfl⟩
    · exact Or.inr ⟨_, registered⟩
    · exact Or.inl rfl
  have based : ∃ base, kind.numberBase? = some base := by
    rcases opens with registered | ⟨_, rfl⟩
    · obtain ⟨node, _, known⟩ := Trie.exists_of_lookup? registered
      exact Option.isSome_iff_exists.mp (made.sound.numberKinds node kind known).2
    · exact ⟨_, made.defaultNumber⟩
  obtain ⟨base, known⟩ := based
  have same : (Numeral.ofKind kind).base = base := by simp [Numeral.ofKind, known]
  rw [same]
  exact ⟨counts.isNumber made.sound, Profile.isFloat_of_counts made.regular counts, known,
    Kind.one_lt_numberBase? known⟩

omit [Literal.Reader ρ] in
theorem Integral.truncates (integral : Integral profile kind opening body value)
    (made : profile.Made) :
    Truncates value.base (digitsOf value.base body) value.integer value.integerOverflow := by
  have large := (integral.opens.facts made).2.2.2
  have counted := Numeral.countsInteger_pushDigits (truncates_nil (Numeral.ofKind kind).base)
    (by omega) (digitsOf value.base body)
  rw [← integral.value] at counted
  exact counted

omit [Literal.Reader ρ] in
theorem Fractional.truncates (fractional : Fractional profile integer right value)
    (integral : Integral profile kind opening left integer) (made : profile.Made) :
    TruncatesFraction integer.base (digitsOf integer.base right) value.fraction value.scale
      value.fractionOverflow := by
  have fresh : integer.CountsFraction [] := by
    have same := Numeral.sameFraction_pushDigits (Numeral.ofKind kind)
      (digitsOf integer.base left)
    rw [← integral.value] at same
    rw [Numeral.CountsFraction, same.fraction, same.scale, same.overflow]
    exact truncatesFraction_nil _
  have large : 1 < integer.base := by
    rw [integral.base_eq]
    exact (integral.opens.facts made).2.2.2
  have counted := Numeral.countsFraction_pushFractionDigits fresh large
    fun digit (member : digit ∈ digitsOf integer.base right) => lt_of_mem_digitsOf member
  rw [← fractional.value, Numeral.CountsFraction, fractional.base_eq] at counted
  exact counted

end Values

/-- The number that a token carries is that of its text, which is a prefix or nothing and a body
behind it. -/
structure Denotes (profile : Profile ρ) (source : String) (token : Token)
    (opening gap body : List Char) : Prop where
  text : token.text source = String.ofList (opening ++ body)
  opens : Opens profile token.kind.withoutFloat opening
  valued : ∃ base, token.kind.withoutFloat.numberBase? = some base ∧
    Valued profile base gap body token.span.stop token.payload

omit [Literal.Reader ρ] in
/-- Only a number that begins with its point can have a gap behind it. -/
theorem Writes.denotes {gapped : List Char → Prop} {start : Nat} {text : List Char}
    {token : Token} (writes : Writes gapped profile start text token) (made : profile.Made)
    (same : token.text source = String.ofList text) :
    ∃ opening gap body, Denotes profile source token opening gap body ∧
      (gap = [] ∨ opening = [] ∧ (∃ rest, body = '.' :: (gap ++ rest)) ∧ gapped gap) := by
  obtain ⟨value, kindEq, payload, ⟨⟨kind, opening, body, rfl, integral⟩, whole⟩ |
    ⟨⟨kind, opening, left, gap, right, integer, rfl, halved, fractional⟩, float⟩⟩ := writes.value
  · obtain ⟨number, plain, based, _⟩ := integral.opens.facts made
    rw [← integral.kind_eq] at number plain
    have sameKind : token.kind.withoutFloat = kind := by
      rw [kindEq, Numeral.withoutFloat_finalKind number plain, integral.kind_eq]
    refine ⟨opening, [], body, ⟨same, by rw [sameKind]; exact integral.opens, value.base, ?_, ?_⟩,
      Or.inl rfl⟩
    · rw [sameKind, based, integral.base_eq]
    · rw [payload, Numeral.payload, whole]
      exact .integer rfl integral.numeric (integral.truncates made)
  · have integral := halved.integral
    obtain ⟨number, plain, based, _⟩ := integral.opens.facts made
    have onward := Numeral.sameInteger_pushFractionDigits integer (digitsOf integer.base right)
    rw [← fractional.value] at onward
    have valueKind : value.kind = kind := onward.kind.trans integral.kind_eq
    rw [← valueKind] at number plain
    have sameKind : token.kind.withoutFloat = kind := by
      rw [kindEq, Numeral.withoutFloat_finalKind number plain, valueKind]
    obtain ⟨first, rest, rfl, isDigit⟩ := fractional.first
    refine ⟨opening, gap, left ++ '.' :: (gap ++ first :: rest), ⟨by simpa using same,
      by rw [sameKind]; exact integral.opens, integer.base, ?_, ?_⟩, ?_⟩
    · rw [sameKind, based, integral.base_eq]
    · rw [payload, Numeral.payload, float]
      have before := integral.truncates made
      rw [← onward.integer, ← onward.overflow] at before
      exact .float rfl halved.undotted isDigit (List.forall_mem_append.mpr ⟨integral.numeric,
        fun symbol member => fractional.numeric symbol (List.mem_cons_of_mem _ member)⟩) before
        (fractional.truncates integral made)
    · rcases halved.spaced with bare | ⟨rfl, rfl, spaces⟩
      · exact Or.inl bare
      · exact Or.inr ⟨rfl, ⟨_, rfl⟩, spaces⟩

section Sources

variable (made : profile.Made) (fits : byteLength source.toList ≤ maxOffset)
  (undotted : profile.literals.advance Trie.root '.' = none)
  (setting : Setting (.tight pointed) profile (Located.ofText 0 source.toList))
  {gapped : List Token → Nat → List Char → Prop} (spaced : Spaced gapped profile source)

include made fits undotted setting spaced

theorem denotes_of_events {before after : List Event} {token : Token}
    (cut : events profile source = before ++ .token token :: after)
    (number : token.kind.isNumber = true) :
    ∃ opening gap body, Denotes profile source token opening gap body ∧
      (gap = [] ∨ opening = [] ∧ (∃ rest, body = '.' :: (gap ++ rest)) ∧
        gapped (before.filterMap Event.token?) token.span.start gap) := by
  have inner : token.kind ≠ .fin := by
    intro fin
    rw [fin] at number
    exact absurd number (by decide)
  obtain ⟨past, rfl, arises⟩ := arises_of_token fits undotted setting cut inner
  -- The payload of a number tells where a suffix would start.
  have valued : token.payload.suffixStart? ≠ none := by
    have member : token ∈ (heard profile {} source).filterMap Event.token? :=
      List.mem_filterMap.mpr ⟨_, cut ▸ List.mem_append_right _ (List.mem_cons_self ..), rfl⟩
    have payloads := (heard_issued made {} source token member).fits made.sound made.regular
    cases float : token.kind.isFloat with
    | false =>
        obtain ⟨value, same⟩ := payloads.integer.mpr ⟨number, float⟩
        simp [same, Payload.suffixStart?]
    | true =>
        obtain ⟨value, same⟩ := payloads.float.mpr float
        simp [same, Payload.suffixStart?]
  obtain ⟨text, read, writes⟩ :=
    writes_of_arises fits setting made.defaultBase spaced arises valued
  rw [List.filterMap_map]
  exact writes.denotes made read

end Sources

/-- Where no line can be continued, every symbol between tokens is followed by the next one. -/
theorem spaced_of_unescaped (fits : byteLength source.toList ≤ maxOffset)
    (setting : Setting (.tight fun _ => False) profile (Located.ofText 0 source.toList)) :
    Spaced (fun _ _ _ => False) profile source := by
  intro past state fed rest reaches idle
  obtain ⟨_, _, standing⟩ := (reaches.moment fits setting).standing
  obtain ⟨trail, chain, ahead⟩ := standing.ahead_idle fits idle
  obtain rfl : trail = [] := chain.resolve_right id
  exact ⟨[], Or.inl rfl, ahead⟩

/-- Numbers carry the exact values of their texts, up to the bound. -/
theorem numbers_exact (made : profile.Made) (unstarted : ¬profile.StartsLiteral '.')
    (source : String)
    (unescaped : profile.options.honorLineContinuation = false ∨
      ∀ symbol ∈ source.toList, (profile.classes.classify symbol).escape = false) :
    Delivers profile source ∧
      profile.defaultNumber.numberBase? = some profile.options.defaultBase ∧
      ∀ token ∈ tokens profile source, token.kind.isNumber = true →
        ∃ opening body, Denotes profile source token opening [] body := by
  have undotted := (made.sound.not_startsLiteral_iff '.').mp unstarted
  have setting := setting_of_unescaped made.sound unescaped
  by_cases fits : byteLength source.toList ≤ maxOffset
  · have bounded := bounded_of_setting setting (Located.adjoin_source fits) undotted
    obtain ⟨_, _, _, delivers⟩ := transcribed fits bounded
    refine ⟨delivers, made.defaultNumber, fun token member number => ?_⟩
    obtain ⟨before, after, cut⟩ := List.append_of_mem (mem_tokens.mp member)
    obtain ⟨opening, gap, body, denotes, rfl | ⟨_, _, never⟩⟩ :=
      denotes_of_events made fits undotted setting (spaced_of_unescaped fits setting) cut number
    · exact ⟨opening, body, denotes⟩
    · exact never.elim
  · obtain ⟨nothing, delivers⟩ := events_of_large profile fits
    refine ⟨delivers, made.defaultNumber, ?_⟩
    simp [tokens, nothing]

/-- The last digit of two to the power of sixty-four is dropped. -/
theorem numbers_exact_dropped :
    CLike.profile.Made ∧ ¬CLike.profile.StartsLiteral '.' ∧
      (∀ symbol ∈ "18446744073709551616".toList,
        (CLike.profile.classes.classify symbol).escape = false) ∧
      ∃ token ∈ tokens CLike.profile "18446744073709551616",
        token.payload =
          .integer { value := 1844674407370955161, overflow := true, suffixStart := 20 } ∧
        token.kind.isNumber = true ∧
        ∃ opening body,
          Denotes CLike.profile "18446744073709551616" token opening [] body := by
  have unstarted : ¬CLike.profile.StartsLiteral '.' :=
    (CLike.profile_made.sound.not_startsLiteral_iff '.').mpr CLike.dotted.literals
  have unescaped : ∀ symbol ∈ "18446744073709551616".toList,
      (CLike.profile.classes.classify symbol).escape = false :=
    CLike.unescaped (by decide)
  have received : ∃ token ∈ tokens CLike.profile "18446744073709551616",
      token.payload =
          .integer { value := 1844674407370955161, overflow := true, suffixStart := 20 } ∧
        token.kind.isNumber = true := by
    decide +kernel
  obtain ⟨token, member, payload, number⟩ := received
  exact ⟨CLike.profile_made, unstarted, unescaped, token, member, payload, number,
    (numbers_exact CLike.profile_made unstarted _ (Or.inr unescaped)).2.2 token member number⟩

end Scan

end Lexing
