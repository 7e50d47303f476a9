import Lexing.Proofs.Passing

/-!
# Filters that replace runs

Two stock filters replace runs of tokens by one token each: a number with the identifier
right behind it, and tokens whose kinds spell a pattern.  Both hold the beginning of a run
back, and both let go of what they hold when the run breaks off.  So a stream that has
passed such a filter is cut into pieces, in order and without gaps, each of which is a token
that stays or a run with the token that takes its place.

What a filter is asked to replace is a rule, a relation between runs and tokens.  The rules
of the two filters have runs that begin with tokens of a sort which no run has further on,
so that runs cannot overlap, and a filter that keeps a token only where no run begins
replaces every run.
-/

namespace Lexing

/-! ## Pieces of a stream -/

inductive Piece where
  | kept (token : Token)
  | replaced (run : List Token) (token : Token)

namespace Piece

def source : Piece → List Token
  | kept token => [token]
  | replaced run _ => run

def result : Piece → Token
  | kept token => token
  | replaced _ token => token

@[simp]
theorem source_kept (token : Token) : (kept token).source = [token] :=
  rfl

@[simp]
theorem source_replaced (run : List Token) (token : Token) : (replaced run token).source = run :=
  rfl

@[simp]
theorem result_kept (token : Token) : (kept token).result = token :=
  rfl

@[simp]
theorem result_replaced (run : List Token) (token : Token) : (replaced run token).result = token :=
  rfl

@[simp]
theorem map_result_kept (tokens : List Token) : (tokens.map kept).map result = tokens := by
  induction tokens with
  | nil => rfl
  | cons token rest ih => simp [ih]

end Piece

/-- `output` is `tokens` with some disjoint runs replaced as the rule says, and all other
tokens unchanged and in order. -/
structure Rewrites (rule : List Token → Token → Prop) (tokens output : List Token)
    (pieces : List Piece) : Prop where
  source : pieces.flatMap Piece.source = tokens
  result : pieces.map Piece.result = output
  lawful : ∀ run token, .replaced run token ∈ pieces → rule run token

/-- Every run of the stream that the rule can replace is replaced, where it stands. -/
def ReplacesEvery (rule : List Token → Token → Prop) (tokens : List Token)
    (pieces : List Piece) : Prop :=
  ∀ before run after wanted, tokens = before ++ run ++ after → rule run wanted →
    ∃ front token rear, pieces = front ++ .replaced run token :: rear ∧
      front.flatMap Piece.source = before

/-- No run begins with the first of some tokens. -/
def Unbegun (rule : List Token → Token → Prop) (tokens : List Token) : Prop :=
  ∀ run after token, tokens = run ++ after → ¬rule run token

/-- A way to cut a stream into pieces.  If it is to be thorough, a token stays only where no
run begins. -/
inductive Cuts (rule : List Token → Token → Prop) (thorough : Prop) :
    List Token → List Piece → Prop
  | nil : Cuts rule thorough [] []
  | keep {token : Token} {rest : List Token} {pieces : List Piece} :
      (thorough → Unbegun rule (token :: rest)) → Cuts rule thorough rest pieces →
      Cuts rule thorough (token :: rest) (.kept token :: pieces)
  | replace {run rest : List Token} {token : Token} {pieces : List Piece} :
      rule run token → Cuts rule thorough rest pieces →
      Cuts rule thorough (run ++ rest) (.replaced run token :: pieces)

/-- All runs of a rule have one length, begin with a token of some sort, and have no other
token of this sort. -/
structure Led (rule : List Token → Token → Prop) (leads : Token → Prop) (length : Nat) :
    Prop where
  length_eq : ∀ {run token}, rule run token → run.length = length
  begins : ∀ {run token}, rule run token →
    ∃ first others, run = first :: others ∧ leads first ∧ ∀ other ∈ others, ¬leads other

namespace Cuts

variable {rule : List Token → Token → Prop} {thorough : Prop} {tokens rest : List Token}
  {pieces : List Piece} {leads : Token → Prop} {length : Nat}

theorem rewrites (cuts : Cuts rule thorough tokens pieces) :
    Rewrites rule tokens (pieces.map Piece.result) pieces := by
  induction cuts with
  | nil => exact ⟨rfl, rfl, by simp⟩
  | keep _ _ ih =>
      refine ⟨by simp [ih.source], rfl, fun run token member => ih.lawful run token ?_⟩
      simpa using member
  | replace lawful _ ih =>
      refine ⟨by simp [ih.source], rfl, fun run token member => ?_⟩
      rcases List.mem_cons.mp member with same | later
      · cases same
        exact lawful
      · exact ih.lawful run token later

/-- Tokens in front of a cut stream stay, if no run begins with any of them. -/
theorem keepAll {front : List Token}
    (unbegun : thorough → ∀ before inner, front = before ++ inner → inner ≠ [] →
      Unbegun rule (inner ++ rest))
    (cuts : Cuts rule thorough rest pieces) :
    Cuts rule thorough (front ++ rest) (front.map .kept ++ pieces) := by
  induction front with
  | nil => exact cuts
  | cons token others ih =>
      apply Cuts.keep
      · intro sure
        exact unbegun sure [] (token :: others) rfl (by simp)
      · apply ih
        intro sure before inner cut nonempty
        exact unbegun sure (token :: before) inner (by rw [cut]; rfl) nonempty

/-- A thorough cut replaces every run: where one begins, no token stays, and none begins
inside of a run that is replaced. -/
theorem replacesEvery (cuts : Cuts rule thorough tokens pieces) (led : Led rule leads length)
    (sure : thorough) : ReplacesEvery rule tokens pieces := by
  induction cuts with
  | nil =>
      intro before run after wanted whole lawful
      obtain ⟨first, others, rfl, _⟩ := led.begins lawful
      simp at whole
  | @keep token rest pieces unbegun _ ih =>
      intro before run after wanted whole lawful
      cases before with
      | nil => exact absurd lawful (unbegun sure run after wanted (by simpa using whole))
      | cons first before =>
          obtain ⟨rfl, onward⟩ : token = first ∧ rest = before ++ run ++ after := by
            simpa using whole
          obtain ⟨front, made, rear, rfl, begins⟩ := ih before run after wanted onward lawful
          exact ⟨.kept token :: front, made, rear, rfl, by simp [begins]⟩
  | @replace earlier rest token pieces replaced _ ih =>
      intro before run after wanted whole lawful
      have later (behind : List Token) (ends : before = earlier ++ behind)
          (onward : rest = behind ++ run ++ after) :
          ∃ front made rear, .replaced earlier token :: pieces =
            front ++ .replaced run made :: rear ∧ front.flatMap Piece.source = before := by
        obtain ⟨front, made, rear, rfl, begins⟩ := ih behind run after wanted onward lawful
        exact ⟨.replaced earlier token :: front, made, rear, rfl, by simp [begins, ends]⟩
      rw [List.append_assoc] at whole
      rcases List.append_eq_append_iff.mp whole with
        ⟨behind, ends, onward⟩ | ⟨inner, inside, onward⟩
      · exact later behind ends (by simpa using onward)
      obtain ⟨lead, others, rfl, leading, others_not⟩ := led.begins replaced
      obtain ⟨first, further, rfl, firstLeads, _⟩ := led.begins lawful
      cases before with
      | nil =>
          have lengths : (lead :: others).length = (first :: further).length :=
            (led.length_eq replaced).trans (led.length_eq lawful).symm
          obtain ⟨same, _⟩ := List.append_inj (by simpa using whole) lengths
          rw [same]
          exact ⟨[], token, pieces, rfl, rfl⟩
      | cons head before =>
          cases inner with
          | nil => exact later [] (by simpa using inside.symm) (by simpa using onward.symm)
          | cons next inner =>
              obtain ⟨rfl, _⟩ : first = next ∧ _ := List.cons_eq_cons.mp onward
              obtain ⟨_, rfl⟩ := List.cons_eq_cons.mp inside
              exact absurd firstLeads (others_not first (by simp))

end Cuts

/-! ## Filters in front of a sink -/

/-- A filter that sends on nothing but tokens, in front of a sink that never stops a scan:
the sink receives what the filter makes of the stream. -/
theorem Filter.SendsTokens.sendAll {φ σ : Type} [Filter φ] [Sink σ]
    (sends : Filter.SendsTokens φ) (filter : φ) {sink : σ} (steady : Sink.Steady sink)
    (tokens : List Token) :
    let reply := Sink.sendAll (⟨filter, sink⟩ : Filtered φ σ) (tokens.map .token)
    reply.flow = .proceed ∧
      reply.sink = ⟨(Filter.pass filter tokens).2,
        (Sink.sendAll sink ((Filter.pass filter tokens).1.map .token)).sink⟩ := by
  have relayed := Filter.relay_tokens filter (tokens.map .token)
  rw [filterMap_token] at relayed
  obtain ⟨passed, sent⟩ := sends.relay filter tokens
  rw [sent, filterMap_token] at relayed
  obtain ⟨flow, last⟩ := sendAll_filtered filter steady (tokens.map .token)
  rw [sent] at last
  rw [← relayed]
  exact ⟨flow, last⟩

theorem recorded_tokens (tokens : List Token) :
    (Sink.sendAll ({} : Recorder) (tokens.map .token)).sink.tokens = tokens := by
  rw [Recorder.tokens, (Scan.sendAll_recorder {} rfl rfl _).2]
  exact filterMap_token tokens

/-! ## Numbers and their suffixes -/

/-- The second payload is the first one, but for the suffix of a number, which starts at
`offset`. -/
inductive Payload.SuffixMoved (offset : Nat) : Payload → Payload → Prop
  | integer (value : Nat) (overflow : Bool) (earlier : Nat) :
      SuffixMoved offset (.integer ⟨value, overflow, earlier⟩) (.integer ⟨value, overflow, offset⟩)
  | float (bits : UInt64) (integerOverflow fractionOverflow : Bool) (earlier : Nat) :
      SuffixMoved offset (.float ⟨bits, integerOverflow, fractionOverflow, earlier⟩)
        (.float ⟨bits, integerOverflow, fractionOverflow, offset⟩)
  | none {payload : Payload} : payload.suffixStart? = none → SuffixMoved offset payload payload

theorem Payload.suffixMoved (payload : Payload) (offset : Nat) :
    payload.SuffixMoved offset (payload.withSuffixStart offset) := by
  cases payload with
  | integer value => exact .integer ..
  | float value => exact .float ..
  | empty | comment | literal => exact .none rfl

namespace SuffixGlue

variable {number token : Token} {rest tokens : List Token}

/-- A number and the identifier that starts where it ends become one number. -/
inductive Glues : List Token → Token → Prop
  | pair {number suffix glued : Token} : number.kind.isNumber = true →
      suffix.kind = .identifier → suffix.span.start = number.span.stop →
      glued.kind = number.kind → glued.atLineStart = number.atLineStart →
      glued.span = number.span.merge suffix.span →
      Payload.SuffixMoved suffix.span.start number.payload glued.payload →
      Glues [number, suffix] glued

theorem led_glues : Led Glues (fun token => token.kind.isNumber = true) 2 where
  length_eq := by
    intro _ _ glues
    cases glues
    rfl
  begins := by
    intro _ _ glues
    cases glues with
    | @pair number suffix _ isNumber identifier =>
        refine ⟨number, [suffix], rfl, isNumber, ?_⟩
        intro other member
        obtain rfl := List.mem_singleton.mp member
        rw [identifier]
        decide

theorem isSuffix_iff :
    isSuffix number token = true ↔
      token.kind = .identifier ∧ token.span.start = number.span.stop := by
  simp [isSuffix]

theorem glues_of_isSuffix (isNumber : number.kind.isNumber = true)
    (suffix : isSuffix number token = true) : Glues [number, token] (glue number token) := by
  obtain ⟨identifier, adjacent⟩ := isSuffix_iff.mp suffix
  exact .pair isNumber identifier adjacent rfl rfl rfl (number.payload.suffixMoved _)

/-! ### One token -/

theorem pass_hold (isNumber : token.kind.isNumber = true) :
    Filter.pass ({} : SuffixGlue) (token :: rest) = Filter.pass ⟨some token⟩ rest := by
  simp [Filter.pass, Filter.react, react, holdOrSend, isNumber, Relay.sent]

theorem pass_send (other : token.kind.isNumber = false) :
    Filter.pass ({} : SuffixGlue) (token :: rest) =
      (token :: (Filter.pass ({} : SuffixGlue) rest).1,
        (Filter.pass ({} : SuffixGlue) rest).2) := by
  simp [Filter.pass, Filter.react, react, holdOrSend, other, Relay.sent, Event.token?]

theorem pass_glue (suffix : isSuffix number token = true) :
    Filter.pass (⟨some number⟩ : SuffixGlue) (token :: rest) =
      (glue number token :: (Filter.pass ({} : SuffixGlue) rest).1,
        (Filter.pass ({} : SuffixGlue) rest).2) := by
  simp [Filter.pass, Filter.react, react, suffix, Relay.sent, Event.token?]

/-- A number that the next token does not belong to is sent on, and the token is treated
as if none had been held. -/
theorem pass_release (apart : isSuffix number token = false) :
    Filter.pass (⟨some number⟩ : SuffixGlue) (token :: rest) =
      (number :: (Filter.pass ({} : SuffixGlue) (token :: rest)).1,
        (Filter.pass ({} : SuffixGlue) (token :: rest)).2) := by
  cases isNumber : token.kind.isNumber <;>
    simp [Filter.pass, Filter.react, react, holdOrSend, apart, isNumber, Relay.sent, Event.token?]

/-! ### Whole streams -/

theorem unbegun_of_other (other : token.kind.isNumber = false) : Unbegun Glues (token :: rest) := by
  rintro run after glued whole ⟨isNumber⟩
  obtain ⟨rfl, _⟩ := List.cons_eq_cons.mp whole
  rw [other] at isNumber
  contradiction

theorem unbegun_of_apart (apart : isSuffix number token = false) :
    Unbegun Glues (number :: token :: rest) := by
  rintro run after glued whole ⟨_, identifier, adjacent⟩
  obtain ⟨rfl, onward⟩ := List.cons_eq_cons.mp whole
  obtain ⟨rfl, _⟩ := List.cons_eq_cons.mp onward
  rw [isSuffix_iff.mpr ⟨identifier, adjacent⟩] at apart
  contradiction

/-- A filter that holds a number or nothing cuts the stream that begins with what it
holds. -/
theorem exists_cuts (held : Option Token) (numbers : ∀ number ∈ held, number.kind.isNumber = true)
    (tokens : List Token)
    (closed : ∀ front last, held.toList ++ tokens = front ++ [last] → last.kind.isNumber = false) :
    ∃ pieces, Cuts Glues True (held.toList ++ tokens) pieces ∧
      Filter.pass (⟨held⟩ : SuffixGlue) tokens = (pieces.map Piece.result, {}) := by
  induction tokens generalizing held with
  | nil =>
      cases held with
      | none => exact ⟨[], .nil, rfl⟩
      | some number =>
          have other := closed [] number rfl
          rw [numbers number rfl] at other
          contradiction
  | cons token rest ih =>
      have closedRest (front : List Token) (last : Token) (ends : token :: rest = front ++ [last]) :
          last.kind.isNumber = false :=
        closed (held.toList ++ front) last (by rw [ends, List.append_assoc])
      -- Whatever is held, the rest of the stream is cut as if nothing were.
      have fresh : ∃ pieces, Cuts Glues True (token :: rest) pieces ∧
          Filter.pass ({} : SuffixGlue) (token :: rest) = (pieces.map Piece.result, {}) := by
        cases isNumber : token.kind.isNumber with
        | true =>
            rw [pass_hold isNumber]
            exact ih (some token) (by simpa using isNumber) closedRest
        | false =>
            obtain ⟨pieces, cuts, passed⟩ := ih none (by simp) fun front last ends =>
              closedRest (token :: front) last (by simpa using ends)
            refine ⟨.kept token :: pieces, .keep (fun _ => unbegun_of_other isNumber) cuts, ?_⟩
            rw [pass_send isNumber, passed]
            rfl
      cases held with
      | none => exact fresh
      | some number =>
          cases suffix : isSuffix number token with
          | true =>
              obtain ⟨pieces, cuts, passed⟩ := ih none (by simp) fun front last ends =>
                closedRest (token :: front) last (by simpa using ends)
              refine ⟨.replaced [number, token] (glue number token) :: pieces,
                .replace (glues_of_isSuffix (numbers number rfl) suffix) cuts, ?_⟩
              rw [pass_glue suffix, passed]
              rfl
          | false =>
              obtain ⟨pieces, cuts, passed⟩ := fresh
              refine ⟨.kept number :: pieces, .keep (fun _ => unbegun_of_apart suffix) cuts, ?_⟩
              rw [pass_release suffix, passed]
              rfl

theorem sendsTokens : Filter.SendsTokens SuffixGlue :=
  fun glue token => StockFilter.sendsTokens (.suffixGlue glue) token

/-- Exactly the numbers with an identifier right behind them are glued.  A stream whose last
token is no number comes out of the filter with every such pair replaced by one number,
which stands for both and knows where the identifier began, and with all other tokens as
they were, and the filter holds nothing afterwards. -/
theorem suffixes_glued (tokens : List Token)
    (closed : ∀ front last, tokens = front ++ [last] → last.kind.isNumber = false) :
    ∃ pieces output, Rewrites Glues tokens output pieces ∧ ReplacesEvery Glues tokens pieces ∧
      ∀ {σ : Type} [Sink σ] (sink : σ), Sink.Steady sink →
        let reply := Sink.sendAll (⟨{}, sink⟩ : Filtered SuffixGlue σ) (tokens.map .token)
        reply.flow = .proceed ∧
          reply.sink = ⟨{}, (Sink.sendAll sink (output.map .token)).sink⟩ := by
  obtain ⟨pieces, cuts, passed⟩ := exists_cuts none (by simp) tokens closed
  refine ⟨pieces, pieces.map Piece.result, cuts.rewrites, cuts.replacesEvery led_glues trivial, ?_⟩
  intro σ _ sink steady
  have sent := sendsTokens.sendAll ({} : SuffixGlue) steady tokens
  rw [show Filter.pass ({} : SuffixGlue) tokens = _ from passed] at sent
  exact sent

/-- Two numbers in a row, an identifier right behind the second one, and one behind a gap. -/
def crowded : List Token :=
  [{ kind := .numberDecimal, span := ⟨0, 1⟩, payload := .integer ⟨1, false, 1⟩ },
    { kind := .numberHex, span := ⟨1, 4⟩, payload := .integer ⟨2, true, 0⟩ },
    { kind := .identifier, span := ⟨4, 6⟩ },
    { kind := .numberDecimal, span := ⟨6, 7⟩ },
    { kind := .identifier, span := ⟨8, 9⟩ }]

/-- Only the second number has a suffix, and it keeps what else it tells. -/
theorem suffixes_glued_crowded :
    (∀ front last, crowded = front ++ [last] → last.kind.isNumber = false) ∧
      ∃ pieces, Rewrites Glues crowded
          [{ kind := .numberDecimal, span := ⟨0, 1⟩, payload := .integer ⟨1, false, 1⟩ },
            { kind := .numberHex, span := ⟨1, 6⟩, payload := .integer ⟨2, true, 4⟩ },
            { kind := .numberDecimal, span := ⟨6, 7⟩ },
            { kind := .identifier, span := ⟨8, 9⟩ }] pieces ∧
        ReplacesEvery Glues crowded pieces := by
  have closed (front : List Token) (last : Token) (ends : crowded = front ++ [last]) :
      last.kind.isNumber = false := by
    have final := congrArg List.getLast? ends
    rw [List.getLast?_concat] at final
    obtain rfl := Option.some.inj final
    decide
  obtain ⟨pieces, output, rewrites, every, received⟩ := suffixes_glued crowded closed
  have recorded := congrArg (fun stage => Recorder.tokens stage.next)
    (received ({} : Recorder) Scan.steady_recorder).2
  rw [recorded_tokens] at recorded
  rw [← recorded] at rewrites
  exact ⟨closed, pieces, rewrites, every⟩

end SuffixGlue

end Lexing
