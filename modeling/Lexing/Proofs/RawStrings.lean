import Lexing.Proofs.Delegation

/-!
# Raw strings

A raw string ends at the first place where a closing parenthesis, the delimiter and a quote
follow each other.  The delimiter contains neither of the two, so no place where they do can
begin before the body ends and reach beyond it: the symbols that close a body for the first
time are those that do not occur in it.
-/

namespace Lexing

namespace Literal.Raw

variable {text body front delimiter : List Char} {symbol : Char}

def closer (delimiter : List Char) : List Char :=
  ')' :: (delimiter ++ ['"'])

/-- The symbols may stand between the quote and the opening parenthesis. -/
structure Delimits (delimiter : List Char) : Prop where
  plain : ∀ symbol ∈ delimiter, Text.isBlank symbol = false ∧ Text.isControl symbol = false ∧
    symbol ∉ ['(', ')', '\\', '"']
  short : ∀ front symbol rest, delimiter = front ++ symbol :: rest → byteLength front < 16

/-- The text is a raw string with the given body, introduction and closing quote included. -/
def Spells (text body : List Char) : Prop :=
  ∃ delimiter, Delimits delimiter ∧
    text = 'R' :: '"' :: delimiter ++ '(' :: body ++ closer delimiter ∧
    ¬closer delimiter <:+: body

/-! ## Delimiters -/

theorem delimits_nil : Delimits [] where
  plain _ member := nomatch member
  short front symbol rest cut := by simp at cut

theorem Delimits.of_append (delimits : Delimits (front ++ text)) : Delimits front where
  plain symbol member := delimits.plain symbol (List.mem_append_left text member)
  short before symbol rest cut :=
    delimits.short before symbol (rest ++ text) (by rw [cut]; simp)

/-- One more symbol of a delimiter. -/
theorem Delimits.concat_iff (delimits : Delimits front) :
    Delimits (front ++ [symbol]) ↔
      symbol ≠ '(' ∧ fitsDelimiter symbol = true ∧ byteLength front < delimiterLimit := by
  constructor
  · intro longer
    have plain := longer.plain symbol (by simp)
    have short := longer.short front symbol [] rfl
    simp only [List.mem_cons, not_or, List.not_mem_nil] at plain
    refine ⟨plain.2.2.1, ?_, short⟩
    simp [fitsDelimiter, plain]
  · rintro ⟨unopened, fits, short⟩
    constructor
    · intro other member
      rcases List.mem_append.mp member with earlier | newest
      · exact delimits.plain other earlier
      · obtain rfl := List.mem_singleton.mp newest
        simp only [fitsDelimiter, Bool.not_eq_true', Bool.or_eq_false_iff,
          decide_eq_false_iff_not] at fits
        simp [fits, unopened]
    · intro before other rest cut
      rcases List.eq_nil_or_concat rest with rfl | ⟨others, last, rfl⟩
      · obtain ⟨rfl, _⟩ := List.append_inj' cut rfl
        exact short
      · rw [List.concat_eq_append, ← List.cons_append, ← List.append_assoc] at cut
        exact delimits.short before other others (List.append_inj' cut rfl).1

theorem Delimits.unquoted (delimits : Delimits delimiter) : '"' ∉ delimiter := by
  intro member
  simpa using (delimits.plain _ member).2.2

/-! ## Reading -/

/-- The reader stops at the last symbol of the text and not earlier, and has decoded the body
by then. -/
def Completes : Raw → List Char → List Char → Prop
  | _, [], _ => False
  | reader, symbol :: rest, body =>
      match reader.read symbol with
      | (.stop, after) => rest = [] ∧ body = after.decoded.reverse
      | (.proceed, after) => Completes after rest body
      | _ => False

def gathering (front : List Char) : Raw where
  delimiter := front.reverse

def within (delimiter front : List Char) : Raw where
  inBody := true
  delimiter := delimiter.reverse
  decoded := front.reverse

theorem read_gathering (front : List Char) (symbol : Char) :
    (gathering front).read symbol =
      if symbol = '(' then (.proceed, within front [])
      else if fitsDelimiter symbol ∧ byteLength front < delimiterLimit then
        (.proceed, gathering (front ++ [symbol]))
      else (.fail "invalid raw string delimiter", gathering front) := by
  simp [gathering, within, read, byteLength_reverse]

/-- What closes the body is cut off by its bytes as it is by its symbols. -/
theorem takeBytes_closed {reader : Raw} (inside : reader.inBody = true)
    (stops : (reader.read symbol).1 = .stop) :
    takeBytes (byteLength (symbol :: reader.decoded) - byteLength reader.closing)
        (symbol :: reader.decoded).reverse =
      some (reader.read symbol).2.decoded.reverse := by
  simp only [read, inside, if_true] at stops ⊢
  split at stops
  case isTrue closes =>
    rw [if_pos closes]
    exact takeBytes_reverse (List.isPrefixOf_iff_prefix.mp closes)
  case isFalse => contradiction

/-- A reader in front of the opening parenthesis gathers the rest of the delimiter. -/
theorem completes_gathering {more tail : List Char} (delimits : Delimits (front ++ more))
    (completes : Completes (within (front ++ more) []) tail body) :
    Completes (gathering front) (more ++ '(' :: tail) body := by
  induction more generalizing front with
  | nil =>
      rw [List.nil_append, Completes, read_gathering, if_pos rfl]
      simpa using completes
  | cons symbol more ih =>
      rw [← List.singleton_append, ← List.append_assoc] at delimits completes
      obtain ⟨unopened, fits⟩ := delimits.of_append.of_append.concat_iff.mp delimits.of_append
      rw [List.cons_append, Completes, read_gathering, if_neg unopened, if_pos fits]
      exact ih delimits completes

theorem exists_delimiter (delimits : Delimits front)
    (completes : Completes (gathering front) text body) :
    ∃ more tail, text = more ++ '(' :: tail ∧ Delimits (front ++ more) ∧
      Completes (within (front ++ more) []) tail body := by
  induction text generalizing front with
  | nil => exact completes.elim
  | cons symbol rest ih =>
      rw [Completes, read_gathering] at completes
      by_cases opens : symbol = '('
      · subst opens
        rw [if_pos rfl] at completes
        exact ⟨[], rest, rfl, by simpa using delimits, by simpa using completes⟩
      rw [if_neg opens] at completes
      by_cases fits : fitsDelimiter symbol = true ∧ byteLength front < delimiterLimit
      · rw [if_pos fits] at completes
        obtain ⟨more, tail, rfl, whole, onward⟩ :=
          ih (delimits.concat_iff.mpr ⟨opens, fits⟩) completes
        exact ⟨symbol :: more, tail, rfl, by simpa using whole, by simpa using onward⟩
      · rw [if_neg fits] at completes
        exact completes.elim

theorem closing_within (delimiter front : List Char) :
    (within delimiter front).closing = (closer delimiter).reverse := by
  simp [closing, within, closer]

/-- The symbols that close the body are complete. -/
theorem read_closed (complete : front ++ [symbol] = body ++ closer delimiter) :
    (within delimiter front).read symbol = (.stop, within delimiter body) := by
  have decoded : symbol :: (within delimiter front).decoded =
      (closer delimiter).reverse ++ body.reverse := by
    rw [← List.reverse_append, ← complete, List.reverse_append]
    rfl
  simp only [read, closing_within, decoded]
  simp [within]

theorem read_open (incomplete : ¬closer delimiter <:+ front ++ [symbol]) :
    (within delimiter front).read symbol = (.proceed, within delimiter (front ++ [symbol])) := by
  have decoded : symbol :: (within delimiter front).decoded = (front ++ [symbol]).reverse := by
    rw [List.reverse_append]
    rfl
  have unclosed : (closer delimiter).reverse.isPrefixOf (front ++ [symbol]).reverse = false := by
    rw [Bool.eq_false_iff, ne_eq, List.isPrefixOf_iff_prefix, List.reverse_prefix]
    exact incomplete
  simp only [read, closing_within, decoded, unclosed]
  simp [within]

/-- Behind `front`, the closing symbols are not complete before the end of the text. -/
def OpenBefore (delimiter front text : List Char) : Prop :=
  ∀ begun, begun <+: text → begun ≠ [] → begun ≠ text → ¬closer delimiter <:+ front ++ begun

theorem openBefore_singleton : OpenBefore delimiter front [symbol] := by
  intro begun begins nonempty proper
  obtain rfl | ⟨others, rfl, nothing⟩ := List.prefix_cons_iff.mp begins
  · contradiction
  · rw [List.prefix_nil.mp nothing] at proper
    contradiction

theorem openBefore_cons (more : text ≠ []) :
    OpenBefore delimiter front (symbol :: text) ↔
      ¬closer delimiter <:+ front ++ [symbol] ∧ OpenBefore delimiter (front ++ [symbol]) text := by
  constructor
  · intro opened
    constructor
    · exact opened [symbol] ⟨text, rfl⟩ (List.cons_ne_nil _ _) (by simpa using more.symm)
    · intro begun begins _ proper
      rw [List.append_assoc]
      exact opened (symbol :: begun) (List.cons_prefix_cons.mpr ⟨rfl, begins⟩)
        (List.cons_ne_nil _ _) (by simpa using proper)
  · rintro ⟨first, opened⟩ begun begins nonempty proper
    obtain rfl | ⟨others, rfl, behind⟩ := List.prefix_cons_iff.mp begins
    · contradiction
    · by_cases alone : others = []
      · rwa [alone]
      · have later := opened others behind alone fun same => proper (by rw [same])
        rwa [List.append_assoc] at later

/-- A reader in the body stops where it has read the closing symbols for the first time. -/
theorem completes_within :
    Completes (within delimiter front) text body ↔
      text ≠ [] ∧ front ++ text = body ++ closer delimiter ∧ OpenBefore delimiter front text := by
  induction text generalizing front with
  | nil => simp [Completes]
  | cons symbol rest ih =>
      rw [Completes]
      by_cases closed : closer delimiter <:+ front ++ [symbol]
      · obtain ⟨decoded, complete⟩ := id closed
        rw [read_closed complete.symm]
        simp only [within, List.reverse_reverse]
        cases rest with
        | nil => simp [← complete, openBefore_singleton, eq_comm]
        | cons next others => simp [openBefore_cons, closed]
      · rw [read_open closed]
        dsimp only
        rw [ih, List.append_assoc, List.singleton_append]
        cases rest with
        | nil =>
            have unfinished : front ++ [symbol] ≠ body ++ closer delimiter := fun whole =>
              closed ⟨body, whole.symm⟩
            simp [unfinished]
        | cons next others => simp [openBefore_cons, closed]

/-- The closing symbols occur in a body exactly if they are complete before those behind the body
are: no quote stands among them but at their end. -/
theorem not_infix_iff (unquoted : '"' ∉ delimiter) :
    ¬closer delimiter <:+: body ↔ OpenBefore delimiter [] (body ++ closer delimiter) := by
  constructor
  · intro absent begun begins _ proper
    rintro ⟨before, rfl⟩
    rcases List.prefix_or_prefix_of_prefix begins (List.prefix_append body _) with
      inside | ⟨beyond, across⟩
    · exact absent ((List.suffix_append before _).isInfix.trans inside.isInfix)
    · have ends : closer delimiter = (')' :: delimiter) ++ ['"'] := rfl
      rw [← across, List.prefix_append_right_inj, ends] at begins
      have short : beyond <+: ')' :: delimiter := by
        rcases List.prefix_concat_iff.mp begins with whole | shorter
        · exact absurd (by rw [← across, whole, ends]) proper
        · exact shorter
      rcases List.eq_nil_or_concat beyond with rfl | ⟨others, last, rfl⟩
      · rw [List.append_nil] at across
        exact absent (across ▸ (List.suffix_append before _).isInfix)
      · rw [List.concat_eq_append, ← List.append_assoc, ends, ← List.append_assoc] at across
        obtain rfl := List.singleton_inj.mp (List.append_inj' across rfl).2
        have quoted : '"' ∈ ')' :: delimiter := short.subset (by simp)
        simp [unquoted] at quoted
  · intro early
    rintro ⟨before, after, rfl⟩
    apply early (before ++ closer delimiter)
    · simp
    · simp [closer]
    · simp [closer]
    · exact List.suffix_append before _

/-- What a reader completes is a raw string. -/
theorem completes_iff :
    Completes (Reader.reset {}) text body ↔ Spells ('R' :: '"' :: text) body := by
  have fresh : (Reader.reset {} : Raw) = gathering [] := rfl
  rw [fresh]
  constructor
  · intro reads
    obtain ⟨delimiter, tail, rfl, delimits, completes⟩ := exists_delimiter delimits_nil reads
    rw [List.nil_append] at delimits completes
    obtain ⟨_, whole, early⟩ := completes_within.mp completes
    rw [List.nil_append] at whole
    subst whole
    exact ⟨delimiter, delimits, by simp, (not_infix_iff delimits.unquoted).mpr early⟩
  · rintro ⟨delimiter, delimits, whole, absent⟩
    obtain rfl : text = delimiter ++ '(' :: (body ++ closer delimiter) := by simpa using whole
    apply completes_gathering
    · exact delimits
    · apply completes_within.mpr
      exact ⟨by simp [closer], rfl, (not_infix_iff delimits.unquoted).mp absent⟩

/-- A reader goes on, stops or fails, and has no remarks. -/
theorem read_signal (reader : Raw) (symbol : Char) :
    (reader.read symbol).1 = .proceed ∨ (reader.read symbol).1 = .stop ∨
      (reader.read symbol).1 = .fail "invalid raw string delimiter" := by
  unfold read
  dsimp only
  split
  · split
    · exact Or.inr (Or.inl rfl)
    · exact Or.inl rfl
  · split
    · exact Or.inl rfl
    · split
      · exact Or.inl rfl
      · exact Or.inr (Or.inr rfl)

/-- A beginning that completes a raw string leaves nothing else to complete. -/
theorem Completes.unique {reader : Raw} {rest other left decoded : List Char}
    (completes : Completes reader text body) (again : Completes reader other decoded)
    (same : text ++ rest = other ++ left) : text = other ∧ body = decoded := by
  induction text generalizing reader other with
  | nil => exact completes.elim
  | cons symbol text ih =>
      cases other with
      | nil => exact again.elim
      | cons first other =>
          obtain ⟨rfl, tails⟩ := List.cons_eq_cons.mp same
          unfold Completes at completes again
          generalize reader.read symbol = answer at completes again
          obtain ⟨signal, after⟩ := answer
          cases signal with
          | stop =>
              rw [completes.1, again.1, completes.2, again.2]
              exact ⟨rfl, rfl⟩
          | proceed =>
              obtain ⟨rfl, rfl⟩ := ih completes again tails
              exact ⟨rfl, rfl⟩
          | proceedWith | stopWith | fail => exact completes.elim

end Literal.Raw

namespace Scan

open Literal (Raw Stock)

/-- A raw string is read up to where a beginning of the text completes it, and fails if none
does. -/
theorem Introduced.judge_raw (profile : Profile Stock) (literal : Introduced) (reader : Raw)
    (offset : Nat) (text : List Char) :
    (∃ consumed left body, text = consumed ++ left ∧ reader.Completes consumed body ∧
      tokensOf (judge profile literal (.raw reader) offset text).reports = [{
        atLineStart := literal.atLineStart
        kind := literal.kind
        span := literal.span (offset + byteLength consumed)
        payload := .literal (String.ofList body) }]) ∨
    (∀ consumed left body, text = consumed ++ left → ¬reader.Completes consumed body) ∧
      ∃ stop, tokensOf (judge profile literal (.raw reader) offset text).reports = [{
        atLineStart := literal.atLineStart
        kind := .unexpected
        span := literal.span stop }] := by
  induction text generalizing reader offset with
  | nil =>
      right
      constructor
      · intro consumed left body cut
        rw [(List.append_eq_nil_iff.mp cut.symm).1]
        exact id
      · exact ⟨offset, rfl⟩
  | cons symbol rest ih =>
      have asked : Literal.Reader.read (Stock.raw reader) symbol =
          (reader.read symbol).map id .raw :=
        rfl
      unfold judge
      rw [asked]
      have signals := reader.read_signal symbol
      rcases answered : reader.read symbol with ⟨signal, after⟩
      rw [answered] at signals
      rcases signals with rfl | rfl | rfl
      · dsimp only [Prod.map, id]
        have onward (consumed body : List Char) :
            reader.Completes (symbol :: consumed) body ↔ after.Completes consumed body := by
          rw [Raw.Completes, answered]
        rcases ih after (offset + symbol.utf8Size) with
          ⟨consumed, left, body, rfl, completes, made⟩ | ⟨never, stop, failed⟩
        · left
          refine ⟨symbol :: consumed, left, body, rfl, (onward _ _).mpr completes, ?_⟩
          rw [made, byteLength, Nat.add_assoc]
        · right
          refine ⟨?_, stop, failed⟩
          intro consumed left body cut
          cases consumed with
          | nil => exact id
          | cons first consumed =>
              obtain ⟨rfl, tails⟩ := List.cons_eq_cons.mp cut
              rw [onward]
              exact never consumed left body tails
      · left
        refine ⟨[symbol], rest, after.decoded.reverse, rfl, ?_, ?_⟩
        · rw [Raw.Completes, answered]
          exact ⟨rfl, rfl⟩
        · rfl
      · right
        constructor
        · intro consumed left body cut
          cases consumed with
          | nil => exact id
          | cons first consumed =>
              obtain ⟨rfl, _⟩ := List.cons_eq_cons.mp cut
              rw [Raw.Completes, answered]
              exact id
        · dsimp only [Prod.map, id]
          split <;> exact ⟨_, rfl⟩

end Scan

/-! ## Raw strings in C -/

namespace CLike

open Scan
open Literal.Raw (Spells Delimits closer)

theorem delegates (source : String) : Delegates profile source := by
  apply delegates_of_fits
  intro fits
  refine delegates_of_setting fits dotted.literals (dotted.setting _)
    (Profile.renews_of_stock _) ?_
  intro located _ first
  constructor
  · rintro ⟨_, escape⟩
    rw [eq_backslash_of_escape escape] at first
    exact absurd first (by decide +kernel)
  · intro _ point
    rw [show located.symbol = '.' from point, traits_point] at first
    simp at first

/-- What the profile knows about the introduction, which no longer one begins with. -/
theorem rawString_table :
    (profile.classes.classify 'R').literalFirst = true ∧
      (profile.classes.classify 'R').linefeed = false ∧
      (profile.classes.classify 'R').whitespace = false ∧
      profile.literals.lookup? ['R', '"'] = some rawString ∧
      profile.literalReader? ['R', '"'] = some .rawString ∧
      (profile.literals.find? ['R', '"']).map profile.literals.hasChildren = some false := by
  decide +kernel

theorem longestStart_rawString (rest : List Char) :
    LongestStart profile.literals.Registered ('R' :: '"' :: rest) ['R', '"'] := by
  obtain ⟨_, _, _, named, _, last⟩ := rawString_table
  obtain ⟨node, found, childless⟩ := Option.map_eq_some_iff.mp last
  have stuck : profile.literals.Stuck ['R', '"'] rest node := by
    refine ⟨found, fun symbol _ => ?_⟩
    cases edge : profile.literals.advance node symbol with
    | none => rfl
    | some child =>
        rw [Trie.hasChildren_iff.mpr ⟨symbol, child, edge⟩] at childless
        exact absurd childless (by decide)
  constructor
  · exact List.prefix_append ['R', '"'] rest
  · rw [Trie.Registered, named]
    rfl
  · intro other begins registered
    obtain ⟨_, reached, walked, _⟩ := Trie.registered_iff.mp registered
    exact stuck.length_le begins (by simp [Trie.Walkable, walked])

/-- The token that starts at the introduction is what a fresh reader makes of the text behind
it. -/
theorem verdict_rawString {source : String} {before after : List Token} {token : Token}
    {front rest : List Char} (cut : tokens profile source = before ++ token :: after)
    (text : source.toList = front ++ 'R' :: '"' :: rest)
    (starts : token.span.start = byteLength front) :
    tokensOf (Introduced.judge profile ⟨token.atLineStart, byteLength front, rawString⟩
      (.raw (Literal.Reader.reset {})) (byteLength front + 2) rest).reports = [token] := by
  obtain ⟨first, notLineEnd, notBlank, kinds, readers, _⟩ := rawString_table
  obtain ⟨_, behind, kind, reader, verdict, _, along, named, found, rfl, made, _⟩ :=
    (delegates source).2 before after token front ('"' :: rest) 'R' cut text starts first
      notLineEnd notBlank ['R', '"'] (longestStart_rawString rest)
  obtain rfl := Option.some.inj (kinds.symm.trans named)
  obtain rfl := Option.some.inj (readers.symm.trans found)
  obtain rfl : rest = behind := by simpa using along
  exact made

/-- The token is the raw string with the given body and ends at `stop`. -/
def IsRaw (token : Token) (body : List Char) (stop : Nat) : Prop :=
  token.kind = rawString ∧ token.payload = .literal (String.ofList body) ∧ token.span.stop = stop

/-- The token that comes of a raw string is the one that a beginning of the text spells. -/
theorem isRaw_iff (literal : Introduced) (kind : literal.kind = rawString) {token : Token}
    {rest : List Char} (made : tokensOf (Introduced.judge profile literal
      (.raw (Literal.Reader.reset {})) (literal.start + 2) rest).reports = [token])
    {text behind body : List Char} (cut : 'R' :: '"' :: rest = text ++ behind) :
    IsRaw token body (literal.start + byteLength text) ↔ Spells text body := by
  have introduction (inner : List Char) :
      byteLength ('R' :: '"' :: inner) = 2 + byteLength inner := by
    show 1 + (1 + byteLength inner) = _
    omega
  have completes_of_spells (spells : Spells text body) : ∃ inner,
      text = 'R' :: '"' :: inner ∧ Literal.Raw.Completes (Literal.Reader.reset {}) inner body := by
    obtain ⟨delimiter, delimits, whole, absent⟩ := spells
    exact ⟨_, whole, Literal.Raw.completes_iff.mpr ⟨delimiter, delimits, rfl, absent⟩⟩
  rcases Introduced.judge_raw profile literal (Literal.Reader.reset {}) (literal.start + 2) rest
    with ⟨consumed, left, found, rfl, completes, complete⟩ | ⟨never, stop, failed⟩
  · rw [complete] at made
    obtain rfl := List.singleton_inj.mp made
    constructor
    · rintro ⟨_, payload, stop⟩
      obtain rfl := String.ofList_injective (Payload.literal.inj payload)
      simp only [Introduced.span] at stop
      have length : byteLength ('R' :: '"' :: consumed) = byteLength text := by
        rw [introduction]
        omega
      obtain ⟨rfl, _⟩ := eq_of_byteLength cut length
      exact Literal.Raw.completes_iff.mp completes
    · intro spells
      obtain ⟨inner, rfl, again⟩ := completes_of_spells spells
      obtain ⟨rfl, rfl⟩ := completes.unique again (by simpa using cut)
      refine ⟨kind, rfl, ?_⟩
      rw [introduction, ← Nat.add_assoc]
      rfl
  · rw [failed] at made
    obtain rfl := List.singleton_inj.mp made
    constructor
    · rintro ⟨unexpected, _⟩
      exact absurd (show Kind.unexpected = rawString from unexpected) (by decide)
    · intro spells
      obtain ⟨inner, rfl, completes⟩ := completes_of_spells spells
      exact absurd completes (never inner behind body (by simpa using cut))

/-- Raw strings are read exactly.  A token that starts where the source goes on with their
introduction is the raw string with a given body and ends behind a given text if and only if
the text spells it.  So the first place behind the opening parenthesis where the closing
symbols stand is the end. -/
theorem raw_strings_exact (source : String) :
    Delivers profile source ∧
    ∀ (before after : List Token) (token : Token) (front rest : List Char),
      tokens profile source = before ++ token :: after →
      source.toList = front ++ 'R' :: '"' :: rest → token.span.start = byteLength front →
      (∀ text behind body, 'R' :: '"' :: rest = text ++ behind →
        (IsRaw token body (byteLength front + byteLength text) ↔ Spells text body)) ∧
      ∀ delimiter body behind, Delimits delimiter →
        rest = delimiter ++ '(' :: (body ++ closer delimiter ++ behind) →
        (∀ other left, body ++ closer delimiter ++ behind = other ++ closer delimiter ++ left →
          body.length ≤ other.length) →
        IsRaw token body (byteLength front +
          byteLength ('R' :: '"' :: delimiter ++ '(' :: body ++ closer delimiter)) := by
  refine ⟨(delegates source).1, ?_⟩
  intro before after token front rest cut text starts
  have made := verdict_rawString cut text starts
  have spelled (text behind body : List Char) (whole : 'R' :: '"' :: rest = text ++ behind) :
      IsRaw token body (byteLength front + byteLength text) ↔ Spells text body :=
    isRaw_iff ⟨token.atLineStart, byteLength front, rawString⟩ rfl made whole
  refine ⟨spelled, ?_⟩
  intro delimiter body behind delimits whole earliest
  have absent : ¬closer delimiter <:+: body := by
    rintro ⟨other, left, rfl⟩
    have early := earliest other (left ++ closer delimiter ++ behind) (by simp)
    simp only [closer, List.length_append, List.length_cons] at early
    omega
  apply (spelled _ behind body ?_).mpr
  · exact ⟨delimiter, delimits, rfl, absent⟩
  · rw [whole]
    simp

/-- A raw string over two lines whose body nearly closes. -/
def nearMisses : String :=
  "R\"é(\\)\"\n)é\";"

/-- Neither a quote behind another delimiter nor the end of the line closes this body. -/
theorem raw_strings_exact_near_misses :
    ∃ token, tokens profile nearMisses = token :: (tokens profile nearMisses).tail ∧
      IsRaw token ['\\', ')', '"', '\n'] 13 ∧
      Spells ['R', '"', 'é', '(', '\\', ')', '"', '\n', ')', 'é', '"'] ['\\', ')', '"', '\n'] := by
  have first : tokens profile nearMisses = [] ++
      { atLineStart := true, kind := rawString, span := ⟨0, 13⟩,
        payload := .literal "\\)\"\n" } :: (tokens profile nearMisses).tail := by
    decide +kernel
  have delimits : Delimits ['é'] := by
    rw [← List.nil_append ['é'], Literal.Raw.delimits_nil.concat_iff]
    decide
  have earliest (other left : List Char)
      (cut : ['\\', ')', '"', '\n', ')', 'é', '"', ';'] = other ++ closer ['é'] ++ left) :
      4 ≤ other.length := by
    have nowhere : ∀ count < 4,
        ¬closer ['é'] <+: ['\\', ')', '"', '\n', ')', 'é', '"', ';'].drop count := by
      decide
    apply Nat.le_of_not_lt
    intro early
    apply nowhere other.length early
    rw [cut, List.append_assoc, List.drop_left]
    exact List.prefix_append _ _
  obtain ⟨spelled, closed⟩ := (raw_strings_exact nearMisses).2 [] _ _ []
    ['é', '(', '\\', ')', '"', '\n', ')', 'é', '"', ';'] first (by decide +kernel) rfl
  have isRaw := closed ['é'] ['\\', ')', '"', '\n'] [';'] delimits rfl earliest
  refine ⟨_, first, isRaw, ?_⟩
  exact (spelled ['R', '"', 'é', '(', '\\', ')', '"', '\n', ')', 'é', '"'] [';'] _ rfl).mp isRaw

end CLike

end Lexing
