import Lexing.Proofs.Starts

/-!
# Walks as far as possible

The machine sees one symbol at a time.  It goes along a trie until it gets stuck, and
then falls back on the last sequence that it has passed.  From the place where the walk
starts, this is the longest sequence that the source goes on with.
-/

namespace Lexing

/-- The longest beginning of a text with a property. -/
structure LongestStart (property : List Char → Prop) (text start : List Char) : Prop where
  starts : start <+: text
  holds : property start
  longest : ∀ other, other <+: text → property other → other.length ≤ start.length

namespace Trie

variable {trie : Trie} {start rest other sequence : List Char} {node : NodeId}
  {terminal : Option (NodeId × Nat)}

def Registered (trie : Trie) (sequence : List Char) : Prop :=
  (trie.lookup? sequence).isSome = true

/-- The sequence can be followed from the root. -/
def Walkable (trie : Trie) (sequence : List Char) : Prop :=
  (trie.find? sequence).isSome = true

theorem registered_iff :
    trie.Registered sequence ↔
      sequence ≠ [] ∧
        ∃ node, trie.find? sequence = some node ∧ (trie.kind? node).isSome = true := by
  unfold Registered lookup?
  cases sequence with
  | nil => simp
  | cons symbol rest => cases trie.find? (symbol :: rest) <;> simp

/-- Only finitely many beginnings of a text have to be looked at. -/
theorem longestStart_of_take {text : List Char} (starts : start <+: text)
    (registered : trie.Registered start)
    (longest : ∀ count ∈ List.range (text.length + 1),
      (trie.lookup? (text.take count)).isSome = true → count ≤ start.length) :
    LongestStart trie.Registered text start where
  starts := starts
  holds := registered
  longest other begins found := by
    have cut := List.prefix_iff_eq_take.mp begins
    refine longest other.length ?_ (cut ▸ found)
    exact List.mem_range.mpr (Nat.lt_succ_of_le begins.length_le)

theorem Registered.root_edge {symbol : Char} (registered : trie.Registered sequence)
    (begins : sequence <+: symbol :: rest) : ∃ child, trie.advance root symbol = some child := by
  obtain ⟨nonempty, node, found, _⟩ := registered_iff.mp registered
  obtain ⟨first, others, rfl⟩ := List.exists_cons_of_ne_nil nonempty
  obtain ⟨same, _⟩ := List.cons_prefix_cons.mp begins
  rw [← same]
  cases edge : trie.advance root first with
  | some child => exact ⟨child, rfl⟩
  | none => simp [find?, walkFrom, edge] at found

/-- The text cannot be followed further than to the end of its beginning `start`. -/
structure Stuck (trie : Trie) (start rest : List Char) (node : NodeId) : Prop where
  found : trie.find? start = some node
  stays : ∀ symbol, rest.head? = some symbol → trie.advance node symbol = none

theorem Stuck.length_le (stuck : trie.Stuck start rest node) (begins : other <+: start ++ rest)
    (walkable : trie.Walkable other) : other.length ≤ start.length := by
  refine Nat.le_of_not_lt fun longer => ?_
  obtain ⟨more, rfl⟩ : start <+: other :=
    List.prefix_of_prefix_length_le (List.prefix_append start rest) begins (Nat.le_of_lt longer)
  cases more with
  | nil => simp at longer
  | cons symbol more =>
      obtain ⟨behind, rfl⟩ := (List.prefix_append_right_inj start).mp begins
      have stays := stuck.stays symbol rfl
      have found := stuck.found
      unfold find? at found
      simp [Walkable, find?, found, walkFrom, stays] at walkable

theorem Stuck.longestStart (stuck : trie.Stuck start rest node) :
    LongestStart trie.Walkable (start ++ rest) start where
  starts := List.prefix_append start rest
  holds := by simp [Walkable, stuck.found]
  longest _ begins walkable := stuck.length_le begins walkable

/-- The longest sequence that a text starts with is the deepest one on the way along
the text. -/
theorem Stuck.deepest_of_longest (stuck : trie.Stuck start rest node)
    (deepest : trie.Deepest start terminal)
    (longest : LongestStart trie.Registered (start ++ rest) sequence) :
    ∃ ended, terminal = some (ended, sequence.length) ∧
      sequence = start.take sequence.length ∧ trie.find? sequence = some ended := by
  obtain ⟨nonempty, ended, found, kind⟩ := registered_iff.mp longest.holds
  have short := stuck.length_le longest.starts (by simp [Walkable, found])
  have positive := List.length_pos_iff.mpr nonempty
  have cut : sequence = start.take sequence.length := by
    have inside := List.prefix_of_prefix_length_le longest.starts (List.prefix_append start rest)
      short
    exact List.prefix_iff_eq_take.mp inside
  have walked : trie.find? (start.take sequence.length) = some ended := by rwa [← cut]
  refine ⟨ended, ?_, cut, found⟩
  cases terminal with
  | none =>
      have bare := deepest sequence.length ended positive short walked
      simp [bare] at kind
  | some passed =>
      obtain ⟨last, count⟩ := passed
      obtain ⟨above, below, reached, _, named, bare⟩ := deepest
      have notLonger : sequence.length ≤ count := by
        refine Nat.le_of_not_lt fun longer => ?_
        have unnamed := bare sequence.length ended longer short walked
        simp [unnamed] at kind
      have notShorter : count ≤ sequence.length := by
        have taken : (start.take count).length = count := List.length_take_of_le below
        have registered : trie.Registered (start.take count) := by
          refine registered_iff.mpr ⟨?_, last, reached, named⟩
          apply List.ne_nil_of_length_pos
          omega
        have bound := longest.longest (start.take count)
          ((List.take_prefix count start).trans (List.prefix_append start rest)) registered
        omega
      obtain rfl : count = sequence.length := by omega
      rw [walked] at reached
      rw [Option.some.inj reached]

theorem terminal_eq_none (deepest : trie.Deepest start terminal)
    (unregistered : ∀ other, other <+: start ++ rest → ¬trie.Registered other) :
    terminal = none := by
  cases terminal with
  | none => rfl
  | some passed =>
      obtain ⟨last, count⟩ := passed
      obtain ⟨above, below, reached, _, named, _⟩ := deepest
      have taken : (start.take count).length = count := List.length_take_of_le below
      refine absurd (registered_iff.mpr ⟨?_, last, reached, named⟩) (unregistered (start.take count)
        ((List.take_prefix count start).trans (List.prefix_append start rest)))
      apply List.ne_nil_of_length_pos
      omega

end Trie

theorem Located.Adjoin.before {first last : Nat} {front behind : List Located} {located : Located}
    (adjoin : Adjoin first (front ++ located :: behind) last) :
    Adjoin first front located.offset := by
  obtain ⟨middle, early, rfl, _⟩ := adjoin_append.mp adjoin
  exact early

theorem Located.Adjoin.last_stop {first last : Nat} {front : List Located} {located : Located}
    (adjoin : Adjoin first (front ++ [located]) last) : located.stop = last := by
  obtain ⟨middle, _, _, stop⟩ := adjoin_append.mp adjoin
  exact stop

theorem Located.map_symbol_ofText (offset : Nat) (text : List Char) :
    (ofText offset text).map Located.symbol = text := by
  induction text generalizing offset with
  | nil => rfl
  | cons symbol rest ih => simp [ofText, ih]

theorem symbolEnd_eq {offset : Nat} {symbol : Char} (fits : offset + symbol.utf8Size ≤ maxOffset) :
    symbolEnd symbol offset = offset + symbol.utf8Size := by
  unfold symbolEnd
  omega

theorem Located.ofText_append {offset : Nat} {first second : List Char}
    (fits : offset + byteLength (first ++ second) ≤ maxOffset) :
    ofText offset (first ++ second) =
      ofText offset first ++ ofText (offset + byteLength first) second := by
  induction first generalizing offset with
  | nil => rfl
  | cons symbol rest ih =>
      simp only [List.cons_append, byteLength] at fits
      simp only [List.cons_append, ofText, byteLength]
      rw [symbolEnd_eq (by omega), ih (by omega), Nat.add_assoc]

theorem Located.length_ofText (offset : Nat) (text : List Char) :
    (ofText offset text).length = text.length := by
  rw [← List.length_map, map_symbol_ofText]

theorem Located.spanOf?_ofText (offset : Nat) {text : List Char} (nonempty : text ≠ [])
    (fits : offset + byteLength text ≤ maxOffset) :
    spanOf? (ofText offset text) = some ⟨offset, offset + byteLength text⟩ := by
  obtain ⟨symbol, rest, rfl⟩ := List.exists_cons_of_ne_nil nonempty
  have adjoin := adjoin_ofText fits
  obtain ⟨front, last, cut⟩ := List.eq_nil_or_concat (ofText offset (symbol :: rest))
    |>.resolve_left (by simp [ofText])
  rw [cut, List.concat_eq_append] at adjoin
  have final : (ofText offset (symbol :: rest)).getLast? = some last := by simp [cut]
  have first : (ofText offset (symbol :: rest)).head? = some ⟨symbol, offset⟩ := rfl
  simp [spanOf?, first, final, adjoin.last_stop]

namespace Scan

variable {ρ : Type} {profile : Profile ρ} {state : ScanState ρ} {node : NodeId}
  {pending : List Located} {walk : Walk} {start stop last : Nat} {queue : List Fed}
  {terminal : Option (NodeId × Nat)}

theorem beginsContinuation_eq_false (state : ScanState ρ) (classes : state.ownClasses = none)
    {fed : Fed} (plain : ¬CanContinue profile fed.toLocated) :
    beginsContinuation profile state fed = false := by
  unfold CanContinue at plain
  unfold beginsContinuation ScanState.classify
  rw [classes, Option.getD_none]
  grind

/-! ## Stuck walks -/

/-- A walk that cannot go on, with the symbols behind it. -/
structure Furthest (trie : Trie) (start : Nat) (text : List Located) (walk : Walk)
    (rest : List Fed) (last : Nat) : Prop where
  traces : walk.Traces trie
  split : walk.pending ++ rest.map Fed.toLocated = text
  stuck : trie.Stuck (walk.pending.map Located.symbol) (rest.map fun fed => fed.symbol) walk.node
  adjoin : Located.Adjoin start walk.pending last

/-- A walk along a text as far as the trie allows, with the text behind it. -/
structure Walked (trie : Trie) (start : Nat) (text : List Char) (walk : Walk) (rest : List Fed)
    (last : Nat) (walked behind : List Char) : Prop where
  whole : text = walked ++ behind
  nonempty : walked ≠ []
  pending : walk.pending = Located.ofText start walked
  left : rest.map Fed.toLocated = Located.ofText (start + byteLength walked) behind
  stuck : trie.Stuck walked behind walk.node
  deepest : trie.Deepest walked walk.terminal
  last : last = start + byteLength walked

theorem Furthest.walked {trie : Trie} {text : List Char} {rest : List Fed}
    (furthest : Furthest trie start (Located.ofText start text) walk rest last)
    (fits : start + byteLength text ≤ maxOffset) :
    ∃ walked behind, Walked trie start text walk rest last walked behind := by
  obtain ⟨walked, behind, rfl, pending, left⟩ := Located.ofText_eq_append fits furthest.split
  rw [byteLength_append] at fits
  have symbols : walk.pending.map Located.symbol = walked := by
    rw [pending, Located.map_symbol_ofText]
  have following : (rest.map fun fed => fed.symbol) = behind := by
    rw [← Located.map_symbol_ofText (start + byteLength walked) behind, ← left, List.map_map]
    rfl
  refine ⟨walked, behind, rfl, ?_, pending, left, ?_, ?_, ?_⟩
  · rw [← symbols]
    simpa using furthest.traces.nonempty
  · have stuck := furthest.stuck
    rwa [symbols, following] at stuck
  · have deepest := furthest.traces.deepest
    rwa [symbols] at deepest
  · have adjoin := furthest.adjoin
    rw [pending] at adjoin
    exact adjoin.unique (Located.adjoin_ofText (by omega))

/-- The walk has gone along the symbols of a sequence at its start and then along the
others. -/
theorem Walked.cut {trie : Trie} {text walked behind word : List Char} {rest : List Fed}
    (along : Walked trie start text walk rest last walked behind)
    (fits : start + byteLength text ≤ maxOffset) (begins : word <+: walked) :
    ∃ others, walked = word ++ others ∧
      walk.pending.take word.length = Located.ofText start word ∧
      walk.pending.drop word.length = Located.ofText (start + byteLength word) others := by
  obtain ⟨others, rfl⟩ := begins
  have count := Located.length_ofText start word
  rw [along.whole, byteLength_append] at fits
  have pending := along.pending
  rw [Located.ofText_append (by omega)] at pending
  refine ⟨others, rfl, ?_, ?_⟩
  · rw [pending, List.take_left' count]
  · rw [pending, List.drop_left' count]

theorem map_plain_append {offset : Nat} {text behind : List Char} {rest : List Fed}
    (left : rest.map Fed.toLocated = Located.ofText (offset + byteLength text) behind)
    (fits : offset + byteLength (text ++ behind) ≤ maxOffset) :
    ((Located.ofText offset text).map Fed.plain ++ rest).map Fed.toLocated =
      Located.ofText offset (text ++ behind) := by
  rw [Located.ofText_append fits, List.map_append, left]
  simp [Function.comp_def, Fed.plain]

/-! ## Two ways to the same place -/

variable [Literal.Reader ρ]

/-- A reaction before some symbols has the same effect in the end as another one before
some of them. -/
def AmountsTo (profile : Profile ρ) (stop : Nat) (reaction : Reaction ρ) (queue : List Fed)
    (target : Reaction ρ) (rest : List Fed) : Prop :=
  ∃ later, target.reports = reaction.reports ++ later ∧
    Leads profile (some stop) ⟨reaction.state, reaction.next ++ queue⟩ later
      ⟨target.state, target.next ++ rest⟩

namespace AmountsTo

variable {reaction target : Reaction ρ} {rest : List Fed} {mode : Mode}

theorem refl (profile : Profile ρ) (stop : Nat) (reaction : Reaction ρ) (queue : List Fed) :
    AmountsTo profile stop reaction queue reaction queue :=
  ⟨[], (List.append_nil _).symm, .here _⟩

theorem react {fed : Fed}
    (amounts : AmountsTo profile stop (react profile (state.enter mode) fed) queue target rest) :
    AmountsTo profile stop (state.become mode) (fed :: queue) target rest := by
  obtain ⟨later, reports, leads⟩ := amounts
  exact ⟨_, reports, (Leads.react profile _ (state.enter mode) fed queue).trans leads⟩

theorem feed (profile : Profile ρ) (stop : Nat) (reaction : Reaction ρ) (again queue : List Fed) :
    AmountsTo profile stop (reaction.feed again) queue reaction (again ++ queue) := by
  refine ⟨[], (List.append_nil _).symm, ?_⟩
  rw [Reaction.feed_next, List.append_assoc]
  exact .here _

theorem flush (flushed : flush? profile (state.enter mode) stop = some target) :
    AmountsTo profile stop (state.become mode) [] target [] := by
  refine ⟨target.reports, rfl, ?_⟩
  rw [List.append_nil target.next]
  exact Leads.flush flushed

end AmountsTo

/-! ## Machines that walk -/

/-- The walks of one kind: the mode of the machine during them, what it does at a node
and what it does when it is stuck. -/
structure Walker (ρ : Type) where
  trie : Trie
  mode : Walk → Mode
  reach : ScanState ρ → NodeId → List Located → Option (NodeId × Nat) → Reaction ρ
  stuck : ScanState ρ → Walk → Nat → Reaction ρ

namespace Walker

/-- The terminal of a walk that has reached a node. -/
def passed (trie : Trie) (node : NodeId) (pending : List Located)
    (terminal : Option (NodeId × Nat)) : Option (NodeId × Nat) :=
  if (trie.kind? node).isSome then some (node, pending.length) else terminal

/-- The machine goes on such walks, at least along symbols with a property. -/
structure Drives (walker : Walker ρ) (profile : Profile ρ) (plain : Fed → Prop) : Prop where
  inner : ∀ (state : ScanState ρ) (node : NodeId) (pending : List Located)
    (terminal : Option (NodeId × Nat)), walker.trie.hasChildren node = true →
    walker.reach state node pending terminal =
      state.become (walker.mode ⟨node, pending, passed walker.trie node pending terminal⟩)
  leaf : ∀ (state : ScanState ρ) (node : NodeId) (pending : List Located)
    (terminal : Option (NodeId × Nat)) (start last : Nat),
    walker.trie.hasChildren node = false → (walker.trie.kind? node).isSome = true →
    pending ≠ [] → Located.Adjoin start pending last →
    walker.reach state node pending terminal =
      walker.stuck state ⟨node, pending, some (node, pending.length)⟩ last
  along : ∀ (state : ScanState ρ) (walk : Walk) (fed : Fed) (child : NodeId),
    state.ownClasses = none → plain fed → walker.trie.advance walk.node fed.symbol = some child →
    react profile (state.enter (walker.mode walk)) fed =
      walker.reach state child (walk.pending ++ [fed.toLocated]) walk.terminal
  halts : ∀ (state : ScanState ρ) (walk : Walk) (fed : Fed),
    state.ownClasses = none → plain fed → walker.trie.advance walk.node fed.symbol = none →
    react profile (state.enter (walker.mode walk)) fed =
      (walker.stuck state walk fed.offset).feed [fed]
  ends : ∀ (state : ScanState ρ) (walk : Walk) (stop : Nat),
    flush? profile (state.enter (walker.mode walk)) stop = some (walker.stuck state walk stop)

namespace Drives

variable {walker : Walker ρ} {plain : Fed → Prop} (drives : walker.Drives profile plain)
  (sound : walker.trie.Sound)

include drives sound

theorem leaf_furthest (state : ScanState ρ) (leaf : walker.trie.hasChildren node = false)
    (traces : Walk.Traces walker.trie ⟨node, pending, passed walker.trie node pending terminal⟩)
    (adjoin : Located.Adjoin start (pending ++ queue.map Fed.toLocated) stop) :
    ∃ walk last, Furthest walker.trie start (pending ++ queue.map Fed.toLocated) walk queue last ∧
      walker.reach state node pending terminal = walker.stuck state walk last := by
  have ended : (walker.trie.kind? node).isSome = true := by
    obtain ⟨_, _, _, _, _, edge⟩ := Trie.exists_edge_of_find? traces.reaches
      (by simpa using traces.nonempty)
    exact sound.ended_of_edge edge leaf
  rw [passed, if_pos ended] at traces
  obtain ⟨last, early, _⟩ := Located.adjoin_append.mp adjoin
  refine ⟨_, last, ⟨traces, rfl, ⟨traces.reaches, fun symbol _ => ?_⟩, early⟩,
    drives.leaf state node pending terminal start last leaf ended traces.nonempty early⟩
  cases edge : walker.trie.advance node symbol with
  | none => rfl
  | some child =>
      rw [Trie.hasChildren_iff.mpr ⟨symbol, child, edge⟩] at leaf
      contradiction

/-- A walk goes on until it is stuck, and what the machine does then depends on the
whole walk only. -/
theorem amountsTo (state : ScanState ρ) (classes : state.ownClasses = none)
    (traces : Walk.Traces walker.trie ⟨node, pending, passed walker.trie node pending terminal⟩)
    (allPlain : ∀ fed ∈ queue, plain fed)
    (adjoin : Located.Adjoin start (pending ++ queue.map Fed.toLocated) stop) :
    ∃ walk rest last, Furthest walker.trie start (pending ++ queue.map Fed.toLocated) walk rest
        last ∧
      AmountsTo profile stop (walker.reach state node pending terminal) queue
        (walker.stuck state walk last) rest := by
  induction queue generalizing node pending terminal with
  | nil =>
      cases inner : walker.trie.hasChildren node with
      | false =>
          obtain ⟨walk, last, furthest, same⟩ := drives.leaf_furthest sound state inner
            traces adjoin
          exact ⟨walk, [], last, furthest, same ▸ .refl ..⟩
      | true =>
          refine ⟨_, [], stop, ⟨traces, rfl, ⟨traces.reaches, by simp⟩, by simpa using adjoin⟩, ?_⟩
          rw [drives.inner state node pending terminal inner]
          exact .flush (drives.ends state _ stop)
  | cons fed queue ih =>
      cases inner : walker.trie.hasChildren node with
      | false =>
          obtain ⟨walk, last, furthest, same⟩ := drives.leaf_furthest sound state inner
            traces adjoin
          exact ⟨walk, _, last, furthest, same ▸ .refl ..⟩
      | true =>
          have first := allPlain fed (by simp)
          rw [drives.inner state node pending terminal inner]
          generalize passed walker.trie node pending terminal = terminal at traces ⊢
          cases edge : walker.trie.advance node fed.symbol with
          | some child =>
              have longer : Walk.Traces walker.trie ⟨child, pending ++ [fed.toLocated],
                  passed walker.trie child (pending ++ [fed.toLocated]) terminal⟩ := by
                simpa [passed] using traces.snoc sound (show _ = some child from edge)
              obtain ⟨walk, rest, last, furthest, amounts⟩ :=
                ih longer (fun other member => allPlain other (by simp [member]))
                  (by simpa using adjoin)
              refine ⟨walk, rest, last, by simpa using furthest, .react ?_⟩
              rw [drives.along state _ fed child classes first edge]
              exact amounts
          | none =>
              refine ⟨⟨node, pending, terminal⟩, fed :: queue, fed.offset,
                ⟨traces, rfl, ⟨traces.reaches, ?_⟩, Located.Adjoin.before adjoin⟩, .react ?_⟩
              · rintro symbol ⟨⟩
                exact edge
              · rw [drives.halts state _ fed classes first edge]
                exact AmountsTo.feed profile stop _ [fed] queue

end Drives

end Walker

/-! ## The start of a walk -/

/-- A scan of the source comes to a mode, with a token that has begun at `start` and a
text that still has to be read from `offset` on.  The sink has received the reports. -/
def Arrives (profile : Profile ρ) (source : String) (past : List Report) (mode : Mode)
    (fresh : Bool) (start offset : Nat) (text : List Char) : Prop :=
  past.map Report.event <+: events profile source ∧
    ∃ state queue, Reaches profile source past ⟨state, queue⟩ ∧ state.mode = mode ∧
      state.lineStart = fresh ∧ state.tokenStart = start ∧
      queue.map Fed.toLocated = Located.ofText offset text

section Start

variable {source : String} {offset next : Nat} {text behind : List Char}
  {before ahead : List Token} {past future : List Report} {fed : Fed} {reaction : Reaction ρ}
  {rest : List Fed}
  (startsToken : StartsToken profile source offset text before ahead past future state fed queue)

include startsToken

theorem StartsToken.located {symbol : Char} {others : List Char} (whole : text = symbol :: others) :
    fed.toLocated = ⟨symbol, offset⟩ := by
  have symbols := startsToken.symbols
  rw [whole, List.map_cons, Located.ofText] at symbols
  exact (List.cons_eq_cons.mp symbols).1

theorem StartsToken.arrives {reports : List Report} {final : ScanState ρ} {left : List Fed}
    (leads : Leads profile (some (byteLength source.toList)) ⟨state, fed :: queue⟩ reports
      ⟨final, left⟩)
    (symbols : left.map Fed.toLocated = Located.ofText next behind) :
    Arrives profile source (past ++ reports) final.mode final.lineStart final.tokenStart next
        behind ∧
      tokensOf reports <+: ahead := by
  obtain ⟨later, rfl, _⟩ := startsToken.foresees.after leads
  refine ⟨⟨?_, _, _, startsToken.reaches.trans leads, rfl, rfl, rfl, symbols⟩, ?_⟩
  · rw [startsToken.received, ← List.append_assoc]
    exact (List.prefix_append _ later).map Report.event
  · rw [← startsToken.ahead, tokensOf_append]
    exact List.prefix_append _ _

theorem StartsToken.leads
    (amounts : AmountsTo profile (byteLength source.toList) (dispatch profile state fed) queue
      reaction rest) :
    Leads profile (some (byteLength source.toList)) ⟨state, fed :: queue⟩ reaction.reports
      ⟨reaction.state, reaction.next ++ rest⟩ := by
  obtain ⟨_, reports, leads⟩ := amounts
  have first := Leads.react profile (some (byteLength source.toList)) state fed queue
  rw [react, startsToken.idle] at first
  rw [reports]
  exact first.trans leads

/-- A walk that starts at the first symbol of a token. -/
theorem StartsToken.walks {walker : Walker ρ} {plain : Fed → Prop}
    (drives : walker.Drives profile plain) (sound : walker.trie.Sound)
    (allPlain : ∀ other ∈ queue, plain other)
    (edge : walker.trie.advance Trie.root fed.symbol = some node)
    (dispatched : dispatch profile state fed =
      walker.reach (starting state fed) node [fed.toLocated] none)
    (ends : offset + byteLength text = byteLength source.toList)
    (fits : byteLength source.toList ≤ maxOffset) :
    ∃ walk rest last walked behind, Walked walker.trie offset text walk rest last walked behind ∧
      AmountsTo profile (byteLength source.toList) (dispatch profile state fed) queue
        (walker.stuck (starting state fed) walk last) rest := by
  have adjoin : Located.Adjoin offset (Located.ofText offset text) (offset + byteLength text) :=
    Located.adjoin_ofText (by omega)
  rw [← startsToken.symbols, ends] at adjoin
  obtain ⟨walk, rest, last, furthest, amounts⟩ := drives.amountsTo sound
    (starting state fed) startsToken.sane.classes (Walk.Traces.first sound edge) allPlain adjoin
  rw [← dispatched] at amounts
  change Furthest _ _ ((fed :: queue).map Fed.toLocated) _ _ _ at furthest
  rw [startsToken.symbols] at furthest
  obtain ⟨walked, behind, along⟩ := furthest.walked (by omega)
  exact ⟨walk, rest, last, walked, behind, along, amounts⟩

end Start

end Scan

end Lexing
