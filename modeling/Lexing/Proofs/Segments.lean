import Lexing.Proofs.Reaction

/-!
# Segments of a source

A source is cut into segments.  A segment is a symbol that the machine can put into
a token, together with the symbols behind it that an operator has absorbed: they
are never fed again and share the fate of their segment.  A token covers some
segments that follow one another.  What the last of them has absorbed is either
covered as well or left out.
-/

namespace Lexing

/-! ## Without gaps -/

/-- A relation between a start, some things and a stop that says that each thing begins where
the one before it stops. -/
structure Consecutive {α : Type} (relates : Nat → List α → Nat → Prop) (begins : Nat → α → Prop)
    (stop : α → Nat) : Prop where
  nil : ∀ {first last}, relates first [] last ↔ first = last
  cons : ∀ {first thing rest last},
    relates first (thing :: rest) last ↔ begins first thing ∧ relates (stop thing) rest last

namespace Consecutive

variable {α : Type} {relates : Nat → List α → Nat → Prop} {begins : Nat → α → Prop}
  {stop : α → Nat} {first last other : Nat} {things before after : List α}

theorem append (consecutive : Consecutive relates begins stop) :
    relates first (before ++ after) last ↔
      ∃ middle, relates first before middle ∧ relates middle after last := by
  induction before generalizing first with
  | nil => simp [consecutive.nil]
  | cons thing rest ih => simp [consecutive.cons, ih, and_assoc]

theorem unique (consecutive : Consecutive relates begins stop) (here : relates first things last)
    (there : relates first things other) : last = other := by
  induction things generalizing first with
  | nil => exact (consecutive.nil.mp here).symm.trans (consecutive.nil.mp there)
  | cons thing rest ih => exact ih (consecutive.cons.mp here).2 (consecutive.cons.mp there).2

end Consecutive

/-- The symbols follow one another without a gap, from one offset to another. -/
def Located.Adjoin : Nat → List Located → Nat → Prop
  | first, [], last => first = last
  | first, located :: rest, last => located.offset = first ∧ Adjoin located.stop rest last

namespace Located

theorem consecutive_adjoin :
    Consecutive Adjoin (fun first located => located.offset = first) stop :=
  ⟨.rfl, .rfl⟩

theorem adjoin_append {first last : Nat} {before after : List Located} :
    Adjoin first (before ++ after) last ↔
      ∃ middle, Adjoin first before middle ∧ Adjoin middle after last :=
  consecutive_adjoin.append

theorem Adjoin.unique {first last other : Nat} {symbols : List Located}
    (adjoin : Adjoin first symbols last) (again : Adjoin first symbols other) : last = other :=
  consecutive_adjoin.unique adjoin again

/-- The symbols of a text that positions can count adjoin. -/
theorem adjoin_ofText {offset : Nat} {text : List Char}
    (fits : offset + byteLength text ≤ maxOffset) :
    Adjoin offset (ofText offset text) (offset + byteLength text) := by
  induction text generalizing offset with
  | nil => rfl
  | cons symbol rest ih =>
      have stop : symbolEnd symbol offset = offset + symbol.utf8Size := by
        simp only [byteLength] at fits
        unfold symbolEnd
        omega
      simp only [ofText, Adjoin, Located.stop, true_and, stop, byteLength] at fits ⊢
      rw [← Nat.add_assoc]
      exact ih (by omega)

theorem adjoin_source {text : List Char} (fits : byteLength text ≤ maxOffset) :
    Adjoin 0 (ofText 0 text) (byteLength text) := by
  have adjoin : Adjoin 0 (ofText 0 text) (0 + byteLength text) := adjoin_ofText (by omega)
  rwa [Nat.zero_add] at adjoin

end Located

/-! ## Segments -/

/-- A symbol that an operator has absorbed.  It is safe when the operator would have
given no symbol back if it had got stuck at that moment. -/
structure Splice where
  symbol : Located
  safe : Bool
deriving DecidableEq

/-- A symbol with the symbols behind it that an operator has absorbed. -/
structure Segment where
  symbol : Located
  trail : List Splice := []

namespace Segment

def located (segment : Segment) : List Located :=
  segment.symbol :: segment.trail.map Splice.symbol

def flatten (segments : List Segment) : List Located :=
  segments.flatMap located

@[simp]
theorem flatten_nil : flatten [] = [] :=
  rfl

@[simp]
theorem flatten_cons (segment : Segment) (rest : List Segment) :
    flatten (segment :: rest) = segment.located ++ flatten rest :=
  rfl

@[simp]
theorem flatten_append (before after : List Segment) :
    flatten (before ++ after) = flatten before ++ flatten after :=
  List.flatMap_append

/-- What the symbols of a segment become when an operator absorbs them. -/
def splices (safe : Bool) (segment : Segment) : List Splice :=
  ⟨segment.symbol, safe⟩ :: segment.trail

/-- A segment whose operator absorbs further segments. -/
def absorb (segment : Segment) (safe : Bool) (others : List Segment) : Segment :=
  { segment with trail := segment.trail ++ others.flatMap (splices safe) }

theorem map_splices (safe : Bool) (segments : List Segment) :
    (segments.flatMap (splices safe)).map Splice.symbol = flatten segments := by
  induction segments with
  | nil => rfl
  | cons segment rest ih => simp [splices, located, ih]

theorem mem_splices {safe : Bool} {segments : List Segment} {splice : Splice} :
    splice ∈ segments.flatMap (splices safe) ↔
      splice ∈ segments.map (fun segment => ⟨segment.symbol, safe⟩) ∨
        splice ∈ segments.flatMap trail := by
  induction segments with
  | nil => simp
  | cons segment rest ih =>
      simp only [List.flatMap_cons, List.map_cons, List.mem_append, List.mem_cons, splices, ih]
      grind

theorem located_absorb (segment : Segment) (safe : Bool) (others : List Segment) :
    (segment.absorb safe others).located = segment.located ++ flatten others := by
  simp [absorb, located, map_splices]

def Begin (start : Nat) (segments : List Segment) : Prop :=
  ∃ first rest, segments = first :: rest ∧ first.symbol.offset = start

theorem Begin.append {start : Nat} {segments : List Segment} (begun : Begin start segments)
    (more : List Segment) : Begin start (segments ++ more) := by
  obtain ⟨first, rest, rfl, offset⟩ := begun
  exact ⟨first, rest ++ more, rfl, offset⟩

theorem Begin.take {start count : Nat} {segments : List Segment} (begun : Begin start segments)
    (positive : 0 < count) : Begin start (segments.take count) := by
  obtain ⟨first, rest, rfl, offset⟩ := begun
  obtain ⟨fewer, rfl⟩ := Nat.exists_eq_succ_of_ne_zero (Nat.ne_of_gt positive)
  exact ⟨first, rest.take fewer, rfl, offset⟩

theorem Begin.absorb {start : Nat} {front : List Segment} {last : Segment}
    (begun : Begin start (front ++ [last])) (safe : Bool) (others : List Segment) :
    Begin start (front ++ [last.absorb safe others]) := by
  obtain ⟨first, rest, cut, offset⟩ := begun
  cases front with
  | nil =>
      obtain ⟨rfl, _⟩ := List.cons_eq_cons.mp cut
      exact ⟨_, [], rfl, offset⟩
  | cons earlier front =>
      obtain ⟨rfl, _⟩ := List.cons_eq_cons.mp cut
      exact ⟨_, _, rfl, offset⟩

theorem Begin.ne_nil {start : Nat} {segments : List Segment} (begun : Begin start segments) :
    segments ≠ [] := by
  obtain ⟨first, rest, rfl, _⟩ := begun
  simp

end Segment

/-! ## Covered segments -/

/-- Which segments may stand where.  A loose segment may lose its trail.  A pointed
segment may come first although it is not loose. -/
structure Policy where
  loose : Segment → Prop
  pointed : Segment → Prop
  bare : ∀ symbol, loose ⟨symbol, []⟩

/-- Only a segment without absorbed symbols may end a token with its symbol. -/
def Policy.tight (pointed : Segment → Prop) : Policy where
  loose segment := segment.trail = []
  pointed := pointed
  bare _ := rfl

/-- A token that ends with a segment ends behind its trail or, if the segment is
loose, behind its symbol. -/
def Policy.Ends (policy : Policy) (last : Segment) (stop : Nat) : Prop :=
  stop = last.symbol.stop ∧ policy.loose last ∨
    Located.Adjoin last.symbol.stop (last.trail.map Splice.symbol) stop

/-- The tokens cover the segments from the first one on, a block each. -/
inductive Covers (policy : Policy) : List Token → List Segment → Prop
  | nil : Covers policy [] []
  | close {tokens : List Token} {done front : List Segment} {token : Token} {last : Segment} :
      Covers policy tokens done → token.kind ≠ .fin →
      Segment.Begin token.span.start (front ++ [last]) → policy.Ends last token.span.stop →
      Covers policy (tokens ++ [token]) (done ++ (front ++ [last]))

/-- The first segment is loose or pointed, the others are loose. -/
def Policy.Chain (policy : Policy) : List Segment → Prop
  | [] => True
  | first :: rest =>
      (policy.loose first ∨ policy.pointed first) ∧ ∀ segment ∈ rest, policy.loose segment

theorem Policy.chain_of_loose {policy : Policy} {segments : List Segment}
    (loose : ∀ segment ∈ segments, policy.loose segment) : policy.Chain segments := by
  cases segments with
  | nil => trivial
  | cons first rest =>
      exact ⟨Or.inl (loose first (by simp)), fun segment member => loose segment (by simp [member])⟩

theorem Policy.Chain.append {policy : Policy} {segments more : List Segment}
    (chain : policy.Chain segments) (loose : ∀ segment ∈ more, policy.loose segment) :
    policy.Chain (segments ++ more) := by
  cases segments with
  | nil => exact chain_of_loose loose
  | cons first rest =>
      refine ⟨chain.1, fun segment member => ?_⟩
      rcases List.mem_append.mp member with early | late
      · exact chain.2 segment early
      · exact loose segment late

/-- What the symbols of a source have become: some lie in segments, some are not
read yet. -/
structure Account (symbols : List Located) (stop : Nat) (splices : List Splice)
    (unread : List Located) (segments : List Segment) : Prop where
  adjoin : Located.Adjoin 0 symbols stop
  all : Segment.flatten segments ++ unread = symbols
  spliced : ∀ splice, splice ∈ splices ↔ splice ∈ segments.flatMap Segment.trail

namespace Account

variable {symbols : List Located} {stop : Nat} {splices : List Splice} {unread : List Located}
  {segments front more : List Segment} {last next : Segment}

/-- A trail ends where the next segment begins. -/
theorem ends_before (account : Account symbols stop splices unread segments)
    (cut : segments = front ++ (last :: next :: more)) :
    Located.Adjoin last.symbol.stop (last.trail.map Splice.symbol) next.symbol.offset := by
  have adjoin := account.adjoin
  rw [← account.all, cut] at adjoin
  simp only [Segment.flatten_append, Segment.flatten_cons, Segment.located, List.append_assoc,
    List.cons_append] at adjoin
  obtain ⟨_, _, tail⟩ := Located.adjoin_append.mp adjoin
  obtain ⟨middle, trail, found, _⟩ := Located.adjoin_append.mp tail.2
  exact found ▸ trail

/-- The last trail ends with the source. -/
theorem ends_last (account : Account symbols stop splices [] segments)
    (cut : segments = front ++ [last]) :
    Located.Adjoin last.symbol.stop (last.trail.map Splice.symbol) stop := by
  have adjoin := account.adjoin
  rw [← account.all, cut] at adjoin
  simp only [Segment.flatten_append, Segment.flatten_cons, Segment.located, Segment.flatten_nil,
    List.append_nil] at adjoin
  obtain ⟨_, _, tail⟩ := Located.adjoin_append.mp adjoin
  exact tail.2

theorem mem_of_mem (account : Account symbols stop splices unread segments)
    (member : next ∈ segments) : next.symbol ∈ symbols := by
  rw [← account.all]
  exact List.mem_append_left _ (List.mem_flatMap.mpr ⟨next, member, by simp [Segment.located]⟩)

/-- One more symbol is read. -/
theorem read {located : Located}
    (account : Account symbols stop splices (located :: unread) segments) :
    Account symbols stop splices unread (segments ++ [⟨located, []⟩]) where
  adjoin := account.adjoin
  all := by
    rw [← account.all]
    simp [Segment.located]
  spliced splice := by
    rw [account.spliced]
    simp

/-- A segment absorbs those behind it. -/
theorem absorb {others : List Segment} (safe : Bool)
    (account : Account symbols stop splices unread (front ++ (last :: (others ++ more)))) :
    Account symbols stop (splices ++ others.map fun other => ⟨other.symbol, safe⟩) unread
      (front ++ (last.absorb safe others :: more)) where
  adjoin := account.adjoin
  all := by
    rw [← account.all]
    simp [Segment.located_absorb]
  spliced splice := by
    rw [List.mem_append, account.spliced]
    simp only [List.flatMap_append, List.flatMap_cons, List.mem_append, Segment.absorb,
      Segment.mem_splices]
    constructor
    · rintro ((early | old | other | late) | fresh)
      · exact Or.inl early
      · exact Or.inr (Or.inl (Or.inl old))
      · exact Or.inr (Or.inl (Or.inr (Or.inr other)))
      · exact Or.inr (Or.inr late)
      · exact Or.inr (Or.inl (Or.inr (Or.inl fresh)))
    · rintro (early | (old | fresh | other) | late)
      · exact Or.inl (Or.inl early)
      · exact Or.inl (Or.inr (Or.inl old))
      · exact Or.inr fresh
      · exact Or.inl (Or.inr (Or.inr (Or.inl other)))
      · exact Or.inl (Or.inr (Or.inr (Or.inr late)))

end Account

end Lexing
