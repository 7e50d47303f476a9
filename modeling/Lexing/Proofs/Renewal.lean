import Lexing.Literal.Scripted
import Lexing.Literal.Stock
import Lexing.Profile.Basic
import Mathlib.Tactic.SplitIfs

/-!
# Readers that forget

The readers of a profile are used for one literal after the other.  They are reset before
each of them, and a reset takes everything back that a reader has done since it was made.
-/

namespace Lexing

namespace Literal

variable {ρ : Type} [Reader ρ] {fresh reader other : ρ}

/-- A reader that a fresh one can have become. -/
inductive Derived (fresh : ρ) : ρ → Prop
  | fresh : Derived fresh fresh
  | reset {reader : ρ} : Derived fresh reader → Derived fresh (Reader.reset reader)
  | read {reader : ρ} (symbol : Char) : Derived fresh reader →
      Derived fresh (Reader.read reader symbol).2
  | take {reader : ρ} : Derived fresh reader → Derived fresh (Reader.take reader).2
  | finish {reader : ρ} : Derived fresh reader → Derived fresh (Reader.finish reader).2

/-- Two readers that behave alike: whatever both read, they answer with the same
signals, decode the same text and treat the end of the input in the same way. -/
structure Alike (reader other : ρ) : Prop where
  signals : ∀ text, (readAll reader text).1 = (readAll other text).1
  decoded : ∀ text, (Reader.take (readAll reader text).2).1 = (Reader.take (readAll other text).2).1
  ending : ∀ text,
    (Reader.finish (readAll reader text).2).1 = (Reader.finish (readAll other text).2).1
  ended : ∀ text, (Reader.take (Reader.finish (readAll reader text).2).2).1 =
    (Reader.take (Reader.finish (readAll other text).2).2).1

namespace Alike

theorem refl (reader : ρ) : Alike reader reader where
  signals _ := rfl
  decoded _ := rfl
  ending _ := rfl
  ended _ := rfl

theorem symm (alike : Alike reader other) : Alike other reader where
  signals text := (alike.signals text).symm
  decoded text := (alike.decoded text).symm
  ending text := (alike.ending text).symm
  ended text := (alike.ended text).symm

theorem trans {third : ρ} (alike : Alike reader other) (onward : Alike other third) :
    Alike reader third where
  signals text := (alike.signals text).trans (onward.signals text)
  decoded text := (alike.decoded text).trans (onward.decoded text)
  ending text := (alike.ending text).trans (onward.ending text)
  ended text := (alike.ended text).trans (onward.ended text)

theorem signal (alike : Alike reader other) (symbol : Char) :
    (Reader.read reader symbol).1 = (Reader.read other symbol).1 := by
  simpa [readAll] using alike.signals [symbol]

theorem read (alike : Alike reader other) (symbol : Char) :
    Alike (Reader.read reader symbol).2 (Reader.read other symbol).2 where
  signals text := by simpa [readAll, alike.signal symbol] using alike.signals (symbol :: text)
  decoded text := alike.decoded (symbol :: text)
  ending text := alike.ending (symbol :: text)
  ended text := alike.ended (symbol :: text)

end Alike

end Literal

/-- Readers of the profile that were used before behave like fresh ones once they are
reset. -/
def Profile.Renews {ρ : Type} [Literal.Reader ρ] (profile : Profile ρ) : Prop :=
  ∀ number fresh used, profile.readers.instantiate? number = some fresh →
    Literal.Derived fresh used →
    Literal.Alike (Literal.Reader.reset used) (Literal.Reader.reset fresh)

/-! ## Readers that are kept -/

/-- A reader that is kept under a number comes from a fresh one of the profile. -/
def Profile.Makes {ρ : Type} [Literal.Reader ρ] (profile : Profile ρ) (number : Nat)
    (kept : Option ρ) : Prop :=
  ∀ reader, kept = some reader → ∃ fresh, profile.readers.instantiate? number = some fresh ∧
    Literal.Derived fresh reader

namespace Profile.Makes

variable {ρ : Type} [Literal.Reader ρ] {profile : Profile ρ} {number : Nat} {fresh reader : ρ}

theorem of_derived (made : profile.readers.instantiate? number = some fresh)
    (derived : Literal.Derived fresh reader) : profile.Makes number (some reader) := by
  intro kept same
  obtain rfl := Option.some.inj same
  exact ⟨fresh, made, derived⟩

theorem read (makes : profile.Makes number (some reader)) (symbol : Char) :
    profile.Makes number (some (Literal.Reader.read reader symbol).2) := by
  obtain ⟨fresh, made, derived⟩ := makes reader rfl
  exact of_derived made (derived.read symbol)

theorem take (makes : profile.Makes number (some reader)) :
    profile.Makes number (some (Literal.Reader.take reader).2) := by
  obtain ⟨fresh, made, derived⟩ := makes reader rfl
  exact of_derived made derived.take

theorem finish (makes : profile.Makes number (some reader)) :
    profile.Makes number (some (Literal.Reader.finish reader).2) := by
  obtain ⟨fresh, made, derived⟩ := makes reader rfl
  exact of_derived made derived.finish

/-- Where nothing is kept, a fresh reader is as good. -/
theorem or_fresh {kept : Option ρ} (makes : profile.Makes number kept) :
    profile.Makes number (kept.or (profile.readers.instantiate? number)) := by
  cases kept with
  | some reader => exact makes
  | none =>
      intro reader made
      exact ⟨reader, made, .fresh⟩

/-- Whatever two scans keep, both obtain a reader that comes from the same fresh one, or both
obtain none. -/
theorem obtained {one two : Option ρ} (makes : profile.Makes number one)
    (makesToo : profile.Makes number two) :
    Option.Rel (fun reader other => ∃ fresh, profile.readers.instantiate? number = some fresh ∧
        Literal.Derived fresh reader ∧ Literal.Derived fresh other)
      (one.or (profile.readers.instantiate? number))
      (two.or (profile.readers.instantiate? number)) := by
  have first := makes.or_fresh
  have second := makesToo.or_fresh
  cases made : profile.readers.instantiate? number with
  | some fresh =>
      rw [made] at first second
      simp only [Option.or_some] at first second ⊢
      obtain ⟨origin, again, derived⟩ := first _ rfl
      obtain ⟨originToo, againToo, derivedToo⟩ := second _ rfl
      obtain rfl := Option.some.inj (made.symm.trans again)
      obtain rfl := Option.some.inj (made.symm.trans againToo)
      exact .some ⟨fresh, rfl, derived, derivedToo⟩
  | none =>
      rw [made, Option.or_none] at first second
      have absent : ∀ {kept : Option ρ}, profile.Makes number kept → kept = none := by
        intro kept makes
        refine Option.eq_none_iff_forall_ne_some.mpr fun reader present => ?_
        obtain ⟨fresh, again, _⟩ := makes reader present
        rw [made] at again
        contradiction
      rw [absent first, absent second]
      exact .none

end Profile.Makes

namespace Literal

/-- Whatever a reader does, a reset afterwards gives what a reset before would have given. -/
structure Forgetful (ρ : Type) [Reader ρ] : Prop where
  reset : ∀ reader : ρ, Reader.reset (Reader.reset reader) = Reader.reset reader
  read : ∀ (reader : ρ) (symbol : Char),
    Reader.reset (Reader.read reader symbol).2 = Reader.reset reader
  take : ∀ reader : ρ, Reader.reset (Reader.take reader).2 = Reader.reset reader
  finish : ∀ reader : ρ, Reader.reset (Reader.finish reader).2 = Reader.reset reader

namespace Forgetful

variable {ρ τ : Type} [Reader ρ] [Reader τ]

theorem reset_of_derived (forgetful : Forgetful ρ) {fresh used : ρ}
    (derived : Derived fresh used) : Reader.reset used = Reader.reset fresh := by
  induction derived with
  | fresh => rfl
  | reset _ ih => rw [forgetful.reset, ih]
  | read symbol _ ih => rw [forgetful.read, ih]
  | take _ ih => rw [forgetful.take, ih]
  | finish _ ih => rw [forgetful.finish, ih]

theorem renews (forgetful : Forgetful ρ) (profile : Profile ρ) : profile.Renews := by
  intro number fresh used _ derived
  rw [forgetful.reset_of_derived derived]
  exact .refl _

/-- Side by side, readers forget like each of them. -/
theorem sum (first : Forgetful ρ) (second : Forgetful τ) : Forgetful (ρ ⊕ τ) where
  reset
    | .inl reader => congrArg Sum.inl (first.reset reader)
    | .inr reader => congrArg Sum.inr (second.reset reader)
  read
    | .inl reader, symbol => congrArg Sum.inl (first.read reader symbol)
    | .inr reader, symbol => congrArg Sum.inr (second.read reader symbol)
  take
    | .inl reader => congrArg Sum.inl (first.take reader)
    | .inr reader => congrArg Sum.inr (second.take reader)
  finish
    | .inl reader => congrArg Sum.inl (first.finish reader)
    | .inr reader => congrArg Sum.inr (second.finish reader)

end Forgetful

/-! ## Stock readers -/

namespace Quoted

theorem reset_pushCode (reader : Quoted) (value : Nat) :
    (reader.pushCode value).2.reset = reader.reset := by
  unfold pushCode
  split <;> rfl

theorem reset_readText (reader : Quoted) (symbol : Char) :
    (reader.readText symbol).2.reset = reader.reset := by
  unfold readText
  split_ifs <;> rfl

theorem reset_endEscape (reader : Quoted) : reader.endEscape.2.reset = reader.reset := by
  unfold endEscape
  dsimp only
  cases reader.escape with
  | outside | opened | afterReturn => rfl
  | octal => exact reset_pushCode _ _
  | hex =>
      dsimp only
      split
      · rfl
      · exact reset_pushCode _ _
  | universal => rfl

theorem reset_readAfterEscape (reader : Quoted) (symbol : Char) :
    (reader.readAfterEscape symbol).2.reset = reader.reset :=
  (reset_readText _ symbol).trans (reset_endEscape reader)

theorem reset_readOpened (reader : Quoted) (symbol : Char) :
    (reader.readOpened symbol).2.reset = reader.reset := by
  unfold readOpened
  dsimp only
  cases simpleEscape? symbol with
  | some => rfl
  | none =>
      cases digitValue? symbol 8 with
      | some => rfl
      | none =>
          dsimp only
          split_ifs <;> rfl

theorem reset_complete (reader : Quoted) (value : Nat) :
    (reader.complete value).2.reset = reader.reset :=
  reset_pushCode reader.leaveEscape value

theorem reset_read (reader : Quoted) (symbol : Char) :
    (reader.read symbol).2.reset = reader.reset := by
  unfold read
  split
  · exact reset_readText _ _
  · exact reset_readOpened _ _
  · split
    · rfl
    · exact reset_readText _ _
  · split
    · split
      · rfl
      · exact reset_complete _ _
    · exact reset_readAfterEscape _ _
  · split
    · rfl
    · exact reset_readAfterEscape _ _
  · split
    · split
      · exact reset_complete _ _
      · rfl
    · exact reset_readAfterEscape _ _

end Quoted

theorem Stock.forgetful : Forgetful Stock where
  reset
    | .quoted _ | .raw _ => rfl
  read
    | .quoted reader, symbol => congrArg Stock.quoted (reader.reset_read symbol)
    | .raw _, _ => rfl
  take
    | .quoted _ | .raw _ => rfl
  finish
    | .quoted _ | .raw _ => rfl

/-! ## Scripted readers -/

namespace Scripted

theorem read_eq (reader : Scripted) (symbol : Char) :
    ∃ decoded, Reader.read reader symbol =
      ((reader.answers.lookup symbol).getD .proceed, { reader with decoded }) := by
  show ∃ decoded, reader.read symbol = _
  unfold read
  dsimp only
  split
  · exact ⟨_, rfl⟩
  · exact ⟨_, rfl⟩
  · exact ⟨_, rfl⟩

theorem forgetful : Forgetful Scripted where
  reset _ := rfl
  read reader symbol := by
    obtain ⟨decoded, read⟩ := reader.read_eq symbol
    rw [read]
    rfl
  take _ := rfl
  finish _ := rfl

/-- A table answers a symbol in the same way wherever it stands. -/
theorem readAll_signals (reader : Scripted) (text : List Char) :
    (readAll reader text).1 = text.map fun symbol =>
      (reader.answers.lookup symbol).getD .proceed := by
  induction text generalizing reader with
  | nil => rfl
  | cons symbol rest ih =>
      obtain ⟨decoded, read⟩ := reader.read_eq symbol
      simp only [readAll, read, ih, List.map_cons]

end Scripted

end Literal

theorem Profile.renews_of_stock (profile : Profile Literal.Stock) : profile.Renews :=
  Literal.Stock.forgetful.renews profile

/-- Profiles with literals of both sorts. -/
theorem Profile.renews_of_scripted (profile : Profile (Literal.Stock ⊕ Literal.Scripted)) :
    profile.Renews :=
  (Literal.Stock.forgetful.sum Literal.Scripted.forgetful).renews profile

end Lexing
