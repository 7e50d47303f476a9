/-!
# Registries of readers

A profile is shared by many scans, so it keeps one fresh reader per literal form
and every scan works on copies.  Readers are numbered in the order of their
registration.
-/

namespace Lexing.Literal

/-- Fresh readers by number. -/
structure Registry (ρ : Type) where
  readers : Array ρ := #[]
deriving Repr

namespace Registry

variable {ρ τ : Type}

/-- No more than this many readers can be registered. -/
def capacity : Nat :=
  0x10000

/-- Register a reader and return its number, unless the registry is full. -/
def register (registry : Registry ρ) (reader : ρ) : Option Nat × Registry ρ :=
  if registry.readers.size < capacity then
    (some registry.readers.size, ⟨registry.readers.push reader⟩)
  else (none, registry)

/-- A fresh copy of the reader with the given number. -/
def instantiate? (registry : Registry ρ) (number : Nat) : Option ρ :=
  registry.readers[number]?

def size (registry : Registry ρ) : Nat :=
  registry.readers.size

def isEmpty (registry : Registry ρ) : Bool :=
  registry.readers.isEmpty

def map (change : ρ → τ) (registry : Registry ρ) : Registry τ :=
  ⟨registry.readers.map change⟩

/-- The written form, which tells only the size. -/
def text (registry : Registry ρ) : String :=
  "LiteralRegistry \x7b parsers: " ++ toString registry.size ++ " \x7d"

end Registry

end Lexing.Literal
