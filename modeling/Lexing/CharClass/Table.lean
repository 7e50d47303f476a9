import Lexing.CharClass.Basic

/-!
# Class tables

A table gives each of the 128 ASCII symbols a class of its own.  All other
symbols share one class.
-/

namespace Lexing.CharClass

/-- The class of every symbol. -/
structure Table where
  ascii : Vector CharClass 128
  nonAscii : CharClass
deriving Repr, DecidableEq

namespace Table

def empty : Table :=
  ⟨Vector.replicate 128 CharClass.empty, CharClass.empty⟩

def classify (table : Table) (symbol : Char) : CharClass :=
  if bound : symbol.toNat < 128 then table.ascii[symbol.toNat] else table.nonAscii

/-- Replace the class of an ASCII symbol, or that of all other symbols. -/
def set (table : Table) (symbol : Char) (traits : CharClass) : Table :=
  if bound : symbol.toNat < 128 then { table with ascii := table.ascii.set symbol.toNat traits }
  else { table with nonAscii := traits }

def insert (table : Table) (symbol : Char) (traits : CharClass) : Table :=
  table.set symbol ((table.classify symbol).union traits)

def remove (table : Table) (symbol : Char) (traits : CharClass) : Table :=
  table.set symbol ((table.classify symbol).without traits)

def insertAll (table : Table) (symbols : List Char) (traits : CharClass) : Table :=
  symbols.foldl (fun table symbol => table.insert symbol traits) table

/-- The class that a symbol has in the standard table: letters, digits, blanks,
line terminators and the backslash.  Operators, brackets and literals are not
part of it, because they depend on the profile. -/
def standardClass (symbol : Char) : CharClass where
  digit := symbol.isDigit
  hexDigit := symbol.isDigit || ('a' ≤ symbol && symbol ≤ 'f') || ('A' ≤ symbol && symbol ≤ 'F')
  identifierFirst := symbol.isAlpha || symbol = '_'
  identifier := symbol.isAlphanum || symbol = '_'
  whitespace := symbol = ' ' || symbol = '\t' || symbol = '\x0b' || symbol = '\x0c'
  linefeed := symbol = '\n' || symbol = '\r'
  escape := symbol = '\\'

/-- The table that a new profile starts from.  Symbols outside ASCII may take
part in identifiers. -/
def standard : Table where
  ascii := Vector.ofFn fun code => standardClass (Char.ofNat code)
  nonAscii := { identifierFirst := true, identifier := true }

end Table

end Lexing.CharClass
