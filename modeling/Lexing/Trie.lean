import Lexing.Text.Quoted
import Lexing.Kind

/-!
# Tries

A trie is a prefix tree over symbol sequences.  Its nodes are numbered in the
order of their creation, the root being node zero.  A node at which a sequence
ends carries the kind of that sequence and may be bound to the reader of a
literal form.
-/

namespace Lexing

/-- The number of a node. -/
abbrev NodeId := Nat

namespace Trie

/-- One node: the last symbol on the way to it, the node before it, its distance from the
root, the edges to its children, and the kind and the literal reader of the sequence that ends
here. -/
structure Node where
  symbol : Char
  parent : Option NodeId
  depth : Nat
  children : List (Char × NodeId) := []
  kind : Option Kind := none
  binding : Option Nat := none
deriving Repr, DecidableEq, Inhabited

/-- Why a sequence was refused. -/
inductive InsertError where
  | emptySequence
  | kindConflict (sequence : String) (existing requested : Kind)
  | bindingConflict (sequence : String)
deriving Repr, DecidableEq

def InsertError.message : InsertError → String
  | .emptySequence => "cannot insert an empty sequence"
  | .kindConflict sequence existing requested =>
      "sequence " ++ Text.quote sequence ++ " is already registered as " ++ existing.text ++
        ", not " ++ requested.text
  | .bindingConflict sequence =>
      "sequence " ++ Text.quote sequence ++ " already has a literal parser bound"

end Trie

/-- A prefix tree over symbol sequences. -/
structure Trie where
  nodes : Array Trie.Node
deriving Repr, DecidableEq

namespace Trie

def root : NodeId := 0

def empty : Trie :=
  ⟨#[{ symbol := '\x00', parent := none, depth := 0 }]⟩

instance : Inhabited Trie := ⟨empty⟩

/-! ## Lookups -/

def advance (trie : Trie) (node : NodeId) (symbol : Char) : Option NodeId :=
  trie.nodes[node]?.bind fun found => found.children.lookup symbol

def walkFrom (trie : Trie) : NodeId → List Char → Option NodeId
  | node, [] => some node
  | node, symbol :: rest =>
      match trie.advance node symbol with
      | some next => trie.walkFrom next rest
      | none => none

/-- The node that a sequence leads to from the root. -/
def find? (trie : Trie) (sequence : List Char) : Option NodeId :=
  trie.walkFrom root sequence

/-- The kind of the sequence that ends at a node. -/
def kind? (trie : Trie) (node : NodeId) : Option Kind :=
  trie.nodes[node]?.bind Node.kind

def binding? (trie : Trie) (node : NodeId) : Option Nat :=
  trie.nodes[node]?.bind Node.binding

/-- Whether a longer sequence goes on through a node. -/
def hasChildren (trie : Trie) (node : NodeId) : Bool :=
  trie.nodes[node]?.any fun found => !found.children.isEmpty

def depth (trie : Trie) (node : NodeId) : Nat :=
  (trie.nodes[node]?.map Node.depth).getD 0

/-- The kind of a non-empty sequence that was inserted. -/
def lookup? (trie : Trie) (sequence : List Char) : Option Kind :=
  if sequence.isEmpty then none else (trie.find? sequence).bind trie.kind?

/-- Climb from a node to the root, at most `fuel` times, putting the symbols on
the way in front of `symbols`. -/
def climb (trie : Trie) : (fuel : Nat) → NodeId → List Char → List Char
  | 0, _, symbols => symbols
  | fuel + 1, node, symbols =>
      if node = root then symbols
      else
        match trie.nodes[node]? with
        | none => symbols
        | some found =>
            match found.parent with
            | none => found.symbol :: symbols
            | some parent => trie.climb fuel parent (found.symbol :: symbols)

/-- The symbols that lead to a node, the first one first. -/
def symbolsTo (trie : Trie) (node : NodeId) : List Char :=
  trie.climb trie.nodes.size node []

def isEmpty (trie : Trie) : Bool :=
  trie.nodes.all fun node => node.children.isEmpty

def nodeCount (trie : Trie) : Nat :=
  trie.nodes.size

/-! ## Insertion -/

/-- The child of `parent` along `symbol`, created when there is none. -/
def descend (trie : Trie) (parent : NodeId) (symbol : Char) : NodeId × Trie :=
  match trie.advance parent symbol with
  | some child => (child, trie)
  | none =>
      let child := trie.nodes.size
      let node : Node := { symbol, parent := some parent, depth := trie.depth parent + 1 }
      let linked := trie.nodes.modify parent fun found =>
        { found with children := (symbol, child) :: found.children }
      (child, ⟨linked.push node⟩)

def descendAll (trie : Trie) : NodeId → List Char → NodeId × Trie
  | node, [] => (node, trie)
  | node, symbol :: rest =>
      let (child, grown) := trie.descend node symbol
      grown.descendAll child rest

def modifyNode (trie : Trie) (node : NodeId) (change : Node → Node) : Trie :=
  ⟨trie.nodes.modify node change⟩

/-- Insert a sequence that ends in `kind` and, if given, bind a literal reader to
it.  A sequence keeps the kind and the reader that it had first: inserting it
again with the same ones is accepted, with others it is refused. -/
def insert (trie : Trie) (sequence : String) (kind : Kind) (binding : Option Nat) :
    Except InsertError NodeId × Trie :=
  if sequence.isEmpty then (.error .emptySequence, trie)
  else
    let (node, grown) := trie.descendAll root sequence.toList
    match (grown.kind? node).filter (· ≠ kind) with
    | some existing => (.error (.kindConflict sequence existing kind), grown)
    | none =>
        let ended := grown.modifyNode node fun found => { found with kind := some kind }
        match binding with
        | none => (.ok node, ended)
        | some reader =>
            match (ended.binding? node).filter (· ≠ reader) with
            | some _ => (.error (.bindingConflict sequence), ended)
            | none =>
                (.ok node, ended.modifyNode node fun found => { found with binding := some reader })

end Trie

end Lexing
