import Lexing.Trie

/-!
# Frozen tries

A trie that takes no further sequences is laid out flat.  The edges of all nodes stand in
one array, those of one node next to each other and in the order of their symbols, so that
an edge is found by bisection.  The nodes keep their numbers.
-/

namespace Lexing.Trie

/-- The orders in which the nodes of a trie hand out their edges.  They are arbitrary, but
no edge is lost or made up. -/
structure Listing where
  list : NodeId → List (Char × NodeId) → List (Char × NodeId)
  perm : ∀ node edges, (list node edges).Perm edges

namespace Frozen

/-- One node.  Its edges have the indices from `edgesStart` up to but not including
`edgesStop`. -/
structure Node where
  symbol : Char
  parent : Option NodeId
  edgesStart : Nat
  edgesStop : Nat
  depth : Nat
  kind : Option Kind
  binding : Option Nat
deriving Repr, DecidableEq, Inhabited

/-- Look for a symbol among the sorted edges with an index from `start` up to but not
including `stop`. -/
def search (edges : Array (Char × NodeId)) (symbol : Char) (start stop : Nat) : Option NodeId :=
  if start < stop then
    let middle := start + (stop - start) / 2
    match edges[middle]? with
    | none => none
    | some (found, child) =>
        if found = symbol then some child
        else if found < symbol then search edges symbol (middle + 1) stop
        else search edges symbol start middle
  else none
termination_by stop - start

/-- Edges in the order of their symbols. -/
def sortEdges (edges : List (Char × NodeId)) : List (Char × NodeId) :=
  edges.mergeSort fun first second => first.1 ≤ second.1

end Frozen

/-- A trie that takes no further sequences. -/
structure Frozen where
  nodes : Array Frozen.Node := #[]
  edges : Array (Char × NodeId) := #[]
deriving Repr, DecidableEq

namespace Frozen

def advance (frozen : Frozen) (node : NodeId) (symbol : Char) : Option NodeId :=
  frozen.nodes[node]?.bind fun found =>
    search frozen.edges symbol found.edgesStart found.edgesStop

def walkFrom (frozen : Frozen) : NodeId → List Char → Option NodeId
  | node, [] => some node
  | node, symbol :: rest =>
      match frozen.advance node symbol with
      | some next => frozen.walkFrom next rest
      | none => none

def find? (frozen : Frozen) (sequence : List Char) : Option NodeId :=
  frozen.walkFrom root sequence

def kind? (frozen : Frozen) (node : NodeId) : Option Kind :=
  frozen.nodes[node]?.bind Node.kind

def binding? (frozen : Frozen) (node : NodeId) : Option Nat :=
  frozen.nodes[node]?.bind Node.binding

def hasChildren (frozen : Frozen) (node : NodeId) : Bool :=
  frozen.nodes[node]?.any fun found => found.edgesStart < found.edgesStop

def depth (frozen : Frozen) (node : NodeId) : Nat :=
  (frozen.nodes[node]?.map Node.depth).getD 0

/-- Climb from a node to the root, at most `fuel` times, putting the symbols on
the way in front of `symbols`. -/
def climb (frozen : Frozen) : (fuel : Nat) → NodeId → List Char → List Char
  | 0, _, symbols => symbols
  | fuel + 1, node, symbols =>
      if node = root then symbols
      else
        match frozen.nodes[node]? with
        | none => symbols
        | some found =>
            match found.parent with
            | none => found.symbol :: symbols
            | some parent => frozen.climb fuel parent (found.symbol :: symbols)

def symbolsTo (frozen : Frozen) (node : NodeId) : List Char :=
  frozen.climb frozen.nodes.size node []

def nodeCount (frozen : Frozen) : Nat :=
  frozen.nodes.size

def isEmpty (frozen : Frozen) : Bool :=
  frozen.edges.isEmpty

/-- Lay out one more node with the edges that it handed out. -/
def add (frozen : Frozen) (node : Trie.Node) (handed : List (Char × NodeId)) : Frozen :=
  let edges := frozen.edges ++ (sortEdges handed).toArray
  { nodes := frozen.nodes.push {
      symbol := node.symbol
      parent := node.parent
      edgesStart := frozen.edges.size
      edgesStop := edges.size
      depth := node.depth
      kind := node.kind
      binding := node.binding }
    edges }

end Frozen

/-- Lay a trie out flat. -/
def freeze (trie : Trie) (listing : Listing) : Frozen :=
  trie.nodes.toList.foldl
    (fun frozen node => frozen.add node (listing.list frozen.nodes.size node.children)) {}

end Lexing.Trie
