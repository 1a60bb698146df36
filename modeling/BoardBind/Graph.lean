/-! # Directed graphs with numbered nodes

Nodes are numbered in the order in which they were added. Edges are kept in insertion order and
without repetition; an edge from a node to itself is allowed. `walk` lists every path from a node
in preorder, and stops at the first node that it meets again on its current path.
-/

namespace BoardBind

/-- A directed graph over labels. -/
structure Graph (α : Type) where
  labels : List α := []
  edges : List (Nat × Nat) := []

/-- The outcome of adding an edge. -/
inductive EdgeStatus where
  | added
  | repeated
  | missingSource
  | missingTarget
  deriving DecidableEq

namespace Graph

variable {α : Type}

def empty : Graph α := {}

def nodeCount (g : Graph α) : Nat :=
  g.labels.length

def edgeCount (g : Graph α) : Nat :=
  g.edges.length

/-- Adds a node, which gets the next number. -/
def addNode (g : Graph α) (label : α) : Graph α :=
  { g with labels := g.labels ++ [label] }

def label? (g : Graph α) (node : Nat) : Option α :=
  g.labels[node]?

def hasEdge (g : Graph α) (source target : Nat) : Bool :=
  g.edges.contains (source, target)

/-- What adding an edge would do: both ends must exist, and the edge must be new. -/
def edgeStatus (g : Graph α) (source target : Nat) : EdgeStatus :=
  if g.nodeCount ≤ source then .missingSource
  else if g.nodeCount ≤ target then .missingTarget
  else if g.hasEdge source target then .repeated
  else .added

/-- Adds an edge if it can be added. -/
def addEdge (g : Graph α) (source target : Nat) : Graph α :=
  match g.edgeStatus source target with
  | .added => { g with edges := g.edges ++ [(source, target)] }
  | _ => g

/-- The targets of the edges from a node, in insertion order. -/
def successors (g : Graph α) (source : Nat) : List Nat :=
  g.edges.filterMap fun (s, t) => if s = source then some t else none

def inDegree (g : Graph α) (target : Nat) : Nat :=
  g.edges.countP fun (_, t) => t = target

/-- The nodes that no edge leads to, in ascending order. -/
def roots (g : Graph α) : List Nat :=
  (List.range g.nodeCount).filter fun node => g.inDegree node = 0

/-- Walks down from a node, pairing every visited node with its depth. `free` holds the nodes
that are not on the current path; a node that is not free closes a cycle and is reported. -/
def walkFrom (g : Graph α) (free : List Nat) (node : Nat) : Except Nat (List (Nat × Nat)) :=
  if member : node ∈ free then
    have shorter : (free.erase node).length < free.length := by
      rw [List.length_erase_of_mem member]
      exact Nat.sub_lt (List.length_pos_of_mem member) Nat.one_pos
    ((g.successors node).mapM fun child => g.walkFrom (free.erase node) child).map fun subtrees =>
      (0, node) :: subtrees.flatten.map fun (depth, n) => (depth + 1, n)
  else .error node
termination_by free.length
decreasing_by exact shorter

/-- Walks down from a root: every path from it, by length and end node, in preorder. -/
def walk (g : Graph α) (root : Nat) : Except Nat (List (Nat × Nat)) :=
  g.walkFrom (List.range g.nodeCount) root

end Graph

end BoardBind
