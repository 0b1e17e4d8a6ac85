import SyntaxExplorer.Node.Walk

/-!
# SyntaxExplorer.Node.Census

**How many nodes of each kind a program has**, and how deep they stand. A walk over the
program adds each node to the counter of its kind (`Counters.add`) and to the total, and
keeps the greatest depth (`Census.add`).
-/

namespace SyntaxExplorer

/-- A counter for each kind that was seen so far. -/
abbrev Counters := List (NodeKind × Nat)

namespace Counters

/-- What the counter of a kind shows, which is nothing before the kind is seen. -/
def get : Counters → NodeKind → Nat
  | [], _ => 0
  | (seen, n) :: counters, kind => if seen = kind then n else get counters kind

/-- Add one to the counter of a kind. -/
def add : Counters → NodeKind → Counters
  | [], kind => [(kind, 1)]
  | (seen, n) :: counters, kind =>
    if seen = kind then (seen, n + 1) :: counters else (seen, n) :: add counters kind

end Counters

/-- The counters of the kinds, the number of all nodes, and the depth of the deepest. -/
structure Census where
  counters : Counters
  total : Nat
  maxDepth : Nat

namespace Census

/-- No node was seen yet. -/
def empty : Census := ⟨[], 0, 0⟩

/-- Count one more node. -/
def add (census : Census) (n : Node) (depth : Nat) : Census :=
  ⟨census.counters.add n.kind, census.total + 1, max census.maxDepth depth⟩

/-- The census of a program. -/
def ofProgram (p : Program) : Census := p.visit add empty

/-- The number of nodes of one kind. -/
def count (census : Census) (kind : NodeKind) : Nat := census.counters.get kind

/-- The kinds that occur, in order, with their counts. -/
def counts (census : Census) : List (NodeKind × Nat) :=
  (NodeKind.all.map fun kind => (kind, census.count kind)).filter fun entry => 0 < entry.2

/-- A label filled up with spaces to twelve characters. -/
def paddedLabel (kind : NodeKind) : String :=
  kind.label ++ String.ofList (List.replicate (12 - kind.label.length) ' ')

/-- The census as lines for a reader. -/
def text (census : Census) : String :=
  s!"nodes: {census.total} (max depth {census.maxDepth})\n" ++
    String.join (census.counts.map fun (kind, n) => s!"  {paddedLabel kind} {n}\n")

end Census

end SyntaxExplorer
