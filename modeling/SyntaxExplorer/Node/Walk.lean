import SyntaxExplorer.Node

/-!
# SyntaxExplorer.Node.Walk

**Every node of a program in the order in which it is shown**, with its depth: a
node, its primary slot and its secondary slot one level deeper, its successor
slot at its own level, then the next node of its chain. So the body of a
function stands at the level of the function.

The walk keeps the chains it still has to visit on a stack of its own, so the
depth of a tree does not bound it. Visiting a node takes its weight off that
stack and puts at most its slots' weight back (`Node.weight_eq`).
-/

namespace SyntaxExplorer

/-- A chain of nodes still to be visited, and its depth. -/
structure PendingChain where
  nodes : List Node
  depth : Nat

namespace PendingChain

/-- What a stack of chains still costs to visit. -/
def cost : List PendingChain → Nat
  | [] => 0
  | chain :: stack => Node.weights chain.nodes + 1 + cost stack

/-- The chains that a node opens, the first one to be visited first. -/
def slots (n : Node) (depth : Nat) : List PendingChain :=
  [⟨n.primary, depth + 1⟩, ⟨n.secondary, depth + 1⟩, ⟨n.successor, depth⟩]

@[simp] theorem cost_cons (chain : PendingChain) (stack : List PendingChain) :
    cost (chain :: stack) = Node.weights chain.nodes + 1 + cost stack := rfl

/-- Visiting a node makes the stack cheaper. -/
theorem cost_visit_lt (n : Node) (ns : List Node) (depth : Nat) (stack : List PendingChain) :
    cost (slots n depth ++ ⟨ns, depth⟩ :: stack) < cost (⟨n :: ns, depth⟩ :: stack) := by
  have := n.weight_eq
  simp only [slots, List.cons_append, List.nil_append, cost_cons, Node.weights_cons]
  omega

end PendingChain

open PendingChain in
/-- Visit every node of the pending chains, carrying a result along. -/
def visitAll {β : Type} (visit : β → Node → Nat → β) : List PendingChain → β → β
  | [], result => result
  | ⟨[], _⟩ :: stack, result => visitAll visit stack result
  | ⟨n :: ns, depth⟩ :: stack, result =>
    visitAll visit (slots n depth ++ ⟨ns, depth⟩ :: stack) (visit result n depth)
termination_by stack => cost stack
decreasing_by
  · simp
  · exact cost_visit_lt n ns depth stack

/-- The chain of the functions of a program. -/
def Program.topLevel (p : Program) : List Node := p.functions.map .function

/-- Visit every node of a program in order, with its depth. -/
def Program.visit {β : Type} (p : Program) (visit : β → Node → Nat → β) (start : β) : β :=
  visitAll visit [⟨p.topLevel, 0⟩] start

/-- Every node of a program in order, with its depth. -/
def Program.nodes (p : Program) : List (Node × Nat) :=
  (p.visit (fun seen n depth => (n, depth) :: seen) []).reverse

/-- Every expression that a statement of the program holds, in order. -/
def Program.exprs (p : Program) : List Expr :=
  p.nodes.filterMap fun
    | (.statement s, _) => s.expr?
    | _ => none

end SyntaxExplorer
