import SyntaxExplorer.Node.Census
import SyntaxExplorer.Node.Outline

/-!
# SyntaxExplorer.Proofs.Node.Walk

**The walk visits the nodes in the order of the recursive traversal**: a node,
what is below its primary slot, what is below its secondary slot, its successor
slot, then the rest of its chain (`Node.preOrder`).

The walk keeps partly visited chains on a stack, and what is still to be visited
is the traversal of those chains, the innermost one first (`visitAll_eq_foldl`).
All views that are made by a walk are stated over the list of the nodes: the
outline is the lines of the nodes, the census their kinds and the greatest of
their depths.
-/

namespace SyntaxExplorer

namespace Node

/-- The nodes of a chain that stands at this depth, one after the other: each one, what is
below its slots `primary` and `secondary`, and its `successor`. -/
def preOrder (depth : Nat) : List Node → List (Node × Nat)
  | [] => []
  | n :: ns =>
    (n, depth) :: (preOrder (depth + 1) n.primary ++ (preOrder (depth + 1) n.secondary ++
      (preOrder depth n.successor ++ preOrder depth ns)))
termination_by ns => weights ns
decreasing_by
  all_goals
    have := n.weight_eq
    simp only [weights_cons]
    omega

@[simp] theorem preOrder_nil (depth : Nat) : preOrder depth [] = [] := by
  rw [preOrder]

@[simp] theorem preOrder_cons (depth : Nat) (n : Node) (ns : List Node) :
    preOrder depth (n :: ns) =
      (n, depth) :: (preOrder (depth + 1) n.primary ++ (preOrder (depth + 1) n.secondary ++
        (preOrder depth n.successor ++ preOrder depth ns))) := by
  rw [preOrder]

theorem preOrder_append (depth : Nat) (ns ms : List Node) :
    preOrder depth (ns ++ ms) = preOrder depth ns ++ preOrder depth ms := by
  induction ns with
  | nil => simp
  | cons n ns ih => simp only [List.cons_append, preOrder_cons, ih, List.append_assoc]

/-- The nodes in the slots of a node. -/
def slots (n : Node) : List Node := n.primary ++ (n.secondary ++ n.successor)

/-- What holds of the nodes of a chain, and of the nodes in the `slots` of every node that it
holds of, holds of all nodes of the `preOrder`. -/
theorem forall_mem_preOrder {motive : Node → Prop}
    (hslots : ∀ n, motive n → ∀ m ∈ n.slots, motive m) (depth : Nat) (ns : List Node)
    (h : ∀ n ∈ ns, motive n) : ∀ x ∈ preOrder depth ns, motive x.1 := by
  fun_induction preOrder depth ns with
  | case1 => simp
  | case2 depth n ns ihp ihs ihu ihr =>
      rw [List.forall_mem_cons] at h
      have hbelow := hslots n h.1
      simp only [slots, List.forall_mem_append] at hbelow
      simp only [List.forall_mem_cons, List.forall_mem_append]
      exact ⟨h.1, ihp hbelow.1, ihs hbelow.2.1, ihu hbelow.2.2, ihr h.2⟩

/-! Only functions have a successor slot, and they stand in the top chain only. -/

theorem successor_of_mem_primary {n m : Node} (h : m ∈ n.primary) : m.successor = [] := by
  unfold primary at h
  split at h <;> grind [successor]

theorem successor_of_mem_secondary {n m : Node} (h : m ∈ n.secondary) : m.successor = [] := by
  unfold secondary at h
  split at h <;> grind [successor, ofExpr?]

end Node

open Node

/-- `visitAll` goes on with the `preOrder` of the chains on its stack. -/
theorem visitAll_eq_foldl {β : Type} (visit : β → Node → Nat → β) (stack : List PendingChain)
    (result : β) :
    visitAll visit stack result =
      (stack.flatMap fun chain => preOrder chain.depth chain.nodes).foldl
        (fun seen x => visit seen x.1 x.2) result := by
  fun_induction visitAll visit stack result with
  | case1 result => rfl
  | case2 depth stack result ih => simpa using ih
  | case3 n ns depth stack result ih =>
      rw [ih]
      simp only [PendingChain.slots, List.cons_append, List.nil_append, List.flatMap_cons,
        preOrder_cons, List.foldl_cons, List.append_assoc]

namespace Program

/-- `Program.visit` goes over the nodes of a program in the order of `preOrder`. -/
theorem visit_eq_foldl {β : Type} (p : Program) (visit : β → Node → Nat → β) (start : β) :
    p.visit visit start =
      (preOrder 0 p.topLevel).foldl (fun seen x => visit seen x.1 x.2) start := by
  rw [Program.visit, visitAll_eq_foldl]
  simp

theorem nodes_eq (p : Program) : p.nodes = preOrder 0 p.topLevel := by
  rw [nodes, visit_eq_foldl, List.foldl_flip_cons_eq_append]
  simp

/-- `Program.visit` is a fold over `Program.nodes`. -/
theorem visit_eq_foldl_nodes {β : Type} (p : Program) (visit : β → Node → Nat → β) (start : β) :
    p.visit visit start = p.nodes.foldl (fun seen x => visit seen x.1 x.2) start := by
  rw [visit_eq_foldl, nodes_eq]

/-- What holds at the start of `Program.visit` and is kept by each visit holds at its end. -/
theorem visit_induction {β : Type} {motive : β → Prop} {visit : β → Node → Nat → β} {start : β}
    (p : Program) (hstart : motive start)
    (hvisit : ∀ result n depth, motive result → motive (visit result n depth)) :
    motive (p.visit visit start) := by
  rw [visit_eq_foldl_nodes]
  exact List.foldlRecOn p.nodes _ hstart fun result h x _ => hvisit result x.1 x.2 h

end Program

end SyntaxExplorer
