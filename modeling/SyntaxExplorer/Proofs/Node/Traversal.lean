import Mathlib.Data.List.Chain
import Mathlib.Data.List.Nodup
import Mathlib.Logic.Function.Iterate
import SyntaxExplorer.Proofs.Node.Parts

/-!
# SyntaxExplorer.Proofs.Node.Traversal

**A walk is the recursive traversal, turn by turn** (`Program.visit_is_traversal`). The
loop of a walk holds a stack of chains. One turn drops a chain that is used up, or visits
the next node of the innermost chain and puts the chains in its slots on the stack
(`PendingChain.turn`). Every turn makes the stack cheaper by one (`cost_turn`), so the
loop takes as many turns as the stack costs: four for each node and one for the top chain.

Nodes that look alike can stand at several places of a tree, so what is visited once is a
place. A `Place` leads into a chain, along it and through slots. The traversal comes to
all places from which a node can be seen, and to none of them twice (`mem_places_iff`,
`nodup_places`).
-/

namespace SyntaxExplorer

open Node

/-! ### Turns of the loop -/

namespace PendingChain

variable {β : Type} (visit : β → Node → Nat → β)

/-- One turn of the loop of `visitAll`, on its stack and its result. With nothing on the stack
the loop is over. -/
def turn : List PendingChain × β → List PendingChain × β
  | ([], result) => ([], result)
  | (⟨[], _⟩ :: stack, result) => (stack, result)
  | (⟨n :: ns, depth⟩ :: stack, result) =>
    (slots n depth ++ ⟨ns, depth⟩ :: stack, visit result n depth)

theorem cost_eq_zero_iff (stack : List PendingChain) : cost stack = 0 ↔ stack = [] := by
  cases stack <;> simp [cost]

/-- A `turn` makes the stack cheaper by one (`PendingChain.cost`). -/
theorem cost_turn (s : List PendingChain × β) : cost (turn visit s).1 = cost s.1 - 1 := by
  obtain ⟨stack, result⟩ := s
  match stack with
  | [] => rfl
  | ⟨[], depth⟩ :: stack => simp [turn]
  | ⟨n :: ns, depth⟩ :: stack =>
      have hweight := n.weight_eq
      simp only [turn, slots, List.cons_append, List.nil_append, cost_cons, weights_cons]
      omega

/-- A `turn` does not change what `visitAll` comes to. -/
theorem visitAll_turn (s : List PendingChain × β) :
    visitAll visit (turn visit s).1 (turn visit s).2 = visitAll visit s.1 s.2 := by
  obtain ⟨stack, result⟩ := s
  match stack with
  | [] => rfl
  | ⟨[], depth⟩ :: stack => simp only [turn, visitAll]
  | ⟨n :: ns, depth⟩ :: stack => simp only [turn, visitAll]

theorem cost_iterate_turn (k : Nat) (s : List PendingChain × β) :
    cost ((turn visit)^[k] s).1 = cost s.1 - k := by
  induction k generalizing s with
  | zero => rfl
  | succ k ih =>
      rw [Function.iterate_succ_apply, ih, cost_turn]
      omega

theorem visitAll_iterate_turn (k : Nat) (s : List PendingChain × β) :
    visitAll visit ((turn visit)^[k] s).1 ((turn visit)^[k] s).2 = visitAll visit s.1 s.2 := by
  induction k generalizing s with
  | zero => rfl
  | succ k ih => rw [Function.iterate_succ_apply, ih, visitAll_turn]

/-- The loop is over after as many turns as `PendingChain.cost` says, and not earlier. -/
theorem iterate_turn_eq_nil_iff (k : Nat) (s : List PendingChain × β) :
    ((turn visit)^[k] s).1 = [] ↔ cost s.1 ≤ k := by
  rw [← cost_eq_zero_iff, cost_iterate_turn, Nat.sub_eq_zero_iff_le]

/-- When the loop is over, its result is that of `visitAll`. -/
theorem iterate_turn_eq {k : Nat} {s : List PendingChain × β} (h : cost s.1 ≤ k) :
    (turn visit)^[k] s = ([], visitAll visit s.1 s.2) := by
  have hnil := (iterate_turn_eq_nil_iff visit k s).2 h
  have hresult := visitAll_iterate_turn visit k s
  rw [hnil, visitAll] at hresult
  exact Prod.ext hnil hresult

end PendingChain

open PendingChain

namespace Node

/-- A chain weighs four for each node of its `preOrder` (`Node.weights`). -/
theorem weights_eq (depth : Nat) (ns : List Node) :
    weights ns = 4 * (preOrder depth ns).length := by
  fun_induction preOrder depth ns with
  | case1 => rfl
  | case2 depth n ns ihp ihs ihu ihr =>
      simp only [weights_cons, n.weight_eq, List.length_cons, List.length_append]
      omega

/-! ### Depths -/

/-- In `preOrder` the depth grows by one at most from a node to the next one, also where other
depths of this kind stand behind. -/
theorem isChain_depths {depth before : Nat} (hle : before ≤ depth) (hstep : depth ≤ before + 1)
    (ns : List Node) {behind : List Nat}
    (h : (before :: behind).IsChain fun d d' => d' ≤ d + 1) :
    (before :: ((preOrder depth ns).map Prod.snd ++ behind)).IsChain fun d d' => d' ≤ d + 1 := by
  fun_induction preOrder depth ns generalizing before behind with
  | case1 => exact h
  | case2 depth n ns ihp ihs ihu ihr =>
      -- What stands behind may as well stand behind the node.
      have hbehind : (depth :: behind).IsChain fun d d' => d' ≤ d + 1 := by
        rw [List.isChain_cons] at h ⊢
        exact ⟨fun d hd => (h.1 d hd).trans (by omega), h.2⟩
      have hr := ihr (Nat.le_refl depth) (Nat.le_succ depth) hbehind
      have hu := ihu (Nat.le_refl depth) (Nat.le_succ depth) hr
      have hs := ihs (Nat.le_succ depth) (Nat.le_refl _) hu
      have hp := ihp (Nat.le_succ depth) (Nat.le_refl _) hs
      simp only [List.map_cons, List.map_append, List.cons_append, List.append_assoc,
        List.isChain_cons_cons]
      exact ⟨hstep, hp⟩

end Node

/-! ### Places -/

/-- One of the slots of a node. -/
inductive Slot
  | primary | secondary | successor
  deriving Repr, DecidableEq

/-- What stands in the `Slot` of a node. -/
def Node.slot (n : Node) : Slot → List Node
  | .primary => n.primary
  | .secondary => n.secondary
  | .successor => n.successor

/-- A way into a chain. -/
inductive Place
  /-- To the first node of the chain. -/
  | first
  /-- Into a slot of the first node. -/
  | inside (slot : Slot) (place : Place)
  /-- Past the first node. -/
  | next (place : Place)
  deriving Repr, DecidableEq

namespace Place

/-- The node at a place of a chain, if the way leads to one. -/
def node? : Place → List Node → Option Node
  | _, [] => none
  | first, n :: _ => some n
  | inside slot place, n :: _ => place.node? (n.slot slot)
  | next place, _ :: ns => place.node? ns

/-- How many levels below the chain the place is. -/
def depth : Place → Nat
  | first => 0
  | inside .successor place => place.depth
  | inside _ place => place.depth + 1
  | next place => place.depth

end Place

namespace Node

/-- The places of a chain at which a node stands, in the order of `preOrder`. -/
def places : List Node → List Place
  | [] => []
  | n :: ns =>
    .first :: ((places n.primary).map (.inside .primary) ++
      ((places n.secondary).map (.inside .secondary) ++
        ((places n.successor).map (.inside .successor) ++ (places ns).map .next)))
termination_by ns => weights ns
decreasing_by
  all_goals
    have := n.weight_eq
    simp only [weights_cons]
    omega

/-- At the `places` of a chain stand the nodes of its `preOrder`. -/
theorem map_places (depth : Nat) (ns : List Node) :
    ((places ns).map fun place => (place.node? ns, depth + place.depth)) =
      (preOrder depth ns).map fun x => (some x.1, x.2) := by
  fun_induction preOrder depth ns with
  | case1 => simp [places]
  | case2 depth n ns ihp ihs ihu ihr =>
      rw [places]
      simp only [List.map_cons, List.map_append, List.map_map, ← ihp, ← ihs, ← ihu, ← ihr]
      simp [Function.comp_def, Place.node?, Place.depth, slot, Nat.add_assoc, Nat.add_comm]

/-- The `places` of a chain are those at which a node stands (`Place.node?`). -/
theorem mem_places_iff (place : Place) (ns : List Node) :
    place ∈ places ns ↔ (place.node? ns).isSome := by
  induction place generalizing ns with
  | first => cases ns <;> simp [places, Place.node?]
  | next place ih => cases ns <;> simp [places, Place.node?, ih]
  | inside slot place ih =>
      cases ns with
      | nil => simp [places, Place.node?]
      | cons n ns => cases slot <;> simp [places, Place.node?, Node.slot, ih]

/-- No place of a chain is listed twice in `places`. -/
theorem nodup_places (ns : List Node) : (places ns).Nodup := by
  fun_induction places ns with
  | case1 => exact List.nodup_nil
  | case2 n ns ihp ihs ihu ihr =>
      have hinside : ∀ slot, Function.Injective (Place.inside slot) := by
        intro slot place place' h
        exact (Place.inside.inj h).2
      have hnext : Function.Injective Place.next := fun _ _ => Place.next.inj
      -- A place behind says by which slot it goes, or that it goes past the node.
      simp only [List.nodup_cons, List.nodup_append, List.nodup_map_iff (hinside _),
        List.nodup_map_iff hnext, List.mem_append, List.mem_map, ihp, ihs, ihu, ihr]
      grind

end Node

/-- **A walk is the recursive traversal.** For any visitor and any start, the loop of
`Program.visit` is over after four turns for each node and one more, and not earlier (`turn`),
and what it has come to is what the visitor makes of the nodes in the order of `Node.preOrder`.
The nodes it comes to are `Program.parts`. They stand at the `places` of the top chain that
hold a node, each place once and at its own depth, and wherever the depth grows from one node
to the next, it grows by one. -/
theorem Program.visit_is_traversal (p : Program) :
    (∀ {β : Type} (visit : β → Node → Nat → β) (start : β),
      p.visit visit start =
        (preOrder 0 p.topLevel).foldl (fun seen x => visit seen x.1 x.2) start ∧
      (∀ k, ((turn visit)^[k] ([⟨p.topLevel, 0⟩], start)).1 = [] ↔ 4 * p.nodes.length + 1 ≤ k) ∧
      (turn visit)^[4 * p.nodes.length + 1] ([⟨p.topLevel, 0⟩], start) =
        ([], p.visit visit start)) ∧
    p.nodes = preOrder 0 p.topLevel ∧
    p.nodes.map Prod.fst = p.parts ∧
    (∃ places : List Place, places.Nodup ∧
      (∀ place, place ∈ places ↔ (place.node? p.topLevel).isSome) ∧
      p.nodes.map (fun x => (some x.1, x.2)) =
        places.map fun place => (place.node? p.topLevel, place.depth)) ∧
    p.nodes.IsChain fun x y => x.2 < y.2 → y.2 = x.2 + 1 := by
  have hcost : cost [⟨p.topLevel, 0⟩] = 4 * p.nodes.length + 1 := by
    rw [nodes_eq, ← weights_eq]
    rfl
  refine ⟨?_, p.nodes_eq, p.map_fst_nodes, ?_, ?_⟩
  · intro β visit start
    refine ⟨p.visit_eq_foldl visit start, fun k => ?_, ?_⟩
    · rw [iterate_turn_eq_nil_iff, hcost]
    · rw [iterate_turn_eq visit hcost.le]
      rfl
  · refine ⟨places p.topLevel, nodup_places _, fun place => mem_places_iff place _, ?_⟩
    have hplaces := map_places 0 p.topLevel
    simp only [Nat.zero_add] at hplaces
    rw [nodes_eq, hplaces]
  · have hdepths : (0 :: ((preOrder 0 p.topLevel).map Prod.snd ++ [])).IsChain
        fun d d' => d' ≤ d + 1 :=
      isChain_depths (Nat.le_refl 0) (Nat.le_succ 0) p.topLevel (List.isChain_singleton 0)
    rw [List.append_nil, ← p.nodes_eq] at hdepths
    refine ((List.isChain_map Prod.snd).1 hdepths.tail).imp ?_
    intro x y hle hlt
    omega

end SyntaxExplorer
