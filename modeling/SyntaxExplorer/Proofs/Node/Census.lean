import Mathlib
import SyntaxExplorer.Proofs.Node.Outline
import SyntaxExplorer.Proofs.Node.Release

/-!
# SyntaxExplorer.Proofs.Node.Census

**A walk and a release see the same nodes.** The walk goes along the slots of a
node, parents first; the release takes the parts of a node apart, children
first, in chains of another make. The kinds that they come across are the same,
each as often (`release_perm_nodes`), so the counts of a census, the report of a
release and the lines of an outline agree.

A slot below a node holds no functions, so below a function the two orders
differ in the order alone. In the top chain the statements of a function, which
are its successor slot for the walk, are members of the chain for the release
(`postOrder_topLevel_perm`).

Each visit adds one to the total of a `Census` and one to the counter of one kind
(`Census.count_add`), so the total is the sum of the counters at any time of the walk
(`Census.Balanced.add`), and at its end (`Census.balanced_ofProgram`).
-/

namespace SyntaxExplorer

open Node Linked

/-! ### Kinds in either order -/

/-- The kinds of some nodes. -/
def kindsOf (xs : List (Node × Nat)) : List NodeKind := xs.map fun x => x.1.kind

@[simp] theorem kindsOf_nil : kindsOf [] = [] := rfl

@[simp] theorem kindsOf_cons (x : Node × Nat) (xs : List (Node × Nat)) :
    kindsOf (x :: xs) = x.1.kind :: kindsOf xs := rfl

@[simp] theorem kindsOf_append (xs ys : List (Node × Nat)) :
    kindsOf (xs ++ ys) = kindsOf xs ++ kindsOf ys :=
  List.map_append

namespace Linked

/-- The `postOrder` of a chain in two pieces has the kinds of the pieces. -/
theorem postOrder_append_perm (ns ms : List Node) :
    (ofChain (ns ++ ms)).postOrder.Perm ((ofChain ns).postOrder ++ (ofChain ms).postOrder) := by
  rw [List.perm_iff_count]
  intro kind
  induction ns with
  | nil => simp [postOrder]
  | cons n ns ih =>
      simp only [List.count_append] at ih
      simp only [List.cons_append, ofChain_cons, postOrder, List.count_append, ih]
      omega

/-- Without successors, `Node.preOrder` and `postOrder` have the same kinds. -/
theorem postOrder_perm_preOrder (depth : Nat) (ns : List Node)
    (h : ∀ n ∈ ns, n.successor = []) :
    (ofChain ns).postOrder.Perm (kindsOf (preOrder depth ns)) := by
  rw [List.perm_iff_count]
  intro kind
  fun_induction preOrder depth ns with
  | case1 => simp [postOrder]
  | case2 depth n ns ihp ihs _ ihr =>
      rw [List.forall_mem_cons] at h
      have hp := ihp fun m => successor_of_mem_primary
      have hs := ihs fun m => successor_of_mem_secondary
      have hr := ihr h.2
      simp only [ofChain_cons, postOrder, h.1, preOrder_nil, List.nil_append, kindsOf_cons,
        kindsOf_append, List.count_append, List.count_cons, List.count_nil, hp, hs, hr]
      omega

/-- The statements of a function belong to it for the walk and follow it for the
release. -/
theorem postOrder_topLevel_perm (functions : List Function) :
    (ofChain (functions.flatMap fun f => function f :: f.body.map statement)).postOrder.Perm
      (kindsOf (preOrder 0 (functions.map function))) := by
  rw [List.perm_iff_count]
  intro kind
  induction functions with
  | nil => simp [postOrder]
  | cons f functions ih =>
      have hp := (postOrder_perm_preOrder 1 (function f).primary
        fun m => successor_of_mem_primary).count_eq kind
      have hs := (postOrder_perm_preOrder 1 (function f).secondary
        fun m => successor_of_mem_secondary).count_eq kind
      have hbody := (postOrder_perm_preOrder 0 (f.body.map statement) (by
        intro m hm
        obtain ⟨s, -, rfl⟩ := List.mem_map.1 hm
        rfl)).count_eq kind
      have hsplit := (postOrder_append_perm (f.body.map statement)
        (functions.flatMap fun f => function f :: f.body.map statement)).count_eq kind
      have hsuccessor : (function f).successor = f.body.map statement := rfl
      simp only [List.count_append] at hsplit
      simp only [List.flatMap_cons, List.cons_append, ofChain_cons, postOrder, List.map_cons,
        preOrder_cons, kindsOf_cons, kindsOf_append, List.count_append, List.count_cons,
        List.count_nil, hsuccessor, Nat.zero_add, hp, hs, hbody, hsplit, ih]
      omega

end Linked

namespace Program

/-- `Release.run` tells any observer the kinds of `Program.linked`. -/
theorem run_topLevel {β : Type} (p : Program) (observe : β → NodeKind → β) (seen : β) :
    Release.run observe (Release.chain (Release.topLevel p) id).toList seen 0 =
      (p.linked.postOrder.foldl observe seen, p.linked.postOrder.length) := by
  have hchain : ofChain ((Release.topLevel p).map fun part => (id part).node) = p.linked :=
    Release.ofChain_topLevel p
  rw [Release.run_eq_order, Release.order_chain, hchain, Nat.zero_add]

theorem release_eq (p : Program) : p.release = p.linked.postOrder := by
  simp only [Program.release, releaseTree, releaseWith, run_topLevel]
  rw [List.foldl_flip_cons_eq_append]
  simp

/-- Every observer is told the kinds of `Program.release`, and the report counts them. -/
theorem releaseWith_eq_foldl_release {β : Type} (p : Program) (observe : β → NodeKind → β)
    (seen : β) :
    releaseWith (some p) observe seen = (p.release.foldl observe seen, ⟨p.release.length⟩) := by
  rw [release_eq]
  simp only [releaseWith, run_topLevel]

theorem release_perm_kindsOf (p : Program) : p.release.Perm (kindsOf p.nodes) := by
  rw [release_eq, nodes_eq]
  exact postOrder_topLevel_perm p.functions

end Program

/-! ### The census -/

namespace Counters

/-- `Counters.add` makes one counter one higher, and all others show what they did. -/
theorem get_add (counters : Counters) (kind other : NodeKind) :
    (counters.add kind).get other = counters.get other + if kind = other then 1 else 0 := by
  induction counters with
  | nil => simp [add, get]
  | cons counter counters ih =>
      rw [add, get]
      by_cases hseen : counter.1 = kind
      · rw [if_pos hseen, get, hseen]
        split <;> rfl
      · rw [if_neg hseen, get, ih]
        by_cases hother : counter.1 = other
        · simp [hother, Ne.symm (hother ▸ hseen)]
        · simp [hother]

end Counters

namespace Census

@[simp] theorem count_empty (kind : NodeKind) : empty.count kind = 0 := rfl

/-- `Census.add` counts a node once, and under its kind. -/
theorem count_add (census : Census) (n : Node) (depth : Nat) (kind : NodeKind) :
    (census.add n depth).count kind = census.count kind + if n.kind = kind then 1 else 0 :=
  Counters.get_add census.counters n.kind kind

@[simp] theorem total_add (census : Census) (n : Node) (depth : Nat) :
    (census.add n depth).total = census.total + 1 := rfl

/-- The `total` is what all counters show together. -/
def Balanced (census : Census) : Prop := census.total = (NodeKind.all.map census.count).sum

/-- `Census.add` adds one to the `total` and to one of the counters. -/
theorem Balanced.add {census : Census} (h : census.Balanced) (n : Node) (depth : Nat) :
    (census.add n depth).Balanced := by
  have hone : (NodeKind.all.map fun kind => if n.kind = kind then 1 else 0).sum = 1 := by
    cases n.kind <;> rfl
  unfold Balanced at h ⊢
  rw [total_add, funext (census.count_add n depth), List.sum_map_add, hone, h]

/-- The total of a census is what its counters show together (`Census.Balanced`). -/
theorem balanced_ofProgram (p : Program) : (ofProgram p).Balanced :=
  p.visit_induction rfl fun _ n depth h => h.add n depth

theorem ofProgram_eq_foldl (p : Program) :
    ofProgram p = p.nodes.foldl (fun census x => census.add x.1 x.2) empty :=
  p.visit_eq_foldl_nodes add empty

theorem count_ofProgram (p : Program) (kind : NodeKind) :
    (ofProgram p).count kind = (kindsOf p.nodes).count kind := by
  have hfold : ∀ (xs : List (Node × Nat)) (census : Census),
      (xs.foldl (fun census x => census.add x.1 x.2) census).count kind =
        census.count kind + (kindsOf xs).count kind := by
    intro xs
    induction xs with
    | nil => simp
    | cons x xs ih =>
        intro census
        rw [List.foldl_cons, ih, count_add, kindsOf_cons, List.count_cons]
        simp only [beq_iff_eq]
        omega
  rw [ofProgram_eq_foldl, hfold, count_empty, Nat.zero_add]

theorem total_ofProgram (p : Program) : (ofProgram p).total = p.nodes.length := by
  have hfold : ∀ (xs : List (Node × Nat)) (census : Census),
      (xs.foldl (fun census x => census.add x.1 x.2) census).total =
        census.total + xs.length := by
    intro xs
    induction xs with
    | nil => simp
    | cons x xs ih =>
        intro census
        rw [List.foldl_cons, ih, total_add, List.length_cons]
        omega
  rw [ofProgram_eq_foldl, hfold]
  exact Nat.zero_add _

theorem maxDepth_ofProgram (p : Program) :
    (ofProgram p).maxDepth = (p.nodes.map Prod.snd).foldl max 0 := by
  rw [ofProgram_eq_foldl, List.foldl_map]
  exact (List.foldl_hom maxDepth fun _ _ => rfl).symm

theorem le_foldl_max (depths : List Nat) (start : Nat) :
    start ≤ depths.foldl max start ∧ ∀ depth ∈ depths, depth ≤ depths.foldl max start := by
  induction depths generalizing start with
  | nil => simp
  | cons depth depths ih =>
      obtain ⟨hstart, hrest⟩ := ih (max start depth)
      rw [List.foldl_cons, List.forall_mem_cons]
      exact ⟨by omega, by omega, hrest⟩

/-- No node is deeper than `maxDepth`. -/
theorem le_maxDepth {p : Program} {x : Node × Nat} (h : x ∈ p.nodes) :
    x.2 ≤ (ofProgram p).maxDepth := by
  rw [maxDepth_ofProgram]
  exact (le_foldl_max _ 0).2 _ (List.mem_map_of_mem h)

/-- As many lines of an outline carry a label (`Outline.labelOf`) as the census has nodes of
its kind. -/
theorem countP_lines_outline {p : Program} (h : p.OneLined) (indent : Nat) (kind : NodeKind) :
    (Text.lines (p.outline indent).toList).countP
      (fun line => Outline.labelOf line == kind.label.toList) = (ofProgram p).count kind := by
  rw [Outline.lines_outline h, List.countP_map, count_ofProgram, kindsOf, List.count,
    List.countP_map]
  refine List.countP_congr fun x _ => ?_
  simp only [Function.comp, Outline.labelOf_closeLine_content, beq_iff_eq, String.toList_inj]
  exact ⟨fun hlabel => NodeKind.label_inj hlabel, fun hkind => congrArg NodeKind.label hkind⟩

end Census

/-- **A walk and a release see the same nodes**: `Program.release` has the kinds that a walk
visits (`Program.nodes`), in another order. So every observer hears of a kind as often as the
`Census` counts it, the report is the total of the census, which is the sum of its counts, and
where no text holds a line feed (`Program.OneLined`), an outline has one line for each node,
which carries the label of its kind. -/
theorem release_perm_nodes (p : Program) :
    p.release.Perm (p.nodes.map fun x => x.1.kind) ∧
      (∀ kind, p.release.count kind = (Census.ofProgram p).count kind) ∧
      (∀ {β : Type} (observe : β → NodeKind → β) (seen : β),
        releaseWith (some p) observe seen =
          (p.release.foldl observe seen, ⟨(Census.ofProgram p).total⟩)) ∧
      (Census.ofProgram p).total = (NodeKind.all.map (Census.ofProgram p).count).sum ∧
      (p.OneLined →
        (Text.lines (p.outline Outline.defaultIndent).toList).length =
          (Census.ofProgram p).total ∧
        ∀ kind, (Text.lines (p.outline Outline.defaultIndent).toList).countP
          (fun line => Outline.labelOf line == kind.label.toList) =
            (Census.ofProgram p).count kind) := by
  have hperm := p.release_perm_kindsOf
  refine ⟨hperm, ?_, ?_, ?_, ?_⟩
  · intro kind
    rw [Census.count_ofProgram, hperm.count_eq]
  · intro β observe seen
    rw [p.releaseWith_eq_foldl_release, Census.total_ofProgram, hperm.length_eq, kindsOf,
      List.length_map]
  · exact Census.balanced_ofProgram p
  · intro h
    refine ⟨?_, Census.countP_lines_outline h Outline.defaultIndent⟩
    rw [Outline.lines_outline h, List.length_map, Census.total_ofProgram]

/-- A sum whose operands were taken away keeps two vacant leaves, and each of
them is a line. -/
theorem lines_outline_of_vacant :
    (⟨[⟨"f", .int, [], [.returnValue (some (.binary .add .vacant .vacant .start)) .start],
      .start⟩]⟩ : Program).OneLined ∧
    (Text.lines (Program.outline ⟨[⟨"f", .int, [],
      [.returnValue (some (.binary .add .vacant .vacant .start)) .start], .start⟩]⟩
        Outline.defaultIndent).toList).length = 6 := by
  have hlines : (⟨[⟨"f", .int, [],
      [.returnValue (some (.binary .add .vacant .vacant .start)) .start], .start⟩]⟩ :
      Program).OneLined := by
    decide
  obtain ⟨-, -, -, -, houtline⟩ := release_perm_nodes ⟨[⟨"f", .int, [],
    [.returnValue (some (.binary .add .vacant .vacant .start)) .start], .start⟩]⟩
  refine ⟨hlines, (houtline hlines).1.trans ?_⟩
  rw [Census.total_ofProgram, Program.nodes_eq]
  simp [Program.topLevel, primary, secondary, successor, ofExpr?, Expr.vacant]

end SyntaxExplorer
